/-!
# Double-precision numbers

A number of the 64-bit binary format is a sign and a rank: the place of its magnitude among all
magnitudes of the format.  Rank zero is zero, each step of the rank is a step to the next larger
magnitude, one rank is infinity and the ranks above it stand for no number.  Comparison is therefore
comparison of signed ranks, and rounding is the search for the nearest rank.
-/

namespace FormLogic

/-- A double-precision number: its sign and the rank of its magnitude. -/
structure Binary64 where
  negative : Bool
  rank : Nat
  deriving DecidableEq, Repr, Inhabited

namespace Binary64

/-- The number of magnitudes in one binade. -/
def binade : Nat := Nat.pow 2 52

/-- The rank of infinity. -/
def infinityRank : Nat := 2047 * binade

def zero (negative : Bool) : Binary64 := ⟨negative, 0⟩

def infinity (negative : Bool) : Binary64 := ⟨negative, infinityRank⟩

/-- The value that stands for no number. -/
def notNumber : Binary64 := ⟨false, infinityRank + 1⟩

def isNotNumber (x : Binary64) : Bool := infinityRank < x.rank

def isFinite (x : Binary64) : Bool := x.rank < infinityRank

/-- The signed rank, in which order and equality of numbers are those of integers. -/
def ordinal (x : Binary64) : Int :=
  if x.negative then -(x.rank : Int) else x.rank

/-- The order of two numbers; what stands for no number is incomparable. -/
def compare? (x y : Binary64) : Option Ordering :=
  if x.isNotNumber || y.isNotNumber then none else some (compare x.ordinal y.ordinal)

/-- Numerical equality: the two zeroes are equal, and what stands for no number equals nothing. -/
def same (x y : Binary64) : Bool :=
  !x.isNotNumber && !y.isNotNumber && x.ordinal == y.ordinal

/-- The magnitude of a finite rank is `significand * 2 ^ (scale - 1074)`. -/
def scale (rank : Nat) : Nat := rank / binade - 1

def significand (rank : Nat) : Nat := rank - scale rank * binade

/-- The integer nearest to `num / den`, the even one of two that are equally near. -/
def roundHalfEven (num den : Nat) : Nat :=
  let quotient := num / den
  let twice := 2 * (num % den)
  if twice < den then quotient
  else if den < twice then quotient + 1
  else if quotient % 2 = 0 then quotient
  else quotient + 1

/-- The exponent `e` with `2 ^ e ≤ num / den < 2 ^ (e + 1)`, for positive `num` and `den`. -/
def binaryExponent (num den : Nat) : Int :=
  let guess : Int := (Nat.log2 num : Int) - (Nat.log2 den : Int)
  let reached :=
    if guess < 0 then den ≤ num * Nat.pow 2 guess.natAbs else den * Nat.pow 2 guess.natAbs ≤ num
  if reached then guess else guess - 1

/-- The rank of the magnitude nearest to `num / den`; past the largest finite one it is infinity. -/
def nearestRank (num den : Nat) : Nat :=
  if num = 0 then 0
  else
    let steps := (binaryExponent num den + 1022).toNat
    let rounded :=
      if steps ≤ 1074 then roundHalfEven (num * Nat.pow 2 (1074 - steps)) den
      else roundHalfEven num (den * Nat.pow 2 (steps - 1074))
    min (steps * binade + rounded) infinityRank

/-- The number nearest to the quotient of two natural numbers with the given sign. -/
def ofRatio (negative : Bool) (num den : Nat) : Binary64 :=
  ⟨negative, nearestRank num den⟩

/-- The number nearest to an integer. -/
def ofInt (n : Int) : Binary64 :=
  ofRatio (n < 0) n.natAbs 1

/-- How many decimal digits a natural number has; zero has none. -/
def decimalLength (n : Nat) : Nat :=
  if n = 0 then 0 else (Nat.toDigits 10 n).length

/-- The number nearest to `digits * 10 ^ exponent`.  Decimals that lie beyond the range of finite
magnitudes are told by their length, so that no power of ten is out of proportion. -/
def ofDecimal (negative : Bool) (digits : Nat) (exponent : Int) : Binary64 :=
  let top : Int := decimalLength digits + exponent
  if digits = 0 || top < -330 then zero negative
  else if 330 < top then infinity negative
  else if exponent < 0 then ofRatio negative digits (Nat.pow 10 exponent.natAbs)
  else ofRatio negative (digits * Nat.pow 10 exponent.natAbs) 1

end Binary64

end FormLogic
