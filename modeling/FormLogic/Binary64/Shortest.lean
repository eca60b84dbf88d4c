import FormLogic.Binary64

/-!
# Shortest decimals

The decimal with the fewest digits that reads back as a given finite number, and among those the
one nearest to it.  The numbers that read back are the ones between the midpoints to the two
neighbours; the midpoints themselves belong to the number whose significand is even.  For each count
of digits only the two neighbours of the number on that decimal grid have to be tested.
-/

namespace FormLogic.Binary64

/-- A decimal `digits * 10 ^ exponent`. -/
structure Decimal where
  digits : Nat
  exponent : Int
  deriving DecidableEq, Repr, Inhabited

/-- The exponent `e` with `10 ^ e ≤ num / den < 10 ^ (e + 1)`, for positive `num` and `den`. -/
def decimalExponent (num den : Nat) : Int :=
  if den ≤ num then (decimalLength (num / den) : Int) - 1
  else
    let places := decimalLength (den / num)
    if num * Nat.pow 10 (places - 1) = den then 1 - (places : Int) else -(places : Int)

/-- A quarter of the step between neighbouring magnitudes of the given scale, as a quotient. -/
def quarterStep (scale : Nat) : Nat × Nat :=
  if scale < 1076 then (1, Nat.pow 2 (1076 - scale)) else (Nat.pow 2 (scale - 1076), 1)

/-- The decimals that read back as a magnitude: the magnitude and the two ends of its interval, in
quarter steps, and whether the ends belong to it. -/
structure Neighbourhood where
  low : Nat
  centre : Nat
  high : Nat
  closed : Bool
  num : Nat
  den : Nat

/-- The neighbourhood of the magnitude with the given rank.  At the start of a binade the step below
is half the step above. -/
def neighbourhood (rank : Nat) : Neighbourhood :=
  let m := significand rank
  let k := scale rank
  let step := quarterStep k
  { low := if m = binade && k != 0 then 4 * m - 1 else 4 * m - 2
    centre := 4 * m
    high := 4 * m + 2
    closed := m % 2 = 0
    num := step.1
    den := step.2 }

/-- Order of a decimal and a count of quarter steps. -/
def Neighbourhood.compareDecimal (n : Neighbourhood) (d : Decimal) (quarters : Nat) : Ordering :=
  if d.exponent < 0 then
    compare (d.digits * n.den) (quarters * n.num * Nat.pow 10 d.exponent.natAbs)
  else
    compare (d.digits * Nat.pow 10 d.exponent.natAbs * n.den) (quarters * n.num)

/-- The decimal reads back as the magnitude. -/
def Neighbourhood.holds (n : Neighbourhood) (d : Decimal) : Bool :=
  match n.compareDecimal d n.low, n.compareDecimal d n.high with
  | .gt, .lt => true
  | .eq, _ => n.closed
  | _, .eq => n.closed
  | _, _ => false

/-- The decimal on the grid `10 ^ exponent` that reads back as the magnitude and is nearest to it.
-/
def Neighbourhood.onGrid (n : Neighbourhood) (exponent : Int) : Option Decimal :=
  let num := n.centre * n.num
  let scaled :=
    if exponent < 0 then (num * Nat.pow 10 exponent.natAbs, n.den)
    else (num, n.den * Nat.pow 10 exponent.natAbs)
  let below : Decimal := ⟨scaled.1 / scaled.2, exponent⟩
  let above : Decimal := ⟨scaled.1 / scaled.2 + 1, exponent⟩
  let twice := 2 * (scaled.1 % scaled.2)
  let belowFirst := twice < scaled.2 || (twice == scaled.2 && below.digits % 2 == 0)
  match n.holds below, n.holds above with
  | true, true => some (if belowFirst then below else above)
  | true, false => some below
  | false, true => some above
  | false, false => none

/-- The decimal without trailing zeroes in its digits; each step takes one off. -/
def Decimal.dropZeroes : Nat → Decimal → Decimal
  | 0, d => d
  | steps + 1, d =>
      if d.digits % 10 = 0 && d.digits != 0 then dropZeroes steps ⟨d.digits / 10, d.exponent + 1⟩
      else d

/-- The shortest decimal that reads back as the finite magnitude with the given rank. -/
def shortest (rank : Nat) : Decimal :=
  if rank = 0 then ⟨0, 0⟩
  else
    let n := neighbourhood rank
    let top := decimalExponent (n.centre * n.num) n.den
    let found := (List.range 17).findSome? fun extra : Nat => n.onGrid (top - (extra : Int))
    (found.getD ⟨0, 0⟩).dropZeroes 20

end FormLogic.Binary64
