import FormLogic.Binary64.Shortest

/-!
# Texts of double-precision numbers

How a finite number is written, and which texts are read as a number.
-/

namespace FormLogic.Binary64

/-- Numbers whose first digit stands between these two places, counted from the place of ones, are
written without an exponent. -/
def leastPlainPlace : Int := -5

def mostPlainPlace : Int := 15

/-- Decimal digits of a natural number. -/
def digitsText (n : Nat) : String := String.ofList (Nat.toDigits 10 n)

def zeroes (n : Nat) : String := String.ofList (List.replicate n '0')

/-- A decimal without an exponent, with at least one digit on either side of the point. -/
def Decimal.plainText (d : Decimal) : String :=
  let digits := Nat.toDigits 10 d.digits
  if 0 ≤ d.exponent then String.ofList digits ++ zeroes d.exponent.toNat ++ ".0"
  else
    let places := d.exponent.natAbs
    if places < digits.length then
      String.ofList (digits.take (digits.length - places)) ++ "." ++
        String.ofList (digits.drop (digits.length - places))
    else "0." ++ zeroes (places - digits.length) ++ String.ofList digits

/-- A decimal with one digit before the point and a signed exponent. -/
def Decimal.exponentText (d : Decimal) : String :=
  let digits := Nat.toDigits 10 d.digits
  let place := d.exponent + (digits.length : Int) - 1
  let fraction := String.ofList (digits.drop 1)
  String.ofList (digits.take 1) ++ (if fraction = "" then "" else "." ++ fraction) ++
    (if place < 0 then "e-" else "e+") ++ digitsText place.natAbs

/-- The shortest text of a finite number. -/
def text (x : Binary64) : String :=
  let d := shortest x.rank
  let place := d.exponent + (decimalLength d.digits : Int) - 1
  (if x.negative then "-" else "") ++
    (if d.digits = 0 then "0.0"
    else if leastPlainPlace ≤ place && place ≤ mostPlainPlace then d.plainText
    else d.exponentText)

/-- The natural number that a list of decimal digits denotes. -/
def ofDigits (digits : List Char) : Nat :=
  digits.foldl (fun n c => 10 * n + (c.toNat - '0'.toNat)) 0

/-- The characters in lower case, where they are letters `A` to `Z`. -/
def lowerCase (cs : List Char) : List Char :=
  cs.map Char.toLower

/-- A signed whole number that fills the characters: the exponent of a decimal. -/
def readExponent (cs : List Char) : Option Int :=
  let (negative, digits) :=
    match cs with
    | '-' :: rest => (true, rest)
    | '+' :: rest => (false, rest)
    | _ => (false, cs)
  if digits.isEmpty || !digits.all Char.isDigit then none
  else some (if negative then -(ofDigits digits : Int) else ofDigits digits)

/-- An unsigned decimal that fills the characters: digits with at most one point among, before or
after them, and an optional exponent. -/
def readMagnitude (negative : Bool) (cs : List Char) : Option Binary64 :=
  let whole := cs.takeWhile Char.isDigit
  let afterWhole := cs.dropWhile Char.isDigit
  let (fraction, afterFraction) :=
    match afterWhole with
    | '.' :: rest => (rest.takeWhile Char.isDigit, rest.dropWhile Char.isDigit)
    | _ => ([], afterWhole)
  if whole.isEmpty && fraction.isEmpty then none
  else
    let exponent :=
      match afterFraction with
      | [] => some 0
      | c :: rest => if c = 'e' || c = 'E' then readExponent rest else none
    exponent.map fun e => ofDecimal negative (ofDigits (whole ++ fraction)) (e - fraction.length)

/-- Reads a text as a number: a decimal, or one of the words for infinity and for no number, with
an optional sign in front. -/
def read (cs : List Char) : Option Binary64 :=
  let (negative, body) :=
    match cs with
    | '-' :: rest => (true, rest)
    | '+' :: rest => (false, rest)
    | _ => (false, cs)
  let word := String.ofList (lowerCase body)
  if word = "inf" || word = "infinity" then some (infinity negative)
  else if word = "nan" then some notNumber
  else readMagnitude negative body

end FormLogic.Binary64
