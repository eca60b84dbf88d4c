/-!
# Sets of characters

A set of characters is a list of ranges of code points.  In normal form the ranges ascend and a gap
lies between each two of them.  Tables of the character database are written as texts, from which a
set is read.
-/

namespace FormLogic

/-- The code points from `first` to `last`. -/
structure CodeRange where
  first : Nat
  last : Nat
  deriving DecidableEq, Repr, Inhabited

/-- A set of characters, as ascending ranges of code points with gaps between them. -/
structure CharSet where
  ranges : List CodeRange
  deriving DecidableEq, Repr, Inhabited

namespace CharSet

/-- The largest code point. -/
def lastCode : Nat := 0x10FFFF

def empty : CharSet := ⟨[]⟩

def range (first last : Nat) : CharSet := ⟨[⟨first, last⟩]⟩

def all : CharSet := range 0 lastCode

def single (c : Char) : CharSet := range c.toNat c.toNat

def containsCode (s : CharSet) (code : Nat) : Bool :=
  s.ranges.any fun r => r.first ≤ code && code ≤ r.last

def contains (s : CharSet) (c : Char) : Bool := s.containsCode c.toNat

/-- Joins ranges from the left, so that a range that spans several later ones takes them all in. -/
def joinFrom (current : CodeRange) : List CodeRange → List CodeRange
  | [] => [current]
  | next :: rest =>
      if next.first ≤ current.last + 1 then
        joinFrom ⟨current.first, max current.last next.last⟩ rest
      else current :: joinFrom next rest

/-- The set of the characters in any of the ranges, in normal form. -/
def ofRanges (ranges : List CodeRange) : CharSet :=
  match ranges.mergeSort (fun a b => a.first ≤ b.first) with
  | [] => empty
  | r :: rest => ⟨joinFrom r rest⟩

def union (a b : CharSet) : CharSet := ofRanges (a.ranges ++ b.ranges)

def unions (sets : List CharSet) : CharSet := ofRanges (sets.flatMap (·.ranges))

/-- The gaps between ascending ranges, from the given code point on. -/
def gaps (start : Nat) : List CodeRange → List CodeRange
  | [] => if start ≤ lastCode then [⟨start, lastCode⟩] else []
  | r :: rest =>
      if start < r.first then ⟨start, r.first - 1⟩ :: gaps (r.last + 1) rest
      else gaps (r.last + 1) rest

def complement (s : CharSet) : CharSet := ⟨gaps 0 s.ranges⟩

def intersect (a b : CharSet) : CharSet := (a.complement.union b.complement).complement

def minus (a b : CharSet) : CharSet := (a.complement.union b).complement

/-- The characters in exactly one of two sets. -/
def symmetricDifference (a b : CharSet) : CharSet := (a.minus b).union (b.minus a)

/-- All characters of the set are ASCII. -/
def isAscii (s : CharSet) : Bool := s.ranges.all fun r => r.last < 0x80

/-! ## Tables -/

/-- The number that hexadecimal digits denote. -/
def ofHex (digits : List Char) : Nat :=
  digits.foldl
    (fun n c => 16 * n + (if c.isDigit then c.toNat - '0'.toNat else c.toNat - 'a'.toNat + 10)) 0

/-- Every second code point from `first` to `last`. -/
def everySecond (first last : Nat) : List CodeRange :=
  (List.range ((last - first) / 2 + 1)).map fun i => ⟨first + 2 * i, first + 2 * i⟩

/-- An entry of a table: a code point `a`, a range `a-b`, or every second code point `a-b/`. -/
def tableEntry (entry : List Char) : List CodeRange :=
  let first := ofHex (entry.takeWhile (· != '-'))
  match entry.dropWhile (· != '-') with
  | [] => [⟨first, first⟩]
  | _ :: rest =>
      let last := ofHex (rest.takeWhile (· != '/'))
      if rest.contains '/' then everySecond first last else [⟨first, last⟩]

/-- Adds one character to the words read so far, of which the last is the unfinished one. -/
def wordStep (words : List (List Char) × List Char) (c : Char) : List (List Char) × List Char :=
  if c = ' ' then (words.2.reverse :: words.1, []) else (words.1, c :: words.2)

/-- The words of a line, which have single blanks between them. -/
def tableWords (line : String) : List (List Char) :=
  let (done, last) := line.toList.foldl wordStep ([], [])
  ((last.reverse :: done).filter (!·.isEmpty)).reverse

/-- The set that the lines of a table list in ascending order. -/
def ofTable (lines : List String) : CharSet :=
  ⟨(lines.flatMap tableWords).flatMap tableEntry⟩

end CharSet

end FormLogic
