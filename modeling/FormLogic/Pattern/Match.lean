import FormLogic.Pattern.Basic
import FormLogic.Unicode.Property

/-!
# Matching

A pattern matches a text if it describes some part of it.  Matching moves sets of places: a place is
the number of characters before it, and a set of places is a natural number with the bits of its
members.  Read against one text, a pattern becomes a movement, which takes the places where a part
may start to the places where it may end.
-/

namespace FormLogic

/-- How a pattern moves the places of one text. -/
inductive Movement where
  | advance (passable : Nat)
  | stay (here : Nat)
  | sequence (parts : List Movement)
  | choice (branches : List Movement)
  | repeated (body : Movement) (least : Nat) (most : Option Nat)

namespace Movement

/-- A step taken a number of times, or until it changes nothing. -/
def times (step : Nat → Nat) : Nat → Nat → Nat
  | 0, places => places
  | n + 1, places =>
      let next := step places
      if next = places then places else times step n next

/-- The places reached by at most the given number of steps. -/
def upTo (step : Nat → Nat) : Nat → Nat → Nat
  | 0, places => places
  | n + 1, places =>
      let next := places ||| step places
      if next = places then places else upTo step n next

mutual

/-- The places where a part may end that starts at one of the given places.  In a text of the given
length no set of places grows more often than there are places. -/
def apply (length : Nat) : Movement → Nat → Nat
  | .advance passable, places => (places &&& passable) <<< 1
  | .stay here, places => places &&& here
  | .sequence parts, places => applySequence length parts places
  | .choice branches, places => applyChoice length branches places
  | .repeated body least most, places =>
      let step := fun places => apply length body places
      let more :=
        match most with
        | some most => min (most - least) (length + 1)
        | none => length + 1
      upTo step more (times step least places)

def applySequence (length : Nat) : List Movement → Nat → Nat
  | [], places => places
  | part :: parts, places => applySequence length parts (apply length part places)

def applyChoice (length : Nat) : List Movement → Nat → Nat
  | [], _ => 0
  | branch :: branches, places => apply length branch places ||| applyChoice length branches places

end

end Movement

namespace Pattern

/-- A character of a word, where words may be of ASCII characters only. -/
def isWordChar (asciiWords : Bool) (c : Char) : Bool :=
  if c.toNat < 0x80 then c.isAlphanum || c == '_'
  else !asciiWords && Unicode.wordCharacters.contains c

/-- The condition holds between two characters, which are missing at the ends of the text. -/
def lookHolds (condition : Look) (before after : Option Char) : Bool :=
  match condition with
  | .startText => before.isNone
  | .endText => after.isNone
  | .startLine => before.isNone || before == some '\n'
  | .endLine => after.isNone || after == some '\n'
  | .startLineCrlf =>
      before.isNone || before == some '\n' || (before == some '\r' && after != some '\n')
  | .endLineCrlf =>
      after.isNone || after == some '\r' || (after == some '\n' && before != some '\r')
  | .word place asciiWords =>
      let isWord (c : Option Char) : Bool := c.any (isWordChar asciiWords)
      place.holds (isWord before) (isWord after)

/-- The places, from the given one on, whose next character satisfies a test. -/
def placesBefore (test : Char → Bool) (place : Nat) : List Char → Nat
  | [] => 0
  | c :: cs => (if test c then 1 <<< place else 0) ||| placesBefore test (place + 1) cs

/-- The places, from the given one on, where a condition holds. -/
def placesAt (condition : Look) (place : Nat) (before : Option Char) : List Char → Nat
  | [] => if lookHolds condition before none then 1 <<< place else 0
  | c :: cs =>
      (if lookHolds condition before (some c) then 1 <<< place else 0) |||
        placesAt condition (place + 1) (some c) cs

mutual

/-- The pattern read against one text. -/
def against (text : List Char) : Pattern → Movement
  | .chars set => .advance (placesBefore set.contains 0 text)
  | .look condition => .stay (placesAt condition 0 none text)
  | .sequence parts => .sequence (againstAll text parts)
  | .choice branches => .choice (againstAll text branches)
  | .repeated body least most => .repeated (against text body) least most
  | .capture body => against text body

def againstAll (text : List Char) : List Pattern → List Movement
  | [] => []
  | part :: parts => against text part :: againstAll text parts

end

/-- The pattern describes some part of the text. -/
def matchesIn (pattern : Pattern) (text : String) : Bool :=
  let cs := text.toList
  let everywhere := Nat.pow 2 (cs.length + 1) - 1
  (pattern.against cs).apply cs.length everywhere != 0

end Pattern

end FormLogic
