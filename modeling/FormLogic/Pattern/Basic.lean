import FormLogic.CharSet

/-!
# Patterns

A pattern describes texts.  It is built from sets of characters and from conditions on the place
between two characters, by sequence, choice and repetition.
-/

namespace FormLogic

/-- A condition on the characters before and after a place in terms of words. -/
inductive WordPlace where
  | boundary
  | notBoundary
  | start
  | finish
  | startHalf
  | finishHalf
  deriving DecidableEq, Repr

/-- The condition holds at a place, given whether word characters stand before and after it. -/
def WordPlace.holds (place : WordPlace) (before after : Bool) : Bool :=
  match place with
  | .boundary => before != after
  | .notBoundary => before == after
  | .start => !before && after
  | .finish => before && !after
  | .startHalf => !before
  | .finishHalf => !after

/-- A condition on a place in a text. -/
inductive Look where
  | startText
  | endText
  | startLine
  | endLine
  | startLineCrlf
  | endLineCrlf
  | word (place : WordPlace) (asciiWords : Bool)
  deriving DecidableEq, Repr

/-- A pattern. -/
inductive Pattern where
  | chars (set : CharSet)
  | look (condition : Look)
  | sequence (parts : List Pattern)
  | choice (branches : List Pattern)
  | repeated (body : Pattern) (least : Nat) (most : Option Nat)
  | capture (body : Pattern)
  deriving Inhabited

/-- The pattern of the empty text. -/
def Pattern.empty : Pattern := .sequence []

end FormLogic
