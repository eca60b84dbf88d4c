import FormLogic.Pattern.Basic

/-!
# Sizes of patterns

A pattern may be used only if the two byte automata for it, which read a text forwards and
backwards, stay within a size limit.  The size counts their states and transitions, without building
them: a counted repetition has as many copies of its body as it counts.  The automaton that reads
forwards notes the ends of captured parts, and the one that reads backwards has a branch of its own
for every byte sequence of a set.
-/

namespace FormLogic.Pattern

/-- The size of a state, of a transition on bytes and of a transition on nothing. -/
def stateSize : Nat := 32

def byteTransitionSize : Nat := 8

def emptyTransitionSize : Nat := 4

/-- The largest size of an automaton. -/
def sizeLimit : Nat := 10 * Nat.pow 2 20

/-! ## Byte sequences of characters -/

/-- The UTF-8 bytes of a code point. -/
def utf8Bytes (code : Nat) : List Nat :=
  if code < 0x80 then [code]
  else if code < 0x800 then [0xC0 + code / 0x40, 0x80 + code % 0x40]
  else if code < 0x10000 then
    [0xE0 + code / 0x1000, 0x80 + code / 0x40 % 0x40, 0x80 + code % 0x40]
  else
    [0xF0 + code / 0x40000, 0x80 + code / 0x1000 % 0x40, 0x80 + code / 0x40 % 0x40,
      0x80 + code % 0x40]

/-- A place where a range of code points has to be cut, so that the bytes of its parts vary
independently of each other: the last code point before the cut. -/
def cut? (r : CodeRange) : Option Nat :=
  let borders := [0x7F, 0x7FF, 0xFFFF].find? fun border => r.first ≤ border && border < r.last
  match borders with
  | some border => some border
  | none =>
      if r.last < 0x80 then none
      else
        [0x40, 0x1000, 0x40000].findSome? fun block =>
          if r.first / block = r.last / block then none
          else if r.first % block != 0 then some (r.first - r.first % block + block - 1)
          else if r.last % block != block - 1 then some (r.last - r.last % block - 1)
          else none

/-- The ranges of bytes of a range of code points, for each part of it whose bytes vary
independently.  A range is cut at most as often as the given number. -/
def byteRanges : Nat → CodeRange → List (List (Nat × Nat))
  | 0, r => [(utf8Bytes r.first).zip (utf8Bytes r.last)]
  | cuts + 1, r =>
      match cut? r with
      | some last =>
          byteRanges cuts ⟨r.first, last⟩ ++ byteRanges cuts ⟨last + 1, r.last⟩
      | none => [(utf8Bytes r.first).zip (utf8Bytes r.last)]

/-- A range without the code points that are no characters. -/
def withoutSurrogates (r : CodeRange) : List CodeRange :=
  [⟨r.first, min r.last 0xD7FF⟩, ⟨max r.first 0xE000, r.last⟩].filter fun r => r.first ≤ r.last

/-- The sequences of byte ranges of a set, in ascending order. -/
def byteSequences (s : CharSet) : List (List (Nat × Nat)) :=
  (s.ranges.flatMap withoutSurrogates).flatMap (byteRanges 16)

/-- How many elements of the second list are left after what it has in common with the first. -/
def fresh : List (Nat × Nat) → List (Nat × Nat) → Nat
  | a :: as, b :: bs => if a = b then fresh as bs else (b :: bs).length
  | _, bs => bs.length

/-- The number of nodes of the tree that sequences in ascending order form by their beginnings. -/
def treeNodes : List (Nat × Nat) → List (List (Nat × Nat)) → Nat
  | _, [] => 0
  | before, s :: rest => fresh before s + treeNodes s rest

/-- The size of the automaton of a set of several characters: one state for ASCII characters, else
the tree of byte sequences.  Forwards these share so much that they are left out of the count. -/
def severalSize (forwards : Bool) (s : CharSet) : Nat :=
  if s.isAscii then 2 * stateSize + byteTransitionSize * s.ranges.length
  else if forwards then 2 * stateSize
  else
    let sequences := byteSequences s
    2 * stateSize + emptyTransitionSize * sequences.length + stateSize * treeNodes [] sequences

/-- The size of the automaton of a set of characters; a single character needs its bytes alone. -/
def setSize (forwards : Bool) (s : CharSet) : Nat :=
  match s.ranges with
  | [⟨first, last⟩] =>
      if first = last then stateSize * (utf8Bytes first).length else severalSize forwards s
  | _ => severalSize forwards s

/-! ## Automata -/

mutual

/-- The pattern describes the empty text. -/
def mayBeEmpty : Pattern → Bool
  | .chars _ => false
  | .look _ => true
  | .sequence parts => allMayBeEmpty parts
  | .choice branches => someMayBeEmpty branches
  | .repeated body least _ => least == 0 || mayBeEmpty body
  | .capture body => mayBeEmpty body

def allMayBeEmpty : List Pattern → Bool
  | [] => true
  | part :: parts => mayBeEmpty part && allMayBeEmpty parts

def someMayBeEmpty : List Pattern → Bool
  | [] => false
  | branch :: branches => mayBeEmpty branch || someMayBeEmpty branches

end

/-- The size of a repetition, given the size of its body. -/
def repeatedSize (body : Nat) (bodyMayBeEmpty : Bool) (least : Nat) (most : Option Nat) : Nat :=
  let fork := stateSize + 2 * emptyTransitionSize
  match most with
  | some most =>
      (if least = 0 then stateSize else least * body) +
        (if least < most then stateSize + (most - least) * (fork + body) else 0)
  | none =>
      match least with
      | 0 => body + (if bodyMayBeEmpty then 2 * fork + stateSize else fork)
      | least + 1 => (least + 1) * body + fork

mutual

/-- The size of the automaton of a pattern that reads forwards or backwards. -/
def size (forwards : Bool) : Pattern → Nat
  | .chars set => setSize forwards set
  | .look _ => stateSize
  | .sequence parts => if parts.isEmpty then stateSize else sizes forwards parts
  | .choice branches =>
      2 * stateSize + emptyTransitionSize * branches.length + sizes forwards branches
  | .repeated body least most =>
      repeatedSize (size forwards body) (mayBeEmpty body) least most
  | .capture body => size forwards body + (if forwards then 2 * stateSize else 0)

def sizes (forwards : Bool) : List Pattern → Nat
  | [] => 0
  | part :: parts => size forwards part + sizes forwards parts

end

/-- Both automata of the pattern stay within the limit. -/
def fits (pattern : Pattern) : Bool :=
  pattern.size true ≤ sizeLimit && pattern.size false ≤ sizeLimit

end FormLogic.Pattern
