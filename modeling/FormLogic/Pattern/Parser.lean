import FormLogic.Pattern.Size
import FormLogic.Text.Blank
import FormLogic.Unicode.CaseFolding
import FormLogic.Unicode.Query

/-!
# Reading patterns

The notation of patterns.  Literal characters, sets in square brackets and classes after a backslash
describe characters; groups, branches, counts and flags have their usual marks.  Groups do not refer
back and do not look around.  What is no pattern in this notation, is nested too deep or would be
too large an automaton, is refused.
-/

namespace FormLogic.Pattern

/-- The flags in force at a place in a pattern. -/
structure Flags where
  ignoreCase : Bool := false
  manyLines : Bool := false
  dotMatchesNewLine : Bool := false
  unicode : Bool := true
  crlf : Bool := false
  spaced : Bool := false

/-- The deepest nesting of a pattern. -/
def deepest : Nat := 250

/-- A pattern that was read, with the depth of its nesting. -/
structure Item where
  pattern : Pattern
  depth : Nat
  repeatable : Bool := true
  deriving Inhabited

/-! ## Blanks -/

/-- The characters after blanks and comments. -/
def skipComments : Bool → List Char → List Char
  | _, [] => []
  | true, c :: cs => if c = '\n' then skipComments false cs else skipComments true cs
  | false, c :: cs =>
      if Text.isBlankChar c then skipComments false cs
      else if c = '#' then skipComments true cs
      else c :: cs

/-- The characters after blanks and comments, in a pattern where these do not count. -/
def skipSpaced (spaced : Bool) (cs : List Char) : List Char :=
  if spaced then skipComments false cs else cs

/-! ## Sets -/

/-- The set with its case variants when case does not count, and its complement when negated.  Where
characters are bytes, the complement of a set would hold bytes that are no characters. -/
def foldAndNegate (flags : Flags) (negated : Bool) (s : CharSet) : Option CharSet :=
  let folded :=
    if flags.ignoreCase then
      if flags.unicode then Unicode.foldCase s else Unicode.foldAsciiCase s
    else s
  if flags.unicode then some (if negated then folded.complement else folded)
  else if negated || !folded.isAscii then none
  else some folded

/-- The set of digits, blanks or word characters. -/
def shorthandSet (flags : Flags) (letter : Char) : Option CharSet :=
  let base : CharSet :=
    if flags.unicode then
      if letter.toLower = 'd' then Unicode.digits
      else if letter.toLower = 's' then Unicode.blanks
      else Unicode.wordCharacters
    else
      if letter.toLower = 'd' then .range 0x30 0x39
      else if letter.toLower = 's' then ⟨[⟨0x9, 0xD⟩, ⟨0x20, 0x20⟩]⟩
      else ⟨[⟨0x30, 0x39⟩, ⟨0x41, 0x5A⟩, ⟨0x5F, 0x5F⟩, ⟨0x61, 0x7A⟩]⟩
  if letter.isUpper then (if flags.unicode then some base.complement else none) else some base

/-- The classes of ASCII characters that are named between colons. -/
def asciiClass? (name : String) : Option CharSet :=
  match name with
  | "alnum" => some ⟨[⟨0x30, 0x39⟩, ⟨0x41, 0x5A⟩, ⟨0x61, 0x7A⟩]⟩
  | "alpha" => some ⟨[⟨0x41, 0x5A⟩, ⟨0x61, 0x7A⟩]⟩
  | "ascii" => some (.range 0 0x7F)
  | "blank" => some ⟨[⟨0x9, 0x9⟩, ⟨0x20, 0x20⟩]⟩
  | "cntrl" => some ⟨[⟨0, 0x1F⟩, ⟨0x7F, 0x7F⟩]⟩
  | "digit" => some (.range 0x30 0x39)
  | "graph" => some (.range 0x21 0x7E)
  | "lower" => some (.range 0x61 0x7A)
  | "print" => some (.range 0x20 0x7E)
  | "punct" => some ⟨[⟨0x21, 0x2F⟩, ⟨0x3A, 0x40⟩, ⟨0x5B, 0x60⟩, ⟨0x7B, 0x7E⟩]⟩
  | "space" => some ⟨[⟨0x9, 0xD⟩, ⟨0x20, 0x20⟩]⟩
  | "upper" => some (.range 0x41 0x5A)
  | "word" => some ⟨[⟨0x30, 0x39⟩, ⟨0x41, 0x5A⟩, ⟨0x5F, 0x5F⟩, ⟨0x61, 0x7A⟩]⟩
  | "xdigit" => some ⟨[⟨0x30, 0x39⟩, ⟨0x41, 0x46⟩, ⟨0x61, 0x66⟩]⟩
  | _ => none

/-! ## Escapes -/

/-- What a single mark of the notation stands for. -/
inductive Mark where
  | literal (c : Char)
  | set (s : CharSet)
  | look (condition : Look)

/-- The value of a hexadecimal digit. -/
def hexValue? (c : Char) : Option Nat :=
  if c.isDigit then some (c.toNat - '0'.toNat)
  else if 'a' ≤ c && c ≤ 'f' then some (c.toNat - 'a'.toNat + 10)
  else if 'A' ≤ c && c ≤ 'F' then some (c.toNat - 'A'.toNat + 10)
  else none

/-- The character with the given code point. -/
def charOfCode? (code : Nat) : Option Char :=
  if code < 0xD800 || (0xDFFF < code && code ≤ CharSet.lastCode) then some (Char.ofNat code)
  else none

/-- A given number of hexadecimal digits. -/
def fixedHex (spaced : Bool) : Nat → Nat → List Char → Option (Nat × List Char)
  | 0, sofar, cs => some (sofar, cs)
  | n + 1, sofar, cs =>
      match cs with
      | [] => none
      | c :: rest => do
          let d ← hexValue? c
          fixedHex spaced n (16 * sofar + d) (skipSpaced spaced rest)

/-- Hexadecimal digits up to a closing brace, where `some` tells that there was one before. -/
def bracedHex (spaced : Bool) (steps : Nat) (sofar : Option Nat) (cs : List Char) :
    Option (Nat × List Char) :=
  match steps, cs with
  | 0, _ => none
  | _, [] => none
  | steps + 1, c :: rest =>
      let rest := skipSpaced spaced rest
      if c = '}' then sofar.map (·, rest)
      else do
        let d ← hexValue? c
        let code := 16 * sofar.getD 0 + d
        if CharSet.lastCode < code then none else bracedHex spaced steps (some code) rest

/-- A character by its code point, after the letter that tells how many digits there are. -/
def hexEscape (flags : Flags) (letter : Char) (cs : List Char) : Option (Mark × List Char) := do
  let body := skipSpaced flags.spaced cs
  match body with
  | '{' :: rest =>
      let inner := skipSpaced flags.spaced rest
      let (code, left) ← bracedHex flags.spaced (rest.length + 1) none inner
      return (.literal (← charOfCode? code), left)
  | _ =>
      let count := if letter = 'x' then 2 else if letter = 'u' then 4 else 8
      let (code, left) ← fixedHex flags.spaced count 0 body
      let c ← charOfCode? code
      if !flags.unicode && letter = 'x' && 0x80 ≤ code then none else return (.literal c, left)

/-- The characters up to a closing brace, without those that do not count. -/
def bracedName (spaced : Bool) (steps : Nat) (cs : List Char) : Option (List Char × List Char) :=
  match steps, cs with
  | 0, _ => none
  | _, [] => none
  | steps + 1, c :: rest =>
      if c = '}' then some ([], rest)
      else do
        let (name, left) ← bracedName spaced steps (skipSpaced spaced rest)
        return (c :: name, left)

/-- The characters before and after the first place where a separator of one or two characters
stands. -/
def splitAtFirst (separator : List Char) : List Char → Option (List Char × List Char)
  | [] => none
  | c :: cs =>
      if separator.isPrefixOf (c :: cs) then some ([], (c :: cs).drop separator.length)
      else (splitAtFirst separator cs).map fun parts => (c :: parts.1, parts.2)

/-- The class with a name such as `Greek` or `sc=Greek`, and whether the name negates it. -/
def namedClass? (name : List Char) : Option (CharSet × Bool) :=
  let valued (parts : List Char × List Char) : Option CharSet :=
    Unicode.valued? (String.ofList parts.1) (String.ofList parts.2)
  match splitAtFirst ['!', '='] name with
  | some parts => (valued parts).map (·, true)
  | none =>
      match splitAtFirst [':'] name with
      | some parts => (valued parts).map (·, false)
      | none =>
          match splitAtFirst ['='] name with
          | some parts => (valued parts).map (·, false)
          | none => (Unicode.named? (String.ofList name)).map (·, false)

/-- A class by its name, after the letter `p` or `P`. -/
def classEscape (flags : Flags) (letter : Char) (cs : List Char) : Option (Mark × List Char) := do
  let negated := letter = 'P'
  let (name, left) ←
    match skipSpaced flags.spaced cs with
    | [] => none
    | '{' :: rest => bracedName flags.spaced (rest.length + 1) (skipSpaced flags.spaced rest)
    | c :: rest => if c = '\\' then none else some ([c], skipSpaced flags.spaced rest)
  let (s, nameNegates) ← namedClass? name
  if !flags.unicode then none
  else
    let s ← foldAndNegate flags (negated != nameNegates) s
    return (.set s, left)

/-- A place of words by its name in braces, or the plain boundary if there is no such name. -/
def boundaryEscape (flags : Flags) (cs : List Char) : Option (Mark × List Char) :=
  let plain : Mark := .look (.word .boundary !flags.unicode)
  let isNameChar (c : Char) : Bool := c.isAlpha || c == '-'
  match cs with
  | '{' :: rest =>
      match skipSpaced flags.spaced rest with
      | [] => none
      | c :: more =>
          if !isNameChar c then some (plain, cs)
          else do
            let (name, left) ← bracedName flags.spaced (more.length + 2) (c :: more)
            let place : WordPlace ←
              match String.ofList name with
              | "start" => some .start
              | "end" => some .finish
              | "start-half" => some .startHalf
              | "end-half" => some .finishHalf
              | _ => none
            return (.look (.word place !flags.unicode), left)
  | _ => some (plain, cs)

/-- A mark after its backslash. -/
def escape (flags : Flags) : List Char → Option (Mark × List Char)
  | [] => none
  | c :: cs =>
      if c = 'x' || c = 'u' || c = 'U' then hexEscape flags c cs
      else if c = 'p' || c = 'P' then classEscape flags c cs
      else if ['d', 's', 'w', 'D', 'S', 'W'].contains c then
        (shorthandSet flags c).map fun s => (.set s, cs)
      else
        match c with
        | 'a' => some (.literal '\x07', cs)
        | 'f' => some (.literal '\x0c', cs)
        | 't' => some (.literal '\t', cs)
        | 'n' => some (.literal '\n', cs)
        | 'r' => some (.literal '\r', cs)
        | 'v' => some (.literal '\x0b', cs)
        | 'A' => some (.look .startText, cs)
        | 'z' => some (.look .endText, cs)
        | 'b' => boundaryEscape flags cs
        | 'B' => some (.look (.word .notBoundary !flags.unicode), cs)
        | '<' => some (.look (.word .start !flags.unicode), cs)
        | '>' => some (.look (.word .finish !flags.unicode), cs)
        | _ => if c.toNat < 0x80 && !c.isAlphanum then some (.literal c, cs) else none

/-! ## Sets in square brackets -/

/-- A set that was read, with the depth of its nesting and the number of its items. -/
structure SetItems where
  set : CharSet := .empty
  depth : Nat := 0
  count : Nat := 0

/-- One more item among those read. -/
def SetItems.add (items : SetItems) (s : CharSet) (depth : Nat) : SetItems :=
  ⟨items.set.union s, max items.depth depth, items.count + 1⟩

/-- The depth of the items as one set. -/
def SetItems.unionDepth (items : SetItems) : Nat :=
  if items.count ≤ 1 then items.depth else items.depth + 1

/-- How two sets are combined. -/
inductive SetOperator where
  | intersection
  | difference
  | symmetricDifference

/-- The two sets combined, with their case variants when case does not count. -/
def SetOperator.combine (flags : Flags) (op : SetOperator) (a b : CharSet) : CharSet :=
  let fold (s : CharSet) : CharSet :=
    if flags.ignoreCase then
      if flags.unicode then Unicode.foldCase s else Unicode.foldAsciiCase s
    else s
  match op with
  | .intersection => (fold a).intersect (fold b)
  | .difference => (fold a).minus (fold b)
  | .symmetricDifference => (fold a).symmetricDifference (fold b)

/-- The items so far as one set, combined with the set before the last operator. -/
def combinePending (flags : Flags) (pending : Option (SetOperator × SetItems)) (items : SetItems) :
    SetItems :=
  match pending with
  | none => ⟨items.set, items.unionDepth, 1⟩
  | some (op, before) =>
      ⟨op.combine flags before.set items.set, max before.depth items.unionDepth + 1, 1⟩

/-- A named ASCII class, after its opening bracket; it ends with a colon and a bracket. -/
def asciiClass (flags : Flags) : List Char → Option (CharSet × List Char)
  | ':' :: rest =>
      let (negated, body) :=
        match rest with
        | '^' :: more => (true, more)
        | _ => (false, rest)
      let name := body.takeWhile (· != ':')
      match body.dropWhile (· != ':') with
      | ':' :: ']' :: left =>
          match asciiClass? (String.ofList name) with
          | some s => (foldAndNegate flags negated s).map (·, left)
          | none => none
      | _ => none
  | _ => none

/-- A named ASCII class stands after the opening bracket. -/
def startsAsciiClass : List Char → Bool
  | ':' :: rest =>
      let body := if rest.head? = some '^' then rest.drop 1 else rest
      let name := body.takeWhile (· != ':')
      (asciiClass? (String.ofList name)).isSome && [':', ']'].isPrefixOf (body.dropWhile (· != ':'))
  | _ => false

/-- A character or class inside brackets. -/
def setMark (flags : Flags) : List Char → Option (Mark × List Char)
  | [] => none
  | '\\' :: cs => escape flags cs
  | c :: cs => some (.literal c, cs)

/-- The code point of a character inside brackets. -/
def literalCode (flags : Flags) (c : Char) : Option Nat :=
  if flags.unicode || c.toNat < 0x80 then some c.toNat else none

/-- A character, a class or a range of characters inside brackets. -/
def setRange (flags : Flags) (cs : List Char) : Option (CharSet × List Char) := do
  let (mark, left) ← setMark flags cs
  let left := skipSpaced flags.spaced left
  let isRange : Bool ←
    match left with
    | [] => none
    | '-' :: rest =>
        let next := (skipSpaced flags.spaced rest).head?
        some (next != some ']' && next != some '-')
    | _ => some false
  if isRange then
    let (last, after) ← setMark flags (skipSpaced flags.spaced (left.drop 1))
    match mark, last with
    | .literal a, .literal b =>
        let first ← literalCode flags a
        let last ← literalCode flags b
        if first ≤ last then return (.range first last, after) else none
    | _, _ => none
  else
    match mark with
    | .literal c =>
        let code ← literalCode flags c
        return (.range code code, left)
    | .set s => return (s, left)
    | .look _ => none

/-- The hyphens at the start of a set, which stand for themselves. -/
def leadingHyphens (flags : Flags) (steps : Nat) (items : SetItems) (cs : List Char) :
    SetItems × List Char :=
  match steps, cs with
  | steps + 1, '-' :: rest =>
      leadingHyphens flags steps (items.add (.single '-') 0) (skipSpaced flags.spaced rest)
  | _, _ => (items, cs)

/-- The start of a set, after its opening bracket: whether it is negated, and the hyphens and the
bracket that stand for themselves there. -/
def setOpening (flags : Flags) (cs : List Char) : (Bool × SetItems) × List Char :=
  let body := skipSpaced flags.spaced cs
  let (negated, body) :=
    match body with
    | '^' :: rest => (true, skipSpaced flags.spaced rest)
    | _ => (false, body)
  let (items, body) := leadingHyphens flags body.length {} body
  match body with
  | ']' :: rest =>
      if items.count = 0 then
        ((negated, items.add (.single ']') 0), skipSpaced flags.spaced rest)
      else ((negated, items), body)
  | _ => ((negated, items), body)

/-- The items of a set up to its closing bracket, given the items and the operator before them.
A step that leaves no fewer characters than it got is refused. -/
def setBody (flags : Flags) (negated : Bool) (pending : Option (SetOperator × SetItems))
    (items : SetItems) (cs : List Char) : Option (SetItems × List Char) :=
  match h : skipSpaced flags.spaced cs with
  | [] => none
  | c :: rest =>
      if hlt : (c :: rest).length ≤ cs.length then
        have hrest : rest.length < cs.length := by
          simp only [List.length_cons] at hlt
          omega
        let operator (op : SetOperator) : Option (SetOperator × SetItems) :=
          some (op, combinePending flags pending items)
        if c = ']' then do
          let all := combinePending flags pending items
          let s ← foldAndNegate flags negated all.set
          return (⟨s, all.depth + 1, 1⟩, rest)
        else if c = '[' then
          if startsAsciiClass rest then
            match asciiClass flags rest with
            | none => none
            | some (s, left) =>
                if _h : left.length < cs.length then
                  setBody flags negated pending (items.add s 0) left
                else none
          else
            let ((innerNegated, innerItems), body) := setOpening flags rest
            if _h : body.length < cs.length then
              match setBody flags innerNegated none innerItems body with
              | none => none
              | some (inner, left) =>
                  if _h : left.length < cs.length then
                    setBody flags negated pending (items.add inner.set inner.depth) left
                  else none
            else none
        else if c = '&' && rest.head? = some '&' then
          if _h : (rest.drop 1).length < cs.length then
            setBody flags negated (operator .intersection) {} (rest.drop 1)
          else none
        else if c = '-' && rest.head? = some '-' then
          if _h : (rest.drop 1).length < cs.length then
            setBody flags negated (operator .difference) {} (rest.drop 1)
          else none
        else if c = '~' && rest.head? = some '~' then
          if _h : (rest.drop 1).length < cs.length then
            setBody flags negated (operator .symmetricDifference) {} (rest.drop 1)
          else none
        else
          match setRange flags (c :: rest) with
          | none => none
          | some (s, left) =>
              if _h : left.length < cs.length then
                setBody flags negated pending (items.add s 0) left
              else none
      else none
termination_by cs.length

/-- A set, after its opening bracket. -/
def bracketed (flags : Flags) (cs : List Char) : Option (Item × List Char) := do
  let ((negated, items), body) := setOpening flags cs
  if body.isEmpty then none
  else
    let (s, left) ← setBody flags negated none items body
    return ({ pattern := .chars s.set, depth := s.depth }, left)

/-! ## Counts -/

/-- Decimal digits at the front, with blanks between them where blanks do not count. -/
def decimalDigits (spaced : Bool) : Nat → List Char → List Char × List Char
  | steps + 1, c :: rest =>
      if c.isDigit then
        let (digits, left) := decimalDigits spaced steps (skipSpaced spaced rest)
        (c :: digits, left)
      else ([], c :: rest)
  | _, cs => ([], cs)

/-- A decimal number below `2 ^ 32`, with blanks around it. -/
def decimal (spaced : Bool) (cs : List Char) : Option (Nat × List Char) :=
  let body := cs.dropWhile Text.isBlankChar
  let (digits, left) := decimalDigits spaced body.length body
  if digits.isEmpty then none
  else
    let n := digits.foldl (fun n c => 10 * n + (c.toNat - '0'.toNat)) 0
    if n < Nat.pow 2 32 then some (n, skipSpaced spaced (left.dropWhile Text.isBlankChar)) else none

/-- The counts of a repetition, after its opening brace. -/
def counts (spaced : Bool) (cs : List Char) : Option ((Nat × Option Nat) × List Char) := do
  let (least, left) ← decimal spaced (skipSpaced spaced cs)
  let ((most : Option Nat), left) ←
    match left with
    | ',' :: rest =>
        let rest := skipSpaced spaced rest
        match rest with
        | '}' :: _ => some (none, rest)
        | _ => (decimal spaced rest).map fun r => (some r.1, r.2)
    | _ => some (some least, left)
  match left with
  | '}' :: rest =>
      if most.all (least ≤ ·) then return ((least, most), skipSpaced spaced rest) else none
  | _ => none

/-- The characters after the mark of a lazy repetition, which matches the same texts. -/
def skipLazyMark : List Char → List Char
  | '?' :: cs => cs
  | cs => cs

/-! ## Groups -/

/-- A change of flags: the letters switched on and those switched off. -/
structure FlagChange where
  on : List Char := []
  off : List Char := []

def FlagChange.isEmpty (change : FlagChange) : Bool := change.on.isEmpty && change.off.isEmpty

/-- The flags after a change. -/
def FlagChange.apply (change : FlagChange) (flags : Flags) : Flags :=
  let pick (letter : Char) (old : Bool) : Bool :=
    if change.on.contains letter then true
    else if change.off.contains letter then false
    else old
  { ignoreCase := pick 'i' flags.ignoreCase
    manyLines := pick 'm' flags.manyLines
    dotMatchesNewLine := pick 's' flags.dotMatchesNewLine
    unicode := pick 'u' flags.unicode
    crlf := pick 'R' flags.crlf
    spaced := pick 'x' flags.spaced }

/-- The flag letters up to a colon or a closing parenthesis.  No letter may occur twice, and a
negation must be followed by a letter. -/
def flagLetters (change : FlagChange) (negating : Bool) (dangling : Bool) :
    List Char → Option (FlagChange × List Char)
  | [] => none
  | c :: cs =>
      if c = ':' || c = ')' then (if dangling then none else some (change, c :: cs))
      else if c = '-' then
        if negating then none else flagLetters change true true cs
      else if !(['i', 'm', 's', 'U', 'u', 'R', 'x'].contains c) then none
      else if change.on.contains c || change.off.contains c then none
      else if negating then flagLetters { change with off := c :: change.off } true false cs
      else flagLetters { change with on := c :: change.on } false false cs

/-- A character of the name of a group. -/
def isNameChar (first : Bool) (c : Char) : Bool :=
  c == '_' || (if first then Unicode.alphabetic.contains c
    else c == '.' || c == '[' || c == ']' || Unicode.alphanumeric.contains c)

/-- The name of a group, up to its closing angle bracket. -/
def groupName (cs : List Char) : Option (String × List Char) :=
  let name := cs.takeWhile (· != '>')
  match name, cs.dropWhile (· != '>') with
  | c :: more, _ :: left =>
      if isNameChar true c && more.all (isNameChar false) then some (String.ofList name, left)
      else none
  | _, _ => none

/-- What stands after an opening parenthesis. -/
inductive GroupOpening where
  | captured (name : Option String)
  | grouped (change : FlagChange)
  | flagsOnly (change : FlagChange)

/-- The start of a group, after its opening parenthesis. -/
def groupOpening (cs : List Char) : Option (GroupOpening × List Char) :=
  match cs with
  | '?' :: '=' :: _ => none
  | '?' :: '!' :: _ => none
  | '?' :: '<' :: '=' :: _ => none
  | '?' :: '<' :: '!' :: _ => none
  | '?' :: 'P' :: '<' :: rest => (groupName rest).map fun r => (.captured (some r.1), r.2)
  | '?' :: '<' :: rest => (groupName rest).map fun r => (.captured (some r.1), r.2)
  | '?' :: rest =>
      match flagLetters {} false false rest with
      | some (change, ')' :: left) =>
          if change.isEmpty then none else some (.flagsOnly change, left)
      | some (change, _ :: left) => some (.grouped change, left)
      | _ => none
  | _ => some (.captured none, cs)

/-! ## Patterns -/

/-- The items of one branch as one pattern. -/
def concatenate (items : List Item) : Item :=
  match items with
  | [] => { pattern := .empty, depth := 0 }
  | [item] => { item with repeatable := true }
  | _ =>
      { pattern := .sequence (items.map (·.pattern))
        depth := items.foldl (fun d item => max d item.depth) 0 + 1 }

/-- The branches as one pattern. -/
def alternate (branches : List Item) : Item :=
  match branches with
  | [branch] => branch
  | _ =>
      { pattern := .choice (branches.map (·.pattern))
        depth := branches.foldl (fun d item => max d item.depth) 0 + 1 }

/-- The last item repeated; there must be one that is not a change of flags. -/
def repeatLast (items : List Item) (least : Nat) (most : Option Nat) : Option (List Item) :=
  match items with
  | [] => none
  | item :: before =>
      if item.repeatable then
        some ({ pattern := .repeated item.pattern least most, depth := item.depth + 1 } :: before)
      else none

/-- A character as a pattern. -/
def literalItem (flags : Flags) (c : Char) : Item :=
  let s : CharSet := .single c
  let folded :=
    if !flags.ignoreCase then s
    else if flags.unicode then Unicode.foldCase s
    else Unicode.foldAsciiCase s
  { pattern := .chars folded, depth := 0 }

/-- The pattern of a dot. -/
def dotItem (flags : Flags) : Option Item :=
  if !flags.unicode then none
  else
    let excluded : CharSet :=
      if flags.dotMatchesNewLine then .empty
      else if flags.crlf then ⟨[⟨0xA, 0xA⟩, ⟨0xD, 0xD⟩]⟩
      else .range 0xA 0xA
    some { pattern := .chars excluded.complement, depth := 0 }

/-- The condition of a circumflex. -/
def startLook (flags : Flags) : Look :=
  if flags.manyLines then (if flags.crlf then .startLineCrlf else .startLine) else .startText

/-- The condition of a dollar sign. -/
def endLook (flags : Flags) : Look :=
  if flags.manyLines then (if flags.crlf then .endLineCrlf else .endLine) else .endText

/-- A mark that is neither a set in brackets, nor a group, nor a count. -/
def primitive (flags : Flags) (cs : List Char) : Option (Item × List Char) :=
  let lookItem (l : Look) : Item := { pattern := .look l, depth := 0 }
  match cs with
  | [] => none
  | '\\' :: rest =>
      (escape flags rest).map fun (mark, left) =>
        match mark with
        | .literal c => (literalItem flags c, left)
        | .set s => ({ pattern := .chars s, depth := 0 }, left)
        | .look l => (lookItem l, left)
  | '.' :: rest => (dotItem flags).map (·, rest)
  | '^' :: rest => some (lookItem (startLook flags), rest)
  | '$' :: rest => some (lookItem (endLook flags), rest)
  | c :: rest => some (literalItem flags c, rest)

/-- What was read of a group: the finished branches and the items of the present one, both with the
last one first, and the names of groups so far. -/
structure Progress where
  branches : List Item := []
  items : List Item := []
  names : List String := []

/-- The group up to the closing parenthesis or the end, which is left unread.  A step that leaves no
fewer characters than it got is refused. -/
def groupBody (flags : Flags) (progress : Progress) (cs : List Char) :
    Option ((Item × List String) × List Char) :=
  let finish : Item × List String :=
    (alternate ((concatenate progress.items.reverse :: progress.branches).reverse), progress.names)
  let push (item : Item) : Progress := { progress with items := item :: progress.items }
  match h : skipSpaced flags.spaced cs with
  | [] => some (finish, [])
  | c :: rest =>
      if hrest : rest.length < cs.length then
        if c = ')' then some (finish, c :: rest)
        else if c = '(' then
          match groupOpening (skipSpaced flags.spaced rest) with
          | none => none
          | some (.flagsOnly change, left) =>
              if _h : left.length < cs.length then
                groupBody (change.apply flags)
                  (push { pattern := .empty, depth := 0, repeatable := false }) left
              else none
          | some (opening, body) =>
              let inner :=
                match opening with
                | .grouped change => change.apply flags
                | _ => flags
              let name? :=
                match opening with
                | .captured name => name
                | _ => none
              if name?.any progress.names.contains then none
              else if _h : body.length < cs.length then
                match groupBody inner { names := name?.toList ++ progress.names } body with
                | some ((item, names), ')' :: left) =>
                    if _h : left.length < cs.length then
                      let pattern :=
                        match opening with
                        | .captured _ => Pattern.capture item.pattern
                        | _ => item.pattern
                      groupBody flags
                        { progress with
                          items := { pattern, depth := item.depth + 1 } :: progress.items
                          names := names } left
                    else none
                | _ => none
              else none
        else
          let step : Option (Progress × List Char) :=
            if c = '|' then
              some ({ progress with
                branches := concatenate progress.items.reverse :: progress.branches
                items := [] }, rest)
            else if c = '[' then (bracketed flags rest).map fun r => (push r.1, r.2)
            else if c = '?' || c = '*' || c = '+' then
              (repeatLast progress.items (if c = '+' then 1 else 0)
                (if c = '?' then some 1 else none)).map fun items =>
                  ({ progress with items }, skipLazyMark rest)
            else if c = '{' then do
              let ((least, most), left) ← counts flags.spaced rest
              let items ← repeatLast progress.items least most
              return ({ progress with items }, skipLazyMark left)
            else (primitive flags (c :: rest)).map fun r => (push r.1, r.2)
          match step with
          | none => none
          | some (next, left) =>
              if _h : left.length < cs.length then groupBody flags next left else none
      else none
termination_by cs.length

/-- Reads a pattern; texts that are none, are nested too deep or are too large are refused. -/
def parse? (source : String) : Option Pattern :=
  match groupBody {} {} source.toList with
  | some ((item, _), []) =>
      if item.depth ≤ deepest && item.pattern.fits then some item.pattern else none
  | _ => none

end FormLogic.Pattern
