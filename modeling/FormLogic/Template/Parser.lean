import FormLogic.Template.Tag
import FormLogic.Text.Blank

/-!
# Reading templates

A template is cut into texts and tags; then the tags are matched into blocks.  On the way the blanks
around tags are removed where a tilde asks for it, and where a tag that prints nothing stands on a
line of its own.
-/

namespace FormLogic.Template

/-- What a tag does. -/
inductive Tag where
  | value (call : Call)
  | opening (call : Call) (itemNames : List String)
  | otherwise
  | otherwiseCall (call : Call) (itemNames : List String)
  | closing (name : String)
  | inclusion (call : Call)
  | inclusionOpening (call : Call)
  | decorator (call : Call)
  | decoratorOpening (call : Call)
  | comment

/-- A tag, and whether a tilde stands at its two ends. -/
structure TrimmedTag where
  tag : Tag
  trimsBefore : Bool
  trimsAfter : Bool

/-- A part of a template's text. -/
inductive Token where
  /-- Text between tags. -/
  | text (content : List Char)
  /-- Text between the two tags of a block that reads no tags. -/
  | verbatim (content : List Char)
  /-- A tag, with the characters before it, the nearest first, and those after it. -/
  | tag (tag : TrimmedTag) (before after : List Char)

/-! ### Tags -/

/-- An optional tilde. -/
def tilde : Reader Bool :=
  optional false fun cs => do
    let ((), rest) ← exactly ['~'] (Json.skipSpace cs)
    return (true, rest)

/-- A tag between the given braces, with a mark after the opening ones. -/
def enclosed (opening mark closing : List Char) (inside : Reader Tag) : Reader TrimmedTag :=
  fun cs => do
    let ((), rest) ← exactly opening cs
    let (trimsBefore, rest) ← tilde rest
    let ((), rest) ← exactly mark (Json.skipSpace rest)
    let (tag, rest) ← inside (Json.skipSpace rest)
    let (trimsAfter, rest) ← tilde rest
    let ((), rest) ← exactly closing (Json.skipSpace rest)
    return (⟨tag, trimsBefore, trimsAfter⟩, rest)

def valueTag : Reader Tag := fun cs => do
  let (call, rest) ← valueCall cs
  return (.value call, rest)

/-- The word or the mark that starts an alternative. -/
def otherwiseMark : Reader Unit := orElse (exactly "else".toList) (exactly ['^'])

/-- The first of several readers that finds its form. -/
def firstOf {α : Type} : List (Reader α) → Reader α
  | [], _ => .error .mismatch
  | reader :: readers, cs => orElse reader (firstOf readers) cs

/-- The characters up to the given ones, and those after them. -/
def upTo (stop : List Char) : List Char → Option (List Char × List Char)
  | [] => if stop.isEmpty then some ([], []) else none
  | c :: cs =>
      if stop.isPrefixOf (c :: cs) then some ([], (c :: cs).drop stop.length)
      else (upTo stop cs).map fun (taken, rest) => (c :: taken, rest)

/-- A comment between the given marks. -/
def commentBetween (opening closing : List Char) : Reader TrimmedTag := fun cs => do
  let ((), rest) ← exactly opening cs
  match upTo closing rest with
  | some (_, rest) => .ok (⟨.comment, false, false⟩, rest)
  | none => .error .mismatch

def twoOpen : List Char := ['{', '{']
def twoClose : List Char := ['}', '}']

/-- A tag between double braces with a mark. -/
def marked (mark : String) (inside : Reader Tag) : Reader TrimmedTag :=
  enclosed twoOpen mark.toList twoClose inside

/-- Any tag but those of a verbatim block. -/
def tag : Reader TrimmedTag :=
  firstOf [
    marked "" (fun cs => do
      let ((), rest) ← otherwiseMark cs
      return (.otherwise, rest)),
    marked "" (fun cs => do
      let ((), rest) ← otherwiseMark cs
      let ((call, names), rest) ← blockCall (Json.skipSpace rest)
      return (.otherwiseCall call names, rest)),
    marked "" valueTag,
    enclosed ['{', '{', '{'] [] ['}', '}', '}'] valueTag,
    marked "\x7b" (fun cs => do
      let (tag, rest) ← valueTag cs
      let ((), rest) ← exactly ['}'] (Json.skipSpace rest)
      return (tag, rest)),
    marked "&" (fun cs => do
      let (call, rest) ← valueName cs
      return (.value call, rest)),
    marked "#" (fun cs => do
      let ((call, names), rest) ← blockCall cs
      return (.opening call names, rest)),
    marked "/" (fun cs => do
      let (name, rest) ← templateName cs
      return (.closing name, rest)),
    commentBetween "\x7b\x7b!--".toList "--\x7d\x7d".toList,
    commentBetween "\x7b\x7b!".toList twoClose,
    marked "*" (fun cs => do
      let ((call, _), rest) ← blockCall cs
      return (.decorator call, rest)),
    marked "#" (fun cs => do
      let ((), rest) ← exactly ['*'] cs
      let ((call, _), rest) ← blockCall (Json.skipSpace rest)
      return (.decoratorOpening call, rest)),
    marked ">" (fun cs => do
      let (call, rest) ← inclusionCall cs
      return (.inclusion call, rest)),
    marked "#" (fun cs => do
      let ((), rest) ← exactly ['>'] cs
      let (call, rest) ← inclusionCall (Json.skipSpace rest)
      return (.inclusionOpening call, rest))]

def fourOpen : List Char := ['{', '{', '{', '{']
def fourClose : List Char := ['}', '}', '}', '}']

/-- The tag that opens a verbatim block. -/
def verbatimOpening : Reader TrimmedTag :=
  enclosed fourOpen [] fourClose fun cs => do
    let ((call, names), rest) ← blockCall cs
    return (.opening call names, rest)

/-- The tag that closes a verbatim block. -/
def verbatimClosing : Reader TrimmedTag :=
  enclosed fourOpen ['/'] fourClose fun cs => do
    let (name, rest) ← identifier cs
    return (.closing name, rest)

/-! ### Texts -/

/-- The text before the given braces, where `slashes` counts the backslashes just before.  A
backslash before double braces lets them stand for themselves; of more backslashes before double
braces, one is dropped. -/
def textUntil (stop : List Char) : (slashes : Nat) → List Char → List Char × List Char
  | slashes, [] => (List.replicate slashes '\\', [])
  | slashes, '\\' :: cs => textUntil stop (slashes + 1) cs
  | 1, '{' :: '{' :: '{' :: '{' :: cs =>
      let (text, rest) := textUntil stop 0 cs
      ('{' :: '{' :: '{' :: '{' :: text, rest)
  | 1, '{' :: '{' :: cs =>
      let (text, rest) := textUntil stop 0 cs
      ('{' :: '{' :: text, rest)
  | slashes, c :: cs =>
      let kept := if twoOpen.isPrefixOf (c :: cs) then slashes - 1 else slashes
      if stop.isPrefixOf (c :: cs) then (List.replicate kept '\\', c :: cs)
      else
        let (text, rest) := textUntil stop 0 cs
        (List.replicate kept '\\' ++ c :: text, rest)

/-- The characters in front of the rest of a text, the nearest first, before those in front of the
text itself. -/
def passed (before cs rest : List Char) : List Char :=
  (cs.take (cs.length - rest.length)).reverse ++ before

/-- A verbatim block at the start of the input. -/
def verbatimTokens (before cs : List Char) : Except Refusal (List Token × List Char) := do
  let (opening, inner) ← verbatimOpening cs
  let (text, rest) := textUntil fourOpen 0 (Json.skipSpace inner)
  let (closing, after) ← verbatimClosing rest
  return ([.tag opening before inner, .verbatim text, .tag closing (passed before cs rest) after],
    after)

/-- The tokens of a template, at most `steps` tags long, after the characters `before`. -/
def tokens : (steps : Nat) → (before : List Char) → List Char → Except Refusal (List Token)
  | 0, _, _ => .error .mismatch
  | steps + 1, before, cs => do
      let (text, rest) := textUntil twoOpen 0 cs
      let found := if text.isEmpty then [] else [Token.text text]
      let before := passed before cs rest
      match rest with
      | [] => return found
      | _ =>
          let (tags, after) ← orElse (verbatimTokens before) (fun cs => do
            let (tag, after) ← tag cs
            return ([.tag tag before after], after)) rest
          return found ++ tags ++ (← tokens steps (passed before rest after) after)

/-! ### Blanks around tags -/

/-- A blank inside a line. -/
def isLineBlank (c : Char) : Bool := c == ' ' || c == '\t'

/-- The characters start with the end of a line. -/
def startsNewLine : List Char → Bool
  | c :: _ => c == '\n' || c == '\r'
  | [] => false

/-- Nothing but blanks stands between the tag and the end of its line. -/
def endsLine (after : List Char) : Bool :=
  after.isEmpty || startsNewLine (after.dropWhile isLineBlank)

/-- Nothing but blanks stands between the start of the line and the tag. -/
def startsLine (before : List Char) : Bool :=
  let rest := before.dropWhile isLineBlank
  rest.isEmpty || startsNewLine rest

/-- The text without the blanks at its start and the end of line after them. -/
def dropBlankLine (text : List Char) : List Char :=
  match text.dropWhile isLineBlank with
  | '\r' :: '\n' :: rest => rest
  | '\n' :: rest => rest
  | rest => rest

/-- The text without the characters of a class at its end. -/
def trimEndWhile (p : Char → Bool) (text : String) : String :=
  String.ofList (text.toList.reverse.dropWhile p).reverse

/-- The elements, latest first, with blanks removed at the end of a latest element that is text. -/
def trimLatest (p : Char → Bool) : List Element → List Element
  | .raw text :: elements => .raw (trimEndWhile p text) :: elements
  | elements => elements

/-! ### Blocks -/

/-- What a tag has opened and no tag has closed so far. -/
inductive Opening where
  | block (call : Call) (itemNames : List String)
  | alternativeBlock (call : Call) (itemNames : List String)
  | alternative
  | inclusion (call : Call)
  | decorator (call : Call)

/-- The state of matching tags into blocks. -/
structure Assembly where
  /-- The elements of the innermost open block so far, latest first. -/
  elements : List Element
  /-- The open blocks, innermost first, each with the elements before it, latest first. -/
  opened : List (Opening × List Element)
  /-- The last tag asks for the removal of blanks after it. -/
  dropsBlanks : Bool
  /-- The last tag stands on a line of its own, whose end is to be removed. -/
  dropsLineEnd : Bool

namespace Assembly

/-- Adds an element to the innermost open block. -/
def add (a : Assembly) (element : Element) : Assembly :=
  { a with elements := element :: a.elements }

/-- Text as the last tag leaves it. -/
def trimmed (a : Assembly) (text : List Char) : Element :=
  .raw (String.ofList
    (if a.dropsBlanks then text.dropWhile Text.isBlankChar
    else if a.dropsLineEnd then dropBlankLine text
    else text))

/-- Adds text between tags. -/
def addText (a : Assembly) (text : List Char) : Assembly :=
  if text.all Json.isSpace && a.dropsBlanks then a
  else { a.add (a.trimmed text) with dropsLineEnd := false }

/-- Opens a block. -/
def openBlock (a : Assembly) (opening : Opening) : Assembly :=
  { a with elements := [], opened := (opening, a.elements) :: a.opened }

/-- Notes whether a tag that prints nothing stands on a line of its own, in which case the blanks
before it go. -/
def standAlone (a : Assembly) (trims : Bool) (before after : List Char) : Assembly :=
  let alone := endsLine after && startsLine before
  { a with
    elements := if alone && trims then trimLatest isLineBlank a.elements else a.elements
    dropsLineEnd := alone }

/-- The name of a call as a closing tag repeats it. -/
def nameOf (call : Call) : Option String :=
  match call.name with
  | .word name => some name
  | .reference target => some target.text
  | _ => none

/-- Closes the branches of a block from the last one to the first; the elements of the last branch
and the alternative that follows the present branch come along. -/
def closeBranches (name : String) (inverse : Option (List Element)) (elements : List Element) :
    List (Opening × List Element) → Option (List Element × List (Opening × List Element))
  | (.alternative, previous) :: opened =>
      closeBranches name (some elements.reverse) previous opened
  | (.alternativeBlock call names, previous) :: opened =>
      closeBranches name (some [.block call names elements.reverse inverse]) previous opened
  | (.block call names, outer) :: opened =>
      if nameOf call == some name then
        some (.block call names elements.reverse inverse :: outer, opened)
      else none
  | (.inclusion call, outer) :: opened =>
      if nameOf call == some name then
        some (.inclusion call [] (some elements.reverse) :: outer, opened)
      else none
  | (.decorator call, outer) :: opened =>
      if nameOf call == some name then
        some (.decorator call (some elements.reverse) :: outer, opened)
      else none
  | [] => none

/-- Closes the innermost block. -/
def close (a : Assembly) (name : String) : Option Assembly :=
  (closeBranches name none a.elements a.opened).map fun (elements, opened) =>
    { a with elements, opened }

/-- The innermost block can have another branch. -/
def takesBranch (a : Assembly) : Bool :=
  match a.opened with
  | (.block _ _, _) :: _ => true
  | (.alternativeBlock _ _, _) :: _ => true
  | _ => false

/-- Adds what a tag does. -/
def addTag (a : Assembly) (before : List Char) (t : TrimmedTag) : Option Assembly :=
  match t.tag with
  | .value call => some (a.add (.value call))
  | .comment => some (a.add .comment)
  | .decorator call => some (a.add (.decorator call none))
  | .inclusion call =>
      let indent := if t.trimsBefore then [] else (before.takeWhile isLineBlank).reverse
      some (a.add (.inclusion call indent none))
  | .opening call names => some (a.openBlock (.block call names))
  | .inclusionOpening call => some (a.openBlock (.inclusion call))
  | .decoratorOpening call => some (a.openBlock (.decorator call))
  | .otherwise => if a.takesBranch then some (a.openBlock .alternative) else none
  | .otherwiseCall call names =>
      if a.takesBranch then some (a.openBlock (.alternativeBlock call names)) else none
  | .closing name => a.close name

/-- Adds a token; nothing if it is a tag that has no place here. -/
def addToken (a : Assembly) : Token → Option Assembly
  | .text content => some (a.addText content)
  | .verbatim content => some (a.add (a.trimmed content))
  | .tag t before after =>
      let a :=
        match t.tag with
        | .comment => a.standAlone true before after
        | tag =>
            let a :=
              { a with
                elements :=
                  if t.trimsBefore then trimLatest Text.isBlankChar a.elements else a.elements
                dropsBlanks := t.trimsAfter }
            match tag with
            | .value _ => a
            | .inclusion _ => a.standAlone false before after
            | _ => a.standAlone true before after
      a.addTag before t

end Assembly

/-- The elements of a template's text, if every tag can be read and has its place. -/
def elements? (source : String) : Option (List Element) := do
  let cs := source.toList
  let found ← (tokens (cs.length + 1) [] cs).toOption
  let a ← found.foldlM Assembly.addToken ⟨[], [], false, false⟩
  if a.opened.isEmpty then some a.elements.reverse else none

end FormLogic.Template
