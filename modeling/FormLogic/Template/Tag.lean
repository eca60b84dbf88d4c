import FormLogic.Json.Parser
import FormLogic.Template.Basic

/-!
# Reading the inside of a tag

References, literals, calls and their arguments.  A reader takes the unread characters and answers
what it has read together with the characters that it leaves.  It refuses its input either because
something else may stand there, or because of a literal that is no JSON value, which spoils the
template as a whole.
-/

namespace FormLogic.Template

/-- Why a reader refuses its input. -/
inductive Refusal where
  /-- The input has another form. -/
  | mismatch
  /-- The input has the form of a literal but is none. -/
  | badLiteral
  deriving DecidableEq, Repr

/-- A reader of unread characters. -/
abbrev Reader (α : Type) := List Char → Except Refusal (α × List Char)

/-- The second reader where the first one finds another form. -/
def orElse {α : Type} (first second : Reader α) : Reader α := fun cs =>
  match first cs with
  | .error .mismatch => second cs
  | result => result

/-- The reader as often as it finds its form, blanks in between, and at most `steps` times. -/
def many {α : Type} (item : Reader α) : (steps : Nat) → Reader (List α)
  | 0, cs => .ok ([], cs)
  | steps + 1, cs =>
      match item (Json.skipSpace cs) with
      | .error .mismatch => .ok ([], cs)
      | .error .badLiteral => .error .badLiteral
      | .ok (a, rest) => do
          let (as, rest) ← many item steps rest
          return (a :: as, rest)

/-- The given characters. -/
def exactly (expected : List Char) : Reader Unit := fun cs =>
  if expected.isPrefixOf cs then .ok ((), cs.drop expected.length) else .error .mismatch

/-- A character of names: an ASCII letter or digit, one of three marks, or any character outside
ASCII. -/
def isSymbol (c : Char) : Bool :=
  c.isAlphanum || c == '_' || c == '-' || c == '$' || 0x80 ≤ c.toNat

/-- The given word, not followed by another character of names. -/
def keyword (word : List Char) : Reader Unit := fun cs => do
  let ((), rest) ← exactly word cs
  match rest with
  | c :: _ => if isSymbol c then .error .mismatch else .ok ((), rest)
  | [] => .ok ((), rest)

/-- One or more characters of a class. -/
def run (p : Char → Bool) : Reader (List Char) := fun cs =>
  match cs.span p with
  | ([], _) => .error .mismatch
  | (taken, rest) => .ok (taken, rest)

/-- A name. -/
def identifier : Reader String := fun cs => do
  let (name, rest) ← run isSymbol cs
  return (String.ofList name, rest)

/-- The name of a template, which may hold slashes and dots. -/
def templateName : Reader String := fun cs => do
  let (name, rest) ← run (fun c => isSymbol c || c == '/' || c == '.') cs
  return (String.ofList name, rest)

/-! ### References -/

/-- A mark between two steps of a reference. -/
def isSeparator (c : Char) : Bool := c == '.' || c == '/'

/-- A step by name: a name, or any text in brackets.  The name `this` leads nowhere else. -/
def namedStep : Reader (List Segment) := fun cs =>
  let step (name : List Char) : List Segment :=
    if name == "this".toList then [] else [.named (String.ofList name)]
  match cs with
  | '[' :: inner =>
      match inner.span (· != ']') with
      | (name, _ :: rest) => .ok (step name, rest)
      | (_, []) => .error .mismatch
  | _ => do
      let (name, rest) ← run isSymbol cs
      return (step name, rest)

/-- A word with a separator after it. -/
def separated (word : List Char) : Reader Unit := fun cs => do
  let ((), rest) ← exactly word cs
  match rest with
  | c :: rest => if isSeparator c then .ok ((), rest) else .error .mismatch
  | [] => .error .mismatch

/-- The given reader, or nothing in place of it. -/
def optional {α : Type} (default : α) (reader : Reader α) : Reader α :=
  orElse reader fun cs => .ok (default, cs)

/-- Steps upwards, each with a separator after it. -/
def upwardSteps : (steps : Nat) → Reader (List Segment)
  | 0, cs => .ok ([], cs)
  | steps + 1, cs =>
      match separated ['.', '.'] cs with
      | .ok ((), rest) => do
          let (more, rest) ← upwardSteps steps rest
          return (.up :: more, rest)
      | .error _ => .ok ([], cs)

/-- Further steps by name, each with a separator before it. -/
def furtherSteps : (steps : Nat) → Reader (List Segment)
  | 0, cs => .ok ([], cs)
  | steps + 1, cs =>
      match cs with
      | c :: rest =>
          if isSeparator c then
            match namedStep rest with
            | .ok (step, rest) => do
                let (more, rest) ← furtherSteps steps rest
                return (step ++ more, rest)
            | .error _ => .ok ([], cs)
          else .ok ([], cs)
      | [] => .ok ([], cs)

/-- A reference. -/
def reference : Reader Reference := fun cs => do
  let ((), rest) ← optional () (orElse (separated "this".toList) (exactly ['.', '/'])) cs
  let (root, rest) ← optional [] (fun cs => do
    let ((), rest) ← separated "@root".toList cs
    return ([Segment.root], rest)) rest
  let (locals, rest) ← optional [] (fun cs => do
    let ((), rest) ← exactly ['@'] cs
    return ([Segment.locals], rest)) rest
  let (ups, rest) ← upwardSteps rest.length rest
  let (first, rest) ← namedStep rest
  let (more, rest) ← furtherSteps rest.length rest
  let text := String.ofList (cs.take (cs.length - rest.length))
  return (⟨text, root ++ locals ++ ups ++ first ++ more⟩, rest)

/-! ### Literals -/

/-- The characters of a string up to its closing quote, escapes as they are written. -/
def stringBody (quote : Char) : List Char → Except Refusal (List Char × List Char)
  | [] => .error .mismatch
  | '\\' :: 'u' :: a :: b :: c :: d :: rest => do
      if [a, b, c, d].all (fun c => (Json.hexDigit c).isSome) then
        let (body, rest) ← stringBody quote rest
        return ('\\' :: 'u' :: a :: b :: c :: d :: body, rest)
      else .error .mismatch
  | '\\' :: c :: rest => do
      if c == quote || "\\/bfnrt".toList.contains c then
        let (body, rest) ← stringBody quote rest
        return ('\\' :: c :: body, rest)
      else .error .mismatch
  | c :: rest => do
      if c == quote then return ([], rest)
      else if c == '\\' then .error .mismatch
      else
        let (body, rest) ← stringBody quote rest
        return (c :: body, rest)

/-- A string between single quotes as it is written between double quotes. -/
def requote : List Char → List Char
  | '\\' :: '\'' :: rest => '\'' :: requote rest
  | '"' :: rest => '\\' :: '"' :: requote rest
  | c :: rest => c :: requote rest
  | [] => []

/-- A string literal in either kind of quotes. -/
def stringLiteral : Reader Unit := fun cs => do
  match cs with
  | '"' :: rest => do
      let (_, rest) ← stringBody '"' rest
      return ((), rest)
  | '\'' :: rest => do
      let (_, rest) ← stringBody '\'' rest
      return ((), rest)
  | _ => .error .mismatch

/-- A number: digits with an optional sign, point, and exponent after a capital letter. -/
def numberLiteral : Reader Unit := fun cs => do
  let ((), rest) ← optional () (exactly ['-']) cs
  let (_, rest) ← run Char.isDigit rest
  let ((), rest) ← optional () (exactly ['.']) rest
  let rest := rest.dropWhile Char.isDigit
  let ((), rest) ← optional () (fun cs => do
    let ((), rest) ← exactly ['E'] cs
    let ((), rest) ← optional () (exactly ['-']) rest
    let (_, rest) ← run Char.isDigit rest
    return ((), rest)) rest
  match rest with
  | c :: _ => if isSymbol c then .error .mismatch else .ok ((), rest)
  | [] => .ok ((), rest)

/-- Items between two brackets, with commas in between or before them. -/
def bracketedList (closing : Char) (item : Reader Unit) : Reader Unit := fun cs => do
  let ((), rest) ← optional () (fun cs => item (Json.skipSpace cs)) cs
  let (_, rest) ← many (fun cs => do
    let ((), rest) ← exactly [','] cs
    item (Json.skipSpace rest)) rest.length rest
  exactly [closing] (Json.skipSpace rest)

/-- A literal, nested at most `depth` deep; its value is read from its text. -/
def literalForm : (depth : Nat) → Reader Unit
  | 0, _ => .error .mismatch
  | depth + 1, cs =>
      match cs with
      | '[' :: rest => bracketedList ']' (literalForm depth) rest
      | '{' :: rest =>
          bracketedList '}' (fun cs => do
            let ((), rest) ← stringLiteral cs
            let ((), rest) ← exactly [':'] (Json.skipSpace rest)
            literalForm depth (Json.skipSpace rest)) rest
      | _ =>
          orElse stringLiteral (orElse numberLiteral (orElse (keyword "null".toList)
            (orElse (keyword "true".toList) (keyword "false".toList)))) cs

/-- A JSON value where a template has a literal. -/
def literal : Reader Argument := fun cs => do
  let ((), rest) ← literalForm cs.length cs
  let source :=
    match cs with
    | '\'' :: _ =>
        '"' :: requote ((cs.take (cs.length - rest.length - 1)).drop 1) ++ ['"']
    | _ => cs.take (cs.length - rest.length)
  match Json.parse (String.ofList source) with
  | .ok value => .ok (.literal value, rest)
  | .error _ => .error .badLiteral

/-! ### Calls -/

/-- The arguments of a call, in two kinds. -/
inductive Operand where
  | argument (value : Argument)
  | option (name : String) (value : Argument)

/-- The arguments among the operands. -/
def argumentsOf (operands : List Operand) : List Argument :=
  operands.filterMap fun
    | .argument value => some value
    | .option _ _ => none

/-- The options among the operands. -/
def optionsOf (operands : List Operand) : List (String × Argument) :=
  operands.filterMap fun
    | .option name value => some (name, value)
    | .argument _ => none

/-- The given word stands first, and no other name follows it. -/
def reserved (word : List Char) (cs : List Char) : Bool :=
  word.isPrefixOf cs &&
    match Json.skipSpace (cs.drop word.length) with
    | c :: _ => !isSymbol c
    | [] => true

/-- An option, or an argument that does not start with one of the two words of the grammar. -/
def operand (argument : Reader Argument) : Reader Operand :=
  let plain : Reader Argument := fun cs =>
    if reserved "as".toList cs || reserved "else".toList cs then .error .mismatch else argument cs
  orElse
    (fun cs => do
      let (name, rest) ← identifier cs
      let ((), rest) ← exactly ['='] (Json.skipSpace rest)
      let (value, rest) ← plain (Json.skipSpace rest)
      return (.option name value, rest))
    (fun cs => do
      let (value, rest) ← plain cs
      return (.argument value, rest))

/-- A name with one operand or more. -/
def application (argument : Reader Argument) : Reader Call := fun cs => do
  let (name, rest) ← identifier cs
  let (operands, rest) ← many (operand argument) rest.length rest
  if operands.isEmpty then .error .mismatch
  else return (⟨.word name, argumentsOf operands, optionsOf operands⟩, rest)

/-- A reference as the name of a call without operands. -/
def bareReference : Reader Call := fun cs => do
  let (target, rest) ← reference cs
  return (⟨.reference target, [], []⟩, rest)

/-- An argument, nested at most `depth` deep: a literal, a reference, or a call in parentheses. -/
def argument : (depth : Nat) → Reader Argument
  | 0, _ => .error .mismatch
  | depth + 1, cs =>
      match cs with
      | '(' :: rest => do
          let (call, rest) ← orElse (application (argument depth)) bareReference
            (Json.skipSpace rest)
          let ((), rest) ← exactly [')'] (Json.skipSpace rest)
          return (.call call.name call.arguments call.options, rest)
      | _ =>
          orElse literal (fun cs => do
            let (target, rest) ← reference cs
            return (.reference target, rest)) cs

/-- The name of a value: a call in parentheses or a reference. -/
def valueName : Reader Call := fun cs => do
  match cs with
  | '(' :: _ => do
      let (name, rest) ← argument (cs.length + 1) cs
      return (⟨name, [], []⟩, rest)
  | _ => bareReference cs

/-- What a value tag holds. -/
def valueCall : Reader Call := fun cs =>
  orElse (application (argument (cs.length + 1))) valueName cs

/-- The names of a block's item and key. -/
def itemNames : Reader (List String) := fun cs => do
  let ((), rest) ← exactly "as".toList cs
  let ((), rest) ← exactly ['|'] (Json.skipSpace rest)
  let (first, rest) ← identifier (Json.skipSpace rest)
  let (second, rest) ← optional [] (fun cs => do
    let (name, rest) ← identifier (Json.skipSpace cs)
    return ([name], rest)) rest
  let ((), rest) ← exactly ['|'] (Json.skipSpace rest)
  return (first :: second, rest)

/-- A name with any number of operands, and the names that a block gives to its item. -/
def blockCall : Reader (Call × List String) := fun cs => do
  let (name, rest) ← identifier cs
  let (operands, rest) ← many (operand (argument (cs.length + 1))) rest.length rest
  let (names, rest) ← optional [] (fun cs => itemNames (Json.skipSpace cs)) rest
  return ((⟨.word name, argumentsOf operands, optionsOf operands⟩, names), rest)

/-- The name of a template with any number of operands. -/
def inclusionCall : Reader Call := fun cs => do
  let (name, rest) ← orElse
    (fun cs => do
      let (name, rest) ← templateName cs
      return (Argument.word name, rest))
    (fun cs => do
      let (call, rest) ← valueName cs
      return (call.name, rest)) cs
  let (operands, rest) ← many (operand (argument (cs.length + 1))) rest.length rest
  return (⟨name, argumentsOf operands, optionsOf operands⟩, rest)

end FormLogic.Template
