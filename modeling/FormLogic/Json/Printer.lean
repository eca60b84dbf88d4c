import FormLogic.Binary64.Text
import FormLogic.Json.Basic

/-!
# Printing JSON

Two layouts of a JSON value: on one line without blanks, and on many lines with an indentation of
two blanks a level.  Characters outside ASCII stand for themselves.
-/

namespace FormLogic

/-- The digits of a number: an integer in full, another number in its shortest form. -/
def Number.toText : Number → String
  | .integer n => (if n < 0 then "-" else "") ++ Binary64.digitsText n.natAbs
  | .real x => x.text

namespace Json

/-- A character as it stands between the quotes of a string. -/
def escapeChar (c : Char) : List Char :=
  if c = '"' then ['\\', '"']
  else if c = '\\' then ['\\', '\\']
  else if c = '\x08' then ['\\', 'b']
  else if c = '\x0c' then ['\\', 'f']
  else if c = '\n' then ['\\', 'n']
  else if c = '\r' then ['\\', 'r']
  else if c = '\t' then ['\\', 't']
  else if c.toNat < 0x20 then
    ['\\', 'u', '0', '0', Nat.digitChar (c.toNat / 16), Nat.digitChar (c.toNat % 16)]
  else [c]

/-- A string in quotes. -/
def quote (s : String) : String :=
  "\"" ++ String.ofList (s.toList.flatMap escapeChar) ++ "\""

/-- The parts with a separator between each two. -/
def separate (separator : String) : List String → String
  | [] => ""
  | [part] => part
  | part :: parts => part ++ separator ++ separate separator parts

mutual

/-- The value on one line, without blanks. -/
def print : Json → String
  | .null => "null"
  | .bool true => "true"
  | .bool false => "false"
  | .number n => n.toText
  | .text s => quote s
  | .array items => "[" ++ separate "," (printItems items) ++ "]"
  | .object entries => "\x7b" ++ separate "," (printEntries entries) ++ "\x7d"

def printItems : List Json → List String
  | [] => []
  | item :: items => print item :: printItems items

def printEntries : List (String × Json) → List String
  | [] => []
  | (key, value) :: entries => (quote key ++ ":" ++ print value) :: printEntries entries

end

/-- A line break followed by the indentation of the given level. -/
def newLine (level : Nat) : String :=
  "\n" ++ String.ofList (List.replicate (2 * level) ' ')

/-- Parts on lines of their own between two brackets; no parts leave the brackets alone. -/
def block (level : Nat) (opening closing : String) (parts : List String) : String :=
  if parts.isEmpty then opening ++ closing
  else
    opening ++ newLine (level + 1) ++ separate ("," ++ newLine (level + 1)) parts ++
      newLine level ++ closing

mutual

/-- The value on many lines, where the given level is that of its first line. -/
def printLines (level : Nat) : Json → String
  | .array items => block level "[" "]" (printItemLines (level + 1) items)
  | .object entries => block level "\x7b" "\x7d" (printEntryLines (level + 1) entries)
  | .null => print .null
  | .bool b => print (.bool b)
  | .number n => print (.number n)
  | .text s => print (.text s)

def printItemLines (level : Nat) : List Json → List String
  | [] => []
  | item :: items => printLines level item :: printItemLines level items

def printEntryLines (level : Nat) : List (String × Json) → List String
  | [] => []
  | (key, value) :: entries =>
      (quote key ++ ": " ++ printLines level value) :: printEntryLines level entries

end

/-- The value on many lines. -/
def pretty (value : Json) : String := printLines 0 value

end Json

end FormLogic
