import FormLogic.Configuration.Declaration
import FormLogic.Configuration.Policy

/-!
# Configuration documents

A configuration is a bare list of declarations, or a record of declarations and options.
-/

namespace FormLogic

/-- The options of a form as a whole. -/
structure Options where
  policy : Policy := .skip
  /-- Templates of messages, by code. -/
  messages : Dictionary String := []

namespace Options

def read? (source : Json) : Option Options := do
  let entries ← source.recordEntries ["invisibleFieldValidation", "messages"]
  return {
    policy := ← Json.entryOr .skip Policy.read? "invisibleFieldValidation" entries
    messages := ← Json.entryOr [] Json.asTexts "messages" entries }

def toJson (o : Options) : Json :=
  let messages : Option Json :=
    if o.messages.isEmpty then none
    else some (.object (o.messages.map fun (code, template) => (code, .text template)))
  .object (Json.withAttributes
    [("invisibleFieldValidation", some (.text o.policy.name)), ("messages", messages)] [])

end Options

/-- A configuration document in one of its two forms. -/
inductive Document where
  | elements (declarations : List Declaration)
  | record (declarations : List Declaration) (options : Options)

namespace Document

/-- The declarations of the root elements. -/
def declarations : Document → List Declaration
  | elements ds => ds
  | record ds _ => ds

/-- The options, which a bare list leaves at their defaults. -/
def options : Document → Options
  | elements _ => {}
  | record _ o => o

/-- Reads a record of declarations and options. -/
def readRecord? (source : Json) : Option Document := do
  let entries ← source.recordEntries ["elements", "options"]
  match Dictionary.lookup "elements" entries with
  | some (.array items) =>
      let declarations ← Declaration.readAll items
      let options ← Json.entryOr {} Options.read? "options" entries
      return .record declarations options
  | _ => none

/-- Reads a document.  A list is a bare list of declarations if all its items are declarations. -/
def read? (source : Json) : Option Document :=
  match source with
  | .array items =>
      match Declaration.readAll items with
      | some declarations => some (.elements declarations)
      | none => readRecord? source
  | _ => readRecord? source

def toJson : Document → Json
  | elements declarations => .array (Declaration.toJsonAll declarations)
  | record declarations options =>
      .ofEntries [("elements", .array (Declaration.toJsonAll declarations)),
        ("options", options.toJson)]

end Document

end FormLogic
