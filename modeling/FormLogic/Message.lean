import FormLogic.Template.Render

/-!
# Messages

Why a value of a form is refused is told by a code.  A catalog holds a template for each code, and a
message is such a template rendered for the field in question.
-/

namespace FormLogic

/-- Why a value is refused. -/
inductive Code where
  | required
  | typeMismatch
  | minLength
  | maxLength
  | pattern
  | invalidOption
  | minItems
  | maxItems
  | condition
  deriving DecidableEq, Repr

namespace Code

/-- The name of a code, under which a catalog holds its template. -/
def name : Code → String
  | required => "required"
  | typeMismatch => "type_mismatch"
  | minLength => "min_length"
  | maxLength => "max_length"
  | pattern => "pattern"
  | invalidOption => "invalid_option"
  | minItems => "min_items"
  | maxItems => "max_items"
  | condition => "condition"

/-- What the template of a code says after the label of the field, unless a form replaces it. -/
def wording : Code → String
  | required => "is required"
  | typeMismatch => "has an unexpected value type"
  | minLength => "must be at least \x7b\x7bmin\x7d\x7d characters"
  | maxLength => "must be at most \x7b\x7bmax\x7d\x7d characters"
  | pattern => "has an invalid format"
  | invalidOption => "must be one of the available options"
  | minItems => "must contain at least \x7b\x7bmin\x7d\x7d items"
  | maxItems => "must contain at most \x7b\x7bmax\x7d\x7d items"
  | condition => "is invalid"

/-- The template of a code unless a form replaces it. -/
def defaultTemplate (code : Code) : String :=
  "\x7b\x7blabel\x7d\x7d " ++ code.wording

/-- Every code. -/
def all : List Code :=
  [required, typeMismatch, minLength, maxLength, pattern, invalidOption, minItems, maxItems,
    condition]

end Code

/-- What a message is about: a field, and the bounds that its value has to keep. -/
structure Subject where
  label : String
  name : String
  least : Option Nat := none
  greatest : Option Nat := none
  deriving DecidableEq, Repr

/-- The data that a message's template is rendered for; a bound that there is not has no entry. -/
def Subject.data (s : Subject) : Json :=
  .ofEntries
    ([("label", .text s.label), ("name", .text s.name)] ++
      (s.least.map fun n => ("min", Json.ofNat n)).toList ++
      (s.greatest.map fun n => ("max", Json.ofNat n)).toList)

namespace Message

/-- Adds a template under a code; a text that is no template is passed over. -/
def addTemplate (catalog : Template.Catalog) (entry : String × String) : Template.Catalog :=
  match Template.elements? entry.2 with
  | some elements => Dictionary.insert entry.1 elements catalog
  | none => catalog

/-- The templates of all codes, with those of a form in place of the usual ones. -/
def catalog (overrides : Dictionary String) : Template.Catalog :=
  overrides.foldl addTemplate
    ((Code.all.map fun code => (code.name, code.defaultTemplate)).foldl addTemplate [])

/-- The message for a code.  Where there is no template, or it cannot be rendered, the message says
that the field is invalid. -/
def ofCode (catalog : Template.Catalog) (code : String) (subject : Subject) : String :=
  let rendered := do
    let elements ← Dictionary.lookup code catalog
    Template.render? catalog subject.data ⟨some code, elements⟩
  rendered.getD (subject.label ++ " is invalid")

/-- The message of a template that a field brings along.  Where it is no template, or cannot be
rendered, it stands for itself. -/
def ofTemplate (catalog : Template.Catalog) (source : String) (subject : Subject) : String :=
  let rendered := do
    let elements ← Template.elements? source
    Template.render? catalog subject.data ⟨none, elements⟩
  rendered.getD source

end Message

end FormLogic
