import FormLogic.Configuration.Document

/-!
# The format of configurations

A JSON schema of the documents that are read as configurations, for use by other programs.
-/

namespace FormLogic.Format

/-- A value that some schema describes. -/
abbrev Description := Json

def record (entries : List (String × Json)) : Description := .ofEntries entries

def texts (items : List String) : Json := .array (items.map .text)

/-- The description under a name. -/
def reference (name : String) : Description := record [("$ref", .text ("#/$defs/" ++ name))]

/-- A value of a type. -/
def ofType (type : String) (more : List (String × Json)) : Description :=
  record (("type", .text type) :: more)

/-- A value of a type, or `null`. -/
def optionalType (type : String) (more : List (String × Json)) : Description :=
  record (("type", texts [type, "null"]) :: more)

def optionalText : Description := optionalType "string" []

def optionalBool : Description := optionalType "boolean" []

def optionalNat : Description :=
  optionalType "integer" [("format", .text "uint"), ("minimum", .ofNat 0)]

def optionalObject : Description := optionalType "object" [("additionalProperties", .bool true)]

def optionalListOf (name : String) : Description :=
  optionalType "array" [("items", reference name)]

def listOf (name : String) : Description := ofType "array" [("items", reference name)]

/-- A value of a named description, or `null`. -/
def optionalReference (name : String) (more : List (String × Json)) : Description :=
  record (("anyOf", .array [reference name, ofType "null" []]) :: more)

/-- An object with the given entries. -/
def object (description : String) (entries more : List (String × Json)) : Description :=
  ofType "object"
    ([("description", .text description), ("properties", record entries)] ++ more)

/-- The schema of a choice. -/
def choice : Description :=
  object "A value/label pair offered by a choice field."
    [("label", ofType "string" [("default", .text "")]), ("value", .bool true)]
    [("required", texts ["value"])]

/-- The schema of a record of declarations and options. -/
def document : Description :=
  object "Full configuration document with options."
    [("elements", listOf "RawElement"),
      ("options",
        record [("$ref", .text "#/$defs/FormOptions"), ("default", ({} : Options).toJson)])]
    [("required", texts ["elements"])]

/-- The schema of the options of a form. -/
def options : Description :=
  object "Form-wide options supplied next to the elements."
    [("invisibleFieldValidation",
        record
          [("$ref", .text "#/$defs/InvisibleFieldValidation"),
            ("default", .text ({} : Options).policy.name)]),
      ("messages",
        ofType "object"
          [("additionalProperties", ofType "string" []),
            ("description",
              .text ("Error code to message template overrides, e.g.\n" ++
                "\x60\x7b \"required\": \"Please fill in \x7b\x7blabel\x7d\x7d\" \x7d\x60."))])]
    []

/-- The schema of one policy. -/
def policy (p : Policy) (description : String) : Description :=
  ofType "string" [("const", .text p.name), ("description", .text description)]

/-- The schema of policies. -/
def policies : Description :=
  record
    [("description", .text "How errors of currently hidden fields are reported."),
      ("oneOf",
        .array
          [policy .skip "Drop errors of hidden fields.",
            policy .validate "Report every error regardless of visibility.",
            policy .warn "Keep errors of hidden fields, downgraded to warnings."])]

/-- The schema of a declaration. -/
def declaration : Description :=
  object
    ("One element of a configuration exactly as authored, before validation.\n\n" ++
      "Unknown keys are kept in \x60extra\x60 and passed through untouched.")
    [("children", optionalListOf "RawElement"), ("component", optionalText),
      ("componentProps", optionalObject), ("defaultValue", .bool true),
      ("dependsOn", optionalText), ("itemFields", optionalListOf "RawElement"),
      ("label", optionalText), ("maxItems", optionalNat), ("meta", optionalObject),
      ("minItems", optionalNat), ("multiple", optionalBool), ("name", optionalText),
      ("options", optionalListOf "ChoiceOption"),
      ("optionsProvider",
        optionalType "string"
          [("description",
            .text "Name of an external provider that supplies options at runtime.")]),
      ("resetOnParentChange", optionalBool), ("type", optionalText),
      ("validation", optionalReference "ValidationConfig" []), ("variant", optionalText),
      ("visible", optionalReference "Rule" [])]
    [("additionalProperties", .bool true)]

/-- The schema of rules, which may be any value. -/
def rule : Description :=
  record [("description", .text "An opaque rule tree evaluated against form data.")]

/-- The schema of constraints. -/
def constraints : Description :=
  object "Declarative constraints layered on top of a field's base shape."
    [("condition",
        optionalReference "Rule"
          [("description", .text "Cross-field rule evaluated against the whole form.")]),
      ("maxLength", optionalNat),
      ("message",
        optionalType "string"
          [("description",
            .text ("Message used for \x60pattern\x60 and \x60condition\x60 failures. " ++
              "May contain\n\x60\x7b\x7blabel\x7d\x7d\x60 style placeholders."))]),
      ("minLength", optionalNat), ("pattern", optionalText),
      ("required", ofType "boolean" [("default", .bool ({} : Constraints).required)])]
    []

/-- The schema of configurations. -/
def configuration : Description :=
  record
    [("$schema", .text "https://json-schema.org/draft/2020-12/schema"),
      ("title", .text "ConfigDocument"),
      ("description",
        .text ("Accepted configuration shapes: a bare element list or a " ++
          "[\x60FormDocument\x60].")),
      ("anyOf", .array [listOf "RawElement", reference "FormDocument"]),
      ("$defs",
        record
          [("ChoiceOption", choice), ("FormDocument", document), ("FormOptions", options),
            ("InvisibleFieldValidation", policies), ("RawElement", declaration), ("Rule", rule),
            ("ValidationConfig", constraints)])]

end FormLogic.Format
