import FormLogic.CommandLine.Arguments
import FormLogic.Configuration.Format
import FormLogic.Gateway
import FormLogic.Json.Printer
import FormLogic.Text.Quoted

/-!
# Running commands

A command reads files, prints to its output, and ends with success or with a complaint.  What it
prints and how it ends follows from the contents of the files alone.
-/

namespace FormLogic.CommandLine

/-- Why a file cannot be read as a text. -/
inductive ReadFailure where
  /-- The system refuses it, for a reason in words and by number. -/
  | system (reason : String) (number : Nat)
  | notUnicode
  deriving DecidableEq, Repr

/-- The failure in words. -/
def ReadFailure.message : ReadFailure → String
  | system reason number => reason ++ " (os error " ++ Binary64.digitsText number ++ ")"
  | notUnicode => "stream did not contain valid UTF-8"

/-- There is no such file. -/
def ReadFailure.missing : ReadFailure := .system "No such file or directory" 2

/-- The texts of files, by path. -/
abbrev Files := String → Except ReadFailure String

/-- Why a command does not succeed. -/
inductive Complaint where
  | unreadable (path : String) (failure : ReadFailure)
  | syntaxError (path : String) (e : Json.SyntaxError)
  | configuration (e : ConfigError)
  | unknownField (name : String)
  | invalidData
  | undescribed (message : String)
  | badDescription (e : Json.SyntaxError)
  deriving DecidableEq, Repr

/-- The complaint in words. -/
def Complaint.message : Complaint → String
  | unreadable path failure => "failed to read " ++ path ++ ": " ++ failure.message
  | syntaxError path e => "failed to parse " ++ path ++ ": " ++ e.message
  | configuration e => e.message
  | unknownField name => "unknown field \x60" ++ name ++ "\x60"
  | invalidData => "validation failed"
  | undescribed message => message
  | badDescription e => e.message

/-- What a command prints, and its complaint if it does not succeed. -/
structure Outcome where
  output : String
  complaint : Option Complaint

/-- A command that succeeds with the given output. -/
def Outcome.success (output : String) : Outcome := ⟨output, none⟩

/-- A computation that may end in a complaint before anything is printed. -/
abbrev Attempt (α : Type) := Except Complaint α

/-- The outcome of an attempt. -/
def outcomeOf : Attempt Outcome → Outcome
  | .ok outcome => outcome
  | .error complaint => ⟨"", some complaint⟩

/-- The value that a file holds. -/
def readJson (files : Files) (path : String) : Attempt Json :=
  match files path with
  | .error failure => .error (.unreadable path failure)
  | .ok source =>
      match Json.parse source with
      | .ok v => .ok v
      | .error e => .error (.syntaxError path e)

/-- The form of a configuration, where components are looked up in a catalog if there is one. -/
def formOf (catalog : Option (List String)) (configuration : Json) : Attempt Form :=
  match Form.ofConfiguration Rule.defaultOperations catalog configuration with
  | .ok form => .ok form
  | .error e => .error (.configuration e)

/-- The form whose configuration a file holds. -/
def readForm (files : Files) (path : String) : Attempt Form := do
  formOf none (← readJson files path)

/-- A line of output. -/
def line (text : String) : String := text ++ "\n"

/-- A value as output. -/
def printed (v : Json) : String := line v.pretty

/-- The catalog of component names given on the command line; no names give no catalog. -/
def catalogOf (components : List String) : Option (List String) :=
  if components.isEmpty then none else some (catalogNames components)

def summary (form : Form) : String :=
  line ("Configuration ok: " ++ Binary64.digitsText form.fields.length ++ " fields, " ++
    Binary64.digitsText form.dependencies.length ++ " dependency parents")

/-- The line for an error at a path. -/
def errorLine (path : String) (e : FieldError) : String :=
  line ("  " ++ path ++ " [" ++ e.severity.name ++ "] " ++ e.code ++ " - " ++ e.message)

/-- The lines for the errors of some data. -/
def report (errors : FieldErrors) : String :=
  line ("Validation result: " ++ if errors.blocks then "invalid" else "valid") ++
    if errors.isEmpty then ""
    else line "Errors:" ++ String.join (errors.map fun (path, e) => errorLine path e)

/-- The value of an entry that is a text. -/
def textEntry? (key : String) : Json → Option String
  | .object entries => (Dictionary.lookup key entries).bind Json.asText
  | _ => none

/-- The description of a configuration, as a host of the gateway reads it. -/
def described (configuration : Json) : Attempt Json :=
  match Json.parse (Gateway.describe configuration.print) with
  | .error e => .error (.badDescription e)
  | .ok payload =>
      match textEntry? "error" payload with
      | some message => .error (.undescribed message)
      | none => .ok payload

/-- The outcome of a command. -/
def run (files : Files) : Command → Outcome
  | .check configuration components => outcomeOf do
      let form ← formOf (catalogOf components) (← readJson files configuration)
      return .success (summary form)
  | .describe configuration => outcomeOf do
      return .success (printed (← described (← readJson files configuration)))
  | .visibility configuration data => outcomeOf do
      let form ← readForm files configuration
      let data ← readJson files data
      return .success (printed (form.visibility data).toJson)
  | .validate configuration data policy => outcomeOf do
      let form ← readForm files configuration
      let data ← readJson files data
      let errors := form.resolveWith (policy.getD form.policy) (form.visibility data) data
      return ⟨report errors, if errors.blocks then some .invalidData else none⟩
  | .cascade configuration field previous data apply => outcomeOf do
      let form ← readForm files configuration
      if (form.tree.field? field).isNone then throw (.unknownField field)
      let previous ← readJson files previous
      let data ← readJson files data
      let resets := form.fieldChanged field previous data
      let result : Json :=
        if apply then Reset.applyAll data resets else .array (resets.map Reset.toJson)
      return .success (printed result)
  | .defaults configuration overrides => outcomeOf do
      let form ← readForm files configuration
      let overrides ← match overrides with
        | some path => readJson files path
        | none => pure (.object [])
      return .success (printed (form.initialData overrides))
  | .format => .success (printed Format.configuration)

/-- The exit code of arguments that make no command. -/
def misuseCode : Nat := 2

/-- The exit code of an outcome. -/
def Outcome.exitCode (o : Outcome) : Nat := if o.complaint.isSome then 1 else 0

end FormLogic.CommandLine
