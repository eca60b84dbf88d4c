import FormLogic.Configuration.Policy

/-!
# Arguments of the command line

A command is a word followed by options in any order.  An option takes its value from the next
argument or after an equals sign; only one option may be given more than once.
-/

namespace FormLogic.CommandLine

/-- What the command line asks for. -/
inductive Command where
  | check (configuration : String) (components : List String)
  | describe (configuration : String)
  | visibility (configuration data : String)
  | validate (configuration data : String) (policy : Option Policy)
  | cascade (configuration field previous data : String) (apply : Bool)
  | defaults (configuration : String) (overrides : Option String)
  | format
  deriving DecidableEq, Repr

/-- How the arguments are understood. -/
inductive Request where
  | run (command : Command)
  /-- A question for help or for the version. -/
  | help
  /-- The arguments make no command. -/
  | misuse
  deriving DecidableEq, Repr

/-- What an option takes. -/
inductive OptionKind where
  /-- A value that is the path of a file, which is never empty. -/
  | path
  | text
  | policy
  /-- Nothing: the option is given or not. -/
  | flag
  deriving DecidableEq, Repr

/-- An option of a command. -/
structure OptionSpec where
  name : String
  kind : OptionKind
  required : Bool := true
  repeats : Bool := false

/-- The options of a command, by its word. -/
def optionsOf? (command : String) : Option (List OptionSpec) :=
  let path (name : String) : OptionSpec := { name, kind := .path }
  match command with
  | "check" =>
      some [path "config",
        { name := "component", kind := .text, required := false, repeats := true }]
  | "describe" => some [path "config"]
  | "visibility" => some [path "config", path "data"]
  | "validate" =>
      some [path "config", path "data", { name := "policy", kind := .policy, required := false }]
  | "cascade" =>
      some [path "config", { name := "field", kind := .text }, path "previous", path "data",
        { name := "apply", kind := .flag, required := false }]
  | "defaults" =>
      some [path "config", { name := "overrides", kind := .path, required := false }]
  | "schema" => some []
  | _ => none

/-- The words that may stand first. -/
def commandWords : List String :=
  ["check", "describe", "visibility", "validate", "cascade", "defaults", "schema"]

/-- The value of an option, if it is one that the option takes. -/
def OptionKind.accepts (kind : OptionKind) (value : String) : Bool :=
  match kind with
  | .path => value != ""
  | .text => true
  | .policy => (Policy.ofName? value).isSome
  | .flag => false

/-- Options with their values, the latest first. -/
abbrev Given := List (String × String)

/-- The options may be given together with the one of this name. -/
def mayAdd (spec : OptionSpec) (given : Given) : Bool :=
  spec.repeats || (given.lookup spec.name).isNone

/-- How options are understood. -/
inductive Options where
  | given (given : Given)
  | help
  | misuse

/-- The argument asks for help. -/
def asksForHelp (argument : List Char) : Bool :=
  argument == "--help".toList || ['-', 'h'].isPrefixOf argument

/-- The argument can be the value of the option before it. -/
def isValue (argument : String) : Bool :=
  argument == "-" || !(['-'].isPrefixOf argument.toList)

/-- What one argument says in the place of an option. -/
inductive Reading where
  | complete (option : String × String)
  /-- The next argument is the option's value. -/
  | awaitsValue (spec : OptionSpec)
  /-- No options follow. -/
  | ending
  | help
  | misuse

/-- How an argument is understood in the place of an option, after the given ones. -/
def readOption (specs : List OptionSpec) (given : Given) (argument : String) : Reading :=
  match argument.toList with
  | '-' :: '-' :: name =>
      if name.isEmpty then .ending
      else if asksForHelp argument.toList then .help
      else
        let key := String.ofList (name.takeWhile (· != '='))
        match specs.find? fun spec => spec.name == key with
        | none => .misuse
        | some spec =>
            if !mayAdd spec given then .misuse
            else
              match name.dropWhile (· != '=') with
              | [] => if spec.kind = .flag then .complete (key, "") else .awaitsValue spec
              | _ :: value =>
                  let value := String.ofList value
                  if spec.kind.accepts value then .complete (key, value) else .misuse
  | _ => if asksForHelp argument.toList then .help else .misuse

/-- The options of a command among its arguments. -/
def readOptions (specs : List OptionSpec) (given : Given) : List String → Options
  | [] => .given given
  | argument :: rest =>
      match readOption specs given argument with
      | .complete option => readOptions specs (option :: given) rest
      | .awaitsValue spec =>
          match rest with
          | value :: rest =>
              if isValue value && spec.kind.accepts value then
                readOptions specs ((spec.name, value) :: given) rest
              else .misuse
          | [] => .misuse
      | .ending => if rest.isEmpty then .given given else .misuse
      | .help => .help
      | .misuse => .misuse

/-- The values of an option that may be given more than once, in order. -/
def valuesOf (name : String) (given : Given) : List String :=
  (given.reverse.filter fun entry => entry.1 == name).map (·.2)

/-- The command of a word and its options. -/
def command? (word : String) (given : Given) : Option Command :=
  match word with
  | "check" => do return .check (← given.lookup "config") (valuesOf "component" given)
  | "describe" => do return .describe (← given.lookup "config")
  | "visibility" => do
      return .visibility (← given.lookup "config") (← given.lookup "data")
  | "validate" => do
      return .validate (← given.lookup "config") (← given.lookup "data")
        ((given.lookup "policy").bind Policy.ofName?)
  | "cascade" => do
      return .cascade (← given.lookup "config") (← given.lookup "field")
        (← given.lookup "previous") (← given.lookup "data") (given.lookup "apply").isSome
  | "defaults" => do return .defaults (← given.lookup "config") (given.lookup "overrides")
  | "schema" => some .format
  | _ => none

/-- Help on the commands that the given words name, one below the other; no command has commands of
its own. -/
def helpOn : List String → Request
  | [] => .help
  | [word] => if word == "help" || commandWords.contains word then .help else .misuse
  | _ => .misuse

/-- How the arguments after the program's name are understood. -/
def readArguments : List String → Request
  | [] => .misuse
  | "help" :: words => helpOn words
  | "--version" :: _ => .help
  | word :: rest =>
      match optionsOf? word with
      | some specs =>
          match readOptions specs [] rest with
          | .given given =>
              match command? word given with
              | some command => .run command
              | none => .misuse
          | .help => .help
          | .misuse => .misuse
      | none =>
          let cs := word.toList
          if asksForHelp cs || ['-', 'V'].isPrefixOf cs then .help else .misuse

end FormLogic.CommandLine
