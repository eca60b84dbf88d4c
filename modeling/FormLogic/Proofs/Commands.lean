import FormLogic.CommandLine.Run
import FormLogic.Proofs.Policies
import FormLogic.Proofs.Replies

/-!
# Commands and entry points

A command and an entry point that are given the same texts open the same form and read the same
inputs.  The command succeeds exactly if the call has a result, which it prints on many lines.
Where data are validated, it prints the errors of the result line by line, and does not succeed
either if these leave the data invalid.
-/

namespace FormLogic.CommandLine

open Gateway (Failure Fails openForm readInput)

/-! ### Attempts and calls -/

/-- Both fail, or both succeed with values that are related. -/
inductive Together {α β : Type} (related : α → β → Prop) :
    Attempt α → Except Failure β → Prop where
  | fail (complaint : Complaint) (failure : Failure) :
      Together related (.error complaint) (.error failure)
  | succeed {a : α} {b : β} (h : related a b) : Together related (.ok a) (.ok b)

/-- What goes on in the same way after a step is together if the step is. -/
theorem Together.bind {α β γ δ : Type} {related : α → β → Prop} {related' : γ → δ → Prop}
    {x : Attempt α} {y : Except Failure β} (h : Together related x y) {f : α → Attempt γ}
    {g : β → Except Failure δ}
    (hrest : ∀ a b, y = .ok b → related a b → Together related' (f a) (g b)) :
    Together related' (x >>= f) (y >>= g) := by
  cases h with
  | fail complaint failure => exact .fail complaint failure
  | succeed hab => exact hrest _ _ rfl hab

/-- The form of a configuration's text, which is read in one way only. -/
theorem openForm_eq {source : String} {configuration : Json}
    (hvisible : Text.isBlank source = false) (hparse : Json.parse source = .ok configuration) :
    openForm source =
      match Form.ofConfiguration Rule.defaultOperations none configuration with
      | .ok form => .ok form
      | .error e => .error (.configuration e) := by
  have hread : Gateway.readConfiguration source = .ok configuration := by
    simp [Gateway.readConfiguration, hvisible, hparse]
  rw [openForm, hread]
  rfl

theorem openForm_eq_error {source : String} {e : Json.SyntaxError}
    (hvisible : Text.isBlank source = false) (hparse : Json.parse source = .error e) :
    openForm source = .error (.configurationSyntax e) := by
  have hread : Gateway.readConfiguration source = .error (.configurationSyntax e) := by
    simp [Gateway.readConfiguration, hvisible, hparse]
  rw [openForm, hread]
  rfl

/-- A file holds a text that is not blank. -/
structure Holds (files : Files) (path source : String) : Prop where
  text : files path = .ok source
  visible : Text.isBlank source = false

section

variable {files : Files} {path source : String} (h : Holds files path source)

include h

theorem Holds.readJson_eq_ok {v : Json} (hparse : Json.parse source = .ok v) :
    readJson files path = .ok v := by
  simp only [readJson, h.text, hparse]

theorem Holds.readJson_eq_error {e : Json.SyntaxError} (hparse : Json.parse source = .error e) :
    readJson files path = .error (.syntaxError path e) := by
  simp only [readJson, h.text, hparse]

/-- An input is read alike from a file and from its text. -/
theorem Holds.together_readJson (input : Input) :
    Together Eq (readJson files path) (readInput input source) := by
  cases hparse : Json.parse source with
  | ok v =>
      have hinput : readInput input source = .ok v := by
        simp [readInput, h.visible, hparse]
      rw [h.readJson_eq_ok hparse, hinput]
      exact .succeed rfl
  | error e =>
      have hinput : readInput input source = .error (.inputSyntax input e) := by
        simp [readInput, h.visible, hparse]
      rw [h.readJson_eq_error hparse, hinput]
      exact .fail _ _

/-- A form is opened alike from a file and from the text of its configuration. -/
theorem Holds.together_readForm : Together Eq (readForm files path) (openForm source) := by
  cases hparse : Json.parse source with
  | error e =>
      rw [readForm, h.readJson_eq_error hparse, openForm_eq_error h.visible hparse]
      exact .fail _ _
  | ok configuration =>
      rw [readForm, h.readJson_eq_ok hparse, openForm_eq h.visible hparse]
      show Together Eq (formOf none configuration) _
      rw [formOf]
      cases Form.ofConfiguration Rule.defaultOperations none configuration with
      | ok form => exact .succeed rfl
      | error e => exact .fail _ _

end

/-! ### Results that are printed -/

/-- The value under a key of an object. -/
def member? (key : String) : Json → Option Json
  | .object entries => Dictionary.lookup key entries
  | _ => none

/-- The command succeeds exactly if the call has a result, and then prints a part of that result on
many lines. -/
structure Mirrors (o : Outcome) (result : Gateway.Result) (part : Json → Option Json) : Prop where
  succeeds_iff : o.exitCode = 0 ↔ ∃ v, result = .ok v
  output : ∀ v, result = .ok v → ∃ w, part v = some w ∧ o.output = printed w

theorem exitCode_eq_zero_iff {o : Outcome} : o.exitCode = 0 ↔ o.complaint = none := by
  rw [Outcome.exitCode]
  cases o.complaint <;> simp

/-- The command succeeds, and prints a part of a result on many lines. -/
def Prints (part : Json → Option Json) (o : Outcome) (result : Json) : Prop :=
  ∃ w, part result = some w ∧ o = .success (printed w)

theorem Together.mirrors {part : Json → Option Json} {x : Attempt Outcome}
    {result : Gateway.Result} (h : Together (Prints part) x result) :
    Mirrors (outcomeOf x) result part := by
  rcases h with ⟨complaint, failure⟩ | @⟨o, v, w, hpart, rfl⟩
  · refine ⟨?_, ?_⟩
    · simp [exitCode_eq_zero_iff, outcomeOf]
    · simp
  · refine ⟨?_, ?_⟩
    · simp [exitCode_eq_zero_iff, outcomeOf, Outcome.success]
    · rintro _ ⟨⟩
      exact ⟨w, hpart, rfl⟩

/-- The value is read again from what it is printed as. -/
def Survives (v : Json) : Prop := Json.parse v.print = .ok v

/-- No printed value begins with a blank. -/
theorem isBlankChar_of_kindOf {c : Char} (h : Json.kindOf c < 7) :
    Text.isBlankChar c = false := by
  unfold Json.kindOf at h
  split_ifs at h with hn ht hf hquote hbracket hbrace hnumeral
  all_goals try (subst c; rfl)
  · simp only [Json.isNumeral, Bool.or_eq_true, beq_iff_eq] at hnumeral
    rcases hnumeral with (((hdigit | rfl) | rfl) | rfl) | rfl
    · have hrange : 48 ≤ c.toNat ∧ c.toNat ≤ 57 := Char.isDigit_iff_toNat.mp hdigit
      simp [Text.isBlankChar]
      omega
    all_goals rfl
  · omega

theorem isBlank_print (v : Json) : Text.isBlank v.print = false := by
  obtain ⟨c, cs, hchars, hkind⟩ := Json.exists_first v
  have hc : Text.isBlankChar c = false :=
    isBlankChar_of_kindOf (hkind ▸ Json.kind_lt v)
  rw [Json.chars] at hchars
  simp [Text.isBlank, hchars, hc]

theorem member?_ofEntries {key : String} {v : Json} {entries : List (String × Json)}
    (hkeys : (entries.map (·.1)).Nodup) (hmem : (key, v) ∈ entries) :
    member? key (.ofEntries entries) = some v :=
  (Dictionary.lookup_ofList_eq_some_iff hkeys).mpr hmem

theorem member?_ofEntries_eq (key : String) (entries : List (String × Json)) :
    member? key (.ofEntries entries) =
      ((entries.filter fun entry => entry.1 == key).map (·.2)).getLast? :=
  Dictionary.lookup_ofList key entries

theorem textEntry?_eq (key : String) (v : Json) :
    textEntry? key v = (member? key v).bind Json.asText := by
  cases v <;> rfl

theorem textEntry?_ofEntries_eq (key : String) (entries : List (String × Json)) :
    textEntry? key (.ofEntries entries) =
      ((entries.filter fun entry => entry.1 == key).map (·.2)).getLast?.bind Json.asText := by
  rw [textEntry?_eq, member?_ofEntries_eq]

theorem textEntry?_error_eq_none {v : Json} (h : ¬ v.HoldsError) :
    textEntry? "error" v = none := by
  cases v with
  | object entries =>
      rw [textEntry?_eq, member?]
      cases hlookup : Dictionary.lookup "error" entries with
      | none => rfl
      | some w =>
          cases w with
          | text message => exact absurd ⟨entries, message, rfl, hlookup⟩ h
          | _ => rfl
  | _ => rfl

theorem described_of_error {configuration : Json} {failure : Failure}
    (h : Gateway.describeResult configuration.print = .error failure) :
    described configuration = .error (.undescribed failure.message) := by
  rw [described, Gateway.describe, h, Gateway.parse_reply_failure]
  rfl

theorem described_of_ok {configuration v : Json}
    (h : Gateway.describeResult configuration.print = .ok v) (hsurvives : Survives v)
    (herror : ¬ v.HoldsError) : described configuration = .ok v := by
  have hparse : Json.parse (Gateway.reply (.ok v)).print = .ok v := hsurvives
  rw [described, Gateway.describe, h, hparse]
  simp only [textEntry?_error_eq_none herror]

section

variable {files : Files} {path source : String} (h : Holds files path source)

include h

/-- A configuration that is printed and read again in between is described all the same. -/
theorem Holds.together_described {configuration : Json}
    (hparse : Json.parse source = .ok configuration) (hsurvives : Survives configuration)
    (hdescription : ∀ form, openForm source = .ok form → Survives (Gateway.description form)) :
    Together Eq (described configuration) (Gateway.describeResult source) := by
  have hopen : openForm configuration.print = openForm source := by
    rw [openForm_eq (isBlank_print configuration) hsurvives, openForm_eq h.visible hparse]
  have hresult : Gateway.describeResult configuration.print = Gateway.describeResult source := by
    rw [Gateway.describeResult, Gateway.describeResult, hopen]
  -- Either both open the form, or both fail to: the configuration is the same one.
  cases hform : openForm source with
  | error failure =>
      have hfails : Gateway.describeResult source = .error failure := by
        rw [Gateway.describeResult, hform]
        rfl
      rw [described_of_error (hresult.trans hfails), hfails]
      exact .fail _ _
  | ok form =>
      have hdescribes : Gateway.describeResult source = .ok (Gateway.description form) := by
        rw [Gateway.describeResult, hform]
        rfl
      rw [described_of_ok (hresult.trans hdescribes) (hdescription form hform)
        (Gateway.not_holdsError_description form), hdescribes]
      exact .succeed rfl

theorem Holds.mirrors_describe
    (hsurvives : ∀ configuration, Json.parse source = .ok configuration → Survives configuration)
    (hdescription : ∀ form, openForm source = .ok form → Survives (Gateway.description form)) :
    Mirrors (run files (.describe path)) (Gateway.describeResult source) some := by
  rw [run]
  apply Together.mirrors
  cases hparse : Json.parse source with
  | error e =>
      rw [h.readJson_eq_error hparse, Gateway.describeResult, openForm_eq_error h.visible hparse]
      exact .fail _ _
  | ok configuration =>
      rw [h.readJson_eq_ok hparse]
      have hdescribed := h.together_described hparse (hsurvives configuration hparse) hdescription
      rw [← bind_pure (Gateway.describeResult source)]
      refine hdescribed.bind ?_
      rintro v _ - rfl
      exact .succeed ⟨v, rfl, rfl⟩

theorem Holds.mirrors_visibility {dataPath data : String} (hdata : Holds files dataPath data) :
    Mirrors (run files (.visibility path dataPath)) (Gateway.visibilityResult source data)
      some := by
  rw [run]
  apply Together.mirrors
  refine h.together_readForm.bind ?_
  rintro form _ - rfl
  refine (hdata.together_readJson .data).bind ?_
  rintro v _ - rfl
  exact .succeed ⟨_, rfl, rfl⟩

theorem Holds.mirrors_defaults {overridesPath overrides : String}
    (hoverrides : Holds files overridesPath overrides) :
    Mirrors (run files (.defaults path (some overridesPath)))
      (Gateway.initialDataResult source overrides) some := by
  rw [run]
  apply Together.mirrors
  refine h.together_readForm.bind ?_
  rintro form _ - rfl
  refine (hoverrides.together_readJson .overrides).bind ?_
  rintro v _ - rfl
  exact .succeed ⟨_, rfl, rfl⟩

theorem Holds.mirrors_cascade {field previousPath previous dataPath data : String}
    (hprevious : Holds files previousPath previous) (hdata : Holds files dataPath data)
    (hfield : ∀ form, openForm source = .ok form → ∃ f ∈ form.fields, f.name = field)
    (apply : Bool) :
    Mirrors (run files (.cascade path field previousPath dataPath apply))
      (Gateway.cascadeResult source field previous data)
      (member? (if apply then "data" else "resets")) := by
  rw [run]
  apply Together.mirrors
  refine h.together_readForm.bind ?_
  rintro form _ hform rfl
  have hfound : (form.tree.field? field).isNone = false := by
    simpa [Option.isNone_eq_false_iff] using Tree.isSome_field?_iff.mpr (hfield form hform)
  rw [hfound, if_neg Bool.false_ne_true]
  refine (hprevious.together_readJson .previous).bind ?_
  rintro p _ - rfl
  refine (hdata.together_readJson .data).bind ?_
  rintro v _ - rfl
  refine .succeed ⟨_, ?_, rfl⟩
  rw [Gateway.cascaded, member?_ofEntries (by simp)]
  cases apply <;> simp

end

/-! ### Errors that are printed -/

/-- The line for the JSON value of an error at a path. -/
def replyLine? (path : String) (e : Json) : Option String := do
  let severity ← textEntry? "type" e
  let code ← textEntry? "code" e
  let message ← textEntry? "message" e
  return line ("  " ++ path ++ " [" ++ severity ++ "] " ++ code ++ " - " ++ message)

/-- The output has one line for each error of a result, in the order of the paths. -/
def Lists (output : String) (result : Json) : Prop :=
  ∃ valid errors lines, member? "valid" result = some (.bool valid) ∧
    member? "errors" result = some (.object errors) ∧ Dictionary.Ascending errors ∧
      errors.map (fun entry => replyLine? entry.1 entry.2) = lines.map some ∧
        output = line ("Validation result: " ++ if valid then "valid" else "invalid") ++
          if lines.isEmpty then "" else line "Errors:" ++ String.join lines

/-- The command succeeds exactly if the call finds the data valid.  It prints nothing if the call
fails, and else lists the errors that the call finds. -/
structure Judges (o : Outcome) (result : Gateway.Result) : Prop where
  succeeds_iff : o.exitCode = 0 ↔ ∃ v, result = .ok v ∧ member? "valid" v = some (.bool true)
  silent : Fails result → o.output = ""
  output : ∀ v, result = .ok v → Lists o.output v

theorem textEntry?_ofEntries {key text : String} {entries : List (String × Json)}
    (hkeys : (entries.map (·.1)).Nodup) (hmem : (key, Json.text text) ∈ entries) :
    textEntry? key (.ofEntries entries) = some text := by
  rw [textEntry?_eq, member?_ofEntries hkeys hmem]
  rfl

theorem replyLine?_toJson (path : String) (e : FieldError) :
    replyLine? path e.toJson = some (errorLine path e) := by
  have hseverity : textEntry? "type" e.toJson = some e.severity.name :=
    textEntry?_ofEntries (by simp) (by simp)
  have hcode : textEntry? "code" e.toJson = some e.code :=
    textEntry?_ofEntries (by simp) (by simp)
  have hmessage : textEntry? "message" e.toJson = some e.message :=
    textEntry?_ofEntries (by simp) (by simp)
  rw [replyLine?, hseverity, hcode, hmessage]
  rfl

theorem member?_valid (errors : FieldErrors) :
    member? "valid" (Gateway.validation errors) = some (.bool (!errors.blocks)) :=
  member?_ofEntries (by simp) (by simp)

theorem lists_report {errors : FieldErrors} (h : Dictionary.Ascending errors) :
    Lists (report errors) (Gateway.validation errors) := by
  have herrors : member? "errors" (Gateway.validation errors) = some errors.toJson :=
    member?_ofEntries (by simp) (by simp)
  refine ⟨!errors.blocks, _, errors.map fun entry => errorLine entry.1 entry.2,
    member?_valid errors, herrors, h.mapValues _, ?_, ?_⟩
  · simp [Dictionary.mapValues, replyLine?_toJson]
  · cases hblocks : errors.blocks <;> simp [report, hblocks]

/-- What becomes of a command that found these errors. -/
def reported (errors : FieldErrors) : Outcome :=
  ⟨report errors, if errors.blocks then some .invalidData else none⟩

theorem exitCode_reported {errors : FieldErrors} :
    (reported errors).exitCode = 0 ↔ errors.blocks = false := by
  rw [exitCode_eq_zero_iff, reported]
  cases errors.blocks <;> simp

/-- A command reports the errors that a result holds. -/
def ReportsOn (o : Outcome) (result : Json) : Prop :=
  ∃ errors : FieldErrors, Dictionary.Ascending errors ∧ o = reported errors ∧
    result = Gateway.validation errors

theorem Together.judges {x : Attempt Outcome} {result : Gateway.Result}
    (h : Together ReportsOn x result) : Judges (outcomeOf x) result := by
  cases h with
  | fail complaint failure =>
      refine ⟨?_, ?_, ?_⟩
      · simp [exitCode_eq_zero_iff, outcomeOf]
      · simp [outcomeOf]
      · simp
  | succeed hreport =>
      obtain ⟨errors, hascending, rfl, rfl⟩ := hreport
      refine ⟨?_, ?_, ?_⟩
      · simp [outcomeOf, exitCode_reported, member?_valid]
      · intro hfails
        exact absurd hfails (Gateway.not_fails_ok _)
      · rintro _ ⟨⟩
        exact lists_report hascending

theorem Holds.judges_validate {files : Files} {path source dataPath data : String}
    (h : Holds files path source) (hdata : Holds files dataPath data) :
    Judges (run files (.validate path dataPath none)) (Gateway.validateResult source data) := by
  rw [run]
  apply Together.judges
  refine h.together_readForm.bind ?_
  rintro form _ - rfl
  refine (hdata.together_readJson .data).bind ?_
  rintro v _ - rfl
  have hascending : Dictionary.Ascending (form.resolve v) :=
    FieldErrors.ascending_filter form.policy (form.ascending_errors v)
  exact .succeed ⟨form.resolve v, hascending, rfl, rfl⟩

/-! ### Policies on the command line -/

/-- Data are found valid under a policy if both files can be read and no error that the policy
leaves is a blocking one. -/
theorem exitCode_validate {files : Files} {path dataPath : String} {policy : Policy} :
    (run files (.validate path dataPath (some policy))).exitCode = 0 ↔
      ∃ form data, readForm files path = .ok form ∧ readJson files dataPath = .ok data ∧
        (form.resolveWith policy (form.visibility data) data).blocks = false := by
  -- A file that cannot be read is complained about, and no errors are reported then.
  rw [run]
  cases readForm files path with
  | error complaint => simp [exitCode_eq_zero_iff, outcomeOf, bind, Except.bind]
  | ok form =>
      cases readJson files dataPath with
      | error complaint => simp [exitCode_eq_zero_iff, outcomeOf, bind, Except.bind]
      | ok data =>
          have hreported :=
            @exitCode_reported (form.resolveWith policy (form.visibility data) data)
          rw [reported] at hreported
          simpa [bind, Except.bind, pure, Except.pure, outcomeOf] using hreported

theorem exitCode_eq_of_iff {o o' : Outcome} (h : o.exitCode = 0 ↔ o'.exitCode = 0) :
    o.exitCode = o'.exitCode := by
  rw [exitCode_eq_zero_iff, exitCode_eq_zero_iff] at h
  rw [Outcome.exitCode, Outcome.exitCode]
  cases hcomplaint : o.complaint with
  | none => rw [h.mp hcomplaint]
  | some complaint =>
      cases hcomplaint' : o'.complaint with
      | none => simp [hcomplaint, hcomplaint'] at h
      | some complaint' => rfl

theorem exitCode_validate_warn (files : Files) (path dataPath : String) :
    (run files (.validate path dataPath (some .warn))).exitCode =
      (run files (.validate path dataPath (some .skip))).exitCode := by
  apply exitCode_eq_of_iff
  rw [exitCode_validate, exitCode_validate]
  -- What is found is an error at first, so that a warning is one that would have been skipped.
  have hblocks (form : Form) (data : Json) :
      (form.resolveWith .warn (form.visibility data) data).blocks =
        (form.resolveWith .skip (form.visibility data) data).blocks :=
    (FieldErrors.blocks_filter_skip fun _ => Form.severity_of_mem_errors).symm
  simp only [hblocks]

/-- What is valid with nothing made of hidden fields is valid under every policy. -/
theorem exitCode_validate_of_validate {files : Files} {path dataPath : String} (policy : Policy)
    (h : (run files (.validate path dataPath (some .validate))).exitCode = 0) :
    (run files (.validate path dataPath (some policy))).exitCode = 0 := by
  obtain ⟨form, data, hform, hdata, hnone⟩ := exitCode_validate.mp h
  refine exitCode_validate.mpr ⟨form, data, hform, hdata, ?_⟩
  rw [← Bool.not_eq_true] at hnone ⊢
  exact mt (FieldErrors.blocks_filter_of_blocks policy) hnone

/-! ### Agreement -/

/-- Commands and calls that are given the same texts agree.  A form is described in two ways that
differ in what they print and read again, so that this has to be without loss there.  A field whose
change is cascaded has to be one of the form's, which only the command asks for.  In the end, no
policy for hidden fields is stricter than to validate them, and to warn of them is no stricter than
to skip them. -/
theorem commands_mirror_calls {files : Files}
    {path source dataPath data previousPath previous overridesPath overrides : String}
    (h : Holds files path source) (hdata : Holds files dataPath data)
    (hprevious : Holds files previousPath previous)
    (hoverrides : Holds files overridesPath overrides) :
    ((∀ configuration, Json.parse source = .ok configuration → Survives configuration) →
      (∀ form, openForm source = .ok form → Survives (Gateway.description form)) →
        Mirrors (run files (.describe path)) (Gateway.describeResult source) some) ∧
      Mirrors (run files (.visibility path dataPath)) (Gateway.visibilityResult source data)
        some ∧
      Mirrors (run files (.defaults path (some overridesPath)))
        (Gateway.initialDataResult source overrides) some ∧
      (∀ field, (∀ form, openForm source = .ok form → ∃ f ∈ form.fields, f.name = field) →
        Mirrors (run files (.cascade path field previousPath dataPath false))
            (Gateway.cascadeResult source field previous data) (member? "resets") ∧
          Mirrors (run files (.cascade path field previousPath dataPath true))
            (Gateway.cascadeResult source field previous data) (member? "data")) ∧
      Judges (run files (.validate path dataPath none)) (Gateway.validateResult source data) ∧
      (run files (.validate path dataPath (some .warn))).exitCode =
        (run files (.validate path dataPath (some .skip))).exitCode ∧
      ((run files (.validate path dataPath (some .validate))).exitCode = 0 →
        (run files (.validate path dataPath (some .warn))).exitCode = 0 ∧
          (run files (.validate path dataPath (some .skip))).exitCode = 0) := by
  refine ⟨h.mirrors_describe, h.mirrors_visibility hdata, h.mirrors_defaults hoverrides, ?_,
    h.judges_validate hdata, exitCode_validate_warn files path dataPath, ?_⟩
  · intro field hfield
    exact ⟨h.mirrors_cascade hprevious hdata hfield false,
      h.mirrors_cascade hprevious hdata hfield true⟩
  · intro hvalid
    exact ⟨exitCode_validate_of_validate .warn hvalid, exitCode_validate_of_validate .skip hvalid⟩

end FormLogic.CommandLine

namespace FormLogic.ErrorField

open CommandLine

/-- A file with a configuration and one without any data. -/
def files : Files := fun path =>
  match path with
  | "form.json" => .ok configuration
  | "data.json" => .ok "\x7b\x7d"
  | _ => .error .missing

theorem holds_form : Holds files "form.json" configuration := ⟨rfl, rfl⟩

theorem holds_data : Holds files "data.json" "\x7b\x7d" := ⟨rfl, rfl⟩

theorem survives_description : Survives (Gateway.description form) := by
  have hdescription : Gateway.description form =
      .object
        [("dependencies", .object []),
          ("fields", .array
            [.object
              [("label", .text "error"), ("name", .text "error"), ("renderKey", .text "text"),
                ("required", .bool false), ("shape", .text "generic"), ("type", .text "text")]]),
          ("invisibleFieldValidation", .text "skip")] := rfl
  rw [hdescription]
  refine Json.parse_print (.object ?_ ?_)
  · unfold Dictionary.Ascending
    decide
  · simp only [List.forall_mem_cons]
    refine ⟨.object Dictionary.ascending_nil (by simp), .array ?_, .text _, by simp⟩
    simp only [List.forall_mem_cons]
    refine ⟨.object ?_ ?_, by simp⟩
    · unfold Dictionary.Ascending
      decide
    · simp only [List.forall_mem_cons]
      exact ⟨.text _, .text _, .text _, .bool _, .text _, .text _, by simp⟩

/-- The form is described, and a change of its field calls for no resets. -/
theorem described_and_cascaded :
    (run files (.describe "form.json")).exitCode = 0 ∧
      (run files (.cascade "form.json" "error" "data.json" "data.json" false)).exitCode = 0 := by
  have hsurvives : ∀ c, Json.parse configuration = .ok c → Survives c := by
    intro c hc
    rw [parse_configuration, Except.ok.injEq] at hc
    subst hc
    exact parse_configuration
  have hopen : ∀ f, Gateway.openForm configuration = .ok f → f = form := by
    intro f hf
    rw [openForm_configuration, Except.ok.injEq] at hf
    exact hf.symm
  have hdata : Json.parse "\x7b\x7d" = .ok (.object []) :=
    Json.parse_print (.object Dictionary.ascending_nil (by simp))
  obtain ⟨hdescribe, -, -, hcascade, -⟩ :=
    commands_mirror_calls holds_form holds_data holds_data holds_data
  refine ⟨(hdescribe hsurvives ?_).succeeds_iff.mpr ?_, (hcascade "error" ?_).1.succeeds_iff.mpr ?_⟩
  · intro f hf
    rw [hopen f hf]
    exact survives_description
  · simp [Gateway.describeResult, openForm_configuration, bind, Except.bind, pure, Except.pure]
  · intro f hf
    rw [hopen f hf]
    exact ⟨field, List.mem_singleton_self _, rfl⟩
  · simp [Gateway.cascadeResult, openForm_configuration, Gateway.readInput, hdata, bind,
      Except.bind, pure, Except.pure]

end FormLogic.ErrorField
