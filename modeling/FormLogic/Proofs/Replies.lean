import FormLogic.Gateway
import FormLogic.Proofs.Json.Reading

/-!
# Replies that signal a failure

A host recognises a failure by a text under the key `error` of the reply.  Of six entry points the
reply is of this form exactly if the call failed.  The initial data of a form are replied as they
are, and may hold such a text themselves.
-/

namespace FormLogic

namespace Json

/-- The value is an object with a text under the key `error`. -/
def HoldsError (v : Json) : Prop :=
  ∃ entries message, v = .object entries ∧ Dictionary.lookup "error" entries = some (.text message)

/-- Entries that are alike are found together. -/
theorem exists_lookup_of_alike {key : String} {xs ys : Dictionary Json}
    (h : List.Forall₂ AlikeEntries xs ys) {w : Json} (hw : Dictionary.lookup key ys = some w) :
    ∃ v, Dictionary.lookup key xs = some v ∧ Alike v w := by
  induction h with
  | nil => cases hw
  | @cons x y xs ys hentry _ ih =>
      cases hentry with
      | @entry k v w' halike =>
          rw [Dictionary.lookup_cons] at hw
          rw [Dictionary.lookup_cons]
          by_cases hk : key = k
          · rw [if_pos hk, Option.some.injEq] at hw
            subst hw
            exact ⟨v, if_pos hk, halike⟩
          · rw [if_neg hk] at hw
            rw [if_neg hk]
            exact ih hw

theorem HoldsError.of_alike {v w : Json} (h : Alike v w) (hw : w.HoldsError) : v.HoldsError := by
  obtain ⟨entries, message, rfl, hlookup⟩ := hw
  cases h with
  | @object xs _ hentries =>
      obtain ⟨v, hv, halike⟩ := exists_lookup_of_alike hentries hlookup
      cases halike
      exact ⟨xs, message, rfl, hv⟩

theorem not_holdsError_ofEntries {entries : List (String × Json)}
    (h : "error" ∉ entries.map (·.1)) : ¬ (ofEntries entries).HoldsError := by
  rintro ⟨_, message, heq, hlookup⟩
  cases heq
  have hkey : "error" ∈ (Dictionary.ofList entries).keys :=
    Dictionary.exists_lookup_eq_some_iff.mp ⟨_, hlookup⟩
  exact h (Dictionary.mem_keys_ofList.mp hkey)

theorem not_holdsError_array (items : List Json) : ¬ (array items).HoldsError := by
  rintro ⟨_, _, heq, _⟩
  cases heq

end Json

namespace Gateway

/-- The reply is the text of an object with a text under the key `error`. -/
def SignalsFailure (reply : String) : Prop := ∃ v : Json, reply = v.print ∧ v.HoldsError

/-- What a reply signals can be read off the value that it was printed from. -/
theorem signalsFailure_print {v : Json} : SignalsFailure v.print ↔ v.HoldsError := by
  constructor
  · rintro ⟨w, hprint, hw⟩
    exact hw.of_alike (Json.alike_of_print_eq hprint)
  · intro hv
    exact ⟨v, rfl, hv⟩

/-! ### Failures -/

/-- The text is not blank, and holds no JSON value. -/
def Unreadable (source : String) : Prop :=
  Text.isBlank source = false ∧ ∃ e, Json.parse source = .error e

/-- The text of a configuration cannot be read, or the configuration that it holds is not in
order. -/
def Rejected (source : String) : Prop :=
  Unreadable source ∨
    ∃ configuration e, readConfiguration source = .ok configuration ∧
      Form.ofConfiguration Rule.defaultOperations none configuration = .error e

/-- There is no result. -/
def Fails {α : Type} (x : Except Failure α) : Prop := ∃ failure, x = .error failure

theorem not_fails_ok {α : Type} (a : α) : ¬ Fails (.ok a : Except Failure α) := by
  rintro ⟨failure, h⟩
  cases h

/-- A computation in two steps fails with the first one, or with the second one if that fails
whatever the first one gives. -/
theorem fails_bind_iff {α β : Type} {x : Except Failure α} {f : α → Except Failure β} {p : Prop}
    (h : ∀ a, Fails (f a) ↔ p) : Fails (x >>= f) ↔ Fails x ∨ p := by
  cases x with
  | error failure => exact iff_of_true ⟨failure, rfl⟩ (Or.inl ⟨failure, rfl⟩)
  | ok a =>
      have hbind : (Except.ok a >>= f) = f a := rfl
      rw [hbind, h a]
      simp [not_fails_ok]

/-- Where a value stands in for a blank text, reading fails exactly if the text is not blank and
holds no JSON value. -/
theorem fails_parse_iff {source : String} (blank : Json) (failure : Json.SyntaxError → Failure) :
    Fails
        (if Text.isBlank source then .ok blank
        else
          match Json.parse source with
          | .ok v => .ok v
          | .error e => .error (failure e)) ↔
      Unreadable source := by
  unfold Unreadable
  cases hblank : Text.isBlank source with
  | true => simp [not_fails_ok]
  | false =>
      cases hparse : Json.parse source with
      | ok v => simp [not_fails_ok]
      | error e => simp [Fails]

theorem fails_readInput_iff {input : Input} {source : String} :
    Fails (readInput input source) ↔ Unreadable source :=
  fails_parse_iff (.object []) (.inputSyntax input)

theorem fails_readConfiguration_iff {source : String} :
    Fails (readConfiguration source) ↔ Unreadable source :=
  fails_parse_iff Registration.configuration .configurationSyntax

theorem fails_openForm_iff {source : String} : Fails (openForm source) ↔ Rejected source := by
  rw [Rejected, ← fails_readConfiguration_iff, openForm]
  cases hread : readConfiguration source with
  | error failure => exact iff_of_true ⟨failure, rfl⟩ (Or.inl ⟨failure, rfl⟩)
  | ok configuration =>
      have hbind (f : Json → Except Failure Form) :
          (Except.ok configuration >>= f) = f configuration := rfl
      rw [hbind]
      cases hform : Form.ofConfiguration Rule.defaultOperations none configuration with
      | ok form => simp [not_fails_ok, hform]
      | error e => simp [Fails, hform]

/-- The reply to a failure is read as an object that holds its message. -/
theorem parse_reply_failure (failure : Failure) :
    Json.parse (reply (.error failure)).print =
      .ok (.object [("error", .text failure.message)]) := by
  refine Json.parse_print (.object ?_ ?_)
  · exact Dictionary.ascending_cons.mpr ⟨by simp, Dictionary.ascending_nil⟩
  · intro entry hentry
    rw [List.mem_singleton.mp hentry]
    exact .text _

/-- A reply signals a failure if there is one, and else if the result itself holds an error. -/
theorem signalsFailure_reply {result : Result} :
    SignalsFailure (reply result).print ↔ Fails result ∨ ∃ v, result = .ok v ∧ v.HoldsError := by
  rw [signalsFailure_print]
  cases result with
  | ok v => simp [reply, not_fails_ok]
  | error failure =>
      have herror : (reply (.error failure)).HoldsError := ⟨_, failure.message, rfl, rfl⟩
      exact iff_of_true herror (Or.inl ⟨failure, rfl⟩)

/-- A call fails exactly if `p` holds, and its result, if there is one, does not hold an error. -/
structure Reports (result : Result) (p : Prop) : Prop where
  fails_iff : Fails result ↔ p
  clean : ∀ v, result = .ok v → ¬ v.HoldsError

/-- Of such a call the reply signals a failure exactly if there is one. -/
theorem Reports.signalsFailure {result : Result} {p : Prop} (h : Reports result p) :
    SignalsFailure (reply result).print ↔ p := by
  rw [signalsFailure_reply, h.fails_iff, or_iff_left]
  rintro ⟨v, hv, herror⟩
  exact h.clean v hv herror

theorem reports_ok {v : Json} (h : ¬ v.HoldsError) : Reports (.ok v) False := by
  refine ⟨iff_false_intro (not_fails_ok v), ?_⟩
  intro w hw
  cases hw
  exact h

theorem Reports.bind {α : Type} {x : Except Failure α} {f : α → Result} {p : Prop}
    (h : ∀ a, Reports (f a) p) : Reports (x >>= f) (Fails x ∨ p) := by
  refine ⟨fails_bind_iff fun a => (h a).fails_iff, ?_⟩
  intro v hv
  cases x with
  | error failure => cases hv
  | ok a => exact (h a).clean v hv

theorem reports_openForm {source : String} {f : Form → Result} {p : Prop}
    (h : ∀ form, Reports (f form) p) : Reports (openForm source >>= f) (Rejected source ∨ p) := by
  rw [← fails_openForm_iff]
  exact .bind h

theorem reports_readInput {input : Input} {source : String} {f : Json → Result} {p : Prop}
    (h : ∀ v, Reports (f v) p) :
    Reports (readInput input source >>= f) (Unreadable source ∨ p) := by
  rw [← fails_readInput_iff]
  exact .bind h

/-- What is answered once something has been computed does not hold an error. -/
theorem Reports.last {α : Type} {x : Except Failure α} {f : α → Json}
    (h : ∀ a, ¬ (f a).HoldsError) : Reports (x >>= fun a => pure (f a)) (Fails x) := by
  rw [← or_false (Fails x)]
  exact .bind fun a => reports_ok (h a)

theorem reports_of_form {source : String} {f : Form → Json} (h : ∀ form, ¬ (f form).HoldsError) :
    Reports (openForm source >>= fun form => pure (f form)) (Rejected source) := by
  rw [← fails_openForm_iff]
  exact .last h

theorem reports_of_input {input : Input} {source : String} {f : Json → Json}
    (h : ∀ v, ¬ (f v).HoldsError) :
    Reports (readInput input source >>= fun v => pure (f v)) (Unreadable source) := by
  rw [← fails_readInput_iff]
  exact .last h

/-! ### Results -/

theorem not_holdsError_description (form : Form) : ¬ (description form).HoldsError :=
  Json.not_holdsError_ofEntries (by simp)

theorem not_holdsError_visibility (state : Visibility) : ¬ state.toJson.HoldsError := by
  have hvalues : state.toJson = .object (Dictionary.mapValues (fun _ => Json.bool) state) := rfl
  rintro ⟨entries, message, heq, hlookup⟩
  rw [hvalues, Json.object.injEq] at heq
  rw [← heq, Dictionary.lookup_mapValues, Option.map_eq_some_iff] at hlookup
  obtain ⟨visible, -, htext⟩ := hlookup
  cases htext

theorem not_holdsError_validation (errors : FieldErrors) : ¬ (validation errors).HoldsError :=
  Json.not_holdsError_ofEntries (by simp)

theorem not_holdsError_cascaded (data : Json) (resets : List Reset) :
    ¬ (cascaded data resets).HoldsError :=
  Json.not_holdsError_ofEntries (by simp)

theorem not_holdsError_dataChange (change : DataChange) : ¬ change.toJson.HoldsError := by
  obtain ⟨visibility, errors⟩ := change
  apply Json.not_holdsError_ofEntries
  cases errors <;> simp

/-! ### Entry points -/

section

variable (configuration data : String)

theorem reports_describe : Reports (describeResult configuration) (Rejected configuration) :=
  reports_of_form not_holdsError_description

theorem reports_renderTargets :
    Reports (renderTargetsResult configuration) (Rejected configuration) :=
  reports_of_form fun _ => Json.not_holdsError_array _

theorem reports_visibility :
    Reports (visibilityResult configuration data)
      (Rejected configuration ∨ Unreadable data) := by
  apply reports_openForm
  intro form
  exact reports_of_input fun _ => not_holdsError_visibility _

theorem reports_validate :
    Reports (validateResult configuration data) (Rejected configuration ∨ Unreadable data) := by
  apply reports_openForm
  intro form
  exact reports_of_input fun _ => not_holdsError_validation _

theorem reports_cascade (field previous : String) :
    Reports (cascadeResult configuration field previous data)
      (Rejected configuration ∨ Unreadable previous ∨ Unreadable data) := by
  apply reports_openForm
  intro form
  apply reports_readInput
  intro previous
  exact reports_of_input fun data => not_holdsError_cascaded data _

theorem reports_onChange (validate : Bool) :
    Reports (onChangeResult configuration data validate)
      (Rejected configuration ∨ Unreadable data) := by
  apply reports_openForm
  intro form
  exact reports_of_input fun _ => not_holdsError_dataChange _

theorem fails_initialData_iff (overrides : String) :
    Fails (initialDataResult configuration overrides) ↔
      Rejected configuration ∨ Unreadable overrides := by
  rw [← fails_openForm_iff, ← fails_readInput_iff, ← or_false (Fails (readInput _ overrides))]
  apply fails_bind_iff
  intro form
  apply fails_bind_iff
  intro v
  exact iff_false_intro (not_fails_ok _)

/-- Initial data are replied of a form that could be opened and overrides that could be read. -/
theorem initialDataResult_eq_ok_iff {overrides : String} {v : Json} :
    initialDataResult configuration overrides = .ok v ↔
      ∃ form o, openForm configuration = .ok form ∧ readInput .overrides overrides = .ok o ∧
        form.initialData o = v := by
  rw [initialDataResult]
  cases openForm configuration with
  | error failure => simp [bind, Except.bind]
  | ok form =>
      cases readInput .overrides overrides with
      | error failure => simp [bind, Except.bind]
      | ok o => simp [bind, Except.bind, pure, Except.pure]

end

/-- Of six entry points the reply signals a failure exactly if the call failed: if the configuration
cannot be read or is not in order, or an input cannot be read.  The initial data of a form are
replied as they are, so that of these the reply also signals a failure if the data hold a text under
the key `error` themselves. -/
theorem failures_are_signalled :
    (∀ configuration, SignalsFailure (describe configuration) ↔ Rejected configuration) ∧
      (∀ configuration, SignalsFailure (renderTargets configuration) ↔ Rejected configuration) ∧
      (∀ configuration data, SignalsFailure (visibility configuration data) ↔
        Rejected configuration ∨ Unreadable data) ∧
      (∀ configuration data, SignalsFailure (validate configuration data) ↔
        Rejected configuration ∨ Unreadable data) ∧
      (∀ configuration field previous data,
        SignalsFailure (cascade configuration field previous data) ↔
          Rejected configuration ∨ Unreadable previous ∨ Unreadable data) ∧
      (∀ configuration data withErrors,
        SignalsFailure (onChange configuration data withErrors) ↔
          Rejected configuration ∨ Unreadable data) ∧
      ∀ configuration overrides,
        SignalsFailure (initialData configuration overrides) ↔
          Rejected configuration ∨ Unreadable overrides ∨
            ∃ form o, openForm configuration = .ok form ∧ readInput .overrides overrides = .ok o ∧
              (form.initialData o).HoldsError := by
  refine ⟨fun c => (reports_describe c).signalsFailure,
    fun c => (reports_renderTargets c).signalsFailure,
    fun c data => (reports_visibility c data).signalsFailure,
    fun c data => (reports_validate c data).signalsFailure,
    fun c field previous data => (reports_cascade c data field previous).signalsFailure,
    fun c data withErrors => (reports_onChange c data withErrors).signalsFailure, ?_⟩
  intro configuration overrides
  rw [initialData, signalsFailure_reply, fails_initialData_iff, or_assoc]
  refine or_congr_right (or_congr_right ?_)
  constructor
  · rintro ⟨v, hv, herror⟩
    obtain ⟨form, o, hform, ho, rfl⟩ := (initialDataResult_eq_ok_iff configuration).mp hv
    exact ⟨form, o, hform, ho, herror⟩
  · rintro ⟨form, o, hform, ho, herror⟩
    exact ⟨_, (initialDataResult_eq_ok_iff configuration).mpr ⟨form, o, hform, ho, rfl⟩, herror⟩

end Gateway

/-! ### A field that is named `error` -/

namespace ErrorField

open Gateway

/-- A text field that is named `error`. -/
def configuration : String := "[\x7b\"name\":\"error\",\"type\":\"text\"\x7d]"

def elements : Json := .array [.object [("name", .text "error"), ("type", .text "text")]]

def field : Field :=
  .single ({ kind := some "text", name := some "error" } : Attributes).fieldInfo .generic

def form : Form where
  tree := ⟨[.field field]⟩
  options := {}
  operations := Rule.defaultOperations

theorem parse_configuration : Json.parse configuration = .ok elements := by
  have hprint : configuration = elements.print := rfl
  have hascending :
      Dictionary.Ascending [("name", Json.text "error"), ("type", Json.text "text")] := by
    unfold Dictionary.Ascending
    decide
  rw [hprint]
  refine Json.parse_print (.array ?_)
  intro v hv
  rw [List.mem_singleton.mp hv]
  refine .object hascending ?_
  intro entry hentry
  simp only [List.mem_cons, List.not_mem_nil, or_false] at hentry
  rcases hentry with rfl | rfl <;> exact .text _

theorem openForm_configuration : openForm configuration = .ok form := by
  have hread : readConfiguration configuration = .ok elements := by
    unfold readConfiguration
    rw [parse_configuration]
    rfl
  have hform : Form.ofConfiguration Rule.defaultOperations none elements = .ok form := rfl
  simp only [openForm, hread, bind, Except.bind, hform]

/-- Nothing is wrong with the configuration and the overrides, and all the same the reply with the
initial data is one that signals a failure. -/
theorem initial_data_signal_failure :
    SignalsFailure (initialData configuration "") ∧
      ¬ (Rejected configuration ∨ Unreadable "") := by
  have hdata : form.initialData (.object []) = .object [("error", .text "")] := rfl
  have hresult : initialDataResult configuration "" = .ok (.object [("error", .text "")]) :=
    (initialDataResult_eq_ok_iff configuration).mpr
      ⟨form, .object [], openForm_configuration, rfl, hdata⟩
  constructor
  · rw [initialData, hresult, signalsFailure_print]
    exact ⟨_, "", rfl, rfl⟩
  · rintro (hrejected | hunreadable)
    · rw [← fails_openForm_iff, openForm_configuration] at hrejected
      exact not_fails_ok form hrejected
    · have hblank : Text.isBlank "" = true := rfl
      rw [Unreadable, hblank] at hunreadable
      cases hunreadable.1

end ErrorField

end FormLogic
