import FormLogic.Path
import FormLogic.Proofs.Dictionary
import FormLogic.Proofs.Json.Printing

/-!
# Values in normal form, and when two values are equal

A value that is read from a text is in normal form: its objects have ascending keys, and its numbers
are finite.  Two values are equal if they have the same shape, the same keys and the same texts, and
numbers that are of one kind and equal as numbers, so that only the sign of a zero may tell them
apart.  Each value in normal form is equal to itself.
-/

namespace FormLogic.Json

/-! ### Normal forms -/

/-- All numbers in the value are finite, and all objects in it have ascending keys. -/
inductive Normal : Json → Prop where
  | null : Normal .null
  | bool (b : Bool) : Normal (.bool b)
  | integer (n : Int) : Normal (.number (.integer n))
  | real {x : Binary64} (h : x.isFinite = true) : Normal (.number (.real x))
  | text (s : String) : Normal (.text s)
  | array {items : List Json} (h : ∀ v ∈ items, Normal v) : Normal (.array items)
  | object {entries : Dictionary Json} (hascending : entries.Ascending)
      (h : ∀ entry ∈ entries, Normal entry.2) : Normal (.object entries)

namespace Normal

theorem ascending {entries : Dictionary Json} (h : Normal (.object entries)) :
    entries.Ascending := by
  cases h with
  | object hascending _ => exact hascending

theorem of_lookup {entries : Dictionary Json} {key : String} {v : Json}
    (h : Normal (.object entries)) (hv : Dictionary.lookup key entries = some v) : v.Normal := by
  cases h with
  | object _ hentries => exact hentries (key, v) (Dictionary.mem_of_lookup_eq_some hv)

theorem of_mem {items : List Json} {v : Json} (h : Normal (.array items)) (hv : v ∈ items) :
    v.Normal := by
  cases h with
  | array hitems => exact hitems v hv

theorem ofNat (n : Nat) : Normal (.ofNat n) := .integer n

theorem ofEntries {entries : List (String × Json)} (h : ∀ entry ∈ entries, entry.2.Normal) :
    Normal (.ofEntries entries) := by
  refine .object (Dictionary.ascending_ofList entries) ?_
  intro entry hentry
  exact h entry (Dictionary.mem_of_mem_ofList hentry)

end Normal

/-! ### What is read is in normal form -/

theorem normal_of_realNumber {negative : Bool} {digits : Nat} {exponent : Int}
    {rest left : List Char} {result : Number × List Char}
    (h : (realNumber negative digits exponent rest).map (·, left) = .ok result) :
    Normal (.number result.1) := by
  simp only [realNumber] at h
  split at h
  · rename_i hfinite
    cases h
    exact .real hfinite
  · cases h

theorem normal_of_integerOrReal {negative : Bool} {whole rest : List Char}
    {result : Number × List Char} (h : integerOrReal negative whole rest = .ok result) :
    Normal (.number result.1) := by
  simp only [integerOrReal] at h
  split at h
  · split at h
    · exact normal_of_realNumber h
    · cases h
      exact .integer _
  · split at h
    · exact normal_of_realNumber h
    · cases h
      exact .integer _

theorem normal_of_scaledNumber {negative : Bool} {digits : List Char} {places : Nat}
    {cs : List Char} {result : Number × List Char}
    (h : scaledNumber negative digits places cs = .ok result) : Normal (.number result.1) := by
  simp only [scaledNumber] at h
  split at h
  · split at h
    · split at h
      · cases h
      · exact normal_of_realNumber h
    · exact normal_of_realNumber h
  · exact normal_of_realNumber h

theorem normal_of_numberTail {negative : Bool} {whole cs : List Char}
    {result : Number × List Char} (h : numberTail negative whole cs = .ok result) :
    Normal (.number result.1) := by
  unfold numberTail at h
  split at h
  · simp only at h
    split at h
    · split at h <;> cases h
    · exact normal_of_scaledNumber h
  · split at h
    · exact normal_of_scaledNumber h
    · exact normal_of_integerOrReal h
  · exact normal_of_integerOrReal h

theorem normal_of_unsignedNumber {negative : Bool} {cs : List Char}
    {result : Number × List Char} (h : unsignedNumber negative cs = .ok result) :
    Normal (.number result.1) := by
  unfold unsignedNumber at h
  split at h
  · cases h
  · split at h
    · split at h
      · cases h
      · exact normal_of_numberTail h
    · exact normal_of_numberTail h
  · split at h
    · exact normal_of_numberTail h
    · cases h

theorem normal_of_numberStep {negative : Bool} {cs : List Char} {v : Json} {r : Rest cs}
    (h : numberStep negative cs = .ok (v, r)) : v.Normal := by
  unfold numberStep at h
  split at h
  · cases h
  · rename_i hread
    cases h
    exact normal_of_unsignedNumber hread

section

variable {α : Type} {item : (cs : List Char) → Step cs α} {p : α → Prop}
  (hitem : ∀ cs a r, item cs = .ok (a, r) → p a)

include hitem

/-- What holds of all that the reader of items reads holds of the items of a list. -/
theorem forall_mem_of_listItems (first : Bool) (cs : List Char) :
    ∀ as r, listItems item first cs = .ok (as, r) → ∀ a ∈ as, p a := by
  fun_induction listItems item first cs with
  | case2 =>
      intro as r h
      cases h
      simp
  | case5 cs c rest hskip hrest hc a left hleft hread hlt as r hreads ih =>
      intro as' r' h
      cases h
      exact List.forall_mem_cons.mpr ⟨hitem _ _ _ hread, ih _ _ hreads⟩
  | case10 first cs rest _ d more _ _ a left _ hread as r hreads _ _ _ _ _ ih =>
      intro as' r' h
      cases h
      exact List.forall_mem_cons.mpr ⟨hitem _ _ _ hread, ih _ _ hreads⟩
  | _ =>
      intro as r h
      cases h

theorem of_keyedValue {cs : List Char} {entry : String × α} {r : Rest cs}
    (h : keyedValue item cs = .ok (entry, r)) : p entry.2 := by
  unfold keyedValue at h
  split at h
  · cases h
  · split at h
    · cases h
    · split at h
      · split at h
        · cases h
        · rename_i hread
          cases h
          exact hitem _ _ _ hread
      · cases h

theorem forall_mem_of_objectEntries (first : Bool) (cs : List Char) :
    ∀ entries r, objectEntries item first cs = .ok (entries, r) →
      ∀ entry ∈ entries, p entry.2 := by
  fun_induction objectEntries item first cs with
  | case2 =>
      intro as r h
      cases h
      simp
  | case5 cs more a left hleft hread as r hreads _ _ _ _ ih =>
      intro as' r' h
      cases h
      exact List.forall_mem_cons.mpr ⟨of_keyedValue hitem hread, ih _ _ hreads⟩
  | case10 first cs rest _ more a left hleft hread as r hreads _ _ _ _ _ _ ih =>
      intro as' r' h
      cases h
      exact List.forall_mem_cons.mpr ⟨of_keyedValue hitem hread, ih _ _ hreads⟩
  | _ =>
      intro as r h
      cases h

end

theorem eq_of_literalTail {w : Json} {word cs : List Char} {v : Json}
    {r : { rest : List Char // rest.length ≤ cs.length }}
    (h : literalTail w word cs = .ok (v, r)) : v = w := by
  fun_induction literalTail w word cs with
  | case1 =>
      cases h
      rfl
  | case4 d word cs v' r' hread ih =>
      cases h
      exact ih hread
  | _ => cases h

theorem normal_of_literal {w v : Json} {word rest cs : List Char} {r : Rest cs}
    (hrest : rest.length < cs.length) (hw : w.Normal)
    (h : (match literalTail w word rest with
      | .error e => .error e
      | .ok (v, r) => .ok (v, ⟨r.1, Nat.lt_of_le_of_lt r.2 hrest⟩) : Step cs Json) = .ok (v, r)) :
    v.Normal := by
  split at h
  · cases h
  · rename_i hread
    cases h
    rw [eq_of_literalTail hread]
    exact hw

/-- A value is in normal form if the values that are read within it are. -/
theorem normal_of_value_of (depth : Nat)
    (hinner : ∀ d, depth = d + 1 → ∀ cs v r, value d cs = .ok (v, r) → v.Normal)
    {cs : List Char} {v : Json} {r : Rest cs} (h : value depth cs = .ok (v, r)) : v.Normal := by
  unfold value at h
  split at h
  · cases h
  rename_i c rest hskip
  have hrest : rest.length < cs.length := by
    have hlength := length_skipSpace_le cs
    rw [hskip, List.length_cons] at hlength
    omega
  simp only at h
  -- The first character decides what is read.
  split at h
  · exact normal_of_literal hrest .null h
  split at h
  · exact normal_of_literal hrest (.bool true) h
  split at h
  · exact normal_of_literal hrest (.bool false) h
  split at h
  · -- a negative number
    split at h
    · cases h
    · rename_i hread
      cases h
      exact normal_of_numberStep hread
  split at h
  · -- a number without a sign
    split at h
    · cases h
    · rename_i hread
      cases h
      exact normal_of_numberStep hread
  split at h
  · -- a text
    split at h
    · cases h
    · cases h
      exact .text _
  split at h
  · -- a list
    split at h
    · cases h
    · split at h
      · cases h
      · rename_i hread
        cases h
        exact .array (forall_mem_of_listItems (hinner _ rfl) true rest _ _ hread)
  split at h
  · -- an object
    split at h
    · cases h
    · split at h
      · cases h
      · rename_i hread
        cases h
        exact .ofEntries (forall_mem_of_objectEntries (hinner _ rfl) true rest _ _ hread)
  · cases h

theorem normal_of_value (depth : Nat) :
    ∀ cs v r, value depth cs = .ok (v, r) → v.Normal := by
  induction depth with
  | zero =>
      intro cs v r h
      refine normal_of_value_of 0 ?_ h
      intro d hd
      exact absurd hd (Nat.succ_ne_zero d).symm
  | succ depth ih =>
      intro cs v r h
      refine normal_of_value_of (depth + 1) ?_ h
      intro d hd
      cases hd
      exact ih

theorem normal_of_parse {source : String} {v : Json} (h : parse source = .ok v) : v.Normal := by
  unfold parse at h
  simp only at h
  split at h
  · cases h
  · rename_i hread
    split at h
    · cases h
      exact normal_of_value _ _ _ _ hread
    · cases h

/-! ### Equal values -/

mutual

inductive Equal : Json → Json → Prop where
  | null : Equal .null .null
  | bool (b : Bool) : Equal (.bool b) (.bool b)
  | integer (n : Int) : Equal (.number (.integer n)) (.number (.integer n))
  | real {x y : Binary64} (hx : x.isNotNumber = false) (hy : y.isNotNumber = false)
      (h : x.ordinal = y.ordinal) : Equal (.number (.real x)) (.number (.real y))
  | text (s : String) : Equal (.text s) (.text s)
  | array {xs ys : List Json} (h : List.Forall₂ Equal xs ys) : Equal (.array xs) (.array ys)
  | object {xs ys : List (String × Json)} (h : List.Forall₂ EqualEntries xs ys) :
      Equal (.object xs) (.object ys)

inductive EqualEntries : String × Json → String × Json → Prop where
  | entry {key : String} {v w : Json} (h : Equal v w) : EqualEntries (key, v) (key, w)

end

theorem equal_number_iff {m n : Number} : Equal (.number m) (.number n) ↔ m.same n = true := by
  cases m with
  | integer a =>
      cases n with
      | integer b =>
          constructor
          · intro h
            cases h
            simp [Number.same]
          · intro h
            obtain rfl : a = b := by simpa [Number.same] using h
            exact .integer a
      | real y => exact iff_of_false nofun (by simp [Number.same])
  | real x =>
      cases n with
      | integer b => exact iff_of_false nofun (by simp [Number.same])
      | real y =>
          simp only [Number.same, Binary64.same, Bool.and_eq_true, Bool.not_eq_true', beq_iff_eq]
          constructor
          · intro h
            cases h with
            | real hx hy h => exact ⟨⟨hx, hy⟩, h⟩
          · intro ⟨⟨hx, hy⟩, h⟩
            exact .real hx hy h

theorem equalEntries_iff {entry other : String × Json} :
    EqualEntries entry other ↔ entry.1 = other.1 ∧ Equal entry.2 other.2 := by
  constructor
  · intro h
    cases h with
    | entry h => exact ⟨rfl, h⟩
  · obtain ⟨key, v⟩ := entry
    intro ⟨hkey, h⟩
    subst hkey
    exact .entry h

theorem sameItems_eq_true_iff {as : List Json}
    (h : ∀ v ∈ as, ∀ w, same v w = true ↔ Equal v w) (bs : List Json) :
    sameItems as bs = true ↔ List.Forall₂ Equal as bs := by
  induction as generalizing bs with
  | nil => cases bs <;> simp [sameItems]
  | cons a as ih =>
      rw [List.forall_mem_cons] at h
      cases bs with
      | nil => simp [sameItems]
      | cons b bs => simp [sameItems, h.1, ih h.2]

theorem sameEntries_eq_true_iff {as : List (String × Json)}
    (h : ∀ entry ∈ as, ∀ w, same entry.2 w = true ↔ Equal entry.2 w)
    (bs : List (String × Json)) :
    sameEntries as bs = true ↔ List.Forall₂ EqualEntries as bs := by
  induction as generalizing bs with
  | nil => cases bs <;> simp [sameEntries]
  | cons entry as ih =>
      rw [List.forall_mem_cons] at h
      cases bs with
      | nil => simp [sameEntries]
      | cons other bs => simp [sameEntries, h.1, ih h.2, equalEntries_iff]

theorem same_eq_true_iff (v : Json) : ∀ w, same v w = true ↔ Equal v w := by
  induction v using Json.induction with
  | null =>
      intro w
      cases w with
      | null => exact iff_of_true (by simp [same]) .null
      | _ => exact iff_of_false (by simp [same]) nofun
  | bool a =>
      intro w
      cases w with
      | bool b =>
          constructor
          · intro h
            obtain rfl : a = b := by simpa [same] using h
            exact .bool a
          · intro h
            cases h
            simp [same]
      | _ => exact iff_of_false (by simp [same]) nofun
  | number m =>
      intro w
      cases w with
      | number n => rw [same, equal_number_iff]
      | _ => exact iff_of_false (by simp [same]) nofun
  | text s =>
      intro w
      cases w with
      | text t =>
          constructor
          · intro h
            obtain rfl : s = t := by simpa [same] using h
            exact .text s
          · intro h
            cases h
            simp [same]
      | _ => exact iff_of_false (by simp [same]) nofun
  | array as ih =>
      intro w
      cases w with
      | array bs =>
          rw [same, sameItems_eq_true_iff ih]
          exact ⟨.array, fun h => by cases h; assumption⟩
      | _ => exact iff_of_false (by simp [same]) nofun
  | object as ih =>
      intro w
      cases w with
      | object bs =>
          rw [same, sameEntries_eq_true_iff ih]
          exact ⟨.object, fun h => by cases h; assumption⟩
      | _ => exact iff_of_false (by simp [same]) nofun

theorem Normal.equal_self {v : Json} (h : v.Normal) : Equal v v := by
  induction h with
  | null => exact .null
  | bool b => exact .bool b
  | integer n => exact .integer n
  | @real x h =>
      have hnumber : x.isNotNumber = false := by
        simp only [Binary64.isFinite, decide_eq_true_eq] at h
        simp only [Binary64.isNotNumber, decide_eq_false_iff_not]
        omega
      exact .real hnumber hnumber rfl
  | text s => exact .text s
  | array _ ih => exact .array (List.forall₂_same.mpr ih)
  | object _ _ ih =>
      refine .object (List.forall₂_same.mpr ?_)
      intro entry hentry
      exact .entry (ih entry hentry)

theorem Equal.symm {v w : Json} (h : Equal v w) : Equal w v := by
  induction v using Json.induction generalizing w with
  | array items ih =>
      cases h with
      | array h =>
          refine .array (List.Forall₂.flip ?_)
          exact ((List.forall₂_and_left _ _).mpr ⟨ih, h⟩).imp fun _ _ ⟨hsymm, heq⟩ => hsymm heq
  | object entries ih =>
      cases h with
      | object h =>
          refine .object (List.Forall₂.flip ?_)
          refine ((List.forall₂_and_left _ _).mpr ⟨ih, h⟩).imp ?_
          rintro _ _ ⟨hsymm, ⟨heq⟩⟩
          exact .entry (hsymm heq)
  | number n =>
      cases h with
      | integer n => exact .integer n
      | real hx hy h => exact .real hy hx h.symm
  | _ =>
      cases h
      constructor

/-- A relation passes on along lists if it does so at each item in the middle. -/
theorem forall₂_trans {α : Type} {r : α → α → Prop} {xs ys zs : List α}
    (h : ∀ y ∈ ys, ∀ x z, r x y → r y z → r x z) (hxy : List.Forall₂ r xs ys)
    (hyz : List.Forall₂ r ys zs) : List.Forall₂ r xs zs := by
  induction hxy generalizing zs with
  | nil => exact hyz
  | @cons x y _ _ hx _ ih =>
      rw [List.forall_mem_cons] at h
      cases hyz with
      | @cons _ z _ _ hz hrest => exact .cons (h.1 x z hx hz) (ih h.2 hrest)

theorem Equal.trans {u v w : Json} (huv : Equal u v) (hvw : Equal v w) : Equal u w := by
  induction v using Json.induction generalizing u w with
  | array items ih =>
      cases huv with
      | array huv =>
          cases hvw with
          | array hvw => exact .array (forall₂_trans (fun y hy _ _ => ih y hy) huv hvw)
  | object entries ih =>
      cases huv with
      | object huv =>
          cases hvw with
          | object hvw =>
              refine .object (forall₂_trans ?_ huv hvw)
              rintro y hy _ _ ⟨hx⟩ ⟨hz⟩
              exact .entry (ih _ hy hx hz)
  | number n =>
      cases huv with
      | integer n => exact hvw
      | real hx _ h =>
          cases hvw with
          | real _ hz h' => exact .real hx hz (h.trans h')
  | _ =>
      cases huv
      exact hvw

theorem same_comm (v w : Json) : same v w = same w v := by
  rw [Bool.eq_iff_iff, same_eq_true_iff, same_eq_true_iff]
  exact ⟨Equal.symm, Equal.symm⟩

theorem sameOption_eq_true_iff {a b : Option Json} :
    sameOption a b = true ↔ Option.Rel Equal a b := by
  cases a with
  | none =>
      cases b with
      | none => exact iff_of_true rfl .none
      | some w => exact iff_of_false (by simp [sameOption]) nofun
  | some v =>
      cases b with
      | none => exact iff_of_false (by simp [sameOption]) nofun
      | some w =>
          rw [sameOption, same_eq_true_iff]
          constructor
          · intro h
            exact .some h
          · intro h
            cases h with
            | some h => exact h

end FormLogic.Json

/-! ### What is read in a value in normal form -/

namespace FormLogic.Path

theorem normal_of_child {segment : String} {data v : Json} (hdata : data.Normal)
    (h : child segment data = some v) : v.Normal := by
  cases data with
  | object entries => exact hdata.of_lookup h
  | array items =>
      obtain ⟨i, -, hi⟩ := Option.bind_eq_some_iff.mp h
      exact hdata.of_mem (List.mem_of_getElem? hi)
  | _ => cases h

theorem normal_of_readAt {keys : List String} {data v : Json} (hdata : data.Normal)
    (h : readAt keys data = some v) : v.Normal := by
  induction keys generalizing data with
  | nil =>
      cases h
      exact hdata
  | cons key keys ih =>
      obtain ⟨next, hnext, hread⟩ := Option.bind_eq_some_iff.mp h
      exact ih (normal_of_child hdata hnext) hread

/-- What is read at a path in a value in normal form is equal to itself. -/
theorem sameOption_get_self {data : Json} (hdata : data.Normal) (path : String) :
    Json.sameOption (get data path) (get data path) = true := by
  cases hread : get data path with
  | none => rfl
  | some v => exact (Json.same_eq_true_iff v v).mpr (normal_of_readAt hdata hread).equal_self

end FormLogic.Path
