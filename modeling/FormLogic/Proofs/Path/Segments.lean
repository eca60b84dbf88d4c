import FormLogic.Binary64.Text
import FormLogic.Proofs.Path.Parts

/-!
# Joined paths

Joining two paths puts their segments one after the other.  Paths that are joined from keys never
have an empty part, so that their segments tell them apart.
-/

namespace FormLogic.Path

@[simp] theorem segments_empty : segments "" = [] := rfl

theorem segments_append_dot (front back : String) :
    segments (front ++ "." ++ back) = segments front ++ segments back := by
  rw [segments, parts_append_dot, List.filter_append]
  rfl

theorem join_of_ne_empty {parent child : String} (hparent : parent ≠ "") (hchild : child ≠ "") :
    join parent child = parent ++ "." ++ child := by
  rw [join, if_neg hparent, if_neg hchild]

@[simp] theorem join_empty_left (child : String) : join "" child = child := rfl

@[simp] theorem join_empty_right (parent : String) : join parent "" = parent := by
  by_cases h : parent = ""
  · simp [h]
  · simp [join, h]

theorem segments_join (parent child : String) :
    segments (join parent child) = segments parent ++ segments child := by
  -- Joining puts no dot beside an empty path, and an empty path has no segment.
  by_cases hparent : parent = ""
  · simp [hparent]
  by_cases hchild : child = ""
  · simp [hchild]
  rw [join_of_ne_empty hparent hchild, segments_append_dot]

theorem append_dot_ne_empty (front back : String) : front ++ "." ++ back ≠ "" := by
  intro h
  have hlength := congrArg List.length (congrArg parts h)
  have hfront := List.length_pos_iff.mpr (parts_ne_nil front)
  have hback := List.length_pos_iff.mpr (parts_ne_nil back)
  rw [parts_append_dot, List.length_append, parts_empty, List.length_singleton] at hlength
  omega

theorem join_ne_empty {parent : String} (hparent : parent ≠ "") (child : String) :
    join parent child ≠ "" := by
  by_cases hchild : child = ""
  · simpa [hchild] using hparent
  · rw [join_of_ne_empty hparent hchild]
    exact append_dot_ne_empty parent child

/-- A path that is joined to another one lies at or below that. -/
theorem parts_prefix_join {parent : String} (hparent : parent ≠ "") (child : String) :
    parts parent <+: parts (join parent child) := by
  by_cases hchild : child = ""
  · simp [hchild]
  · rw [join_of_ne_empty hparent hchild, parts_append_dot]
    exact List.prefix_append ..

theorem segments_of_dot_not_mem {key : String} (h : '.' ∉ key.toList) :
    segments key = [key].filter (· != "") := by
  rw [segments, parts_of_dot_not_mem h]

/-! ### Paths without empty parts -/

/-- No part of the path is empty. -/
def Plain (path : String) : Prop := "" ∉ parts path

/-- The path is empty, or none of its parts is. -/
def Tidy (path : String) : Prop := path = "" ∨ Plain path

theorem Plain.ne_empty {path : String} (h : Plain path) : path ≠ "" := by
  rintro rfl
  simp [Plain] at h

theorem Plain.tidy {path : String} (h : Plain path) : Tidy path := Or.inr h

theorem tidy_empty : Tidy "" := Or.inl rfl

theorem segments_of_plain {path : String} (h : Plain path) : segments path = parts path := by
  rw [segments, List.filter_eq_self]
  intro part hpart
  rw [bne_iff_ne]
  rintro rfl
  exact h hpart

theorem segments_prefix_of_parts {p q : String} (h : parts p <+: parts q) :
    segments p <+: segments q :=
  h.filter _

theorem length_segments_le_of_prefix_parts {p q : String} (h : segments p <+: parts q) :
    (segments p).length ≤ (segments q).length := by
  -- Leaving out empty parts once more takes nothing from the segments on the left.
  have hfilter := (h.filter fun part => part != "").length_le
  rw [segments, List.filter_filter] at hfilter
  simpa only [segments, Bool.and_self] using hfilter

theorem Plain.of_below {path parent : String} (h : Plain path) (hbelow : Below path parent) :
    Plain parent := by
  obtain ⟨rest, -, hparts⟩ := below_iff_parts.mp hbelow
  intro hmem
  exact h (hparts ▸ List.mem_append_left rest hmem)

theorem plain_of_dot_not_mem {key : String} (h : '.' ∉ key.toList) (hne : key ≠ "") :
    Plain key := by
  rw [Plain, parts_of_dot_not_mem h, List.mem_singleton]
  exact hne.symm

theorem tidy_of_dot_not_mem {key : String} (h : '.' ∉ key.toList) : Tidy key := by
  by_cases hne : key = ""
  · exact Or.inl hne
  · exact (plain_of_dot_not_mem h hne).tidy

theorem Plain.append_dot {front back : String} (hfront : Plain front) (hback : Plain back) :
    Plain (front ++ "." ++ back) := by
  rw [Plain, parts_append_dot, List.mem_append, not_or]
  exact ⟨hfront, hback⟩

theorem Tidy.join {parent child : String} (hparent : Tidy parent) (hchild : Tidy child) :
    Tidy (Path.join parent child) := by
  rcases hparent with rfl | hparent
  · simpa using hchild
  rcases hchild with rfl | hchild
  · simpa using hparent.tidy
  rw [join_of_ne_empty hparent.ne_empty hchild.ne_empty]
  exact (hparent.append_dot hchild).tidy

theorem Tidy.plain_join {parent child : String} (hparent : Tidy parent) (hchild : Plain child) :
    Plain (Path.join parent child) := by
  rcases hparent with rfl | hparent
  · simpa using hchild
  · rw [join_of_ne_empty hparent.ne_empty hchild.ne_empty]
    exact hparent.append_dot hchild

theorem Tidy.parts_join {parent child : String} (hparent : Tidy parent) (hchild : Plain child) :
    parts (Path.join parent child) = segments parent ++ parts child := by
  rw [← segments_of_plain (hparent.plain_join hchild), segments_join, segments_of_plain hchild]

/-- Tidy paths with the same segments are the same. -/
theorem Tidy.eq_of_segments_eq {p q : String} (hp : Tidy p) (hq : Tidy q)
    (h : segments p = segments q) : p = q := by
  rcases hp with rfl | hp <;> rcases hq with rfl | hq
  · rfl
  · rw [segments_of_plain hq, segments_empty] at h
    exact absurd h.symm (parts_ne_nil q)
  · rw [segments_of_plain hp, segments_empty] at h
    exact absurd h (parts_ne_nil p)
  · rw [segments_of_plain hp, segments_of_plain hq] at h
    exact parts_injective h

/-! ### Keys below a path -/

/-- The path of the value that keys lead to, from the value at a parent path. -/
def under (parent : String) (keys : List String) : String := keys.foldl join parent

@[simp] theorem under_nil (parent : String) : under parent [] = parent := rfl

@[simp] theorem under_cons (parent key : String) (keys : List String) :
    under parent (key :: keys) = under (join parent key) keys := rfl

/-- No key has a dot, as is the case for the parts of a path. -/
def Dotless (keys : List String) : Prop := ∀ key ∈ keys, '.' ∉ key.toList

theorem dotless_parts (path : String) : Dotless (parts path) :=
  fun _ h => dot_not_mem_of_mem_parts h

theorem Dotless.front {front keys : List String} (h : Dotless keys) (hfront : front <+: keys) :
    Dotless front := by
  intro key hkey
  exact h key (hfront.subset hkey)

/-- Keys without dots are the parts of the path that has dots put between them. -/
theorem Dotless.parts_intercalate {keys : List String} (h : Dotless keys) (hkeys : keys ≠ []) :
    parts (".".intercalate keys) = keys := by
  induction keys with
  | nil => exact absurd rfl hkeys
  | cons key keys ih =>
      have hkey : '.' ∉ key.toList := h key (List.mem_cons_self ..)
      cases keys with
      | nil => rw [String.intercalate_singleton, parts_of_dot_not_mem hkey]
      | cons next keys =>
          have hrest : parts (".".intercalate (next :: keys)) = next :: keys :=
            ih (fun k hk => h k (List.mem_cons_of_mem _ hk)) (by simp)
          rw [String.intercalate_cons_cons, parts_append_dot, parts_of_dot_not_mem hkey, hrest,
            List.singleton_append]

theorem Dotless.exists_parts_eq {keys : List String} (h : Dotless keys) (hkeys : keys ≠ []) :
    ∃ path, parts path = keys :=
  ⟨".".intercalate keys, h.parts_intercalate hkeys⟩

/-- A path is made of its parts with dots put between them. -/
theorem intercalate_parts (path : String) : ".".intercalate (parts path) = path :=
  parts_injective ((dotless_parts path).parts_intercalate (parts_ne_nil path))

theorem parts_prefix_under {parent : String} (hparent : parent ≠ "") (keys : List String) :
    parts parent <+: parts (under parent keys) := by
  induction keys generalizing parent with
  | nil => exact List.prefix_rfl
  | cons key keys ih => exact (parts_prefix_join hparent key).trans (ih (join_ne_empty hparent key))

theorem segments_under {keys : List String} (h : Dotless keys) (parent : String) :
    segments (under parent keys) = segments parent ++ keys.filter (· != "") := by
  induction keys generalizing parent with
  | nil => simp
  | cons key keys ih =>
      have hkey : '.' ∉ key.toList := h key (List.mem_cons_self ..)
      have hkeys : Dotless keys := fun k hk => h k (List.mem_cons_of_mem _ hk)
      rw [under_cons, ih hkeys, segments_join, segments_of_dot_not_mem hkey, List.append_assoc,
        ← List.filter_append, List.singleton_append]

theorem segments_under_parts (path : String) :
    segments (under "" (parts path)) = segments path := by
  rw [segments_under (dotless_parts path), segments_empty, List.nil_append]
  rfl

theorem Tidy.under {keys : List String} (h : Dotless keys) {parent : String}
    (hparent : Tidy parent) : Tidy (under parent keys) := by
  induction keys generalizing parent with
  | nil => exact hparent
  | cons key keys ih =>
      have hkey : '.' ∉ key.toList := h key (List.mem_cons_self ..)
      have hkeys : Dotless keys := fun k hk => h k (List.mem_cons_of_mem _ hk)
      exact ih hkeys (hparent.join (tidy_of_dot_not_mem hkey))

/-- The keys that the parts of a plain path give lead to that path. -/
theorem under_parts {path parent : String} (h : Plain path) (hparent : Tidy parent) :
    under parent (parts path) = join parent path := by
  -- Both sides are tidy, so that their segments tell them apart.
  apply Tidy.eq_of_segments_eq (hparent.under (dotless_parts path)) (hparent.join h.tidy)
  rw [segments_under (dotless_parts path), segments_join]
  rfl

/-- Keys and those among them that are not empty part ways at an empty one. -/
theorem exists_first_empty {keys : List String} (h : ¬ keys.filter (· != "") <+: keys) :
    ∃ front back key rest, keys = front ++ "" :: back ∧
      keys.filter (· != "") = front ++ key :: rest ∧ key ≠ "" := by
  induction keys with
  | nil => exact absurd List.prefix_rfl h
  | cons first keys ih =>
      by_cases hfirst : first = ""
      · subst hfirst
        have hfilter : ("" :: keys).filter (· != "") = keys.filter (· != "") := rfl
        -- If nothing were left after the empty key, nothing would part ways with the keys.
        have hne : keys.filter (· != "") ≠ [] := by
          intro hnil
          rw [hfilter, hnil] at h
          exact h List.nil_prefix
        obtain ⟨key, rest, hkey⟩ := List.exists_cons_of_ne_nil hne
        have hmem : key ∈ keys.filter (· != "") := hkey ▸ List.mem_cons_self ..
        exact ⟨[], keys, key, rest, rfl, hkey, by simpa using (List.mem_filter.mp hmem).2⟩
      · have hfilter : (first :: keys).filter (· != "") = first :: keys.filter (· != "") := by
          simp [hfirst]
        rw [hfilter, List.cons_prefix_cons, not_and] at h
        obtain ⟨front, back, key, rest, hkeys, hrest, hkey⟩ := ih (h rfl)
        refine ⟨first :: front, back, key, rest, ?_, ?_, hkey⟩
        · rw [hkeys, List.cons_append]
        · rw [hfilter, hrest, List.cons_append]

theorem empty_lt_of_ne_empty {key : String} (h : key ≠ "") : "" < key := by
  rw [String.lt_iff, String.toList_empty]
  obtain ⟨c, cs, hcs⟩ := List.exists_cons_of_ne_nil (mt String.toList_eq_nil_iff.mp h)
  rw [hcs]
  exact List.nil_lt_cons c cs

/-! ### Indices -/

/-- A list goes on in one way only. -/
theorem eq_of_prefix_keys {α : Type} {front keys : List α} {a b : α}
    (ha : front ++ [a] <+: keys) (hb : front ++ [b] <+: keys) : a = b := by
  rcases List.prefix_or_prefix_of_prefix ha hb with h | h
  · rw [List.prefix_append_right_inj, List.cons_prefix_cons] at h
    exact h.1
  · rw [List.prefix_append_right_inj, List.cons_prefix_cons] at h
    exact h.1.symm

theorem dot_not_mem_digitsText (n : Nat) : '.' ∉ (Binary64.digitsText n).toList := by
  intro h
  rw [Binary64.digitsText, String.toList_ofList] at h
  have hdigit := Nat.isDigit_of_mem_toDigits (by decide) (by decide) h
  exact absurd hdigit (by decide)

theorem plain_digitsText (n : Nat) : Plain (Binary64.digitsText n) := by
  apply plain_of_dot_not_mem (dot_not_mem_digitsText n)
  intro h
  have hnil : Nat.toDigits 10 n = [] := String.ofList_injective h
  exact Nat.toDigits_ne_nil hnil

theorem digitsText_injective {m n : Nat} (h : Binary64.digitsText m = Binary64.digitsText n) :
    m = n := by
  have hdigits : Nat.toDigits 10 m = Nat.toDigits 10 n := String.ofList_injective h
  rw [← Nat.ofDigitChars_ten_toDigits (n := m), hdigits, Nat.ofDigitChars_ten_toDigits]

theorem segments_digitsText (n : Nat) :
    segments (Binary64.digitsText n) = [Binary64.digitsText n] := by
  rw [segments_of_plain (plain_digitsText n), parts_of_dot_not_mem (dot_not_mem_digitsText n)]

end FormLogic.Path
