/-!
# Dictionaries

A dictionary is a list of keyed entries in ascending key order, without a repeated key.  The
operations below keep that order, and each of them looks at keys only, so that the laws of look-up
after insertion hold for every list of entries.
-/

namespace FormLogic

/-- Keyed entries, in ascending key order. -/
abbrev Dictionary (α : Type) := List (String × α)

namespace Dictionary

variable {α β : Type}

/-- The value of the first entry with the given key. -/
def lookup (key : String) : Dictionary α → Option α
  | [] => none
  | (k, v) :: rest => if key = k then some v else lookup key rest

/-- Whether some entry has the given key. -/
def contains (key : String) (entries : Dictionary α) : Bool :=
  (lookup key entries).isSome

/-- Writes a value under a key, in place of the value that was there. -/
def insert (key : String) (value : α) : Dictionary α → Dictionary α
  | [] => [(key, value)]
  | (k, v) :: rest =>
      if key = k then (key, value) :: rest
      else if key < k then (key, value) :: (k, v) :: rest
      else (k, v) :: insert key value rest

/-- Writes a value under a key unless the key already has one. -/
def insertNew (key : String) (value : α) (entries : Dictionary α) : Dictionary α :=
  if contains key entries then entries else insert key value entries

/-- The dictionary of a list of entries, where a later entry replaces an earlier one. -/
def ofList (entries : List (String × α)) : Dictionary α :=
  entries.foldl (fun dictionary entry => insert entry.1 entry.2 dictionary) []

/-- The keys, in ascending order. -/
def keys (entries : Dictionary α) : List String :=
  entries.map (·.1)

/-- The values, in the order of their keys. -/
def values (entries : Dictionary α) : List α :=
  entries.map (·.2)

/-- Every entry with its value replaced by a function of its key and value. -/
def mapValues (f : String → α → β) (entries : Dictionary α) : Dictionary β :=
  entries.map fun entry => (entry.1, f entry.1 entry.2)

/-- The keys ascend strictly, which is the normal form of a dictionary. -/
def Ascending (entries : Dictionary α) : Prop :=
  entries.Pairwise fun a b => a.1 < b.1

@[simp] theorem lookup_nil (key : String) : lookup key ([] : Dictionary α) = none := rfl

theorem lookup_cons (key k : String) (v : α) (rest : Dictionary α) :
    lookup key ((k, v) :: rest) = if key = k then some v else lookup key rest := rfl

@[simp] theorem lookup_insert_self (key : String) (value : α) (entries : Dictionary α) :
    lookup key (insert key value entries) = some value := by
  induction entries with
  | nil => simp [insert, lookup]
  | cons entry rest ih =>
      obtain ⟨k, v⟩ := entry
      by_cases h : key = k
      · simp [insert, lookup, h]
      · by_cases hlt : key < k <;> simp [insert, lookup, h, hlt, ih]

theorem lookup_insert_of_ne {key other : String} (value : α) (entries : Dictionary α)
    (hne : other ≠ key) :
    lookup other (insert key value entries) = lookup other entries := by
  induction entries with
  | nil => simp [insert, lookup, hne]
  | cons entry rest ih =>
      obtain ⟨k, v⟩ := entry
      by_cases h : key = k
      · subst h
        simp [insert, lookup, hne]
      · by_cases hlt : key < k <;> simp [insert, lookup, h, hlt, ih, hne]

/-- A second write under the same key replaces the first. -/
@[simp] theorem insert_insert_self (key : String) (first second : α) (entries : Dictionary α) :
    insert key second (insert key first entries) = insert key second entries := by
  induction entries with
  | nil => simp [insert]
  | cons entry rest ih =>
      obtain ⟨k, v⟩ := entry
      by_cases h : key = k
      · simp [insert, h]
      · by_cases hlt : key < k <;> simp [insert, h, hlt, ih]

/-- Of two different keys of which the first is not before the second, the second is before it. -/
theorem lt_of_not_lt_of_ne {a b : String} (hne : a ≠ b) (h : ¬ a < b) : b < a :=
  Std.lt_of_le_of_ne (String.not_lt.mp h) (Ne.symm hne)

/-- Insertion adds no key but the given one, and loses none. -/
theorem mem_keys_insert (key other : String) (value : α) (entries : Dictionary α) :
    other ∈ (insert key value entries).keys ↔ other = key ∨ other ∈ entries.keys := by
  induction entries with
  | nil => simp [insert, keys]
  | cons entry rest ih =>
      obtain ⟨k, v⟩ := entry
      simp only [keys] at ih
      by_cases h : key = k
      · subst h
        simp [insert, keys]
      · by_cases hlt : key < k
        · simp [insert, keys, h, hlt]
        · simp only [insert, h, hlt, if_false, keys, List.map_cons, List.mem_cons, ih]
          exact or_left_comm

theorem ascending_nil : Ascending ([] : Dictionary α) := List.Pairwise.nil

theorem ascending_cons {entry : String × α} {rest : Dictionary α} :
    Ascending (entry :: rest) ↔ (∀ key ∈ rest.keys, entry.1 < key) ∧ Ascending rest := by
  simp only [Ascending, List.pairwise_cons, keys, List.forall_mem_map]

/-- Insertion keeps the normal form. -/
theorem Ascending.insert {entries : Dictionary α} (h : Ascending entries) (key : String)
    (value : α) : Ascending (insert key value entries) := by
  induction entries with
  | nil => exact ascending_cons.mpr ⟨by simp [keys], ascending_nil⟩
  | cons entry rest ih =>
      obtain ⟨k, v⟩ := entry
      obtain ⟨hk, hrest⟩ := ascending_cons.mp h
      by_cases heq : key = k
      · subst heq
        rw [Dictionary.insert, if_pos rfl]
        exact ascending_cons.mpr ⟨hk, hrest⟩
      · by_cases hlt : key < k
        · rw [Dictionary.insert, if_neg heq, if_pos hlt]
          refine ascending_cons.mpr ⟨?_, h⟩
          intro other hother
          rcases List.mem_cons.mp hother with rfl | hmem
          · exact hlt
          · exact String.lt_trans hlt (hk other hmem)
        · rw [Dictionary.insert, if_neg heq, if_neg hlt]
          refine ascending_cons.mpr ⟨?_, ih hrest⟩
          intro other hother
          rcases (mem_keys_insert key other value rest).mp hother with rfl | hmem
          · exact lt_of_not_lt_of_ne heq hlt
          · exact hk other hmem

/-- Insertion of entries one after the other keeps the normal form. -/
theorem ascending_foldl_insert (entries : List (String × α)) (d : Dictionary α)
    (h : Ascending d) :
    Ascending
      (entries.foldl (fun dictionary entry => Dictionary.insert entry.1 entry.2 dictionary) d) := by
  induction entries generalizing d with
  | nil => exact h
  | cons entry rest ih => exact ih _ (h.insert entry.1 entry.2)

/-- A dictionary made of any list of entries is in normal form. -/
theorem ascending_ofList (entries : List (String × α)) : Ascending (ofList entries) :=
  ascending_foldl_insert entries [] ascending_nil

end Dictionary

end FormLogic
