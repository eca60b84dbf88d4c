import FormLogic.Dictionary
import Mathlib.Data.List.Nodup

/-!
# Look-up in dictionaries

In a dictionary in normal form an entry is found exactly if it is there.  In a dictionary made of
entries with different keys each of these entries is found, and no other.
-/

namespace FormLogic.Dictionary

variable {α β : Type}

@[simp] theorem keys_nil : keys ([] : Dictionary α) = [] := rfl

@[simp] theorem keys_cons (entry : String × α) (rest : Dictionary α) :
    keys (entry :: rest) = entry.1 :: keys rest := rfl

theorem mem_keys_iff {key : String} {d : Dictionary α} :
    key ∈ d.keys ↔ ∃ value, (key, value) ∈ d := by
  simp [keys]

theorem mem_of_lookup_eq_some {key : String} {value : α} {d : Dictionary α}
    (h : lookup key d = some value) : (key, value) ∈ d := by
  induction d with
  | nil => cases h
  | cons entry rest ih =>
      obtain ⟨k, v⟩ := entry
      rw [lookup_cons] at h
      by_cases hk : key = k
      · rw [if_pos hk, Option.some.injEq] at h
        subst hk h
        exact List.mem_cons_self ..
      · rw [if_neg hk] at h
        exact List.mem_cons_of_mem _ (ih h)

theorem lookup_eq_none_iff {key : String} {d : Dictionary α} :
    lookup key d = none ↔ key ∉ d.keys := by
  induction d with
  | nil => simp
  | cons entry rest ih =>
      obtain ⟨k, v⟩ := entry
      by_cases hk : key = k <;> simp [lookup_cons, hk, ih]

theorem exists_lookup_eq_some_iff {key : String} {d : Dictionary α} :
    (∃ value, lookup key d = some value) ↔ key ∈ d.keys := by
  rw [← Option.isSome_iff_exists, Option.isSome_iff_ne_none, ne_eq, lookup_eq_none_iff, not_not]

theorem Ascending.nodup_keys {d : Dictionary α} (h : Ascending d) : d.keys.Nodup := by
  rw [keys, List.nodup_iff_pairwise_ne, List.pairwise_map]
  exact List.Pairwise.imp (fun hlt => String.ne_of_lt hlt) h

theorem lookup_eq_some_iff {key : String} {value : α} {d : Dictionary α} (h : d.keys.Nodup) :
    lookup key d = some value ↔ (key, value) ∈ d := by
  refine ⟨mem_of_lookup_eq_some, ?_⟩
  induction d with
  | nil => simp
  | cons entry rest ih =>
      obtain ⟨k, v⟩ := entry
      rw [keys_cons, List.nodup_cons] at h
      intro hentry
      rw [lookup_cons]
      rcases List.mem_cons.mp hentry with heq | hmem
      · obtain ⟨rfl, rfl⟩ := Prod.mk.inj heq
        exact if_pos rfl
      · have hkey : key ∈ keys rest := mem_keys_iff.mpr ⟨value, hmem⟩
        have hne : key ≠ k := fun heq => h.1 (heq ▸ hkey)
        rw [if_neg hne]
        exact ih h.2 hmem

/-- Dictionaries in normal form are equal if the same is found in them under each key. -/
theorem Ascending.ext {d e : Dictionary α} (hd : Ascending d) (he : Ascending e)
    (hlookup : ∀ key, lookup key d = lookup key e) : d = e := by
  have hmem : ∀ entry, entry ∈ d ↔ entry ∈ e := by
    intro entry
    obtain ⟨key, value⟩ := entry
    rw [← lookup_eq_some_iff hd.nodup_keys, hlookup, lookup_eq_some_iff he.nodup_keys]
  have hperm : d.Perm e :=
    (List.perm_ext_iff_of_nodup (hd.nodup_keys.of_map _) (he.nodup_keys.of_map _)).mpr hmem
  refine hperm.eq_of_pairwise ?_ hd he
  intro a b _ _ hab hba
  exact absurd hba (Std.not_gt_of_lt hab)

/-! ### Insertion under different keys -/

theorem insert_cons_self (key : String) (value old : α) (rest : Dictionary α) :
    insert key value ((key, old) :: rest) = (key, value) :: rest := by
  rw [insert, if_pos rfl]

theorem insert_cons_of_lt {key k : String} (h : key < k) (value v : α) (rest : Dictionary α) :
    insert key value ((k, v) :: rest) = (key, value) :: (k, v) :: rest := by
  rw [insert, if_neg (String.ne_of_lt h), if_pos h]

theorem insert_cons_of_gt {key k : String} (h : k < key) (value v : α) (rest : Dictionary α) :
    insert key value ((k, v) :: rest) = (k, v) :: insert key value rest := by
  rw [insert, if_neg (String.ne_of_lt h).symm, if_neg (Std.not_gt_of_lt h)]

theorem insert_comm_of_lt {a b : String} (h : a < b) (x y : α) (d : Dictionary α) :
    insert a x (insert b y d) = insert b y (insert a x d) := by
  induction d with
  | nil => rw [insert, insert_cons_of_lt h, insert, insert_cons_of_gt h, insert]
  | cons entry rest ih =>
      obtain ⟨k, v⟩ := entry
      by_cases hak : a = k
      · subst hak
        rw [insert_cons_of_gt h, insert_cons_self, insert_cons_self, insert_cons_of_gt h]
      by_cases hlt : a < k
      · -- Wherever the second key goes, the first one goes to the front.
        rw [insert_cons_of_lt hlt, insert_cons_of_gt h]
        by_cases hbk : b = k
        · subst hbk
          rw [insert_cons_self, insert_cons_of_lt h]
        by_cases hb : b < k
        · rw [insert_cons_of_lt hb, insert_cons_of_lt h]
        · rw [insert_cons_of_gt (lt_of_not_lt_of_ne hbk hb), insert_cons_of_lt hlt]
      · have hka : k < a := lt_of_not_lt_of_ne hak hlt
        rw [insert_cons_of_gt (String.lt_trans hka h), insert_cons_of_gt hka,
          insert_cons_of_gt hka, insert_cons_of_gt (String.lt_trans hka h), ih]

/-- Insertions under different keys can change places. -/
theorem insert_comm {a b : String} (hne : a ≠ b) (x y : α) (d : Dictionary α) :
    insert a x (insert b y d) = insert b y (insert a x d) := by
  by_cases hlt : a < b
  · exact insert_comm_of_lt hlt x y d
  · exact (insert_comm_of_lt (lt_of_not_lt_of_ne hne hlt) y x d).symm

/-! ### Dictionaries made of entries -/

theorem mem_keys_foldl_insert {key : String} (entries : List (String × α)) (d : Dictionary α) :
    key ∈ (entries.foldl (fun d entry => insert entry.1 entry.2 d) d).keys ↔
      key ∈ entries.map (·.1) ∨ key ∈ d.keys := by
  induction entries generalizing d with
  | nil => simp
  | cons entry entries ih =>
      rw [List.foldl_cons, ih, mem_keys_insert, List.map_cons, List.mem_cons]
      exact or_left_comm.trans or_assoc.symm

/-- The keys of a dictionary made of entries are those of the entries. -/
theorem mem_keys_ofList {key : String} {entries : List (String × α)} :
    key ∈ (ofList entries).keys ↔ key ∈ entries.map (·.1) := by
  rw [ofList, mem_keys_foldl_insert]
  simp

theorem lookup_foldl_insert_eq_some_iff {key : String} {value : α} {entries : List (String × α)}
    (hnodup : (entries.map (·.1)).Nodup) (d : Dictionary α) :
    lookup key (entries.foldl (fun d entry => insert entry.1 entry.2 d) d) = some value ↔
      (key, value) ∈ entries ∨ key ∉ entries.map (·.1) ∧ lookup key d = some value := by
  induction entries generalizing d with
  | nil => simp
  | cons entry entries ih =>
      obtain ⟨k, v⟩ := entry
      rw [List.map_cons, List.nodup_cons] at hnodup
      rw [List.foldl_cons, ih hnodup.2]
      by_cases hk : key = k
      · subst hk
        -- The key does not occur again, so that the value written first is not overwritten.
        have hnone : (key, value) ∉ entries := by
          intro hmem
          exact hnodup.1 (List.mem_map.mpr ⟨(key, value), hmem, rfl⟩)
        simp [hnone, hnodup.1, eq_comm]
      · simp [lookup_insert_of_ne _ _ hk, hk]

/-- In a dictionary made of entries with different keys exactly these entries are found. -/
theorem lookup_ofList_eq_some_iff {key : String} {value : α} {entries : List (String × α)}
    (hnodup : (entries.map (·.1)).Nodup) :
    lookup key (ofList entries) = some value ↔ (key, value) ∈ entries := by
  rw [ofList, lookup_foldl_insert_eq_some_iff hnodup]
  simp

theorem lookup_foldl_insert (key : String) (entries : List (String × α)) (d : Dictionary α) :
    lookup key (entries.foldl (fun d entry => insert entry.1 entry.2 d) d) =
      ((entries.filter fun entry => entry.1 == key).map (·.2)).getLast?.or (lookup key d) := by
  induction entries generalizing d with
  | nil => rfl
  | cons entry entries ih =>
      obtain ⟨k, v⟩ := entry
      rw [List.foldl_cons, ih]
      by_cases hk : k = key
      · subst hk
        rw [lookup_insert_self, List.filter_cons_of_pos (by simp), List.map_cons,
          List.getLast?_cons]
        cases ((entries.filter fun entry => entry.1 == k).map (·.2)).getLast? <;> rfl
      · rw [lookup_insert_of_ne _ _ (Ne.symm hk), List.filter_cons_of_neg (by simpa using hk)]

/-- In a dictionary made of entries the last one under a key is found. -/
theorem lookup_ofList (key : String) (entries : List (String × α)) :
    lookup key (ofList entries) =
      ((entries.filter fun entry => entry.1 == key).map (·.2)).getLast? := by
  rw [ofList, lookup_foldl_insert, lookup_nil, Option.or_none]

/-- The entries of a dictionary made of entries are among these. -/
theorem mem_of_mem_ofList {entry : String × α} {entries : List (String × α)}
    (h : entry ∈ ofList entries) : entry ∈ entries := by
  obtain ⟨key, value⟩ := entry
  rw [← lookup_eq_some_iff (ascending_ofList entries).nodup_keys, lookup_ofList] at h
  obtain ⟨⟨k, v⟩, hmem, rfl⟩ := List.mem_map.mp (List.mem_of_getLast? h)
  rw [List.mem_filter, beq_iff_eq] at hmem
  obtain ⟨hmem, rfl⟩ := hmem
  exact hmem

theorem insert_of_forall_lt {key : String} {d : Dictionary α} (h : ∀ k ∈ d.keys, k < key)
    (value : α) : insert key value d = d ++ [(key, value)] := by
  induction d with
  | nil => rfl
  | cons entry rest ih =>
      obtain ⟨k, v⟩ := entry
      rw [keys_cons, List.forall_mem_cons] at h
      rw [insert_cons_of_gt h.1, ih h.2, List.cons_append]

theorem foldl_insert_eq_append (entries : List (String × α)) {d : Dictionary α}
    (h : Ascending (d ++ entries)) :
    entries.foldl (fun d entry => insert entry.1 entry.2 d) d = d ++ entries := by
  induction entries generalizing d with
  | nil => rw [List.foldl_nil, List.append_nil]
  | cons entry entries ih =>
      have hlt : ∀ k ∈ d.keys, k < entry.1 := by
        intro k hk
        obtain ⟨value, hvalue⟩ := mem_keys_iff.mp hk
        exact (List.pairwise_append.mp h).2.2 _ hvalue entry (List.mem_cons_self ..)
      rw [List.append_cons] at h
      rw [List.foldl_cons, insert_of_forall_lt hlt, ih h, ← List.append_cons]

/-- Entries in normal form make themselves. -/
theorem Ascending.ofList_eq {d : Dictionary α} (h : Ascending d) : ofList d = d :=
  foldl_insert_eq_append d h

/-! ### First values -/

/-- A key keeps the first value that is written under it as a new one. -/
theorem lookup_insertNew (key other : String) (value : α) (d : Dictionary α) :
    lookup other (insertNew key value d) =
      (lookup other d).or (if key = other then some value else none) := by
  rw [insertNew, contains]
  cases hkey : lookup key d with
  | some old =>
      rw [Option.isSome_some, if_pos rfl]
      by_cases hother : key = other
      · subst hother
        simp [hkey]
      · simp [hother]
  | none =>
      rw [Option.isSome_none, if_neg Bool.false_ne_true]
      by_cases hother : key = other
      · subst hother
        simp [hkey]
      · simp [lookup_insert_of_ne _ _ (Ne.symm hother), hother]

theorem Ascending.insertNew {d : Dictionary α} (h : Ascending d) (key : String) (value : α) :
    Ascending (insertNew key value d) := by
  rw [Dictionary.insertNew]
  split
  · exact h
  · exact h.insert key value

/-! ### Values replaced -/

theorem lookup_mapValues (f : String → α → β) (key : String) (d : Dictionary α) :
    lookup key (mapValues f d) = (lookup key d).map (f key) := by
  induction d with
  | nil => rfl
  | cons entry rest ih =>
      obtain ⟨k, v⟩ := entry
      by_cases hk : key = k
      · subst hk
        simp [mapValues, lookup_cons]
      · have hrest : mapValues f ((k, v) :: rest) = (k, f k v) :: mapValues f rest := rfl
        rw [hrest, lookup_cons, lookup_cons, if_neg hk, if_neg hk, ih]

theorem Ascending.mapValues {d : Dictionary α} (h : Ascending d) (f : String → α → β) :
    Ascending (mapValues f d) := by
  rw [Dictionary.mapValues, Ascending, List.pairwise_map]
  exact h

theorem mapValues_insert (f : α → β) (key : String) (value : α) (d : Dictionary α) :
    mapValues (fun _ => f) (insert key value d) =
      insert key (f value) (mapValues (fun _ => f) d) := by
  induction d with
  | nil => rfl
  | cons entry rest ih =>
      obtain ⟨k, v⟩ := entry
      have hrest : mapValues (fun _ => f) ((k, v) :: rest) =
          (k, f v) :: mapValues (fun _ => f) rest := rfl
      rw [hrest, insert, insert]
      by_cases hk : key = k
      · rw [if_pos hk, if_pos hk]
        rfl
      · by_cases hlt : key < k
        · rw [if_neg hk, if_neg hk, if_pos hlt, if_pos hlt]
          rfl
        · rw [if_neg hk, if_neg hk, if_neg hlt, if_neg hlt, ← ih]
          rfl

theorem mapValues_insertNew (f : α → β) (key : String) (value : α) (d : Dictionary α) :
    mapValues (fun _ => f) (insertNew key value d) =
      insertNew key (f value) (mapValues (fun _ => f) d) := by
  have hcontains : contains key (mapValues (fun _ => f) d) = contains key d := by
    rw [contains, contains, lookup_mapValues, Option.isSome_map]
  rw [insertNew, insertNew, hcontains]
  split
  · rfl
  · exact mapValues_insert f key value d

@[simp] theorem keys_mapValues (f : String → α → β) (d : Dictionary α) :
    (mapValues f d).keys = d.keys := by
  simp [mapValues, keys]

theorem lookup_filter (p : String → Bool) (key : String) (d : Dictionary α) :
    lookup key (List.filter (fun entry => p entry.1) d) = if p key then lookup key d else none := by
  induction d with
  | nil => simp
  | cons entry rest ih =>
      obtain ⟨k, v⟩ := entry
      by_cases hk : key = k
      · subst hk
        cases hp : p key <;> simp_all [lookup_cons]
      · cases hp : p k <;> simp_all [lookup_cons]

/-- An insertion changes nothing among the keys of another kind. -/
theorem filter_insert_of_not {p : String → Bool} {key : String} (h : p key = false) (value : α)
    (d : Dictionary α) :
    List.filter (fun entry => p entry.1) (insert key value d) =
      List.filter (fun entry => p entry.1) d := by
  induction d with
  | nil => simp [insert, h]
  | cons entry rest ih =>
      obtain ⟨k, v⟩ := entry
      rw [insert]
      by_cases hk : key = k
      · subst hk
        simp [h]
      · by_cases hlt : key < k
        · simp [hk, hlt, h]
        · rw [if_neg hk, if_neg hlt, List.filter_cons, List.filter_cons, ih]

end FormLogic.Dictionary
