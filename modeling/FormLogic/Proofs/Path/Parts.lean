import FormLogic.Path
import Mathlib.Data.List.Basic
import Mathlib.Tactic.Tauto

/-!
# Parts and segments of paths

A path is determined by the texts between its dots, and a path lies below another one exactly if
its parts extend the parts of the other.  Paths without an empty part are determined by their
segments alone; the paths that are built by joining keys one after the other are of this kind.
-/

namespace FormLogic.Path

/-! ### Splitting at dots -/

/-- Parts with dots put between them. -/
def joinDots : List (List Char) → List Char
  | [] => []
  | [part] => part
  | part :: next :: parts => part ++ '.' :: joinDots (next :: parts)

theorem splitDots_ne_nil (cs : List Char) : splitDots cs ≠ [] := by
  cases cs with
  | nil => simp [splitDots]
  | cons c cs =>
      by_cases h : c = '.'
      · simp [splitDots, h]
      · cases hcs : splitDots cs <;> simp [splitDots, h, hcs]

theorem splitDots_dot (cs : List Char) : splitDots ('.' :: cs) = [] :: splitDots cs := by
  simp [splitDots]

theorem splitDots_cons {c : Char} {cs part : List Char} {parts : List (List Char)} (hc : c ≠ '.')
    (hcs : splitDots cs = part :: parts) : splitDots (c :: cs) = (c :: part) :: parts := by
  simp [splitDots, hc, hcs]

/-- The parts on either side of a dot are the parts of the two sides. -/
theorem splitDots_append_dot (front back : List Char) :
    splitDots (front ++ '.' :: back) = splitDots front ++ splitDots back := by
  induction front with
  | nil => simp [splitDots]
  | cons c cs ih =>
      by_cases h : c = '.'
      · subst h
        rw [List.cons_append, splitDots_dot, splitDots_dot, ih, List.cons_append]
      · -- The character joins the first part, with or without what comes after the front.
        obtain ⟨part, parts, hcs⟩ := List.exists_cons_of_ne_nil (splitDots_ne_nil cs)
        rw [splitDots_cons h hcs]
        rw [hcs, List.cons_append] at ih
        rw [List.cons_append, splitDots_cons h ih, List.cons_append]

theorem joinDots_splitDots (cs : List Char) : joinDots (splitDots cs) = cs := by
  induction cs with
  | nil => rfl
  | cons c cs ih =>
      obtain ⟨part, parts, hcs⟩ := List.exists_cons_of_ne_nil (splitDots_ne_nil cs)
      rw [hcs] at ih
      by_cases h : c = '.'
      · subst h
        rw [splitDots_dot, hcs, joinDots, ih, List.nil_append]
      · rw [splitDots_cons h hcs]
        cases parts with
        | nil => rw [← ih]; rfl
        | cons next parts => rw [← ih]; rfl

theorem splitDots_of_dot_not_mem {cs : List Char} (h : '.' ∉ cs) : splitDots cs = [cs] := by
  induction cs with
  | nil => rfl
  | cons c cs ih =>
      rw [List.mem_cons, not_or] at h
      exact splitDots_cons (Ne.symm h.1) (ih h.2)

theorem dot_not_mem_of_mem_splitDots {part cs : List Char} (h : part ∈ splitDots cs) :
    '.' ∉ part := by
  induction cs generalizing part with
  | nil => simp_all [splitDots]
  | cons c cs ih =>
      obtain ⟨first, parts, hcs⟩ := List.exists_cons_of_ne_nil (splitDots_ne_nil cs)
      by_cases hc : c = '.'
      · subst hc
        rw [splitDots_dot, List.mem_cons] at h
        rcases h with rfl | h
        · simp
        · exact ih h
      · rw [splitDots_cons hc hcs, List.mem_cons] at h
        rw [hcs] at ih
        rcases h with rfl | h
        · rw [List.mem_cons, not_or]
          exact ⟨Ne.symm hc, ih (List.mem_cons_self ..)⟩
        · exact ih (List.mem_cons_of_mem _ h)

/-- Where the parts fall into two groups, there is a dot between the groups. -/
theorem exists_of_splitDots_eq_append {cs : List Char} {front back : List (List Char)}
    (h : splitDots cs = front ++ back) (hfront : front ≠ []) (hback : back ≠ []) :
    ∃ a b, cs = a ++ '.' :: b ∧ splitDots a = front ∧ splitDots b = back := by
  induction cs generalizing front with
  | nil =>
      obtain ⟨first, rest, rfl⟩ := List.exists_cons_of_ne_nil hfront
      simp only [splitDots, List.cons_append, List.cons.injEq] at h
      exact absurd (List.append_eq_nil_iff.mp h.2.symm).2 hback
  | cons c cs ih =>
      obtain ⟨first, rest, rfl⟩ := List.exists_cons_of_ne_nil hfront
      by_cases hc : c = '.'
      · subst hc
        rw [splitDots_dot, List.cons_append] at h
        obtain ⟨rfl, hrest⟩ := List.cons.inj h
        cases rest with
        | nil =>
            -- This is the dot between the groups.
            exact ⟨[], cs, rfl, rfl, by simpa using hrest⟩
        | cons second rest =>
            obtain ⟨a, b, rfl, ha, hb⟩ := ih hrest (by simp)
            exact ⟨'.' :: a, b, rfl, by rw [splitDots_dot, ha], hb⟩
      · obtain ⟨part, parts, hcs⟩ := List.exists_cons_of_ne_nil (splitDots_ne_nil cs)
        rw [splitDots_cons hc hcs, List.cons_append] at h
        obtain ⟨rfl, rfl⟩ := List.cons.inj h
        have hfront : splitDots cs = (part :: rest) ++ back := hcs
        obtain ⟨a, b, rfl, ha, hb⟩ := ih hfront (by simp)
        exact ⟨c :: a, b, rfl, splitDots_cons hc ha, hb⟩

/-! ### Parts -/

@[simp] theorem toList_dot : ".".toList = ['.'] := rfl

theorem parts_ne_nil (path : String) : parts path ≠ [] := by
  simp [parts, splitDots_ne_nil]

@[simp] theorem parts_empty : parts "" = [""] := rfl

theorem parts_append_dot (front back : String) :
    parts (front ++ "." ++ back) = parts front ++ parts back := by
  simp only [parts, String.toList_append, toList_dot, List.append_assoc, List.singleton_append,
    splitDots_append_dot, List.map_append]

theorem parts_injective {p q : String} (h : parts p = parts q) : p = q := by
  have hlists : splitDots p.toList = splitDots q.toList :=
    List.map_injective_iff.mpr (fun _ _ => String.ofList_injective) h
  apply String.toList_injective
  rw [← joinDots_splitDots p.toList, hlists, joinDots_splitDots]

theorem parts_of_dot_not_mem {key : String} (h : '.' ∉ key.toList) : parts key = [key] := by
  simp [parts, splitDots_of_dot_not_mem h]

theorem dot_not_mem_of_mem_parts {part path : String} (h : part ∈ parts path) :
    '.' ∉ part.toList := by
  simp only [parts, List.mem_map] at h
  obtain ⟨cs, hcs, rfl⟩ := h
  simpa using dot_not_mem_of_mem_splitDots hcs

/-- The path is the other one followed by a dot and anything, possibly nothing. -/
def Below (path parent : String) : Prop := ∃ rest, path = parent ++ "." ++ rest

theorem below_iff_parts {path parent : String} :
    Below path parent ↔ ∃ rest, rest ≠ [] ∧ parts path = parts parent ++ rest := by
  constructor
  · rintro ⟨rest, rfl⟩
    exact ⟨parts rest, parts_ne_nil rest, parts_append_dot parent rest⟩
  · rintro ⟨rest, hne, h⟩
    -- The groups of parts are read back as groups of lists of characters.
    have hsplit : (splitDots path.toList).map String.ofList = parts parent ++ rest := h
    obtain ⟨front, back, hcs, hfront, hback⟩ := List.map_eq_append_iff.mp hsplit
    have hfront_ne : front ≠ [] := by
      rintro rfl
      exact parts_ne_nil parent hfront.symm
    have hback_ne : back ≠ [] := by
      rintro rfl
      exact hne hback.symm
    obtain ⟨a, b, hpath, ha, -⟩ := exists_of_splitDots_eq_append hcs hfront_ne hback_ne
    have hparent : String.ofList a = parent := by
      apply parts_injective
      rw [← hfront, ← ha]
      simp [parts]
    refine ⟨String.ofList b, ?_⟩
    apply String.toList_injective
    simp [← hparent, hpath, List.append_assoc]

/-- A path lies below another one if its parts extend those of the other by at least one. -/
theorem below_iff_prefix_ne {path parent : String} :
    Below path parent ↔ parts parent <+: parts path ∧ parts parent ≠ parts path := by
  rw [below_iff_parts]
  constructor
  · rintro ⟨rest, hne, h⟩
    refine ⟨⟨rest, h.symm⟩, ?_⟩
    rw [h]
    simpa using hne
  · rintro ⟨⟨rest, h⟩, hne⟩
    refine ⟨rest, ?_, h.symm⟩
    rintro rfl
    exact hne (by simpa using h)

theorem not_below_self (path : String) : ¬ Below path path := by
  rw [below_iff_prefix_ne]
  rintro ⟨-, hne⟩
  exact hne rfl

theorem below_of_prefix_parts {path parent key : String}
    (h : parts parent ++ [key] <+: parts path) : Below path parent := by
  obtain ⟨rest, hrest⟩ := h
  exact below_iff_parts.mpr ⟨key :: rest, by simp, by rw [← hrest, List.append_assoc]; rfl⟩

theorem Below.of_prefix_parts {path middle parent : String} (h : Below path middle)
    (hpre : parts parent <+: parts middle) : Below path parent := by
  obtain ⟨back, hback, hparts⟩ := below_iff_parts.mp h
  obtain ⟨rest, hrest⟩ := hpre
  refine below_iff_parts.mpr ⟨rest ++ back, by simp [hback], ?_⟩
  rw [hparts, ← hrest, List.append_assoc]

/-- A path at or below another one has parts that extend those of the other. -/
theorem parts_prefix_iff {path parent : String} :
    parts parent <+: parts path ↔ path = parent ∨ Below path parent := by
  rw [below_iff_parts]
  constructor
  · rintro ⟨rest, h⟩
    by_cases hne : rest = []
    · subst hne
      exact Or.inl (parts_injective (by simpa using h.symm))
    · exact Or.inr ⟨rest, hne, h.symm⟩
  · rintro (rfl | ⟨rest, -, h⟩)
    · exact List.prefix_rfl
    · exact ⟨rest, h.symm⟩

theorem length_lt_of_below {path parent : String} (h : Below path parent) :
    parent.length < path.length := by
  obtain ⟨rest, rfl⟩ := h
  have hdot : ".".length = 1 := rfl
  simp only [String.length_append, hdot]
  omega

/-- Neither path lies at or below the other. -/
def Apart (p q : String) : Prop := p ≠ q ∧ ¬ Below p q ∧ ¬ Below q p

theorem apart_iff_parts {p q : String} :
    Apart p q ↔ ¬ parts p <+: parts q ∧ ¬ parts q <+: parts p := by
  rw [Apart, parts_prefix_iff, parts_prefix_iff, eq_comm (a := q)]
  tauto

theorem Apart.symm {p q : String} (h : Apart p q) : Apart q p :=
  ⟨h.1.symm, h.2.2, h.2.1⟩

/-! ### The last dot -/

/-- A path has no dot, or it has a last one. -/
theorem eq_append_last_dot {path : String} (h : '.' ∈ path.toList) :
    ∃ parent last, '.' ∉ last.toList ∧ path = parent ++ "." ++ last := by
  -- The last dot is the first one from the end.
  obtain ⟨after, before, hsplit, hafter⟩ :=
    List.eq_append_cons_of_mem (List.mem_reverse.mpr h)
  refine ⟨String.ofList before.reverse, String.ofList after.reverse, by simpa using hafter, ?_⟩
  apply String.toList_injective
  rw [← List.reverse_reverse path.toList, hsplit]
  simp

/-- A statement on paths holds once it holds of paths without a dot and passes from what stands
before the last dot of a path to the path. -/
theorem induction_last_dot {motive : String → Prop}
    (dotless : ∀ path, '.' ∉ path.toList → motive path)
    (below : ∀ parent last, '.' ∉ last.toList → motive parent →
      motive (parent ++ "." ++ last)) (path : String) : motive path := by
  by_cases h : '.' ∈ path.toList
  · obtain ⟨parent, last, hlast, hpath⟩ := eq_append_last_dot h
    have hshorter : parent.length < path.length := length_lt_of_below ⟨last, hpath⟩
    rw [hpath]
    exact below parent last hlast (induction_last_dot dotless below parent)
  · exact dotless path h
termination_by path.length

end FormLogic.Path
