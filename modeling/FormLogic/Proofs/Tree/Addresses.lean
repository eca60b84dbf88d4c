import FormLogic.Proofs.Path.Segments
import FormLogic.Tree.Build
import Mathlib.Data.List.Pairwise

/-!
# Addresses of declarations

An address leads from the root of a configuration to one of its declarations, and its wording tells
it from all other addresses.  Addresses are ordered as declarations are written down: what is nested
in a declaration comes after it, and before what comes after it in its list.
-/

namespace FormLogic

/-- The first step leads to a declaration that comes earlier in the same list. -/
inductive Step.Precedes : Step → Step → Prop
  | child {i j : Nat} (h : i < j) : Precedes (.child i) (.child j)
  | item {i j : Nat} (h : i < j) : Precedes (.item i) (.item j)

theorem Step.Precedes.ne {step next : Step} (h : step.Precedes next) : step ≠ next := by
  cases h with
  | child h => simpa using Nat.ne_of_lt h
  | item h => simpa using Nat.ne_of_lt h

theorem Step.Precedes.asymm {step next : Step} (h : step.Precedes next) :
    ¬ next.Precedes step := by
  cases h with
  | child h =>
      rintro (hback | -)
      exact Nat.lt_asymm h hback
  | item h =>
      rintro (- | hback)
      exact Nat.lt_asymm h hback

namespace Address

/-! ### Order -/

/-- What is at the second address is at the first one, or nested in what is there. -/
def Encloses (a b : Address) : Prop := a.root = b.root ∧ a.steps <+: b.steps

/-- What is at the second address is nested in what is at the first one. -/
def Above (a b : Address) : Prop := a.Encloses b ∧ a ≠ b

/-- Both addresses lead into one list, and the first of them to or into an earlier declaration. -/
def PartsBefore (a b : Address) : Prop :=
  a.root < b.root ∨
    a.root = b.root ∧ ∃ front step next, Step.Precedes step next ∧
      front ++ [step] <+: a.steps ∧ front ++ [next] <+: b.steps

/-- The order in which declarations are written down: each of them comes before those that are
nested in it, and these come before the ones after it in its list. -/
def Precedes (a b : Address) : Prop := a.Above b ∨ a.PartsBefore b

variable {a b p q : Address}

theorem encloses_refl (a : Address) : a.Encloses a := ⟨rfl, List.prefix_rfl⟩

theorem Encloses.trans (h : p.Encloses q) (hq : q.Encloses a) : p.Encloses a :=
  ⟨h.1.trans hq.1, h.2.trans hq.2⟩

theorem encloses_child (a : Address) (index : Nat) : a.Encloses (a.child index) :=
  ⟨rfl, List.prefix_append ..⟩

theorem encloses_item (a : Address) (index : Nat) : a.Encloses (a.item index) :=
  ⟨rfl, List.prefix_append ..⟩

/-- What is nested in one of two declarations parts from what is nested in the other as they do. -/
theorem PartsBefore.mono (h : p.PartsBefore q) (ha : p.Encloses a) (hb : q.Encloses b) :
    a.PartsBefore b := by
  rcases h with hlt | ⟨heq, front, step, next, hstep, hp, hq⟩
  · exact Or.inl (by rwa [← ha.1, ← hb.1])
  · exact Or.inr ⟨by rw [← ha.1, ← hb.1, heq], front, step, next, hstep, hp.trans ha.2,
      hq.trans hb.2⟩

theorem partsBefore_child (a : Address) {i j : Nat} (h : i < j) :
    (a.child i).PartsBefore (a.child j) :=
  Or.inr ⟨rfl, a.steps, .child i, .child j, .child h, List.prefix_rfl, List.prefix_rfl⟩

theorem partsBefore_item (a : Address) {i j : Nat} (h : i < j) :
    (a.item i).PartsBefore (a.item j) :=
  Or.inr ⟨rfl, a.steps, .item i, .item j, .item h, List.prefix_rfl, List.prefix_rfl⟩

/-- Of two addresses that part, neither leads into what is at the other. -/
theorem PartsBefore.not_encloses (h : a.PartsBefore b) : ¬ a.Encloses b ∧ ¬ b.Encloses a := by
  rcases h with hlt | ⟨-, front, step, next, hstep, ha, hb⟩
  · exact ⟨fun hab => (Nat.ne_of_lt hlt) hab.1, fun hba => (Nat.ne_of_lt hlt) hba.1.symm⟩
  · exact ⟨fun hab => hstep.ne (Path.eq_of_prefix_keys (ha.trans hab.2) hb),
      fun hba => hstep.ne (Path.eq_of_prefix_keys ha (hb.trans hba.2))⟩

theorem PartsBefore.ne (h : a.PartsBefore b) : a ≠ b := by
  rintro rfl
  exact h.not_encloses.1 (encloses_refl a)

/-- Two lists of steps part in one place only. -/
theorem parting_unique {front other steps others : List Step} {step next step' next' : Step}
    (hne : step ≠ next) (hne' : step' ≠ next')
    (hsteps : front ++ [step] <+: steps) (hothers : front ++ [next] <+: others)
    (hsteps' : other ++ [step'] <+: steps) (hothers' : other ++ [next'] <+: others) :
    step = step' ∧ next = next' := by
  obtain rfl : front = other := by
    rcases List.prefix_or_prefix_of_prefix hsteps hsteps' with h | h
    · rcases List.prefix_concat_iff.mp h with heq | hlonger
      · exact (List.append_inj' heq rfl).1
      · have hparted := hlonger.trans ((List.prefix_append ..).trans hothers')
        exact absurd (Path.eq_of_prefix_keys hparted hothers) hne
    · rcases List.prefix_concat_iff.mp h with heq | hlonger
      · exact (List.append_inj' heq rfl).1.symm
      · have hparted := hlonger.trans ((List.prefix_append ..).trans hothers)
        exact absurd (Path.eq_of_prefix_keys hparted hothers') hne'
  exact ⟨Path.eq_of_prefix_keys hsteps hsteps', Path.eq_of_prefix_keys hothers hothers'⟩

theorem PartsBefore.asymm (h : a.PartsBefore b) : ¬ b.PartsBefore a := by
  rcases h with hlt | ⟨heq, front, step, next, hstep, ha, hb⟩
  · rintro (hgt | ⟨heq, -⟩)
    · exact Nat.lt_asymm hlt hgt
    · exact Nat.ne_of_lt hlt heq.symm
  · rintro (hgt | ⟨-, other, step', next', hstep', hb', ha'⟩)
    · exact Nat.ne_of_lt hgt heq.symm
    · obtain ⟨rfl, rfl⟩ := parting_unique hstep.ne hstep'.ne.symm ha hb ha' hb'
      exact hstep.asymm hstep'

theorem Encloses.antisymm (h : a.Encloses b) (hback : b.Encloses a) : a = b := by
  have hsteps : a.steps = b.steps := h.2.eq_of_length_le hback.2.length_le
  cases a
  cases b
  exact congrArg₂ Address.mk h.1 hsteps

theorem Precedes.ne (h : a.Precedes b) : a ≠ b := h.elim And.right PartsBefore.ne

theorem Precedes.asymm (h : a.Precedes b) : ¬ b.Precedes a := by
  rcases h with hab | hab
  · rintro (hba | hba)
    · exact hab.2 (hab.1.antisymm hba.1)
    · exact hba.not_encloses.2 hab.1
  · rintro (hba | hba)
    · exact hab.not_encloses.2 hba.1
    · exact hab.asymm hba

/-- Of addresses that part, none is nested in what is at another one. -/
theorem not_above_of_pairwise_partsBefore {addresses : List Address}
    (h : addresses.Pairwise PartsBefore) : ∀ a ∈ addresses, ∀ b ∈ addresses, ¬ a.Above b := by
  have hsymm : Std.Symm fun a b : Address => ¬ a.Above b ∧ ¬ b.Above a := ⟨fun _ _ h => h.symm⟩
  have hpairs : addresses.Pairwise fun a b => ¬ a.Above b ∧ ¬ b.Above a :=
    h.imp fun hab => ⟨mt And.left hab.not_encloses.1, mt And.left hab.not_encloses.2⟩
  have hself : ∀ a ∈ addresses, ¬ a.Above a ∧ ¬ a.Above a :=
    fun a _ => ⟨fun hne => hne.2 rfl, fun hne => hne.2 rfl⟩
  intro a ha b hb
  exact (hpairs.forall_of_forall hself ha hb).1

/-! ### Wording -/

/-- The digits of a number end at the bracket after them. -/
theorem digits_append_inj {m n : Nat} {rest back : List Char}
    (h : (Binary64.digitsText m).toList ++ ']' :: rest =
      (Binary64.digitsText n).toList ++ ']' :: back) : m = n ∧ rest = back := by
  have hdigits : ∀ (k : Nat) (cs : List Char),
      ((Binary64.digitsText k).toList ++ ']' :: cs).takeWhile Char.isDigit =
        (Binary64.digitsText k).toList := by
    intro k cs
    have hall : ∀ c ∈ (Binary64.digitsText k).toList, c.isDigit = true := by
      intro c hc
      rw [Binary64.digitsText, String.toList_ofList] at hc
      exact Nat.isDigit_of_mem_toDigits (by decide) (by decide) hc
    have hclose : (']' :: cs).takeWhile Char.isDigit = [] :=
      List.takeWhile_cons_of_neg (by decide)
    rw [List.takeWhile_append_of_pos hall, hclose, List.append_nil]
  have htaken := congrArg (List.takeWhile Char.isDigit) h
  rw [hdigits, hdigits] at htaken
  obtain rfl : m = n := Path.digitsText_injective (String.toList_injective htaken)
  exact ⟨rfl, (List.cons.inj (List.append_cancel_left h)).2⟩

theorem toList_text_child (index : Nat) :
    (Step.child index).text.toList =
      '.' :: 'c' :: "hildren[".toList ++ (Binary64.digitsText index).toList ++ [']'] := by
  simp [Step.text]

theorem toList_text_item (index : Nat) :
    (Step.item index).text.toList =
      '.' :: 'i' :: "temFields[".toList ++ (Binary64.digitsText index).toList ++ [']'] := by
  simp [Step.text]

/-- A step is read off the beginning of a text in one way. -/
theorem step_text_append_inj {step next : Step} {rest back : List Char}
    (h : step.text.toList ++ rest = next.text.toList ++ back) : step = next ∧ rest = back := by
  cases step with
  | child i =>
      cases next with
      | child j =>
          rw [toList_text_child, toList_text_child] at h
          simp only [List.append_assoc, List.cons_append, List.nil_append, List.cons.injEq,
            true_and, List.append_cancel_left_eq] at h
          obtain ⟨rfl, hrest⟩ := digits_append_inj h
          exact ⟨rfl, hrest⟩
      | item j =>
          rw [toList_text_child, toList_text_item] at h
          simp at h
  | item i =>
      cases next with
      | child j =>
          rw [toList_text_child, toList_text_item] at h
          simp at h
      | item j =>
          rw [toList_text_item, toList_text_item] at h
          simp only [List.append_assoc, List.cons_append, List.nil_append, List.cons.injEq,
            true_and, List.append_cancel_left_eq] at h
          obtain ⟨rfl, hrest⟩ := digits_append_inj h
          exact ⟨rfl, hrest⟩

theorem step_text_ne_nil (step : Step) : step.text.toList ≠ [] := by
  cases step with
  | child i => simp [toList_text_child]
  | item i => simp [toList_text_item]

theorem steps_text_inj {steps others : List Step}
    (h : steps.flatMap (fun step => step.text.toList) =
      others.flatMap fun step => step.text.toList) : steps = others := by
  induction steps generalizing others with
  | nil =>
      cases others with
      | nil => rfl
      | cons next others =>
          rw [List.flatMap_nil, List.flatMap_cons] at h
          exact absurd (List.append_eq_nil_iff.mp h.symm).1 (step_text_ne_nil next)
  | cons step steps ih =>
      cases others with
      | nil =>
          rw [List.flatMap_nil, List.flatMap_cons] at h
          exact absurd (List.append_eq_nil_iff.mp h).1 (step_text_ne_nil step)
      | cons next others =>
          obtain ⟨rfl, hrest⟩ := step_text_append_inj h
          rw [ih hrest]

theorem toList_text (a : Address) :
    a.text.toList =
      "elements[".toList ++ ((Binary64.digitsText a.root).toList ++
        ']' :: a.steps.flatMap fun step => step.text.toList) := by
  simp [text, rootText, String.toList_join, List.flatMap_map]

/-- The wording of an address leads back to it. -/
theorem text_injective : Function.Injective Address.text := by
  intro a b h
  have hchars := congrArg String.toList h
  rw [toList_text, toList_text, List.append_cancel_left_eq] at hchars
  obtain ⟨hroot, hsteps⟩ := digits_append_inj hchars
  obtain ⟨root, steps⟩ := a
  obtain ⟨root', steps'⟩ := b
  rw [Address.mk.injEq]
  exact ⟨hroot, steps_text_inj hsteps⟩

end Address

/-! ### Declarations at addresses -/

namespace Declaration

/-- The declaration to which a step leads. -/
def next? (d : Declaration) : Step → Option Declaration
  | .child index => (d.children.getD [])[index]?
  | .item index => (d.itemFields.getD [])[index]?

/-- The declaration to which steps lead. -/
def follow? : List Step → Declaration → Option Declaration
  | [], d => some d
  | step :: steps, d => (d.next? step).bind (follow? steps)

/-- The declaration at an address, if there is one. -/
def locate? (roots : List Declaration) (a : Address) : Option Declaration :=
  roots[a.root]?.bind (follow? a.steps)

theorem follow?_append (front back : List Step) (d : Declaration) :
    follow? (front ++ back) d = (follow? front d).bind (follow? back) := by
  induction front generalizing d with
  | nil => rfl
  | cons step front ih =>
      rw [List.cons_append, follow?, follow?, Option.bind_assoc]
      congr 1
      funext next
      exact ih next

/-- An address of one step more leads one step on. -/
theorem locate?_snoc {roots : List Declaration} {a : Address} {d : Declaration}
    (h : locate? roots a = some d) (step : Step) :
    locate? roots { a with steps := a.steps ++ [step] } = d.next? step := by
  obtain ⟨root, hroot, hfollow⟩ := Option.bind_eq_some_iff.mp h
  rw [locate?, hroot, Option.bind_some, follow?_append, hfollow, Option.bind_some, follow?]
  cases d.next? step <;> rfl

theorem locate?_root (roots : List Declaration) (index : Nat) :
    locate? roots ⟨index, []⟩ = roots[index]? := by
  rw [locate?]
  cases roots[index]? <;> rfl

end Declaration

end FormLogic
