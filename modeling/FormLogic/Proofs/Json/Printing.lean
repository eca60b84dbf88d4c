import FormLogic.Json.Parser
import FormLogic.Json.Printer
import Mathlib.Data.List.Forall2
import Mathlib.Tactic.SplitIfs

/-!
# Printed values are read in one way

Two values that are printed the same are alike: they are of the same shape, with the same keys,
texts and truth values, and with numbers that are printed the same.  The proof reads two printed
values from their first characters on, together with whatever follows them.
-/

namespace FormLogic.Json

/-- A value proves by induction what holds of it once it holds of all that is in it. -/
theorem induction {motive : Json → Prop} (null : motive .null) (bool : ∀ b, motive (.bool b))
    (number : ∀ n, motive (.number n)) (text : ∀ s, motive (.text s))
    (array : ∀ items, (∀ v ∈ items, motive v) → motive (.array items))
    (object : ∀ entries : List (String × Json),
      (∀ entry ∈ entries, motive entry.2) → motive (.object entries)) (v : Json) : motive v := by
  refine @Json.rec motive (fun items => ∀ v ∈ items, motive v)
    (fun entries => ∀ entry ∈ entries, motive entry.2) (fun entry => motive entry.2)
    null bool number text array object ?_ ?_ ?_ ?_ ?_ v
  · simp
  · intro item items hitem hitems
    exact List.forall_mem_cons.mpr ⟨hitem, hitems⟩
  · simp
  · intro entry entries hentry hentries
    exact List.forall_mem_cons.mpr ⟨hentry, hentries⟩
  · intro _ _ hvalue
    exact hvalue

/-! ### Texts in quotes -/

/-- The ways in which a character is written between quotes: as itself, by a letter, or by its
number. -/
inductive Escape (c : Char) : List Char → Prop where
  | plain (hquote : c ≠ '"') (hbackslash : c ≠ '\\') (hcontrol : ¬ c.toNat < 0x20) : Escape c [c]
  | letter {letter : Char} (h : simpleEscape letter = some c) : Escape c ['\\', letter]
  | numbered (h : c.toNat < 0x20) :
      Escape c ['\\', 'u', '0', '0', Nat.digitChar (c.toNat / 16), Nat.digitChar (c.toNat % 16)]

theorem escape_escapeChar (c : Char) : Escape c (escapeChar c) := by
  unfold escapeChar
  split_ifs with hquote hbackslash hbackspace hfeed hline hreturn htab hcontrol
  · subst hquote
    exact .letter rfl
  · subst hbackslash
    exact .letter rfl
  · subst hbackspace
    exact .letter rfl
  · subst hfeed
    exact .letter rfl
  · subst hline
    exact .letter rfl
  · subst hreturn
    exact .letter rfl
  · subst htab
    exact .letter rfl
  · exact .numbered hcontrol
  · exact .plain hquote hbackslash hcontrol

theorem digitChar_injective {m n : Nat} (hm : m < 16) (hn : n < 16)
    (h : Nat.digitChar m = Nat.digitChar n) : m = n := by
  have hall : ∀ m < 16, ∀ n < 16, Nat.digitChar m = Nat.digitChar n → m = n := by decide
  exact hall m hm n hn h

/-- A character is read off its escape in one way. -/
theorem escapeChar_append_inj {c d : Char} {r s : List Char}
    (h : escapeChar c ++ r = escapeChar d ++ s) : c = d ∧ r = s := by
  have hc := escape_escapeChar c
  have hd := escape_escapeChar d
  generalize escapeChar c = x at h hc
  generalize escapeChar d = y at h hd
  cases hc with
  | plain _ hbackslash _ =>
      cases hd with
      | plain => simpa using h
      | letter => simp [hbackslash] at h
      | numbered => simp [hbackslash] at h
  | letter hletter =>
      cases hd with
      | plain _ hbackslash _ => simp [hbackslash.symm] at h
      | letter hletter' =>
          simp only [List.cons_append, List.nil_append, List.cons.injEq, true_and] at h
          obtain ⟨rfl, rfl⟩ := h
          rw [hletter, Option.some.injEq] at hletter'
          exact ⟨hletter', rfl⟩
      | numbered =>
          simp only [List.cons_append, List.nil_append, List.cons.injEq, true_and] at h
          rw [h.1] at hletter
          cases hletter
  | numbered hlt =>
      cases hd with
      | plain _ hbackslash _ => simp [hbackslash.symm] at h
      | letter hletter =>
          simp only [List.cons_append, List.nil_append, List.cons.injEq, true_and] at h
          rw [← h.1] at hletter
          cases hletter
      | numbered hlt' =>
          simp only [List.cons_append, List.nil_append, List.cons.injEq, true_and] at h
          obtain ⟨hhigh, hlow, rfl⟩ := h
          have hhigh := digitChar_injective (by omega) (by omega) hhigh
          have hlow := digitChar_injective (by omega) (by omega) hlow
          have hnat : c.toNat = d.toNat := by omega
          exact ⟨Char.toNat_inj.mp hnat, rfl⟩

theorem escapeChar_append_ne_quote (c : Char) (r s : List Char) :
    escapeChar c ++ r ≠ '"' :: s := by
  have hc := escape_escapeChar c
  intro h
  generalize escapeChar c = x at h hc
  cases hc with
  | plain hquote _ _ => simp [hquote] at h
  | letter => simp at h
  | numbered => simp at h

/-- A text is read off its characters between quotes in one way. -/
theorem escaped_append_inj {cs ds r s : List Char}
    (h : cs.flatMap escapeChar ++ '"' :: r = ds.flatMap escapeChar ++ '"' :: s) :
    cs = ds ∧ r = s := by
  induction cs generalizing ds with
  | nil =>
      cases ds with
      | nil => simpa using h
      | cons d ds =>
          rw [List.flatMap_cons, List.append_assoc] at h
          exact absurd h.symm (escapeChar_append_ne_quote _ _ _)
  | cons c cs ih =>
      rw [List.flatMap_cons, List.append_assoc] at h
      cases ds with
      | nil => exact absurd h (escapeChar_append_ne_quote _ _ _)
      | cons d ds =>
          rw [List.flatMap_cons, List.append_assoc] at h
          obtain ⟨rfl, hrest⟩ := escapeChar_append_inj h
          obtain ⟨rfl, rfl⟩ := ih hrest
          exact ⟨rfl, rfl⟩

/-- The characters of a text in quotes. -/
def quoteChars (s : String) : List Char := '"' :: s.toList.flatMap escapeChar ++ ['"']

theorem toList_quote (s : String) : (quote s).toList = quoteChars s := by
  simp [quote, quoteChars]

theorem quoteChars_append_inj {a b : String} {r s : List Char}
    (h : quoteChars a ++ r = quoteChars b ++ s) : a = b ∧ r = s := by
  simp only [quoteChars, List.cons_append, List.append_assoc, List.nil_append, List.cons.injEq,
    true_and] at h
  obtain ⟨htext, hrest⟩ := escaped_append_inj h
  exact ⟨String.toList_injective htext, hrest⟩

/-! ### Numbers -/

/-- A character that may occur in a printed number. -/
def isNumeral (c : Char) : Bool :=
  c.isDigit || c == '-' || c == '+' || c == '.' || c == 'e'

/-- A text that consists of such characters. -/
def Numeral (s : String) : Prop := s.toList.all isNumeral = true

theorem Numeral.append {s t : String} (hs : Numeral s) (ht : Numeral t) : Numeral (s ++ t) := by
  rw [Numeral, String.toList_append, List.all_append, Bool.and_eq_true]
  exact ⟨hs, ht⟩

theorem numeral_ofList {cs : List Char} (h : ∀ c ∈ cs, c.isDigit = true) :
    Numeral (String.ofList cs) := by
  rw [Numeral, String.toList_ofList, List.all_eq_true]
  intro c hc
  simp [isNumeral, h c hc]

/-- Digits of a number make a numeral, also if only some of them are taken. -/
theorem numeral_of_subset {n : Nat} {cs : List Char} (h : cs ⊆ Nat.toDigits 10 n) :
    Numeral (String.ofList cs) :=
  numeral_ofList fun _ hc => Nat.isDigit_of_mem_toDigits (by decide) (by decide) (h hc)

theorem numeral_digitsText (n : Nat) : Numeral (Binary64.digitsText n) :=
  numeral_of_subset (List.Subset.refl _)

theorem numeral_zeroes (n : Nat) : Numeral (Binary64.zeroes n) := by
  apply numeral_ofList
  intro c hc
  rw [List.eq_of_mem_replicate hc]
  rfl

theorem numeral_plainText (d : Binary64.Decimal) : Numeral d.plainText := by
  have hdigits : Numeral (String.ofList (Nat.toDigits 10 d.digits)) :=
    numeral_of_subset (List.Subset.refl _)
  have hpoint : Numeral "." := rfl
  have hzero : Numeral "0." := rfl
  unfold Binary64.Decimal.plainText
  simp only
  split_ifs
  · exact (hdigits.append (numeral_zeroes _)).append rfl
  · exact ((numeral_of_subset (List.take_subset ..)).append hpoint).append
      (numeral_of_subset (List.drop_subset ..))
  · exact (hzero.append (numeral_zeroes _)).append hdigits

theorem numeral_exponentText (d : Binary64.Decimal) : Numeral d.exponentText := by
  unfold Binary64.Decimal.exponentText
  simp only
  refine ((Numeral.append (numeral_of_subset (List.take_subset ..)) ?_).append ?_).append
    (numeral_digitsText _)
  · split_ifs
    · exact rfl
    · have hpoint : Numeral "." := rfl
      exact hpoint.append (numeral_of_subset (List.drop_subset ..))
  · split_ifs <;> exact rfl

theorem numeral_toText (n : Number) : Numeral n.toText := by
  cases n with
  | integer n =>
      refine Numeral.append ?_ (numeral_digitsText _)
      split_ifs <;> exact rfl
  | real x =>
      rw [Number.toText, Binary64.text]
      refine Numeral.append ?_ ?_
      · split_ifs <;> exact rfl
      · split_ifs
        · exact rfl
        · exact numeral_plainText _
        · exact numeral_exponentText _

theorem plainText_ne_empty (d : Binary64.Decimal) : d.plainText ≠ "" := by
  unfold Binary64.Decimal.plainText
  simp only
  split_ifs <;> simp

theorem exponentText_ne_empty (d : Binary64.Decimal) : d.exponentText ≠ "" := by
  unfold Binary64.Decimal.exponentText
  simp only
  split_ifs <;> simp

theorem toText_ne_empty (n : Number) : n.toText ≠ "" := by
  cases n with
  | integer n => simp [Number.toText, Binary64.digitsText]
  | real x =>
      rw [Number.toText, Binary64.text]
      intro h
      obtain ⟨-, h⟩ := String.append_eq_empty_iff.mp h
      split_ifs at h
      · exact absurd h (by decide)
      · exact plainText_ne_empty _ h
      · exact exponentText_ne_empty _ h

/-! ### Values -/

/-- The parts with a comma before each. -/
def followed {α : Type} (chars : α → List Char) : List α → List Char
  | [] => []
  | x :: xs => ',' :: chars x ++ followed chars xs

/-- The parts with a comma between each two. -/
def listed {α : Type} (chars : α → List Char) : List α → List Char
  | [] => []
  | x :: xs => chars x ++ followed chars xs

theorem toList_separate {α : Type} (text : α → String) (xs : List α) :
    (separate "," (xs.map text)).toList = listed (fun x => (text x).toList) xs := by
  induction xs with
  | nil => rfl
  | cons x xs ih =>
      cases xs with
      | nil => simp [separate, listed, followed]
      | cons y ys =>
          rw [List.map_cons, List.map_cons, separate, ← List.map_cons, String.toList_append,
            String.toList_append, ih]
          · simp [listed, followed]
          · simp

theorem printItems_eq (items : List Json) : printItems items = items.map print := by
  induction items with
  | nil => rfl
  | cons item items ih => rw [printItems, ih, List.map_cons]

theorem printEntries_eq (entries : List (String × Json)) :
    printEntries entries = entries.map fun entry => quote entry.1 ++ ":" ++ print entry.2 := by
  induction entries with
  | nil => rfl
  | cons entry entries ih =>
      obtain ⟨key, value⟩ := entry
      rw [printEntries, ih, List.map_cons]

/-- The characters of a printed value. -/
def chars (v : Json) : List Char := v.print.toList

/-- The characters of a printed entry. -/
def entryChars (entry : String × Json) : List Char := quoteChars entry.1 ++ ':' :: chars entry.2

theorem chars_text (s : String) : chars (.text s) = quoteChars s := by
  rw [chars, print, toList_quote]

theorem chars_array (items : List Json) :
    chars (.array items) = '[' :: listed chars items ++ [']'] := by
  have hitems := toList_separate print items
  rw [chars, print, printItems_eq, String.toList_append, String.toList_append, hitems]
  rfl

theorem chars_object (entries : List (String × Json)) :
    chars (.object entries) = '\x7b' :: listed entryChars entries ++ ['\x7d'] := by
  have hentries := toList_separate
    (fun entry : String × Json => quote entry.1 ++ ":" ++ print entry.2) entries
  have hchars : (fun entry : String × Json => (quote entry.1 ++ ":" ++ print entry.2).toList) =
      entryChars := by
    funext entry
    simp [entryChars, chars, toList_quote]
  rw [chars, print, printEntries_eq, String.toList_append, String.toList_append, hentries, hchars]
  rfl

mutual

/-- Values of the same shape, with the same keys, texts and truth values, and with numbers that are
printed the same. -/
inductive Alike : Json → Json → Prop where
  | null : Alike .null .null
  | bool (b : Bool) : Alike (.bool b) (.bool b)
  | number {m n : Number} (h : m.toText = n.toText) : Alike (.number m) (.number n)
  | text (s : String) : Alike (.text s) (.text s)
  | array {xs ys : List Json} (h : List.Forall₂ Alike xs ys) : Alike (.array xs) (.array ys)
  | object {xs ys : List (String × Json)} (h : List.Forall₂ AlikeEntries xs ys) :
      Alike (.object xs) (.object ys)

/-- Entries under the same key, with values that are alike. -/
inductive AlikeEntries : String × Json → String × Json → Prop where
  | entry {key : String} {v w : Json} (h : Alike v w) : AlikeEntries (key, v) (key, w)

end

/-- What may follow a printed value: nothing, or a character that does not go on with it. -/
def Closed (rest : List Char) : Prop :=
  ∀ c ∈ rest.head?, c = ',' ∨ c = ']' ∨ c = '\x7d'

/-- Whatever is printed like `x`, with something after it, is related to `x`. -/
def Legible {α : Type} (chars : α → List Char) (related : α → α → Prop) (x : α) : Prop :=
  ∀ y r s, Closed r → Closed s → chars x ++ r = chars y ++ s → related x y ∧ r = s

section

variable {α : Type} {chars : α → List Char} {related : α → α → Prop} {close : Char}

theorem followed_append_inj (hclose : close = ']' ∨ close = '\x7d') {xs ys : List α}
    (hxs : ∀ x ∈ xs, Legible chars related x) {r s : List Char}
    (h : followed chars xs ++ close :: r = followed chars ys ++ close :: s) :
    List.Forall₂ related xs ys ∧ r = s := by
  have hcomma : close ≠ ',' := by rcases hclose with rfl | rfl <;> decide
  have hclosed (zs : List α) (t : List Char) :
      Closed (followed chars zs ++ close :: t) := by
    intro c hc
    cases zs with
    | nil =>
        cases hc
        exact Or.inr hclose
    | cons z zs =>
        cases hc
        exact Or.inl rfl
  induction xs generalizing ys with
  | nil =>
      cases ys with
      | nil => simpa [followed] using h
      | cons y ys => simp [followed, hcomma] at h
  | cons x xs ih =>
      cases ys with
      | nil => simp [followed, hcomma.symm] at h
      | cons y ys =>
          rw [List.forall_mem_cons] at hxs
          simp only [followed, List.cons_append, List.append_assoc, List.cons.injEq,
            true_and] at h
          obtain ⟨hxy, hrest⟩ := hxs.1 y _ _ (hclosed xs r) (hclosed ys s) h
          obtain ⟨hall, hrs⟩ := ih hxs.2 hrest
          exact ⟨.cons hxy hall, hrs⟩

/-- A list is read off its characters up to the closing one if each of its items is. -/
theorem listed_append_inj (hclose : close = ']' ∨ close = '\x7d')
    (hopen : ∀ x r s, chars x ++ r ≠ close :: s) {xs ys : List α}
    (hxs : ∀ x ∈ xs, Legible chars related x) {r s : List Char}
    (h : listed chars xs ++ close :: r = listed chars ys ++ close :: s) :
    List.Forall₂ related xs ys ∧ r = s := by
  cases xs with
  | nil =>
      cases ys with
      | nil => simpa [listed] using h
      | cons y ys =>
          rw [listed, listed, List.append_assoc] at h
          exact absurd h.symm (hopen _ _ _)
  | cons x xs =>
      cases ys with
      | nil =>
          rw [listed, listed, List.append_assoc] at h
          exact absurd h (hopen _ _ _)
      | cons y ys =>
          -- With a comma in front, the first items are as all others.
          have hcomma := congrArg (List.cons ',') h
          exact followed_append_inj hclose hxs (by simpa [listed, followed] using hcomma)

end

/-! ### Values are read in one way -/

/-- The kind of a value, by the character that it begins with. -/
def kindOf (c : Char) : Nat :=
  if c = 'n' then 0
  else if c = 't' then 1
  else if c = 'f' then 2
  else if c = '"' then 3
  else if c = '[' then 4
  else if c = '\x7b' then 5
  else if isNumeral c then 6
  else 7

/-- The kind of a value. -/
def kind : Json → Nat
  | .null => 0
  | .bool true => 1
  | .bool false => 2
  | .text _ => 3
  | .array _ => 4
  | .object _ => 5
  | .number _ => 6

theorem kindOf_numeral {c : Char} (h : isNumeral c = true) : kindOf c = 6 := by
  unfold kindOf
  split_ifs with hn ht hf hquote hbracket hbrace
  all_goals first | rfl | contradiction | (subst c; exact absurd h (by decide))

/-- A printed value begins with a character of its kind. -/
theorem exists_first (v : Json) : ∃ c cs, chars v = c :: cs ∧ kindOf c = kind v := by
  cases v with
  | null => exact ⟨_, _, rfl, rfl⟩
  | bool b => cases b <;> exact ⟨_, _, rfl, rfl⟩
  | number n =>
      have hnumeral := numeral_toText n
      obtain ⟨c, cs, hchars⟩ := List.exists_cons_of_ne_nil
        (fun hnil => toText_ne_empty n (String.toList_eq_nil_iff.mp hnil))
      rw [Numeral, hchars, List.all_cons, Bool.and_eq_true] at hnumeral
      exact ⟨c, cs, hchars, kindOf_numeral hnumeral.1⟩
  | text s => exact ⟨_, _, chars_text s, rfl⟩
  | array items => exact ⟨_, _, chars_array items, rfl⟩
  | object entries => exact ⟨_, _, chars_object entries, rfl⟩

theorem kind_lt (v : Json) : kind v < 7 := by
  cases v with
  | bool b => cases b <;> simp [kind]
  | null | number | text | array | object => simp [kind]

theorem kind_eq_of_append {v w : Json} {r s : List Char} (h : chars v ++ r = chars w ++ s) :
    kind v = kind w := by
  obtain ⟨c, cs, hv, hkind⟩ := exists_first v
  obtain ⟨d, ds, hw, hkind'⟩ := exists_first w
  rw [hv, hw, List.cons_append, List.cons_append, List.cons.injEq] at h
  rw [← hkind, ← hkind', h.1]

/-- The characters of a number end where the number does. -/
theorem takeWhile_toText (n : Number) {r : List Char} (hr : Closed r) :
    (n.toText.toList ++ r).takeWhile isNumeral = n.toText.toList := by
  rw [List.takeWhile_append_of_pos (List.all_eq_true.mp (numeral_toText n))]
  cases r with
  | nil => simp
  | cons c cs =>
      have hstop : isNumeral c = false := by
        rcases hr c rfl with rfl | rfl | rfl <;> decide
      simp [hstop]

theorem legible_number (n : Number) : Legible chars Alike (.number n) := by
  intro w r s hr hs h
  have hkind := kind_eq_of_append h
  cases w with
  | number m =>
      have htaken := congrArg (List.takeWhile isNumeral) h
      have htext : n.toText.toList = m.toText.toList := by
        simpa only [chars, print, takeWhile_toText _ hr, takeWhile_toText _ hs] using htaken
      refine ⟨.number (String.toList_injective htext), ?_⟩
      simpa only [chars, print, htext, List.append_cancel_left_eq] using h
  | bool b => cases b <;> cases hkind
  | null | text | array | object => cases hkind

theorem entryChars_append_ne (entry : String × Json) (r s : List Char) :
    entryChars entry ++ r ≠ '\x7d' :: s := by
  simp [entryChars, quoteChars]

theorem chars_append_ne (v : Json) (r s : List Char) : chars v ++ r ≠ ']' :: s := by
  obtain ⟨c, cs, hv, hkind⟩ := exists_first v
  intro h
  rw [hv, List.cons_append, List.cons.injEq] at h
  rw [h.1] at hkind
  exact absurd hkind (Nat.ne_of_gt (kind_lt v))

theorem legible_entry {entry : String × Json} (h : Legible chars Alike entry.2) :
    Legible entryChars AlikeEntries entry := by
  obtain ⟨key, v⟩ := entry
  rintro ⟨key', w⟩ r s hr hs heq
  rw [entryChars, entryChars, List.append_assoc, List.append_assoc] at heq
  obtain ⟨rfl, hvalue⟩ := quoteChars_append_inj heq
  simp only [List.cons_append, List.cons.injEq, true_and] at hvalue
  obtain ⟨halike, hrest⟩ := h w r s hr hs hvalue
  exact ⟨.entry halike, hrest⟩

/-- A printed value is read off its characters in one way, whatever follows them. -/
theorem legible (v : Json) : Legible chars Alike v := by
  induction v using Json.induction with
  | number n => exact legible_number n
  | null =>
      intro w r s _ _ h
      have hkind := kind_eq_of_append h
      cases w with
      | null => exact ⟨.null, List.append_cancel_left h⟩
      | bool b => cases b <;> cases hkind
      | number | text | array | object => cases hkind
  | bool b =>
      intro w r s _ _ h
      have hkind := kind_eq_of_append h
      cases w with
      | bool b' =>
          have hb : b = b' := by cases b <;> cases b' <;> first | rfl | cases hkind
          subst hb
          exact ⟨.bool b, List.append_cancel_left h⟩
      | null | number | text | array | object => cases b <;> cases hkind
  | text a =>
      intro w r s _ _ h
      have hkind := kind_eq_of_append h
      cases w with
      | text b =>
          rw [chars_text, chars_text] at h
          obtain ⟨rfl, hrest⟩ := quoteChars_append_inj h
          exact ⟨.text a, hrest⟩
      | bool b => cases b <;> cases hkind
      | null | number | array | object => cases hkind
  | array items ih =>
      intro w r s _ _ h
      have hkind := kind_eq_of_append h
      cases w with
      | array items' =>
          rw [chars_array, chars_array] at h
          simp only [List.cons_append, List.append_assoc, List.nil_append, List.cons.injEq,
            true_and] at h
          obtain ⟨hall, hrest⟩ := listed_append_inj (Or.inl rfl) chars_append_ne ih h
          exact ⟨.array hall, hrest⟩
      | bool b => cases b <;> cases hkind
      | null | number | text | object => cases hkind
  | object entries ih =>
      intro w r s _ _ h
      have hkind := kind_eq_of_append h
      cases w with
      | object entries' =>
          rw [chars_object, chars_object] at h
          simp only [List.cons_append, List.append_assoc, List.nil_append, List.cons.injEq,
            true_and] at h
          obtain ⟨hall, hrest⟩ := listed_append_inj (Or.inr rfl) entryChars_append_ne
            (fun entry hentry => legible_entry (ih entry hentry)) h
          exact ⟨.object hall, hrest⟩
      | bool b => cases b <;> cases hkind
      | null | number | text | array => cases hkind

/-- Values that are printed the same are alike. -/
theorem alike_of_print_eq {v w : Json} (h : v.print = w.print) : Alike v w := by
  have hchars : chars v ++ [] = chars w ++ [] := by rw [chars, chars, h]
  exact (legible v w [] [] nofun nofun hchars).1

end FormLogic.Json
