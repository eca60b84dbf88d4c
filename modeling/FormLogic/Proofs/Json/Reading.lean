import FormLogic.Proofs.Dictionary
import FormLogic.Proofs.Json.Printing

/-!
# Printed values are read again

A value without numbers is read again from what it is printed as, if its objects are in normal form
and it is not nested deeper than the reader goes.
-/

namespace FormLogic.Json

variable {α : Type} {cs r : List Char}

/-- The step reads a value and leaves the given characters. -/
def Reads {cs : List Char} (step : Step cs α) (x : α) (rest : List Char) : Prop :=
  ∃ h, step = .ok (x, ⟨rest, h⟩)

/-! ### Texts -/

theorem hexDigit_digitChar {n : Nat} (h : n < 16) : hexDigit (Nat.digitChar n) = some n := by
  have hall : ∀ n < 16, hexDigit (Nat.digitChar n) = some n := by decide
  exact hall n h

theorem unicodeEscape_numbered {c : Char} (h : c.toNat < 0x20) (r : List Char) :
    Reads (unicodeEscape ('0' :: '0' :: Nat.digitChar (c.toNat / 16) ::
      Nat.digitChar (c.toNat % 16) :: r)) c r := by
  have hword : hexWord '0' '0' (Nat.digitChar (c.toNat / 16)) (Nat.digitChar (c.toNat % 16)) =
      some c.toNat := by
    have hzero : hexDigit '0' = some 0 := rfl
    rw [hexWord, hzero, hexDigit_digitChar (by omega), hexDigit_digitChar (by omega)]
    simp only [Option.bind_eq_bind, Option.bind_some, Option.pure_def, Option.some.injEq]
    omega
  have htrailing : isTrailingSurrogate c.toNat = false := by
    simp [isTrailingSurrogate]
    omega
  have hleading : isLeadingSurrogate c.toNat = false := by
    simp [isLeadingSurrogate]
    omega
  rw [unicodeEscape, fourHexDigits, hword]
  simp only [htrailing, hleading, Char.ofNat_toNat]
  exact ⟨_, rfl⟩

theorem stringBody_plain {c : Char} (hquote : c ≠ '"') (hbackslash : c ≠ '\\')
    (hcontrol : ¬ c.toNat < 0x20) {ds : List Char} (h : Reads (stringBody cs) ds r) :
    Reads (stringBody (c :: cs)) (c :: ds) r := by
  obtain ⟨hlt, hread⟩ := h
  refine ⟨Nat.lt_succ_of_lt hlt, ?_⟩
  rw [stringBody.eq_6 c cs hquote (by simp [hbackslash]) (by simp [hbackslash])
    (by simp [hbackslash]), if_neg hcontrol, hread]
  rfl

theorem stringBody_letter {letter c : Char} (hletter : simpleEscape letter = some c)
    {ds : List Char} (h : Reads (stringBody cs) ds r) :
    Reads (stringBody ('\\' :: letter :: cs)) (c :: ds) r := by
  obtain ⟨hlt, hread⟩ := h
  have hne : letter ≠ 'u' := by
    rintro rfl
    cases hletter
  refine ⟨Nat.lt_succ_of_lt (Nat.lt_succ_of_lt hlt), ?_⟩
  rw [stringBody.eq_5 letter cs hne, hletter, hread]
  rfl

theorem stringBody_numbered {c : Char} (hcontrol : c.toNat < 0x20) {ds : List Char}
    (h : Reads (stringBody cs) ds r) :
    Reads (stringBody ('\\' :: 'u' :: '0' :: '0' :: Nat.digitChar (c.toNat / 16) ::
      Nat.digitChar (c.toNat % 16) :: cs)) (c :: ds) r := by
  obtain ⟨hlt, hread⟩ := h
  obtain ⟨hlt', hescape⟩ := unicodeEscape_numbered hcontrol cs
  refine ⟨?_, ?_⟩
  · simp only [List.length_cons]
    omega
  · rw [stringBody.eq_4, hescape]
    simp only [hread]

/-- What is written of a text between quotes is read as that text. -/
theorem stringBody_escaped (cs r : List Char) :
    Reads (stringBody (cs.flatMap escapeChar ++ '"' :: r)) cs r := by
  induction cs with
  | nil =>
      rw [List.flatMap_nil, List.nil_append]
      exact ⟨_, stringBody.eq_2 r⟩
  | cons c cs ih =>
      have hc := escape_escapeChar c
      rw [List.flatMap_cons, List.append_assoc]
      generalize escapeChar c = x at hc
      cases hc with
      | plain hquote hbackslash hcontrol => exact stringBody_plain hquote hbackslash hcontrol ih
      | letter hletter => exact stringBody_letter hletter ih
      | numbered hcontrol => exact stringBody_numbered hcontrol ih

/-! ### Lists and objects -/

/-- The character does not end what it is in, and is no blank. -/
def Begins (c : Char) : Prop := isSpace c = false ∧ c ≠ ']' ∧ c ≠ '\x7d'

theorem skipSpace_cons {c : Char} (h : isSpace c = false) (cs : List Char) :
    skipSpace (c :: cs) = c :: cs := by
  simp [skipSpace, h]

section

variable {item : (cs : List Char) → Step cs α} {x : α} {xs : List α} {c : Char}
  {left : List Char}

theorem listItems_close (item : (cs : List Char) → Step cs α) (first : Bool) (r : List Char) :
    Reads (listItems item first (']' :: r)) [] r := by
  have hskip : skipSpace (']' :: r) = ']' :: r := skipSpace_cons rfl r
  unfold listItems
  split
  · rename_i h
    rw [hskip] at h
    cases h
  · rename_i c rest h
    rw [hskip] at h
    cases h
    exact ⟨_, rfl⟩

theorem listItems_first (hc : Begins c) (hitem : Reads (item (c :: cs)) x left)
    (hrest : Reads (listItems item false left) xs r) :
    Reads (listItems item true (c :: cs)) (x :: xs) r := by
  have hskip : skipSpace (c :: cs) = c :: cs := skipSpace_cons hc.1 cs
  obtain ⟨hlt, hitem⟩ := hitem
  obtain ⟨hlt', hrest⟩ := hrest
  unfold listItems
  split
  · rename_i h
    rw [hskip] at h
    cases h
  · rename_i d rest h
    rw [hskip] at h
    cases h
    rw [if_neg hc.2.1, if_pos rfl, hitem]
    simp only [hrest]
    exact ⟨_, rfl⟩

theorem listItems_next (hc : Begins c) (hitem : Reads (item (c :: cs)) x left)
    (hrest : Reads (listItems item false left) xs r) :
    Reads (listItems item false (',' :: c :: cs)) (x :: xs) r := by
  have hskip : skipSpace (',' :: c :: cs) = ',' :: c :: cs := skipSpace_cons rfl _
  have hskip' : skipSpace (c :: cs) = c :: cs := skipSpace_cons hc.1 cs
  obtain ⟨hlt, hitem⟩ := hitem
  obtain ⟨hlt', hrest⟩ := hrest
  unfold listItems
  split
  · rename_i h
    rw [hskip] at h
    cases h
  · rename_i d rest h
    rw [hskip] at h
    cases h
    rw [if_neg (by decide), if_neg (by decide), if_pos rfl]
    split
    · rename_i h
      rw [hskip'] at h
      cases h
    · rename_i d rest h
      rw [hskip'] at h
      cases h
      rw [if_neg hc.2.1, hitem]
      simp only [hrest]
      exact ⟨_, rfl⟩

/-- A key and its value are read from where they are written. -/
theorem keyedValue_read (key : String) (hitem : Reads (item cs) x r) :
    Reads (keyedValue item (key.toList.flatMap escapeChar ++ '"' :: ':' :: cs)) (key, x) r := by
  obtain ⟨hlt, hkey⟩ := stringBody_escaped key.toList (':' :: cs)
  obtain ⟨hlt', hitem⟩ := hitem
  have hskip : skipSpace (':' :: cs) = ':' :: cs := skipSpace_cons rfl cs
  unfold keyedValue
  rw [hkey]
  simp only
  split
  · rename_i h
    rw [hskip] at h
    cases h
  · rename_i d rest h
    rw [hskip] at h
    cases h
    rw [if_pos rfl, hitem, String.ofList_toList]
    exact ⟨_, rfl⟩

theorem objectEntries_close (item : (cs : List Char) → Step cs α) (first : Bool) (r : List Char) :
    Reads (objectEntries item first ('\x7d' :: r)) [] r := by
  have hskip : skipSpace ('\x7d' :: r) = '\x7d' :: r := skipSpace_cons rfl r
  unfold objectEntries
  split
  · rename_i h
    rw [hskip] at h
    cases h
  · rename_i c rest h
    rw [hskip] at h
    cases h
    exact ⟨_, rfl⟩

theorem objectEntries_first {entry : String × α} {entries : List (String × α)}
    (hentry : Reads (keyedValue item cs) entry left)
    (hrest : Reads (objectEntries item false left) entries r) :
    Reads (objectEntries item true ('"' :: cs)) (entry :: entries) r := by
  have hskip : skipSpace ('"' :: cs) = '"' :: cs := skipSpace_cons rfl cs
  obtain ⟨hlt, hentry⟩ := hentry
  obtain ⟨hlt', hrest⟩ := hrest
  unfold objectEntries
  split
  · rename_i h
    rw [hskip] at h
    cases h
  · rename_i d rest h
    rw [hskip] at h
    cases h
    rw [if_neg (by decide), if_pos rfl, if_pos rfl, hentry]
    simp only [hrest]
    exact ⟨_, rfl⟩

theorem objectEntries_next {entry : String × α} {entries : List (String × α)}
    (hentry : Reads (keyedValue item cs) entry left)
    (hrest : Reads (objectEntries item false left) entries r) :
    Reads (objectEntries item false (',' :: '"' :: cs)) (entry :: entries) r := by
  have hskip : skipSpace (',' :: '"' :: cs) = ',' :: '"' :: cs := skipSpace_cons rfl _
  have hskip' : skipSpace ('"' :: cs) = '"' :: cs := skipSpace_cons rfl cs
  obtain ⟨hlt, hentry⟩ := hentry
  obtain ⟨hlt', hrest⟩ := hrest
  unfold objectEntries
  split
  · rename_i h
    rw [hskip] at h
    cases h
  · rename_i d rest h
    rw [hskip] at h
    cases h
    rw [if_neg (by decide), if_neg (by decide), if_pos rfl]
    split
    · rename_i h
      rw [hskip'] at h
      cases h
    · rename_i d rest h
      rw [hskip'] at h
      cases h
      rw [if_pos rfl, hentry]
      simp only [hrest]
      exact ⟨_, rfl⟩

end

theorem begins_of_kindOf {c : Char} (h : kindOf c < 7) : Begins c := by
  refine ⟨?_, ?_, ?_⟩
  · by_contra hspace
    simp only [isSpace, Bool.not_eq_false, Bool.or_eq_true, beq_iff_eq] at hspace
    rcases hspace with ((rfl | rfl) | rfl) | rfl <;> exact absurd h (by decide)
  · rintro rfl
    exact absurd h (by decide)
  · rintro rfl
    exact absurd h (by decide)

theorem exists_begins (v : Json) : ∃ c cs, chars v = c :: cs ∧ Begins c := by
  obtain ⟨c, cs, hchars, hkind⟩ := exists_first v
  exact ⟨c, cs, hchars, begins_of_kindOf (hkind ▸ kind_lt v)⟩

section

variable {item : (cs : List Char) → Step cs Json}

theorem listItems_followed {items : List Json}
    (h : ∀ v ∈ items, ∀ r, Reads (item (chars v ++ r)) v r) (r : List Char) :
    Reads (listItems item false (followed chars items ++ ']' :: r)) items r := by
  induction items with
  | nil => exact listItems_close item false r
  | cons v items ih =>
      rw [List.forall_mem_cons] at h
      obtain ⟨c, cs, hchars, hc⟩ := exists_begins v
      have hv := h.1 (followed chars items ++ ']' :: r)
      have hfront : followed chars (v :: items) ++ ']' :: r =
          ',' :: c :: (cs ++ (followed chars items ++ ']' :: r)) := by
        simp [followed, hchars]
      rw [hchars] at hv
      rw [hfront]
      exact listItems_next hc hv (ih h.2)

/-- The items of a list are read from where they are written. -/
theorem listItems_listed {items : List Json}
    (h : ∀ v ∈ items, ∀ r, Reads (item (chars v ++ r)) v r) (r : List Char) :
    Reads (listItems item true (listed chars items ++ ']' :: r)) items r := by
  cases items with
  | nil => exact listItems_close item true r
  | cons v items =>
      rw [List.forall_mem_cons] at h
      obtain ⟨c, cs, hchars, hc⟩ := exists_begins v
      have hv := h.1 (followed chars items ++ ']' :: r)
      have hfront : listed chars (v :: items) ++ ']' :: r =
          c :: (cs ++ (followed chars items ++ ']' :: r)) := by
        simp [listed, hchars]
      rw [hchars] at hv
      rw [hfront]
      exact listItems_first hc hv (listItems_followed h.2 r)

theorem objectEntries_followed {entries : List (String × Json)}
    (h : ∀ entry ∈ entries, ∀ r, Reads (item (chars entry.2 ++ r)) entry.2 r) (r : List Char) :
    Reads (objectEntries item false
      (followed entryChars entries ++ '\x7d' :: r)) entries r := by
  induction entries with
  | nil => exact objectEntries_close item false r
  | cons entry entries ih =>
      obtain ⟨key, v⟩ := entry
      rw [List.forall_mem_cons] at h
      have hv := h.1 (followed entryChars entries ++ '\x7d' :: r)
      have hfront : followed entryChars ((key, v) :: entries) ++ '\x7d' :: r =
          ',' :: '"' :: (key.toList.flatMap escapeChar ++ '"' :: ':' ::
            (chars v ++ (followed entryChars entries ++ '\x7d' :: r))) := by
        simp [followed, entryChars, quoteChars]
      rw [hfront]
      exact objectEntries_next (keyedValue_read key hv) (ih h.2)

/-- The entries of an object are read from where they are written. -/
theorem objectEntries_listed {entries : List (String × Json)}
    (h : ∀ entry ∈ entries, ∀ r, Reads (item (chars entry.2 ++ r)) entry.2 r) (r : List Char) :
    Reads (objectEntries item true (listed entryChars entries ++ '\x7d' :: r)) entries r := by
  cases entries with
  | nil => exact objectEntries_close item true r
  | cons entry entries =>
      obtain ⟨key, v⟩ := entry
      rw [List.forall_mem_cons] at h
      have hv := h.1 (followed entryChars entries ++ '\x7d' :: r)
      have hfront : listed entryChars ((key, v) :: entries) ++ '\x7d' :: r =
          '"' :: (key.toList.flatMap escapeChar ++ '"' :: ':' ::
            (chars v ++ (followed entryChars entries ++ '\x7d' :: r))) := by
        simp [listed, entryChars, quoteChars]
      rw [hfront]
      exact objectEntries_first (keyedValue_read key hv) (objectEntries_followed h.2 r)

end

/-! ### Values -/

/-- The value has no numbers, its objects are in normal form, and it is nested at most as deep as
the given number. -/
inductive Readable : Nat → Json → Prop where
  | null {depth : Nat} : Readable depth .null
  | bool {depth : Nat} (b : Bool) : Readable depth (.bool b)
  | text {depth : Nat} (s : String) : Readable depth (.text s)
  | array {depth : Nat} {items : List Json} (h : ∀ v ∈ items, Readable depth v) :
      Readable (depth + 1) (.array items)
  | object {depth : Nat} {entries : Dictionary Json} (hascending : entries.Ascending)
      (h : ∀ entry ∈ entries, Readable depth entry.2) : Readable (depth + 1) (.object entries)

/-- The values that are written as words: first character, the others, and the value. -/
def words : List (Char × List Char × Json) :=
  [('n', ['u', 'l', 'l'], .null), ('t', ['r', 'u', 'e'], .bool true),
    ('f', ['a', 'l', 's', 'e'], .bool false)]

theorem value_word (depth : Nat) {c : Char} {word : List Char} {v : Json}
    (h : (c, word, v) ∈ words) (r : List Char) : Reads (value depth (c :: (word ++ r))) v r := by
  simp only [words, List.mem_cons, List.not_mem_nil, or_false, Prod.mk.injEq] at h
  rcases h with ⟨rfl, rfl, rfl⟩ | ⟨rfl, rfl, rfl⟩ | ⟨rfl, rfl, rfl⟩
  all_goals
    unfold value
    split
    · rename_i h
      rw [skipSpace_cons rfl] at h
      cases h
    · rename_i d rest h
      rw [skipSpace_cons rfl] at h
      cases h
      exact ⟨_, rfl⟩

theorem value_quote (depth : Nat) {ds : List Char} (h : Reads (stringBody cs) ds r) :
    Reads (value depth ('"' :: cs)) (.text (String.ofList ds)) r := by
  obtain ⟨hlt, hread⟩ := h
  have hskip : skipSpace ('"' :: cs) = '"' :: cs := skipSpace_cons rfl cs
  unfold value
  split
  · rename_i h
    rw [hskip] at h
    cases h
  · rename_i d rest h
    rw [hskip] at h
    cases h
    simp only [hread]
    exact ⟨_, rfl⟩

theorem value_bracket {depth : Nat} {items : List Json}
    (h : Reads (listItems (value depth) true cs) items r) :
    Reads (value (depth + 1) ('[' :: cs)) (.array items) r := by
  obtain ⟨hlt, hread⟩ := h
  have hskip : skipSpace ('[' :: cs) = '[' :: cs := skipSpace_cons rfl cs
  unfold value
  split
  · rename_i h
    rw [hskip] at h
    cases h
  · rename_i d rest h
    rw [hskip] at h
    cases h
    simp only [hread]
    exact ⟨_, rfl⟩

theorem value_brace {depth : Nat} {entries : List (String × Json)}
    (h : Reads (objectEntries (value depth) true cs) entries r) :
    Reads (value (depth + 1) ('\x7b' :: cs)) (.ofEntries entries) r := by
  obtain ⟨hlt, hread⟩ := h
  have hskip : skipSpace ('\x7b' :: cs) = '\x7b' :: cs := skipSpace_cons rfl cs
  unfold value
  split
  · rename_i h
    rw [hskip] at h
    cases h
  · rename_i d rest h
    rw [hskip] at h
    cases h
    simp only [hread]
    exact ⟨_, rfl⟩

theorem value_read {depth : Nat} {v : Json} (h : Readable depth v) :
    ∀ r, Reads (value depth (chars v ++ r)) v r := by
  induction h with
  | @null depth =>
      have hword : ('n', ['u', 'l', 'l'], Json.null) ∈ words := by simp [words]
      exact value_word depth hword
  | @bool depth b =>
      have htrue : ('t', ['r', 'u', 'e'], Json.bool true) ∈ words := by simp [words]
      have hfalse : ('f', ['a', 'l', 's', 'e'], Json.bool false) ∈ words := by simp [words]
      cases b with
      | true => exact value_word depth htrue
      | false => exact value_word depth hfalse
  | @text depth s =>
      intro r
      have hfront : chars (.text s) ++ r = '"' :: (s.toList.flatMap escapeChar ++ '"' :: r) := by
        simp [chars_text, quoteChars]
      have hread := value_quote depth (stringBody_escaped s.toList r)
      rw [String.ofList_toList] at hread
      rw [hfront]
      exact hread
  | @array depth items h ih =>
      intro r
      have hfront : chars (.array items) ++ r = '[' :: (listed chars items ++ ']' :: r) := by
        simp [chars_array]
      rw [hfront]
      exact value_bracket (listItems_listed ih r)
  | @object depth entries hascending h ih =>
      intro r
      have hfront : chars (.object entries) ++ r =
          '\x7b' :: (listed entryChars entries ++ '\x7d' :: r) := by
        simp [chars_object]
      have hread := value_brace (objectEntries_listed ih r)
      rw [ofEntries, Dictionary.Ascending.ofList_eq hascending] at hread
      rw [hfront]
      exact hread

/-- A value without numbers is read again from what it is printed as. -/
theorem parse_print {v : Json} (h : Readable deepest v) : parse v.print = .ok v := by
  have hread : Reads (value deepest (chars v ++ [])) v [] := value_read h []
  rw [List.append_nil, chars] at hread
  obtain ⟨hlt, hread⟩ := hread
  simp only [parse, hread]
  rfl

end FormLogic.Json
