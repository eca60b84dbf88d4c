import FormLogic.Binary64.Text
import FormLogic.Json.Basic

/-!
# Reading JSON

A reader of JSON texts that says what is wrong and where.  Each step takes the unread characters and
returns those it leaves, with a proof that they are fewer; a fault keeps the unread characters, from
which line and column are computed in the end.  Columns count bytes of the UTF-8 encoding.
-/

namespace FormLogic.Json

/-- What can be wrong with a JSON text. -/
inductive SyntaxProblem where
  | unfinishedList
  | unfinishedObject
  | unfinishedString
  | unfinishedValue
  | expectedColon
  | expectedListEnd
  | expectedObjectEnd
  | expectedLiteral
  | expectedValue
  | invalidEscape
  | invalidNumber
  | numberOutOfRange
  | controlCharacter
  | keyNotString
  | loneSurrogate
  | unfinishedSurrogates
  | trailingComma
  | trailingCharacters
  | nestedTooDeep
  deriving DecidableEq, Repr

/-- The wording of a problem. -/
def SyntaxProblem.message : SyntaxProblem → String
  | .unfinishedList => "EOF while parsing a list"
  | .unfinishedObject => "EOF while parsing an object"
  | .unfinishedString => "EOF while parsing a string"
  | .unfinishedValue => "EOF while parsing a value"
  | .expectedColon => "expected \x60:\x60"
  | .expectedListEnd => "expected \x60,\x60 or \x60]\x60"
  | .expectedObjectEnd => "expected \x60,\x60 or \x60\x7d\x60"
  | .expectedLiteral => "expected ident"
  | .expectedValue => "expected value"
  | .invalidEscape => "invalid escape"
  | .invalidNumber => "invalid number"
  | .numberOutOfRange => "number out of range"
  | .controlCharacter => "control character (\\u0000-\\u001F) found while parsing a string"
  | .keyNotString => "key must be a string"
  | .loneSurrogate => "lone leading surrogate in hex escape"
  | .unfinishedSurrogates => "unexpected end of hex escape"
  | .trailingComma => "trailing comma"
  | .trailingCharacters => "trailing characters"
  | .nestedTooDeep => "recursion limit exceeded"

/-- A problem, the characters unread when it was met, and how many bytes of these it covers. -/
structure Fault where
  problem : SyntaxProblem
  unread : List Char
  covered : Nat
  deriving DecidableEq, Repr

/-- A problem at the next byte. -/
def Fault.here (problem : SyntaxProblem) (unread : List Char) : Fault := ⟨problem, unread, 1⟩

/-- A problem before the next byte. -/
def Fault.before (problem : SyntaxProblem) (unread : List Char) : Fault := ⟨problem, unread, 0⟩

/-- A problem in a text and the place where it was met. -/
structure SyntaxError where
  problem : SyntaxProblem
  line : Nat
  column : Nat
  deriving DecidableEq, Repr

def SyntaxError.message (e : SyntaxError) : String :=
  e.problem.message ++ " at line " ++ Binary64.digitsText e.line ++ " column " ++
    Binary64.digitsText e.column

/-- The number of bytes of the characters in UTF-8. -/
def byteLength (cs : List Char) : Nat :=
  cs.foldl (fun n c => n + c.utf8Size) 0

/-- Line and column after the given number of bytes, starting from a given line and column. -/
def position (line column : Nat) : List Char → Nat → Nat × Nat
  | [], _ => (line, column)
  | c :: cs, bytes =>
      if bytes < c.utf8Size then (line, column + bytes)
      else if c = '\n' then position (line + 1) 0 cs (bytes - c.utf8Size)
      else position line (column + c.utf8Size) cs (bytes - c.utf8Size)

/-- The place of a fault in the text that was read. -/
def Fault.locate (all : List Char) (fault : Fault) : SyntaxError :=
  let place := position 1 0 all (byteLength all - byteLength fault.unread + fault.covered)
  ⟨fault.problem, place.1, place.2⟩

/-- Characters that are fewer than the given ones. -/
abbrev Rest (cs : List Char) := { rest : List Char // rest.length < cs.length }

/-- What a step of the reader gives: a value and the characters left, or a fault. -/
abbrev Step (cs : List Char) (α : Type) := Except Fault (α × Rest cs)

/-- The characters left after one more character was read in front. -/
def Rest.after {c : Char} {cs : List Char} (r : Rest cs) : Rest (c :: cs) :=
  ⟨r.1, Nat.lt_succ_of_lt r.2⟩

/-- The characters left, when the step started from characters that were themselves left over. -/
def Rest.within {cs ds : List Char} (h : ds.length ≤ cs.length) (r : Rest ds) : Rest cs :=
  ⟨r.1, Nat.lt_of_lt_of_le r.2 h⟩

/-- A blank between the tokens of a JSON text. -/
def isSpace (c : Char) : Bool :=
  c == ' ' || c == '\n' || c == '\t' || c == '\r'

def skipSpace (cs : List Char) : List Char := cs.dropWhile isSpace

theorem length_dropWhile_le (p : Char → Bool) (cs : List Char) :
    (cs.dropWhile p).length ≤ cs.length := by
  induction cs with
  | nil => simp
  | cons c cs ih =>
      by_cases h : p c
      · simp only [List.dropWhile_cons, h, if_true, List.length_cons]
        omega
      · simp [h]

theorem length_skipSpace_le (cs : List Char) : (skipSpace cs).length ≤ cs.length :=
  length_dropWhile_le isSpace cs

/-! ## Numbers -/

/-- The first characters of an exponent whose number exceeds `2 ^ 31 - 1`, if there are such, and
the characters after them. -/
def exponentOverflow (sofar : Nat) : List Char → Option (List Char)
  | [] => none
  | c :: cs =>
      if c.isDigit then
        let next := 10 * sofar + (c.toNat - '0'.toNat)
        if Nat.pow 2 31 ≤ next then some cs else exponentOverflow next cs
      else none

/-- A number with a fraction or an exponent, or a fault when it is too large. -/
def realNumber (negative : Bool) (digits : Nat) (exponent : Int) (rest : List Char) :
    Except Fault Number :=
  let x := Binary64.ofDecimal negative digits exponent
  if x.isFinite then .ok (.real x) else .error (.before .numberOutOfRange rest)

/-- The exponent of a number, after its mark: its value and the characters left. -/
def exponentPart (digitsZero : Bool) (cs : List Char) : Except Fault (Int × List Char) :=
  let (negative, body) :=
    match cs with
    | '+' :: rest => (false, rest)
    | '-' :: rest => (true, rest)
    | _ => (false, cs)
  match body with
  | [] => .error (.before .unfinishedValue [])
  | c :: _ =>
      if !c.isDigit then .error (.here .invalidNumber body)
      else
        let rest := body.dropWhile Char.isDigit
        let value : Int := Binary64.ofDigits (body.takeWhile Char.isDigit)
        match exponentOverflow 0 body with
        | some after =>
            if digitsZero || negative then .ok (if negative then -value else value, rest)
            else .error (.before .numberOutOfRange after)
        | none => .ok (if negative then -value else value, rest)

/-- The characters that an exponent leaves are no more than those it was read from. -/
theorem length_le_of_exponentPart {digitsZero : Bool} {cs : List Char} {result : Int × List Char}
    (h : exponentPart digitsZero cs = .ok result) : result.2.length ≤ cs.length := by
  have hbody : ∀ body : List Char, body.length ≤ cs.length →
      (body.dropWhile Char.isDigit).length ≤ cs.length := fun body hle =>
    Nat.le_trans (length_dropWhile_le Char.isDigit body) hle
  unfold exponentPart at h
  split at h
  rename_i negative body heq
  have hle : body.length ≤ cs.length := by
    split at heq <;> cases heq <;> simp
  split at h
  · exact absurd h (by simp)
  · split at h
    · exact absurd h (by simp)
    · simp only at h
      split at h
      · split at h
        · cases h
          exact hbody _ hle
        · exact absurd h (by simp)
      · cases h
        exact hbody _ hle

/-- Whole digits alone: an integer when it is in range and not minus zero. -/
def integerOrReal (negative : Bool) (whole rest : List Char) : Except Fault (Number × List Char) :=
  let n : Int := Binary64.ofDigits whole
  if negative then
    if n = 0 || -n < Number.leastInteger then (realNumber true n.natAbs 0 rest).map (·, rest)
    else .ok (.integer (-n), rest)
  else if Number.largestInteger < n then (realNumber false n.natAbs 0 rest).map (·, rest)
  else .ok (.integer n, rest)

/-- Pairing a number with the characters left changes nothing about these. -/
theorem rest_eq_of_map {x : Except Fault Number} {rest : List Char} {result : Number × List Char}
    (h : x.map (·, rest) = .ok result) : result.2 = rest := by
  cases x <;> cases h
  rfl

/-- Whole digits alone leave the characters after them. -/
theorem rest_eq_of_integerOrReal {negative : Bool} {whole rest : List Char}
    {result : Number × List Char} (h : integerOrReal negative whole rest = .ok result) :
    result.2 = rest := by
  unfold integerOrReal at h
  simp only at h
  split at h
  · split at h
    · exact rest_eq_of_map h
    · cases h
      rfl
  · split at h
    · exact rest_eq_of_map h
    · cases h
      rfl

/-- The number that digits denote, of which the given number of places are decimals, with an
exponent if one follows; and the characters left. -/
def scaledNumber (negative : Bool) (digits : List Char) (places : Nat) (cs : List Char) :
    Except Fault (Number × List Char) :=
  let n := Binary64.ofDigits digits
  match cs with
  | c :: after =>
      if c = 'e' || c = 'E' then
        match exponentPart (n == 0) after with
        | .error e => .error e
        | .ok (exponent, left) =>
            (realNumber negative n (exponent - places) left).map (·, left)
      else (realNumber negative n (-places) cs).map (·, cs)
  | [] => (realNumber negative n (-places) cs).map (·, cs)

/-- Digits and the exponent after them leave no more than the characters after the digits. -/
theorem length_le_of_scaledNumber {negative : Bool} {digits : List Char} {places : Nat}
    {cs : List Char} {result : Number × List Char}
    (h : scaledNumber negative digits places cs = .ok result) : result.2.length ≤ cs.length := by
  unfold scaledNumber at h
  simp only at h
  split at h
  · split at h
    · split at h
      · exact absurd h (by simp)
      · rename_i part hpart
        rw [rest_eq_of_map h]
        exact Nat.le_succ_of_le (length_le_of_exponentPart hpart)
    · exact Nat.le_of_eq (congrArg List.length (rest_eq_of_map h))
  · exact Nat.le_of_eq (congrArg List.length (rest_eq_of_map h))

/-- The part of a number after its whole digits: the value of the number and the characters left. -/
def numberTail (negative : Bool) (whole : List Char) (cs : List Char) :
    Except Fault (Number × List Char) :=
  match cs with
  | '.' :: after =>
      let fraction := after.takeWhile Char.isDigit
      let rest := after.dropWhile Char.isDigit
      if fraction.isEmpty then
        if rest.isEmpty then .error (.before .unfinishedValue rest)
        else .error (.here .invalidNumber rest)
      else scaledNumber negative (whole ++ fraction) fraction.length rest
  | c :: _ =>
      if c = 'e' || c = 'E' then scaledNumber negative whole 0 cs
      else integerOrReal negative whole cs
  | [] => integerOrReal negative whole cs

/-- The part of a number after its whole digits leaves no more than it was read from. -/
theorem length_le_of_numberTail {negative : Bool} {whole cs : List Char}
    {result : Number × List Char} (h : numberTail negative whole cs = .ok result) :
    result.2.length ≤ cs.length := by
  unfold numberTail at h
  split at h
  · rename_i after
    simp only at h
    split at h
    · split at h <;> exact absurd h (by simp)
    · exact Nat.le_trans (length_le_of_scaledNumber h)
        (Nat.le_succ_of_le (length_dropWhile_le Char.isDigit after))
  · split at h
    · exact length_le_of_scaledNumber h
    · exact Nat.le_of_eq (congrArg List.length (rest_eq_of_integerOrReal h))
  · exact Nat.le_of_eq (congrArg List.length (rest_eq_of_integerOrReal h))

/-- A number without its sign. -/
def unsignedNumber (negative : Bool) (cs : List Char) : Except Fault (Number × List Char) :=
  match cs with
  | [] => .error (.before .unfinishedValue [])
  | '0' :: rest =>
      match rest with
      | d :: _ =>
          if d.isDigit then .error (.here .invalidNumber rest) else numberTail negative ['0'] rest
      | [] => numberTail negative ['0'] rest
  | c :: rest =>
      if c.isDigit then
        numberTail negative (c :: rest.takeWhile Char.isDigit) (rest.dropWhile Char.isDigit)
      else .error (.here .invalidNumber cs)

/-- A number leaves fewer characters than it was read from. -/
theorem length_lt_of_unsignedNumber {negative : Bool} {cs : List Char}
    {result : Number × List Char} (h : unsignedNumber negative cs = .ok result) :
    result.2.length < cs.length := by
  unfold unsignedNumber at h
  split at h
  · exact absurd h (by simp)
  · split at h
    · split at h
      · exact absurd h (by simp)
      · exact Nat.lt_succ_of_le (length_le_of_numberTail h)
    · exact Nat.lt_succ_of_le (length_le_of_numberTail h)
  · rename_i c rest _
    split at h
    · exact Nat.lt_succ_of_le (Nat.le_trans (length_le_of_numberTail h)
        (length_dropWhile_le Char.isDigit rest))
    · exact absurd h (by simp)

/-! ## Strings -/

/-- The value of a hexadecimal digit. -/
def hexDigit (c : Char) : Option Nat :=
  if c.isDigit then some (c.toNat - '0'.toNat)
  else if 'a' ≤ c && c ≤ 'f' then some (c.toNat - 'a'.toNat + 10)
  else if 'A' ≤ c && c ≤ 'F' then some (c.toNat - 'A'.toNat + 10)
  else none

/-- The value of four hexadecimal digits. -/
def hexWord (a b c d : Char) : Option Nat := do
  let a ← hexDigit a
  let b ← hexDigit b
  let c ← hexDigit c
  let d ← hexDigit d
  return 4096 * a + 256 * b + 16 * c + d

/-- Four hexadecimal digits at the front.  Bytes other than such digits are covered by the fault up
to the place where the digits would have ended. -/
def fourHexDigits : (cs : List Char) → Step cs Nat
  | cs@(a :: b :: c :: d :: rest) =>
      match hexWord a b c d with
      | some n => .ok (n, ⟨rest, by simp; omega⟩)
      | none =>
          if byteLength cs < 4 then .error (.before .unfinishedString [])
          else .error ⟨.invalidEscape, cs, 4⟩
  | cs =>
      if byteLength cs < 4 then .error (.before .unfinishedString [])
      else .error ⟨.invalidEscape, cs, 4⟩

def isLeadingSurrogate (n : Nat) : Bool := 0xD800 ≤ n && n ≤ 0xDBFF

def isTrailingSurrogate (n : Nat) : Bool := 0xDC00 ≤ n && n ≤ 0xDFFF

/-- The character of an escape, after its backslash and `u`: four hexadecimal digits, or a pair of
surrogates in two escapes. -/
def unicodeEscape (cs : List Char) : Step cs Char :=
  match fourHexDigits cs with
  | .error e => .error e
  | .ok (n, rest) =>
      if isTrailingSurrogate n then .error (.before .loneSurrogate rest.1)
      else if isLeadingSurrogate n then
        match h : rest.1 with
        | [] => .error (.before .unfinishedString [])
        | '\\' :: 'u' :: after =>
            match fourHexDigits after with
            | .error e => .error e
            | .ok (low, left) =>
                if isTrailingSurrogate low then
                  .ok (Char.ofNat (0x10000 + 0x400 * (n - 0xD800) + (low - 0xDC00)),
                    ⟨left.1, by
                      have h1 := rest.2
                      have h2 := left.2
                      rw [h] at h1
                      simp only [List.length_cons] at h1
                      omega⟩)
                else .error (.before .loneSurrogate left.1)
        | '\\' :: after =>
            if after.isEmpty then .error (.before .unfinishedString [])
            else .error (.here .unfinishedSurrogates after)
        | other => .error (.here .unfinishedSurrogates other)
      else .ok (Char.ofNat n, rest)

/-- The character that a one-letter escape stands for. -/
def simpleEscape (c : Char) : Option Char :=
  match c with
  | '"' => some '"'
  | '\\' => some '\\'
  | '/' => some '/'
  | 'b' => some '\x08'
  | 'f' => some '\x0c'
  | 'n' => some '\n'
  | 'r' => some '\r'
  | 't' => some '\t'
  | _ => none

/-- The characters of a string, after its opening quote. -/
def stringBody : (cs : List Char) → Step cs (List Char)
  | [] => .error (.before .unfinishedString [])
  | '"' :: rest => .ok ([], ⟨rest, by simp⟩)
  | '\\' :: [] => .error (.before .unfinishedString [])
  | '\\' :: 'u' :: rest =>
      match unicodeEscape rest with
      | .error e => .error e
      | .ok (c, ⟨left, hleft⟩) =>
          match stringBody left with
          | .error e => .error e
          | .ok (cs, r) => .ok (c :: cs, ⟨r.1, by have := r.2; simp only [List.length_cons]; omega⟩)
  | '\\' :: e :: rest =>
      match simpleEscape e with
      | none => .error (.here .invalidEscape (e :: rest))
      | some c =>
          match stringBody rest with
          | .error e => .error e
          | .ok (cs, r) => .ok (c :: cs, r.after.after)
  | c :: rest =>
      if c.toNat < 0x20 then .error (.here .controlCharacter (c :: rest))
      else
        match stringBody rest with
        | .error e => .error e
        | .ok (cs, r) => .ok (c :: cs, r.after)
termination_by cs => cs.length
decreasing_by all_goals simp_wf <;> omega

/-! ## Lists and objects -/

/-- The items of a list up to its closing bracket, where `first` tells that none was read yet. -/
def listItems {α : Type} (item : (cs : List Char) → Step cs α) (first : Bool) (cs : List Char) :
    Step cs (List α) :=
  match h : skipSpace cs with
  | [] => .error (.before .unfinishedList [])
  | c :: rest =>
      have hrest : rest.length < cs.length := by
        have := length_skipSpace_le cs
        rw [h, List.length_cons] at this
        omega
      if c = ']' then .ok ([], ⟨rest, hrest⟩)
      else if first then
        match item (c :: rest) with
        | .error e => .error e
        | .ok (a, ⟨left, hleft⟩) =>
            have : left.length < cs.length := by
              simp only [List.length_cons] at hleft
              omega
            match listItems item false left with
            | .error e => .error e
            | .ok (as, r) => .ok (a :: as, r.within (Nat.le_of_lt this))
      else if c = ',' then
        match h' : skipSpace rest with
        | [] => .error (.before .unfinishedValue [])
        | d :: more =>
            have hmore : (d :: more).length < cs.length := by
              have := length_skipSpace_le rest
              rw [h'] at this
              omega
            if d = ']' then .error (.here .trailingComma (d :: more))
            else
              match item (d :: more) with
              | .error e => .error e
              | .ok (a, ⟨left, hleft⟩) =>
                  have : left.length < cs.length := by omega
                  match listItems item false left with
                  | .error e => .error e
                  | .ok (as, r) => .ok (a :: as, r.within (Nat.le_of_lt this))
      else .error (.here .expectedListEnd (c :: rest))
termination_by cs.length

/-- A key, its colon and its value, after the opening quote of the key. -/
def keyedValue {α : Type} (item : (cs : List Char) → Step cs α) (cs : List Char) :
    Step cs (String × α) :=
  match stringBody cs with
  | .error e => .error e
  | .ok (key, ⟨afterKey, hkey⟩) =>
      match h : skipSpace afterKey with
      | [] => .error (.before .unfinishedObject [])
      | c :: rest =>
          if c = ':' then
            match item rest with
            | .error e => .error e
            | .ok (a, ⟨left, hleft⟩) =>
                .ok ((String.ofList key, a), ⟨left, by
                  have := length_skipSpace_le afterKey
                  rw [h] at this
                  simp only [List.length_cons] at this
                  omega⟩)
          else .error (.here .expectedColon (c :: rest))

/-- The entries of an object up to its closing brace, where `first` tells that none was read yet. -/
def objectEntries {α : Type} (item : (cs : List Char) → Step cs α) (first : Bool)
    (cs : List Char) : Step cs (List (String × α)) :=
  match h : skipSpace cs with
  | [] => .error (.before .unfinishedObject [])
  | c :: rest =>
      have hrest : rest.length < cs.length := by
        have := length_skipSpace_le cs
        rw [h, List.length_cons] at this
        omega
      if c = '}' then .ok ([], ⟨rest, hrest⟩)
      else if first then
        if c = '"' then
          match keyedValue item rest with
          | .error e => .error e
          | .ok (a, ⟨left, hleft⟩) =>
              have : left.length < cs.length := by omega
              match objectEntries item false left with
              | .error e => .error e
              | .ok (as, r) => .ok (a :: as, r.within (Nat.le_of_lt this))
        else .error (.here .keyNotString (c :: rest))
      else if c = ',' then
        match h' : skipSpace rest with
        | [] => .error (.before .unfinishedValue [])
        | d :: more =>
            have hmore : more.length < cs.length := by
              have := length_skipSpace_le rest
              rw [h'] at this
              simp only [List.length_cons] at this
              omega
            if d = '"' then
              match keyedValue item more with
              | .error e => .error e
              | .ok (a, ⟨left, hleft⟩) =>
                  have : left.length < cs.length := by omega
                  match objectEntries item false left with
                  | .error e => .error e
                  | .ok (as, r) => .ok (a :: as, r.within (Nat.le_of_lt this))
            else if d = '}' then .error (.here .trailingComma (d :: more))
            else .error (.here .keyNotString (d :: more))
      else .error (.here .expectedObjectEnd (c :: rest))
termination_by cs.length

/-! ## Values -/

/-- A word that must follow, character by character. -/
def literalTail (value : Json) :
    (word cs : List Char) → Except Fault (Json × { rest : List Char // rest.length ≤ cs.length })
  | [], cs => .ok (value, ⟨cs, Nat.le_refl _⟩)
  | _ :: _, [] => .error (.before .unfinishedValue [])
  | w :: word, c :: cs =>
      if w = c then
        match literalTail value word cs with
        | .error e => .error e
        | .ok (v, r) => .ok (v, ⟨r.1, Nat.le_succ_of_le r.2⟩)
      else .error (.here .expectedLiteral (c :: cs))

/-- A number as a step of the reader. -/
def numberStep (negative : Bool) (cs : List Char) : Step cs Json :=
  match h : unsignedNumber negative cs with
  | .error e => .error e
  | .ok (n, rest) => .ok (.number n, ⟨rest, length_lt_of_unsignedNumber h⟩)

/-- A value in which lists and objects are nested at most as deep as the given number. -/
def value : (depth : Nat) → (cs : List Char) → Step cs Json
  | depth, cs =>
      match h : skipSpace cs with
      | [] => .error (.before .unfinishedValue [])
      | c :: rest =>
          have hrest : rest.length < cs.length := by
            have := length_skipSpace_le cs
            rw [h, List.length_cons] at this
            omega
          let literal (word : String) (v : Json) : Step cs Json :=
            match literalTail v word.toList rest with
            | .error e => .error e
            | .ok (v, r) => .ok (v, ⟨r.1, Nat.lt_of_le_of_lt r.2 hrest⟩)
          if c = 'n' then literal "ull" .null
          else if c = 't' then literal "rue" (.bool true)
          else if c = 'f' then literal "alse" (.bool false)
          else if c = '-' then
            match numberStep true rest with
            | .error e => .error e
            | .ok (v, r) => .ok (v, r.within (Nat.le_of_lt hrest))
          else if c.isDigit then
            match numberStep false (c :: rest) with
            | .error e => .error e
            | .ok (v, r) => .ok (v, r.within (by rw [List.length_cons]; omega))
          else if c = '"' then
            match stringBody rest with
            | .error e => .error e
            | .ok (s, r) => .ok (.text (String.ofList s), r.within (Nat.le_of_lt hrest))
          else if c = '[' then
            match depth with
            | 0 => .error (.here .nestedTooDeep (c :: rest))
            | depth + 1 =>
                match listItems (value depth) true rest with
                | .error e => .error e
                | .ok (items, r) => .ok (.array items, r.within (Nat.le_of_lt hrest))
          else if c = '{' then
            match depth with
            | 0 => .error (.here .nestedTooDeep (c :: rest))
            | depth + 1 =>
                match objectEntries (value depth) true rest with
                | .error e => .error e
                | .ok (entries, r) => .ok (.ofEntries entries, r.within (Nat.le_of_lt hrest))
          else .error (.here .expectedValue (c :: rest))
termination_by structural depth => depth

/-- The deepest nesting of lists and objects that is read. -/
def deepest : Nat := 127

/-- Reads a text as one JSON value. -/
def parse (source : String) : Except SyntaxError Json :=
  let cs := source.toList
  match value deepest cs with
  | .error e => .error (e.locate cs)
  | .ok (v, rest) =>
      match skipSpace rest.1 with
      | [] => .ok v
      | c :: more => .error ((Fault.here .trailingCharacters (c :: more)).locate cs)

end FormLogic.Json
