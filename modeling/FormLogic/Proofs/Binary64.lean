import FormLogic.Binary64
import Mathlib.Order.Monotone.Basic
import Mathlib.Tactic.Ring

/-!
# Order of double-precision numbers, and integers among them

Comparison of numbers is comparison of their signed ranks, and so of their values: a number is equal
to another one exactly if none of them is less, and the order turns round with the two.

An integer is read as the nearest number.  Integers of at most 53 binary digits, with zeroes after
them, keep their value; all others are rounded to one of these, so that integers are compared as
what they are rounded to.  Rounding never turns an order round, but it makes integers equal that are
not, where both lie beyond the range in which all integers keep their value.
-/

namespace FormLogic.Binary64

variable {x y z : Binary64}

/-! ### Equality and order -/

theorem same_iff :
    x.same y = true ↔
      x.isNotNumber = false ∧ y.isNotNumber = false ∧ x.ordinal = y.ordinal := by
  simp [same, and_assoc]

theorem same_self (h : x.isNotNumber = false) : x.same x = true :=
  same_iff.mpr ⟨h, h, rfl⟩

theorem same_comm (x y : Binary64) : x.same y = y.same x := by
  rw [Bool.eq_iff_iff, same_iff, same_iff, and_left_comm, eq_comm (a := x.ordinal)]

theorem same_trans (hxy : x.same y = true) (hyz : y.same z = true) : x.same z = true := by
  obtain ⟨hx, -, hxy⟩ := same_iff.mp hxy
  obtain ⟨-, hz, hyz⟩ := same_iff.mp hyz
  exact same_iff.mpr ⟨hx, hz, hxy.trans hyz⟩

theorem compare?_swap (x y : Binary64) : y.compare? x = (x.compare? y).map Ordering.swap := by
  rw [compare?, compare?, Bool.or_comm]
  split
  · rfl
  · rw [Option.map_some, Int.compare_swap]

theorem compare?_eq_some_eq_iff : x.compare? y = some .eq ↔ x.same y = true := by
  rw [same_iff, compare?]
  cases x.isNotNumber <;> cases y.isNotNumber <;> simp

/-! ### Numbers that stand for a number -/

theorem nearestRank_le_infinityRank (num den : Nat) : nearestRank num den ≤ infinityRank := by
  unfold nearestRank
  split
  · exact Nat.zero_le _
  · exact Nat.min_le_right _ _

theorem isNotNumber_ofInt (n : Int) : (ofInt n).isNotNumber = false := by
  rw [ofInt, ofRatio, isNotNumber, decide_eq_false_iff_not, Nat.not_lt]
  exact nearestRank_le_infinityRank n.natAbs 1

theorem isNotNumber_of_isFinite (h : x.isFinite = true) : x.isNotNumber = false := by
  simp only [isFinite, decide_eq_true_eq] at h
  simp only [isNotNumber, decide_eq_false_iff_not]
  omega

/-! ### Values -/

/-- The magnitude of a finite rank, counted in the least one. -/
def magnitude (rank : Nat) : Nat := significand rank * 2 ^ scale rank

/-- The value of a finite number, counted in the least magnitude. -/
def value (x : Binary64) : Int := if x.negative then -(magnitude x.rank : Int) else magnitude x.rank

theorem binade_pos : 0 < binade := Nat.pow_pos (Nat.two_pos)

/-- The ranks of a binade count its magnitudes in steps of equal size, and the one after them is the
first of the next binade. -/
theorem magnitude_add (s : Nat) {c : Nat} (hlow : binade ≤ c) (hhigh : c ≤ 2 * binade) :
    magnitude (s * binade + c) = c * 2 ^ s := by
  have hscale (q : Nat) {r : Nat} (hr : r < binade) : scale ((q + 1) * binade + r) = q := by
    rw [scale, Nat.mul_comm, Nat.mul_add_div binade_pos, Nat.div_eq_of_lt hr]
    rfl
  rcases Nat.lt_or_ge c (2 * binade) with hlt | hge
  · have hrank : s * binade + c = (s + 1) * binade + (c - binade) := by
      rw [Nat.succ_mul]
      omega
    rw [magnitude, significand, hrank, hscale s (by omega), Nat.succ_mul]
    congr 1
    omega
  · obtain rfl : c = 2 * binade := Nat.le_antisymm hhigh hge
    have hrank : s * binade + 2 * binade = (s + 1 + 1) * binade + 0 := by ring
    rw [magnitude, significand, hrank, hscale (s + 1) binade_pos, pow_succ, Nat.succ_mul,
      Nat.add_zero, Nat.add_sub_cancel_left]
    ring

theorem magnitude_of_le {rank : Nat} (h : rank ≤ 2 * binade) : magnitude rank = rank := by
  rcases Nat.lt_or_ge rank binade with hlt | hge
  · simp [magnitude, significand, scale, Nat.div_eq_of_lt hlt]
  · simpa using magnitude_add 0 hge h

theorem exists_binade {rank : Nat} (h : binade ≤ rank) :
    ∃ s c, rank = s * binade + c ∧ binade ≤ c ∧ c < 2 * binade := by
  have hrest := Nat.mod_lt rank binade_pos
  have hrank := Nat.div_add_mod rank binade
  have hpos : 0 < rank / binade := Nat.div_pos h binade_pos
  refine ⟨rank / binade - 1, binade + rank % binade, ?_, by omega, by omega⟩
  rw [Nat.sub_mul, Nat.mul_comm]
  have hle : 1 * binade ≤ binade * (rank / binade) := by
    rw [Nat.one_mul]
    exact Nat.le_mul_of_pos_right binade hpos
  omega

/-- A larger rank is that of a larger magnitude. -/
theorem magnitude_strictMono : StrictMono magnitude := by
  apply strictMono_nat_of_lt_succ
  intro rank
  rcases Nat.lt_or_ge rank binade with hlt | hge
  · rw [magnitude_of_le (by omega), magnitude_of_le (by omega)]
    exact rank.lt_succ_self
  · obtain ⟨s, c, rfl, hlow, hhigh⟩ := exists_binade hge
    rw [Nat.add_assoc, magnitude_add s hlow (by omega), magnitude_add s (by omega) (by omega)]
    exact Nat.mul_lt_mul_of_pos_right c.lt_succ_self (Nat.two_pow_pos s)

theorem magnitude_zero : magnitude 0 = 0 := magnitude_of_le (Nat.zero_le _)

/-- Numbers are ordered as their values are. -/
theorem value_lt_iff : x.value < y.value ↔ x.ordinal < y.ordinal := by
  have hxy := magnitude_strictMono.lt_iff_lt (a := x.rank) (b := y.rank)
  have hyx := magnitude_strictMono.lt_iff_lt (a := y.rank) (b := x.rank)
  have hx := magnitude_strictMono.lt_iff_lt (a := 0) (b := x.rank)
  have hy := magnitude_strictMono.lt_iff_lt (a := 0) (b := y.rank)
  rw [magnitude_zero] at hx hy
  unfold value ordinal
  cases x.negative <;> cases y.negative <;> simp only [reduceIte, Bool.false_eq_true] <;> omega

/-- The order of two pairs of integers is the same if the same is less. -/
theorem compare_congr {a b c d : Int} (hlt : a < b ↔ c < d) (hgt : b < a ↔ d < c) :
    compare a b = compare c d := by
  rcases Int.lt_trichotomy a b with h | h | h
  · rw [Int.compare_eq_lt.mpr h, Int.compare_eq_lt.mpr (hlt.mp h)]
  · have hcd : c = d := by omega
    rw [Int.compare_eq_eq.mpr h, Int.compare_eq_eq.mpr hcd]
  · rw [Int.compare_eq_gt.mpr h, Int.compare_eq_gt.mpr (hgt.mp h)]

theorem compare_ordinal (x y : Binary64) :
    compare x.ordinal y.ordinal = compare x.value y.value :=
  compare_congr value_lt_iff.symm value_lt_iff.symm

/-! ### Rounding of integers -/

/-- Rounding is to one of the two neighbouring multiples, and not past the middle between them. -/
theorem roundHalfEven_cases (num den : Nat) :
    (roundHalfEven num den = num / den ∧ 2 * (num % den) ≤ den) ∨
      (roundHalfEven num den = num / den + 1 ∧ den ≤ 2 * (num % den)) := by
  unfold roundHalfEven
  dsimp only
  split
  · exact Or.inl ⟨rfl, by omega⟩
  split
  · exact Or.inr ⟨rfl, by omega⟩
  split
  · exact Or.inl ⟨rfl, by omega⟩
  · exact Or.inr ⟨rfl, by omega⟩

/-- No multiple is nearer than the one that is rounded to. -/
theorem roundHalfEven_nearest (num : Nat) {den : Nat} (hden : 0 < den) (k : Nat) :
    ((num : Int) - (roundHalfEven num den * den : Nat)).natAbs ≤
      ((num : Int) - (k * den : Nat)).natAbs := by
  have hnum := Nat.div_add_mod' num den
  have hrest := Nat.mod_lt num hden
  have hside : k * den ≤ num / den * den ∨ num / den * den + den ≤ k * den := by
    rcases Nat.lt_or_ge (num / den) k with h | h
    · right
      rw [← Nat.succ_mul]
      exact Nat.mul_le_mul_right den h
    · exact Or.inl (Nat.mul_le_mul_right den h)
  rcases roundHalfEven_cases num den with ⟨heq, hhalf⟩ | ⟨heq, hhalf⟩
  · rw [heq]
    omega
  · rw [heq, Nat.succ_mul]
    omega

theorem roundHalfEven_one (num : Nat) : roundHalfEven num 1 = num := by
  simp [roundHalfEven, Nat.mod_one]

theorem binaryExponent_one {n : Nat} (hn : n ≠ 0) : binaryExponent n 1 = n.log2 := by
  have hone : Nat.log2 1 = 0 := rfl
  have hguess : ¬ ((n.log2 : Int) < 0) := by omega
  simp only [binaryExponent, hone, Int.ofNat_zero, Int.sub_zero, if_neg hguess]
  rw [if_pos]
  simpa using Nat.log2_self_le hn

/-! ### The digits of a natural number -/

/-- The step between neighbouring magnitudes at a natural number, where it is not less than one. -/
def stepAt (n : Nat) : Nat := 2 ^ (n.log2 - 52)

/-- The first 53 binary digits of a natural number, rounded to the nearest or else to an even last
digit. -/
def digits (n : Nat) : Nat :=
  if n.log2 ≤ 52 then n * 2 ^ (52 - n.log2) else roundHalfEven n (stepAt n)

/-- The natural number that is nearest to a given one among those that are the first 53 binary
digits with zeroes after them. -/
def roundNat (n : Nat) : Nat := if n.log2 ≤ 52 then n else digits n * stepAt n

/-- One, counted in the least magnitude. -/
def unit : Nat := 2 ^ 1074

theorem unit_pos : 0 < unit := by
  rw [unit]
  apply Nat.two_pow_pos

theorem ne_zero_of_log2 {n : Nat} (h : ¬ n.log2 ≤ 52) : n ≠ 0 := by
  rintro rfl
  exact h (by decide)

/-- The least number with as many binary digits is a multiple of the step. -/
theorem two_pow_log2 {n : Nat} (h : ¬ n.log2 ≤ 52) : 2 ^ n.log2 = binade * stepAt n := by
  rw [stepAt, binade, Nat.pow_eq, ← pow_add]
  congr 1
  omega

theorem digits_bounds {n : Nat} (hn : n ≠ 0) : binade ≤ digits n ∧ digits n ≤ 2 * binade := by
  have hlow : 2 ^ n.log2 ≤ n := Nat.log2_self_le hn
  have hhigh : n < 2 ^ n.log2 * 2 := pow_succ 2 n.log2 ▸ Nat.lt_log2_self
  rw [digits]
  split
  · have hbinade : 2 ^ n.log2 * 2 ^ (52 - n.log2) = binade := by
      rw [← pow_add, Nat.add_sub_cancel' ‹_›]
      rfl
    rw [← hbinade]
    refine ⟨Nat.mul_le_mul_right _ hlow, ?_⟩
    rw [← Nat.mul_assoc, Nat.mul_comm 2]
    exact Nat.mul_le_mul_right _ hhigh.le
  · have hbinade : 2 ^ n.log2 = binade * stepAt n := two_pow_log2 ‹_›
    have hpos : 0 < stepAt n := Nat.two_pow_pos _
    have hquotient : binade ≤ n / stepAt n := by
      rw [Nat.le_div_iff_mul_le hpos, ← hbinade]
      exact hlow
    have hbelow : n / stepAt n < 2 * binade := by
      rw [Nat.div_lt_iff_lt_mul hpos, Nat.mul_assoc, ← hbinade, Nat.mul_comm]
      exact hhigh
    rcases roundHalfEven_cases n (stepAt n) with ⟨heq, -⟩ | ⟨heq, -⟩ <;> omega

theorem digits_mul (n : Nat) : digits n * 2 ^ (n.log2 + 1022) = roundNat n * unit := by
  rw [roundNat, unit]
  split
  · have hexponent : 52 - n.log2 + (n.log2 + 1022) = 1074 := by omega
    rw [digits, if_pos ‹_›, Nat.mul_assoc, ← pow_add, hexponent]
  · have hexponent : n.log2 - 52 + 1074 = n.log2 + 1022 := by omega
    rw [Nat.mul_assoc, stepAt, ← pow_add, hexponent]

/-- The rank of a natural number is that of its digits in its binade. -/
theorem nearestRank_one {n : Nat} (hn : n ≠ 0) :
    nearestRank n 1 = min ((n.log2 + 1022) * binade + digits n) infinityRank := by
  have hleft : 1074 - (n.log2 + 1022) = 52 - n.log2 := by omega
  have hright : n.log2 + 1022 - 1074 = n.log2 - 52 := Nat.add_sub_add_right n.log2 1022 52
  have hsteps : (binaryExponent n 1 + 1022).toNat = n.log2 + 1022 := by
    rw [binaryExponent_one hn]
    omega
  rw [nearestRank, if_neg hn, digits, stepAt]
  simp only [hsteps, hleft, hright, roundHalfEven_one, Nat.one_mul, Nat.pow_eq]
  by_cases hlog : n.log2 ≤ 52
  · rw [if_pos hlog, if_pos (by omega)]
  · rw [if_neg hlog, if_neg (by omega)]

theorem magnitude_nearestRank {n : Nat} (hsize : n.log2 ≤ 1023) :
    magnitude (nearestRank n 1) = roundNat n * unit := by
  by_cases hn : n = 0
  · subst hn
    rw [nearestRank, if_pos rfl, magnitude_zero]
    simp [roundNat]
  · obtain ⟨hlow, hhigh⟩ := digits_bounds hn
    have hfinite : (n.log2 + 1022) * binade + digits n ≤ infinityRank := by
      have hbinades : (n.log2 + 1022) * binade ≤ 2045 * binade :=
        Nat.mul_le_mul_right binade (by omega)
      rw [infinityRank]
      omega
    rw [nearestRank_one hn, Nat.min_eq_left hfinite, magnitude_add _ hlow hhigh, digits_mul]

/-- The integer nearest to a given one among those of at most 53 binary digits with zeroes after
them. -/
def roundInt (n : Int) : Int :=
  if n < 0 then -(roundNat n.natAbs : Int) else roundNat n.natAbs

/-- The number that an integer is read as has the value that the integer is rounded to. -/
theorem value_ofInt {n : Int} (hsize : n.natAbs.log2 ≤ 1023) :
    (ofInt n).value = roundInt n * unit := by
  rw [ofInt, ofRatio, value, roundInt]
  simp only [magnitude_nearestRank hsize, decide_eq_true_eq, Int.natCast_mul]
  split
  · rw [Int.neg_mul]
  · rfl

/-! ### Integers that keep their value -/

/-- The natural number has at most 53 binary digits, with zeroes after them. -/
def Precise (n : Nat) : Prop := ∃ c k, n = c * 2 ^ k ∧ c ≤ 2 * binade

theorem precise_of_le {n : Nat} (h : n ≤ 2 * binade) : Precise n :=
  ⟨n, 0, (Nat.mul_one n).symm, h⟩

theorem precise_roundNat (n : Nat) : Precise (roundNat n) := by
  rw [roundNat]
  split
  · rename_i hlog
    apply precise_of_le
    rcases Nat.eq_zero_or_pos n with rfl | hpos
    · exact Nat.zero_le _
    · have hlt : n < 2 ^ 53 := (Nat.log2_lt (by omega)).mp (by omega)
      exact hlt.le
  · rename_i hlog
    exact ⟨digits n, n.log2 - 52, rfl, (digits_bounds (ne_zero_of_log2 hlog)).2⟩

/-- No other such number is nearer. -/
theorem roundNat_nearest (n : Nat) {k : Nat} (hk : Precise k) :
    ((n : Int) - roundNat n).natAbs ≤ ((n : Int) - k).natAbs := by
  rw [roundNat]
  split
  · simp
  · rename_i hlog
    rw [digits, if_neg hlog]
    have hpos : 0 < stepAt n := Nat.two_pow_pos _
    have hnearest := roundHalfEven_nearest n hpos
    obtain ⟨c, j, rfl, hc⟩ := hk
    rcases Nat.lt_or_ge j (n.log2 - 52) with hlt | hge
    · -- The number is not above the least one of the binade, which is a multiple of the step.
      have hlow : binade * stepAt n ≤ n := by
        rw [← two_pow_log2 hlog]
        exact Nat.log2_self_le (ne_zero_of_log2 hlog)
      have hbelow : c * 2 ^ j ≤ binade * stepAt n :=
        calc c * 2 ^ j ≤ 2 * binade * 2 ^ j := Nat.mul_le_mul_right _ hc
          _ = binade * 2 ^ (j + 1) := by
              rw [pow_succ, Nat.mul_comm 2, Nat.mul_assoc, Nat.mul_comm 2]
          _ ≤ binade * stepAt n := Nat.mul_le_mul_left _ (Nat.pow_le_pow_right Nat.two_pos hlt)
      have hleast := hnearest binade
      omega
    · -- The number is a multiple of the step.
      have hmultiple : c * 2 ^ j = c * 2 ^ (j - (n.log2 - 52)) * stepAt n := by
        rw [stepAt, Nat.mul_assoc, ← pow_add, Nat.sub_add_cancel hge]
      rw [hmultiple]
      exact hnearest _

theorem natAbs_roundInt (n : Int) : (roundInt n).natAbs = roundNat n.natAbs := by
  rw [roundInt]
  split <;> simp

theorem precise_roundInt (n : Int) : Precise (roundInt n).natAbs := by
  rw [natAbs_roundInt]
  exact precise_roundNat n.natAbs

theorem roundInt_nearest (n : Int) {k : Int} (hk : Precise k.natAbs) :
    (n - roundInt n).natAbs ≤ (n - k).natAbs := by
  have hnearest := roundNat_nearest n.natAbs hk
  rw [roundInt]
  split <;> omega

theorem roundInt_eq_self {n : Int} (h : Precise n.natAbs) : roundInt n = n := by
  have hnearest := roundInt_nearest n h
  omega

theorem roundInt_mono {m n : Int} (h : m ≤ n) : roundInt m ≤ roundInt n := by
  have hm := roundInt_nearest m (precise_roundInt n)
  have hn := roundInt_nearest n (precise_roundInt m)
  rcases Int.lt_or_eq_of_le h with hlt | rfl
  · omega
  · exact Int.le_refl _

theorem lt_of_roundInt_lt {m n : Int} (h : roundInt m < roundInt n) : m < n := by
  by_contra hle
  exact absurd (roundInt_mono (Int.not_lt.mp hle)) (Int.not_le.mpr h)

/-- Rounding keeps two integers in order unless it makes them equal. -/
theorem roundInt_lt_iff {m n : Int} (h : roundInt m = roundInt n → m = n) :
    roundInt m < roundInt n ↔ m < n := by
  refine ⟨lt_of_roundInt_lt, ?_⟩
  intro hlt
  have hmono : roundInt m ≤ roundInt n := roundInt_mono hlt.le
  have hne : roundInt m ≠ roundInt n := fun heq => hlt.ne (h heq)
  omega

theorem compare_roundInt_eq_iff {m n : Int} :
    compare (roundInt m) (roundInt n) = compare m n ↔ (roundInt m = roundInt n → m = n) := by
  constructor
  · intro h heq
    rwa [Int.compare_eq_eq.mpr heq, eq_comm, Int.compare_eq_eq] at h
  · intro h
    exact compare_congr (roundInt_lt_iff h) (roundInt_lt_iff fun heq => (h heq.symm).symm)

/-- An integer that lies where all integers keep their value is told from all others, as its
neighbours lie there, too, or at the end of that range. -/
theorem eq_of_roundInt_eq {m n : Int} (h : m.natAbs < 2 * binade) (heq : roundInt m = roundInt n) :
    m = n := by
  have hself : roundInt m = m := roundInt_eq_self (precise_of_le h.le)
  have hnext : roundInt (m + 1) = m + 1 := roundInt_eq_self (precise_of_le (by omega))
  have hprevious : roundInt (m - 1) = m - 1 := roundInt_eq_self (precise_of_le (by omega))
  rcases Int.lt_trichotomy m n with hlt | rfl | hgt
  · have hmono : roundInt (m + 1) ≤ roundInt n := roundInt_mono hlt
    omega
  · rfl
  · have hmono : roundInt n ≤ roundInt (m - 1) := roundInt_mono (Int.le_sub_one_of_lt hgt)
    omega

/-! ### Comparison of integers -/

theorem compare_value_ofInt {m n : Int} (hm : m.natAbs.log2 ≤ 1023) (hn : n.natAbs.log2 ≤ 1023) :
    compare (ofInt m).value (ofInt n).value = compare (roundInt m) (roundInt n) := by
  have hunit : (0 : Int) < unit := Int.natCast_pos.mpr unit_pos
  rw [value_ofInt hm, value_ofInt hn]
  exact compare_congr (Int.mul_lt_mul_right hunit) (Int.mul_lt_mul_right hunit)

/-- Integers are compared as what they are rounded to. -/
theorem compare?_ofInt {m n : Int} (hm : m.natAbs.log2 ≤ 1023) (hn : n.natAbs.log2 ≤ 1023) :
    (ofInt m).compare? (ofInt n) = some (compare (roundInt m) (roundInt n)) := by
  rw [compare?, isNotNumber_ofInt, isNotNumber_ofInt, compare_ordinal, compare_value_ofInt hm hn]
  rfl

theorem same_ofInt_iff {m n : Int} (hm : m.natAbs.log2 ≤ 1023) (hn : n.natAbs.log2 ≤ 1023) :
    (ofInt m).same (ofInt n) = true ↔ roundInt m = roundInt n := by
  rw [← compare?_eq_some_eq_iff, compare?_ofInt hm hn, Option.some.injEq, Int.compare_eq_eq]

end FormLogic.Binary64
