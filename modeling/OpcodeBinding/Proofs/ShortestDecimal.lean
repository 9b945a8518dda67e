import Mathlib.Tactic.Linarith
import OpcodeBinding.Proofs.DecimalText

/-! The decimal that is picked for a rounded number rounds to it, and no decimal with fewer digits
does. -/
namespace OpcodeBinding.Decimal

open Text (decimal)

section Value

theorem value_mono {m n : Nat} (le : m ≤ n) (exponent : Int) :
    value ⟨m, exponent⟩ ≤ value ⟨n, exponent⟩ :=
  mul_le_mul_of_nonneg_right (Nat.cast_le.mpr le) (by positivity)

theorem value_mul_pow (n k : Nat) (exponent : Int) :
    value ⟨n * 10 ^ k, exponent⟩ = value ⟨n, k + exponent⟩ := by
  rw [value, value, zpow_add₀ (by norm_num), zpow_natCast]
  push_cast
  ring

theorem value_pow (k : Nat) (exponent : Int) : value ⟨10 ^ k, exponent⟩ = 10 ^ (k + exponent) := by
  rw [value, zpow_add₀ (by norm_num), zpow_natCast]
  push_cast
  rfl

end Value

section Digits

theorem digitCount_le {n k : Nat} : digitCount n ≤ k ↔ n < 10 ^ k := by
  induction k generalizing n with
  | zero =>
    rw [digitCount]
    split <;> simp_all
  | succ k ih =>
    rw [digitCount]
    split
    · simp_all
    · rw [Nat.add_le_add_iff_right, ih, Nat.div_lt_iff_lt_mul (by decide), pow_succ]

theorem length_decimal (n : Nat) (positive : 0 < n) : (decimal n).length = digitCount n := by
  induction n using Nat.strong_induction_on with
  | _ n ih =>
    rw [decimal, digitCount, if_neg (Nat.ne_of_gt positive)]
    split
    · rw [Nat.div_eq_of_lt ‹_›, digitCount, if_pos rfl, List.length_singleton]
    · simp [ih (n / 10) (by omega) (by omega)]

variable {d : Decimal} {k : Nat}

/-- A decimal has a form with no more digits than are significant. -/
theorem exists_lt_pow_significant (positive : 0 < d.digits) :
    ∃ n k, n < 10 ^ d.significant.length ∧ d.digits = n * 10 ^ k := by
  obtain ⟨n, k, whole, digits, significant⟩ := exists_significant positive
  have nonzero : 0 < n := Nat.pos_of_ne_zero fun zero => whole (zero ▸ Nat.dvd_zero 10)
  refine ⟨n, k, ?_, digits⟩
  rw [significant, length_decimal n nonzero, ← digitCount_le]

/-- A power of ten has a single significant digit, so the bound may be reached. -/
theorem length_significant_le (positive : 0 < d.digits) (small : d.digits ≤ 10 ^ k)
    (places : 0 < k) : d.significant.length ≤ k := by
  obtain ⟨n, j, whole, digits, significant⟩ := exists_significant positive
  have nonzero : 0 < n := Nat.pos_of_ne_zero fun zero => whole (zero ▸ Nat.dvd_zero 10)
  rw [significant, length_decimal n nonzero, digitCount_le]
  have least : n ≤ d.digits := digits ▸ Nat.le_mul_of_pos_right n (Nat.pow_pos (by decide))
  refine Nat.lt_of_le_of_ne (least.trans small) ?_
  rintro rfl
  exact whole (dvd_pow_self 10 (Nat.ne_of_gt places))

end Digits

namespace Rounded

def Holds (r : Rounded) (q : ℚ) : Prop :=
  if r.closed then r.low ≤ q * r.den ∧ q * r.den ≤ r.high
  else r.low < q * r.den ∧ q * r.den < r.high

structure Proper (r : Rounded) : Prop where
  den_pos : 0 < r.den
  low_pos : 0 < r.low
  low_lt_mid : r.low < r.mid
  mid_lt_high : r.mid < r.high

def value (r : Rounded) : ℚ := r.mid / r.den

variable {r : Rounded} {p q : ℚ} {depth i n : Nat}

theorem contains_iff {d : Nat} (positive : 0 < d) :
    r.contains n d = true ↔ r.Holds (n / d) := by
  have positive : (0 : ℚ) < d := by exact_mod_cast positive
  rw [contains, Holds, div_mul_eq_mul_div]
  split
  · simp only [Bool.and_eq_true, decide_eq_true_eq, le_div_iff₀ positive, div_le_iff₀ positive]
    norm_cast
  · simp only [Bool.and_eq_true, decide_eq_true_eq, lt_div_iff₀ positive, div_lt_iff₀ positive]
    norm_cast

/-- All numbers between two that round to the number round to it. -/
theorem Holds.between {m : ℚ} (lower : r.Holds p) (upper : r.Holds q) (above : p ≤ m)
    (below : m ≤ q) : r.Holds m := by
  have den : (0 : ℚ) ≤ r.den := Nat.cast_nonneg _
  have above := mul_le_mul_of_nonneg_right above den
  have below := mul_le_mul_of_nonneg_right below den
  unfold Holds at *
  split
  case isTrue closed =>
    rw [if_pos closed] at lower upper
    exact ⟨lower.1.trans above, below.trans upper.2⟩
  case isFalse opened =>
    rw [if_neg opened] at lower upper
    exact ⟨lower.1.trans_le above, below.trans_lt upper.2⟩

theorem holds_of_between (above : r.low < q * r.den)
    (below : q * r.den < r.high) : r.Holds q := by
  unfold Holds
  split
  · exact ⟨above.le, below.le⟩
  · exact ⟨above, below⟩

theorem Holds.pos (proper : r.Proper) (holds : r.Holds q) : 0 < q := by
  have low : (0 : ℚ) < r.low := by exact_mod_cast proper.low_pos
  have den : (0 : ℚ) < r.den := by exact_mod_cast proper.den_pos
  have above : (r.low : ℚ) ≤ q * r.den := by
    unfold Holds at holds
    split at holds
    · exact holds.1
    · exact holds.1.le
  exact pos_of_mul_pos_left (low.trans_le above) den.le

theorem digits_pos (proper : r.Proper) {d : Decimal} (holds : r.Holds d.value) : 0 < d.digits := by
  refine Nat.pos_of_ne_zero fun zero => ?_
  have positive := holds.pos proper
  simp [Decimal.value, zero] at positive

theorem value_mul_den (proper : r.Proper) : r.value * r.den = r.mid := by
  have den : (r.den : ℚ) ≠ 0 := by exact_mod_cast Nat.ne_of_gt proper.den_pos
  rw [value, div_mul_cancel₀ _ den]

theorem holds_value (proper : r.Proper) : r.Holds r.value := by
  apply holds_of_between <;> rw [value_mul_den proper]
  · exact_mod_cast proper.low_lt_mid
  · exact_mod_cast proper.mid_lt_high

def below (r : Rounded) (depth i : Nat) : Nat := r.mid * 10 ^ depth / (r.den * 10 ^ i)

private theorem value_grid (depth i n : Nat) :
    Decimal.value ⟨n, i - depth⟩ = (n * 10 ^ i : Nat) / (10 ^ depth : Nat) := by
  rw [Decimal.value, zpow_sub₀ (by norm_num), zpow_natCast, zpow_natCast]
  push_cast
  rw [mul_div_assoc]

theorem below_le (proper : r.Proper) (depth i : Nat) :
    Decimal.value ⟨r.below depth i, i - depth⟩ ≤ r.value := by
  have le := Nat.div_mul_le_self (r.mid * 10 ^ depth) (r.den * 10 ^ i)
  have den : (0 : ℚ) < r.den := by exact_mod_cast proper.den_pos
  rw [value_grid, value, div_le_div_iff₀ (by positivity) den]
  norm_cast
  calc r.below depth i * 10 ^ i * r.den = r.below depth i * (r.den * 10 ^ i) := by ring
    _ ≤ r.mid * 10 ^ depth := le

theorem lt_above (proper : r.Proper) (depth i : Nat) :
    r.value < Decimal.value ⟨r.below depth i + 1, i - depth⟩ := by
  have unit : 0 < r.den * 10 ^ i := Nat.mul_pos proper.den_pos (Nat.pow_pos (by decide))
  have lt := Nat.lt_mul_div_succ (r.mid * 10 ^ depth) unit
  have den : (0 : ℚ) < r.den := by exact_mod_cast proper.den_pos
  rw [value_grid, value, div_lt_div_iff₀ den (by positivity)]
  norm_cast
  calc r.mid * 10 ^ depth < r.den * 10 ^ i * (r.below depth i + 1) := lt
    _ = (r.below depth i + 1) * 10 ^ i * r.den := by ring

private theorem fits_iff :
    r.contains (n * Nat.pow 10 i) (Nat.pow 10 depth) = true ↔
      r.Holds (Decimal.value ⟨n, i - depth⟩) := by
  rw [value_grid]
  exact contains_iff (Nat.pow_pos (by decide))

/-- A point that is found on a grid rounds to the number. -/
theorem onGrid?_eq_some (hit : r.onGrid? depth i = some n) :
    r.Holds (Decimal.value ⟨n, i - depth⟩) ∧ n ≤ r.below depth i + 1 := by
  simp only [onGrid?, Bool.and_eq_true] at hit
  split at hit
  case isTrue near =>
    obtain rfl := Option.some.inj hit
    exact ⟨fits_iff.mp near.1, Nat.le_succ _⟩
  case isFalse =>
    split at hit
    case isTrue near =>
      obtain rfl := Option.some.inj hit
      exact ⟨fits_iff.mp near, Nat.le_refl _⟩
    case isFalse => contradiction

/-- Where neither neighbour on a grid rounds to the number, no point of the grid does. -/
theorem onGrid?_eq_none (proper : r.Proper) (miss : r.onGrid? depth i = none) (n : Nat) :
    ¬ r.Holds (Decimal.value ⟨n, i - depth⟩) := by
  intro holds
  simp only [onGrid?, Bool.and_eq_true, Bool.or_eq_true, Bool.not_eq_true'] at miss
  split at miss
  case isTrue => contradiction
  case isFalse far =>
    split at miss
    case isTrue => contradiction
    case isFalse above =>
      rcases Nat.lt_or_ge (r.below depth i) n with lt | le
      · have next := (holds_value proper).between holds (lt_above proper depth i).le
          (value_mono lt _)
        exact above (fits_iff.mpr next)
      · have below := holds.between (holds_value proper) (value_mono le _) (below_le proper depth i)
        exact far ⟨fits_iff.mpr below, .inl (Bool.eq_false_iff.mpr above)⟩

def grids (r : Rounded) (depth : Nat) : Nat := digitCount (r.below depth 0)

/-- On a grid that is fine enough there is always such a point. -/
theorem holds_finest (proper : r.Proper) (fine : r.den ≤ 10 ^ depth) :
    r.Holds (Decimal.value ⟨r.below depth 0, (0 : Nat) - depth⟩) := by
  have scale : 0 < 10 ^ depth := Nat.pow_pos (by decide)
  have low := Nat.mul_le_mul_right (10 ^ depth) proper.low_lt_mid
  have high := Nat.mul_lt_mul_of_pos_right proper.mid_lt_high scale
  have le := Nat.div_mul_le_self (r.mid * 10 ^ depth) r.den
  have lt := Nat.lt_mul_div_succ (r.mid * 10 ^ depth) proper.den_pos
  have finest : r.below depth 0 = r.mid * 10 ^ depth / r.den := by rw [below, pow_zero, Nat.mul_one]
  rw [← finest] at le lt
  have scale : (0 : ℚ) < (10 ^ depth : Nat) := by exact_mod_cast scale
  rw [value_grid, pow_zero, Nat.mul_one]
  apply holds_of_between <;> rw [div_mul_eq_mul_div]
  · rw [lt_div_iff₀ scale]
    norm_cast
    rw [Nat.mul_succ, Nat.mul_comm r.den] at lt
    rw [Nat.succ_mul] at low
    omega
  · rw [div_lt_iff₀ scale]
    norm_cast
    omega

/-- On the coarsest of its grids the number has a digit. -/
theorem pow_le_below (proper : r.Proper) (fine : r.den ≤ 10 ^ depth) :
    0 < r.grids depth ∧ 10 ^ (r.grids depth - 1) ≤ r.below depth 0 := by
  have positive : 0 < r.below depth 0 := by
    rw [below, pow_zero, Nat.mul_one]
    have mid : 0 < r.mid := proper.low_pos.trans proper.low_lt_mid
    exact Nat.div_pos (fine.trans (Nat.le_mul_of_pos_left _ mid)) proper.den_pos
  have reached : 0 < r.grids depth := by
    by_contra missed
    have small := digitCount_le.mp (Nat.le_of_not_lt missed)
    rw [pow_zero] at small
    omega
  refine ⟨reached, Nat.le_of_not_lt fun small => ?_⟩
  have fewer : r.grids depth ≤ r.grids depth - 1 := digitCount_le.mpr small
  omega

theorem below_lt_pow (inside : i ≤ r.grids depth) :
    r.below depth i < 10 ^ (r.grids depth - i) := by
  have finest : r.below depth 0 < 10 ^ r.grids depth := digitCount_le.mp (Nat.le_refl _)
  have coarser : r.below depth i = r.below depth 0 / 10 ^ i := by
    rw [below, below, Nat.div_div_eq_div_mul, pow_zero, Nat.mul_one]
  rw [coarser]
  refine Nat.div_lt_of_lt_mul ?_
  rwa [← pow_add, Nat.add_sub_cancel' inside]

theorem shortest_eq (proper : r.Proper) (fine : r.den ≤ 10 ^ depth) :
    ∃ i < r.grids depth, ∃ n, r.shortest depth = ⟨n, i - depth⟩ ∧ r.onGrid? depth i = some n ∧
      ∀ j, i < j → j < r.grids depth → r.onGrid? depth j = none := by
  have count : digitCount (r.mid * Nat.pow 10 depth / r.den) = r.grids depth := by
    simp [grids, below]
  simp only [shortest, count]
  split
  case h_1 n i found =>
    obtain ⟨coarser, j, finer, split, mapped, misses⟩ := List.findSome?_eq_some_iff.mp found
    obtain ⟨m, hit, same⟩ := Option.map_eq_some_iff.mp mapped
    obtain ⟨rfl, rfl⟩ := Prod.mk.inj same
    have here : j ∈ (List.range (r.grids depth)).reverse := by simp [split]
    refine ⟨j, by simpa using here, m, rfl, hit, fun k beyond inside => ?_⟩
    -- The grids come in descending order, so a coarser one stands before the hit.
    have there : k ∈ coarser ++ j :: finer := by simpa [← split] using inside
    have order : (coarser ++ j :: finer).Pairwise (· > ·) := by
      rw [← split, List.pairwise_reverse]
      exact List.pairwise_lt_range
    rcases List.mem_append.mp there with before | after
    · simpa using misses k before
    · exfalso
      rcases List.mem_cons.mp after with rfl | later
      · omega
      · have := List.rel_of_pairwise_cons (List.pairwise_append.mp order).2.1 later
        omega
  case h_2 missed =>
    have zero : 0 ∈ (List.range (r.grids depth)).reverse := by
      simpa using (pow_le_below proper fine).1
    have miss := List.findSome?_eq_none_iff.mp missed 0 zero
    exact absurd (holds_finest proper fine) (onGrid?_eq_none proper (by simpa using miss) _)

/-- The shortest decimal rounds to the number. -/
theorem holds_shortest (proper : r.Proper) (fine : r.den ≤ 10 ^ depth) :
    r.Holds (r.shortest depth).value := by
  obtain ⟨i, -, n, shortest, hit, -⟩ := shortest_eq proper fine
  rw [shortest]
  exact (onGrid?_eq_some hit).1

/-- A decimal with fewer digits would lie on the next coarser grid, or have a power of ten of that
grid between it and the number. -/
theorem shortest_minimal (proper : r.Proper) (fine : r.den ≤ 10 ^ depth) {d : Decimal}
    (holds : r.Holds d.value) :
    (r.shortest depth).significant.length ≤ d.significant.length := by
  obtain ⟨i, inside, n, shortest, hit, misses⟩ := shortest_eq proper fine
  have length : (r.shortest depth).significant.length ≤ r.grids depth - i := by
    refine length_significant_le (digits_pos proper (holds_shortest proper fine)) ?_ (by omega)
    rw [shortest]
    exact (onGrid?_eq_some hit).2.trans (below_lt_pow inside.le)
  refine length.trans (Nat.le_of_not_lt fun fewer => ?_)
  obtain ⟨m, k, small, digits⟩ := exists_lt_pow_significant (digits_pos proper holds)
  have positive : 0 < m := Nat.pos_of_mul_pos_right (digits ▸ digits_pos proper holds)
  have written : 0 < d.significant.length := by
    by_contra empty
    rw [Nat.eq_zero_of_not_pos empty, pow_zero] at small
    omega
  have coarser (g : Nat) : ¬ r.Holds (Decimal.value ⟨g, (i + 1 : Nat) - depth⟩) :=
    onGrid?_eq_none proper (misses (i + 1) (by omega) (by omega)) g
  have form : d.value = Decimal.value ⟨m, k + d.exponent⟩ := by
    rw [← value_mul_pow, ← digits]
  rw [form] at holds
  generalize k + d.exponent = power at holds
  rcases Int.lt_or_le (i - depth) power with large | large
  · -- On the next grid itself.
    obtain ⟨t, rfl⟩ : ∃ t : Nat, power = t + ((i + 1 : Nat) - depth : Int) :=
      ⟨(power + depth - (i + 1)).toNat, by omega⟩
    rw [← value_mul_pow] at holds
    exact coarser _ holds
  · -- Below the greatest power of ten that the number reaches.
    have pow := (pow_le_below proper fine).2
    have reached : Decimal.value ⟨10 ^ (r.grids depth - 1), (0 : Nat) - depth⟩ ≤ r.value :=
      (value_mono pow _).trans (below_le proper depth 0)
    have under : Decimal.value ⟨m, power⟩ ≤
        Decimal.value ⟨10 ^ (r.grids depth - 1), (0 : Nat) - depth⟩ := by
      refine (value_mono small.le power).trans ?_
      rw [value_pow, value_pow]
      exact zpow_le_zpow_right₀ (by norm_num) (by omega)
    have between := holds.between (holds_value proper) under reached
    obtain ⟨t, enough⟩ : ∃ t, r.grids depth - 1 = t + (i + 1) :=
      ⟨r.grids depth - 1 - (i + 1), by omega⟩
    rw [enough, pow_add, value_mul_pow] at between
    refine coarser (10 ^ t) ?_
    convert between using 3
    push_cast
    ring

end Rounded

end OpcodeBinding.Decimal
