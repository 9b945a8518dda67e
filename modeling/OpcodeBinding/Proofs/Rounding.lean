import Mathlib.Tactic.Linarith
import OpcodeBinding.Proofs.ShortestDecimal

/-! The rational numbers that round to a single precision number. -/
namespace OpcodeBinding.Single

def units (x : Single) : Nat := x.significand * 2 ^ x.power

/-- The size of a number. Infinity counts as the power of two that follows the greatest finite
number. -/
def size (x : Single) : ℚ := x.units / 2 ^ 149

/-- A rational number rounds to the number that is nearest in size. Of two equally near ones it
rounds to the one with the even significand. -/
def RoundsTo (q : ℚ) (x : Single) : Prop :=
  ∀ y : Single, y.isNaN = false →
    |q - x.size| ≤ |q - y.size| ∧
      (|q - x.size| = |q - y.size| → y.magnitude = x.magnitude ∨ x.significand % 2 = 0)

variable {x y : Single} {q : ℚ}

def ofMagnitude (m : Nat) : Single := ⟨UInt32.ofNat m⟩

theorem magnitude_ofMagnitude {m : Nat} (small : m < 2 ^ 31) : (ofMagnitude m).magnitude = m := by
  have bits : (UInt32.ofNat m).toNat = m := UInt32.toNat_ofNat_of_lt' (small.trans (by decide))
  rw [magnitude, ofMagnitude, bits]
  exact Nat.mod_eq_of_lt small

theorem eq_of_magnitude (sign : x.isNegative = y.isNegative) (size : x.magnitude = y.magnitude) :
    x = y := by
  have := x.bits.toNat_lt
  have := y.bits.toNat_lt
  simp only [isNegative, magnitude, show Nat.pow 2 31 = 2147483648 from rfl,
    decide_eq_decide] at sign size
  have : x.bits = y.bits := UInt32.toNat_inj.mp (by omega)
  cases x
  cases y
  congr

section Next

theorem magnitude_eq (x : Single) : x.magnitude = x.exponentField * 2 ^ 23 + x.fraction :=
  (Nat.div_add_mod' x.magnitude (2 ^ 23)).symm

theorem fraction_lt (x : Single) : x.fraction < 2 ^ 23 := Nat.mod_lt _ (by decide)

theorem significand_mod_two (x : Single) : x.significand % 2 = x.magnitude % 2 := by
  have := x.magnitude_eq
  rw [significand]
  split
  · omega
  · have : Nat.pow 2 23 = 2 ^ 23 := rfl
    omega

variable (next : y.magnitude = x.magnitude + 1)
include next

/-- The next number has the next significand, or begins the next power of two. -/
theorem next_cases :
    (y.significand = x.significand + 1 ∧ y.power = x.power ∧
        ¬ (y.fraction = 0 ∧ 1 < y.exponentField)) ∨
      (2 * y.significand = x.significand + 1 ∧ y.power = x.power + 1 ∧
        y.fraction = 0 ∧ 1 < y.exponentField) := by
  have xs := x.magnitude_eq
  have ys := y.magnitude_eq
  have xfraction := x.fraction_lt
  have yfraction := y.fraction_lt
  have fields : y.exponentField = x.exponentField ∧ y.fraction = x.fraction + 1 ∨
      y.exponentField = x.exponentField + 1 ∧ y.fraction = 0 ∧ x.fraction + 1 = 2 ^ 23 := by
    omega
  have hidden : Nat.pow 2 23 = 2 ^ 23 := rfl
  simp only [significand, power, hidden]
  split <;> split <;> omega

theorem units_next : y.units = (x.significand + 1) * 2 ^ x.power := by
  rcases next_cases next with ⟨significand, power, -⟩ | ⟨significand, power, -⟩
  · rw [units, significand, power]
  · rw [units, ← significand, power, pow_succ]
    ring

/-- The numbers that round to a number begin where those that round to the one before it end. -/
theorem low_next : y.rounded.low = x.rounded.high := by
  rcases next_cases next with ⟨significand, power, same⟩ | ⟨significand, power, first⟩
  · simp only [rounded, if_neg same, significand, power]
    rfl
  · simp only [rounded, if_pos first, power]
    have : 4 * y.significand - 1 = 2 * x.significand + 1 := by omega
    rw [this]
    change _ * 2 ^ (x.power + 1) = _ * 2 ^ x.power
    rw [pow_succ]
    ring

end Next

section Order

theorem magnitude_lt (x : Single) : x.magnitude < 2 ^ 31 := Nat.mod_lt _ (by decide)

theorem isNaN_eq_false : x.isNaN = false ↔ x.magnitude ≤ 255 * 2 ^ 23 := by
  rw [isNaN, decide_eq_false_iff_not, Nat.not_lt]
  rfl

theorem exists_magnitude {m : Nat} (finite : m ≤ 255 * 2 ^ 23) :
    ∃ y : Single, y.magnitude = m ∧ y.isNaN = false := by
  have same := magnitude_ofMagnitude (show m < 2 ^ 31 by omega)
  exact ⟨ofMagnitude m, same, isNaN_eq_false.mpr (same.trans_le finite)⟩

theorem units_lt (less : x.magnitude < y.magnitude) : x.units < y.units := by
  obtain ⟨k, far⟩ := Nat.exists_eq_add_of_lt less
  induction k generalizing y with
  | zero =>
    rw [units_next far, Nat.succ_mul]
    exact Nat.lt_add_of_pos_right (Nat.pow_pos (by decide))
  | succ k ih =>
    have there : (ofMagnitude (x.magnitude + k + 1)).magnitude = x.magnitude + k + 1 :=
      magnitude_ofMagnitude (by have := y.magnitude_lt; omega)
    have step : y.magnitude = (ofMagnitude (x.magnitude + k + 1)).magnitude + 1 := by omega
    refine (ih (by omega) there).trans ?_
    rw [units_next step, Nat.succ_mul]
    exact Nat.lt_add_of_pos_right (Nat.pow_pos (by decide))

/-- Numbers are ordered in size as their bits are without the sign. -/
theorem size_lt (less : x.magnitude < y.magnitude) : x.size < y.size := by
  have units : (x.units : ℚ) < y.units := by exact_mod_cast units_lt less
  exact div_lt_div_of_pos_right units (by positivity)

theorem size_congr (same : x.magnitude = y.magnitude) : x.size = y.size := by
  unfold size units significand power exponentField fraction
  rw [same]

theorem size_le (le : x.magnitude ≤ y.magnitude) : x.size ≤ y.size := by
  rcases Nat.lt_or_eq_of_le le with less | same
  · exact (size_lt less).le
  · exact (size_congr same).le

end Order

section Middle

variable {a b : ℚ}

/-- Up to the middle of two numbers the lesser one is nearer. -/
private theorem near_below (less : a < b) : |q - a| ≤ |q - b| ↔ 2 * q ≤ a + b := by
  rw [← sq_le_sq]
  constructor <;> intro <;> nlinarith

/-- From the middle of two numbers on the greater one is nearer. -/
private theorem near_above (less : a < b) : |q - b| ≤ |q - a| ↔ a + b ≤ 2 * q := by
  rw [← sq_le_sq]
  constructor <;> intro <;> nlinarith

end Middle

section Interval

variable {w : Single}

private theorem high_eq (next : y.magnitude = x.magnitude + 1) :
    (x.rounded.high : ℚ) = 2 ^ 150 * (x.size + y.size) := by
  have units : x.rounded.high = 2 * x.units + 2 * y.units := by
    rw [units_next next, units]
    change (4 * x.significand + 2) * 2 ^ x.power = _
    ring
  rw [units, size, size]
  push_cast
  ring

/-- The numbers that round to a number reach halfway to its neighbours, and belong to it there when
its significand is even. -/
theorem holds_iff (before : x.magnitude = w.magnitude + 1) (after : y.magnitude = x.magnitude + 1) :
    x.rounded.Holds q ↔
      if x.significand % 2 = 0 then w.size + x.size ≤ 2 * q ∧ 2 * q ≤ x.size + y.size
      else w.size + x.size < 2 * q ∧ 2 * q < x.size + y.size := by
  have scale : (0 : ℚ) < 2 ^ 150 := by positivity
  have value : q * x.rounded.den = 2 ^ 150 * (2 * q) := by
    have den : (x.rounded.den : ℚ) = 2 ^ 151 := by norm_cast
    rw [den]
    ring
  have closed : x.rounded.closed = true ↔ x.significand % 2 = 0 := beq_iff_eq
  rw [Decimal.Rounded.Holds, low_next before, high_eq before, high_eq after, value]
  simp only [closed, mul_le_mul_iff_right₀ scale, mul_lt_mul_iff_right₀ scale]

end Interval

section Nearest

variable {w : Single} (before : x.magnitude = w.magnitude + 1)
  (after : y.magnitude = x.magnitude + 1) (number : y.isNaN = false)
include before after

/-- What lies within the bounds of a number rounds to it. -/
theorem roundsTo_of_holds (holds : x.rounded.Holds q) : RoundsTo q x := by
  rw [holds_iff before after] at holds
  have lower : w.size + x.size ≤ 2 * q := by split at holds <;> linarith
  have upper : 2 * q ≤ x.size + y.size := by split at holds <;> linarith
  intro z _
  -- Any other number lies at least as far off as the neighbour on its side.
  rcases Nat.lt_trichotomy z.magnitude x.magnitude with less | same | greater
  · have beyond : z.size ≤ w.size := size_le (by omega)
    refine ⟨(near_above (size_lt less)).mpr (by linarith), fun equal => .inr ?_⟩
    have tie := (near_below (size_lt less)).mp equal.ge
    by_contra odd
    rw [if_neg odd] at holds
    linarith
  · exact ⟨(congrArg (|q - ·|) (size_congr same)).ge, fun _ => .inl same⟩
  · have beyond : y.size ≤ z.size := size_le (by omega)
    refine ⟨(near_below (size_lt greater)).mpr (by linarith), fun equal => .inr ?_⟩
    have tie := (near_above (size_lt greater)).mp equal.ge
    by_contra odd
    rw [if_neg odd] at holds
    linarith

include number

/-- What rounds to a number lies within its bounds. -/
theorem holds_of_roundsTo (rounds : RoundsTo q x) : x.rounded.Holds q := by
  have smaller : w.size < x.size := size_lt (by omega)
  have larger : x.size < y.size := size_lt (by omega)
  have notNaN : w.isNaN = false := by
    rw [isNaN_eq_false] at number ⊢
    omega
  obtain ⟨nearBelow, tieBelow⟩ := rounds w notNaN
  obtain ⟨nearAbove, tieAbove⟩ := rounds y number
  have lower := (near_above smaller).mp nearBelow
  have upper := (near_below larger).mp nearAbove
  rw [holds_iff before after]
  split
  case isTrue => exact ⟨lower, upper⟩
  case isFalse odd =>
    constructor
    · refine lower.lt_of_ne fun tie => ?_
      have equal := nearBelow.antisymm ((near_below smaller).mpr tie.ge)
      have := (tieBelow equal).resolve_right odd
      omega
    · refine upper.lt_of_ne fun tie => ?_
      have equal := nearAbove.antisymm ((near_above larger).mpr tie.ge)
      have := (tieAbove equal).resolve_right odd
      omega

end Nearest

/-- A number rounds to itself. -/
theorem roundsTo_size (x : Single) : RoundsTo x.size x := by
  intro y _
  rw [sub_self, abs_zero]
  refine ⟨abs_nonneg _, fun equal => .inl ?_⟩
  have same : x.size = y.size := sub_eq_zero.mp (abs_eq_zero.mp equal.symm)
  rcases Nat.lt_trichotomy y.magnitude x.magnitude with less | equal | greater
  · exact absurd same (size_lt less).ne'
  · exact equal
  · exact absurd same (size_lt greater).ne

/-- No rational number rounds to numbers of two sizes. -/
theorem magnitude_unique (xNumber : x.isNaN = false) (yNumber : y.isNaN = false)
    (toX : RoundsTo q x) (toY : RoundsTo q y) : x.magnitude = y.magnitude := by
  wlog less : x.magnitude < y.magnitude generalizing x y with symmetric
  · rcases Nat.lt_trichotomy x.magnitude y.magnitude with less | same | greater
    · exact absurd less ‹_›
    · exact same
    · exact (symmetric yNumber xNumber toY toX greater).symm
  exfalso
  obtain ⟨nearX, tieX⟩ := toX y yNumber
  obtain ⟨nearY, tieY⟩ := toY x xNumber
  have middle : x.size + y.size ≤ 2 * q := (near_above (size_lt less)).mp nearY
  have equal := nearX.antisymm nearY
  have xEven := (tieX equal).resolve_left (Nat.ne_of_gt less)
  have yEven := (tieY equal.symm).resolve_left (Nat.ne_of_lt less)
  rw [significand_mod_two] at xEven yEven
  -- Two even numbers have an odd one between them, which is nearer to their middle.
  have bound := isNaN_eq_false.mp yNumber
  obtain ⟨z, next, zNumber⟩ := exists_magnitude (show x.magnitude + 1 ≤ 255 * 2 ^ 23 by omega)
  have below : x.size < z.size := size_lt (by omega)
  have above : z.size < y.size := size_lt (by omega)
  have near := (near_below below).mp (toX z zNumber).1
  linarith

section Finite

variable (nonzero : x.isZero = false)
include nonzero

theorem rounded_proper : x.rounded.Proper := by
  have positive : 0 < x.significand := by
    have size := x.magnitude_eq
    have notZero : x.magnitude ≠ 0 := beq_eq_false_iff_ne.mp nonzero
    have hidden : Nat.pow 2 23 = 2 ^ 23 := rfl
    rw [significand, hidden]
    split <;> omega
  have scale : 0 < Nat.pow 2 x.power := Nat.pow_pos (by decide)
  refine ⟨Nat.pow_pos (by decide), Nat.mul_pos ?_ scale, ?_, ?_⟩
  · split <;> omega
  · exact Nat.mul_lt_mul_of_pos_right (by split <;> omega) scale
  · exact Nat.mul_lt_mul_of_pos_right (by omega) scale

/-- The rounding that the printer goes by is rounding to the nearest number. -/
theorem roundsTo_iff (number : x.isNaN = false) (finite : x.isInfinite = false) :
    RoundsTo q x ↔ x.rounded.Holds q := by
  have notZero : x.magnitude ≠ 0 := beq_eq_false_iff_ne.mp nonzero
  have notInfinite : x.magnitude ≠ 255 * 2 ^ 23 := beq_eq_false_iff_ne.mp finite
  have bound := isNaN_eq_false.mp number
  obtain ⟨w, before, -⟩ := exists_magnitude (show x.magnitude - 1 ≤ 255 * 2 ^ 23 by omega)
  obtain ⟨y, after, yNumber⟩ := exists_magnitude (show x.magnitude + 1 ≤ 255 * 2 ^ 23 by omega)
  have before : x.magnitude = w.magnitude + 1 := by omega
  exact ⟨holds_of_roundsTo before after yNumber, roundsTo_of_holds before after⟩

end Finite

theorem den_le_depth (x : Single) : x.rounded.den ≤ 10 ^ depth := by
  change Nat.pow 2 151 ≤ 10 ^ 54
  decide

end OpcodeBinding.Single
