import Mathlib.Algebra.Order.Field.Power
import Mathlib.Algebra.Order.Ring.Unbundled.Rat
import Mathlib.Data.List.TakeWhile
import Mathlib.Data.Nat.Factorization.Basic
import Mathlib.Tactic.Ring
import OpcodeBinding.Single
import OpcodeBinding.Proofs.Numerals

/-! Decimals as text. Whatever the layout, the text denotes the decimal and has a point or a power of
ten. -/
namespace OpcodeBinding

namespace Text

/-- The number that digits denote around a point. The point may be left out. -/
def mantissa? (cs : List Char) : Option ℚ :=
  let (whole, part) := cs.span (· != '.')
  (natural? (whole ++ part.drop 1)).map fun digits : Nat =>
    (digits : ℚ) * 10 ^ (-(part.drop 1).length : Int)

/-- The number that a decimal text denotes. The integer behind an `e` is a power of ten that the
digits before it are multiplied by. -/
def rational? (cs : List Char) : Option ℚ := do
  let (mantissa, power) := cs.span (· != 'e')
  let value ← mantissa? mantissa
  let exponent ← if power.isEmpty then some 0 else integer? (power.drop 1)
  return value * 10 ^ exponent

variable {cs ds : List Char} {c : Char} {n : Nat}

section Read

private theorem span_before {stop : Char} (absent : stop ∉ cs) :
    (cs ++ stop :: ds).span (· != stop) = (cs, stop :: ds) := by
  have other : ∀ c ∈ cs, (c != stop) = true := fun c there => by
    simpa using ne_of_mem_of_not_mem there absent
  rw [List.span_eq_takeWhile_dropWhile, List.takeWhile_append_of_pos other,
    List.dropWhile_append_of_pos other]
  simp

private theorem span_absent {stop : Char} (absent : stop ∉ cs) :
    cs.span (· != stop) = (cs, []) := by
  have other : ∀ c ∈ cs, (c != stop) = true := fun c there => by
    simpa using ne_of_mem_of_not_mem there absent
  rw [List.span_eq_takeWhile_dropWhile, List.takeWhile_eq_self_iff.mpr other,
    List.dropWhile_eq_nil_iff.mpr other]

private theorem mem_span {stop : Char} (there : c ∈ cs) (other : c ≠ stop) :
    c ∈ cs.takeWhile (· != stop) ∨ c ∈ (cs.dropWhile (· != stop)).drop 1 := by
  induction cs with
  | nil => contradiction
  | cons d ds ih =>
    by_cases same : d = stop
    · subst same
      exact .inr (by simpa using (List.mem_cons.mp there).resolve_left other)
    · rcases List.mem_cons.mp there with rfl | later
      · exact .inl (by simp [same])
      · exact (ih later).imp (by simp [same]; exact .inr) (by simp [same])

theorem not_mem_of_natural? (read : natural? cs = some n) (foreign : digit? 10 c = none) :
    c ∉ cs := by
  intro there
  rw [natural?_of_foreign there foreign] at read
  contradiction

theorem mantissa?_whole (read : natural? cs = some n) : mantissa? cs = some (n : ℚ) := by
  have absent : '.' ∉ cs := not_mem_of_natural? read (by decide)
  rw [mantissa?, span_absent absent]
  simp [read]

theorem mantissa?_point (read : natural? (cs ++ ds) = some n) :
    mantissa? (cs ++ '.' :: ds) = some (n * 10 ^ (-ds.length : Int) : ℚ) := by
  have absent : '.' ∉ cs := fun there =>
    not_mem_of_natural? read (by decide) (List.mem_append_left ds there)
  rw [mantissa?, span_before absent]
  simp [read]

theorem rational?_point (read : natural? (cs ++ ds) = some n) :
    rational? (cs ++ '.' :: ds) = some (n * 10 ^ (-ds.length : Int) : ℚ) := by
  have absent : 'e' ∉ cs ++ '.' :: ds := by
    simpa using not_mem_of_natural? read (by decide : digit? 10 'e' = none)
  rw [rational?, span_absent absent]
  simpa using mantissa?_point read

theorem rational?_power (absent : 'e' ∉ cs) {q : ℚ} (value : mantissa? cs = some q) (power : Int) :
    rational? (cs ++ 'e' :: signedDecimal power) = some (q * 10 ^ power) := by
  rw [rational?, span_before absent]
  simp [value, integer?_signedDecimal]

end Read

section Foreign

variable (there : c ∈ cs) (foreign : digit? 10 c = none)
include there foreign

theorem integer?_of_foreign (unsigned : c ≠ '-') : integer? cs = none := by
  unfold integer?
  split
  · have later := (List.mem_cons.mp there).resolve_left unsigned
    rw [natural?_of_foreign later foreign, Option.map_none]
  · rw [natural?_of_foreign there foreign, Option.map_none]

theorem mantissa?_of_foreign (other : c ≠ '.') : mantissa? cs = none := by
  rw [mantissa?, List.span_eq_takeWhile_dropWhile]
  have kept := List.mem_append.mpr (mem_span there other)
  simp only [natural?_of_foreign kept foreign, Option.map_none]

/-- Number texts are made of digits, a point, a power of ten and its sign. -/
theorem rational?_of_foreign (mark : c ∉ ['.', 'e', '-']) : rational? cs = none := by
  simp only [List.mem_cons, List.not_mem_nil, or_false, not_or] at mark
  obtain ⟨point, power, unsigned⟩ := mark
  rw [rational?, List.span_eq_takeWhile_dropWhile]
  rcases mem_span there power with before | after
  · simp [mantissa?_of_foreign before foreign point]
  · have nonempty : cs.dropWhile (· != 'e') ≠ [] := by
      rintro empty
      simp [empty] at after
    simp only [List.isEmpty_eq_false_iff.mpr nonempty, Bool.false_eq_true, if_false,
      integer?_of_foreign after foreign unsigned]
    cases mantissa? (cs.takeWhile (· != 'e')) <;> rfl

end Foreign

/-- The sign of a number is not part of its text. -/
theorem rational?_minus (cs : List Char) : rational? ('-' :: cs) = none := by
  have there : '-' ∈ ('-' :: cs).takeWhile (· != 'e') := by simp
  rw [rational?, List.span_eq_takeWhile_dropWhile]
  simp only [mantissa?_of_foreign there (by decide) (by decide)]
  rfl

theorem natural?_zeros_append (read : natural? cs = some n) (k : Nat) :
    natural? (List.replicate k '0' ++ cs) = some n := by
  obtain ⟨nonempty, amount⟩ := natural?_eq_some.mp read
  rw [natural?_eq_some]
  exact ⟨by simp [nonempty], amount.zeros_append (by decide) k⟩

theorem natural?_append_zeros (read : natural? cs = some n) (k : Nat) :
    natural? (cs ++ List.replicate k '0') = some (n * 10 ^ k) := by
  obtain ⟨nonempty, amount⟩ := natural?_eq_some.mp read
  rw [natural?_eq_some]
  exact ⟨by simp [nonempty], by simpa using amount.append (AmountsTo.zeros (by decide) k)⟩

theorem decimal_mul_pow {n : Nat} (positive : 0 < n) (k : Nat) :
    decimal (n * 10 ^ k) = decimal n ++ List.replicate k '0' := by
  induction k with
  | zero => simp
  | succ k ih =>
    have large : ¬ n * 10 ^ (k + 1) < 10 := by
      have : 1 ≤ n * 10 ^ k := Nat.mul_pos positive (Nat.pow_pos (by decide))
      rw [pow_succ, ← Nat.mul_assoc]
      omega
    rw [decimal, if_neg large, pow_succ, ← Nat.mul_assoc, Nat.mul_div_cancel _ (by decide), ih,
      Nat.mul_mod_left, List.replicate_succ', List.append_assoc]
    rfl

theorem getLast_decimal (n : Nat) :
    (decimal n).getLast (decimal_ne_nil n) = digitChar (n % 10) := by
  unfold decimal
  split
  · simp [Nat.mod_eq_of_lt ‹_›]
  · simp

end Text

namespace Decimal

open Text (decimal natural? mantissa? rational?)

def value (d : Decimal) : ℚ := d.digits * 10 ^ d.exponent

variable {n k : Nat} {exponent : Int}

theorem significant_mul_pow (whole : ¬ 10 ∣ n) :
    significant ⟨n * 10 ^ k, exponent⟩ = decimal n := by
  have positive : 0 < n := Nat.pos_of_ne_zero fun zero => whole (zero ▸ Nat.dvd_zero 10)
  have last : (decimal n).reverse.head? ≠ some '0' := by
    rw [List.head?_reverse, List.getLast?_eq_getLast_of_ne_nil (Text.decimal_ne_nil n),
      Text.getLast_decimal, Ne, Option.some_inj]
    have small : n % 10 < 10 := Nat.mod_lt n (by decide)
    have nonzero : n % 10 ≠ 0 := fun zero => whole (Nat.dvd_of_mod_eq_zero zero)
    revert small nonzero
    generalize n % 10 = digit
    revert digit
    decide
  have kept : (decimal n).reverse.dropWhile (· == '0') = (decimal n).reverse := by
    cases reversed : (decimal n).reverse with
    | nil => rfl
    | cons c cs =>
      have other : c ≠ '0' := by simpa [reversed] using last
      simp [other]
  rw [significant, Text.decimal_mul_pow positive, List.reverse_append, List.reverse_replicate,
    List.dropWhile_append_of_pos (by simp), kept, List.reverse_reverse]

/-- Every positive decimal has a form without trailing zeros. -/
theorem exists_significant {d : Decimal} (positive : 0 < d.digits) :
    ∃ n k, ¬ 10 ∣ n ∧ d.digits = n * 10 ^ k ∧ d.significant = decimal n := by
  obtain ⟨k, n, whole, digits⟩ :=
    Nat.exists_eq_pow_mul_and_not_dvd (Nat.ne_of_gt positive) 10 (by decide)
  rw [Nat.mul_comm] at digits
  refine ⟨n, k, whole, digits, ?_⟩
  rw [← significant_mul_pow whole, ← digits]

section Write

variable {digits : List Char} (read : natural? digits = some n) (point : Int)
include read

/-- A decimal written out in full reads as its value. -/
theorem rational?_writeFull :
    rational? (writeFull digits point) = some (n * 10 ^ (point - digits.length) : ℚ) := by
  rw [writeFull]
  split
  case isTrue below =>
    -- Zeros stand on both sides of the point, before all of the digits.
    have amount : natural? (['0'] ++ (List.replicate (-point).toNat '0' ++ digits)) = some n :=
      Text.natural?_zeros_append read ((-point).toNat + 1)
    refine (Text.rational?_point amount).trans ?_
    rw [List.length_append, List.length_replicate]
    congr 3
    omega
  case isFalse above =>
    by_cases inside : point.toNat < digits.length
    · have part : (digits.drop point.toNat).isEmpty = false := by simpa using inside
      have zeros : point.toNat - digits.length = 0 := by omega
      have amount : natural? (digits.take point.toNat ++ digits.drop point.toNat) = some n := by
        rwa [List.take_append_drop]
      simp only [part, zeros, List.replicate_zero, List.append_nil, Bool.false_eq_true, if_false]
      rw [Text.rational?_point amount, List.length_drop]
      congr 3
      omega
    · have part : digits.drop point.toNat = [] := List.drop_eq_nil_of_le (by omega)
      have whole : digits.take point.toNat = digits := List.take_of_length_le (by omega)
      have amount := Text.natural?_append_zeros read (point.toNat - digits.length + 1)
      rw [List.replicate_succ', ← List.append_assoc] at amount
      simp only [part, whole, List.isEmpty_nil, if_true]
      rw [Text.rational?_point amount, List.length_singleton]
      push_cast
      rw [mul_assoc, ← zpow_natCast, ← zpow_add₀ (by norm_num)]
      congr 3
      push_cast
      omega

/-- A decimal written with a power of ten reads as its value. -/
theorem rational?_writePower :
    rational? (writePower digits point) = some (n * 10 ^ (point - digits.length) : ℚ) := by
  have nonempty : digits ≠ [] := (Text.natural?_eq_some.mp read).1
  have absent : 'e' ∉ digits := Text.not_mem_of_natural? read (by decide)
  obtain ⟨first, part, rfl⟩ := List.exists_cons_of_ne_nil nonempty
  cases part with
  | nil =>
    refine (Text.rational?_power absent (Text.mantissa?_whole read) (point - 1)).trans ?_
    simp
  | cons second part =>
    have digits : natural? ([first] ++ second :: part) = some n := read
    have mantissa := Text.mantissa?_point digits
    have absent : 'e' ∉ [first] ++ '.' :: second :: part := by simpa using absent
    refine (Text.rational?_power absent mantissa (point - 1)).trans ?_
    rw [mul_assoc, ← zpow_add₀ (by norm_num)]
    congr 3
    simp only [List.length_cons]
    push_cast
    ring

end Write

theorem value_eq {d : Decimal} (positive : 0 < d.digits) :
    ∃ n, natural? d.significant = some n ∧
      d.value = n * 10 ^ (d.point - d.significant.length) := by
  obtain ⟨n, k, whole, digits, significant⟩ := exists_significant positive
  have nonzero : 0 < n := Nat.pos_of_ne_zero fun zero => whole (zero ▸ Nat.dvd_zero 10)
  refine ⟨n, by rw [significant, Text.natural?_decimal], ?_⟩
  rw [value, point, significant, digits, Text.decimal_mul_pow nonzero, List.length_append,
    List.length_replicate]
  push_cast
  rw [mul_assoc, ← zpow_natCast, ← zpow_add₀ (by norm_num)]
  ring_nf

/-- Either way of writing a decimal keeps its value. -/
theorem rational?_write (layout : Layout) {d : Decimal} (positive : 0 < d.digits) :
    rational? (layout.write d) = some d.value := by
  obtain ⟨n, read, value⟩ := value_eq positive
  rw [Layout.write, value]
  split
  · exact rational?_writeFull read d.point
  · exact rational?_writePower read d.point

/-- A written decimal has a mark that no integer has. -/
theorem mark_mem_write (layout : Layout) (d : Decimal) :
    '.' ∈ layout.write d ∨ 'e' ∈ layout.write d := by
  rw [Layout.write]
  split
  · rw [writeFull]
    split <;> simp
  · simp [writePower]

end Decimal
end OpcodeBinding
