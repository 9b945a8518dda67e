import Mathlib.Data.Nat.Digits.Defs
import Mathlib.Data.List.Forall2
import Mathlib.Data.List.Induction
import OpcodeBinding.Text.Basic

/-! What numerals denote. -/
namespace OpcodeBinding.Text

/-- The digits of bases up to sixteen. Letters may be of either case. -/
def digitSigns : List (List Char) :=
  [['0', '1', '2', '3', '4', '5', '6', '7', '8', '9', 'a', 'b', 'c', 'd', 'e', 'f'],
    ['0', '1', '2', '3', '4', '5', '6', '7', '8', '9', 'A', 'B', 'C', 'D', 'E', 'F']]

def Signifies (base : Nat) (c : Char) (digit : Nat) : Prop :=
  digit < base ∧ ∃ signs ∈ digitSigns, signs[digit]? = some c

/-- Digits amount to a number, the most significant one first. No digits amount to zero. -/
def AmountsTo (base : Nat) (cs : List Char) (n : Nat) : Prop :=
  ∃ digits, List.Forall₂ (Signifies base) cs digits ∧ n = Nat.ofDigits base digits.reverse

def Denotes (base : Nat) (cs : List Char) (n : Nat) : Prop := cs ≠ [] ∧ AmountsTo base cs n

def natural? (cs : List Char) : Option Nat :=
  (digits? 10 cs).map fun digits => Nat.ofDigits 10 digits.reverse

def integer? : List Char → Option Int
  | '-' :: cs => (natural? cs).map fun n : Nat => -(n : Int)
  | cs => (natural? cs).map Int.ofNat

variable {base : Nat} {c : Char} {digit m n : Nat} {cs : List Char} {digits : List Nat}

section Read

private theorem digit?_of_signs :
    ∀ signs ∈ digitSigns, ∀ digit < 16, signs[digit]?.bind (digit? 16) = some digit := by
  decide

private theorem signs_of_digit? :
    ∀ n < 128, ∀ digit ∈ digit? 16 (Char.ofNat n),
      ∃ signs ∈ digitSigns, signs[digit]? = some (Char.ofNat n) := by
  decide

private theorem ascii_of_digit? (read : digit? 16 c = some digit) : c.toNat < 128 := by
  have last : 'z'.toNat < 128 := by decide
  by_contra beyond
  have none : digit? 16 c = none := by
    simp only [digit?, Char.le_def, UInt32.le_iff_toNat_le]
    change ¬ c.val.toNat < 128 at beyond
    rw [if_neg, if_neg, if_neg, Option.filter_none]
    all_goals exact fun range => beyond (Nat.lt_of_le_of_lt range.2 (by decide))
  simp [none] at read

private theorem digit?_of_le_sixteen (small : base ≤ 16) :
    digit? base c = some digit ↔ digit < base ∧ digit? 16 c = some digit := by
  simp only [digit?, Option.filter_eq_some_iff, decide_eq_true_eq]
  constructor
  · rintro ⟨value, below⟩
    exact ⟨below, value, by omega⟩
  · rintro ⟨below, value, _⟩
    exact ⟨value, below⟩

/-- The reader of digits knows exactly the signs of the base. -/
theorem digit?_eq_some (small : base ≤ 16) :
    digit? base c = some digit ↔ Signifies base c digit := by
  rw [digit?_of_le_sixteen small, Signifies]
  refine and_congr_right fun below => ⟨fun read => ?_, ?_⟩
  · have signs := signs_of_digit? c.toNat (ascii_of_digit? read)
    rw [Char.ofNat_toNat] at signs
    exact signs digit read
  · rintro ⟨signs, listed, there⟩
    have value := digit?_of_signs signs listed digit (by omega)
    rwa [there, Option.bind_some] at value

private theorem mapM_digit? (small : base ≤ 16) :
    cs.mapM (digit? base) = some digits ↔ List.Forall₂ (Signifies base) cs digits := by
  induction cs generalizing digits with
  | nil => simp [eq_comm]
  | cons c cs ih =>
    simp only [List.mapM_cons, Option.bind_eq_bind, Option.bind_eq_some_iff, Option.pure_def,
      Option.some_inj, List.forall₂_cons_left_iff, digit?_eq_some small, ih]
    constructor
    · rintro ⟨digit, first, rest, others, rfl⟩
      exact ⟨digit, rest, first, others, rfl⟩
    · rintro ⟨digit, rest, first, others, rfl⟩
      exact ⟨digit, first, rest, others, rfl⟩

theorem digits?_eq_some (small : base ≤ 16) :
    digits? base cs = some digits ↔ cs ≠ [] ∧ List.Forall₂ (Signifies base) cs digits := by
  rw [digits?, ← mapM_digit? small]
  cases cs <;> simp

/-- A text is read as a number exactly when it is a decimal numeral of it. -/
theorem natural?_eq_some : natural? cs = some n ↔ Denotes 10 cs n := by
  have small : 10 ≤ 16 := by decide
  simp only [natural?, Option.map_eq_some_iff, digits?_eq_some small, Denotes, AmountsTo]
  constructor
  · rintro ⟨digits, ⟨nonempty, signs⟩, amount⟩
    exact ⟨nonempty, digits, signs, amount.symm⟩
  · rintro ⟨nonempty, digits, signs, amount⟩
    exact ⟨digits, ⟨nonempty, signs⟩, amount.symm⟩

/-- The value of digits from the left, on top of those before them. -/
theorem ofDigits_reverse (base : Nat) (digits : List Nat) :
    Nat.ofDigits base digits.reverse = digits.foldl (fun n digit => n * base + digit) 0 := by
  rw [Nat.ofDigits_eq_foldr, List.foldr_reverse]
  simp [Nat.add_comm, Nat.mul_comm]

end Read

theorem lt_of_signs (signs : List.Forall₂ (Signifies base) cs digits) :
    ∀ digit ∈ digits, digit < base := by
  have below : List.Forall₂ (fun digit c => digit < base ∧ Signifies base c digit) digits cs :=
    List.Forall₂.flip (signs.imp fun _ _ signified => ⟨signified.1, signified⟩)
  exact ((List.forall₂_and_left _ _).mp below).1

private theorem signs_zero : ∀ signs ∈ digitSigns, signs[0]? = some '0' := by decide

theorem eq_zero_sign (signified : Signifies base c 0) : c = '0' := by
  obtain ⟨-, signs, listed, there⟩ := signified
  rw [signs_zero signs listed] at there
  exact (Option.some.inj there).symm

namespace AmountsTo

theorem nil (base : Nat) : AmountsTo base [] 0 := ⟨[], .nil, rfl⟩

theorem singleton (signified : Signifies base c digit) : AmountsTo base [c] digit :=
  ⟨[digit], .cons signified .nil, by simp⟩

theorem append {ds : List Char} (h : AmountsTo base cs m) (k : AmountsTo base ds n) :
    AmountsTo base (cs ++ ds) (m * base ^ ds.length + n) := by
  obtain ⟨first, firstSigns, rfl⟩ := h
  obtain ⟨second, secondSigns, rfl⟩ := k
  refine ⟨first ++ second, List.rel_append firstSigns secondSigns, ?_⟩
  rw [List.reverse_append, Nat.ofDigits_append, List.length_reverse, secondSigns.length_eq,
    Nat.add_comm, Nat.mul_comm]

theorem zeros (positive : 0 < base) (count : Nat) :
    AmountsTo base (List.replicate count '0') 0 := by
  induction count with
  | zero => exact nil base
  | succ count ih =>
    have zero : Signifies base '0' 0 := ⟨positive, by decide⟩
    simpa [List.replicate_succ] using (singleton zero).append ih

/-- Zeros in front of the digits make no difference. -/
theorem zeros_append (positive : 0 < base) (h : AmountsTo base cs n) (count : Nat) :
    AmountsTo base (List.replicate count '0' ++ cs) n := by
  simpa using (zeros positive count).append h

theorem signifies (h : AmountsTo base cs n) (there : c ∈ cs) : ∃ digit, Signifies base c digit := by
  obtain ⟨digits, signs, -⟩ := h
  induction signs with
  | nil => contradiction
  | cons first _ ih =>
    rcases List.mem_cons.mp there with rfl | later
    · exact ⟨_, first⟩
    · exact ih later

/-- What holds of all signs holds of the characters of a numeral. -/
theorem forall_of_signs {p : Char → Bool} (known : ∀ signs ∈ digitSigns, signs.all p)
    (h : AmountsTo base cs n) : ∀ c ∈ cs, p c := by
  intro c there
  obtain ⟨digit, -, signs, listed, sign⟩ := h.signifies there
  exact List.all_eq_true.mp (known signs listed) c (List.mem_of_getElem? sign)

theorem of_singleton (h : AmountsTo base [c] n) : Signifies base c n := by
  obtain ⟨digits, signs, rfl⟩ := h
  obtain ⟨digit, _, signified, none, rfl⟩ := List.forall₂_cons_left_iff.mp signs
  rw [List.forall₂_nil_left_iff.mp none]
  simpa using signified

/-- A numeral that is cut in two has two parts that are numerals. -/
theorem of_append {ds : List Char} (h : AmountsTo base (cs ++ ds) n) :
    ∃ m k, AmountsTo base cs m ∧ AmountsTo base ds k ∧ n = m * base ^ ds.length + k := by
  obtain ⟨digits, signs, rfl⟩ := h
  let first := digits.take cs.length
  let second := digits.drop cs.length
  have firstSigns := List.forall₂_take cs.length signs
  have secondSigns := List.forall₂_drop cs.length signs
  rw [List.take_left] at firstSigns
  rw [List.drop_left] at secondSigns
  refine ⟨_, _, ⟨first, firstSigns, rfl⟩, ⟨second, secondSigns, rfl⟩, ?_⟩
  calc
    Nat.ofDigits base digits.reverse = Nat.ofDigits base (second.reverse ++ first.reverse) := by
      rw [← List.reverse_append, List.take_append_drop]
    _ = _ := by
      rw [Nat.ofDigits_append, List.length_reverse, ← secondSigns.length_eq, Nat.add_comm,
        Nat.mul_comm]

/-- Digits amount to one number only. -/
theorem unique (small : base ≤ 16) (h : AmountsTo base cs m) (k : AmountsTo base cs n) :
    m = n := by
  obtain ⟨first, firstSigns, rfl⟩ := h
  obtain ⟨second, secondSigns, rfl⟩ := k
  rw [← mapM_digit? small] at firstSigns secondSigns
  rw [Option.some.inj (firstSigns.symm.trans secondSigns)]

theorem of_zeros_append (positive : 0 < base) (small : base ≤ 16) {count : Nat}
    (h : AmountsTo base (List.replicate count '0' ++ cs) n) : AmountsTo base cs n := by
  obtain ⟨lead, rest, front, back, rfl⟩ := h.of_append
  rwa [front.unique small (zeros positive count), Nat.zero_mul, Nat.zero_add]

/-- Only zeros amount to zero. -/
theorem eq_zeros (positive : 0 < base) (h : AmountsTo base cs 0) :
    cs = List.replicate cs.length '0' := by
  induction cs with
  | nil => rfl
  | cons c cs ih =>
    rw [← List.singleton_append] at h
    obtain ⟨digit, rest, first, others, none⟩ := h.of_append
    obtain ⟨lead, rfl⟩ := Nat.add_eq_zero_iff.mp none.symm
    have zero : digit = 0 := (Nat.mul_eq_zero.mp lead).resolve_right (Nat.pow_pos positive).ne'
    rw [zero] at first
    rw [eq_zero_sign first.of_singleton, List.length_cons, List.replicate_succ, ← ih others]

/-- Only zeros stand in front of as many digits as hold the number. -/
theorem exists_zeros {k : Nat} (positive : 0 < base) (h : AmountsTo base cs n) (fits : n < base ^ k)
    (long : k ≤ cs.length) :
    ∃ zeros ds, cs = List.replicate zeros '0' ++ ds ∧ ds.length = k ∧ AmountsTo base ds n := by
  let lead := cs.take (cs.length - k)
  let last := cs.drop (cs.length - k)
  have whole : lead ++ last = cs := List.take_append_drop ..
  have width : last.length = k := by
    rw [List.length_drop]
    omega
  rw [← whole] at h
  obtain ⟨m, rest, front, back, amount⟩ := h.of_append
  rw [width] at amount
  have none : m = 0 := by
    by_contra some
    have large := Nat.le_mul_of_pos_left (base ^ k) (Nat.pos_of_ne_zero some)
    omega
  subst none
  rw [Nat.zero_mul, Nat.zero_add] at amount
  exact ⟨lead.length, last, by rw [← front.eq_zeros positive, whole], width, amount ▸ back⟩

end AmountsTo

private theorem signs_digitChar :
    ∀ digit < 16, ∃ signs ∈ digitSigns, signs[digit]? = some (digitChar digit) := by
  decide

theorem signifies_digitChar (small : base ≤ 16) (below : digit < base) :
    Signifies base (digitChar digit) digit :=
  ⟨below, signs_digitChar digit (by omega)⟩

theorem decimal_ne_nil (n : Nat) : decimal n ≠ [] := by
  rw [decimal]
  split <;> simp

/-- A number is written with digits that amount to it. -/
theorem amountsTo_decimal (n : Nat) : AmountsTo 10 (decimal n) n := by
  induction n using Nat.strong_induction_on with
  | _ n ih =>
    rw [decimal]
    split
    · exact .singleton (signifies_digitChar (by decide) ‹_›)
    · have below : n % 10 < 10 := Nat.mod_lt n (by decide)
      have last := AmountsTo.singleton (signifies_digitChar (by decide) below)
      have whole := (ih (n / 10) (by omega)).append last
      rwa [List.length_singleton, pow_one, Nat.div_add_mod'] at whole

private theorem signs_decimal :
    ∀ digit < 10, ∀ signs ∈ digitSigns, signs[digit]? = some (digitChar digit) := by
  decide

theorem eq_decimal_sign (signified : Signifies 10 c digit) : c = digitChar digit := by
  obtain ⟨below, signs, listed, there⟩ := signified
  rw [signs_decimal digit below signs listed] at there
  exact (Option.some.inj there).symm

/-- Decimal numerals of one number differ in the zeros in front of them. -/
theorem Denotes.eq_decimal (h : Denotes 10 cs n) :
    ∃ zeros, cs = List.replicate zeros '0' ++ decimal n := by
  obtain ⟨nonempty, amount⟩ := h
  induction cs using List.reverseRecOn generalizing n with
  | nil => contradiction
  | append_singleton cs c ih =>
    obtain ⟨m, digit, front, last, rfl⟩ := amount.of_append
    have signified := last.of_singleton
    have below := signified.1
    rw [List.length_singleton, pow_one, eq_decimal_sign signified]
    by_cases short : m = 0
    · -- All digits but the last are zeros.
      subst short
      refine ⟨cs.length, ?_⟩
      rw [Nat.zero_mul, Nat.zero_add, decimal, if_pos below, ← front.eq_zeros (by decide)]
    · have other : cs ≠ [] := by
        rintro rfl
        exact short (front.unique (by decide) (.nil 10))
      obtain ⟨zeros, before⟩ := ih other front
      have upper : (m * 10 + digit) / 10 = m := by omega
      have lower : (m * 10 + digit) % 10 = digit := by omega
      refine ⟨zeros, ?_⟩
      rw [decimal, if_neg (by omega), upper, lower, ← List.append_assoc, ← before]

theorem natural?_decimal (n : Nat) : natural? (decimal n) = some n :=
  natural?_eq_some.mpr ⟨decimal_ne_nil n, amountsTo_decimal n⟩

/-- No numeral has a character that is no digit. -/
theorem natural?_of_foreign (there : c ∈ cs) (foreign : digit? 10 c = none) :
    natural? cs = none := by
  rw [Option.eq_none_iff_forall_ne_some]
  intro n read
  obtain ⟨digit, signified⟩ := (natural?_eq_some.mp read).2.signifies there
  rw [← digit?_eq_some (by decide), foreign] at signified
  contradiction

theorem integer?_of_unsigned (unsigned : ∀ c ∈ cs.head?, c ≠ '-') :
    integer? cs = (natural? cs).map Int.ofNat := by
  unfold integer?
  split
  · exact absurd rfl (unsigned '-' rfl)
  · rfl

theorem digit?_of_mem_decimal (there : c ∈ decimal n) : digit? 10 c ≠ none := by
  intro foreign
  have read := natural?_of_foreign there foreign
  rw [natural?_decimal] at read
  contradiction

theorem ne_minus_of_mem_decimal (there : c ∈ decimal n) : c ≠ '-' := by
  rintro rfl
  exact digit?_of_mem_decimal there (by decide)

theorem integer?_signedDecimal (z : Int) : integer? (signedDecimal z) = some z := by
  cases z with
  | ofNat n =>
    have unsigned : ∀ c ∈ (decimal n).head?, c ≠ '-' := fun c first =>
      ne_minus_of_mem_decimal (List.mem_of_head? first)
    rw [signedDecimal, integer?_of_unsigned unsigned, natural?_decimal]
    rfl
  | negSucc n =>
    rw [signedDecimal, integer?, natural?_decimal]
    rfl

theorem signedDecimal_injective : Function.Injective signedDecimal := by
  intro y z same
  have read := integer?_signedDecimal z
  rw [← same, integer?_signedDecimal] at read
  exact Option.some.inj read

theorem decimal_injective : Function.Injective decimal := by
  intro m n same
  have read := natural?_decimal n
  rw [← same, natural?_decimal] at read
  exact Option.some.inj read

end OpcodeBinding.Text
