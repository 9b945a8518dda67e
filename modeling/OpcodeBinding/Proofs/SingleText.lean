import OpcodeBinding.Proofs.Rounding

/-! The text of a single precision number is the shortest one that reads back. -/
namespace OpcodeBinding.Single

open Text (rational?)

def signed (negative : Bool) (cs : List Char) : List Char := if negative then '-' :: cs else cs

/-- A text reads as a number. A decimal reads as the finite number that it rounds to, and the sign
stands in front, which a NaN does not have. -/
inductive Reads : List Char → Single → Prop
  | nan {x : Single} (number : x.isNaN = true) : Reads ['N', 'a', 'N'] x
  | infinite {x : Single} (size : x.isInfinite = true) :
    Reads (signed x.isNegative ['i', 'n', 'f']) x
  | finite {x : Single} {cs : List Char} {q : ℚ} (number : x.isNaN = false)
    (size : x.isInfinite = false) (value : rational? cs = some q) (nearest : RoundsTo q x) :
    Reads (signed x.isNegative cs) x

/-- A decimal text rounds to a number, and no decimal with fewer significant digits does. -/
def Shortest (cs : List Char) (x : Single) : Prop :=
  ∃ d : Decimal, rational? cs = some d.value ∧ RoundsTo d.value x ∧
    ∀ e : Decimal, RoundsTo e.value x → d.significant.length ≤ e.significant.length

structure Printed (x : Single) : Prop where
  nan : x.isNaN = true → x.spell = ['N', 'a', 'N']
  infinite : x.isInfinite = true → x.spell = signed x.isNegative ['i', 'n', 'f']
  zero : x.isZero = true → x.spell = signed x.isNegative ['0', '.', '0']
  finite : x.isNaN = false → x.isInfinite = false →
    ∃ cs, x.spell = signed x.isNegative cs ∧ Shortest cs x ∧ ('.' ∈ cs ∨ 'e' ∈ cs)
  reads : ∀ y, Reads x.spell y ↔ y = x ∨ y.isNaN = true ∧ x.isNaN = true

variable {x y : Single} {cs ds : List Char}

section Signed

variable {s t : Bool}

theorem signed_inj (unsigned : ∀ es, cs ≠ '-' :: es) (unsigned' : ∀ es, ds ≠ '-' :: es)
    (same : signed s cs = signed t ds) : s = t ∧ cs = ds := by
  cases s <;> cases t
  · exact ⟨rfl, same⟩
  · exact absurd same (unsigned _)
  · exact absurd same.symm (unsigned' _)
  · exact ⟨rfl, (List.cons.inj same).2⟩

theorem mem_signed {c : Char} : c ∈ signed s cs ↔ s = true ∧ c = '-' ∨ c ∈ cs := by
  cases s <;> simp [signed]

theorem unsigned_of_rational? {q : ℚ} (value : rational? cs = some q) : ∀ es, cs ≠ '-' :: es := by
  rintro es rfl
  rw [Text.rational?_minus] at value
  contradiction

end Signed

theorem rational?_nan : rational? ['N', 'a', 'N'] = none :=
  Text.rational?_of_foreign List.mem_cons_self (by decide) (by decide)

theorem rational?_inf : rational? ['i', 'n', 'f'] = none :=
  Text.rational?_of_foreign List.mem_cons_self (by decide) (by decide)

/-- A text reads as one number only, or as the NaNs. -/
theorem Reads.unique (readX : Reads cs x) (readY : Reads cs y) :
    x = y ∨ x.isNaN = true ∧ y.isNaN = true := by
  have nan : ∀ es, ['N', 'a', 'N'] ≠ '-' :: es := by simp
  have inf : ∀ es, ['i', 'n', 'f'] ≠ '-' :: es := by simp
  generalize text : cs = es at readY
  cases readX with
  | nan xNumber =>
    have text : signed false ['N', 'a', 'N'] = es := text
    cases readY with
    | nan yNumber => exact .inr ⟨xNumber, yNumber⟩
    | infinite =>
      have same := (signed_inj nan inf text).2
      simp at same
    | finite _ _ value =>
      have same := (signed_inj nan (unsigned_of_rational? value) text).2
      rw [← same, rational?_nan] at value
      contradiction
  | infinite xSize =>
    cases readY with
    | nan =>
      have same := (signed_inj inf nan (text.trans (show _ = signed false _ from rfl))).2
      simp at same
    | infinite ySize =>
      have size := (beq_iff_eq.mp xSize).trans (beq_iff_eq.mp ySize).symm
      exact .inl (eq_of_magnitude (signed_inj inf inf text).1 size)
    | finite _ _ value =>
      have same := (signed_inj inf (unsigned_of_rational? value) text).2
      rw [← same, rational?_inf] at value
      contradiction
  | finite xNumber _ value xNearest =>
    have plain := unsigned_of_rational? value
    cases readY with
    | nan =>
      have same := (signed_inj plain nan (text.trans (show _ = signed false _ from rfl))).2
      rw [same, rational?_nan] at value
      contradiction
    | infinite =>
      have same := (signed_inj plain inf text).2
      rw [same, rational?_inf] at value
      contradiction
    | finite yNumber _ yValue yNearest =>
      obtain ⟨sign, rfl⟩ := signed_inj plain (unsigned_of_rational? yValue) text
      obtain rfl := Option.some.inj (value.symm.trans yValue)
      exact .inl (eq_of_magnitude sign (magnitude_unique xNumber yNumber xNearest yNearest))

/-- The characters of number texts. -/
theorem Reads.not_mem (read : Reads cs x) {c : Char} (foreign : Text.digit? 10 c = none)
    (mark : c ∉ ['-', '.', 'e', 'N', 'a', 'i', 'n', 'f']) : c ∉ cs := by
  simp only [List.mem_cons, List.not_mem_nil, or_false, not_or] at mark
  intro there
  cases read with
  | nan => simp [mark] at there
  | infinite => simp [mem_signed, mark] at there
  | finite _ _ value =>
    have there := (mem_signed.mp there).resolve_left (by simp [mark])
    rw [Text.rational?_of_foreign there foreign (by simp [mark])] at value
    contradiction

section Spell

theorem spell_nan (number : x.isNaN = true) : x.spell = ['N', 'a', 'N'] := by
  unfold spell
  rw [if_pos number]

def spellSize (x : Single) : List Char :=
  if x.isInfinite then ['i', 'n', 'f']
  else if x.isZero then ['0', '.', '0']
  else layout.write (x.rounded.shortest depth)

theorem spell_number (number : x.isNaN = false) :
    x.spell = signed x.isNegative x.spellSize := by
  have sign (cs : List Char) :
      (if x.isNegative then ['-'] else []) ++ cs = signed x.isNegative cs := by
    cases x.isNegative <;> rfl
  have notNaN : ¬ x.isNaN = true := Bool.eq_false_iff.mp number
  unfold spell spellSize
  rw [if_neg notNaN]
  split
  · exact sign _
  · split <;> exact sign _

private theorem value_zero (exponent : Int) : Decimal.value ⟨0, exponent⟩ = 0 := by
  simp [Decimal.value]

theorem size_zero (zero : x.isZero = true) : x.size = 0 := by
  have magnitude : x.magnitude = 0 := beq_iff_eq.mp zero
  simp [size, units, significand, exponentField, fraction, magnitude]

theorem spellSize_zero (zero : x.isZero = true) (finite : x.isInfinite = false) :
    x.spellSize = ['0', '.', '0'] := by
  rw [spellSize, finite, zero, if_neg Bool.false_ne_true, if_pos rfl]

theorem spellSize_nonzero (nonzero : x.isZero = false) (finite : x.isInfinite = false) :
    x.spellSize = layout.write (x.rounded.shortest depth) := by
  rw [spellSize, finite, nonzero, if_neg Bool.false_ne_true, if_neg Bool.false_ne_true]

/-- No shorter decimal would read as the number. -/
theorem shortest_spellSize (number : x.isNaN = false) (finite : x.isInfinite = false) :
    Shortest x.spellSize x := by
  cases zero : x.isZero with
  | true =>
    rw [spellSize_zero zero finite]
    have amount : Text.natural? (['0'] ++ ['0']) = some 0 := by decide
    have significant : Decimal.significant ⟨0, 0⟩ = [] := by
      rw [Decimal.significant, Text.decimal]
      rfl
    refine ⟨⟨0, 0⟩, ?_, ?_, fun e _ => ?_⟩
    · rw [value_zero]
      simpa using Text.rational?_point amount
    · rw [value_zero, ← size_zero zero]
      exact x.roundsTo_size
    · rw [significant]
      exact Nat.zero_le _
  | false =>
    have proper := rounded_proper zero
    have holds := Decimal.Rounded.holds_shortest proper x.den_le_depth
    rw [spellSize_nonzero zero finite]
    refine ⟨x.rounded.shortest depth, ?_, ?_, fun e nearest => ?_⟩
    · exact Decimal.rational?_write layout (Decimal.Rounded.digits_pos proper holds)
    · exact (roundsTo_iff zero number finite).mpr holds
    · exact Decimal.Rounded.shortest_minimal proper x.den_le_depth
        ((roundsTo_iff zero number finite).mp nearest)

theorem mark_mem_spellSize (finite : x.isInfinite = false) :
    '.' ∈ x.spellSize ∨ 'e' ∈ x.spellSize := by
  cases zero : x.isZero
  · rw [spellSize_nonzero zero finite]
    exact Decimal.mark_mem_write layout _
  · rw [spellSize_zero zero finite]
    exact .inl (by simp)

end Spell

theorem not_nan_of_infinite (infinite : x.isInfinite = true) : x.isNaN = false := by
  rw [isNaN_eq_false]
  exact (beq_iff_eq.mp infinite).le

theorem finite_of_zero (zero : x.isZero = true) : x.isNaN = false ∧ x.isInfinite = false := by
  have magnitude : x.magnitude = 0 := beq_iff_eq.mp zero
  simp [isNaN, isInfinite, magnitude]

/-- What is displayed of a number reads as that number. -/
theorem reads_spell (x : Single) : Reads x.spell x := by
  cases number : x.isNaN with
  | true => exact spell_nan number ▸ .nan number
  | false =>
    rw [spell_number number]
    cases size : x.isInfinite with
    | true =>
      rw [spellSize, size, if_pos rfl]
      exact .infinite size
    | false =>
      obtain ⟨d, value, nearest, -⟩ := shortest_spellSize number size
      exact .finite number size value nearest

/-- The text of a number is no integer numeral. -/
theorem integer?_spell (x : Single) : Text.integer? x.spell = none := by
  have foreign : ∃ c ∈ x.spell, Text.digit? 10 c = none ∧ c ≠ '-' := by
    cases number : x.isNaN with
    | true => exact ⟨'N', by simp [spell_nan number], by decide⟩
    | false =>
      rw [spell_number number]
      cases size : x.isInfinite with
      | true => exact ⟨'i', by simp [mem_signed, spellSize, size], by decide⟩
      | false =>
        rcases mark_mem_spellSize size with point | power
        · exact ⟨'.', mem_signed.mpr (.inr point), by decide⟩
        · exact ⟨'e', mem_signed.mpr (.inr power), by decide⟩
  obtain ⟨c, there, foreign, unsigned⟩ := foreign
  exact Text.integer?_of_foreign there foreign unsigned

theorem printed (x : Single) : x.Printed where
  nan := spell_nan
  infinite size := by rw [spell_number (not_nan_of_infinite size), spellSize, if_pos size]
  zero zero := by
    obtain ⟨number, finite⟩ := finite_of_zero zero
    rw [spell_number number, spellSize_zero zero finite]
  finite number finite :=
    ⟨x.spellSize, spell_number number, shortest_spellSize number finite, mark_mem_spellSize finite⟩
  reads y := by
    constructor
    · exact fun read => read.unique x.reads_spell
    · rintro (rfl | ⟨yNumber, xNumber⟩)
      · exact y.reads_spell
      · exact spell_nan xNumber ▸ .nan yNumber

end OpcodeBinding.Single
