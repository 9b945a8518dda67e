import OpcodeBinding.Instruction
import OpcodeBinding.Proofs.SingleText

/-! The text of an operand tells its kind and its value. -/
namespace OpcodeBinding

namespace Single

variable {x y z : Single}

theorem equals_eq_true :
    x.equals y = true ↔ x.isNaN = false ∧ y.isNaN = false ∧
      (x = y ∨ x.isZero = true ∧ y.isZero = true) := by
  simp [equals, and_assoc]

theorem equals_comm (x y : Single) : x.equals y = y.equals x := by
  have swap (x y : Single) (equal : x.equals y = true) : y.equals x = true := by
    rw [equals_eq_true] at *
    obtain ⟨xNumber, yNumber, same⟩ := equal
    exact ⟨yNumber, xNumber, same.imp Eq.symm And.symm⟩
  exact Bool.eq_iff_iff.mpr ⟨swap x y, swap y x⟩

/-- A zero between two numbers makes both of them zeros. -/
theorem equals_trans (first : x.equals y = true) (second : y.equals z = true) :
    x.equals z = true := by
  rw [equals_eq_true] at *
  obtain ⟨xNumber, -, same⟩ := first
  obtain ⟨-, zNumber, same'⟩ := second
  refine ⟨xNumber, zNumber, ?_⟩
  rcases same with rfl | ⟨xZero, yZero⟩
  · exact same'
  · rcases same' with rfl | ⟨-, zZero⟩
    · exact .inr ⟨xZero, yZero⟩
    · exact .inr ⟨xZero, zZero⟩

theorem equals_self (x : Single) : x.equals x = !x.isNaN := by
  simp [equals]

/-- Equal numbers have the same bits but for the sign of zero. -/
theorem equals_same_sign :
    x.equals y = true ∧ ¬ (x.isZero = true ∧ y.isZero = true ∧ x.isNegative ≠ y.isNegative) ↔
      x = y ∧ x.isNaN = false := by
  rw [equals_eq_true]
  constructor
  · rintro ⟨⟨number, -, rfl | ⟨xZero, yZero⟩⟩, sign⟩
    · exact ⟨rfl, number⟩
    · have sign : x.isNegative = y.isNegative := by
        by_contra differ
        exact sign ⟨xZero, yZero, differ⟩
      have size := (beq_iff_eq.mp xZero).trans (beq_iff_eq.mp yZero).symm
      exact ⟨eq_of_magnitude sign size, number⟩
  · rintro ⟨rfl, number⟩
    exact ⟨⟨number, number, .inl rfl⟩, fun zeros => zeros.2.2 rfl⟩

end Single

inductive Operand.Kind where
  | integer
  | single
  | text
  | globalSlot
  | localSlot
  deriving DecidableEq, Repr

namespace Operand

def kind : Operand → Kind
  | .integer _ => .integer
  | .single _ => .single
  | .text _ => .text
  | .globalSlot _ => .globalSlot
  | .localSlot _ => .localSlot

def isNaN : Operand → Bool
  | .single x => x.isNaN
  | _ => false

/-- The two zeros, which are numerically equal. -/
def OppositeZeros : Operand → Operand → Prop
  | .single x, .single y => x.isZero = true ∧ y.isZero = true ∧ x.isNegative ≠ y.isNegative
  | _, _ => False

/-- The kind of operand that a text displays. No mark of another kind stands in a number, and a
single precision number has a mark that no integer has. -/
def Kind.ofText : List Char → Kind
  | '"' :: _ => .text
  | '$' :: 'G' :: _ => .globalSlot
  | '$' :: 'L' :: _ => .localSlot
  | cs => if (Text.integer? cs).isSome then .integer else .single

variable {a b c : Operand} {cs : List Char}

section Kinds

def Unmarked (cs : List Char) : Prop := '"' ∉ cs ∧ '$' ∉ cs

theorem ofText_of_unmarked (unmarked : Unmarked cs) :
    Kind.ofText cs = if (Text.integer? cs).isSome then .integer else .single := by
  unfold Kind.ofText
  split
  · exact absurd List.mem_cons_self unmarked.1
  · exact absurd List.mem_cons_self unmarked.2
  · exact absurd List.mem_cons_self unmarked.2
  · rfl

theorem unmarked_signedDecimal (z : Int) : Unmarked (Text.signedDecimal z) := by
  have read := Text.integer?_signedDecimal z
  constructor <;> intro there <;>
    simp [Text.integer?_of_foreign there (by decide) (by decide)] at read

theorem unmarked_spell (x : Single) : Unmarked x.spell :=
  ⟨x.reads_spell.not_mem (by decide) (by decide), x.reads_spell.not_mem (by decide) (by decide)⟩

/-- The kind of an operand can be told from what is displayed of it. -/
theorem ofText_spell (a : Operand) : Kind.ofText a.spell = a.kind := by
  cases a with
  | integer value =>
    rw [spell, ofText_of_unmarked (unmarked_signedDecimal _), Text.integer?_signedDecimal]
    rfl
  | single x =>
    rw [spell, ofText_of_unmarked (unmarked_spell x), x.integer?_spell]
    rfl
  | text value => rfl
  | globalSlot slot => rfl
  | localSlot slot => rfl

end Kinds

/-- Operands of one text are of one kind, and within a kind the text gives the value. -/
theorem spell_eq_iff : a.spell = b.spell ↔ a = b ∨ a.isNaN = true ∧ b.isNaN = true := by
  constructor
  · intro same
    have kinds : a.kind = b.kind := by rw [← ofText_spell, same, ofText_spell]
    cases a <;> cases b <;> try contradiction
    case integer.integer value value' =>
      have := Int32.toInt_inj.mp (Text.signedDecimal_injective same)
      exact .inl (this ▸ rfl)
    case single.single x y =>
      have read : Single.Reads x.spell y := (show x.spell = y.spell from same) ▸ y.reads_spell
      rcases x.reads_spell.unique read with rfl | nan
      · exact .inl rfl
      · exact .inr nan
    case text.text value value' =>
      simp only [spell, List.cons_append, List.cons.injEq, true_and, List.append_cancel_right_eq,
        String.toList_inj] at same
      exact .inl (same ▸ rfl)
    case globalSlot.globalSlot slot slot' =>
      simp only [spell, List.append_cancel_right_eq, List.append_cancel_left_eq] at same
      have := UInt16.toNat_inj.mp (Text.decimal_injective same)
      exact .inl (this ▸ rfl)
    case localSlot.localSlot slot slot' =>
      simp only [spell, List.append_cancel_right_eq, List.append_cancel_left_eq] at same
      have := UInt16.toNat_inj.mp (Text.decimal_injective same)
      exact .inl (this ▸ rfl)
  · rintro (rfl | ⟨aNaN, bNaN⟩)
    · rfl
    · cases a <;> cases b <;> try contradiction
      exact (Single.spell_nan aNaN).trans (Single.spell_nan bNaN).symm

section Equality

theorem equals_comm (a b : Operand) : a.equals b = b.equals a := by
  cases a <;> cases b <;> try rfl
  case single.single x y => exact x.equals_comm y
  all_goals exact BEq.comm

theorem equals_trans (first : a.equals b = true) (second : b.equals c = true) :
    a.equals c = true := by
  cases a <;> cases b <;> try contradiction
  all_goals cases c <;> try contradiction
  case single.single.single x y z => exact Single.equals_trans first second
  all_goals exact BEq.trans first second

theorem equals_self (a : Operand) : a.equals a = !a.isNaN := by
  cases a
  case single x => exact x.equals_self
  all_goals exact BEq.rfl

/-- Equal operands are the same unless they are the two zeros. -/
theorem equals_iff :
    a.equals b = true ∧ ¬ OppositeZeros a b ↔ a = b ∧ a.isNaN = false := by
  cases a <;> cases b
  case single.single x y => simpa [equals, OppositeZeros, isNaN] using Single.equals_same_sign
  all_goals simp [equals, OppositeZeros, isNaN]

end Equality

/-- Two operands have one display when they are equal and not the two zeros, or when both are NaNs.
Equality is symmetric and transitive, and only a NaN differs from itself. -/
theorem display_identifies :
    (∀ a b : Operand, a.display = b.display ↔
      (a.equals b = true ∧ ¬ OppositeZeros a b) ∨ (a.isNaN = true ∧ b.isNaN = true)) ∧
    (∀ a b : Operand, a.display = b.display → a.kind = b.kind ∧ (a.isNaN = false → a = b)) ∧
    (∀ a b : Operand, a.equals b = b.equals a) ∧
    (∀ a b c : Operand, a.equals b = true → b.equals c = true → a.equals c = true) ∧
    (∀ a : Operand, a.equals a = false ↔ a.isNaN = true) ∧
    ∀ x : Single, x.Printed := by
  have displays (a b : Operand) : a.display = b.display ↔ a.spell = b.spell := String.ofList_inj
  refine ⟨fun a b => ?_, fun a b same => ⟨?_, fun number => ?_⟩, equals_comm,
    fun a b c => equals_trans, fun a => ?_, Single.printed⟩
  · rw [displays, spell_eq_iff, equals_iff]
    constructor
    · rintro (rfl | nan)
      · cases number : a.isNaN
        · exact .inl ⟨rfl, rfl⟩
        · exact .inr ⟨rfl, rfl⟩
      · exact .inr nan
    · exact Or.imp_left And.left
  · rw [← ofText_spell, (displays a b).mp same, ofText_spell]
  · refine (spell_eq_iff.mp ((displays a b).mp same)).resolve_right fun nan => ?_
    rw [number] at nan
    exact Bool.false_ne_true nan.1
  · rw [equals_self, Bool.not_eq_false']

end Operand

end OpcodeBinding
