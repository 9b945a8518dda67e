import Mathlib.Data.List.TakeWhile
import OpcodeBinding.Opcode
import OpcodeBinding.Proofs.Numerals

/-! The spellings of opcodes as a grammar. Reading accepts exactly the spellings, and finds out exactly
whether their numbers fit in sixteen bits. -/
namespace OpcodeBinding

namespace Text

/-- The code points with the property White_Space of Unicode. -/
def whiteSpace : List Nat :=
  [0x9, 0xA, 0xB, 0xC, 0xD, 0x20, 0x85, 0xA0, 0x1680, 0x2000, 0x2001, 0x2002, 0x2003, 0x2004, 0x2005,
    0x2006, 0x2007, 0x2008, 0x2009, 0x200A, 0x2028, 0x2029, 0x202F, 0x205F, 0x3000]

theorem isBlank_iff {c : Char} : isBlank c ↔ c.toNat ∈ whiteSpace := by
  simp only [isBlank, whiteSpace, Bool.or_eq_true, Bool.and_eq_true, decide_eq_true_eq, beq_iff_eq,
    List.mem_cons, List.not_mem_nil, or_false]
  omega

/-- A word that stands between blanks and has none at its own ends. -/
structure Stripped (cs word : List Char) : Prop where
  surrounded : ∃ before behind, cs = before ++ word ++ behind ∧
    (∀ c ∈ before, c.toNat ∈ whiteSpace) ∧ ∀ c ∈ behind, c.toNat ∈ whiteSpace
  first : ∀ c ∈ word.head?, c.toNat ∉ whiteSpace
  last : ∀ c ∈ word.getLast?, c.toNat ∉ whiteSpace

private theorem head?_dropWhile_blank (cs : List Char) :
    ∀ c ∈ (cs.dropWhile isBlank).head?, ¬ isBlank c := by
  intro c there
  have stopped := List.head?_dropWhile_not isBlank cs
  rw [Option.mem_def.mp there] at stopped
  exact Bool.eq_false_iff.mp stopped

private theorem blank_of_mem_takeWhile {cs : List Char} {c : Char}
    (there : c ∈ cs.takeWhile isBlank) : isBlank c :=
  List.all_eq_true.mp List.all_takeWhile c there

private theorem dropWhile_blank {before cs : List Char} (blank : ∀ c ∈ before, isBlank c)
    (first : ∀ c ∈ cs.head?, ¬ isBlank c) : (before ++ cs).dropWhile isBlank = cs := by
  rw [List.dropWhile_append_of_pos blank]
  cases cs with
  | nil => rfl
  | cons c cs => exact List.dropWhile_cons_of_neg (first c rfl)

/-- Blanks are dropped in front, and then from the end of what is left. -/
private theorem trim_append (cs : List Char) :
    trim cs ++ ((cs.dropWhile isBlank).reverse.takeWhile isBlank).reverse =
      cs.dropWhile isBlank := by
  rw [trim, ← List.reverse_append, List.takeWhile_append_dropWhile, List.reverse_reverse]

/-- Trimming leaves the word that stands between the blanks. -/
theorem stripped_trim (cs : List Char) : Stripped cs (trim cs) where
  surrounded := by
    simp only [← isBlank_iff]
    refine ⟨cs.takeWhile isBlank, ((cs.dropWhile isBlank).reverse.takeWhile isBlank).reverse, ?_,
      fun c there => blank_of_mem_takeWhile there,
      fun c there => blank_of_mem_takeWhile (List.mem_reverse.mp there)⟩
    rw [List.append_assoc, trim_append, List.takeWhile_append_dropWhile]
  first c there := by
    rw [← isBlank_iff]
    apply head?_dropWhile_blank cs c
    rw [← trim_append, List.head?_append]
    simp [Option.mem_def.mp there]
  last c there := by
    rw [← isBlank_iff]
    rw [trim, List.getLast?_reverse] at there
    exact head?_dropWhile_blank _ c there

/-- There is only one such word. -/
theorem Stripped.eq_trim {cs word : List Char} (h : Stripped cs word) : word = trim cs := by
  obtain ⟨⟨before, behind, rfl, front, back⟩, first, last⟩ := h
  simp only [← isBlank_iff] at front back first last
  cases word with
  | nil =>
    have all : (before ++ [] ++ behind).dropWhile isBlank = [] := by
      rw [List.dropWhile_eq_nil_iff, List.append_nil]
      exact List.forall_mem_append.mpr ⟨front, back⟩
    rw [trim, all]
    rfl
  | cons c cs =>
    have front : (before ++ (c :: cs ++ behind)).dropWhile isBlank = c :: cs ++ behind :=
      dropWhile_blank front first
    have back : (behind.reverse ++ (c :: cs).reverse).dropWhile isBlank = (c :: cs).reverse :=
      dropWhile_blank (fun d there => back d (List.mem_reverse.mp there))
        fun d there => last d (List.head?_reverse ▸ there)
    rw [trim, List.append_assoc, front, List.reverse_append, back, List.reverse_reverse]

theorem Stripped.of_not_blank {cs word before behind : List Char}
    (whole : cs = before ++ word ++ behind) (front : ∀ c ∈ before, c.toNat ∈ whiteSpace)
    (back : ∀ c ∈ behind, c.toNat ∈ whiteSpace) (visible : ∀ c ∈ word, ¬ isBlank c) :
    Stripped cs word where
  surrounded := ⟨before, behind, whole, front, back⟩
  first c there := mt isBlank_iff.mpr (visible c (List.mem_of_head? there))
  last c there := mt isBlank_iff.mpr (visible c (List.mem_of_getLast? there))

theorem AmountsTo.not_blank {base n : Nat} {cs : List Char} (h : AmountsTo base cs n) :
    ∀ c ∈ cs, ¬ isBlank c := by
  have known : ∀ signs ∈ digitSigns, signs.all fun c => !isBlank c := by decide
  simpa using h.forall_of_signs known

end Text

namespace Opcode

open Text (Denotes)

/-- The spellings of a number, hexadecimal behind `0x` or `0X` and decimal otherwise. -/
inductive Spells : List Char → Nat → Prop
  | hexadecimal {mark : Char} {cs : List Char} {n : Nat} (marked : mark = 'x' ∨ mark = 'X')
      (denoted : Denotes 16 cs n) : Spells ('0' :: mark :: cs) n
  | decimal {cs : List Char} {n : Nat} (denoted : Denotes 10 cs n) : Spells cs n

private theorem not_decimal {mark : Char} (marked : mark = 'x' ∨ mark = 'X') (digit : Nat) :
    ¬ Text.Signifies 10 mark digit := by
  have unknown : Text.digit? 10 mark = none := by
    rcases marked with rfl | rfl
    · decide
    · decide
  rw [← Text.digit?_eq_some (by decide), unknown]
  exact nofun

/-- The first two characters decide how a word is split. -/
private theorem splitBase_cases (word : List Char) :
    (∃ mark cs, (mark = 'x' ∨ mark = 'X') ∧ word = '0' :: mark :: cs ∧
      splitBase word = (16, cs)) ∨ splitBase word = (10, word) := by
  unfold splitBase
  split
  · exact .inl ⟨_, _, .inl rfl, rfl, rfl⟩
  · exact .inl ⟨_, _, .inr rfl, rfl, rfl⟩
  · exact .inr rfl

/-- A decimal spelling is not taken for a hexadecimal one, since neither mark is a decimal digit. -/
theorem splitBase_of_decimal {cs : List Char} {n : Nat} (denoted : Denotes 10 cs n) :
    splitBase cs = (10, cs) := by
  rcases splitBase_cases cs with ⟨mark, digits, marked, rfl, _⟩ | whole
  · obtain ⟨digit, signified⟩ :=
      denoted.2.signifies (List.mem_cons_of_mem '0' List.mem_cons_self)
    exact absurd signified (not_decimal marked digit)
  · exact whole

theorem base_splitBase (word : List Char) :
    (splitBase word).1 = 16 ∨ (splitBase word).1 = 10 := by
  rcases splitBase_cases word with ⟨_, _, _, _, split⟩ | whole
  · exact .inl (by rw [split])
  · exact .inr (by rw [whole])

theorem spells_iff {word : List Char} {n : Nat} :
    Spells word n ↔ Denotes (splitBase word).1 (splitBase word).2 n := by
  constructor
  · intro spelled
    cases spelled with
    | hexadecimal marked denoted =>
      rcases marked with rfl | rfl
      · exact denoted
      · exact denoted
    | decimal denoted => rwa [splitBase_of_decimal denoted]
  · intro denoted
    rcases splitBase_cases word with ⟨mark, cs, marked, rfl, split⟩ | whole
    · rw [split] at denoted
      exact .hexadecimal marked denoted
    · rw [whole] at denoted
      exact .decimal denoted

theorem Spells.not_blank {word : List Char} {n : Nat} (h : Spells word n) :
    ∀ c ∈ word, ¬ Text.isBlank c := by
  cases h with
  | @hexadecimal mark cs _ marked denoted =>
    rw [List.forall_mem_cons, List.forall_mem_cons]
    refine ⟨by decide, ?_, denoted.2.not_blank⟩
    rcases marked with rfl | rfl
    · decide
    · decide
  | decimal denoted => exact denoted.2.not_blank

private theorem le_foldl {base : Nat} (positive : 0 < base) (digits : List Nat) (n : Nat) :
    n ≤ digits.foldl (fun n digit => n * base + digit) n := by
  induction digits generalizing n with
  | nil => exact Nat.le_refl n
  | cons digit digits ih =>
    calc
      n ≤ n * base := Nat.le_mul_of_pos_right n positive
      _ ≤ n * base + digit := Nat.le_add_right _ _
      _ ≤ _ := ih _

/-- A number that was too large once does not become smaller, so nothing wraps around. -/
theorem accumulate?_eq {base : Nat} (positive : 0 < base) (digits : List Nat) (n : UInt16) :
    accumulate? base n digits =
      let value := digits.foldl (fun n digit => n * base + digit) n.toNat
      if value < UInt16.size then some value.toUInt16 else none := by
  induction digits generalizing n with
  | nil => simp [accumulate?, n.toNat_lt]
  | cons digit digits ih =>
    rw [accumulate?, List.foldl_cons]
    by_cases fits : n.toNat * base + digit < UInt16.size
    · have same : (n.toNat * base + digit).toUInt16.toNat = n.toNat * base + digit :=
        Nat.mod_eq_of_lt fits
      simp only [fits, ite_true, ih, same]
    · have beyond := le_foldl positive digits (n.toNat * base + digit)
      simp only [fits, ite_false]
      rw [if_neg (by omega)]

/-- What is read of a word, in terms of the numbers that it spells. -/
theorem read_of_spells {text : String} {n : Nat} (spelled : Spells (Text.trim text.toList) n) :
    read text =
      if n < UInt16.size then .ok ⟨n.toUInt16⟩
      else .error (.outOfRange (String.ofList (Text.trim text.toList))) := by
  obtain ⟨nonempty, digits, written, rfl⟩ := spells_iff.mp spelled
  have base := base_splitBase (Text.trim text.toList)
  have known := (Text.digits?_eq_some (by omega)).mpr ⟨nonempty, written⟩
  simp only [read, known, accumulate?_eq (show 0 < (splitBase (Text.trim text.toList)).1 by omega),
    UInt16.toNat_zero, ← Text.ofDigits_reverse]
  split <;> simp_all

/-- A word that spells no number is malformed, however long it is. -/
theorem read_of_not_spells {text : String} (unspelled : ∀ n, ¬ Spells (Text.trim text.toList) n) :
    read text = .error (.malformed (String.ofList (Text.trim text.toList))) := by
  have base := base_splitBase (Text.trim text.toList)
  have unknown : Text.digits? (splitBase (Text.trim text.toList)).1
      (splitBase (Text.trim text.toList)).2 = none := by
    rw [Option.eq_none_iff_forall_ne_some]
    intro digits known
    obtain ⟨nonempty, written⟩ := (Text.digits?_eq_some (by omega)).mp known
    exact unspelled _ (spells_iff.mpr ⟨nonempty, digits, written, rfl⟩)
  simp only [read, unknown]

def figures (o : Opcode) : List Nat :=
  let n := o.code.toNat
  [n / 4096, n / 256 % 16, n / 16 % 16, n % 16]

theorem spell_eq (o : Opcode) : o.spell = '0' :: 'x' :: o.figures.map Text.digitChar := rfl

theorem figures_lt (o : Opcode) : ∀ digit ∈ o.figures, digit < 16 := by
  have bounded : o.code.toNat < 65536 := o.code.toNat_lt
  simp only [figures, List.forall_mem_cons]
  exact ⟨by omega, by omega, by omega, by omega, nofun⟩

theorem ofDigits_figures (o : Opcode) : Nat.ofDigits 16 o.figures.reverse = o.code.toNat := by
  simp only [figures, List.reverse_cons, List.reverse_nil, List.nil_append, List.cons_append,
    Nat.ofDigits_cons, Nat.ofDigits_nil]
  omega

theorem amountsTo_figures (o : Opcode) :
    Text.AmountsTo 16 (o.figures.map Text.digitChar) o.code.toNat := by
  refine ⟨o.figures, ?_, o.ofDigits_figures.symm⟩
  rw [List.forall₂_map_left_iff, List.forall₂_same]
  exact fun digit there => Text.signifies_digitChar (by decide) (o.figures_lt digit there)

/-- The canonical spelling is one of the spellings. -/
theorem spells_spell (o : Opcode) : Spells o.spell o.code.toNat :=
  .hexadecimal (.inl rfl) ⟨List.cons_ne_nil _ _, o.amountsTo_figures⟩

/-- The canonical spelling has no blanks around it. -/
theorem trim_spell (o : Opcode) : Text.trim o.spell = o.spell := by
  have whole : o.spell = [] ++ o.spell ++ [] := (List.append_nil _).symm
  exact (Text.Stripped.of_not_blank whole nofun nofun o.spells_spell.not_blank).eq_trim.symm

/-- What is written for an opcode is read as that opcode. -/
theorem read_display (o : Opcode) : read o.display = .ok o := by
  have word : Text.trim o.display.toList = o.spell := by
    rw [display, String.toList_ofList, trim_spell]
  have same : o.code.toNat.toUInt16 = o.code := UInt16.ofNat_toNat
  rw [read_of_spells (word ▸ o.spells_spell), if_pos o.code.toNat_lt, same]

/-- A word that spells a number of at most sixteen bits is read as its opcode. A larger number is out of
range, and any other word is malformed. -/
theorem read_exact (text : String) :
    ∃ word, Text.Stripped text.toList word ∧
      (∀ other, Text.Stripped text.toList other → other = word) ∧
      (∀ n, Spells word n → n ≤ 65535 → ∃ opcode, read text = .ok opcode ∧ opcode.code.toNat = n) ∧
      (∀ n, Spells word n → 65535 < n → read text = .error (.outOfRange (String.ofList word))) ∧
      ((∀ n, ¬ Spells word n) → read text = .error (.malformed (String.ofList word))) := by
  refine ⟨Text.trim text.toList, Text.stripped_trim _, fun other stripped => stripped.eq_trim,
    fun n spelled fits => ?_, fun n spelled beyond => ?_, read_of_not_spells⟩
  · have inside : n < UInt16.size := Nat.lt_succ_of_le fits
    exact ⟨_, (read_of_spells spelled).trans (if_pos inside), Nat.mod_eq_of_lt inside⟩
  · have outside : ¬ n < UInt16.size := Nat.not_lt.mpr beyond
    exact (read_of_spells spelled).trans (if_neg outside)

end Opcode

end OpcodeBinding
