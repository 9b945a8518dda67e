import OpcodeBinding.Proofs.ReferenceText

/-! All spellings of one opcode, told by its canonical spelling and its decimal numeral. Canonical
spellings have one length, so their order as texts is the order of the opcodes. They are all that the
first column of a reference table has. -/
namespace OpcodeBinding

namespace Text

variable {cs : List Char} {n : Nat}

section LetterCase

private theorem digit?_toUpper_ascii :
    ∀ n < 128, digit? 16 (Char.ofNat n).toUpper = digit? 16 (Char.ofNat n) := by
  decide

private theorem digit?_toUpper (c : Char) : digit? 16 c.toUpper = digit? 16 c := by
  by_cases ascii : c.toNat < 128
  · have same := digit?_toUpper_ascii c.toNat ascii
    rwa [Char.ofNat_toNat] at same
  · have large : ¬ ('a'.val ≤ c.val ∧ c.val ≤ 'z'.val) := by
      rintro ⟨-, small⟩
      exact ascii (Nat.lt_of_le_of_lt (UInt32.le_iff_toNat_le.mp small) (by decide))
    have same : c.toUpper = c := dif_neg large
    rw [same]

/-- The case of its letters makes no difference to a hexadecimal numeral. -/
theorem amountsTo_map_toUpper : AmountsTo 16 (cs.map Char.toUpper) n ↔ AmountsTo 16 cs n := by
  have same : ∀ c digit, Signifies 16 c.toUpper digit ↔ Signifies 16 c digit := by
    intro c digit
    rw [← digit?_eq_some (by decide), ← digit?_eq_some (by decide), digit?_toUpper]
  simp only [AmountsTo, List.forall₂_map_left_iff, same]

private theorem signs_toUpper :
    ∀ signs ∈ digitSigns, ∀ digit < 16, signs[digit]?.map Char.toUpper = some (digitChar digit) := by
  decide

private theorem toUpper_eq_digitChar {c : Char} {digit : Nat} (signified : Signifies 16 c digit) :
    c.toUpper = digitChar digit := by
  obtain ⟨below, signs, listed, there⟩ := signified
  have upper := signs_toUpper signs listed digit below
  rw [there, Option.map_some] at upper
  exact Option.some.inj upper

private theorem map_toUpper_of_signs {digits : List Nat}
    (signs : List.Forall₂ (Signifies 16) cs digits) :
    cs.map Char.toUpper = digits.map digitChar := by
  induction signs with
  | nil => rfl
  | cons first _ ih => rw [List.map_cons, List.map_cons, toUpper_eq_digitChar first, ih]

/-- The number and the length of a hexadecimal numeral tell all but the case of its letters. -/
theorem AmountsTo.map_toUpper_eq {digits : List Nat} (h : AmountsTo 16 cs n)
    (width : cs.length = digits.length) (below : ∀ digit ∈ digits, digit < 16)
    (amount : Nat.ofDigits 16 digits.reverse = n) : cs.map Char.toUpper = digits.map digitChar := by
  obtain ⟨written, signs, rfl⟩ := h
  have lengths : digits.reverse.length = written.reverse.length := by
    rw [List.length_reverse, List.length_reverse, ← signs.length_eq, width]
  have same : digits.reverse = written.reverse := by
    apply Nat.ofDigits_inj_of_len_eq (by decide) lengths _ _ amount
    · exact fun digit there => below digit (List.mem_reverse.mp there)
    · exact fun digit there => lt_of_signs signs digit (List.mem_reverse.mp there)
  rw [map_toUpper_of_signs signs, List.reverse_injective same]

end LetterCase

section Order

private theorem digitChar_lt : ∀ x < 16, ∀ y < 16, digitChar x < digitChar y ↔ x < y := by
  decide

private theorem digitChar_inj : ∀ x < 16, ∀ y < 16, digitChar x = digitChar y ↔ x = y := by
  decide

/-- The first of the two parts decides unless it is the same. -/
private theorem leading_lt {bound x y v w : Nat} (hv : v < bound) (hw : w < bound) :
    v + bound * x < w + bound * y ↔ x < y ∨ x = y ∧ v < w := by
  rcases Nat.lt_trichotomy x y with less | rfl | greater
  · have step : bound * (x + 1) ≤ bound * y := Nat.mul_le_mul_left bound less
    rw [Nat.mul_add_one] at step
    omega
  · omega
  · have step : bound * (y + 1) ≤ bound * x := Nat.mul_le_mul_left bound greater
    rw [Nat.mul_add_one] at step
    omega

/-- Numerals of one length are ordered as their numbers, since the digits are in the order of their
characters. -/
theorem map_digitChar_lt {xs ys : List Nat} (width : xs.length = ys.length)
    (hx : ∀ digit ∈ xs, digit < 16) (hy : ∀ digit ∈ ys, digit < 16) :
    xs.map digitChar < ys.map digitChar ↔
      Nat.ofDigits 16 xs.reverse < Nat.ofDigits 16 ys.reverse := by
  induction xs generalizing ys with
  | nil =>
    rw [List.length_eq_zero_iff.mp width.symm]
    simp
  | cons x xs ih =>
    obtain _ | ⟨y, ys⟩ := ys
    · contradiction
    rw [List.forall_mem_cons] at hx hy
    rw [List.length_cons, List.length_cons, Nat.add_right_cancel_iff] at width
    have below : ∀ digits : List Nat, (∀ digit ∈ digits, digit < 16) →
        Nat.ofDigits 16 digits.reverse < 16 ^ digits.length := by
      intro digits small
      rw [← List.length_reverse]
      apply Nat.ofDigits_lt_base_pow_length (by decide)
      exact fun digit there => small digit (List.mem_reverse.mp there)
    rw [List.map_cons, List.map_cons, List.cons_lt_cons_iff, digitChar_lt x hx.1 y hy.1,
      digitChar_inj x hx.1 y hy.1, ih width hx.2 hy.2, Nat.ofDigits_reverse_cons,
      Nat.ofDigits_reverse_cons, width]
    exact (leading_lt (width ▸ below xs hx.2) (below ys hy.2)).symm

end Order

end Text

namespace Opcode

open Text (AmountsTo Denotes)

theorem toList_display (o : Opcode) : o.display.toList = o.spell := String.toList_ofList

/-- The canonical spelling has four digits, with letters in upper case. -/
theorem display_canonical (o : Opcode) :
    ∃ digits : List Char, o.display.toList = '0' :: 'x' :: digits ∧ digits.length = 4 ∧
      ∀ c ∈ digits, c ∈ "0123456789ABCDEF".toList := by
  have known : ∀ digit < 16, Text.digitChar digit ∈ "0123456789ABCDEF".toList := by decide
  refine ⟨o.figures.map Text.digitChar, by rw [toList_display, spell_eq], rfl, ?_⟩
  rw [List.forall_mem_map]
  exact fun digit there => known digit (o.figures_lt digit there)

/-- The spellings of an opcode, told by what is displayed and the decimal numeral. Zeros in front of
the digits may be added, or dropped as long as a digit is left, and the mark and the letters may be of
either case. -/
inductive Respells (o : Opcode) : List Char → Prop
  | hexadecimal {mark : Char} {dropped zeros : Nat} {cs : List Char}
      (canonical : o.display.toList =
        '0' :: 'x' :: (List.replicate dropped '0' ++ cs.map Char.toUpper))
      (nonempty : cs ≠ []) (marked : mark = 'x' ∨ mark = 'X') :
      Respells o ('0' :: mark :: (List.replicate zeros '0' ++ cs))
  | decimal (zeros : Nat) : Respells o (List.replicate zeros '0' ++ Text.decimal o.code.toNat)

variable {o : Opcode} {word : List Char}

/-- Every spelling denotes the number of the opcode. -/
theorem Respells.spells (h : Respells o word) : Spells word o.code.toNat := by
  cases h with
  | @hexadecimal mark dropped zeros cs canonical nonempty marked =>
    rw [toList_display, spell_eq, List.cons.injEq, List.cons.injEq] at canonical
    have amount := o.amountsTo_figures
    rw [canonical.2.2] at amount
    have digits := Text.amountsTo_map_toUpper.mp (amount.of_zeros_append (by decide) (by decide))
    exact .hexadecimal marked ⟨by simp [nonempty], digits.zeros_append (by decide) zeros⟩
  | decimal zeros =>
    have digits := Text.amountsTo_decimal o.code.toNat
    exact .decimal ⟨by simp [Text.decimal_ne_nil], digits.zeros_append (by decide) zeros⟩

/-- Four hexadecimal digits of the opcode's number are those of its canonical spelling. -/
private theorem display_eq_of_amountsTo {cs : List Char} (amount : AmountsTo 16 cs o.code.toNat)
    (width : cs.length = 4) : o.display.toList = '0' :: 'x' :: cs.map Char.toUpper := by
  have figures : cs.length = o.figures.length := width
  rw [amount.map_toUpper_eq figures o.figures_lt o.ofDigits_figures, toList_display, spell_eq]

/-- There are no other spellings. -/
theorem respells_of_spells (h : Spells word o.code.toNat) : Respells o word := by
  cases h with
  | @hexadecimal mark cs _ marked denoted =>
    obtain ⟨nonempty, amount⟩ := denoted
    by_cases long : 4 ≤ cs.length
    · obtain ⟨zeros, last, rfl, width, amount⟩ :=
        amount.exists_zeros (by decide) o.code.toNat_lt long
      have canonical : o.display.toList =
          '0' :: 'x' :: (List.replicate 0 '0' ++ last.map Char.toUpper) :=
        display_eq_of_amountsTo amount width
      refine .hexadecimal canonical ?_ marked
      rintro rfl
      contradiction
    · let dropped := 4 - cs.length
      have filled : AmountsTo 16 (List.replicate dropped '0' ++ cs) o.code.toNat :=
        amount.zeros_append (by decide) dropped
      have width : (List.replicate dropped '0' ++ cs).length = 4 := by
        rw [List.length_append, List.length_replicate]
        omega
      have canonical := display_eq_of_amountsTo filled width
      rw [List.map_append, List.map_replicate] at canonical
      change Respells o ('0' :: mark :: (List.replicate 0 '0' ++ cs))
      exact .hexadecimal canonical nonempty marked
  | decimal denoted =>
    obtain ⟨zeros, rfl⟩ := denoted.eq_decimal
    exact .decimal zeros

theorem read_eq_ok {text : String} :
    read text = .ok o ↔ Spells (Text.trim text.toList) o.code.toNat := by
  have same : o.code.toNat.toUInt16 = o.code := UInt16.ofNat_toNat
  constructor
  · intro accepted
    by_cases spelled : ∃ n, Spells (Text.trim text.toList) n
    · obtain ⟨n, spelled⟩ := spelled
      rw [read_of_spells spelled] at accepted
      split at accepted
      case isTrue fits =>
        cases accepted
        have inside : n.toUInt16.toNat = n := Nat.mod_eq_of_lt fits
        rwa [inside]
      case isFalse => contradiction
    · rw [read_of_not_spells (not_exists.mp spelled)] at accepted
      contradiction
  · intro spelled
    rw [read_of_spells spelled, if_pos o.code.toNat_lt, same]

/-- An opcode is read of its spellings between blanks, and of nothing else. -/
theorem read_eq_ok_iff_respells {text : String} :
    read text = .ok o ↔ ∃ before word behind, text.toList = before ++ word ++ behind ∧
      (∀ c ∈ before, c.toNat ∈ Text.whiteSpace) ∧ (∀ c ∈ behind, c.toNat ∈ Text.whiteSpace) ∧
      Respells o word := by
  rw [read_eq_ok]
  constructor
  · intro spelled
    obtain ⟨before, behind, whole, front, back⟩ := (Text.stripped_trim text.toList).surrounded
    exact ⟨before, _, behind, whole, front, back, respells_of_spells spelled⟩
  · rintro ⟨before, word, behind, whole, front, back, respelled⟩
    have stripped := Text.Stripped.of_not_blank whole front back respelled.spells.not_blank
    exact stripped.eq_trim ▸ respelled.spells

section Order

variable {a b : Opcode}

private theorem spell_lt_iff : a.spell < b.spell ↔ compare a b = .lt := by
  have width : a.figures.length = b.figures.length := rfl
  have numeric : compare a.code b.code = .lt ↔ a.code < b.code := Std.compare_eq_lt
  change _ ↔ compare a.code b.code = .lt
  rw [spell_eq, spell_eq, List.cons_lt_cons_iff, List.cons_lt_cons_iff,
    Text.map_digitChar_lt width a.figures_lt b.figures_lt, ofDigits_figures, ofDigits_figures,
    numeric, UInt16.lt_iff_toNat_lt]
  simp

/-- Displayed opcodes are ordered as texts just as they are as numbers. -/
theorem display_lt_iff : a.display < b.display ↔ compare a b = .lt := by
  change a.display.toList < b.display.toList ↔ _
  rw [toList_display, toList_display, spell_lt_iff]

theorem display_le_iff : a.display ≤ b.display ↔ (compare a b).isLE := by
  rw [← String.not_lt, display_lt_iff, compare_swap a]
  cases compare b a <;> decide

/-- Opcodes may be sorted before or after they are written. -/
theorem map_display_sort (codes : List Opcode) :
    (sort codes).map display = (codes.map display).mergeSort fun s t => decide (s ≤ t) := by
  apply List.map_mergeSort
  intro a _ b _
  simp only [display_le_iff, Bool.decide_eq_true]

theorem Ascending.map_display {codes : List Opcode} (h : Ascending codes) :
    (codes.map display).Pairwise (· < ·) :=
  List.pairwise_map.mpr (h.imp display_lt_iff.mpr)

end Order

end Opcode

namespace Text

def firstField (line : List Char) : List Char := strip (line.takeWhile (· != '│'))

/-- The texts below the title in the first column of a table. A row of several lines may have a blank
field on the later ones. -/
def firstColumn (table : List Char) : List (List Char) :=
  let rows := ((table.splitOn '\n').drop 2).dropLast.dropLast
  (rows.map firstField).filter (!·.isEmpty)

/-- The first field ends at the first separator. -/
theorem firstField_joinCells {cell : List Char} (cells : List (List Char)) (apart : '│' ∉ cell) :
    firstField (Grid.joinCells '│' (cell :: cells)) = strip cell := by
  have inside : ∀ c ∈ ' ' :: cell, (c != '│') = true := by
    rw [List.forall_mem_cons]
    exact ⟨by decide, fun c there => bne_iff_ne.mpr (ne_of_mem_of_not_mem there apart)⟩
  cases cells with
  | nil =>
    have whole : (' ' :: cell ++ [' ']).takeWhile (· != '│') = ' ' :: cell ++ [' '] := by
      rw [List.takeWhile_append_of_pos inside, List.takeWhile_cons_of_pos (by decide),
        List.takeWhile_nil]
    rw [Grid.joinCells, List.intercalate_singleton, ← List.cons_append, firstField, whole,
      List.cons_append, strip_cons_space, strip_append_space]
  | cons next cells =>
    rw [Grid.joinCells, List.intercalate_cons_cons, List.append_assoc, List.append_assoc,
      ← List.cons_append, List.singleton_append, firstField, List.takeWhile_append_of_pos inside,
      List.takeWhile_cons_of_neg (by decide), List.append_nil, strip_cons_space]

end Text

namespace Grid

open Text (firstField firstColumn)

variable {n : Nat} [NeZero n] {aligns : Vector Align n} {widths : Vector Nat n}
  {row : Vector (List Char) n}

theorem firstField_textLine (apart : '│' ∉ row.head) :
    firstField (textLine aligns widths row) = Text.strip row.head := by
  have written : (filledCells aligns widths row)[0]? =
      some (' ' :: (pad aligns.head widths.head row.head ++ [' '])) := by
    simp [filledCells, Vector.head, NeZero.pos n]
  have outside : '│' ∉ ' ' :: (pad aligns.head widths.head row.head ++ [' ']) := by
    intro there
    rcases List.mem_cons.mp there with space | inside
    · exact absurd space (by decide)
    rcases List.mem_append.mp inside with filled | space
    · rcases mem_pad filled with space | inside
      · exact absurd space (by decide)
      · exact apart inside
    · exact absurd (List.mem_singleton.mp space) (by decide)
  -- Other cells may have separators of their own, so the line is read up to the first one only.
  rw [textLine_eq]
  cases cells : filledCells aligns widths row with
  | nil =>
    rw [cells] at written
    contradiction
  | cons cell rest =>
    rw [cells, List.getElem?_cons_zero, Option.some.injEq] at written
    rw [written, Text.firstField_joinCells rest outside, Text.strip_cons_space,
      Text.strip_append_space, strip_pad]

/-- A row of several lines shows a text of one line only on the first. -/
theorem firstFields_rowLines (field : Text.Field row.head) (nonempty : row.head ≠ []) :
    ((rowLines aligns widths row).map firstField).filter (!·.isEmpty) = [row.head] := by
  have shown : ∀ k, firstField (textLine aligns widths (row.map fun cell =>
      (Text.lines cell)[k]?.getD [])) = if k = 0 then row.head else [] := by
    intro k
    have cell : (row.map fun cell => (Text.lines cell)[k]?.getD []).head =
        if k = 0 then row.head else [] := by
      rw [Vector.head, Vector.getElem_map]
      exact Text.getElem?_lines_of_unbroken field.line k
    rw [firstField_textLine, cell]
    · split
      · exact field.strip_eq
      · rfl
    · rw [cell]
      split
      · exact field.column
      · exact List.not_mem_nil
  obtain ⟨later, several⟩ := Nat.exists_eq_add_of_le' (height_pos row)
  rw [rowLines_eq, several, List.range_succ_eq_map, List.map_cons, List.map_map, List.map_cons,
    List.map_map, shown 0, if_pos rfl, List.filter_cons_of_pos (by simpa using nonempty),
    List.filter_eq_nil_iff.mpr]
  intro blank there
  obtain ⟨k, _, rfl⟩ := List.mem_map.mp there
  rw [Function.comp_apply, Function.comp_apply, shown, if_neg (Nat.succ_ne_zero k)]
  decide

theorem firstColumn_render {grid : Grid n} (titles : ∀ cell ∈ grid.titles, '\n' ∉ cell)
    (fields : ∀ row ∈ grid.rows, Text.Field row.head ∧ row.head ≠ []) :
    firstColumn grid.render = grid.rows.map Vector.head := by
  have rows : ((grid.rows.flatMap (rowLines grid.aligns grid.widths)).map firstField).filter
      (!·.isEmpty) = grid.rows.map Vector.head := by
    rw [List.map_flatMap, List.filter_flatMap, List.map_eq_flatMap]
    apply List.flatMap_congr
    intro row there
    exact firstFields_rowLines (fields row there).1 (fields row there).2
  rw [firstColumn, render, Text.splitOn_ended grid.unbroken_lines, lines_of_unbroken_titles titles]
  simp only [List.cons_append, List.drop_succ_cons, List.drop_zero, List.dropLast_concat]
  exact rows

end Grid

/-- The first column of a reference table has what is displayed for the opcodes. -/
theorem Module.firstColumn_referenceTable {σ : Type} (m : Module σ) :
    Text.firstColumn m.referenceTable.toList = m.opcodes.map fun o => o.display.toList := by
  have titles : ∀ cell ∈ (referenceGrid m.descriptors).titles, '\n' ∉ cell :=
    show ∀ cell ∈ (referenceGrid []).titles, '\n' ∉ cell by decide
  rw [referenceTable, String.toList_ofList, Grid.firstColumn_render titles, referenceGrid,
    ← m.map_opcode_descriptors, List.map_map, List.map_map]
  · apply List.map_congr_left
    exact fun d _ => d.opcode.toList_display.symm
  · intro row there
    obtain ⟨d, _, rfl⟩ := List.mem_map.mp there
    exact ⟨d.opcode.field_spell, List.cons_ne_nil _ _⟩

namespace Opcode

/-- An opcode is read of its spellings and of nothing else, and what is displayed is one of them.
Displayed opcodes are sorted as texts just as they are as numbers. -/
theorem spellings_canonical :
    (∀ o : Opcode,
      (∃ digits : List Char, o.display.toList = '0' :: 'x' :: digits ∧ digits.length = 4 ∧
        ∀ c ∈ digits, c ∈ "0123456789ABCDEF".toList) ∧
      Respells o o.display.toList ∧ read o.display = .ok o) ∧
    (∀ (o : Opcode) (text : String),
      read text = .ok o ↔ ∃ before word behind, text.toList = before ++ word ++ behind ∧
        (∀ c ∈ before, c.toNat ∈ Text.whiteSpace) ∧ (∀ c ∈ behind, c.toNat ∈ Text.whiteSpace) ∧
        Respells o word) ∧
    (∀ codes : List Opcode,
      (sort codes).map display = (codes.map display).mergeSort fun s t => decide (s ≤ t)) ∧
    ∀ {σ : Type} (m : Module σ),
      Text.firstColumn m.referenceTable.toList = m.opcodes.map (fun o => o.display.toList) ∧
      (∀ o, o ∈ m.opcodes ↔ m.contains o) ∧ (m.opcodes.map display).Pairwise (· < ·) := by
  refine ⟨fun o => ⟨o.display_canonical, ?_, o.read_display⟩,
    fun o text => read_eq_ok_iff_respells, map_display_sort,
    fun m => ⟨m.firstColumn_referenceTable, fun o => ?_, m.opcodes_ascending.map_display⟩⟩
  · rw [toList_display]
    exact respells_of_spells o.spells_spell
  · rw [Module.mem_opcodes, Module.contains_eq]

end Opcode

end OpcodeBinding
