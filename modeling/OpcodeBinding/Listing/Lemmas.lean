import Mathlib.Data.List.Basic
import OpcodeBinding.Listing

/-! The lines of a grid, character by character. Texts of one line give rows of one line. -/
namespace OpcodeBinding

namespace Text

/-- Lines have the characters of their text but for those that end them. -/
theorem mem_of_mem_lines {cs line : List Char} {c : Char} (listed : line ∈ lines cs)
    (there : c ∈ line) : c ∈ cs ∧ c ≠ '\n' := by
  fun_induction lines cs generalizing line with
  | case1 => contradiction
  | case2 cs ih =>
    rcases List.mem_cons.mp listed with rfl | later
    · contradiction
    · exact (ih later there).imp_left (List.mem_cons_of_mem _)
  | case3 cs ih =>
    rcases List.mem_cons.mp listed with rfl | later
    · contradiction
    · exact (ih later there).imp_left fun inside =>
        List.mem_cons_of_mem _ (List.mem_cons_of_mem _ inside)
  | case4 d cs other =>
    rw [List.mem_singleton.mp listed, List.mem_singleton] at there
    subst there
    exact ⟨List.mem_cons_self, other⟩
  | case5 d cs other _ first rest broken ih =>
    rw [broken] at ih
    rcases List.mem_cons.mp listed with rfl | later
    · rcases List.mem_cons.mp there with rfl | inside
      · exact ⟨List.mem_cons_self, other⟩
      · exact (ih List.mem_cons_self inside).imp_left (List.mem_cons_of_mem _)
    · exact (ih (List.mem_cons_of_mem _ later) there).imp_left (List.mem_cons_of_mem _)

theorem lines_of_unbroken {c : Char} {cs : List Char} (unbroken : '\n' ∉ c :: cs) :
    lines (c :: cs) = [c :: cs] := by
  induction cs generalizing c with
  | nil =>
    rw [lines, lines]
    · rintro rfl
      simp at unbroken
    · nofun
  | cons d cs ih =>
    rw [List.mem_cons, not_or] at unbroken
    rw [lines, ih unbroken.2]
    · rintro rfl
      exact unbroken.1 rfl
    · rintro _ _ ⟨⟩
      exact unbroken.2 List.mem_cons_self

/-- Only a text without a line feed is the whole of its first line, and then it has no other. -/
theorem length_lines_of_unbroken {cs : List Char} (unbroken : '\n' ∉ cs) : (lines cs).length ≤ 1 := by
  cases cs with
  | nil => exact Nat.zero_le 1
  | cons c cs => rw [lines_of_unbroken unbroken]; exact Nat.le_refl 1

theorem getElem?_lines_of_unbroken {cs : List Char} (unbroken : '\n' ∉ cs) (k : Nat) :
    (lines cs)[k]?.getD [] = if k = 0 then cs else [] := by
  cases k with
  | zero =>
    cases cs with
    | nil => rfl
    | cons c cs => rw [lines_of_unbroken unbroken]; rfl
  | succ k =>
    have short := length_lines_of_unbroken unbroken
    rw [List.getElem?_eq_none (by omega), Option.getD_none, if_neg (Nat.succ_ne_zero k)]

end Text

namespace Grid

variable {n : Nat} {aligns : Vector Align n} {widths : Vector Nat n} {row : Vector (List Char) n}

def column (grid : Grid n) (i : Fin n) : List (List Char) := grid.rows.map (·.get i)

def Unbroken (grid : Grid n) : Prop := ∀ row ∈ grid.titles :: grid.rows, ∀ cell ∈ row, '\n' ∉ cell

/-- What bounds a folded maximum bounds everything in it, and the other way round. -/
theorem foldl_max_le {xs : List Nat} {start bound : Nat} :
    xs.foldl max start ≤ bound ↔ start ≤ bound ∧ ∀ x ∈ xs, x ≤ bound := by
  induction xs generalizing start with
  | nil => simp
  | cons x xs ih => rw [List.foldl_cons, ih, Nat.max_le, List.forall_mem_cons, and_assoc]

theorem foldl_max_mem (xs : List Nat) (start : Nat) : xs.foldl max start ∈ start :: xs := by
  induction xs generalizing start with
  | nil => exact List.mem_singleton_self start
  | cons x xs ih =>
    rcases List.mem_cons.mp (ih (max start x)) with first | later
    · rw [List.foldl_cons, first]
      rcases Nat.le_total start x with less | greater
      · rw [Nat.max_eq_right less]
        exact List.mem_cons_of_mem _ List.mem_cons_self
      · rw [Nat.max_eq_left greater]
        exact List.mem_cons_self
    · exact List.mem_cons_of_mem _ (List.mem_cons_of_mem _ later)

def height (row : Vector (List Char) n) : Nat :=
  ((row.map Text.lines).toList.map List.length).foldl max 1

theorem height_le {bound : Nat} :
    height row ≤ bound ↔ 1 ≤ bound ∧ ∀ cell ∈ row, (Text.lines cell).length ≤ bound := by
  rw [height, foldl_max_le]
  simp

theorem height_pos (row : Vector (List Char) n) : 1 ≤ height row :=
  (height_le.mp (Nat.le_refl _)).1

theorem length_lines_le_height {cell : List Char} (there : cell ∈ row) :
    (Text.lines cell).length ≤ height row :=
  (height_le.mp (Nat.le_refl _)).2 cell there

/-- Line `k` of a row has line `k` of each of its texts, or a blank. -/
theorem rowLines_eq : rowLines aligns widths row = (List.range (height row)).map fun k =>
    textLine aligns widths (row.map fun cell => (Text.lines cell)[k]?.getD []) := by
  simp [rowLines, height, Function.comp_def]

/-- A row of one-line texts takes one line. -/
theorem rowLines_of_unbroken (unbroken : ∀ cell ∈ row, '\n' ∉ cell) :
    rowLines aligns widths row = [textLine aligns widths row] := by
  have single : height row = 1 := by
    apply Nat.le_antisymm _ (height_pos row)
    rw [height_le]
    exact ⟨Nat.le_refl 1, fun cell there => Text.length_lines_of_unbroken (unbroken cell there)⟩
  have first : (row.map fun cell => (Text.lines cell)[0]?.getD []) = row := by
    ext i hi
    rw [Vector.getElem_map,
      Text.getElem?_lines_of_unbroken (unbroken row[i] (Vector.getElem_mem hi)), if_pos rfl]
  rw [rowLines_eq, single, List.range_one, List.map_singleton, first]

/-- A line for the titles, a rule, the lines of each row, and a rule. -/
theorem lines_of_unbroken_titles {grid : Grid n} (unbroken : ∀ cell ∈ grid.titles, '\n' ∉ cell) :
    grid.lines = textLine grid.aligns grid.widths grid.titles :: ruleLine '┼' grid.widths ::
      (grid.rows.flatMap (rowLines grid.aligns grid.widths) ++ [ruleLine '┴' grid.widths]) := by
  simp only [lines, rowLines_of_unbroken unbroken, List.cons_append, List.nil_append]

/-- Where all texts have one line, so do all rows. -/
theorem lines_of_unbroken {grid : Grid n} (unbroken : grid.Unbroken) :
    grid.lines = textLine grid.aligns grid.widths grid.titles :: ruleLine '┼' grid.widths ::
      (grid.rows.map (textLine grid.aligns grid.widths) ++ [ruleLine '┴' grid.widths]) := by
  rw [Unbroken, List.forall_mem_cons] at unbroken
  have rows : grid.rows.flatMap (rowLines grid.aligns grid.widths) =
      grid.rows.map (textLine grid.aligns grid.widths) := by
    rw [List.map_eq_flatMap]
    apply List.flatMap_congr
    intro row there
    exact rowLines_of_unbroken (unbroken.2 row there)
  rw [lines_of_unbroken_titles unbroken.1, rows]

theorem mem_pad {align : Align} {width : Nat} {line : List Char} {c : Char}
    (there : c ∈ pad align width line) : c = ' ' ∨ c ∈ line := by
  cases align with
  | left =>
    rcases List.mem_append.mp there with written | filled
    · exact .inr written
    · exact .inl (List.eq_of_mem_replicate filled)
  | right =>
    rcases List.mem_append.mp there with filled | written
    · exact .inl (List.eq_of_mem_replicate filled)
    · exact .inr written

private theorem mem_intercalate {separator c : Char} {cells : List (List Char)}
    (there : c ∈ List.intercalate [separator] cells) :
    c = separator ∨ ∃ cell ∈ cells, c ∈ cell := by
  induction cells with
  | nil => contradiction
  | cons cell cells ih =>
    cases cells with
    | nil =>
      rw [List.intercalate_singleton] at there
      exact .inr ⟨cell, List.mem_cons_self, there⟩
    | cons next cells =>
      rw [List.intercalate_cons_cons, List.mem_append, List.mem_append, List.mem_singleton] at there
      rcases there with (first | between) | later
      · exact .inr ⟨cell, List.mem_cons_self, first⟩
      · exact .inl between
      · rcases ih later with between | ⟨other, listed, inside⟩
        · exact .inl between
        · exact .inr ⟨other, List.mem_cons_of_mem _ listed, inside⟩

/-- Only separators and the spaces at the ends are added to the cells. -/
theorem mem_joinCells {separator c : Char} {cells : List (List Char)}
    (there : c ∈ joinCells separator cells) :
    c = ' ' ∨ c = separator ∨ ∃ cell ∈ cells, c ∈ cell := by
  rw [joinCells, List.mem_cons, List.mem_append, List.mem_singleton] at there
  rcases there with first | joined | last
  · exact .inl first
  · exact .inr (mem_intercalate joined)
  · exact .inl last

def filledCells (aligns : Vector Align n) (widths : Vector Nat n) (row : Vector (List Char) n) :
    List (List Char) :=
  let padded := (aligns.zip widths).zipWith (fun column cell => pad column.1 column.2 cell) row
  padded.toList.map fun cell => ' ' :: (cell ++ [' '])

theorem textLine_eq : textLine aligns widths row = joinCells '│' (filledCells aligns widths row) :=
  rfl

theorem length_filledCells : (filledCells aligns widths row).length = n := by
  rw [filledCells, List.length_map, Vector.length_toList]

/-- Only spaces are added to a cell. -/
theorem mem_filledCells {cell : List Char} {c : Char} (listed : cell ∈ filledCells aligns widths row)
    (there : c ∈ cell) : c = ' ' ∨ ∃ text ∈ row, c ∈ text := by
  obtain ⟨padded, among, rfl⟩ := List.mem_map.mp listed
  obtain ⟨i, hi, rfl⟩ := Vector.mem_iff_getElem.mp (Vector.mem_toList_iff.mp among)
  rw [List.mem_cons, List.mem_append, List.mem_singleton, Vector.getElem_zipWith] at there
  rcases there with space | written | space
  · exact .inl space
  · rcases mem_pad written with space | written
    · exact .inl space
    · exact .inr ⟨row[i], Vector.getElem_mem hi, written⟩
  · exact .inl space

/-- A line of texts has their characters, spaces and column separators. -/
theorem mem_textLine {c : Char} (there : c ∈ textLine aligns widths row) :
    c = ' ' ∨ c = '│' ∨ ∃ cell ∈ row, c ∈ cell := by
  rcases mem_joinCells there with space | separator | ⟨filled, listed, inside⟩
  · exact .inl space
  · exact .inr (.inl separator)
  · rcases mem_filledCells listed inside with space | written
    · exact .inl space
    · exact .inr (.inr written)

theorem mem_ruleLine {junction c : Char} (there : c ∈ ruleLine junction widths) :
    c = ' ' ∨ c = junction ∨ c = '─' := by
  rcases mem_joinCells there with space | junction | ⟨stroke, listed, inside⟩
  · exact .inl space
  · exact .inr (.inl junction)
  · obtain ⟨width, _, rfl⟩ := List.mem_map.mp listed
    exact .inr (.inr (List.eq_of_mem_replicate inside))

theorem not_mem_rowLines {line : List Char} (listed : line ∈ rowLines aligns widths row) :
    '\n' ∉ line := by
  intro there
  rw [rowLines_eq] at listed
  obtain ⟨k, _, rfl⟩ := List.mem_map.mp listed
  rcases mem_textLine there with space | separator | ⟨cell, among, inside⟩
  · exact absurd space (by decide)
  · exact absurd separator (by decide)
  · obtain ⟨text, _, rfl⟩ := Vector.mem_map.mp among
    cases found : (Text.lines text)[k]? with
    | none => simp [found] at inside
    | some line =>
      rw [found, Option.getD_some] at inside
      exact (Text.mem_of_mem_lines (List.mem_of_getElem? found) inside).2 rfl

/-- Texts are broken into lines, so that no line of a grid has a line feed. -/
theorem unbroken_lines (grid : Grid n) : ∀ line ∈ grid.lines, '\n' ∉ line := by
  have rule : ∀ junction ∈ ['┼', '┴'], '\n' ∉ ruleLine junction grid.widths := by
    intro junction known there
    rcases mem_ruleLine there with space | rfl | stroke
    · exact absurd space (by decide)
    · exact absurd known (by decide)
    · exact absurd stroke (by decide)
  simp only [lines, List.forall_mem_append, List.forall_mem_singleton, List.mem_flatMap]
  refine ⟨⟨⟨fun line => not_mem_rowLines, rule '┼' (by decide)⟩, ?_⟩, rule '┴' (by decide)⟩
  rintro line ⟨row, _, listed⟩
  exact not_mem_rowLines listed

end Grid

end OpcodeBinding
