import Mathlib.Algebra.BigOperators.Group.List.Lemmas
import Mathlib.Algebra.GroupWithZero.Nat
import Mathlib.Order.Bounds.Defs
import OpcodeBinding.Listing.Lemmas

/-! The geometry of a grid whose texts are printable ASCII. Its lines have one length, the separators of
columns stand below each other, and no column is wider than its texts make it. -/
namespace OpcodeBinding

namespace Text

def isPrintable (c : Char) : Bool := 0x20 ≤ c.toNat && c.toNat ≤ 0x7E

def Printable (cs : List Char) : Prop := ∀ c ∈ cs, c = '\n' ∨ isPrintable c

instance (cs : List Char) : Decidable (Printable cs) :=
  List.decidableBAll (fun c => c = '\n' ∨ isPrintable c) cs

variable {cs line : List Char} {c : Char}

theorem Printable.isPrintable (printable : Printable cs) (listed : line ∈ lines cs) :
    ∀ c ∈ line, isPrintable c := by
  intro c there
  obtain ⟨inside, other⟩ := mem_of_mem_lines listed there
  exact (printable c inside).resolve_left other

theorem before_of_printable (printable : isPrintable c) : before c {} = (1, {}) := by
  have small : c.toNat ≤ 0xA0 := by
    simp only [isPrintable, Bool.and_eq_true, decide_eq_true_eq] at printable
    omega
  simp [before, small]

theorem measure_of_printable (printable : ∀ c ∈ line, isPrintable c) :
    measure line = ((line.length : Int), {}) := by
  induction line with
  | nil => rfl
  | cons c line ih =>
    rw [List.forall_mem_cons] at printable
    have rest := ih printable.2
    rw [measure] at rest ⊢
    rw [List.foldr_cons, rest, before_of_printable printable.1]
    simp only [List.length_cons, Prod.mk.injEq, and_true]
    omega

theorem hidden_of_printable (printable : ∀ c ∈ line, isPrintable c) : hidden .outside line = 0 := by
  induction line with
  | nil => rfl
  | cons c line ih =>
    rw [List.forall_mem_cons] at printable
    have plain : c ≠ '\x1b' := by
      rintro rfl
      exact absurd printable.1 (by decide)
    rw [hidden, if_neg plain, ih printable.2]

/-- Each printable character takes one column. -/
theorem displayWidth_of_printable (printable : ∀ c ∈ line, isPrintable c) :
    displayWidth line = line.length := by
  rw [displayWidth, measure_of_printable printable, hidden_of_printable printable]
  rfl

end Text

/-- Where the elements of blocks in a row are found. -/
private theorem getElem?_flatten_eq_some {α : Type} {blocks : List (List α)} {p : Nat} {a : α} :
    blocks.flatten[p]? = some a ↔ ∃ i j block, p = ((blocks.map List.length).take i).sum + j ∧
      blocks[i]? = some block ∧ block[j]? = some a := by
  induction blocks generalizing p with
  | nil => simp
  | cons first blocks ih =>
    rw [List.flatten_cons, List.getElem?_append]
    split
    case isTrue inside =>
      constructor
      · intro there
        exact ⟨0, p, first, by simp, rfl, there⟩
      · rintro ⟨i, j, block, rfl, chosen, there⟩
        cases i with
        | zero => simp_all
        | succ i => simp at inside; omega
    case isFalse outside =>
      rw [ih]
      constructor
      · rintro ⟨i, j, block, position, chosen, there⟩
        exact ⟨i + 1, j, block, by simp; omega, chosen, there⟩
      · rintro ⟨i, j, block, rfl, chosen, there⟩
        cases i with
        | zero =>
          obtain rfl : first = block := by simpa using chosen
          have := (List.getElem?_eq_some_iff.mp there).1
          simp at outside
          omega
        | succ i => exact ⟨i, j, block, by simp; omega, chosen, there⟩

namespace Grid

variable {n : Nat}

def separators : List Char := ['│', '┼', '┴']

/-- Positions in a line: the space that begins it, the separators, and the space that ends it. Column
`i` stands between edges `i` and `i + 1`. -/
def edges (widths : Vector Nat n) : Vector Nat (n + 1) :=
  .ofFn fun i => ((widths.toList.map (· + 3)).take i).sum

def field (edges : Vector Nat (n + 1)) (i : Fin n) (line : List Char) : List Char :=
  line.extract (edges[i.val] + 1) edges[i.val + 1]

/-- A line has a space at each end and the separator at all edges between. No separator stands
anywhere else. -/
structure Ruled (edges : Vector Nat (n + 1)) (separator : Char) (cs : List Char) : Prop where
  length_eq : cs.length = edges[n] + 1
  first : cs.head? = some ' '
  last : cs.getLast? = some ' '
  separated : ∀ p, ∀ c ∈ separators,
    cs[p]? = some c ↔ c = separator ∧ ∃ i, ∃ _ : i < n, 0 < i ∧ edges[i] = p

/-- A text between spaces, one on the side to which it is aligned and any more on the other. -/
inductive Placed : Align → List Char → List Char → Prop
  | left (text : List Char) (fill : Nat) :
      Placed .left text (' ' :: (text ++ List.replicate (fill + 1) ' '))
  | right (text : List Char) (fill : Nat) :
      Placed .right text (List.replicate (fill + 1) ' ' ++ (text ++ [' ']))

section Edges

variable {widths : Vector Nat n}

theorem edges_zero : (edges widths)[0] = 0 := by
  simp [edges]

theorem edges_succ {i : Nat} (h : i < n) :
    (edges widths)[i + 1] = (edges widths)[i] + 1 + (widths[i] + 2) := by
  have inside : i < (widths.toList.map (· + 3)).length := by simpa using h
  simp only [edges, Vector.getElem_ofFn, List.sum_take_succ _ i inside]
  simp
  omega

/-- A line in parts, one for each column with the character before it, and one for the space at the
end. -/
private def segments (separator : Char) (cells : List (List Char)) : List (List Char) :=
  cells.mapIdx (fun i cell => (if i = 0 then ' ' else separator) :: cell) ++ [[' ']]

variable {separator : Char} {cells : List (List Char)}

private theorem intercalate_cons (separator : Char) (cell : List Char) (cells : List (List Char)) :
    List.intercalate [separator] (cell :: cells) = cell ++ (cells.map (separator :: ·)).flatten := by
  induction cells generalizing cell with
  | nil => simp
  | cons next cells ih => rw [List.intercalate_cons_cons, ih]; simp

private theorem joinCells_eq_flatten (nonempty : cells ≠ []) :
    joinCells separator cells = (segments separator cells).flatten := by
  obtain ⟨cell, cells, rfl⟩ := List.exists_cons_of_ne_nil nonempty
  have others : cells.mapIdx (fun i cell => (if i + 1 = 0 then ' ' else separator) :: cell) =
      cells.map (separator :: ·) := by
    apply List.ext_getElem
    · simp
    · simp
  rw [joinCells, segments, intercalate_cons, List.mapIdx_cons, others]
  simp

private theorem length_segments : (segments separator cells).length = cells.length + 1 := by
  simp [segments]

private theorem getElem?_segments {i : Nat} (h : i < cells.length) :
    (segments separator cells)[i]? = some ((if i = 0 then ' ' else separator) :: cells[i]) := by
  simp [segments, List.getElem?_append, h]

private theorem getElem?_segments_last :
    (segments separator cells)[cells.length]? = some [' '] := by
  simp [segments]

private theorem map_length_segments :
    (segments separator cells).map List.length = (cells.map List.length).map (· + 1) ++ [1] := by
  have parts : (cells.mapIdx fun i cell => (if i = 0 then ' ' else separator) :: cell).map
      List.length = (cells.map List.length).map (· + 1) := by
    apply List.ext_getElem
    · simp
    · simp
  rw [segments, List.map_append, parts, List.map_singleton, List.length_singleton]

private theorem getElem_edges {i : Nat} (h : i ≤ n) :
    (edges widths)[i] = ((widths.toList.map (· + 3)).take i).sum := by
  simp [edges]

variable (lengths : cells.map List.length = widths.toList.map (· + 2))
include lengths

private theorem length_cells : cells.length = n := by
  simpa using congrArg List.length lengths

private theorem map_length_segments_eq :
    (segments separator cells).map List.length = widths.toList.map (· + 3) ++ [1] := by
  rw [map_length_segments, lengths, List.map_map]
  rfl

/-- The parts of a line begin at the edges. -/
private theorem sum_segments {i : Nat} (h : i ≤ n) :
    (((segments separator cells).map List.length).take i).sum = (edges widths)[i] := by
  rw [map_length_segments_eq lengths, List.take_append_of_le_length (by simpa using h),
    getElem_edges h]

private theorem length_joinCells (positive : 0 < n) :
    (joinCells separator cells).length = (edges widths)[n] + 1 := by
  have nonempty : cells ≠ [] := by
    rwa [← List.length_pos_iff, length_cells lengths]
  rw [joinCells_eq_flatten nonempty, List.length_flatten, map_length_segments_eq lengths,
    List.sum_append, getElem_edges (Nat.le_refl n), List.take_of_length_le (by simp)]
  rfl

/-- The separators of joined cells stand at the edges that the widths of the cells give. -/
theorem ruled_joinCells (positive : 0 < n) (known : separator ∈ separators)
    (apart : ∀ cell ∈ cells, ∀ c ∈ cell, c ∉ separators) :
    Ruled (edges widths) separator (joinCells separator cells) where
  length_eq := length_joinCells lengths positive
  first := rfl
  last := by
    rw [joinCells, ← List.cons_append, List.getLast?_concat]
  separated := by
    intro p c separates
    have visible : c ≠ ' ' := by
      rintro rfl
      exact absurd separates (by decide)
    have count := length_cells lengths
    have nonempty : cells ≠ [] := by
      rwa [← List.length_pos_iff, count]
    rw [joinCells_eq_flatten nonempty, getElem?_flatten_eq_some]
    constructor
    · rintro ⟨i, j, part, rfl, chosen, there⟩
      have inside := (List.getElem?_eq_some_iff.mp chosen).1
      rw [length_segments] at inside
      rcases Nat.lt_succ_iff_lt_or_eq.mp inside with before | rfl
      · rw [getElem?_segments before, Option.some_inj] at chosen
        subst chosen
        cases j with
        | zero =>
          rw [List.getElem?_cons_zero, Option.some_inj] at there
          split at there
          case isTrue => exact absurd there.symm visible
          case isFalse later =>
            have h : i < n := by omega
            exact ⟨there.symm, i, h, Nat.pos_of_ne_zero later,
              (sum_segments lengths (Nat.le_of_lt h)).symm⟩
        | succ j =>
          rw [List.getElem?_cons_succ] at there
          have within := List.mem_of_getElem? there
          exact absurd separates (apart _ (List.getElem_mem before) c within)
      · rw [getElem?_segments_last, Option.some_inj] at chosen
        subst chosen
        exact absurd (List.mem_singleton.mp (List.mem_of_getElem? there)) visible
    · rintro ⟨rfl, i, h, later, rfl⟩
      have before : i < cells.length := by omega
      refine ⟨i, 0, c :: cells[i], (sum_segments lengths (Nat.le_of_lt h)).symm, ?_, rfl⟩
      rw [getElem?_segments before, if_neg later.ne']

/-- Between two edges of a joined line stands one cell. -/
theorem field_joinCells (positive : 0 < n) {i : Fin n} {cell : List Char}
    (there : cells[i.val]? = some cell) :
    field (edges widths) i (joinCells separator cells) = cell := by
  obtain ⟨inside, rfl⟩ := List.getElem?_eq_some_iff.mp there
  have nonempty : cells ≠ [] := by
    rwa [← List.length_pos_iff, length_cells lengths]
  have chosen : (segments separator cells)[i.val]? = _ := getElem?_segments inside
  obtain ⟨within, segment⟩ := List.getElem?_eq_some_iff.mp chosen
  have part := List.drop_take_succ_flatten_eq_getElem (segments separator cells) i within
  rw [sum_segments lengths (by omega), sum_segments lengths (by omega), segment,
    ← joinCells_eq_flatten nonempty] at part
  rw [field, List.extract_eq_take_drop, ← List.drop_take, ← List.drop_drop, part]
  rfl

end Edges

section Lines

variable {aligns : Vector Align n} {widths : Vector Nat n} {cells : Vector (List Char) n}

structure Fits (widths : Vector Nat n) (cells : Vector (List Char) n) : Prop where
  printable : ∀ i : Fin n, ∀ c ∈ cells[i], Text.isPrintable c
  length_le : ∀ i : Fin n, cells[i].length ≤ widths[i]

private theorem not_separator {c : Char} (printable : Text.isPrintable c) : c ∉ separators := by
  intro separates
  have foreign : separators.all fun separator => !Text.isPrintable separator := by decide
  have unprintable := List.all_eq_true.mp foreign c separates
  rw [printable] at unprintable
  contradiction

private theorem length_pad {line : List Char} {width : Nat} (align : Align)
    (printable : ∀ c ∈ line, Text.isPrintable c) (fits : line.length ≤ width) :
    (pad align width line).length = width := by
  have taken := Text.displayWidth_of_printable printable
  cases align with
  | left => simp only [pad, taken, List.length_append, List.length_replicate]; omega
  | right => simp only [pad, taken, List.length_append, List.length_replicate]; omega

private theorem placed_pad (align : Align) (width : Nat) (line : List Char) :
    Placed align line (' ' :: (pad align width line ++ [' '])) := by
  let fill := width - Text.displayWidth line
  cases align with
  | left =>
    have joined : pad .left width line ++ [' '] = line ++ List.replicate (fill + 1) ' ' := by
      rw [List.replicate_succ', ← List.append_assoc]
      rfl
    rw [joined]
    exact .left line fill
  | right =>
    have joined : ' ' :: (pad .right width line ++ [' ']) =
        List.replicate (fill + 1) ' ' ++ (line ++ [' ']) := by
      rw [List.replicate_succ, List.cons_append, ← List.append_assoc]
      rfl
    rw [joined]
    exact .right line fill

private theorem getElem?_filledCells (i : Fin n) :
    (filledCells aligns widths cells)[i.val]? =
      some (' ' :: (pad aligns[i] widths[i] cells[i] ++ [' '])) := by
  simp [filledCells]

theorem map_length_filledCells (fits : Fits widths cells) :
    (filledCells aligns widths cells).map List.length = widths.toList.map (· + 2) := by
  apply List.ext_getElem?
  intro k
  by_cases inside : k < n
  · have width := length_pad aligns[k] (fits.printable ⟨k, inside⟩) (fits.length_le ⟨k, inside⟩)
    rw [List.getElem?_map, getElem?_filledCells ⟨k, inside⟩]
    simpa [inside] using width
  · rw [List.getElem?_eq_none (by simpa [length_filledCells] using inside),
      List.getElem?_eq_none (by simpa using inside)]

theorem ruled_textLine (positive : 0 < n) (fits : Fits widths cells) :
    Ruled (edges widths) '│' (textLine aligns widths cells) := by
  apply ruled_joinCells (map_length_filledCells fits) positive (by decide)
  intro cell listed c there separates
  rcases mem_filledCells listed there with rfl | ⟨text, among, inside⟩
  · exact absurd separates (by decide)
  · obtain ⟨i, h, rfl⟩ := Vector.mem_iff_getElem.mp among
    exact not_separator (fits.printable ⟨i, h⟩ c inside) separates

/-- Each text stands in its own column. -/
theorem placed_textLine (positive : 0 < n) (fits : Fits widths cells) (i : Fin n) :
    Placed aligns[i] cells[i] (field (edges widths) i (textLine aligns widths cells)) := by
  rw [textLine_eq,
    field_joinCells (map_length_filledCells fits) positive (getElem?_filledCells i)]
  exact placed_pad aligns[i] widths[i] cells[i]

theorem ruled_ruleLine {junction : Char} (positive : 0 < n) (known : junction ∈ separators) :
    Ruled (edges widths) junction (ruleLine junction widths) := by
  apply ruled_joinCells _ positive known
  · intro cell listed c there separates
    obtain ⟨width, _, rfl⟩ := List.mem_map.mp listed
    rw [List.eq_of_mem_replicate there] at separates
    exact absurd separates (by decide)
  · rw [List.map_map]
    simp

end Lines

section Columns

variable {grid : Grid n}

def contents (grid : Grid n) (i : Fin n) : List (List Char) :=
  (grid.titles[i] :: grid.column i).flatMap Text.lines

def Printable (grid : Grid n) : Prop :=
  ∀ row ∈ grid.titles :: grid.rows, ∀ i : Fin n, Text.Printable row[i]

private theorem column_eq (grid : Grid n) (i : Fin n) : grid.column i = grid.rows.map (·[i]) := rfl

private theorem getElem_widths (grid : Grid n) (i : Fin n) :
    grid.widths[i] = ((grid.column i).map cellWidth).foldl max (cellWidth grid.titles[i]) := by
  have step : ∀ (rows : List (Vector (List Char) n)) (widest : Vector Nat n),
      (rows.foldl (fun widest row => widest.zipWith max (row.map cellWidth)) widest)[i] =
        ((rows.map (·[i])).map cellWidth).foldl max widest[i] := by
    intro rows
    induction rows with
    | nil => exact fun widest => rfl
    | cons row rows ih =>
      intro widest
      rw [List.foldl_cons, ih]
      simp
  rw [widths, step, column_eq]
  simp

theorem mem_contents {grid : Grid n} {i : Fin n} {line : List Char} :
    line ∈ grid.contents i ↔ ∃ row ∈ grid.titles :: grid.rows, line ∈ Text.lines row[i] := by
  simp [contents, column_eq]

private theorem displayWidth_of_mem (printable : grid.Printable) {i : Fin n} {line : List Char}
    (listed : line ∈ grid.contents i) : Text.displayWidth line = line.length := by
  obtain ⟨row, among, broken⟩ := mem_contents.mp listed
  exact Text.displayWidth_of_printable ((printable row among i).isPrintable broken)

private theorem length_le_widths (printable : grid.Printable) {i : Fin n} {line : List Char}
    (listed : line ∈ grid.contents i) : line.length ≤ grid.widths[i] := by
  obtain ⟨row, among, broken⟩ := mem_contents.mp listed
  have cell : cellWidth row[i] ≤ grid.widths[i] := by
    have all := foldl_max_le.mp (Nat.le_of_eq (getElem_widths grid i).symm)
    rcases List.mem_cons.mp among with rfl | later
    · exact all.1
    · exact all.2 _ (List.mem_map_of_mem (List.mem_map_of_mem later))
  have within := (foldl_max_le.mp (Nat.le_refl (cellWidth row[i]))).2 _ (List.mem_map_of_mem broken)
  rw [displayWidth_of_mem printable listed] at within
  exact within.trans cell

/-- A column is as wide as its longest line. -/
theorem isGreatest_widths (printable : grid.Printable) {i : Fin n} (nonempty : grid.contents i ≠ []) :
    IsGreatest {width | ∃ line ∈ grid.contents i, line.length = width} grid.widths[i] := by
  constructor
  · have widest : ∃ row ∈ grid.titles :: grid.rows, cellWidth row[i] = grid.widths[i] := by
      have found := foldl_max_mem ((grid.column i).map cellWidth) (cellWidth grid.titles[i])
      rw [← getElem_widths, column_eq, List.map_map] at found
      exact List.mem_map.mp found
    obtain ⟨row, among, width⟩ := widest
    rcases List.mem_cons.mp (foldl_max_mem ((Text.lines row[i]).map Text.displayWidth) 0) with
      none | found
    · -- Lines of no characters are then the longest.
      obtain ⟨line, listed⟩ := List.exists_mem_of_ne_nil _ nonempty
      have bound := length_le_widths printable listed
      refine ⟨line, listed, ?_⟩
      rw [← width, cellWidth, none] at bound ⊢
      exact Nat.le_zero.mp bound
    · obtain ⟨line, broken, length⟩ := List.mem_map.mp found
      have listed : line ∈ grid.contents i := mem_contents.mpr ⟨row, among, broken⟩
      rw [displayWidth_of_mem printable listed] at length
      exact ⟨line, listed, by rw [← width, cellWidth, length]⟩
  · rintro _ ⟨line, listed, rfl⟩
    exact length_le_widths printable listed

/-- Each line of a row fits in the columns. -/
theorem fits_widths (printable : grid.Printable) {row : Vector (List Char) n}
    (listed : row ∈ grid.titles :: grid.rows) (k : Nat) :
    Fits grid.widths (row.map fun cell => (Text.lines cell)[k]?.getD []) := by
  have known : ∀ i : Fin n, (row.map fun cell => (Text.lines cell)[k]?.getD [])[i] = [] ∨
      (row.map fun cell => (Text.lines cell)[k]?.getD [])[i] ∈ Text.lines row[i] := by
    intro i
    have line : (row.map fun cell => (Text.lines cell)[k]?.getD [])[i] =
        (Text.lines row[i])[k]?.getD [] := Vector.getElem_map _ i.isLt
    rw [line]
    cases there : (Text.lines row[i])[k]? with
    | none => exact .inl rfl
    | some line => exact .inr (List.mem_of_getElem? there)
  constructor
  · intro i
    rcases known i with none | broken
    · rw [none]
      nofun
    · exact (printable row listed i).isPrintable broken
  · intro i
    rcases known i with none | broken
    · rw [none]
      exact Nat.zero_le _
    · exact length_le_widths printable (mem_contents.mpr ⟨row, listed, broken⟩)

end Columns

section Rows

variable {grid : Grid n}

/-- The lines of a row, each with a line of every text that has so many. -/
structure Shows (edges : Vector Nat (n + 1)) (aligns : Vector Align n) (row : Vector (List Char) n)
    (block : List (List Char)) : Prop where
  length_eq : block.length = height row
  ruled : ∀ line ∈ block, Ruled edges '│' line
  placed : ∀ (k : Nat) (_ : k < block.length) (i : Fin n),
    Placed aligns[i] ((Text.lines row[i])[k]?.getD []) (field edges i block[k])

/-- All lines of the texts of a row are shown, each at its height. -/
theorem shows_rowLines (positive : 0 < n) (printable : grid.Printable) {row : Vector (List Char) n}
    (listed : row ∈ grid.titles :: grid.rows) :
    Shows (edges grid.widths) grid.aligns row (rowLines grid.aligns grid.widths row) where
  length_eq := by rw [rowLines_eq, List.length_map, List.length_range]
  ruled := by
    intro line there
    rw [rowLines_eq] at there
    obtain ⟨k, _, rfl⟩ := List.mem_map.mp there
    exact ruled_textLine positive (fits_widths printable listed k)
  placed := by
    intro k inside i
    have placed : Placed grid.aligns[i] _ _ :=
      placed_textLine positive (fits_widths printable listed k) i
    simpa [rowLines_eq] using placed

end Rows

end Grid

end OpcodeBinding
