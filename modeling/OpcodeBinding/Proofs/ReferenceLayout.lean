import OpcodeBinding.Proofs.Alignment
import OpcodeBinding.Proofs.ReferenceText

/-! The layout of a reference table whose mnemonics are printable. It is a rectangle in which the columns
stand between the same edges on every line, and each binding has lines of its own. -/
namespace OpcodeBinding

open Grid (Placed Ruled edges field)

namespace Text

theorem AmountsTo.printable {base n : Nat} {cs : List Char} (h : AmountsTo base cs n) :
    Printable cs := by
  have known : ∀ signs ∈ digitSigns, signs.all isPrintable := by decide
  exact fun c there => .inr (h.forall_of_signs known c there)

end Text

theorem Opcode.printable_spell (o : Opcode) : Text.Printable o.spell := by
  rw [spell_eq, Text.Printable, List.forall_mem_cons, List.forall_mem_cons]
  exact ⟨by decide, by decide, o.amountsTo_figures.printable⟩

theorem Shape.printable_name (shape : Shape) : Text.Printable shape.name.toList := by
  cases shape with
  | effect => decide
  | predicate => decide

namespace Descriptor

def Printable (d : Descriptor) : Prop := ∀ mnemonic ∈ d.mnemonic, Text.Printable mnemonic.toList

instance (d : Descriptor) : Decidable d.Printable :=
  inferInstanceAs (Decidable (∀ mnemonic ∈ d.mnemonic, _))

def mnemonicLines (d : Descriptor) : List (List Char) := Text.lines (d.mnemonic.getD "-").toList

/-- The lines of a binding, as many as its mnemonic has and at least one. The first has the opcode, the
number of arguments and the shape, and those below it have blanks in their columns. -/
structure ShownBy (edges : Vector Nat 5) (d : Descriptor) (block : List (List Char)) : Prop where
  length_eq : block.length = max 1 d.mnemonicLines.length
  ruled : ∀ line ∈ block, Ruled edges '│' line
  opcode : ∀ (k : Nat) (_ : k < block.length),
    Placed .right (if k = 0 then d.opcode.spell else []) (field edges 0 block[k])
  mnemonic : ∀ (k : Nat) (_ : k < block.length),
    Placed .left (d.mnemonicLines[k]?.getD []) (field edges 1 block[k])
  argumentCount : ∀ (k : Nat) (_ : k < block.length),
    Placed .right (if k = 0 then Text.decimal d.argumentCount else []) (field edges 2 block[k])
  shape : ∀ (k : Nat) (_ : k < block.length),
    Placed .left (if k = 0 then d.shape.name.toList else []) (field edges 3 block[k])

variable {d : Descriptor}

theorem Printable.row (printable : d.Printable) : ∀ i : Fin 4, Text.Printable d.row[i] := by
  have mnemonic : Text.Printable (d.mnemonic.getD "-").toList := by
    cases given : d.mnemonic with
    | none => decide
    | some mnemonic => exact printable mnemonic given
  intro i
  match i with
  | 0 => exact d.opcode.printable_spell
  | 1 => exact mnemonic
  | 2 => exact (Text.amountsTo_decimal d.argumentCount).printable
  | 3 => exact d.shape.printable_name

/-- Only a mnemonic can take up more than one line. -/
theorem height_row (d : Descriptor) : Grid.height d.row = max 1 d.mnemonicLines.length := by
  apply Nat.le_antisymm
  · have single : ∀ {cell : List Char}, Text.Field cell →
        (Text.lines cell).length ≤ max 1 d.mnemonicLines.length := fun field =>
      (Text.length_lines_of_unbroken field.line).trans (Nat.le_max_left 1 _)
    rw [Grid.height_le]
    refine ⟨Nat.le_max_left 1 _, fun cell there => ?_⟩
    rw [← Vector.mem_toList_iff] at there
    simp only [row, Vector.toList_mk, List.mem_cons, List.not_mem_nil, or_false] at there
    rcases there with rfl | rfl | rfl | rfl
    · exact single d.opcode.field_spell
    · exact Nat.le_max_right 1 _
    · exact single (Text.field_decimal d.argumentCount)
    · exact single d.shape.field_name
  · have mnemonic : (d.mnemonic.getD "-").toList ∈ d.row := by simp [row]
    exact Nat.max_le.mpr ⟨Grid.height_pos d.row, Grid.length_lines_le_height mnemonic⟩

theorem shownBy_of_shows {edges : Vector Nat 5} {block : List (List Char)}
    (h : Grid.Shows edges (referenceGrid []).aligns d.row block) : ShownBy edges d block where
  length_eq := by rw [h.length_eq, d.height_row]
  ruled := h.ruled
  opcode k inside := by
    rw [← Text.getElem?_lines_of_unbroken d.opcode.field_spell.line]
    exact h.placed k inside 0
  mnemonic k inside := h.placed k inside 1
  argumentCount k inside := by
    rw [← Text.getElem?_lines_of_unbroken (Text.field_decimal d.argumentCount).line]
    exact h.placed k inside 2
  shape k inside := by
    rw [← Text.getElem?_lines_of_unbroken d.shape.field_name.line]
    exact h.placed k inside 3

end Descriptor

namespace ReferenceLines

/-- The lines make up the text of a table, and all of them are drawn for the same edges. Each column is
two characters wider than its longest line, and the bindings follow each other in ascending order. -/
structure Aligned (lines : ReferenceLines) (edges : Vector Nat 5) (text : String)
    (descriptors : List Descriptor) : Prop where
  ended : text.toList = lines.all.flatMap (· ++ ['\n'])
  unbroken : ∀ line ∈ lines.all, '\n' ∉ line
  outset : edges[0] = 0
  columns : ∀ i : Fin 4, ∃ widest,
    IsGreatest {width | ∃ line ∈ (referenceGrid descriptors).contents i, line.length = width} widest ∧
    edges[i.val + 1] = edges[i.val] + 1 + (widest + 2)
  titles : Ruled edges '│' lines.titles
  titled : ∀ i : Fin 4, Placed (referenceGrid descriptors).aligns[i]
    (referenceGrid descriptors).titles[i] (field edges i lines.titles)
  rule : Ruled edges '┼' lines.rule
  rows : ∃ blocks : List (List (List Char)), lines.rows = blocks.flatten ∧
    List.Forall₂ (Descriptor.ShownBy edges) descriptors blocks
  bottom : Ruled edges '┴' lines.bottom
  length_all : lines.all.length =
    3 + (descriptors.map fun d => max 1 d.mnemonicLines.length).sum
  ascending : Opcode.Ascending (descriptors.map Descriptor.opcode)

/-- The titles do not depend on the descriptors. Each is a line of its own. -/
private theorem lines_titles : ∀ i : Fin 4,
    Text.Printable (referenceGrid []).titles[i] ∧ '\n' ∉ (referenceGrid []).titles[i] ∧
      Text.lines (referenceGrid []).titles[i] = [(referenceGrid []).titles[i]] := by
  decide

private theorem printable_referenceGrid {descriptors : List Descriptor}
    (printable : ∀ d ∈ descriptors, d.Printable) : (referenceGrid descriptors).Printable := by
  rw [Grid.Printable, List.forall_mem_cons]
  refine ⟨fun i => (lines_titles i).1, ?_⟩
  intro row there
  obtain ⟨d, listed, rfl⟩ := List.mem_map.mp there
  exact (printable d listed).row

/-- Printable descriptors in ascending order have an aligned table. -/
theorem exists_aligned {descriptors : List Descriptor} (printable : ∀ d ∈ descriptors, d.Printable)
    (ascending : Opcode.Ascending (descriptors.map Descriptor.opcode)) :
    ∃ (edges : Vector Nat 5) (lines : ReferenceLines),
      lines.Aligned edges (String.ofList (referenceGrid descriptors).render) descriptors := by
  let grid := referenceGrid descriptors
  let blocks := descriptors.map fun d => Grid.rowLines grid.aligns grid.widths d.row
  let lines : ReferenceLines :=
    ⟨Grid.textLine grid.aligns grid.widths grid.titles, Grid.ruleLine '┼' grid.widths,
      blocks.flatten, Grid.ruleLine '┴' grid.widths⟩
  have whole := printable_referenceGrid printable
  have title : ∀ cell ∈ grid.titles, '\n' ∉ cell := by
    intro cell there
    obtain ⟨i, h, rfl⟩ := Vector.mem_iff_getElem.mp there
    exact (lines_titles ⟨i, h⟩).2.1
  have rows : grid.rows.flatMap (Grid.rowLines grid.aligns grid.widths) = blocks.flatten :=
    congrArg List.flatten List.map_map
  have all : grid.lines = lines.all := by
    rw [Grid.lines_of_unbroken_titles title, rows]
    rfl
  have shown : ∀ row ∈ grid.titles :: grid.rows, Grid.Shows (edges grid.widths) grid.aligns row
      (Grid.rowLines grid.aligns grid.widths row) := fun row listed =>
    Grid.shows_rowLines (by decide) whole listed
  rw [List.forall_mem_cons, Grid.rowLines_of_unbroken title] at shown
  refine ⟨edges grid.widths, lines, ?_⟩
  constructor
  case ended => rw [String.toList_ofList, Grid.render, all]
  case unbroken => exact all ▸ grid.unbroken_lines
  case outset => exact Grid.edges_zero
  case columns =>
    intro i
    have title : grid.titles[i] ∈ grid.contents i := by
      rw [Grid.mem_contents]
      refine ⟨grid.titles, List.mem_cons_self, ?_⟩
      exact (lines_titles i).2.2 ▸ List.mem_singleton_self _
    exact ⟨_, Grid.isGreatest_widths whole (List.ne_nil_of_mem title), Grid.edges_succ i.isLt⟩
  case titles => exact shown.1.ruled _ (List.mem_singleton_self _)
  case titled =>
    intro i
    have placed := shown.1.placed 0 Nat.zero_lt_one i
    change Placed _ ((Text.lines (referenceGrid []).titles[i])[0]?.getD []) _ at placed
    rwa [(lines_titles i).2.2] at placed
  case rule => exact Grid.ruled_ruleLine (by decide) (by decide)
  case rows =>
    refine ⟨blocks, rfl, ?_⟩
    rw [List.forall₂_map_right_iff, List.forall₂_same]
    exact fun d listed => Descriptor.shownBy_of_shows (shown.2 d.row (List.mem_map_of_mem listed))
  case bottom => exact Grid.ruled_ruleLine (by decide) (by decide)
  case length_all =>
    have heights : blocks.map List.length =
        descriptors.map fun d => max 1 d.mnemonicLines.length := by
      rw [List.map_map]
      apply List.map_congr_left
      intro d listed
      exact (shown.2 d.row (List.mem_map_of_mem listed)).length_eq.trans d.height_row
    rw [ReferenceLines.all, List.length_cons, List.length_cons, List.length_append,
      List.length_flatten, heights, List.length_singleton]
    omega
  case ascending => exact ascending

end ReferenceLines

namespace Module

variable {σ : Type}

end Module

end OpcodeBinding
