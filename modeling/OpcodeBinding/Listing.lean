import OpcodeBinding.Module
import OpcodeBinding.Text.Width

/-! Texts in aligned columns, and the opcode reference of a module. -/
namespace OpcodeBinding

inductive Align where
  | left
  | right
  deriving DecidableEq, Repr

structure Grid (n : Nat) where
  titles : Vector (List Char) n
  aligns : Vector Align n
  rows : List (Vector (List Char) n)

namespace Grid

open OpcodeBinding.Text (displayWidth)

variable {n : Nat}

def cellWidth (text : List Char) : Nat :=
  ((Text.lines text).map displayWidth).foldl max 0

def widths (grid : Grid n) : Vector Nat n :=
  grid.rows.foldl (fun widest row => widest.zipWith max (row.map cellWidth))
    (grid.titles.map cellWidth)

/-- Spaces fill a line up to the width. A wider line is not cut. -/
def pad (align : Align) (width : Nat) (line : List Char) : List Char :=
  let fill := List.replicate (width - displayWidth line) ' '
  match align with
  | .left => line ++ fill
  | .right => fill ++ line

def joinCells (separator : Char) (cells : List (List Char)) : List Char :=
  ' ' :: (List.intercalate [separator] cells ++ [' '])

def textLine (aligns : Vector Align n) (widths : Vector Nat n) (cells : Vector (List Char) n) :
    List Char :=
  let padded := (aligns.zip widths).zipWith (fun column cell => pad column.1 column.2 cell) cells
  joinCells '│' (padded.toList.map fun cell => ' ' :: (cell ++ [' ']))

def ruleLine (junction : Char) (widths : Vector Nat n) : List Char :=
  joinCells junction (widths.toList.map fun width => List.replicate (width + 2) '─')

/-- A row takes as many lines as its tallest cell and at least one. Shorter cells are blank below
their last line. -/
def rowLines (aligns : Vector Align n) (widths : Vector Nat n) (row : Vector (List Char) n) :
    List (List Char) :=
  let cells := row.map Text.lines
  let height := (cells.toList.map List.length).foldl max 1
  (List.range height).map fun i => textLine aligns widths (cells.map fun cell => cell[i]?.getD [])

def lines (grid : Grid n) : List (List Char) :=
  let widths := grid.widths
  let textLines := rowLines grid.aligns widths
  textLines grid.titles ++ [ruleLine '┼' widths] ++ grid.rows.flatMap textLines ++
    [ruleLine '┴' widths]

def render (grid : Grid n) : List Char := grid.lines.flatMap (· ++ ['\n'])

end Grid

/-- The cells of a descriptor. A dash marks a binding without a mnemonic. -/
def Descriptor.row (d : Descriptor) : Vector (List Char) 4 :=
  #v[d.opcode.spell, (d.mnemonic.getD "-").toList, Text.decimal d.argumentCount,
    d.shape.name.toList]

def referenceGrid (descriptors : List Descriptor) : Grid 4 where
  titles := #v["Opcode".toList, "Mnemonic".toList, "Args".toList, "Shape".toList]
  aligns := #v[.right, .left, .right, .left]
  rows := descriptors.map Descriptor.row

namespace Module

variable {σ : Type}

def referenceTable (m : Module σ) : String :=
  String.ofList (referenceGrid m.descriptors).render

def display (m : Module σ) : String :=
  if m.isEmpty then s!"Module {m.name} (no bindings)"
  else s!"Module {m.name} ({m.size} bindings)\n{m.referenceTable}"

end Module

end OpcodeBinding
