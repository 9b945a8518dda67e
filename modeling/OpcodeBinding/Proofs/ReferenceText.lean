import Mathlib.Data.List.DropRight
import OpcodeBinding.Listing.Lemmas
import OpcodeBinding.Proofs.FirstBindings
import OpcodeBinding.Proofs.Spelling
import OpcodeBinding.World

/-! Reading a reference table back. Each line between the rules reads as the descriptor it was written
for, whatever the widths of the columns, so the table tells all that the descriptors do. -/
namespace OpcodeBinding

namespace Text

def strip (cs : List Char) : List Char := (cs.dropWhile (· == ' ')).rdropWhile (· == ' ')

theorem strip_cons_space (cs : List Char) : strip (' ' :: cs) = strip cs := by
  rw [strip, List.dropWhile_cons_of_pos (by decide), strip]

theorem strip_append_space (cs : List Char) : strip (cs ++ [' ']) = strip cs := by
  rw [strip, List.dropWhile_append, strip]
  cases inner : cs.dropWhile (· == ' ') with
  | nil => rfl
  | cons c rest => exact List.rdropWhile_concat_pos _ _ _ (by decide)

theorem strip_replicate_append (count : Nat) (cs : List Char) :
    strip (List.replicate count ' ' ++ cs) = strip cs := by
  induction count with
  | zero => rfl
  | succ count ih => rw [List.replicate_succ, List.cons_append, strip_cons_space, ih]

theorem strip_append_replicate (cs : List Char) (count : Nat) :
    strip (cs ++ List.replicate count ' ') = strip cs := by
  induction count with
  | zero => rw [List.replicate_zero, List.append_nil]
  | succ count ih => rw [List.replicate_succ', ← List.append_assoc, strip_append_space, ih]

/-- A text that fills a field of a line: neither an end of a line nor a separator of columns is in it,
and no space at its ends. -/
structure Field (cs : List Char) : Prop where
  line : '\n' ∉ cs
  column : '│' ∉ cs
  first : cs.head? ≠ some ' '
  last : cs.getLast? ≠ some ' '

instance (cs : List Char) : Decidable (Field cs) :=
  decidable_of_iff ('\n' ∉ cs ∧ '│' ∉ cs ∧ cs.head? ≠ some ' ' ∧ cs.getLast? ≠ some ' ')
    ⟨fun ⟨line, column, first, last⟩ => ⟨line, column, first, last⟩,
      fun ⟨line, column, first, last⟩ => ⟨line, column, first, last⟩⟩

theorem Field.strip_eq {cs : List Char} (field : Field cs) : strip cs = cs := by
  have front : cs.dropWhile (· == ' ') = cs := by
    cases cs with
    | nil => rfl
    | cons c cs =>
      apply List.dropWhile_cons_of_neg
      rw [beq_iff_eq]
      rintro rfl
      exact field.first rfl
  rw [strip, front, List.rdropWhile_eq_self_iff]
  intro nonempty
  rw [beq_iff_eq]
  intro space
  exact field.last (List.getLast?_eq_some_getLast nonempty ▸ congrArg some space)

theorem Field.of_foreign {cs : List Char} (foreign : ∀ c ∈ cs, c ∉ ['\n', '│', ' ']) : Field cs where
  line there := foreign _ there (by decide)
  column there := foreign _ there (by decide)
  first there := foreign _ (List.mem_of_head? there) (by decide)
  last there := foreign _ (List.mem_of_getLast? there) (by decide)

/-- The lines of a text come apart where they end. -/
theorem splitOn_ended {lines : List (List Char)} (unbroken : ∀ line ∈ lines, '\n' ∉ line) :
    (lines.flatMap (· ++ ['\n'])).splitOn '\n' = lines ++ [[]] := by
  induction lines with
  | nil => rfl
  | cons line lines ih =>
    rw [List.forall_mem_cons] at unbroken
    rw [List.flatMap_cons, List.append_assoc, List.singleton_append,
      List.splitOn_append_cons_self_of_not_mem unbroken.1, ih unbroken.2, List.cons_append]

end Text

namespace Grid

open OpcodeBinding.Text (strip)

variable {n : Nat} {aligns : Vector Align n} {widths : Vector Nat n} {row : Vector (List Char) n}

/-- What padding adds to a text can be taken off again. -/
theorem strip_pad (align : Align) (width : Nat) (line : List Char) :
    strip (pad align width line) = strip line := by
  cases align with
  | left => exact Text.strip_append_replicate line _
  | right => exact Text.strip_replicate_append _ line

/-- Joined cells come apart at the separators that none of them has. -/
private theorem splitOn_joined {separator : Char} {cells : List (List Char)} (nonempty : cells ≠ [])
    (apart : ∀ cell ∈ cells, separator ∉ cell) (other : separator ≠ ' ') :
    ((List.intercalate [separator] cells ++ [' ']).splitOn separator).map strip =
      cells.map strip := by
  induction cells with
  | nil => contradiction
  | cons cell cells ih =>
    rw [List.forall_mem_cons] at apart
    cases cells with
    | nil =>
      -- The last field ends with the space that ends the line.
      have whole : separator ∉ cell ++ [' '] := by simp [apart.1, other]
      rw [List.intercalate_singleton, List.splitOn_eq_singleton whole, List.map_singleton,
        List.map_singleton, Text.strip_append_space]
    | cons next cells =>
      rw [List.intercalate_cons_cons, List.append_assoc, List.append_assoc, List.singleton_append,
        List.splitOn_append_cons_self_of_not_mem apart.1, List.map_cons,
        ih (List.cons_ne_nil _ _) apart.2]
      rfl

/-- A line splits into as many fields as it has cells. The spaces at its ends go to the outer ones. -/
theorem splitOn_joinCells {separator : Char} {cells : List (List Char)} (nonempty : cells ≠ [])
    (apart : ∀ cell ∈ cells, separator ∉ cell) (other : separator ≠ ' ') :
    ((joinCells separator cells).splitOn separator).map strip = cells.map strip := by
  have closed := splitOn_joined nonempty apart other
  rw [joinCells, List.splitOn_cons_eq_if_modifyHead, if_neg (by simpa using other.symm), ← closed]
  cases List.splitOn separator (List.intercalate [separator] cells ++ [' ']) with
  | nil => rfl
  | cons field fields => rw [List.modifyHead_cons, List.map_cons, Text.strip_cons_space, List.map_cons]

theorem map_strip_filledCells : (filledCells aligns widths row).map strip = row.toList.map strip := by
  let padded := (aligns.zip widths).zipWith (fun column cell => pad column.1 column.2 cell) row
  have stripped : padded.map strip = row.map strip := by
    ext1 i hi
    rw [Vector.getElem_map, Vector.getElem_zipWith, strip_pad, Vector.getElem_map]
  calc
    (filledCells aligns widths row).map strip = padded.toList.map strip := by
      rw [filledCells, List.map_map]
      apply List.map_congr_left
      intro cell _
      exact (Text.strip_cons_space _).trans (Text.strip_append_space cell)
    _ = row.toList.map strip := by rw [← Vector.toList_map, stripped, Vector.toList_map]

/-- Fields are told apart and come back as they were. -/
theorem splitOn_textLine (positive : 0 < n) (fields : ∀ cell ∈ row, Text.Field cell) :
    ((textLine aligns widths row).splitOn '│').map strip = row.toList := by
  have nonempty : filledCells aligns widths row ≠ [] := by
    rwa [← List.length_pos_iff, length_filledCells]
  have apart : ∀ cell ∈ filledCells aligns widths row, '│' ∉ cell := by
    intro cell listed there
    rcases mem_filledCells listed there with space | ⟨text, among, written⟩
    · exact absurd space (by decide)
    · exact (fields text among).column written
  have same : ∀ cell ∈ row.toList, strip cell = id cell := fun cell there =>
    (fields cell (Vector.mem_toList_iff.mp there)).strip_eq
  rw [textLine_eq, splitOn_joinCells nonempty apart (by decide), map_strip_filledCells,
    List.map_congr_left same, List.map_id]

theorem splitOn_ruleLine {junction : Char} (positive : 0 < n) (other : junction ≠ ' ')
    (apart : junction ≠ '─') :
    ((ruleLine junction widths).splitOn junction).map strip =
      widths.toList.map fun width => List.replicate (width + 2) '─' := by
  have nonempty : (widths.toList.map fun width => List.replicate (width + 2) '─') ≠ [] := by
    rwa [← List.length_pos_iff, List.length_map, Vector.length_toList]
  rw [ruleLine, splitOn_joinCells nonempty _ other, List.map_map]
  · apply List.map_congr_left
    intro width _
    apply (Text.Field.of_foreign _).strip_eq
    intro c there
    rw [List.eq_of_mem_replicate there]
    decide
  · intro cell there
    obtain ⟨width, _, rfl⟩ := List.mem_map.mp there
    exact fun inside => apart (List.eq_of_mem_replicate inside)

end Grid

namespace Text

theorem AmountsTo.foreign {base n : Nat} {cs : List Char} (h : AmountsTo base cs n) :
    ∀ c ∈ cs, c ∉ ['\n', '│', ' '] := by
  have known : ∀ signs ∈ digitSigns, signs.all fun c => c ∉ ['\n', '│', ' '] := by decide
  simpa using h.forall_of_signs known

theorem field_decimal (n : Nat) : Field (decimal n) := .of_foreign (amountsTo_decimal n).foreign

end Text

theorem Opcode.field_spell (o : Opcode) : Text.Field o.spell := by
  apply Text.Field.of_foreign
  rw [spell_eq, List.forall_mem_cons, List.forall_mem_cons]
  exact ⟨by decide, by decide, o.amountsTo_figures.foreign⟩

namespace Shape

theorem field_name (shape : Shape) : Text.Field shape.name.toList := by
  cases shape with
  | effect => decide
  | predicate => decide

end Shape

namespace Descriptor

/-- The mnemonic fills a field and is not the mark of a binding without one. -/
def Legible (d : Descriptor) : Prop :=
  ∀ mnemonic ∈ d.mnemonic, Text.Field mnemonic.toList ∧ mnemonic ≠ "-"

instance (d : Descriptor) : Decidable d.Legible :=
  inferInstanceAs (Decidable (∀ mnemonic ∈ d.mnemonic, _))

/-- What a line of four fields says of a binding. Spaces around a field do not count. -/
def ofLine? (line : List Char) : Option Descriptor :=
  match (line.splitOn '│').map Text.strip with
  | [opcode, mnemonic, argumentCount, shape] =>
    match Opcode.read (String.ofList opcode), Text.natural? argumentCount,
      Shape.read (String.ofList shape) with
    | .ok opcode, some argumentCount, .ok shape =>
      let mnemonic := String.ofList mnemonic
      some ⟨opcode, argumentCount, shape, if mnemonic = "-" then none else some mnemonic⟩
    | _, _, _ => none
  | _ => none

variable {d : Descriptor}

/-- All cells of a legible descriptor fill fields. -/
theorem Legible.field (legible : d.Legible) : ∀ cell ∈ d.row, Text.Field cell := by
  have mnemonic : Text.Field (d.mnemonic.getD "-").toList := by
    cases given : d.mnemonic with
    | none => decide
    | some mnemonic => exact (legible mnemonic given).1
  intro cell there
  rw [← Vector.mem_toList_iff] at there
  simp only [row, Vector.toList_mk, List.mem_cons, List.not_mem_nil, or_false] at there
  rcases there with rfl | rfl | rfl | rfl
  · exact d.opcode.field_spell
  · exact mnemonic
  · exact Text.field_decimal d.argumentCount
  · exact d.shape.field_name

/-- The line of a descriptor tells that descriptor, whatever the widths of the columns. -/
theorem ofLine?_textLine (legible : d.Legible) (aligns : Vector Align 4) (widths : Vector Nat 4) :
    ofLine? (Grid.textLine aligns widths d.row) = some d := by
  have fields : ((Grid.textLine aligns widths d.row).splitOn '│').map Text.strip = d.row.toList :=
    Grid.splitOn_textLine (by decide) legible.field
  have opcode : Opcode.read (String.ofList d.opcode.spell) = .ok d.opcode := d.opcode.read_display
  have mnemonic : (if d.mnemonic.getD "-" = "-" then none else some (d.mnemonic.getD "-")) =
      d.mnemonic := by
    cases given : d.mnemonic with
    | none => rfl
    | some mnemonic => exact if_neg (legible mnemonic given).2
  rw [ofLine?, fields]
  simp only [row, Vector.toList_mk, opcode, Text.natural?_decimal, String.ofList_toList,
    d.shape.read_name, mnemonic]

end Descriptor

structure ReferenceLines where
  titles : List Char
  rule : List Char
  rows : List (List Char)
  bottom : List Char

namespace ReferenceLines

def all (lines : ReferenceLines) : List (List Char) :=
  lines.titles :: lines.rule :: (lines.rows ++ [lines.bottom])

/-- The lines make up a text, and the rows tell some descriptors, one each. Every line has four fields,
and both rules are drawn for the same columns. -/
structure Tell (lines : ReferenceLines) (text : String) (descriptors : List Descriptor) : Prop where
  ended : text.toList = lines.all.flatMap (· ++ ['\n'])
  unbroken : ∀ line ∈ lines.all, '\n' ∉ line
  titled : (lines.titles.splitOn '│').map Text.strip =
    ["Opcode", "Mnemonic", "Args", "Shape"].map String.toList
  ruled : ∃ widths : Vector Nat 4,
    (lines.rule.splitOn '┼').map Text.strip = widths.toList.map (List.replicate · '─') ∧
    (lines.bottom.splitOn '┴').map Text.strip = widths.toList.map (List.replicate · '─')
  told : lines.rows.map Descriptor.ofLine? = descriptors.map some

/-- A text tells at most one list of descriptors. -/
theorem Tell.unique {lines others : ReferenceLines} {text : String}
    {descriptors further : List Descriptor} (h : lines.Tell text descriptors)
    (k : others.Tell text further) : descriptors = further := by
  have parts := congrArg (List.splitOn '\n') (h.ended.symm.trans k.ended)
  rw [Text.splitOn_ended h.unbroken, Text.splitOn_ended k.unbroken] at parts
  obtain ⟨-, -, ends⟩ : lines.titles = others.titles ∧ lines.rule = others.rule ∧
      lines.rows ++ [lines.bottom] = others.rows ++ [others.bottom] := by
    simpa only [all, List.cons.injEq] using List.append_cancel_right parts
  have rows : lines.rows = others.rows := (List.append_inj' ends rfl).1
  have told := h.told
  rw [rows, k.told] at told
  exact (List.map_injective_iff.mpr (Option.some_injective _) told).symm

/-- Legible descriptors are told by the lines that are written for them. -/
theorem exists_tell {descriptors : List Descriptor} (legible : ∀ d ∈ descriptors, d.Legible) :
    ∃ lines : ReferenceLines,
      lines.Tell (String.ofList (referenceGrid descriptors).render) descriptors := by
  let grid := referenceGrid descriptors
  -- The titles do not depend on the descriptors.
  have titles : ∀ cell ∈ (referenceGrid []).titles, Text.Field cell := by decide
  have rows : ∀ row ∈ grid.rows, ∀ cell ∈ row, Text.Field cell := by
    intro row there
    obtain ⟨d, listed, rfl⟩ := List.mem_map.mp there
    exact (legible d listed).field
  have unbroken : grid.Unbroken := List.forall_mem_cons.mpr
    ⟨fun cell there => (titles cell there).line,
      fun row listed cell there => (rows row listed cell there).line⟩
  let lines : ReferenceLines :=
    ⟨Grid.textLine grid.aligns grid.widths grid.titles, Grid.ruleLine '┼' grid.widths,
      grid.rows.map (Grid.textLine grid.aligns grid.widths), Grid.ruleLine '┴' grid.widths⟩
  have all : grid.lines = lines.all := Grid.lines_of_unbroken unbroken
  refine ⟨lines, ?_, all ▸ grid.unbroken_lines, ?_, ⟨grid.widths.map (· + 2), ?_, ?_⟩, ?_⟩
  · rw [String.toList_ofList, Grid.render, all]
  · exact Grid.splitOn_textLine (by decide) titles
  · rw [Vector.toList_map, List.map_map]
    exact Grid.splitOn_ruleLine (by decide) (by decide) (by decide)
  · rw [Vector.toList_map, List.map_map]
    exact Grid.splitOn_ruleLine (by decide) (by decide) (by decide)
  · -- The rows of the grid are those of the descriptors, and each is read on its own.
    change ((descriptors.map Descriptor.row).map _).map _ = _
    rw [List.map_map, List.map_map]
    apply List.map_congr_left
    intro d listed
    exact Descriptor.ofLine?_textLine (legible d listed) _ _

end ReferenceLines

namespace Module

variable {σ : Type}

/-- All mnemonics of a module can be told in its table. A carriage return may be in one, but no other
character that ends a line or a field. -/
def Legible (m : Module σ) : Prop := ∀ d ∈ m.descriptors, d.Legible

theorem Keeps.legible {m : Module σ} {title : String} {asked : List (Opcode × Binding σ)}
    (h : m.Keeps title asked)
    (legible : ∀ binding ∈ asked, (binding.2.describe binding.1).Legible) : m.Legible :=
  h.forall_descriptors legible

/-- The reference table of a module with legible mnemonics tells its descriptors in their order, so two
such modules have one table exactly when they have the same descriptors. -/
theorem referenceTable_tells_descriptors (m : Module σ) (legible : m.Legible) :
    (∃ lines : ReferenceLines, lines.Tell m.referenceTable m.descriptors) ∧
    ∀ {τ : Type} (k : Module τ), k.Legible →
      (m.referenceTable = k.referenceTable ↔ m.descriptors = k.descriptors) := by
  obtain ⟨lines, told⟩ := ReferenceLines.exists_tell legible
  refine ⟨⟨lines, told⟩, fun k legible => ⟨fun same => ?_, fun same => ?_⟩⟩
  · obtain ⟨others, further⟩ := ReferenceLines.exists_tell legible
    rw [referenceTable, referenceTable] at same
    rw [same] at told
    exact told.unique further
  · rw [referenceTable, referenceTable, same]

/-- A binding with an empty mnemonic is told from one without a mnemonic. -/
theorem referenceTable_tells_empty_mnemonic :
    let first := (empty "Sky" : Module World).after
      [.bindNamed Command.setTime.opcode "set time" 2 World.setTime,
        .bindNamed Command.isRaining.opcode "" 0 World.isRaining]
    let second := (empty "Sky" : Module World).after
      [.bindNamed Command.setTime.opcode "set time" 2 World.setTime,
        .bind Command.isRaining.opcode 0 World.isRaining]
    first.Legible ∧ second.Legible ∧
    (∃ lines : ReferenceLines, lines.Tell first.referenceTable first.descriptors) ∧
    first.referenceTable ≠ second.referenceTable := by
  intro first second
  have one : first.Keeps "Sky" _ := (keeps_empty "Sky").after _
  have other : second.Keeps "Sky" _ := (keeps_empty "Sky").after _
  have legible : first.Legible := one.legible (by decide)
  have plain : second.Legible := other.legible (by decide)
  obtain ⟨told, exact⟩ := first.referenceTable_tells_descriptors legible
  refine ⟨legible, plain, told, fun same => ?_⟩
  have named : ⟨Command.isRaining.opcode, 0, .predicate, some ""⟩ ∈ first.descriptors :=
    (one.mem_descriptors _).mpr ⟨_, rfl, rfl⟩
  rw [(exact second plain).mp same, other.mem_descriptors] at named
  obtain ⟨_, ⟨⟩, described⟩ := named
  contradiction

end Module

end OpcodeBinding
