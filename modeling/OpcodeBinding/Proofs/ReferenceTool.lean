import OpcodeBinding.CommandLine.Report
import OpcodeBinding.Proofs.Consistency
import OpcodeBinding.Proofs.Spelling

/-! The answers of the reference tool. What it prints about one opcode, through the index, is what a reader
of the listings would tell, and the listing of all modules is made of those of each. -/
namespace OpcodeBinding

def Registry.listers {σ : Type} (r : Registry σ) (opcode : Opcode) : List (Module σ) :=
  r.modules.toList.filter fun m => opcode ∈ m.descriptors.map Descriptor.opcode

/-- What there is to tell about an opcode with its descriptor at hand, and the name of the module whose
listing has it. -/
def Descriptor.report (owner : String) (d : Descriptor) : String :=
  let name := (d.mnemonic <|> (Command.ofOpcode? d.opcode).map Command.mnemonic).getD "-"
  s!"{d.opcode.display} {name} in module {owner}: " ++
    s!"{d.argumentCount} argument(s), {d.shape.name}\n"

/-- Of distinct elements only one is kept when the condition singles it out. -/
private theorem filter_eq_singleton {α : Type} {xs : List α} {x : α} {p : α → Bool}
    (distinct : xs.Nodup) (there : x ∈ xs) (single : ∀ y ∈ xs, p y ↔ y = x) :
    xs.filter p = [x] := by
  apply List.perm_singleton.mp
  rw [List.perm_ext_iff_of_nodup (distinct.filter p) (List.nodup_singleton x)]
  intro y
  rw [List.mem_filter, List.mem_singleton]
  constructor
  · rintro ⟨listed, kept⟩
    exact (single y listed).mp kept
  · rintro rfl
    exact ⟨there, (single y there).mpr rfl⟩

/-- A listing where keys are distinct has one element of a key. -/
private theorem filter_key_eq_singleton {α β : Type} [DecidableEq β] {key : α → β} {xs : List α}
    {x : α} (distinct : (xs.map key).Nodup) (there : x ∈ xs) :
    xs.filter (fun y => key y == key x) = [x] := by
  apply filter_eq_singleton (.of_map key distinct) there
  intro y listed
  rw [beq_iff_eq]
  constructor
  · exact List.inj_on_of_nodup_map distinct listed there
  · rintro rfl
    rfl

namespace Module

variable {σ : Type} {m : Module σ} {opcode : Opcode}

theorem mem_opcode_descriptors : opcode ∈ m.descriptors.map Descriptor.opcode ↔ m.contains opcode := by
  rw [m.map_opcode_descriptors, mem_opcodes, contains_eq]

/-- A bound opcode has one line in the listing. -/
theorem descriptors_of_find? {binding : Binding σ} (found : m.find? opcode = some binding) :
    m.descriptors.filter (fun d => d.opcode == opcode) = [binding.describe opcode] := by
  have distinct : (m.descriptors.map Descriptor.opcode).Nodup := by
    rw [m.map_opcode_descriptors]
    exact m.opcodes_ascending.nodup
  have listed : binding.describe opcode ∈ m.descriptors := mem_descriptors.mpr ⟨binding, found, rfl⟩
  exact filter_key_eq_singleton distinct listed

end Module

namespace Registry.Consistent

variable {σ : Type} {r : Registry σ} {m : Module σ} {opcode : Opcode}

theorem nodup_modules (h : r.Consistent) : r.modules.toList.Nodup := .of_map _ h.names

/-- The module that an opcode leads to is the only one that lists it. -/
theorem listers_of_moduleFor? (h : r.Consistent) (found : r.moduleFor? opcode = some m) :
    r.listers opcode = [m] := by
  obtain ⟨installed, bound⟩ := h.moduleFor?_eq_some.mp found
  apply filter_eq_singleton h.nodup_modules (Array.mem_toList_iff.mpr installed)
  intro k there
  rw [decide_eq_true_iff, Module.mem_opcode_descriptors]
  constructor
  · intro provided
    have other := h.moduleFor?_eq_some.mpr ⟨Array.mem_toList_iff.mp there, provided⟩
    exact Option.some.inj (other.symm.trans found)
  · rintro rfl
    exact bound

end Registry.Consistent

namespace CommandLine

variable {r : Registry World} {m : Module World} {opcode : Opcode}

theorem lookupLine_of_unknown (unknown : r.moduleFor? opcode = none) :
    lookupLine r opcode = .error (.unknownOpcode opcode) := by
  rw [lookupLine, unknown, Option.bind_none]

theorem lookupLine_of_known {binding : Binding World} (provided : r.moduleFor? opcode = some m)
    (found : m.find? opcode = some binding) :
    lookupLine r opcode = .ok ((binding.describe opcode).report m.name) := by
  rw [lookupLine, provided, Option.bind_some, found]
  rfl

/-- Where an opcode is known, the module that lists it and its line there are printed. -/
theorem lookupLine_of_listed (h : r.Consistent)
    (known : ∃ m ∈ r.modules, opcode ∈ m.descriptors.map Descriptor.opcode) :
    ∃ m d, r.listers opcode = [m] ∧ m.descriptors.filter (fun e => e.opcode == opcode) = [d] ∧
      lookupLine r opcode = .ok (d.report m.name) := by
  obtain ⟨m, installed, line⟩ := known
  rw [Module.mem_opcode_descriptors] at line
  have provided := h.moduleFor?_eq_some.mpr ⟨installed, line⟩
  rw [Module.contains_eq] at line
  obtain ⟨binding, found⟩ := Option.isSome_iff_exists.mp line
  exact ⟨m, binding.describe opcode, h.listers_of_moduleFor? provided,
    Module.descriptors_of_find? found, lookupLine_of_known provided found⟩

/-- An opcode is unknown exactly when no listing has it. -/
theorem lookupLine_eq_unknown (h : r.Consistent) :
    lookupLine r opcode = .error (.unknownOpcode opcode) ↔
      ∀ m ∈ r.modules, opcode ∉ m.descriptors.map Descriptor.opcode := by
  constructor
  · intro refused m installed line
    obtain ⟨_, _, _, _, printed⟩ := lookupLine_of_listed h ⟨m, installed, line⟩
    rw [refused] at printed
    contradiction
  · intro unlisted
    apply lookupLine_of_unknown
    rw [h.moduleFor?_eq_none]
    intro m installed
    have unbound := unlisted m installed
    rwa [Module.mem_opcode_descriptors, Module.contains_eq, Option.not_isSome_iff_eq_none] at unbound

/-- A name selects the one module that has it. -/
theorem select_of_mem (h : r.Consistent) (installed : m ∈ r.modules) :
    select r (some m.name) = .ok [m] := by
  rw [select, filter_key_eq_singleton h.names (Array.mem_toList_iff.mpr installed)]

theorem select_of_unnamed {name : String} (unnamed : ∀ m ∈ r.modules, m.name ≠ name) :
    select r (some name) = .error (.noModule name) := by
  have none : r.modules.toList.filter (fun k => k.name == name) = [] := by
    rw [List.filter_eq_nil_iff]
    intro m there
    rw [beq_iff_eq]
    exact unnamed m (Array.mem_toList_iff.mp there)
  rw [select, none]

theorem select_eq_ok (h : r.Consistent) {name : String} {selected : List (Module World)} :
    select r (some name) = .ok selected ↔ ∃ m ∈ r.modules, m.name = name ∧ selected = [m] := by
  constructor
  · intro kept
    by_cases named : ∃ m ∈ r.modules, m.name = name
    · obtain ⟨m, installed, rfl⟩ := named
      rw [select_of_mem h installed] at kept
      exact ⟨m, installed, rfl, (Except.ok.inj kept).symm⟩
    · simp only [not_exists, not_and] at named
      rw [select_of_unnamed named] at kept
      contradiction
  · rintro ⟨m, installed, rfl, rfl⟩
    exact select_of_mem h installed

/-- Only a name that no module has is refused. -/
theorem select_eq_noModule (h : r.Consistent) {name : String} :
    select r (some name) = .error (.noModule name) ↔ ∀ m ∈ r.modules, m.name ≠ name := by
  constructor
  · rintro refused m installed rfl
    rw [select_of_mem h installed] at refused
    contradiction
  · exact select_of_unnamed

theorem listing_singleton (m : Module World) : listing [m] = m.display ++ "\n\n" := by
  simp [listing, String.join]

/-- A listing of modules is made of their listings one by one. -/
theorem listing_eq_join (modules : List (Module World)) :
    listing modules = String.join (modules.map fun m => listing [m]) := by
  simp only [listing_singleton]
  rfl

end CommandLine

end OpcodeBinding
