import OpcodeBinding.Listing
import OpcodeBinding.Proofs.Admission
import OpcodeBinding.Proofs.FirstBindings
import OpcodeBinding.Proofs.Scripts
import OpcodeBinding.World

/-! The order in which a module was asked for its bindings. Where the opcodes are distinct, nothing can be
read of it: neither from the listings, nor from their text, nor from a registry with the module. -/
namespace OpcodeBinding

variable {σ : Type}

namespace Module

/-- Two modules that no reading tells apart, however their tables came about. -/
structure Alike (m k : Module σ) : Prop where
  name : m.name = k.name
  find? : ∀ opcode, m.find? opcode = k.find? opcode

namespace Alike

variable {m k : Module σ}

theorem contains (h : m.Alike k) (opcode : Opcode) : m.contains opcode = k.contains opcode := by
  rw [contains_eq, contains_eq, h.find?]

theorem opcodes (h : m.Alike k) : m.opcodes = k.opcodes := opcodes_congr h.find?

theorem descriptors (h : m.Alike k) : m.descriptors = k.descriptors := descriptors_congr h.find?

theorem size (h : m.Alike k) : m.size = k.size := by
  rw [← length_opcodes, h.opcodes, length_opcodes]

/-- The table is drawn from the listing alone, its column widths included. -/
theorem referenceTable (h : m.Alike k) : m.referenceTable = k.referenceTable := by
  rw [Module.referenceTable, h.descriptors, Module.referenceTable]

theorem display (h : m.Alike k) : m.display = k.display := by
  rw [Module.display, isEmpty_eq, h.name, h.size, h.referenceTable, Module.display, isEmpty_eq]

end Alike

section Asked

variable {asked first second : List (Opcode × Binding σ)} {title : String}

/-- Where no opcode is asked for twice, every binding is the first one of its opcode. -/
theorem lookup_eq_some_iff_mem (distinct : (asked.map Prod.fst).Nodup) {opcode : Opcode}
    {binding : Binding σ} : asked.lookup opcode = some binding ↔ (opcode, binding) ∈ asked := by
  refine ⟨mem_of_lookup, fun there => ?_⟩
  obtain ⟨before, behind, rfl⟩ := List.append_of_mem there
  refine List.lookup_eq_some_iff.mpr ⟨before, behind, rfl, fun earlier listed => ?_⟩
  rw [List.map_append, List.map_cons, List.nodup_append] at distinct
  have apart := distinct.2.2 earlier.1 (List.mem_map_of_mem listed) opcode List.mem_cons_self
  exact bne_iff_ne.mpr apart.symm

/-- Under distinct keys the order of a list makes no difference to a lookup. -/
theorem lookup_eq_of_perm (reordered : first.Perm second) (distinct : (first.map Prod.fst).Nodup)
    (opcode : Opcode) : first.lookup opcode = second.lookup opcode := by
  have still := (reordered.map Prod.fst).nodup_iff.mp distinct
  apply Option.ext
  intro binding
  rw [lookup_eq_some_iff_mem distinct, lookup_eq_some_iff_mem still, reordered.mem_iff]

/-- Modules that were asked for the same bindings of distinct opcodes are alike. -/
theorem Keeps.alike {m k : Module σ} (hm : m.Keeps title first) (hk : k.Keeps title second)
    (reordered : first.Perm second) (distinct : (first.map Prod.fst).Nodup) : m.Alike k where
  name := hm.name.trans hk.name.symm
  find? opcode := by rw [hm.find?, hk.find?, lookup_eq_of_perm reordered distinct]

end Asked

end Module

namespace Registry

open OpcodeBinding.Module (Alike)

variable {r s t : Registry σ} {m k : Module σ}

/-- A conflict depends on the readings of the module alone. -/
theorem conflict?_congr (alike : m.Alike k) : r.conflict? m = r.conflict? k := by
  rw [conflict?, alike.opcodes, conflict?]

/-- Alike modules are both installed, or both refused for the same reason. -/
theorem install_congr (r : Registry σ) (alike : m.Alike k) :
    (∃ s t, (r.install m).run.value = .ok s ∧ (r.install k).run.value = .ok t) ∨
    ∃ fault, (r.install m).run.value = .error fault ∧ (r.install k).run.value = .error fault := by
  by_cases taken : r.hasName m.name
  · refine .inr ⟨.installedTwice m.name, install_eq_installedTwice taken, ?_⟩
    rw [alike.name] at taken ⊢
    exact install_eq_installedTwice taken
  · have fresh : ¬ r.hasName k.name := alike.name ▸ taken
    cases conflict : r.conflict? m with
    | none =>
      have free : r.conflict? k = none := conflict?_congr alike ▸ conflict
      exact .inl ⟨_, _, install_eq_ok.mpr ⟨taken, conflict, rfl⟩,
        install_eq_ok.mpr ⟨fresh, free, rfl⟩⟩
    | some found =>
      have same : r.conflict? k = some found := conflict?_congr alike ▸ conflict
      refine .inr ⟨_, install_eq_providedTwice taken conflict, ?_⟩
      rw [alike.name]
      exact install_eq_providedTwice fresh same

section Installed

variable (h : r.Consistent) (alike : m.Alike k) (first : (r.install m).run.value = .ok s)
  (second : (r.install k).run.value = .ok t)

include h alike first second

/-- Registries with alike modules find the same bindings. -/
theorem Consistent.find?_of_alike (opcode : Opcode) : s.find? opcode = t.find? opcode := by
  rw [h.find?_of_install first, h.find?_of_install second, alike.contains, alike.find?]

/-- They find them in modules of the same names. -/
theorem Consistent.name_moduleFor?_of_alike (opcode : Opcode) :
    (s.moduleFor? opcode).map Module.name = (t.moduleFor? opcode).map Module.name := by
  rw [h.moduleFor?_of_install first, h.moduleFor?_of_install second, alike.contains]
  split
  · exact congrArg some alike.name
  · rfl

end Installed

end Registry

namespace Module

/-- No reading of a module tells in which order its opcodes were bound, and a registry takes the module
in the same way whatever the order. -/
theorem after_eq_of_reordered (title : String) {first second : List (Call σ)}
    (reordered : (Call.asked first).Perm (Call.asked second))
    (distinct : ((Call.asked first).map Prod.fst).Nodup) :
    let m := (empty title : Module σ).after first
    let k := (empty title : Module σ).after second
    m.name = k.name ∧ (∀ opcode, m.find? opcode = k.find? opcode) ∧
    m.opcodes = k.opcodes ∧ m.entries = k.entries ∧ m.descriptors = k.descriptors ∧
    m.referenceTable = k.referenceTable ∧ m.display = k.display ∧
    ∀ modules : List (Module σ),
      let r := (Registry.empty : Registry σ).attemptAll modules
      ((∃ s t, (r.install m).run.value = .ok s ∧ (r.install k).run.value = .ok t) ∨
        ∃ fault, (r.install m).run.value = .error fault ∧
          (r.install k).run.value = .error fault) ∧
      ∀ s t, (r.install m).run.value = .ok s → (r.install k).run.value = .ok t →
        (∀ opcode, s.find? opcode = t.find? opcode ∧
          (s.moduleFor? opcode).map Module.name = (t.moduleFor? opcode).map Module.name) ∧
        ∀ script state, s.run script state = t.run script state ∧
          s.finalState script state = t.finalState script state := by
  intro m k
  have hm : m.Keeps title (Call.asked first) := (keeps_empty title).after first
  have hk : k.Keeps title (Call.asked second) := (keeps_empty title).after second
  have alike : m.Alike k := hm.alike hk reordered distinct
  refine ⟨alike.name, alike.find?, alike.opcodes, entries_congr alike.find?, alike.descriptors,
    alike.referenceTable, alike.display, fun modules => ?_⟩
  intro r
  have h : r.Consistent := Registry.consistent_empty.attemptAll modules
  refine ⟨r.install_congr alike, fun s t installed other => ?_⟩
  have found := h.find?_of_alike alike installed other
  exact ⟨fun opcode => ⟨found opcode, h.name_moduleFor?_of_alike alike installed other opcode⟩,
    fun script state => ⟨Registry.run_congr found script state,
      Registry.finalState_congr found script state⟩⟩

theorem after_eq_of_reordered_commands :
    let first : List (Call World) :=
      [.bindNamed Command.setTime.opcode "SetTime" 2 World.setTime, .descriptors,
        .bind Command.isRaining.opcode 0 World.isRaining]
    let second : List (Call World) :=
      [.reserve 8, .bind Command.isRaining.opcode 0 World.isRaining, .opcodes,
        .bindNamed Command.setTime.opcode "SetTime" 2 World.setTime]
    (Call.asked first).Perm (Call.asked second) ∧ ((Call.asked first).map Prod.fst).Nodup ∧
    ((empty "Sky").after first).display = ((empty "Sky").after second).display := by
  intro first second
  have reordered : (Call.asked first).Perm (Call.asked second) := .swap _ _ []
  have distinct : ((Call.asked first).map Prod.fst).Nodup := by decide
  obtain ⟨_, _, _, _, _, _, text, _⟩ := after_eq_of_reordered "Sky" reordered distinct
  exact ⟨reordered, distinct, text⟩

end Module

end OpcodeBinding
