import Mathlib.Data.List.Forall2
import Mathlib.Data.List.Nodup
import OpcodeBinding.Proofs.Compatibility
import OpcodeBinding.Proofs.Scripts
import OpcodeBinding.World

/-! One list of bindings in one module, or split over several modules of one registry. Splitting
neither hides nor makes a conflict, and scripts cannot tell the difference. -/
namespace OpcodeBinding

variable {σ : Type}

private theorem Build.mapM_eq_ok {α β : Type} {f : α → Build β} {xs : List α} {ys : List β} :
    (xs.mapM f).run.value = .ok ys ↔ List.Forall₂ (fun x y => (f x).run.value = .ok y) xs ys := by
  induction xs generalizing ys with
  | nil => rw [List.mapM_nil, Build.pure_eq_ok, List.forall₂_nil_left_iff, eq_comm]
  | cons x xs ih =>
    simp only [List.mapM_cons, Build.bind_eq_ok, Build.pure_eq_ok, List.forall₂_cons_left_iff, ih]
    constructor
    · intro all
      rcases all with ⟨y, first, rest, others, rfl⟩
      exact ⟨y, rest, first, others, rfl⟩
    · intro all
      rcases all with ⟨y, rest, first, others, rfl⟩
      exact ⟨y, first, rest, others, rfl⟩

private theorem Build.mapM_isOk_iff {α β : Type} {f : α → Build β} {xs : List α} :
    (∃ ys, (xs.mapM f).run.value = .ok ys) ↔ ∀ x ∈ xs, ∃ y, (f x).run.value = .ok y := by
  induction xs with
  | nil => simpa using ⟨[], Build.pure_eq_ok.mpr rfl⟩
  | cons x xs ih =>
    simp only [List.mapM_cons, Build.bind_eq_ok, Build.pure_eq_ok, List.forall_mem_cons, ← ih]
    constructor
    · intro all
      rcases all with ⟨_, y, first, ys, rest, _⟩
      exact ⟨⟨y, first⟩, ys, rest⟩
    · intro all
      rcases all with ⟨⟨y, first⟩, ys, rest⟩
      exact ⟨_, y, first, ys, rest, rfl⟩

structure Part (σ : Type) where
  name : String
  bindings : List (Opcode × Binding σ)

def Part.build (part : Part σ) : Build (Module σ) := (Module.empty part.name).bindAll part.bindings

/-- A part can be built exactly when it binds no opcode twice. -/
theorem Part.build_isOk_iff (part : Part σ) :
    (∃ m, part.build.run.value = .ok m) ↔ (part.bindings.map Prod.fst).Nodup := by
  rw [Part.build, Module.bindAll_isOk_iff, Module.opcodes_empty, List.append_nil]

theorem Part.entries_of_build {part : Part σ} {m : Module σ} (h : part.build.run.value = .ok m) :
    m.entries.Perm part.bindings := by
  have listed := Module.entries_of_bindAll h
  rwa [Module.entries_empty, List.append_nil] at listed

namespace Registry

def ofParts (parts : List (Part σ)) : Build (Registry σ) := do
  let modules ← parts.mapM Part.build
  empty.installAll modules

def entries (r : Registry σ) : List (Opcode × Binding σ) := r.modules.toList.flatMap Module.entries

/-- The descriptors of all modules, merged in ascending order of opcodes. -/
def descriptors (r : Registry σ) : List Descriptor :=
  Opcode.sortBy Descriptor.opcode (r.modules.toList.flatMap Module.descriptors)

variable {r s : Registry σ}

/-- What a registry finds is what its modules list. -/
theorem Consistent.mem_entries (h : r.Consistent) {opcode : Opcode} {binding : Binding σ} :
    (opcode, binding) ∈ r.entries ↔ r.find? opcode = some binding := by
  simp only [h.find?_eq_some, entries, List.mem_flatMap, Module.mem_entries, Array.mem_toList_iff]

theorem Consistent.opcodeCount_eq (h : r.Consistent) : r.opcodeCount = r.entries.length := by
  rw [opcodeCount, h.count, entries, List.length_flatMap]
  simp only [Module.length_entries]

/-- Two registries with the same bindings answer alike, however these stand in modules. -/
theorem Consistent.find?_congr (hr : r.Consistent) (hs : s.Consistent)
    (same : r.entries.Perm s.entries) (opcode : Opcode) : r.find? opcode = s.find? opcode := by
  apply Option.ext
  intro binding
  rw [← hr.mem_entries, ← hs.mem_entries, same.mem_iff]

section Parts

variable {parts : List (Part σ)} {modules : List (Module σ)}

/-- All parts are built first, and then they are installed. -/
theorem ofParts_eq_ok :
    (ofParts parts).run.value = .ok r ↔
      ∃ modules, List.Forall₂ (fun part m => part.build.run.value = .ok m) parts modules ∧
        (empty.installAll modules).run.value = .ok r := by
  rw [ofParts, Build.bind_eq_ok]
  simp only [Build.mapM_eq_ok]

private theorem names_of_built
    (built : List.Forall₂ (fun part m => part.build.run.value = .ok m) parts modules) :
    modules.map Module.name = parts.map Part.name := by
  induction built with
  | nil => rfl
  | cons first _ ih => rw [List.map_cons, List.map_cons, ih, Module.name_of_bindAll first]; rfl

private theorem entries_of_built
    (built : List.Forall₂ (fun part m => part.build.run.value = .ok m) parts modules) :
    (modules.flatMap Module.entries).Perm (parts.flatMap Part.bindings) := by
  induction built with
  | nil => exact .nil
  | cons first _ ih => exact (Part.entries_of_build first).append ih

private theorem opcodes_of_built
    (built : List.Forall₂ (fun part m => part.build.run.value = .ok m) parts modules) :
    (modules.flatMap Module.opcodes).Perm ((parts.flatMap Part.bindings).map Prod.fst) := by
  have moved := (entries_of_built built).map Prod.fst
  rw [List.map_flatMap] at moved
  simpa only [Module.map_fst_entries] using moved

/-- Parts can be built and installed exactly when no name and no opcode is repeated, be it within a
part or across parts. -/
theorem ofParts_isOk_iff :
    (∃ r, (ofParts parts).run.value = .ok r) ↔
      (parts.map Part.name).Nodup ∧ ((parts.flatMap Part.bindings).map Prod.fst).Nodup := by
  constructor
  · rintro ⟨r, done⟩
    obtain ⟨modules, built, installed⟩ := ofParts_eq_ok.mp done
    have apart := installAll_empty_isOk_iff.mp ⟨r, installed⟩
    obtain ⟨names, distinct⟩ := Module.pairwise_apart_iff.mp apart
    rw [names_of_built built] at names
    exact ⟨names, (opcodes_of_built built).nodup_iff.mp distinct⟩
  · rintro ⟨names, distinct⟩
    have each : ∀ part ∈ parts, ∃ m, part.build.run.value = .ok m := by
      rw [List.map_flatMap, List.nodup_flatMap] at distinct
      intro part there
      exact part.build_isOk_iff.mpr (distinct.1 part there)
    obtain ⟨modules, all⟩ := Build.mapM_isOk_iff.mpr each
    have built := Build.mapM_eq_ok.mp all
    have apart : modules.Pairwise Module.Apart := by
      rw [Module.pairwise_apart_iff, names_of_built built]
      exact ⟨names, (opcodes_of_built built).nodup_iff.mpr distinct⟩
    obtain ⟨r, installed⟩ := installAll_empty_isOk_iff.mpr apart
    exact ⟨r, ofParts_eq_ok.mpr ⟨modules, built, installed⟩⟩

theorem consistent_of_ofParts (done : (ofParts parts).run.value = .ok r) : r.Consistent := by
  obtain ⟨modules, _, installed⟩ := ofParts_eq_ok.mp done
  exact consistent_empty.of_installAll installed

/-- No binding is lost or changed on the way into the registry. -/
theorem entries_of_ofParts (done : (ofParts parts).run.value = .ok r) :
    r.entries.Perm (parts.flatMap Part.bindings) := by
  obtain ⟨modules, built, installed⟩ := ofParts_eq_ok.mp done
  have same : r.entries = modules.flatMap Module.entries := by
    rw [entries, modules_of_installAll installed, List.flatMap_append, List.flatMap_map]
    rfl
  rw [same]
  exact entries_of_built built

end Parts

/-- A module and a registry with the same bindings list the same descriptors. -/
theorem descriptors_eq_of_entries {m : Module σ} (same : r.entries.Perm m.entries) :
    r.descriptors = m.descriptors := by
  have listed : (r.modules.toList.flatMap Module.descriptors).Perm m.descriptors := by
    have described := same.map fun entry => entry.2.describe entry.1
    rwa [entries, List.map_flatMap] at described
  have ascending : Opcode.Ascending (m.descriptors.map Descriptor.opcode) := by
    rw [Module.map_opcode_descriptors]
    exact m.opcodes_ascending
  exact Opcode.sortBy_eq_of_ascending listed ascending

/-- Bindings that are split over modules with distinct names make the same registry as one module with
all of them. Either way fails exactly when an opcode is bound twice. -/
theorem ofParts_eq_whole (title : String) {parts : List (Part σ)}
    {bindings : List (Opcode × Binding σ)} (names : (parts.map Part.name).Nodup)
    (split : (parts.flatMap Part.bindings).Perm bindings) :
    ((∃ r, (ofParts parts).run.value = .ok r) ↔ (bindings.map Prod.fst).Nodup) ∧
    ((∃ m, ((Module.empty title).bindAll bindings).run.value = .ok m) ↔
      (bindings.map Prod.fst).Nodup) ∧
    ∀ r m, (ofParts parts).run.value = .ok r →
      ((Module.empty title).bindAll bindings).run.value = .ok m →
      ∃ s, (empty.install m).run.value = .ok s ∧
        (∀ opcode, r.find? opcode = m.find? opcode) ∧
        (∀ instruction state, r.execute instruction state = s.execute instruction state) ∧
        r.opcodeCount = m.size ∧ r.descriptors = m.descriptors := by
  refine ⟨?_, Part.build_isOk_iff ⟨title, bindings⟩, fun r m done whole => ?_⟩
  · rw [ofParts_isOk_iff, and_iff_right names]
    exact (split.map Prod.fst).nodup_iff
  · have hr := consistent_of_ofParts done
    have listed : m.entries.Perm bindings := @Part.entries_of_build σ ⟨title, bindings⟩ m whole
    have same := ((entries_of_ofParts done).trans split).trans listed.symm
    obtain ⟨s, alone⟩ := (consistent_empty.install_isOk_iff (m := m)).mpr fun k there =>
      absurd there (Array.not_mem_empty k)
    have found : ∀ opcode, r.find? opcode = m.find? opcode := by
      intro opcode
      apply Option.ext
      intro binding
      rw [← hr.mem_entries, same.mem_iff, Module.mem_entries]
    have single : s.entries = m.entries := by
      rw [entries, modules_of_install alone]
      exact List.append_nil m.entries
    have equal := hr.find?_congr (consistent_empty.of_install alone) (single ▸ same)
    refine ⟨s, alone, found, fun instruction state => execute_congr (equal _) state, ?_,
      descriptors_eq_of_entries same⟩
    rw [hr.opcodeCount_eq, same.length_eq, Module.length_entries]

theorem ofParts_eq_whole_commands :
    let parts : List (Part World) :=
      [⟨"Time", [Command.setTime.binding, Command.getTime.binding]⟩, ⟨"Spare", []⟩,
        ⟨"Weather", [Command.isRaining.binding]⟩]
    let bindings := [Command.isRaining, .setTime, .getTime].map Command.binding
    (parts.map Part.name).Nodup ∧ (parts.flatMap Part.bindings).Perm bindings ∧
    ∃ r m, (ofParts parts).run.value = .ok r ∧
      ((Module.empty "Commands").bindAll bindings).run.value = .ok m ∧
      r.opcodeCount = m.size ∧ r.descriptors = m.descriptors := by
  intro parts bindings
  have names : (parts.map Part.name).Nodup := by decide
  have split : (parts.flatMap Part.bindings).Perm bindings :=
    List.perm_append_singleton Command.isRaining.binding
      [Command.setTime.binding, Command.getTime.binding]
  have distinct : (bindings.map Prod.fst).Nodup := by decide
  obtain ⟨several, one, equal⟩ := ofParts_eq_whole "Commands" names split
  obtain ⟨r, done⟩ := several.mpr distinct
  obtain ⟨m, whole⟩ := one.mpr distinct
  obtain ⟨_, _, _, _, counts, lists⟩ := equal r m done whole
  exact ⟨names, split, r, m, done, whole, counts, lists⟩

end Registry

end OpcodeBinding
