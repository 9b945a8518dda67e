import OpcodeBinding.Proofs.Distribution

/-! The registry of the world. Its three modules can be installed, and they bind exactly the commands. -/
namespace OpcodeBinding

namespace Command

theorem mem_all (command : Command) : command ∈ all := by
  cases command <;> decide

theorem ofOpcode?_eq_some {opcode : Opcode} {command : Command} :
    ofOpcode? opcode = some command ↔ command.opcode = opcode := by
  constructor
  · intro found
    simpa using List.find?_some found
  · rintro rfl
    cases command <;> decide

theorem opcode_inj {first second : Command} : first.opcode = second.opcode ↔ first = second := by
  constructor
  · intro same
    have found := ofOpcode?_eq_some.mpr same
    rw [ofOpcode?_eq_some.mpr rfl] at found
    exact (Option.some.inj found).symm
  · rintro rfl
    rfl

end Command

namespace World

open Registry (Consistent)

/-- Commands with distinct opcodes can be bound in a module without bindings, which then holds them and
keeps its name. -/
private theorem exists_bindCommands (m : Module World) (commands : List Command)
    (nothing : m.entries = []) (distinct : (commands.map Command.opcode).Nodup) :
    ∃ k, (bindCommands m commands).run.value = .ok k ∧ k.name = m.name ∧
      k.entries.Perm (commands.map Command.binding) := by
  have free : m.opcodes = [] := by rw [← Module.map_fst_entries, nothing, List.map_nil]
  have able : ((commands.map Command.binding).map Prod.fst ++ m.opcodes).Nodup := by
    rw [free, List.append_nil, List.map_map]
    exact distinct
  obtain ⟨k, bound⟩ := Module.bindAll_isOk_iff.mpr able
  have listed := Module.entries_of_bindAll bound
  rw [nothing, List.append_nil] at listed
  exact ⟨k, bound, Module.name_of_bindAll bound, listed⟩

def BoundIn (construction : Build (Module World)) (opcode : Opcode) : Prop :=
  ∃ m, construction.run.value = .ok m ∧ m.contains opcode

theorem boundIn_bindCommands {m : Module World} {commands : List Command} (nothing : m.entries = [])
    (distinct : (commands.map Command.opcode).Nodup) {opcode : Opcode} :
    BoundIn (bindCommands m commands) opcode ↔
      ∃ command ∈ commands, command.opcode = opcode := by
  obtain ⟨k, built, _, entries⟩ := exists_bindCommands m commands nothing distinct
  have bound : k.contains opcode ↔ ∃ command ∈ commands, command.opcode = opcode := by
    rw [Module.contains_eq, ← Module.mem_opcodes, ← Module.map_fst_entries,
      (entries.map Prod.fst).mem_iff, List.map_map, List.mem_map]
    rfl
  simp only [BoundIn, built, Except.ok.injEq, exists_eq_left', bound]

/-- The modules are built and installed one by one, which comes to the same as installing all three. -/
private theorem build_eq_ok {e o w : Module World} {r : Registry World}
    (environment : environment.run.value = .ok e) (objects : objectModule.run.value = .ok o)
    (weather : weatherModule.run.value = .ok w)
    (installed : (Registry.empty.installAll [e, o, w]).run.value = .ok r) :
    build.run.value = .ok r := by
  obtain ⟨r₁, first, installed⟩ := Registry.installAll_cons_eq_ok.mp installed
  obtain ⟨r₂, second, installed⟩ := Registry.installAll_cons_eq_ok.mp installed
  obtain ⟨r₃, third, installed⟩ := Registry.installAll_cons_eq_ok.mp installed
  obtain rfl := Build.pure_eq_ok.mp installed
  simp only [build, Build.bind_eq_ok]
  exact ⟨e, environment, r₁, first, o, objects, r₂, second, w, weather, third⟩

/-- The modules of the world can be installed, and every command is bound in one of them. -/
theorem build_eq_registry :
    build.run.value = .ok registry ∧ registry.Consistent ∧
      registry.entries.Perm (Command.all.map Command.binding) := by
  obtain ⟨e, environment, eName, eEntries⟩ := exists_bindCommands
    ((Module.empty "Environment").reserve 3) [.setTime, .getTime, .setWeather] (by simp) (by decide)
  obtain ⟨o, objects, oName, oEntries⟩ := exists_bindCommands
    ((Module.empty "Objects").reserve 3) [.createObject, .destroyObject, .objectExists]
    (by simp) (by decide)
  obtain ⟨w, weather, wName, wEntries⟩ := exists_bindCommands
    (Module.empty "Weather") [.isRaining] (by simp) (by decide)
  have bindings : ([e, o, w].flatMap Module.entries).Perm (Command.all.map Command.binding) :=
    eEntries.append (oEntries.append (wEntries.append .nil))
  have apart : [e, o, w].Pairwise Module.Apart := by
    rw [Module.pairwise_apart_iff]
    constructor
    · rw [List.map_cons, List.map_cons, List.map_singleton, eName, oName, wName]
      decide
    · have opcodes := bindings.map Prod.fst
      rw [List.map_flatMap] at opcodes
      simp only [Module.map_fst_entries] at opcodes
      rw [opcodes.nodup_iff]
      decide
  obtain ⟨r, installed⟩ := Registry.installAll_empty_isOk_iff.mpr apart
  have built := build_eq_ok environment objects weather installed
  have same : registry = r := by rw [registry, built]; rfl
  rw [same]
  refine ⟨built, Registry.consistent_empty.of_installAll installed, ?_⟩
  rw [Registry.entries, Registry.modules_of_installAll installed]
  exact bindings

/-- The registry finds the binding of each command under its opcode, and nothing else. -/
theorem find?_registry (opcode : Opcode) :
    registry.find? opcode = (Command.ofOpcode? opcode).map fun command => command.binding.2 := by
  obtain ⟨_, consistent, entries⟩ := build_eq_registry
  apply Option.ext
  intro binding
  rw [← consistent.mem_entries, entries.mem_iff, List.mem_map, Option.map_eq_some_iff]
  simp only [Command.ofOpcode?_eq_some, Command.binding, Prod.mk.injEq]
  constructor
  · rintro ⟨command, _, found, bound⟩
    exact ⟨command, found, bound⟩
  · rintro ⟨command, found, bound⟩
    exact ⟨command, command.mem_all, found, bound⟩

end World

end OpcodeBinding
