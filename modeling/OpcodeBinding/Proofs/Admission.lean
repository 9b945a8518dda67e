import OpcodeBinding.Proofs.Consistency

/-! What an installation answers and what it leaves behind. A refusal names its reason exactly, and a
module is installed as a whole or not at all. -/
namespace OpcodeBinding.Registry

variable {σ : Type} {r s : Registry σ} {m owner : Module σ} {opcode : Opcode}

def Contested (r : Registry σ) (m : Module σ) (opcode : Opcode) : Prop :=
  m.contains opcode ∧ ∃ k ∈ r.modules, k.contains opcode

/-- The conflict scan stops at the least opcode that leads anywhere. -/
theorem least_of_conflict? (found : r.conflict? m = some (opcode, owner)) :
    m.contains opcode ∧ r.moduleFor? opcode = some owner ∧
      ∀ other, m.contains other → (r.moduleFor? other).isSome → opcode.code ≤ other.code := by
  obtain ⟨before, here, behind, split, provided, passed⟩ := List.findSome?_eq_some_iff.mp found
  obtain ⟨_, there, same⟩ := Option.map_eq_some_iff.mp provided
  obtain ⟨rfl, rfl⟩ := Prod.mk.inj same
  have listed : ∀ other, m.contains other ↔ other ∈ before ∨ other = here ∨ other ∈ behind := by
    intro other
    rw [Module.contains_eq, ← Module.mem_opcodes, split, List.mem_append, List.mem_cons]
  have ascending := m.opcodes_ascending
  rw [split, Opcode.Ascending, List.pairwise_append, List.pairwise_cons] at ascending
  refine ⟨(listed here).mpr (.inr (.inl rfl)), there, fun other bound leads => ?_⟩
  rcases (listed other).mp bound with early | rfl | late
  · have nowhere := Option.map_eq_none_iff.mp (passed other early)
    simp [nowhere] at leads
  · exact UInt16.le_refl _
  · exact UInt16.le_of_lt (compareOfLessAndEq_eq_lt.mp (ascending.2.1.1 other late))

namespace Consistent

theorem isSome_moduleFor? (h : r.Consistent) :
    (r.moduleFor? opcode).isSome ↔ ∃ k ∈ r.modules, k.contains opcode := by
  simp only [Option.isSome_iff_exists, h.moduleFor?_eq_some]

theorem conflict?_eq_none_iff (h : r.Consistent) :
    r.conflict? m = none ↔ ∀ opcode, ¬ r.Contested m opcode := by
  rw [Registry.conflict?_eq_none]
  refine forall_congr' fun opcode => ?_
  rw [Contested, ← h.isSome_moduleFor?, not_and, Option.not_isSome_iff_eq_none]

/-- A conflict is about the least contested opcode, and about the one module that binds it. -/
theorem conflict?_eq_some (h : r.Consistent) (found : r.conflict? m = some (opcode, owner)) :
    r.Contested m opcode ∧ (∀ other, r.Contested m other → opcode.code ≤ other.code) ∧
      ∀ k, k = owner ↔ k ∈ r.modules ∧ k.contains opcode := by
  obtain ⟨bound, provided, least⟩ := least_of_conflict? found
  refine ⟨⟨bound, owner, h.moduleFor?_eq_some.mp provided⟩, fun other contested => ?_, fun k => ?_⟩
  · exact least other contested.1 (h.isSome_moduleFor?.mpr contested.2)
  · rw [← h.moduleFor?_eq_some, provided, Option.some_inj, eq_comm]

/-- An installed module answers for its own opcodes and for no others. -/
theorem moduleFor?_of_install (h : r.Consistent) (installed : (r.install m).run.value = .ok s)
    (opcode : Opcode) :
    s.moduleFor? opcode = if m.contains opcode then some m.listed else r.moduleFor? opcode := by
  apply Option.ext
  intro k
  rw [(h.of_install installed).moduleFor?_eq_some, modules_of_install installed, Array.mem_push]
  by_cases bound : m.contains opcode
  · have new : ∀ k ∈ r.modules, ¬ k.contains opcode := by
      have free := h.index_eq_none.mp (h.absent_of_install installed bound)
      simpa [Module.contains_eq] using h.moduleFor?_eq_none.mp free
    rw [if_pos bound, Option.some_inj, eq_comm]
    constructor
    · rintro ⟨old | same, provided⟩
      · exact absurd provided (new k old)
      · exact same
    · rintro rfl
      exact ⟨.inr rfl, bound⟩
  · rw [if_neg bound, h.moduleFor?_eq_some]
    constructor
    · rintro ⟨old | rfl, provided⟩
      · exact ⟨old, provided⟩
      · exact absurd provided bound
    · rintro ⟨old, provided⟩
      exact ⟨.inl old, provided⟩

/-- A new module answers for its own opcodes and changes no others. -/
theorem find?_of_install (h : r.Consistent) (installed : (r.install m).run.value = .ok s)
    (opcode : Opcode) :
    s.find? opcode = if m.contains opcode then m.find? opcode else r.find? opcode := by
  rw [find?, h.moduleFor?_of_install installed]
  by_cases bound : m.contains opcode
  · rw [if_pos bound, if_pos bound, Option.bind_some, Module.find?_listed]
  · rw [if_neg bound, if_neg bound, find?]

/-- No opcode is counted twice. -/
theorem opcodeCount_of_install (h : r.Consistent) (installed : (r.install m).run.value = .ok s) :
    s.opcodeCount = r.opcodeCount + m.size := by
  rw [opcodeCount, (h.of_install installed).count, modules_of_install installed, opcodeCount, h.count]
  simp

end Consistent

/-- A module is refused for a taken name, else for its least contested opcode, and is installed
otherwise. A refusal changes nothing, and an installation only what its own opcodes lead to. -/
theorem install_exact_of_attemptAll (modules : List (Module σ)) (m : Module σ) :
    let r := (empty : Registry σ).attemptAll modules
    let result := (r.install m).run.value
    (r.hasName m.name → result = .error (.installedTwice m.name)) ∧
    (¬ r.hasName m.name → (∃ opcode, r.Contested m opcode) →
      ∃ opcode owner, result = .error (.providedTwice opcode owner.name m.name) ∧
        r.Contested m opcode ∧ (∀ other, r.Contested m other → opcode.code ≤ other.code) ∧
        ∀ k, k = owner ↔ k ∈ r.modules ∧ k.contains opcode) ∧
    (¬ r.hasName m.name → (∀ opcode, ¬ r.Contested m opcode) → ∃ s, result = .ok s) ∧
    (∀ fault, result = .error fault →
      (r.attempt m).modules = r.modules ∧ (r.attempt m).index = r.index) ∧
    ∀ s, result = .ok s →
      r.attempt m = s ∧ s.modules = r.modules.push m.listed ∧
      (∀ opcode,
        s.find? opcode = (if m.contains opcode then m.find? opcode else r.find? opcode) ∧
        s.moduleFor? opcode =
          if m.contains opcode then some m.listed else r.moduleFor? opcode) ∧
      s.opcodeCount = r.opcodeCount + m.size := by
  intro r result
  have h : r.Consistent := consistent_empty.attemptAll modules
  refine ⟨install_eq_installedTwice, fun fresh contested => ?_, fun fresh free => ?_,
    fun fault refused => ?_, fun s installed => ?_⟩
  · cases found : r.conflict? m with
    | none =>
      obtain ⟨opcode, clash⟩ := contested
      exact absurd clash (h.conflict?_eq_none_iff.mp found opcode)
    | some conflict =>
      obtain ⟨opcode, owner⟩ := conflict
      exact ⟨opcode, owner, install_eq_providedTwice fresh found, h.conflict?_eq_some found⟩
  · exact ⟨_, install_eq_ok.mpr ⟨fresh, h.conflict?_eq_none_iff.mpr free, rfl⟩⟩
  · rw [attempt_of_refusal refused]
    exact ⟨rfl, rfl⟩
  · exact ⟨attempt_of_install installed, modules_of_install installed,
      fun opcode => ⟨h.find?_of_install installed opcode, h.moduleFor?_of_install installed opcode⟩,
      h.opcodeCount_of_install installed⟩

end OpcodeBinding.Registry
