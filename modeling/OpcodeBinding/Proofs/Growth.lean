import OpcodeBinding.Proofs.Scripts

/-! Registries that grow by installations. What an opcode leads to stays as it is, so a script that knows
all its opcodes already cannot tell the difference. -/
namespace OpcodeBinding.Registry

variable {σ : Type} {r s t : Registry σ} {m k : Module σ} {opcode : Opcode}

/-- The modules of the first registry keep their positions in the second, and its opcodes lead to the
positions they led to. The second registry may know more of both. -/
structure GrowsInto (r s : Registry σ) : Prop where
  modules : ∀ (position : Nat) (m : Module σ),
    r.modules[position]? = some m → s.modules[position]? = some m
  index : ∀ (opcode : Opcode) (position : Nat),
    r.index[opcode]? = some position → s.index[opcode]? = some position

namespace GrowsInto

theorem refl (r : Registry σ) : r.GrowsInto r where
  modules _ _ there := there
  index _ _ indexed := indexed

theorem trans (first : r.GrowsInto s) (second : s.GrowsInto t) : r.GrowsInto t where
  modules position m there := second.modules position m (first.modules position m there)
  index opcode position indexed :=
    second.index opcode position (first.index opcode position indexed)

theorem moduleFor? (grown : r.GrowsInto s) (found : r.moduleFor? opcode = some m) :
    s.moduleFor? opcode = some m := by
  obtain ⟨position, indexed, there⟩ := Option.bind_eq_some_iff.mp found
  exact Option.bind_eq_some_iff.mpr
    ⟨position, grown.index opcode position indexed, grown.modules position m there⟩

theorem find? (grown : r.GrowsInto s) {binding : Binding σ} (found : r.find? opcode = some binding) :
    s.find? opcode = some binding := by
  obtain ⟨m, provided, bound⟩ := Option.bind_eq_some_iff.mp found
  exact Option.bind_eq_some_iff.mpr ⟨m, grown.moduleFor? provided, bound⟩

/-- An instruction of a known opcode is executed, or refused for its operands, as it was. -/
theorem execute (grown : r.GrowsInto s) {instruction : Instruction} {state : σ}
    (known : ∀ opcode, (r.execute instruction state).answer ≠ .error (.unknownOpcode opcode)) :
    s.execute instruction state = r.execute instruction state := by
  cases found : r.find? instruction.opcode with
  | none =>
    rw [execute_of_unbound found] at known
    exact absurd rfl (known instruction.opcode)
  | some binding => exact execute_congr ((grown.find? found).trans found.symm) state

/-- A script without unknown opcodes runs the same on any registry that grew from this one. -/
theorem run (grown : r.GrowsInto s) {script : List Instruction} {state : σ}
    (known : ∀ reply ∈ r.run script state, ∀ opcode,
      reply.answer ≠ .error (.unknownOpcode opcode)) :
    s.run script state = r.run script state ∧
      s.finalState script state = r.finalState script state := by
  induction script generalizing state with
  | nil => exact ⟨rfl, rfl⟩
  | cons instruction script ih =>
    rw [Registry.run, List.forall_mem_cons] at known
    have step := grown.execute known.1
    obtain ⟨replies, final⟩ := ih known.2
    constructor
    · rw [Registry.run, Registry.run, step, replies]
    · rw [finalState, finalState, List.foldl_cons, List.foldl_cons, step]
      exact final

end GrowsInto

namespace Consistent

/-- A new module comes behind those installed before it. -/
theorem growsInto_of_install (h : r.Consistent) (installed : (r.install m).run.value = .ok s) :
    r.GrowsInto s where
  modules position k there := (getElem?_of_install installed position k).mpr (.inl there)
  index opcode position indexed := by
    rw [index_of_install installed]
    -- An opcode of the new module would have been refused if it led anywhere before.
    have old : ¬ m.contains opcode := by
      intro new
      rw [h.absent_of_install installed new] at indexed
      contradiction
    rw [if_neg old, indexed]

theorem growsInto_attempt (h : r.Consistent) (m : Module σ) : r.GrowsInto (r.attempt m) := by
  cases result : (r.install m).run.value with
  | ok s =>
    rw [attempt_of_install result]
    exact h.growsInto_of_install result
  | error fault =>
    rw [attempt_of_refusal result]
    exact .refl r

/-- Whatever is installed or refused, a registry only grows. -/
theorem growsInto_attemptAll (h : r.Consistent) (modules : List (Module σ)) :
    r.GrowsInto (r.attemptAll modules) := by
  induction modules generalizing r with
  | nil => exact .refl r
  | cons m modules ih => exact (h.growsInto_attempt m).trans (ih (h.attempt m))

/-- An opcode that is new after an attempt comes from its module, and the attempt was no refusal. -/
theorem installed_of_attempt (h : r.Consistent) (unknown : r.moduleFor? opcode = none)
    (found : (r.attempt m).moduleFor? opcode = some k) :
    (r.install m).run.value = .ok (r.attempt m) ∧ m.contains opcode ∧ k = m.listed := by
  cases result : (r.install m).run.value with
  | error fault =>
    rw [attempt_of_refusal result, unknown] at found
    contradiction
  | ok s =>
    rw [attempt_of_install result] at found ⊢
    obtain ⟨there, bound⟩ := (h.of_install result).moduleFor?_eq_some.mp found
    rw [modules_of_install result, Array.mem_push] at there
    rcases there with old | rfl
    · rw [h.moduleFor?_eq_none] at unknown
      simp [Module.contains_eq, unknown k old] at bound
    · exact ⟨rfl, bound, rfl⟩

/-- An opcode that is new after many attempts comes from the module of one that was no refusal. -/
theorem installed_of_attemptAll (h : r.Consistent) {modules : List (Module σ)}
    (unknown : r.moduleFor? opcode = none)
    (found : (r.attemptAll modules).moduleFor? opcode = some k) :
    ∃ i, ∃ hi : i < modules.length,
      (∃ s, ((r.attemptAll (modules.take i)).install modules[i]).run.value = .ok s) ∧
      modules[i].contains opcode ∧ k = modules[i].listed := by
  induction modules generalizing r with
  | nil =>
    rw [show r.attemptAll [] = r from rfl, unknown] at found
    contradiction
  | cons m modules ih =>
    cases early : (r.attempt m).moduleFor? opcode with
    | none =>
      obtain ⟨i, hi, installed⟩ := ih (h.attempt m) early found
      exact ⟨i + 1, Nat.succ_lt_succ hi, installed⟩
    | some first =>
      have kept := ((h.attempt m).growsInto_attemptAll modules).moduleFor? early
      obtain rfl := Option.some.inj (kept.symm.trans found)
      obtain ⟨installed, bound, same⟩ := h.installed_of_attempt unknown early
      exact ⟨0, Nat.zero_lt_succ _, ⟨_, installed⟩, bound, same⟩

end Consistent

/-- Further installations change no reply but those to opcodes that were unknown, and such an opcode is
bound by a module installed since. -/
theorem replies_stable_of_attemptAll (earlier later : List (Module σ)) :
    let r := (empty : Registry σ).attemptAll earlier
    let s := r.attemptAll later
    (∀ script state,
      (∀ reply ∈ r.run script state, ∀ opcode, reply.answer ≠ .error (.unknownOpcode opcode)) →
      s.run script state = r.run script state ∧
      s.finalState script state = r.finalState script state) ∧
    (∀ opcode binding, r.find? opcode = some binding →
      s.find? opcode = some binding ∧
      ∃ (p : Nat) (m : Module σ),
        r.index[opcode]? = some p ∧ r.modules[p]? = some m ∧ r.moduleFor? opcode = some m ∧
        s.index[opcode]? = some p ∧ s.modules[p]? = some m ∧ s.moduleFor? opcode = some m) ∧
    ∀ opcode, r.find? opcode = none → (s.find? opcode).isSome →
      ∃ i, ∃ hi : i < later.length,
        (∃ t, ((r.attemptAll (later.take i)).install later[i]).run.value = .ok t) ∧
        later[i].contains opcode ∧ s.moduleFor? opcode = some later[i].listed := by
  intro r s
  have h : r.Consistent := consistent_empty.attemptAll earlier
  have grown : r.GrowsInto s := h.growsInto_attemptAll later
  refine ⟨fun script state known => grown.run known, ?_, ?_⟩
  · intro opcode binding found
    obtain ⟨m, provided, _⟩ := Option.bind_eq_some_iff.mp found
    obtain ⟨p, indexed, there⟩ := Option.bind_eq_some_iff.mp provided
    exact ⟨grown.find? found, p, m, indexed, there, provided, grown.index opcode p indexed,
      grown.modules p m there, grown.moduleFor? provided⟩
  · intro opcode unbound found
    have unknown : r.moduleFor? opcode = none := by
      rw [h.moduleFor?_eq_none, ← h.find?_eq_none]
      exact unbound
    obtain ⟨binding, found⟩ := Option.isSome_iff_exists.mp found
    obtain ⟨k, provided, _⟩ := Option.bind_eq_some_iff.mp found
    obtain ⟨i, hi, installed, bound, rfl⟩ := h.installed_of_attemptAll unknown provided
    exact ⟨i, hi, installed, bound, provided⟩

end OpcodeBinding.Registry
