import OpcodeBinding.Proofs.Consistency

/-! Scripts on an installed registry: which instructions are executed, and by which native function. -/
namespace OpcodeBinding.Registry

variable {σ : Type}

section Execute

variable {r : Registry σ} {instruction : Instruction} {binding : Binding σ}

theorem execute_congr {s : Registry σ}
    (same : r.find? instruction.opcode = s.find? instruction.opcode) (state : σ) :
    r.execute instruction state = s.execute instruction state := by
  rw [execute, execute, same]

/-- Registries that find the same bindings run every script alike. -/
theorem run_congr {s : Registry σ} (same : ∀ opcode, r.find? opcode = s.find? opcode)
    (script : List Instruction) (state : σ) : r.run script state = s.run script state := by
  induction script generalizing state with
  | nil => rfl
  | cons instruction script ih => rw [run, run, execute_congr (same _), ih]

theorem finalState_congr {s : Registry σ} (same : ∀ opcode, r.find? opcode = s.find? opcode)
    (script : List Instruction) (state : σ) :
    r.finalState script state = s.finalState script state := by
  simp only [finalState, execute_congr (same _)]

theorem execute_of_unbound (unbound : r.find? instruction.opcode = none) (state : σ) :
    r.execute instruction state = ⟨.error (.unknownOpcode instruction.opcode), state, []⟩ := by
  simp [execute, unbound]

theorem execute_of_mismatch (bound : r.find? instruction.opcode = some binding)
    (mismatch : binding.argumentCount ≠ instruction.operandCount) (state : σ) :
    r.execute instruction state =
      ⟨.error (.argumentCount instruction.opcode binding.argumentCount instruction.operandCount),
        state, []⟩ := by
  simp [execute, bound, Binding.accepts, Ne.symm mismatch]

theorem execute_of_match (bound : r.find? instruction.opcode = some binding)
    (fits : binding.argumentCount = instruction.operandCount) (state : σ) :
    r.execute instruction state =
      ⟨.ok (binding.call instruction state).value, (binding.call instruction state).state,
        .executed instruction.opcode instruction.operandCount binding.shape ::
          (binding.call instruction state).notes.map .noted⟩ := by
  simp [execute, bound, Binding.accepts, fits]

/-- A refused instruction leaves nothing behind but its fault. -/
theorem execute_of_error {fault : ExecutionFault} {state : σ}
    (refused : (r.execute instruction state).answer = .error fault) :
    r.execute instruction state = ⟨.error fault, state, []⟩ := by
  cases found : r.find? instruction.opcode with
  | none =>
    rw [execute_of_unbound found] at refused ⊢
    simp_all
  | some binding =>
    by_cases fits : binding.argumentCount = instruction.operandCount
    · rw [execute_of_match found fits] at refused
      simp at refused
    · rw [execute_of_mismatch found fits] at refused ⊢
      simp_all

/-- Whether an instruction is refused, and why, is up to the argument counts alone. -/
theorem execute_refusal_congr {s : Registry σ} {fault : ExecutionFault} {state : σ}
    (counts : ∀ opcode,
      (s.find? opcode).map Binding.argumentCount = (r.find? opcode).map Binding.argumentCount)
    (refused : (r.execute instruction state).answer = .error fault) :
    s.execute instruction state = r.execute instruction state := by
  have counts := counts instruction.opcode
  cases found : r.find? instruction.opcode with
  | none =>
    have unbound : s.find? instruction.opcode = none := by simpa [found] using counts
    rw [execute_of_unbound found, execute_of_unbound unbound]
  | some binding =>
    obtain ⟨other, there, same⟩ : ∃ other, s.find? instruction.opcode = some other ∧
        other.argumentCount = binding.argumentCount := by simpa [found] using counts
    by_cases fits : binding.argumentCount = instruction.operandCount
    · rw [execute_of_match found fits] at refused
      simp at refused
    · rw [execute_of_mismatch found fits, execute_of_mismatch there (same ▸ fits), same]

end Execute

section Run

variable (r : Registry σ)

theorem length_run (script : List Instruction) (state : σ) :
    (r.run script state).length = script.length := by
  induction script generalizing state with
  | nil => rfl
  | cons instruction script ih => simp [run, ih]

/-- A script may be broken off anywhere and continued from the state that is left. -/
theorem run_append (script more : List Instruction) (state : σ) :
    r.run (script ++ more) state = r.run script state ++ r.run more (r.finalState script state) := by
  induction script generalizing state with
  | nil => rfl
  | cons instruction script ih =>
    exact congrArg (_ :: ·) (ih (r.execute instruction state).state)

theorem finalState_append (script more : List Instruction) (state : σ) :
    r.finalState (script ++ more) state = r.finalState more (r.finalState script state) :=
  List.foldl_append

/-- Each instruction starts from the state that all those before it leave. -/
theorem getElem?_run (script : List Instruction) (state : σ) (i : Nat) :
    (r.run script state)[i]? = script[i]?.map fun instruction =>
      r.execute instruction (r.finalState (script.take i) state) := by
  induction script generalizing state i with
  | nil => rfl
  | cons instruction script ih =>
    cases i with
    | zero => rfl
    | succ i => simpa [run, finalState] using ih (r.execute instruction state).state i

/-- Replies that are no answers, with their instructions, can be left out. -/
theorem run_accepted (script : List Instruction) (state : σ) :
    let accepted := (script.zip (r.run script state)).filter fun turn => turn.2.answer.isOk
    r.run (accepted.map Prod.fst) state = accepted.map Prod.snd ∧
      r.finalState (accepted.map Prod.fst) state = r.finalState script state := by
  induction script generalizing state with
  | nil => exact ⟨rfl, rfl⟩
  | cons instruction script ih =>
    have step := ih (r.execute instruction state).state
    cases answer : (r.execute instruction state).answer with
    | ok value =>
      simp only [run, List.zip_cons_cons, List.filter_cons, answer, Except.isOk, Except.toBool,
        ite_true, List.map_cons, List.cons.injEq, true_and]
      exact step
    | error fault =>
      -- The rest of the script starts from the state that the refused instruction started from.
      rw [execute_of_error answer] at step
      have same : r.finalState (instruction :: script) state = r.finalState script state := by
        rw [finalState, List.foldl_cons, execute_of_error answer, finalState]
      simp only [run, List.zip_cons_cons, List.filter_cons, answer, Except.isOk, Except.toBool]
      rw [same, execute_of_error answer]
      exact step

end Run

/-- How an instruction is to be answered from a state, in terms of the installed modules and of calls
that check nothing. -/
structure AnswersAsBound (r : Registry σ) (instruction : Instruction) (before : σ)
    (reply : Reply σ) : Prop where
  unknown : reply.answer = .error (.unknownOpcode instruction.opcode) ↔
    ∀ m ∈ r.modules, instruction.opcode ∉ m.opcodes
  mismatched : ∀ m ∈ r.modules, ∀ binding, m.find? instruction.opcode = some binding →
    (reply.answer = .error
        (.argumentCount instruction.opcode binding.argumentCount instruction.operandCount) ↔
      binding.argumentCount ≠ instruction.operandCount)
  called : ∀ m ∈ r.modules, ∀ binding, m.find? instruction.opcode = some binding →
    binding.argumentCount = instruction.operandCount →
    r.moduleFor? instruction.opcode = some m ∧
    reply.answer = .ok (binding.call instruction before).value ∧
    reply.state = (binding.call instruction before).state ∧
    reply.events = .executed instruction.opcode instruction.operandCount binding.shape ::
      (binding.call instruction before).notes.map .noted ∧
    match binding.callback with
    | .effect run => reply.answer = .ok .done ∧ reply.state = (run instruction before).state
    | .predicate run =>
      reply.answer = .ok (.condition (run instruction before).value) ∧
      reply.state = (run instruction before).state
  /-- No call and no note is seen, and no other native functions would make a difference. -/
  refused : ∀ fault, reply.answer = .error fault →
    reply.state = before ∧ reply.events = [] ∧
    ∀ s : Registry σ, (∀ opcode, (s.find? opcode).map Binding.argumentCount =
        (r.find? opcode).map Binding.argumentCount) →
      s.execute instruction before = reply

/-- The index and the checks of an execution agree with what the modules bind. -/
theorem Consistent.answersAsBound_execute {r : Registry σ} (h : r.Consistent)
    (instruction : Instruction) (before : σ) :
    r.AnswersAsBound instruction before (r.execute instruction before) where
  unknown := by
    cases found : r.find? instruction.opcode with
    | none =>
      rw [execute_of_unbound found]
      simpa [Module.mem_opcodes] using h.find?_eq_none.mp found
    | some binding =>
      obtain ⟨m, installed, bound⟩ := h.find?_eq_some.mp found
      have provided : ¬ ∀ m ∈ r.modules, instruction.opcode ∉ m.opcodes := by
        intro absent
        exact absent m installed (Module.mem_opcodes.mpr (Option.isSome_of_eq_some bound))
      by_cases fits : binding.argumentCount = instruction.operandCount
      · simp [execute_of_match found fits, provided]
      · simp [execute_of_mismatch found fits, provided]
  mismatched m installed binding bound := by
    have found := h.find?_eq_some.mpr ⟨m, installed, bound⟩
    by_cases fits : binding.argumentCount = instruction.operandCount
    · simp [execute_of_match found fits, fits]
    · simp [execute_of_mismatch found fits, fits]
  called m installed binding bound fits := by
    have found := h.find?_eq_some.mpr ⟨m, installed, bound⟩
    have provided : m.contains instruction.opcode := by simp [Module.contains_eq, bound]
    refine ⟨h.moduleFor?_eq_some.mpr ⟨installed, provided⟩, ?_⟩
    rw [execute_of_match found fits]
    refine ⟨rfl, rfl, rfl, ?_⟩
    cases callback : binding.callback <;> simp [Binding.call, Callback.call, callback]
  refused fault refused := by
    refine ⟨?_, ?_, fun s counts => execute_refusal_congr counts refused⟩ <;>
      rw [execute_of_error refused]

/-- On a registry after any installations, a script is answered instruction by instruction as the
modules bind its opcodes, and the refused instructions can be left out of it. -/
theorem run_answersAsBound (modules : List (Module σ)) (script : List Instruction) (state : σ) :
    let r := (empty : Registry σ).attemptAll modules
    let replies := r.run script state
    let accepted := (script.zip replies).filter fun turn => turn.2.answer.isOk
    replies.length = script.length ∧
    (∀ i (hi : i < script.length), ∃ reply, replies[i]? = some reply ∧
      r.AnswersAsBound script[i] (r.finalState (script.take i) state) reply) ∧
    r.run (accepted.map Prod.fst) state = accepted.map Prod.snd ∧
    r.finalState (accepted.map Prod.fst) state = r.finalState script state := by
  intro r replies accepted
  have h : r.Consistent := consistent_empty.attemptAll modules
  refine ⟨r.length_run script state, fun i hi => ?_, r.run_accepted script state⟩
  refine ⟨_, ?_, h.answersAsBound_execute script[i] (r.finalState (script.take i) state)⟩
  rw [r.getElem?_run, List.getElem?_eq_getElem hi, Option.map_some]

end OpcodeBinding.Registry
