import Mathlib.Data.List.Induction
import OpcodeBinding.Proofs.Commands

/-! The world after a script, told from the script alone. The last instructions of a kind decide the time
and the weather, and an object is there when it was created and not destroyed since. -/
namespace OpcodeBinding

def Command.accepts (command : Command) (instruction : Instruction) : Bool :=
  instruction.opcode == command.opcode && instruction.operandCount == command.argumentCount

namespace World

section History

def last? (command : Command) (script : List Instruction) : Option Instruction :=
  (script.filter command.accepts).getLast?

/-- An integer operand of the last instruction of a command. It is zero where there is no such
instruction, and where the operand is no integer. -/
def lastInteger (command : Command) (position : Nat) (script : List Instruction) : Int32 :=
  ((last? command script).bind fun instruction => instruction.integer? position).getD 0

def model? (command : Command) (instruction : Instruction) : Option Int32 :=
  if command.accepts instruction then instruction.integer? 0 else none

/-- The models of the creations that no later destruction of the same model undoes. -/
def remaining : List Instruction → List Int32
  | [] => []
  | instruction :: later =>
    let stays model := later.all fun other => model? .destroyObject other ≠ some model
    (model? .createObject instruction).toList.filter stays ++ remaining later

def ofHistory (script : List Instruction) : World where
  hour := (lastInteger .setTime 0 script).toInt % 24
  minute := (lastInteger .setTime 1 script).toInt % 60
  weather := lastInteger .setWeather 0 script
  objects := remaining script

end History

section Concat

variable (earlier : List Instruction) (instruction : Instruction)

/-- Only an instruction of the same command puts another integer in place. -/
theorem lastInteger_concat (command : Command) (position : Nat) :
    lastInteger command position (earlier ++ [instruction]) =
      if command.accepts instruction then (instruction.integer? position).getD 0
      else lastInteger command position earlier := by
  rw [lastInteger, last?, List.filter_append]
  cases taken : command.accepts instruction with
  | true => simp [taken]
  | false => simp [taken, lastInteger, last?]

/-- The last instruction takes away what it destroys, and adds what it creates. -/
theorem remaining_concat :
    remaining (earlier ++ [instruction]) =
      (remaining earlier).filter (fun model => model? .destroyObject instruction ≠ some model) ++
        (model? .createObject instruction).toList := by
  induction earlier with
  | nil => simp [remaining]
  | cons first earlier ih =>
    rw [List.cons_append, remaining, ih, remaining, List.filter_append, List.append_assoc,
      List.filter_filter]
    -- What the last instruction destroys is one more thing that an earlier creation has to outlast.
    simp only [List.all_append, List.all_cons, List.all_nil, Bool.true_and, Bool.and_comm]

end Concat

/-- An object is there when some creation of its model has no destruction of it behind. -/
theorem mem_remaining {script : List Instruction} {model : Int32} :
    model ∈ remaining script ↔
      ∃ before creation later, script = before ++ creation :: later ∧
        model? .createObject creation = some model ∧
        ∀ other ∈ later, model? .destroyObject other ≠ some model := by
  induction script with
  | nil => simp [remaining]
  | cons first script ih =>
    rw [remaining, List.mem_append, ih, List.mem_filter, Option.mem_toList, List.all_eq_true]
    simp only [decide_eq_true_eq]
    constructor
    · rintro (⟨created, kept⟩ | ⟨before, creation, later, rfl, created, kept⟩)
      · exact ⟨[], first, script, rfl, created, kept⟩
      · exact ⟨first :: before, creation, later, rfl, created, kept⟩
    · rintro ⟨before, creation, later, split, created, kept⟩
      rw [List.cons_eq_append_iff] at split
      rcases split with ⟨rfl, same⟩ | ⟨before, rfl, split⟩
      · obtain ⟨rfl, rfl⟩ := List.cons.inj same
        exact .inl ⟨created, kept⟩
      · exact .inr ⟨before, creation, later, split, created, kept⟩

section Execute

variable {command other : Command} {instruction : Instruction}

theorem accepts_iff :
    command.accepts instruction ↔ instruction.opcode = command.opcode ∧
      instruction.operandCount = command.argumentCount := by
  rw [Command.accepts, Bool.and_eq_true, beq_iff_eq, beq_iff_eq]

/-- No instruction is one of two commands. -/
theorem accepts_eq (accepted : command.accepts instruction) (other : Command) :
    other.accepts instruction = decide (other = command) := by
  rw [Bool.eq_iff_iff, decide_eq_true_iff]
  constructor
  · intro also
    exact Command.opcode_inj.mp ((accepts_iff.mp also).1.symm.trans (accepts_iff.mp accepted).1)
  · rintro rfl
    exact accepted

/-- An instruction of a command is carried out as the command says. -/
theorem execute_of_accepts (accepted : command.accepts instruction) (world : World) :
    registry.execute instruction world =
      let outcome := command.callback.call instruction world
      ⟨.ok outcome.value, outcome.state,
        .executed instruction.opcode instruction.operandCount command.callback.shape ::
          outcome.notes.map .noted⟩ := by
  obtain ⟨same, fits⟩ := accepts_iff.mp accepted
  have found : registry.find? instruction.opcode = some command.binding.2 := by
    rw [find?_registry, same, Command.ofOpcode?_eq_some.mpr rfl, Option.map_some]
  exact Registry.execute_of_match found fits.symm world

theorem execute_of_foreign (foreign : ∀ command : Command, instruction.opcode ≠ command.opcode)
    (world : World) :
    registry.execute instruction world =
      ⟨.error (.unknownOpcode instruction.opcode), world, []⟩ := by
  apply Registry.execute_of_unbound
  rw [find?_registry, Option.map_eq_none_iff, Option.eq_none_iff_forall_ne_some]
  intro command found
  exact foreign command (Command.ofOpcode?_eq_some.mp found).symm

theorem execute_of_miscounted (same : instruction.opcode = command.opcode)
    (miscounted : instruction.operandCount ≠ command.argumentCount) (world : World) :
    registry.execute instruction world =
      ⟨.error (.argumentCount instruction.opcode command.argumentCount instruction.operandCount),
        world, []⟩ := by
  have found : registry.find? instruction.opcode = some command.binding.2 := by
    rw [find?_registry, same, Command.ofOpcode?_eq_some.mpr rfl, Option.map_some]
  exact Registry.execute_of_mismatch found (Ne.symm miscounted) world

/-- An instruction of no command has no effect. -/
theorem execute_of_refused (refused : ∀ command : Command, ¬ command.accepts instruction)
    (world : World) :
    (registry.execute instruction world).state = world ∧
      (registry.execute instruction world).events = [] := by
  by_cases known : ∃ command : Command, instruction.opcode = command.opcode
  · obtain ⟨command, same⟩ := known
    have miscounted : instruction.operandCount ≠ command.argumentCount := fun fits =>
      refused command (accepts_iff.mpr ⟨same, fits⟩)
    rw [execute_of_miscounted same miscounted]
    exact ⟨rfl, rfl⟩
  · rw [execute_of_foreign (not_exists.mp known)]
    exact ⟨rfl, rfl⟩

end Execute

/-- One more instruction takes the world of a history to the world of the longer history. -/
theorem state_execute_ofHistory (earlier : List Instruction) (instruction : Instruction) :
    (registry.execute instruction (ofHistory earlier)).state =
      ofHistory (earlier ++ [instruction]) := by
  by_cases taken : ∃ command : Command, command.accepts instruction
  · obtain ⟨command, accepted⟩ := taken
    rw [execute_of_accepts accepted]
    simp only [ofHistory, lastInteger_concat, remaining_concat, model?, accepts_eq accepted]
    -- Each command changes the fields that its instructions decide, and no others.
    cases command with
    | setTime => simp [Command.callback, setTime, Callback.call, Callback.change]
    | getTime => simp [Command.callback, getTime, Callback.call]
    | setWeather => simp [Command.callback, setWeather, Callback.call, Callback.change]
    | createObject =>
      cases named : instruction.integer? 0 <;>
        simp [Command.callback, createObject, Callback.call, Callback.change, named]
    | destroyObject =>
      cases named : instruction.integer? 0 with
      | none => simp [Command.callback, destroyObject, Callback.call, Callback.change, named]
      | some model =>
        have same : ∀ other ∈ remaining earlier,
            (other != model) = decide (some model ≠ some other) := by
          intro other _
          rw [Bool.eq_iff_iff, bne_iff_ne, decide_eq_true_iff, ne_eq, ne_eq, Option.some_inj,
            eq_comm]
        simp [Command.callback, destroyObject, Callback.call, Callback.change, named,
          List.filter_congr same]
    | objectExists => simp [Command.callback, objectExists, Callback.call, Callback.test]
    | isRaining => simp [Command.callback, isRaining, Callback.call, Callback.test]
  · have refused : ∀ command : Command, command.accepts instruction = false := by
      simpa using taken
    rw [(execute_of_refused (by simp [refused]) _).1]
    simp [ofHistory, lastInteger_concat, remaining_concat, model?, refused]

/-- A script leaves the world that its history describes. -/
theorem finalState_eq_ofHistory (script : List Instruction) :
    registry.finalState script {} = ofHistory script := by
  induction script using List.reverseRecOn with
  | nil => rfl
  | append_singleton earlier instruction ih =>
    rw [Registry.finalState_append, ih]
    exact state_execute_ofHistory earlier instruction

/-- How an instruction is to be answered after others, in terms of those others alone. -/
structure AnswersByHistory (earlier : List Instruction) (instruction : Instruction)
    (reply : Reply World) : Prop where
  state : reply.state = ofHistory (earlier ++ [instruction])
  unknown : (∀ command : Command, instruction.opcode ≠ command.opcode) →
    reply.answer = .error (.unknownOpcode instruction.opcode)
  miscounted : ∀ command : Command, instruction.opcode = command.opcode →
    instruction.operandCount ≠ command.argumentCount →
    reply.answer = .error
      (.argumentCount instruction.opcode command.argumentCount instruction.operandCount)
  refused : (∀ command : Command, ¬ command.accepts instruction) →
    reply.state = ofHistory earlier ∧ reply.events = []
  done : ∀ command : Command, command.accepts instruction → command ≠ .objectExists →
    command ≠ .isRaining → reply.answer = .ok .done
  time : Command.getTime.accepts instruction → ∃ note,
    reply.events =
      [.executed instruction.opcode instruction.operandCount .effect, .noted note] ∧
    note.message = "time of day" ∧
    note.fields = [("hour", toString (ofHistory earlier).hour),
      ("minute", toString (ofHistory earlier).minute)]
  found : Command.objectExists.accepts instruction → ∃ holds,
    reply.answer = .ok (.condition holds) ∧
    (holds = true ↔ ∃ model, instruction.integer? 0 = some model ∧
      ∃ before creation later, earlier = before ++ creation :: later ∧
        model? .createObject creation = some model ∧
        ∀ other ∈ later, model? .destroyObject other ≠ some model)
  raining : Command.isRaining.accepts instruction → ∃ holds,
    reply.answer = .ok (.condition holds) ∧
    (holds = true ↔ lastInteger .setWeather 0 earlier = 1 ∨ lastInteger .setWeather 0 earlier = 2)

theorem answersByHistory_execute (earlier : List Instruction) (instruction : Instruction) :
    AnswersByHistory earlier instruction (registry.execute instruction (ofHistory earlier)) where
  state := state_execute_ofHistory earlier instruction
  unknown foreign := by rw [execute_of_foreign foreign]
  miscounted command same miscounted := by rw [execute_of_miscounted same miscounted]
  refused refused := execute_of_refused refused (ofHistory earlier)
  done command accepted stored dry := by
    rw [execute_of_accepts accepted]
    cases command with
    | setTime | getTime | setWeather | createObject | destroyObject => rfl
    | objectExists => contradiction
    | isRaining => contradiction
  time accepted := by
    rw [execute_of_accepts accepted]
    exact ⟨_, rfl, rfl, rfl⟩
  found accepted := by
    rw [execute_of_accepts accepted]
    refine ⟨_, rfl, ?_⟩
    simp only [Option.any_eq_true, List.contains_iff_mem, ofHistory, mem_remaining]
  raining accepted := by
    rw [execute_of_accepts accepted]
    refine ⟨_, rfl, ?_⟩
    simp only [Bool.or_eq_true, beq_iff_eq, ofHistory]

/-- Any script leaves the world that its history describes, and each instruction is answered by the
history of those before it. -/
theorem run_follows_history (script : List Instruction) :
    build.run.value = .ok registry ∧
    (∀ n, let world := registry.finalState (script.take n) {}
      world = ofHistory (script.take n) ∧
      (0 ≤ world.hour ∧ world.hour < 24) ∧ 0 ≤ world.minute ∧ world.minute < 60) ∧
    (registry.run script {}).length = script.length ∧
    ∀ i (hi : i < script.length), ∃ reply, (registry.run script {})[i]? = some reply ∧
      AnswersByHistory (script.take i) script[i] reply := by
  refine ⟨build_eq_registry.1, fun n => ?_, Registry.length_run _ _ _, fun i hi => ?_⟩
  · intro world
    have same : world = ofHistory (script.take n) := finalState_eq_ofHistory _
    have hour := Int.emod_nonneg (lastInteger .setTime 0 (script.take n)).toInt
      (show (24 : Int) ≠ 0 by decide)
    have minute := Int.emod_nonneg (lastInteger .setTime 1 (script.take n)).toInt
      (show (60 : Int) ≠ 0 by decide)
    rw [same]
    exact ⟨rfl, ⟨hour, Int.emod_lt_of_pos _ (by decide)⟩, minute, Int.emod_lt_of_pos _ (by decide)⟩
  · refine ⟨_, ?_, answersByHistory_execute (script.take i) script[i]⟩
    rw [Registry.getElem?_run, List.getElem?_eq_getElem hi, Option.map_some,
      finalState_eq_ofHistory]

end World

end OpcodeBinding
