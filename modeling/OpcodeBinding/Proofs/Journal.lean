import Std.Data.String.ToNat
import OpcodeBinding.Proofs.Spelling
import OpcodeBinding.Workbench.Reading

/-! What the journal says about each request: one entry for each change of a table that was made or
refused, one for each instruction that is executed, and none for anything else. -/
namespace OpcodeBinding

namespace Event

/-- Reads an event back from the message and the details of its note. -/
def ofNote? (note : Note) : Option Event :=
  match note.message, note.fields.map Prod.snd with
  | "bound opcode", [owner, opcode, argumentCount, shape] => do
    return .bound owner (← (Opcode.read opcode).toOption) (← argumentCount.toNat?)
      (← (Shape.read shape).toOption)
  | "opcode bound twice", [owner, opcode] =>
    (Opcode.read opcode).toOption.map (.boundTwice owner)
  | "installed module", [owner, opcodes] => opcodes.toNat?.map (.installed owner)
  | "module installed twice", [owner] => some (.installedTwice owner)
  | "opcode provided by two modules", [opcode, owner, incoming] =>
    (Opcode.read opcode).toOption.map (.providedTwice · owner incoming)
  | "dispatch", [opcode, operands, shape] => do
    return .executed (← (Opcode.read opcode).toOption) (← operands.toNat?)
      (← (Shape.read shape).toOption)
  | "replacing module set", [modules, opcodes] => do
    return .replacing (← modules.toNat?) (← opcodes.toNat?)
  | _, _ => none

/-- The note of an event has all that there is to tell of it. -/
theorem ofNote?_note {event : Event} (own : ∀ note, event ≠ .noted note) :
    ofNote? event.note = some event := by
  cases event with
  | noted note => exact absurd rfl (own note)
  | _ =>
    simp [ofNote?, note, moduleNote, registryNote, Opcode.read_display, Shape.read_name,
      Except.toOption]

def entry (event : Event) : Level × String × Event :=
  (event.note.level, event.note.message, event)

end Event

variable {σ : Type}

namespace Turn

def journal (turn : Turn σ) : List (Level × String × Event) := turn.events.map Event.entry

def Refused (turn : Turn σ) : Prop := ∃ fault, turn = ⟨.error fault, []⟩

end Turn

def Outcome.journal {α : Type} (outcome : Outcome σ α) : List (Level × String × Event) :=
  outcome.notes.map fun note => (note.level, note.message, .noted note)

theorem Outcome.map_entry_notes {α : Type} (outcome : Outcome σ α) :
    (outcome.notes.map Event.noted).map Event.entry = outcome.journal :=
  List.map_map

namespace Workbench

/-- What the journal says about one turn of a request, from the tables before it. -/
def Journaled (bench : Workbench σ) (turn : Turn σ) : Request σ → Prop
  | .bind m opcode binding =>
    match bench.openModule? m with
    | none => turn.Refused
    | some table =>
      if table.contains opcode then
        turn.response = .error (.table (.boundTwice table.name opcode)) ∧
          turn.journal = [(.warn, "opcode bound twice", .boundTwice table.name opcode)]
      else
        turn.response = .ok .done ∧
          turn.journal = [(.debug, "bound opcode",
            .bound table.name opcode binding.argumentCount binding.shape)]
  | .bindRange m first last step binding =>
    match bench.openModule? m with
    | none => turn.Refused
    | some table =>
      let opcodes := Opcode.range first last step
      turn.response = .ok (.bound (turn.events.filterMap Event.signature?).length
          (turn.events.filterMap Event.fault?)) ∧
        -- The opcodes of a range may repeat, as they have 16 bits.
        ∀ i : Nat, turn.journal[i]? = opcodes[i]?.map fun opcode =>
          if table.contains opcode ∨ opcode ∈ opcodes.take i then
            (.warn, "opcode bound twice", .boundTwice table.name opcode)
          else
            (.debug, "bound opcode",
              .bound table.name opcode binding.argumentCount binding.shape)
  | .install r m =>
    match bench.drafts[m]?, bench.owned? r with
    | some ⟨table, _⟩, some _ =>
      (turn.response = .ok .done ∧
        turn.journal = [(.debug, "installed module", .installed table.name table.size)]) ∨
      (turn.response = .error (.table (.installedTwice table.name)) ∧
        turn.journal = [(.warn, "module installed twice", .installedTwice table.name)]) ∨
      ∃ opcode owner,
        turn.response = .error (.table (.providedTwice opcode owner table.name)) ∧
          turn.journal = [(.warn, "opcode provided by two modules",
            .providedTwice opcode owner table.name)]
    | _, _ => turn.Refused
  | .execute r instruction =>
    match bench.holdings[r]?.bind fun holding => holding.registry.find? instruction.opcode with
    | none => turn.Refused
    | some binding =>
      if binding.accepts instruction.operandCount then
        let outcome := binding.call instruction bench.state
        turn.response = .ok (.called? (some (outcome.value, outcome.state))) ∧
          turn.journal = (.trace, "dispatch",
            .executed instruction.opcode instruction.operandCount binding.shape) :: outcome.journal
      else turn.Refused
  | .call m instruction =>
    match bench.drafts[m]?.bind fun draft => draft.contents.find? instruction.opcode with
    | none => turn.journal = []
    | some binding => turn.journal = (binding.call instruction bench.state).journal
  | .replace p r _ =>
    match bench.publications[p]?, bench.owned? r with
    | some _, some registry =>
      turn.response = .ok .done ∧
        turn.journal = [(.debug, "replacing module set",
          .replacing registry.modules.size registry.opcodeCount)]
    | _, _ => turn.Refused
  | _ => turn.journal = []

end Workbench

section Each

variable (m : Module σ) (codes : List Opcode) (binding : Binding σ)

/-- Each binding of many leaves one entry, whether it is made or refused. -/
theorem Module.journal_bindEach (i : Nat) :
    ((m.bindEach (codes.map fun opcode => (opcode, binding))).events.map Event.entry)[i]? =
      codes[i]?.map fun opcode =>
        if m.contains opcode ∨ opcode ∈ codes.take i then
          (.warn, "opcode bound twice", .boundTwice m.name opcode)
        else
          (.debug, "bound opcode",
            .bound m.name opcode binding.argumentCount binding.shape) := by
  induction codes generalizing m i with
  | nil => rfl
  | cons opcode codes ih =>
    rw [List.map_cons]
    cases found : m.find? opcode with
    | none =>
      obtain ⟨k, bound⟩ := exists_bind found binding
      -- What is bound to the one is what was bound before, and the opcode that was just bound.
      have taken : ∀ code, k.contains code = true ↔ m.contains code = true ∨ code = opcode := by
        intro code
        rw [contains_eq, contains_eq, find?_of_bind bound]
        by_cases same : code = opcode <;> simp [same]
      rw [bindEach_cons_of_ok bound]
      cases i with
      | zero =>
        have free : ¬(m.contains opcode = true ∨ opcode ∈ (opcode :: codes).take 0) := by
          simp [contains_eq, found]
        exact congrArg some (if_neg free).symm
      | succ i =>
        refine (ih k i).trans ?_
        simp only [taken, name_of_bind bound, List.getElem?_cons_succ, List.take_succ_cons,
          List.mem_cons, or_assoc]
    | some other =>
      have bound : m.contains opcode = true := by rw [contains_eq, found, Option.isSome_some]
      rw [bindEach_cons_of_bound (Option.isSome_of_eq_some found)]
      cases i with
      | zero => exact congrArg some (if_pos (.inl bound)).symm
      | succ i =>
        refine (ih m i).trans ?_
        have taken : ∀ code, m.contains code = true ∨ code = opcode ↔ m.contains code = true := by
          intro code
          exact or_iff_left_of_imp fun same => same ▸ bound
        simp only [List.getElem?_cons_succ, List.take_succ_cons, List.mem_cons, ← or_assoc, taken]

/-- Each opcode is counted once, as a binding made or as a refusal. -/
theorem Module.faults_bindEach :
    let made := m.bindEach (codes.map fun opcode => (opcode, binding))
    made.events.filterMap Event.fault? = made.value.2 ∧
      (made.events.filterMap Event.signature?).length + made.value.2.length = codes.length := by
  induction codes generalizing m with
  | nil => exact ⟨rfl, rfl⟩
  | cons opcode codes ih =>
    rw [List.map_cons, List.length_cons]
    cases found : m.find? opcode with
    | none =>
      obtain ⟨k, bound⟩ := exists_bind found binding
      obtain ⟨faults, count⟩ := ih k
      rw [bindEach_cons_of_ok bound]
      exact ⟨faults, (Nat.succ_add _ _).trans (congrArg Nat.succ count)⟩
    | some other =>
      obtain ⟨faults, count⟩ := ih m
      rw [bindEach_cons_of_bound (Option.isSome_of_eq_some found)]
      exact ⟨congrArg (List.cons (BindFault.boundTwice m.name opcode)) faults,
        congrArg Nat.succ count⟩

end Each

namespace Workbench

variable [Inhabited σ] {bench : Workbench σ}

-- Each lemma below takes the case of one kind of request, so its equations are made here.
attribute [local simp] Journaled

theorem Refuses.refused {request : Request σ} (h : bench.Refuses request) :
    (bench.serve request).1.Refused := by
  obtain ⟨fault, served⟩ := h
  exact ⟨fault, congrArg Prod.fst served⟩

theorem Refuses.journal {request : Request σ} (h : bench.Refuses request) :
    (bench.serve request).1.journal = [] := by
  obtain ⟨fault, served⟩ := h
  rw [served]
  rfl

theorem journal_of_reading {request : Request σ} (reading : request.reads) :
    (bench.serve request).1.journal = [] :=
  congrArg (List.map _) (Request.quiet_serve reading bench).1

theorem journaled_bind (m : String) (opcode : Opcode) (binding : Binding σ) :
    bench.Journaled (bench.serve (.bind m opcode binding)).1 (.bind m opcode binding) := by
  rw [Journaled]
  split
  · next closed => exact (serve_bind_of_closed closed opcode binding).refused
  · next table opened =>
    split
    · next taken =>
      rw [serve_bind_of_bound opened (table.contains_eq opcode ▸ taken)]
      exact ⟨rfl, rfl⟩
    · next free =>
      rw [table.contains_eq, Option.not_isSome_iff_eq_none] at free
      obtain ⟨k, bound⟩ := Module.exists_bind free binding
      rw [serve_bind_of_ok opened bound]
      exact ⟨rfl, rfl⟩

theorem journaled_bindRange (m : String) (first last step : Nat) (binding : Binding σ) :
    bench.Journaled (bench.serve (.bindRange m first last step binding)).1
      (.bindRange m first last step binding) := by
  rw [Journaled]
  split
  · next closed => exact (serve_bindRange_of_closed closed first last step binding).refused
  · next table opened =>
    obtain ⟨faults, count⟩ := table.faults_bindEach (Opcode.range first last step) binding
    rw [serve_bindRange_of_open opened]
    refine ⟨?_, table.journal_bindEach (Opcode.range first last step) binding⟩
    simp only [faults, List.length_map, ← count, Nat.add_sub_cancel]

theorem journaled_install (r m : String) :
    bench.Journaled (bench.serve (.install r m)).1 (.install r m) := by
  rw [Journaled]
  split
  · next table frozen registry held owned =>
    rcases registry.install_cases table with ⟨s, done⟩ | done | ⟨opcode, owner, done⟩
    · rw [serve_install_of_ok held owned done]
      exact .inl ⟨rfl, rfl⟩
    · rw [serve_install_of_error held owned done]
      exact .inr (.inl ⟨rfl, rfl⟩)
    · rw [serve_install_of_error held owned done]
      exact .inr (.inr ⟨opcode, owner, rfl, rfl⟩)
  · next apart =>
    cases held : bench.drafts[m]? with
    | none => exact (serve_install_of_missing held).refused
    | some draft =>
      cases owned : bench.owned? r with
      | none => exact (serve_install_of_closed held owned).refused
      | some registry => exact absurd owned (apart _ _ _ held)

theorem journaled_execute (r : String) (instruction : Instruction) :
    bench.Journaled (bench.serve (.execute r instruction)).1 (.execute r instruction) := by
  rw [Journaled]
  cases held : bench.holdings[r]? with
  | none => exact (serve_execute_of_missing held instruction).refused
  | some holding =>
    rw [serve_execute held, Option.bind_some]
    split
    · next unbound =>
      rw [Registry.execute_of_unbound unbound]
      exact ⟨_, rfl⟩
    · next binding bound =>
      split
      · next fits =>
        have fits : binding.argumentCount = instruction.operandCount := (beq_iff_eq.mp fits).symm
        rw [Registry.execute_of_match bound fits]
        refine ⟨rfl, ?_⟩
        exact congrArg (_ :: ·) (Outcome.map_entry_notes _)
      · next mismatch =>
        have mismatch : binding.argumentCount ≠ instruction.operandCount := fun same =>
          mismatch (beq_iff_eq.mpr same.symm)
        rw [Registry.execute_of_mismatch bound mismatch]
        exact ⟨_, rfl⟩

theorem journaled_call (m : String) (instruction : Instruction) :
    bench.Journaled (bench.serve (.call m instruction)).1 (.call m instruction) := by
  rw [Journaled]
  cases held : bench.drafts[m]? with
  | none => exact (serve_call_of_missing held instruction).journal
  | some draft =>
    rw [Option.bind_some]
    split
    · next unbound =>
      rw [serve_call_of_unbound held unbound]
      rfl
    · next binding bound =>
      rw [serve_call_of_bound held bound]
      exact Outcome.map_entry_notes _

theorem journaled_replace (p r kept : String) :
    bench.Journaled (bench.serve (.replace p r kept)).1 (.replace p r kept) := by
  rw [Journaled]
  split
  · next publication registry held owned =>
    rw [serve_replace_of_owned held owned]
    exact ⟨rfl, rfl⟩
  · next apart =>
    cases held : bench.publications[p]? with
    | none => exact (serve_replace_of_missing held).refused
    | some publication =>
      cases owned : bench.owned? r with
      | none => exact (serve_replace_of_closed held owned).refused
      | some registry => exact absurd owned (apart _ _ held)

/-- Every request is journaled as it is answered. -/
theorem journaled (bench : Workbench σ) (request : Request σ) :
    bench.Journaled (bench.serve request).1 request := by
  cases request with
  | bind m opcode binding => exact journaled_bind m opcode binding
  | bindRange m first last step binding => exact journaled_bindRange m first last step binding
  | install r m => exact journaled_install r m
  | execute r instruction => exact journaled_execute r instruction
  | call m instruction => exact journaled_call m instruction
  | replace p r kept => exact journaled_replace p r kept
  | newModule m title => rfl
  | newRegistry r => rfl
  | reset => rfl
  | reserve m =>
    cases opened : bench.openModule? m with
    | none => exact (serve_reserve_of_closed opened).journal
    | some table => rw [serve_reserve_of_open opened]; rfl
  | publish r p =>
    cases owned : bench.owned? r with
    | none => exact (serve_publish_of_closed owned).journal
    | some registry => rw [serve_publish_of_owned owned]; rfl
  | current p kept =>
    cases held : bench.publications[p]? with
    | none => exact (serve_current_of_missing held).journal
    | some publication => rw [serve_current held]; rfl
  | _ => exact journal_of_reading rfl

end Workbench

end OpcodeBinding
