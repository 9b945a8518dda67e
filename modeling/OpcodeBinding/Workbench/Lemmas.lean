import OpcodeBinding.Proofs.Scripts
import OpcodeBinding.Workbench.Ledger

/-! What each request leaves on a workbench. -/
namespace OpcodeBinding

variable {σ : Type}

def Workbench.openModule? (bench : Workbench σ) (m : String) : Option (Module σ) :=
  match bench.drafts[m]? with
  | some ⟨contents, false⟩ => some contents
  | _ => none

theorem Workbench.openModule?_eq_some {bench : Workbench σ} {m : String} {table : Module σ} :
    bench.openModule? m = some table ↔ bench.drafts[m]? = some ⟨table, false⟩ := by
  rw [openModule?]
  rcases bench.drafts[m]? with _ | ⟨contents, _ | _⟩ <;> simp

def Workbench.owned? (bench : Workbench σ) (r : String) : Option (Registry σ) :=
  match bench.holdings[r]? with
  | some (.owned registry) => some registry
  | _ => none

theorem Workbench.owned?_eq_some {bench : Workbench σ} {r : String} {registry : Registry σ} :
    bench.owned? r = some registry ↔ bench.holdings[r]? = some (.owned registry) := by
  rw [owned?]
  rcases bench.holdings[r]? with _ | registry | edition <;> simp

namespace Work

variable {α β : Type}

def on (work : Work σ α) (bench : Workbench σ) : Logged (Except WorkFault α × Workbench σ) :=
  work.run.run bench

section On

variable (bench : Workbench σ)

@[simp] theorem on_pure (value : α) :
    (pure value : Work σ α).on bench = ⟨(.ok value, bench), []⟩ := rfl

@[simp] theorem on_throw (fault : WorkFault) :
    (throw fault : Work σ α).on bench = ⟨(.error fault, bench), []⟩ := rfl

@[simp] theorem on_get : (get : Work σ (Workbench σ)).on bench = ⟨(.ok bench, bench), []⟩ := rfl

@[simp] theorem on_modify (change : Workbench σ → Workbench σ) :
    (modify change : Work σ PUnit).on bench = ⟨(.ok ⟨⟩, change bench), []⟩ := rfl

@[simp] theorem on_note (events : List Event) :
    (note events : Work σ Unit).on bench = ⟨(.ok (), bench), events⟩ := rfl

@[simp] theorem on_build (construction : Build α) :
    (build construction : Work σ α).on bench =
      ⟨(construction.run.value.mapError .table, bench), construction.run.events⟩ := rfl

@[simp] theorem on_bind (work : Work σ α) (next : α → Work σ β) :
    (work >>= next).on bench =
      match work.on bench with
      | ⟨(.ok value, left), events⟩ =>
        ⟨((next value).on left).value, events ++ ((next value).on left).events⟩
      | ⟨(.error fault, left), events⟩ => ⟨(.error fault, left), events⟩ := by
  rw [on, ExceptT.run_bind, StateT.run_bind]
  change bind (work.on bench) _ = _
  rcases work.on bench with ⟨⟨fault | value, left⟩, events⟩
  · exact congrArg (Logged.mk _) (List.append_nil events)
  · rfl

@[simp] theorem on_map (f : α → β) (work : Work σ α) :
    (f <$> work).on bench =
      ⟨((work.on bench).value.1.map f, (work.on bench).value.2), (work.on bench).events⟩ := by
  rw [map_eq_pure_bind, on_bind]
  rcases work.on bench with ⟨⟨fault | value, left⟩, events⟩ <;> simp [Except.map]

@[simp] theorem found_some (handle : String) (value : α) :
    (found handle (some value) : Work σ α) = pure value := rfl

@[simp] theorem found_none (handle : String) :
    (found handle none : Work σ α) = throw (.noHandle handle) := rfl

end On

section Tables

variable {bench : Workbench σ} {m r : String} {registry : Registry σ}

theorem on_openModule_of_closed (closed : bench.openModule? m = none) :
    ∃ fault, (openModule m).on bench = ⟨(.error fault, bench), []⟩ := by
  rw [Workbench.openModule?] at closed
  rcases held : bench.drafts[m]? with _ | ⟨table, _ | _⟩
  · exact ⟨.noHandle m, by simp [openModule, held]⟩
  · simp [held] at closed
  · exact ⟨.frozen m, by simp [openModule, held]⟩

theorem on_openModule_of_open {table : Module σ} (opened : bench.openModule? m = some table) :
    (openModule m).on bench = ⟨(.ok table, bench), []⟩ := by
  simp [openModule, Workbench.openModule?_eq_some.mp opened]

theorem on_ownedRegistry_of_closed (closed : bench.owned? r = none) :
    ∃ fault, (ownedRegistry r).on bench = ⟨(.error fault, bench), []⟩ := by
  rw [Workbench.owned?] at closed
  rcases held : bench.holdings[r]? with _ | registry | edition
  · exact ⟨.noHandle r, by simp [ownedRegistry, holdingOf, held]⟩
  · simp [held] at closed
  · exact ⟨.frozen r, by simp [ownedRegistry, holdingOf, held]⟩

theorem on_ownedRegistry_of_owned (owned : bench.owned? r = some registry) :
    (ownedRegistry r).on bench = ⟨(.ok registry, bench), []⟩ := by
  simp [ownedRegistry, holdingOf, Workbench.owned?_eq_some.mp owned]

theorem on_edition_of_closed (closed : bench.owned? r = none) :
    ∃ fault, (edition r).on bench = ⟨(.error fault, bench), []⟩ := by
  obtain ⟨fault, refused⟩ := on_ownedRegistry_of_closed closed
  exact ⟨fault, by simp [edition, refused]⟩

theorem on_edition_of_owned (owned : bench.owned? r = some registry) :
    (edition r).on bench =
      ⟨(.ok ⟨bench.editions, registry⟩,
        { bench with holdings := bench.holdings.erase r, editions := bench.editions + 1 }), []⟩ := by
  simp [edition, on_ownedRegistry_of_owned owned, Except.map]

end Tables

end Work

namespace Workbench

variable [Inhabited σ]

theorem serve_eq (bench : Workbench σ) (request : Request σ) :
    bench.serve request =
      (⟨(request.serve.on bench).value.1, (request.serve.on bench).events⟩,
        (request.serve.on bench).value.2) := rfl

def after (bench : Workbench σ) (requests : List (Request σ)) : Workbench σ :=
  requests.foldl (fun bench request => (bench.serve request).2) bench

section Run

variable (bench : Workbench σ)

theorem length_serveAll (requests : List (Request σ)) :
    (bench.serveAll requests).length = requests.length := by
  induction requests generalizing bench with
  | nil => rfl
  | cons request requests ih => exact congrArg (· + 1) (ih _)

/-- Each request is served on the bench that all those before it leave. -/
theorem getElem?_serveAll (requests : List (Request σ)) (i : Nat) :
    (bench.serveAll requests)[i]? =
      requests[i]?.map fun request => ((bench.after (requests.take i)).serve request).1 := by
  induction requests generalizing bench i with
  | nil => rfl
  | cons request requests ih =>
    cases i with
    | zero => rfl
    | succ i => simpa [serveAll, after] using ih (bench.serve request).2 i

end Run

/-- A request that is refused before it gets to a table leaves no trace. -/
def Refuses (bench : Workbench σ) (request : Request σ) : Prop :=
  ∃ fault, bench.serve request = (⟨.error fault, []⟩, bench)

variable {bench : Workbench σ}

-- Each lemma below opens the work of one kind of request.
attribute [local simp] Request.serve

section Modules

variable {m : String} {table : Module σ}

theorem serve_newModule (title : String) :
    bench.serve (.newModule m title) =
      (⟨.ok .done, []⟩,
        { bench with drafts := bench.drafts.insert m { contents := Module.empty title } }) := rfl

theorem serve_bind_of_closed (closed : bench.openModule? m = none)
    (opcode : Opcode) (binding : Binding σ) : bench.Refuses (.bind m opcode binding) := by
  obtain ⟨fault, refused⟩ := Work.on_openModule_of_closed closed
  exact ⟨fault, by simp [serve_eq, refused]⟩

theorem serve_bind_of_ok {opcode : Opcode} {binding : Binding σ} {k : Module σ}
    (opened : bench.openModule? m = some table)
    (bound : (table.bind opcode binding).run.value = .ok k) :
    bench.serve (.bind m opcode binding) =
      (⟨.ok .done, [.bound table.name opcode binding.argumentCount binding.shape]⟩,
        { bench with drafts := bench.drafts.insert m { contents := k } }) := by
  obtain ⟨free, rfl⟩ := Module.bind_eq_ok.mp bound
  simp [serve_eq, Work.on_openModule_of_open opened, Work.putDraft, Module.bind,
    Module.tryBind_of_unbound free, Build.ofAttempt, ExceptT.run, ExceptT.mk, Except.map,
    Except.mapError]

theorem serve_bind_of_bound {opcode : Opcode} (opened : bench.openModule? m = some table)
    (taken : (table.find? opcode).isSome) (binding : Binding σ) :
    bench.serve (.bind m opcode binding) =
      (⟨.error (.table (.boundTwice table.name opcode)), [.boundTwice table.name opcode]⟩,
        bench) := by
  simp [serve_eq, Work.on_openModule_of_open opened, Module.bind,
    Module.tryBind_of_bound taken, Build.ofAttempt, ExceptT.run, ExceptT.mk, Except.map,
    Except.mapError]

theorem serve_bindRange_of_closed (closed : bench.openModule? m = none)
    (first last step : Nat) (binding : Binding σ) :
    bench.Refuses (.bindRange m first last step binding) := by
  obtain ⟨fault, refused⟩ := Work.on_openModule_of_closed closed
  exact ⟨fault, by simp [serve_eq, refused]⟩

theorem serve_bindRange_of_open (opened : bench.openModule? m = some table)
    (first last step : Nat) (binding : Binding σ) :
    bench.serve (.bindRange m first last step binding) =
      let bindings := (Opcode.range first last step).map fun opcode => (opcode, binding)
      let ⟨(contents, faults), events⟩ := table.bindEach bindings
      (⟨.ok (.bound (bindings.length - faults.length) faults), events⟩,
        { bench with drafts := bench.drafts.insert m { contents } }) := by
  simp [serve_eq, Work.on_openModule_of_open opened, Work.putDraft, Except.map]

theorem serve_reserve_of_closed (closed : bench.openModule? m = none) :
    bench.Refuses (.reserve m) := by
  obtain ⟨fault, refused⟩ := Work.on_openModule_of_closed closed
  exact ⟨fault, by simp [serve_eq, refused]⟩

theorem serve_reserve_of_open (opened : bench.openModule? m = some table) :
    bench.serve (.reserve m) =
      (⟨.ok .done, []⟩,
        { bench with drafts := bench.drafts.insert m { contents := table.reserve 0 } }) := by
  simp [serve_eq, Work.on_openModule_of_open opened, Work.putDraft, Except.map]

theorem serve_call_of_missing (missing : bench.drafts[m]? = none) (instruction : Instruction) :
    bench.Refuses (.call m instruction) :=
  ⟨.noHandle m, by simp [serve_eq, Work.moduleOf, missing]⟩

theorem serve_call_of_unbound {instruction : Instruction} {draft : Draft σ}
    (held : bench.drafts[m]? = some draft)
    (unbound : draft.contents.find? instruction.opcode = none) :
    bench.serve (.call m instruction) = (⟨.ok (.called? none), []⟩, bench) := by
  simp [serve_eq, Work.moduleOf, held, unbound]

theorem serve_call_of_bound {instruction : Instruction} {draft : Draft σ} {binding : Binding σ}
    (held : bench.drafts[m]? = some draft)
    (bound : draft.contents.find? instruction.opcode = some binding) :
    bench.serve (.call m instruction) =
      let outcome := binding.call instruction bench.state
      (⟨.ok (.called? (some (outcome.value, outcome.state))), outcome.notes.map .noted⟩,
        { bench with state := outcome.state }) := by
  simp [serve_eq, Work.moduleOf, held, bound, Except.map]

end Modules

section Registries

variable {r m : String} {registry : Registry σ} {draft : Draft σ}

theorem serve_newRegistry :
    bench.serve (.newRegistry r) =
      (⟨.ok .done, []⟩,
        { bench with holdings := bench.holdings.insert r (.owned .empty) }) := rfl

theorem serve_install_of_missing (missing : bench.drafts[m]? = none) :
    bench.Refuses (.install r m) :=
  ⟨.noHandle m, by simp [serve_eq, Work.moduleOf, missing]⟩

theorem serve_install_of_closed (held : bench.drafts[m]? = some draft)
    (closed : bench.owned? r = none) :
    bench.Refuses (.install r m) := by
  obtain ⟨fault, refused⟩ := Work.on_ownedRegistry_of_closed closed
  exact ⟨fault, by simp [serve_eq, Work.moduleOf, held, refused]⟩

theorem serve_install_of_ok {s : Registry σ} {events : List Event}
    (held : bench.drafts[m]? = some draft) (owned : bench.owned? r = some registry)
    (installed : (registry.install draft.contents).run = ⟨.ok s, events⟩) :
    bench.serve (.install r m) =
      let contents := draft.contents.listed
      (⟨.ok .done, events⟩,
        { bench with
          holdings := bench.holdings.insert r (.owned s)
          drafts := bench.drafts.insert m { contents, installed := true } }) := by
  simp [serve_eq, Work.moduleOf, held, Work.on_ownedRegistry_of_owned owned, installed,
    Except.map, Except.mapError, Work.putDraft, Work.putHolding]

theorem serve_install_of_error {fault : BindFault} {events : List Event}
    (held : bench.drafts[m]? = some draft) (owned : bench.owned? r = some registry)
    (refused : (registry.install draft.contents).run = ⟨.error fault, events⟩) :
    bench.serve (.install r m) = (⟨.error (.table fault), events⟩, bench) := by
  simp [serve_eq, Work.moduleOf, held, Work.on_ownedRegistry_of_owned owned, refused,
    Except.mapError]

theorem serve_execute_of_missing (missing : bench.holdings[r]? = none) (instruction : Instruction) :
    bench.Refuses (.execute r instruction) :=
  ⟨.noHandle r, by
    simp [serve_eq, Work.registryOf, Work.holdingOf, missing]⟩

theorem serve_execute {holding : Holding σ} (held : bench.holdings[r]? = some holding)
    (instruction : Instruction) :
    bench.serve (.execute r instruction) =
      let reply := holding.registry.execute instruction bench.state
      let response :=
        match reply.answer with
        | .ok answer => .ok (.called? (some (answer, reply.state)))
        | .error fault => .error (.execution fault)
      (⟨response, reply.events⟩, { bench with state := reply.state }) := by
  rcases answer : (holding.registry.execute instruction bench.state).answer with fault | value <;>
    simp [serve_eq, Work.registryOf, Work.holdingOf, held, answer, Except.map]

end Registries

section Publications

variable {r p kept : String} {registry : Registry σ} {publication : Publication σ}

theorem serve_publish_of_closed
    (closed : bench.owned? r = none) :
    bench.Refuses (.publish r p) := by
  obtain ⟨fault, refused⟩ := Work.on_edition_of_closed closed
  exact ⟨fault, by simp [serve_eq, refused]⟩

theorem serve_publish_of_owned (owned : bench.owned? r = some registry) :
    bench.serve (.publish r p) =
      (⟨.ok .done, []⟩,
        { bench with
          holdings := bench.holdings.erase r
          publications := bench.publications.insert p { current := ⟨bench.editions, registry⟩ }
          editions := bench.editions + 1 }) := by
  simp [serve_eq, Work.on_edition_of_owned owned, Work.putPublication, Except.map]

theorem serve_current_of_missing (missing : bench.publications[p]? = none) :
    bench.Refuses (.current p kept) :=
  ⟨.noHandle p, by simp [serve_eq, Work.publicationOf, missing]⟩

theorem serve_current (held : bench.publications[p]? = some publication) :
    bench.serve (.current p kept) =
      (⟨.ok .done, []⟩,
        { bench with
          holdings := bench.holdings.insert kept (.published publication.current) }) := by
  simp [serve_eq, Work.publicationOf, held, Work.putHolding, Except.map]

theorem serve_replace_of_missing (missing : bench.publications[p]? = none) :
    bench.Refuses (.replace p r kept) :=
  ⟨.noHandle p, by simp [serve_eq, Work.publicationOf, missing]⟩

theorem serve_replace_of_closed (held : bench.publications[p]? = some publication)
    (closed : bench.owned? r = none) :
    bench.Refuses (.replace p r kept) := by
  obtain ⟨fault, refused⟩ := Work.on_edition_of_closed closed
  exact ⟨fault, by simp [serve_eq, Work.publicationOf, held, refused]⟩

theorem serve_replace_of_owned (held : bench.publications[p]? = some publication)
    (owned : bench.owned? r = some registry) :
    bench.serve (.replace p r kept) =
      (⟨.ok .done, [.replacing registry.modules.size registry.opcodeCount]⟩,
        { bench with
          holdings := (bench.holdings.erase r).insert kept (.published publication.current)
          publications := bench.publications.insert p { current := ⟨bench.editions, registry⟩ }
          editions := bench.editions + 1 }) := by
  simp [serve_eq, Work.publicationOf, held, Work.on_edition_of_owned owned,
    Publication.replace, Work.putPublication, Work.putHolding, Except.map]

end Publications

end Workbench

end OpcodeBinding
