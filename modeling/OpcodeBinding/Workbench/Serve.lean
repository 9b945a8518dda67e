import OpcodeBinding.Listing
import OpcodeBinding.Workbench

/-! How the workbench serves requests. -/
namespace OpcodeBinding

/-- A refused request keeps what was done and noted before the refusal. -/
abbrev Work (σ : Type) := ExceptT WorkFault (StateT (Workbench σ) Logged)

namespace Work

variable {σ α : Type}

def found (handle : String) : Option α → Work σ α
  | some value => pure value
  | none => throw (.noHandle handle)

def build (construction : Build α) : Work σ α := fun bench =>
  let ⟨result, events⟩ := construction.run
  ⟨(result.mapError .table, bench), events⟩

def note (events : List Event) : Work σ Unit := fun bench => ⟨(.ok (), bench), events⟩

def moduleOf (m : String) : Work σ (Module σ) := do
  return (← found m (← get).drafts[m]?).contents

def listedModule (m : String) : Work σ (Module σ) := do
  let draft ← found m (← get).drafts[m]?
  let contents := draft.contents.listed
  modify fun bench => { bench with drafts := bench.drafts.insert m { draft with contents } }
  return contents

def openModule (m : String) : Work σ (Module σ) := do
  let draft ← found m (← get).drafts[m]?
  if draft.installed then throw (.frozen m) else return draft.contents

def holdingOf (r : String) : Work σ (Holding σ) := do found r (← get).holdings[r]?

def registryOf (r : String) : Work σ (Registry σ) := return (← holdingOf r).registry

def ownedRegistry (r : String) : Work σ (Registry σ) := do
  match ← holdingOf r with
  | .owned registry => return registry
  | .published _ => throw (.frozen r)

def publicationOf (p : String) : Work σ (Publication σ) := do found p (← get).publications[p]?

def putDraft (m : String) (draft : Draft σ) : Work σ Unit :=
  modify fun bench => { bench with drafts := bench.drafts.insert m draft }

def putHolding (r : String) (holding : Holding σ) : Work σ Unit :=
  modify fun bench => { bench with holdings := bench.holdings.insert r holding }

def putPublication (p : String) (publication : Publication σ) : Work σ Unit :=
  modify fun bench => { bench with publications := bench.publications.insert p publication }

def edition (r : String) : Work σ (Edition σ) := do
  let registry ← ownedRegistry r
  let number := (← get).editions
  modify fun bench => { bench with holdings := bench.holdings.erase r, editions := number + 1 }
  return ⟨number, registry⟩

end Work

namespace Request

open Work

variable {σ : Type}

/-- The requests on modules under construction and on publications change the workbench; all others
but calls and executions only read it. -/
def serve [Inhabited σ] : Request σ → Work σ (Response σ)
  | .newModule m title => do
    putDraft m { contents := Module.empty title }
    return .done
  | .bind m opcode binding => do
    putDraft m { contents := ← build ((← openModule m).bind opcode binding) }
    return .done
  | .bindRange m first last step binding => do
    let bindings := (Opcode.range first last step).map fun opcode => (opcode, binding)
    let ⟨(contents, faults), events⟩ := (← openModule m).bindEach bindings
    note events
    putDraft m { contents }
    return .bound (bindings.length - faults.length) faults
  | .reserve m => do
    putDraft m { contents := (← openModule m).reserve 0 }
    return .done
  | .name m => return .text (← moduleOf m).name
  | .find m opcode => return .binding? ((← moduleOf m).find? opcode)
  | .contains m opcode => return .truth ((← moduleOf m).contains opcode)
  | .size m => return .size (← moduleOf m).size
  | .opcodes m skip take? => do
    let rest := (← listedModule m).opcodes.drop skip
    return .opcodes (take?.elim rest rest.take)
  | .entries m => return .entries (← listedModule m).entries
  | .descriptors m => return .descriptors (← listedModule m).descriptors
  | .table m => return .text (← listedModule m).referenceTable
  | .display m => return .text (← listedModule m).display
  | .inspect m opcode => do
    let binding? := (← moduleOf m).find? opcode
    return .inspected? (binding?.map fun binding => (binding.inspect, binding.callback.inspect))
  | .accepts m opcode operandCount =>
    return .truth? (((← moduleOf m).find? opcode).map fun binding => binding.accepts operandCount)
  | .call m instruction => do
    match (← moduleOf m).find? instruction.opcode with
    | none => return .called? none
    | some binding =>
      let outcome := binding.call instruction (← get).state
      note (outcome.notes.map .noted)
      modify fun bench => { bench with state := outcome.state }
      return .called? (some (outcome.value, outcome.state))
  | .newRegistry r => do
    putHolding r (.owned .empty)
    return .done
  | .install r m => do
    let contents ← moduleOf m
    let registry ← ownedRegistry r
    putHolding r (.owned (← build (registry.install contents)))
    putDraft m { contents := contents.listed, installed := true }
    return .done
  | .resolve r opcode => return .binding? ((← registryOf r).find? opcode)
  | .moduleFor r opcode => return .text? (((← registryOf r).moduleFor? opcode).map Module.name)
  | .summary r => do
    let registry ← registryOf r
    let modules := registry.modules.toList.map fun m => (m.name, m.size)
    return .summary modules registry.opcodeCount
  | .execute r instruction => do
    let reply := (← registryOf r).execute instruction (← get).state
    note reply.events
    modify fun bench => { bench with state := reply.state }
    match reply.answer with
    | .ok answer => return .called? (some (answer, reply.state))
    | .error fault => throw (.execution fault)
  | .publish r p => do
    putPublication p { current := ← edition r }
    return .done
  | .current p kept => do
    putHolding kept (.published (← publicationOf p).current)
    return .done
  | .replace p r kept => do
    let publication ← publicationOf p
    let ⟨(replaced, publication), events⟩ := publication.replace (← edition r)
    note events
    putPublication p publication
    putHolding kept (.published replaced)
    return .done
  | .same a b => do
    match ← holdingOf a, ← holdingOf b with
    | .published first, .published second => return .truth (first.number == second.number)
    | _, _ => return .truth false
  | .state => return .state (← get).state
  | .reset => do
    modify fun bench => { bench with state := default }
    return .done

end Request

structure Turn (σ : Type) where
  response : Except WorkFault (Response σ)
  events : List Event

namespace Workbench

variable {σ : Type}

def serve [Inhabited σ] (bench : Workbench σ) (request : Request σ) : Turn σ × Workbench σ :=
  let ⟨(response, bench), events⟩ := request.serve.run.run bench
  (⟨response, events⟩, bench)

/-- Serves requests in order. A refused one does not stop the others. -/
def serveAll [Inhabited σ] (bench : Workbench σ) : List (Request σ) → List (Turn σ)
  | [] => []
  | request :: requests =>
    let (turn, bench) := bench.serve request
    turn :: bench.serveAll requests

end Workbench

end OpcodeBinding
