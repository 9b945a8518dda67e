import OpcodeBinding.Workbench.Serve

/-! A ledger of the tables on a workbench, kept from its journal. Whoever keeps it knows which handles
the requests named and what was noted, but sees no table. -/
namespace OpcodeBinding

variable {σ : Type}

structure Signature where
  opcode : Opcode
  argumentCount : Nat
  shape : Shape
  deriving DecidableEq, Repr

def Descriptor.signature (d : Descriptor) : Signature := ⟨d.opcode, d.argumentCount, d.shape⟩

def Module.signatures (m : Module σ) : List Signature := m.descriptors.map Descriptor.signature

structure Installation where
  owner : String
  opcodes : Nat
  provided : List Signature
  deriving DecidableEq, Repr

def Registry.installations (r : Registry σ) : List Installation :=
  r.modules.toList.map fun m => ⟨m.name, m.size, m.signatures⟩

/-- Bindings are noted as they are made, in no order of opcodes. -/
def Installation.sorted (installation : Installation) : Installation :=
  { installation with provided := Opcode.sortBy Signature.opcode installation.provided }

namespace Event

def signature? : Event → Option Signature
  | .bound _ opcode argumentCount shape => some ⟨opcode, argumentCount, shape⟩
  | _ => none

def installation? (provided : List Signature) : Event → Option Installation
  | .installed owner opcodes => some ⟨owner, opcodes, provided⟩
  | _ => none

def fault? : Event → Option BindFault
  | .boundTwice owner opcode => some (.boundTwice owner opcode)
  | .installedTwice owner => some (.installedTwice owner)
  | .providedTwice opcode owner incoming => some (.providedTwice opcode owner incoming)
  | _ => none

end Event

structure Ledger where
  modules : Handles (List Signature) := ∅
  registries : Handles (List Installation) := ∅
  publications : Handles (List Installation) := ∅

namespace Ledger

def record (l : Ledger) (request : Request σ) (turn : Turn σ) : Ledger :=
  match request, turn.response with
  | .newModule m _, .ok _ => { l with modules := l.modules.insert m [] }
  | .bind m _ _, _ | .bindRange m _ _ _ _, _ =>
    let bound := turn.events.filterMap Event.signature?
    { l with modules := l.modules.modify m (· ++ bound) }
  | .newRegistry r, .ok _ => { l with registries := l.registries.insert r [] }
  | .install r m, _ =>
    let installed := turn.events.filterMap (Event.installation? (l.modules.getD m []))
    { l with registries := l.registries.modify r (· ++ installed) }
  | .publish r p, .ok _ =>
    l.registries[r]?.elim l fun published =>
      { l with
        registries := l.registries.erase r
        publications := l.publications.insert p published }
  | .current p kept, .ok _ =>
    l.publications[p]?.elim l fun current =>
      { l with registries := l.registries.insert kept current }
  | .replace p r kept, .ok _ =>
    l.publications[p]?.elim l fun replaced =>
      l.registries[r]?.elim l fun published =>
        { l with
          registries := (l.registries.erase r).insert kept replaced
          publications := l.publications.insert p published }
  | _, _ => l

def replay (l : Ledger) (journal : List (Request σ × Turn σ)) : Ledger :=
  journal.foldl (fun l entry => l.record entry.1 entry.2) l

end Ledger

end OpcodeBinding
