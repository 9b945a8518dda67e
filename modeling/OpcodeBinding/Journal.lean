import OpcodeBinding.Callback

/-! What happens to tables and instructions, as recorded in the journal, and the construction of tables. A
step of it either succeeds or is refused, and leaves its events either way. -/
namespace OpcodeBinding

inductive Event where
  | bound (owner : String) (opcode : Opcode) (argumentCount : Nat) (shape : Shape)
  | boundTwice (owner : String) (opcode : Opcode)
  | installed (owner : String) (opcodes : Nat)
  | installedTwice (owner : String)
  | providedTwice (opcode : Opcode) (owner incoming : String)
  | executed (opcode : Opcode) (operands : Nat) (shape : Shape)
  | replacing (modules opcodes : Nat)
  /-- A note of a native function's own. -/
  | noted (note : Note)
  deriving DecidableEq, Repr

namespace Event

def moduleNote (level : Level) : String → List (String × String) → Note :=
  Note.mk level "script_dispatch::module"

def registryNote (level : Level) : String → List (String × String) → Note :=
  Note.mk level "script_dispatch::moduleset"

def note : Event → Note
  | .bound owner opcode argumentCount shape =>
    moduleNote .debug "bound opcode"
      [("module", owner), ("opcode", opcode.display), ("argc", toString argumentCount),
        ("shape", shape.name)]
  | .boundTwice owner opcode =>
    moduleNote .warn "opcode bound twice" [("module", owner), ("opcode", opcode.display)]
  | .installed owner opcodes =>
    registryNote .debug "installed module" [("module", owner), ("opcodes", toString opcodes)]
  | .installedTwice owner => registryNote .warn "module installed twice" [("module", owner)]
  | .providedTwice opcode owner incoming =>
    registryNote .warn "opcode provided by two modules"
      [("opcode", opcode.display), ("installed", owner), ("incoming", incoming)]
  | .executed opcode operands shape =>
    registryNote .trace "dispatch"
      [("opcode", opcode.display), ("operands", toString operands), ("shape", shape.name)]
  | .replacing modules opcodes =>
    registryNote .debug "replacing module set"
      [("modules", toString modules), ("opcodes", toString opcodes)]
  | .noted note => note

end Event

structure Logged (α : Type) where
  value : α
  events : List Event

namespace Logged

instance : Monad Logged where
  pure value := ⟨value, []⟩
  bind x next := ⟨(next x.value).value, x.events ++ (next x.value).events⟩

instance : LawfulMonad Logged := LawfulMonad.mk' Logged
  (fun x => by cases x; simp [Functor.map])
  (fun _ _ => by simp [bind, pure])
  (fun _ _ _ => by simp [bind])

end Logged

inductive BindFault where
  | boundTwice (owner : String) (opcode : Opcode)
  | installedTwice (owner : String)
  | providedTwice (opcode : Opcode) (owner incoming : String)
  deriving DecidableEq, Repr

def BindFault.message : BindFault → String
  | .boundTwice owner opcode => s!"opcode {opcode.display} is already bound in module `{owner}`"
  | .installedTwice owner => s!"a module named `{owner}` is already installed"
  | .providedTwice opcode owner incoming =>
    s!"opcode {opcode.display} of module `{incoming}` is already provided by module `{owner}`"

inductive ExecutionFault where
  | unknownOpcode (opcode : Opcode)
  | argumentCount (opcode : Opcode) (expected given : Nat)
  deriving DecidableEq, Repr

def ExecutionFault.message : ExecutionFault → String
  | .unknownOpcode opcode => s!"unknown opcode {opcode.display}"
  | .argumentCount opcode expected given =>
    s!"opcode {opcode.display} expects {expected} operands but {given} were decoded"

abbrev Build := ExceptT BindFault Logged

/-- A step that leaves a table behind in either case, as one that gives the table if it succeeds. -/
def Build.ofAttempt {α : Type} (attempt : Logged (Except BindFault Unit × α)) : Build α :=
  ExceptT.mk ⟨attempt.value.1.map fun _ => attempt.value.2, attempt.events⟩

theorem Build.pure_eq_ok {α : Type} {a b : α} :
    (pure a : Build α).run.value = .ok b ↔ a = b := by
  constructor
  · rintro ⟨⟩
    rfl
  · rintro rfl
    rfl

/-- Two steps in a row succeed exactly when each does. -/
theorem Build.bind_eq_ok {α β : Type} {x : Build α} {f : α → Build β} {b : β} :
    (x >>= f).run.value = .ok b ↔ ∃ a, x.run.value = .ok a ∧ (f a).run.value = .ok b := by
  obtain ⟨result, events⟩ := x
  cases result with
  | ok a =>
    constructor
    · intro h
      exact ⟨a, rfl, h⟩
    · rintro ⟨_, ⟨⟩, h⟩
      exact h
  | error fault =>
    constructor
    · rintro ⟨⟩
    · rintro ⟨_, ⟨⟩, _⟩

end OpcodeBinding
