import OpcodeBinding.Instruction

/-! Native functions. A function sees its instruction and the interpreter's state, and nothing else. It may
write notes to the journal. -/
namespace OpcodeBinding

/-- An effect is run for what it does, and a predicate answers a conditional opcode. -/
inductive Shape where
  | effect
  | predicate
  deriving DecidableEq, Repr

inductive UnknownShape where
  | unknownShape
  deriving DecidableEq, Repr

def UnknownShape.message : UnknownShape → String
  | .unknownShape => "Matching variant not found"

namespace Shape

def name : Shape → String
  | .effect => "Effect"
  | .predicate => "Predicate"

/-- Only the exact name of a shape is read. -/
def read (text : String) : Except UnknownShape Shape :=
  if text = effect.name then .ok .effect
  else if text = predicate.name then .ok .predicate
  else .error .unknownShape

theorem read_name (shape : Shape) : read shape.name = .ok shape := by
  cases shape with
  | effect => rfl
  | predicate => rfl

end Shape

inductive Level where
  | error
  | warn
  | info
  | debug
  | trace
  deriving DecidableEq, Repr

namespace Level

def rank : Level → Nat
  | .error => 1
  | .warn => 2
  | .info => 3
  | .debug => 4
  | .trace => 5

def name : Level → String
  | .error => "ERROR"
  | .warn => "WARN"
  | .info => "INFO"
  | .debug => "DEBUG"
  | .trace => "TRACE"

end Level

structure Note where
  level : Level
  source : String
  message : String
  fields : List (String × String)
  deriving DecidableEq, Repr

def Note.line (note : Note) : String :=
  let details := note.fields.map fun field => s!" {field.1}={field.2}"
  s!"{note.level.name} {note.source}: {note.message}{String.join details}"

structure Outcome (σ α : Type) where
  value : α
  state : σ
  notes : List Note := []

inductive Callback (σ : Type) where
  | effect (run : Instruction → σ → Outcome σ Unit)
  | predicate (run : Instruction → σ → Outcome σ Bool)

inductive Answer where
  | done
  | condition (holds : Bool)
  deriving DecidableEq, Repr

namespace Callback

variable {σ : Type}

def shape : Callback σ → Shape
  | .effect _ => .effect
  | .predicate _ => .predicate

def call (instruction : Instruction) (state : σ) : Callback σ → Outcome σ Answer
  | .effect run =>
    let outcome := run instruction state
    { outcome with value := .done }
  | .predicate run =>
    let outcome := run instruction state
    { outcome with value := .condition outcome.value }

/-- An effect that writes no notes. -/
def change (next : Instruction → σ → σ) : Callback σ :=
  .effect fun instruction state => ⟨(), next instruction state, []⟩

def test (holds : Instruction → σ → Bool) : Callback σ :=
  .predicate fun instruction state => ⟨holds instruction state, state, []⟩

def inspect (callback : Callback σ) : String := s!"ScriptCallback::{callback.shape.name}"

end Callback

end OpcodeBinding
