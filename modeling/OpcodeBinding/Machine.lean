import Std.Data.ExtTreeMap
import OpcodeBinding.Callback

/-! A script interpreter's state, and native functions that act on it. -/
namespace OpcodeBinding

/-- Variables have slots of two kinds. The top of the stack is its last element. -/
structure Machine where
  globals : Std.ExtTreeMap UInt16 Operand := ∅
  locals : Std.ExtTreeMap UInt16 Operand := ∅
  stack : Array Int32 := #[]
  trace : Array String := #[]
  wind : Single := ⟨0⟩
  name : String := ""
  flag : Bool := false
  deriving Inhabited

namespace Machine

def traceInstruction : Callback Machine := .change fun instruction machine =>
  let words := instruction.opcode.display :: instruction.operands.map Operand.display
  { machine with trace := machine.trace.push (" ".intercalate words) }

def push : Callback Machine := .change fun instruction machine =>
  { machine with stack := machine.stack.push ((instruction.integer? 0).getD (-1)) }

def remove : Callback Machine := .change fun instruction machine =>
  let number := (instruction.integer? 0).getD 0
  { machine with stack := machine.stack.filter (· != number) }

def store : Callback Machine := .change fun instruction machine =>
  match instruction.operand? 0, instruction.operand? 1 with
  | some (.globalSlot slot), some value =>
    { machine with globals := machine.globals.insert slot value }
  | some (.localSlot slot), some value =>
    { machine with locals := machine.locals.insert slot value }
  | _, _ => machine

def setWind : Callback Machine := .change fun instruction machine =>
  { machine with wind := (instruction.single? 0).getD ⟨0⟩ }

def setName : Callback Machine := .change fun instruction machine =>
  { machine with name := (instruction.text? 0).getD machine.name }

def flip : Callback Machine := .change fun _ machine => { machine with flag := !machine.flag }

def onStack : Callback Machine := .test fun instruction machine =>
  (instruction.integer? 0).any machine.stack.contains

def endsInVariable : Callback Machine := .test fun instruction _ =>
  instruction.operands.getLast?.any Operand.isVariable

def startsWithTwins : Callback Machine := .test fun instruction _ =>
  match instruction.operand? 0, instruction.operand? 1 with
  | some a, some b => a.equals b
  | _, _ => false

def drop : Callback Machine := .predicate fun _ machine =>
  { value := !machine.stack.isEmpty, state := { machine with stack := machine.stack.pop } }

def native? : Shape → String → Option (Callback Machine)
  | .effect, name =>
    match name with
    | "nop" => some (.change fun _ machine => machine)
    | "trace" => some traceInstruction
    | "push" => some push
    | "remove" => some remove
    | "store" => some store
    | "wind" => some setWind
    | "name" => some setName
    | "flip" => some flip
    | _ => none
  | .predicate, name =>
    match name with
    | "yes" => some (.test fun _ _ => true)
    | "no" => some (.test fun _ _ => false)
    | "flag" => some (.test fun _ machine => machine.flag)
    | "has" => some onStack
    | "bare" => some (.test fun instruction _ => instruction.operands.isEmpty)
    | "last_var" => some endsInVariable
    | "same" => some startsWithTwins
    | "take" => some drop
    | _ => none

end Machine

end OpcodeBinding
