import OpcodeBinding.Opcode
import OpcodeBinding.Single

/-! Decoded instructions: opcodes and operands. -/
namespace OpcodeBinding

/-- A variable is carried as its slot; what it holds is up to the interpreter. -/
inductive Operand where
  | integer (value : Int32)
  | single (value : Single)
  | text (value : String)
  | globalSlot (slot : UInt16)
  | localSlot (slot : UInt16)
  deriving DecidableEq, Repr

namespace Operand

/-! The readings below never convert one kind into another. -/

def integer? : Operand → Option Int32
  | .integer value => some value
  | _ => none

def single? : Operand → Option Single
  | .single value => some value
  | _ => none

def text? : Operand → Option String
  | .text value => some value
  | _ => none

def isVariable : Operand → Bool
  | .globalSlot _ | .localSlot _ => true
  | _ => false

/-- Equality of kind and value, numeric on single precision numbers. -/
def equals : Operand → Operand → Bool
  | .integer a, .integer b => a == b
  | .single a, .single b => a.equals b
  | .text a, .text b => a == b
  | .globalSlot a, .globalSlot b => a == b
  | .localSlot a, .localSlot b => a == b
  | _, _ => false

def spell : Operand → List Char
  | .integer value => Text.signedDecimal value.toInt
  | .single value => value.spell
  | .text value => '"' :: value.toList ++ ['"']
  | .globalSlot slot => ['$', 'G', '['] ++ Text.decimal slot.toNat ++ [']']
  | .localSlot slot => ['$', 'L', '['] ++ Text.decimal slot.toNat ++ [']']

def display (operand : Operand) : String := String.ofList operand.spell

end Operand

structure Instruction where
  opcode : Opcode
  operands : List Operand
  deriving DecidableEq, Repr

namespace Instruction

def operandCount (i : Instruction) : Nat := i.operands.length

def operand? (i : Instruction) (position : Nat) : Option Operand := i.operands[position]?

def integer? (i : Instruction) (position : Nat) : Option Int32 :=
  (i.operand? position).bind Operand.integer?

def single? (i : Instruction) (position : Nat) : Option Single :=
  (i.operand? position).bind Operand.single?

def text? (i : Instruction) (position : Nat) : Option String :=
  (i.operand? position).bind Operand.text?

def hits (i : Instruction) (positions : List Nat) : Nat :=
  positions.countP fun position => (i.operand? position).isSome

end Instruction

end OpcodeBinding
