import Std.Data.HashMap
import OpcodeBinding.Journal

/-! Named collections of native functions under their opcodes, and the calls that their owner makes on them
while the tables are built. -/
namespace OpcodeBinding

structure Binding (σ : Type) where
  argumentCount : Nat
  callback : Callback σ
  mnemonic : Option String := none

namespace Binding

variable {σ : Type}

def shape (binding : Binding σ) : Shape := binding.callback.shape

def accepts (binding : Binding σ) (operandCount : Nat) : Bool :=
  operandCount == binding.argumentCount

def call (binding : Binding σ) (instruction : Instruction) (state : σ) : Outcome σ Answer :=
  binding.callback.call instruction state

/-- How a text is kept: the empty one is shared, one of at most seven bytes stands in place, and any
other is stored apart. -/
def storage (text : String) : String :=
  if text.isEmpty then "static" else if text.utf8ByteSize ≤ 7 then "inline" else "dynamic"

def inspect (binding : Binding σ) : String :=
  let mnemonic :=
    match binding.mnemonic with
    | none => "None"
    | some text => s!"Some(Atom('{text}' type={storage text}))"
  s!"FunctionEntry \x7b argument_count: {binding.argumentCount}, shape: {binding.shape.name}, " ++
    s!"mnemonic: {mnemonic} \x7d"

end Binding

/-- One line of an opcode reference: a binding without its function. -/
structure Descriptor where
  opcode : Opcode
  argumentCount : Nat
  shape : Shape
  mnemonic : Option String
  deriving DecidableEq, Repr

def Binding.describe {σ : Type} (binding : Binding σ) (opcode : Opcode) : Descriptor :=
  ⟨opcode, binding.argumentCount, binding.shape, binding.mnemonic⟩

/-- The table is for lookups and stands in no order. A listing sorts its opcodes, and they are kept
so until the next binding. -/
structure Module (σ : Type) where
  name : String
  table : Std.HashMap Opcode (Binding σ)
  sorted? : Option (List Opcode) := none
  /-- What was kept is what sorting would give now. -/
  upToDate : ∀ codes ∈ sorted?, codes = Opcode.sort table.keys := by nofun

namespace Module

variable {σ : Type}

def empty (name : String) : Module σ := { name, table := ∅ }

def find? (m : Module σ) (opcode : Opcode) : Option (Binding σ) := m.table[opcode]?

def contains (m : Module σ) (opcode : Opcode) : Bool := m.table.contains opcode

def size (m : Module σ) : Nat := m.table.size

def isEmpty (m : Module σ) : Bool := m.table.isEmpty

/-- An opcode is bound once. A second binding is refused and leaves the module as it was. -/
def tryBind (m : Module σ) (opcode : Opcode) (binding : Binding σ) :
    Logged (Except BindFault Unit × Module σ) :=
  if m.contains opcode then
    ⟨(.error (.boundTwice m.name opcode), m), [.boundTwice m.name opcode]⟩
  else
    ⟨(.ok (), { name := m.name, table := m.table.insert opcode binding }),
      [.bound m.name opcode binding.argumentCount binding.shape]⟩

def bind (m : Module σ) (opcode : Opcode) (binding : Binding σ) : Build (Module σ) :=
  Build.ofAttempt (m.tryBind opcode binding)

def bindAll (m : Module σ) (bindings : List (Opcode × Binding σ)) : Build (Module σ) :=
  bindings.foldlM (fun m binding => m.bind binding.1 binding.2) m

def bindEach (m : Module σ) (bindings : List (Opcode × Binding σ)) :
    Logged (Module σ × List BindFault) :=
  let step := fun (state : Module σ × List BindFault × List Event) binding =>
    let (m, faults, events) := state
    let ⟨(result, m), new⟩ := m.tryBind binding.1 binding.2
    let events := new.reverse ++ events
    match result with
    | .ok () => (m, faults, events)
    | .error fault => (m, fault :: faults, events)
  let (m, faults, events) := bindings.foldl step (m, [], [])
  ⟨(m, faults.reverse), events.reverse⟩

/-- Nothing is lost or added when bindings move to another table. -/
theorem moved_equiv (table : Std.HashMap Opcode (Binding σ)) (room : Nat) :
    ((Std.HashMap.emptyWithCapacity room).insertMany table.toList).Equiv table := by
  apply Std.HashMap.Equiv.of_forall_getElem?_eq
  intro opcode
  cases h : table[opcode]? with
  | some binding =>
    exact Std.HashMap.getElem?_insertMany_list_of_mem (BEq.rfl)
      Std.HashMap.distinct_keys_toList (Std.HashMap.mem_toList_iff_getElem?_eq_some.mpr h)
  | none =>
    rw [Std.HashMap.getElem?_insertMany_list_of_contains_eq_false]
    · simp
    · simpa using h

def reserve (m : Module σ) (additional : Nat) : Module σ where
  name := m.name
  table := (Std.HashMap.emptyWithCapacity (m.size + additional)).insertMany m.table.toList
  sorted? := m.sorted?
  upToDate codes kept := (m.upToDate codes kept).trans
    (Opcode.sort_eq_of_perm Std.HashMap.nodup_keys (moved_equiv _ _).keys_perm.symm)

/-! The listings below are in ascending order of opcodes. -/

def opcodes (m : Module σ) : List Opcode := m.sorted?.getD (Opcode.sort m.table.keys)

/-- A kept listing is the one that sorting would give now. -/
theorem opcodes_eq_sort (m : Module σ) : m.opcodes = Opcode.sort m.table.keys := by
  cases h : m.sorted? with
  | none => simp [opcodes, h]
  | some codes => simpa [opcodes, h] using m.upToDate codes h

def listed (m : Module σ) : Module σ where
  name := m.name
  table := m.table
  sorted? := some m.opcodes
  upToDate := by simpa using m.opcodes_eq_sort

def entries (m : Module σ) : List (Opcode × Binding σ) :=
  m.opcodes.filterMap fun opcode => (m.find? opcode).map fun binding => (opcode, binding)

def descriptors (m : Module σ) : List Descriptor :=
  m.entries.map fun entry => entry.2.describe entry.1

/-- A binding can be asked for in four ways. All calls behind `reserve` only read. -/
inductive Call (σ : Type) where
  | bind (opcode : Opcode) (argumentCount : Nat) (callback : Callback σ)
  | bindNamed (opcode : Opcode) (mnemonic : String) (argumentCount : Nat) (callback : Callback σ)
  | bindEffect (opcode : Opcode) (argumentCount : Nat) (run : Instruction → σ → Outcome σ Unit)
  | bindPredicate (opcode : Opcode) (argumentCount : Nat) (run : Instruction → σ → Outcome σ Bool)
  | reserve (additional : Nat)
  | name
  | find (opcode : Opcode)
  | contains (opcode : Opcode)
  | size
  | isEmpty
  | opcodes
  | entries
  | descriptors

inductive Result (σ : Type) where
  | bound (result : Except BindFault Unit)
  | reserved
  | name (name : String)
  | binding? (binding? : Option (Binding σ))
  | truth (holds : Bool)
  | size (count : Nat)
  | opcodes (opcodes : List Opcode)
  | entries (entries : List (Opcode × Binding σ))
  | descriptors (descriptors : List Descriptor)

def answerBinding (m : Module σ) (opcode : Opcode) (binding : Binding σ) :
    Result σ × Module σ :=
  let ⟨(result, k), _⟩ := m.tryBind opcode binding
  (.bound result, k)

/-- The result of a call, and the module after it. A listing is kept with the module. -/
def serve (m : Module σ) : Call σ → Result σ × Module σ
  | .bind opcode argumentCount callback => m.answerBinding opcode { argumentCount, callback }
  | .bindNamed opcode mnemonic argumentCount callback =>
    m.answerBinding opcode { argumentCount, callback, mnemonic := some mnemonic }
  | .bindEffect opcode argumentCount run =>
    m.answerBinding opcode { argumentCount, callback := .effect run }
  | .bindPredicate opcode argumentCount run =>
    m.answerBinding opcode { argumentCount, callback := .predicate run }
  | .reserve additional => (.reserved, m.reserve additional)
  | .name => (.name m.name, m)
  | .find opcode => (.binding? (m.find? opcode), m)
  | .contains opcode => (.truth (m.contains opcode), m)
  | .size => (.size m.size, m)
  | .isEmpty => (.truth m.isEmpty, m)
  | .opcodes => (.opcodes m.opcodes, m.listed)
  | .entries => (.entries m.entries, m.listed)
  | .descriptors => (.descriptors m.descriptors, m.listed)

def after (m : Module σ) (calls : List (Call σ)) : Module σ :=
  calls.foldl (fun m call => (m.serve call).2) m

def serveAll (m : Module σ) : List (Call σ) → List (Result σ)
  | [] => []
  | call :: calls => (m.serve call).1 :: (m.serve call).2.serveAll calls

end Module

end OpcodeBinding
