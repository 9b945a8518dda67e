import OpcodeBinding.Publication

/-! A place where modules, registries and publications are made and used under handles. -/
namespace OpcodeBinding

/-- A module is closed to further bindings once it was installed anywhere. -/
structure Draft (σ : Type) where
  contents : Module σ
  installed : Bool := false

/-- A registry is published at most once and cannot be changed from then on. -/
inductive Holding (σ : Type) where
  | owned (registry : Registry σ)
  | published (edition : Edition σ)

def Holding.registry {σ : Type} : Holding σ → Registry σ
  | .owned registry => registry
  | .published edition => edition.registry

abbrev Handles (α : Type) := Std.ExtTreeMap String α

/-- All handles share one interpreter state. Editions are numbered in order of publication. -/
structure Workbench (σ : Type) where
  drafts : Handles (Draft σ) := ∅
  holdings : Handles (Holding σ) := ∅
  publications : Handles (Publication σ) := ∅
  state : σ
  editions : Nat := 0

inductive WorkFault where
  | noHandle (handle : String)
  | frozen (handle : String)
  | table (fault : BindFault)
  | execution (fault : ExecutionFault)
  deriving DecidableEq, Repr

def WorkFault.message : WorkFault → String
  | .noHandle handle => handle
  | .frozen handle => handle
  | .table fault => fault.message
  | .execution fault => fault.message

/-- Handles named `m` are of modules, `r` of registries and `p` of publications. -/
inductive Request (σ : Type) where
  | newModule (m name : String)
  | bind (m : String) (opcode : Opcode) (binding : Binding σ)
  /-- Binds the opcodes from the first on that do not pass the last. -/
  | bindRange (m : String) (first last step : Nat) (binding : Binding σ)
  /-- Announces bindings to come, but not how many. -/
  | reserve (m : String)
  | name (m : String)
  | find (m : String) (opcode : Opcode)
  | contains (m : String) (opcode : Opcode)
  | size (m : String)
  | opcodes (m : String) (skip : Nat) (take? : Option Nat)
  | entries (m : String)
  | descriptors (m : String)
  | table (m : String)
  | display (m : String)
  | inspect (m : String) (opcode : Opcode)
  | accepts (m : String) (opcode : Opcode) (operandCount : Nat)
  /-- Calls a binding whatever the number of operands. -/
  | call (m : String) (instruction : Instruction)
  | newRegistry (r : String)
  | install (r m : String)
  | resolve (r : String) (opcode : Opcode)
  | moduleFor (r : String) (opcode : Opcode)
  | summary (r : String)
  | execute (r : String) (instruction : Instruction)
  | publish (r p : String)
  /-- Keeps the current edition under a registry handle. -/
  | current (p kept : String)
  /-- Publishes a registry, and keeps the replaced edition under a registry handle. -/
  | replace (p r kept : String)
  | same (a b : String)
  | state
  | reset

inductive Response (σ : Type) where
  | done
  | truth (holds : Bool)
  | truth? (holds? : Option Bool)
  | text (text : String)
  | text? (text? : Option String)
  | size (count : Nat)
  | binding? (binding? : Option (Binding σ))
  | opcodes (opcodes : List Opcode)
  | entries (entries : List (Opcode × Binding σ))
  | descriptors (descriptors : List Descriptor)
  /-- A binding and its callback as values of their types. -/
  | inspected? (texts? : Option (String × String))
  | bound (count : Nat) (faults : List BindFault)
  /-- Names and sizes of modules, and the number of opcodes. -/
  | summary (modules : List (String × Nat)) (opcodes : Nat)
  | called? (call? : Option (Answer × σ))
  | state (state : σ)

end OpcodeBinding
