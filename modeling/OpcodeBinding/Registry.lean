import OpcodeBinding.Module

/-! The installed modules of an interpreter, with an index from opcodes to modules, and the execution of
decoded instructions against them. -/
namespace OpcodeBinding

/-- Modules stand in order of installation. The index has the position of the module that provides an
opcode, so an instruction is resolved without a search however many modules there are. -/
structure Registry (σ : Type) where
  modules : Array (Module σ)
  index : Std.ExtTreeMap Opcode Nat

namespace Registry

variable {σ : Type}

def empty : Registry σ := ⟨#[], ∅⟩

def moduleFor? (r : Registry σ) (opcode : Opcode) : Option (Module σ) :=
  r.index[opcode]?.bind fun position => r.modules[position]?

def find? (r : Registry σ) (opcode : Opcode) : Option (Binding σ) :=
  (r.moduleFor? opcode).bind fun m => m.find? opcode

def opcodeCount (r : Registry σ) : Nat := r.index.size

/-- The least opcode of a module that an installed one provides, with the installed module. -/
def conflict? (r : Registry σ) (m : Module σ) : Option (Opcode × Module σ) :=
  m.opcodes.findSome? fun opcode => (r.moduleFor? opcode).map fun owner => (opcode, owner)

/-- Modules are told apart by name, and no two provide one opcode. Only a module that passes both
checks, made in this order, is added. The second check lists the module's opcodes. -/
def tryInstall (r : Registry σ) (m : Module σ) : Logged (Except BindFault Unit × Registry σ) :=
  if r.modules.any fun installed => installed.name == m.name then
    ⟨(.error (.installedTwice m.name), r), [.installedTwice m.name]⟩
  else
    match r.conflict? m with
    | some (opcode, owner) =>
      ⟨(.error (.providedTwice opcode owner.name m.name), r),
        [.providedTwice opcode owner.name m.name]⟩
    | none =>
      let position := r.modules.size
      let index := m.opcodes.foldl (fun index opcode => index.insert opcode position) r.index
      ⟨(.ok (), { modules := r.modules.push m.listed, index }), [.installed m.name m.size]⟩

def install (r : Registry σ) (m : Module σ) : Build (Registry σ) :=
  Build.ofAttempt (r.tryInstall m)

def installAll (r : Registry σ) (modules : List (Module σ)) : Build (Registry σ) :=
  modules.foldlM install r

/-- The registry after an installation, refused or not. -/
def attempt (r : Registry σ) (m : Module σ) : Registry σ := (r.tryInstall m).value.2

def attemptAll (r : Registry σ) (modules : List (Module σ)) : Registry σ :=
  modules.foldl attempt r

/-- Builds and installs modules one after another, passing over those that are refused. Each step
gives the module and the registry with it. -/
def assemble (r : Registry σ) :
    List (Build (Module σ)) → List (Logged (Except BindFault (Module σ × Registry σ)))
  | [] => []
  | construction :: rest =>
    let step : Build (Module σ × Registry σ) := do
      let m ← construction
      return (m, ← r.install m)
    let next := step.run.value.toOption.elim r Prod.snd
    step.run :: next.assemble rest

end Registry

structure Reply (σ : Type) where
  answer : Except ExecutionFault Answer
  state : σ
  events : List Event

namespace Registry

variable {σ : Type}

/-- An instruction is executed when its opcode is bound and takes as many operands as were decoded.
Otherwise nothing is called and the state stays. -/
def execute (r : Registry σ) (instruction : Instruction) (state : σ) : Reply σ :=
  match r.find? instruction.opcode with
  | none => ⟨.error (.unknownOpcode instruction.opcode), state, []⟩
  | some binding =>
    if binding.accepts instruction.operandCount then
      let outcome := binding.call instruction state
      let event := .executed instruction.opcode instruction.operandCount binding.shape
      ⟨.ok outcome.value, outcome.state, event :: outcome.notes.map .noted⟩
    else
      let fault := .argumentCount instruction.opcode binding.argumentCount instruction.operandCount
      ⟨.error fault, state, []⟩

def run (r : Registry σ) : List Instruction → σ → List (Reply σ)
  | [], _ => []
  | instruction :: script, state =>
    let reply := r.execute instruction state
    reply :: r.run script reply.state

def finalState (r : Registry σ) (script : List Instruction) (state : σ) : σ :=
  script.foldl (fun state instruction => (r.execute instruction state).state) state

end Registry

end OpcodeBinding
