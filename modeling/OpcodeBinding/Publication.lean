import Std.Data.ExtTreeMap
import OpcodeBinding.Registry

/-! The registry that running interpreters share. It is never changed, only replaced as a whole. Its readers
and writers run side by side. A move is what one thread does in one go: to take the current edition is
atomic, and so is to swap it for another. What a writer does before its swap is seen by nobody else, and
any other moves may come in between. -/
namespace OpcodeBinding

/-- A registry that was published. The number tells it from other publications, also from those with
the same contents. -/
structure Edition (σ : Type) where
  number : Nat
  registry : Registry σ

structure Publication (σ : Type) where
  current : Edition σ

namespace Publication

variable {σ : Type}

def replace (p : Publication σ) (next : Edition σ) : Logged (Edition σ × Publication σ) :=
  ⟨(p.current, { p with current := next }),
    [.replacing next.registry.modules.size next.registry.opcodeCount]⟩

end Publication

variable {σ : Type}

inductive Question where
  | find (opcode : Opcode)
  | moduleFor (opcode : Opcode)
  | modules
  | opcodeCount
  deriving DecidableEq, Repr

inductive Fact (σ : Type) where
  | binding? (binding? : Option (Binding σ))
  | module? (module? : Option (Module σ))
  | modules (modules : Array (Module σ))
  | opcodeCount (count : Nat)

def Registry.answer (r : Registry σ) : Question → Fact σ
  | .find opcode => .binding? (r.find? opcode)
  | .moduleFor opcode => .module? (r.moduleFor? opcode)
  | .modules => .modules r.modules
  | .opcodeCount => .opcodeCount r.opcodeCount

/-- The editions of a publication, wherever they are, and the interpreters that execute scripts on
them. Editions are numbered as they are made, which may be another order than that of their swaps. -/
structure Circulation (σ : Type) where
  publication : Publication σ
  /-- What writers are about to swap in, by the numbers of the editions. -/
  prepared : Std.ExtTreeMap Nat (Registry σ) := ∅
  /-- The number of editions made so far, and the number that the next one gets. -/
  made : Nat
  /-- The editions that readers took and writers got back, in this order. They keep them. -/
  snapshots : List (Edition σ) := []
  /-- Each interpreter has a state of its own. -/
  states : Nat → σ

inductive Move (σ : Type) where
  /-- A reader takes the current edition. -/
  | take
  /-- A writer makes an edition of its registry, to be swapped in by a later move. -/
  | prepare (registry : Registry σ)
  /-- The writer of an edition swaps it in, and gets back the edition that was current. -/
  | swap (number : Nat)
  | ask (snapshot : Nat) (question : Question)
  | execute (interpreter snapshot : Nat) (instruction : Instruction)

inductive Sight (σ : Type) where
  | taken (edition : Edition σ)
  | prepared (edition : Edition σ)
  | swapped (next previous : Edition σ)
  | fact (fact : Fact σ)
  | reply (interpreter : Nat) (reply : Reply σ)
  /-- The move names an edition that is not prepared, or a snapshot that nobody has. -/
  | nothing

namespace Circulation

def start (first : Registry σ) (states : Nat → σ) : Circulation σ where
  publication := { current := ⟨0, first⟩ }
  made := 1
  states

def serve (c : Circulation σ) : Move σ → Sight σ × Circulation σ
  | .take =>
    let edition := c.publication.current
    (.taken edition, { c with snapshots := c.snapshots ++ [edition] })
  | .prepare registry =>
    let prepared := c.prepared.insert c.made registry
    (.prepared ⟨c.made, registry⟩, { c with prepared, made := c.made + 1 })
  | .swap number =>
    match c.prepared[number]? with
    | none => (.nothing, c)
    | some registry =>
      let next : Edition σ := ⟨number, registry⟩
      let (previous, publication) := (c.publication.replace next).value
      let prepared := c.prepared.erase number
      (.swapped next previous,
        { c with publication, prepared, snapshots := c.snapshots ++ [previous] })
  | .ask snapshot question =>
    match c.snapshots[snapshot]? with
    | none => (.nothing, c)
    | some edition => (.fact (edition.registry.answer question), c)
  | .execute interpreter snapshot instruction =>
    match c.snapshots[snapshot]? with
    | none => (.nothing, c)
    | some edition =>
      let reply := edition.registry.execute instruction (c.states interpreter)
      let states other := if other = interpreter then reply.state else c.states other
      (.reply interpreter reply, { c with states })

def after (c : Circulation σ) (moves : List (Move σ)) : Circulation σ :=
  moves.foldl (fun c move => (c.serve move).2) c

def serveAll (c : Circulation σ) : List (Move σ) → List (Sight σ)
  | [] => []
  | move :: moves => (c.serve move).1 :: (c.serve move).2.serveAll moves

end Circulation

end OpcodeBinding
