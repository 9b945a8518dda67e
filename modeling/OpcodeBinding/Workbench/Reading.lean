import OpcodeBinding.Workbench.Lemmas

/-! Requests that only read. A listing that is taken is kept, but this changes no answer. -/
namespace OpcodeBinding

variable {σ α β : Type}

@[simp] theorem Module.signatures_listed (m : Module σ) : m.listed.signatures = m.signatures :=
  congrArg (List.map _) (Module.descriptors_congr fun _ => Module.find?_listed ..)

@[simp] theorem Module.signatures_reserve (m : Module σ) (additional : Nat) :
    (m.reserve additional).signatures = m.signatures :=
  congrArg (List.map _) (Module.descriptors_congr fun _ => Module.find?_reserve ..)

structure Workbench.Alike (a b : Workbench σ) : Prop where
  drafts : ∀ m : String, b.drafts[m]?.map (fun draft => draft.contents.signatures) =
    a.drafts[m]?.map fun draft => draft.contents.signatures
  holdings : b.holdings = a.holdings
  publications : b.publications = a.publications

namespace Workbench.Alike

variable {a b c : Workbench σ}

theorem refl (a : Workbench σ) : a.Alike a := ⟨fun _ => rfl, rfl, rfl⟩

theorem trans (ab : a.Alike b) (bc : b.Alike c) : a.Alike c where
  drafts m := (bc.drafts m).trans (ab.drafts m)
  holdings := bc.holdings.trans ab.holdings
  publications := bc.publications.trans ab.publications

theorem of_state (a : Workbench σ) (state : σ) : a.Alike { a with state } :=
  ⟨fun _ => rfl, rfl, rfl⟩

/-- A draft may give way to one with the same listing. -/
theorem of_draft {m : String} {old : Draft σ} (held : a.drafts[m]? = some old) (new : Draft σ)
    (same : new.contents.signatures = old.contents.signatures) :
    a.Alike { a with drafts := a.drafts.insert m new } where
  drafts k := by
    rw [Std.ExtTreeMap.getElem?_insert]
    split
    · next equal =>
      obtain rfl := Std.LawfulEqCmp.compare_eq_iff_eq.mp equal
      rw [held, Option.map_some, Option.map_some, same]
    · rfl
  holdings := rfl
  publications := rfl

end Workbench.Alike

namespace Work

/-- A work that notes nothing and leaves all tables alike. -/
def Quiet (work : Work σ α) : Prop :=
  ∀ bench, (work.on bench).events = [] ∧ bench.Alike (work.on bench).value.2

theorem quiet_pure (value : α) : (pure value : Work σ α).Quiet := fun bench => ⟨rfl, .refl bench⟩

theorem quiet_get : (get : Work σ (Workbench σ)).Quiet := fun bench => ⟨rfl, .refl bench⟩

theorem Quiet.bind {work : Work σ α} {next : α → Work σ β} (quiet : work.Quiet)
    (others : ∀ value, (next value).Quiet) : (work >>= next).Quiet := by
  intro bench
  obtain ⟨silent, alike⟩ := quiet bench
  rw [on_bind]
  rcases done : work.on bench with ⟨⟨fault | value, left⟩, events⟩
  · rw [done] at silent alike
    exact ⟨silent, alike⟩
  · rw [done] at silent alike
    obtain ⟨still, like⟩ := others value left
    exact ⟨by simp_all, alike.trans like⟩

theorem quiet_found (handle : String) (value? : Option α) :
    (found handle value? : Work σ α).Quiet := by
  cases value? with
  | none => exact fun bench => ⟨rfl, .refl bench⟩
  | some value => exact quiet_pure value

theorem quiet_moduleOf (m : String) : (moduleOf m : Work σ (Module σ)).Quiet :=
  quiet_get.bind fun _ => (quiet_found m _).bind fun _ => quiet_pure _

theorem quiet_listedModule (m : String) : (listedModule m : Work σ (Module σ)).Quiet := by
  intro bench
  cases held : bench.drafts[m]? with
  | none => simp [listedModule, held, Workbench.Alike.refl]
  | some draft =>
    refine ⟨by simp [listedModule, held], ?_⟩
    simp only [listedModule, on_bind, on_get, held, found_some, on_pure, on_modify]
    exact .of_draft held _ (Module.signatures_listed _)

theorem quiet_holdingOf (r : String) : (holdingOf r : Work σ (Holding σ)).Quiet :=
  quiet_get.bind fun _ => quiet_found r _

theorem quiet_registryOf (r : String) : (registryOf r : Work σ (Registry σ)).Quiet :=
  (quiet_holdingOf r).bind fun _ => quiet_pure _

end Work

namespace Request

def reads : Request σ → Bool
  | .name _ | .find _ _ | .contains _ _ | .size _ | .opcodes _ _ _ | .entries _ | .descriptors _
  | .table _ | .display _ | .inspect _ _ | .accepts _ _ _ | .resolve _ _ | .moduleFor _ _
  | .summary _ | .same _ _ | .state => true
  | _ => false

open Work

/-- The requests that read are quiet, whatever they name. -/
theorem quiet_serve [Inhabited σ] {request : Request σ} (reading : request.reads) :
    request.serve.Quiet := by
  cases request with
  | name m | find m opcode | contains m opcode | size m | inspect m opcode
  | accepts m opcode operandCount =>
    exact (quiet_moduleOf m).bind fun _ => quiet_pure _
  | opcodes m skip take? | entries m | descriptors m | table m | display m =>
    exact (quiet_listedModule m).bind fun _ => quiet_pure _
  | resolve r opcode | moduleFor r opcode | summary r =>
    exact (quiet_registryOf r).bind fun _ => quiet_pure _
  | same a b =>
    refine (quiet_holdingOf a).bind fun first => (quiet_holdingOf b).bind fun second => ?_
    split <;> exact quiet_pure _
  | state => exact quiet_get.bind fun _ => quiet_pure _
  | _ => nomatch reading

end Request

namespace Workbench

variable [Inhabited σ] {bench : Workbench σ}

theorem Refuses.alike {request : Request σ} (refused : bench.Refuses request) :
    bench.Alike (bench.serve request).2 := by
  obtain ⟨fault, served⟩ := refused
  rw [served]
  exact .refl bench

theorem alike_of_reading {request : Request σ} (reading : request.reads) :
    bench.Alike (bench.serve request).2 :=
  (Request.quiet_serve reading bench).2

/-- Native functions see no tables. -/
theorem alike_call (m : String) (instruction : Instruction) :
    bench.Alike (bench.serve (.call m instruction)).2 := by
  cases held : bench.drafts[m]? with
  | none => exact (serve_call_of_missing held instruction).alike
  | some draft =>
    cases found : draft.contents.find? instruction.opcode with
    | none => rw [serve_call_of_unbound held found]; exact .refl bench
    | some binding => rw [serve_call_of_bound held found]; exact .of_state bench _

/-- An execution changes the state and no table. -/
theorem alike_execute (r : String) (instruction : Instruction) :
    bench.Alike (bench.serve (.execute r instruction)).2 := by
  cases held : bench.holdings[r]? with
  | none => exact (serve_execute_of_missing held instruction).alike
  | some holding => rw [serve_execute held]; exact .of_state bench _

end Workbench

end OpcodeBinding
