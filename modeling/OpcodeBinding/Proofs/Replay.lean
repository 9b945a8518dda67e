import Mathlib.Data.List.Forall2
import OpcodeBinding.Proofs.Journal

/-! The ledger that is kept from the journal holds what the tables on the workbench hold. -/
namespace OpcodeBinding

variable {σ : Type}

namespace Handles

variable {α β : Type} {rel : α → β → Prop} {a : Handles α} {b : Handles β} {key : String}

def Related (rel : α → β → Prop) (a : Handles α) (b : Handles β) : Prop :=
  ∀ handle : String, Option.Rel rel a[handle]? b[handle]?

theorem related_empty : Related rel ∅ ∅ := by
  intro handle
  rw [Std.ExtTreeMap.getElem?_empty, Std.ExtTreeMap.getElem?_empty]
  exact .none

theorem Related.insert (h : Related rel a b) {x : α} {y : β} (xy : rel x y) :
    Related rel (a.insert key x) (b.insert key y) := by
  intro handle
  rw [Std.ExtTreeMap.getElem?_insert, Std.ExtTreeMap.getElem?_insert]
  split
  · exact .some xy
  · exact h handle

theorem Related.erase (h : Related rel a b) : Related rel (a.erase key) (b.erase key) := by
  intro handle
  rw [Std.ExtTreeMap.getElem?_erase, Std.ExtTreeMap.getElem?_erase]
  split
  · exact .none
  · exact h handle

theorem Related.exists (h : Related rel a b) {y : β} (held : b[key]? = some y) :
    ∃ x, a[key]? = some x ∧ rel x y := by
  have there := h key
  rw [held] at there
  generalize a[key]? = x? at there ⊢
  cases there with
  | some xy => exact ⟨_, rfl, xy⟩

theorem Related.modify {f : α → α} {y z : β} (h : Related rel a b) (held : b[key]? = some y)
    (step : ∀ x, rel x y → rel (f x) z) : Related rel (a.modify key f) (b.insert key z) := by
  intro handle
  rw [Std.ExtTreeMap.getElem?_modify, Std.ExtTreeMap.getElem?_insert]
  split
  · obtain ⟨x, found, xy⟩ := h.exists held
    rw [found]
    exact .some (step x xy)
  · exact h handle

/-- A change on one side that does no harm. -/
theorem Related.modify_left {f : α → α} (h : Related rel a b)
    (same : ∀ x y, rel x y → rel (f x) y) : Related rel (a.modify key f) b := by
  intro handle
  rw [Std.ExtTreeMap.getElem?_modify]
  split
  · next equal =>
    obtain rfl := Std.LawfulEqCmp.compare_eq_iff_eq.mp equal
    have there := h key
    generalize a[key]? = x?, b[key]? = y? at there ⊢
    cases there with
    | some xy => exact .some (same _ _ xy)
    | none => exact .none
  · exact h handle

/-- What is read off both sides alike is the same. -/
theorem Related.map_eq {γ : Type} {f : α → γ} {g : β → γ} (h : Related rel a b)
    (read : ∀ x y, rel x y → g y = f x) (handle : String) :
    b[handle]?.map g = a[handle]?.map f := by
  have there := h handle
  generalize a[handle]? = x?, b[handle]? = y? at there ⊢
  cases there with
  | some xy => exact congrArg some (read _ _ xy)
  | none => rfl

end Handles

namespace Module

variable {m k : Module σ}

@[simp] theorem signatures_empty (name : String) : (empty name : Module σ).signatures = [] := by
  simp [signatures, descriptors]

theorem map_opcode_signatures (m : Module σ) : m.signatures.map Signature.opcode = m.opcodes := by
  rw [signatures, List.map_map, ← map_opcode_descriptors]
  rfl

theorem signatures_eq (m : Module σ) :
    m.signatures = m.entries.map fun entry => (entry.2.describe entry.1).signature :=
  List.map_map

/-- A binding adds its own signature and keeps all others. -/
theorem signatures_of_bind {opcode : Opcode} {binding : Binding σ}
    (h : (m.bind opcode binding).run.value = .ok k) :
    k.signatures.Perm (⟨opcode, binding.argumentCount, binding.shape⟩ :: m.signatures) := by
  rw [signatures_eq, signatures_eq]
  exact (entries_of_bind h).map _

/-- The bindings that were made are just those that were noted. -/
theorem signatures_bindEach (m : Module σ) (bindings : List (Opcode × Binding σ)) :
    let made := m.bindEach bindings
    made.value.1.signatures.Perm (made.events.filterMap Event.signature? ++ m.signatures) := by
  induction bindings generalizing m with
  | nil => exact .refl _
  | cons entry bindings ih =>
    obtain ⟨opcode, binding⟩ := entry
    cases found : m.find? opcode with
    | none =>
      obtain ⟨k, bound⟩ := exists_bind found binding
      rw [bindEach_cons_of_ok bound]
      exact ((ih k).trans ((signatures_of_bind bound).append_left _)).trans List.perm_middle
    | some other =>
      rw [bindEach_cons_of_bound (Option.isSome_of_eq_some found)]
      exact ih m

end Module

namespace Registry

structure RecordedBy (r : Registry σ) (installations : List Installation) : Prop where
  consistent : r.Consistent
  modules : installations.Forall₂ (fun installation m =>
    installation.owner = m.name ∧ installation.opcodes = m.size ∧
      installation.provided.Perm m.signatures) r.modules.toList

variable {r s : Registry σ} {installations : List Installation}

theorem recordedBy_empty : (empty : Registry σ).RecordedBy [] := ⟨consistent_empty, .nil⟩

/-- What is noted of an installation suffices to keep the record in step. -/
theorem RecordedBy.of_install {m : Module σ} {provided : List Signature}
    (h : r.RecordedBy installations) (installed : (r.install m).run.value = .ok s)
    (recorded : provided.Perm m.signatures) :
    s.RecordedBy (installations ++ [⟨m.name, m.size, provided⟩]) where
  consistent := h.consistent.of_install installed
  modules := by
    rw [modules_of_install installed, Array.toList_push]
    refine List.rel_append h.modules (.cons ⟨rfl, rfl, ?_⟩ .nil)
    rwa [Module.signatures_listed]

theorem RecordedBy.installations_eq (h : r.RecordedBy installations) :
    r.installations = installations.map Installation.sorted := by
  have same : (installations.map Installation.sorted).Forall₂ (· = ·) r.installations := by
    rw [Registry.installations, List.forall₂_map_left_iff, List.forall₂_map_right_iff]
    refine h.modules.imp ?_
    rintro ⟨owner, opcodes, provided⟩ m ⟨rfl, rfl, recorded⟩
    rw [Installation.sorted, Opcode.sortBy_eq_of_ascending recorded]
    exact m.map_opcode_signatures ▸ m.opcodes_ascending
  rw [List.forall₂_eq_eq_eq] at same
  exact same.symm

theorem RecordedBy.opcodeCount_eq (h : r.RecordedBy installations) :
    r.opcodeCount = (installations.map Installation.opcodes).sum := by
  have same : (installations.map Installation.opcodes).Forall₂ (· = ·)
      (r.modules.toList.map Module.size) := by
    rw [List.forall₂_map_left_iff, List.forall₂_map_right_iff]
    exact h.modules.imp fun _ _ recorded => recorded.2.1
  rw [List.forall₂_eq_eq_eq] at same
  rw [opcodeCount, h.consistent.count, same]

end Registry

open Workbench

namespace Ledger

/-- A ledger that holds what the tables on a bench hold. -/
structure Covers (l : Ledger) (bench : Workbench σ) : Prop where
  modules : Handles.Related (fun signatures draft => signatures.Perm draft.contents.signatures)
    l.modules bench.drafts
  registries : Handles.Related (fun installations holding =>
    holding.registry.RecordedBy installations) l.registries bench.holdings
  publications : Handles.Related (fun installations publication =>
    publication.current.registry.RecordedBy installations) l.publications bench.publications

namespace Covers

variable {l : Ledger} {bench : Workbench σ}

theorem start (state : σ) : ({} : Ledger).Covers ({ state } : Workbench σ) :=
  ⟨Handles.related_empty, Handles.related_empty, Handles.related_empty⟩

theorem alike (h : l.Covers bench) {other : Workbench σ} (like : bench.Alike other) :
    l.Covers other where
  modules := by
    intro handle
    have there := h.modules handle
    have same := like.drafts handle
    generalize l.modules[handle]? = signatures?, bench.drafts[handle]? = old?,
      other.drafts[handle]? = new? at there same ⊢
    cases there with
    | none => exact Option.map_eq_none_iff.mp same ▸ .none
    | some recorded =>
      obtain ⟨new, rfl, listed⟩ := Option.map_eq_some_iff.mp same
      exact .some (listed ▸ recorded)
  registries := like.holdings ▸ h.registries
  publications := like.publications ▸ h.publications

/-- A refusal is no change, whatever is noted of it. -/
theorem record_error (h : l.Covers bench) (request : Request σ) {fault : WorkFault}
    {events : List Event} (unbound : events.filterMap Event.signature? = [])
    (uninstalled : ∀ provided, events.filterMap (Event.installation? provided) = []) :
    (l.record request ⟨.error fault, events⟩).Covers bench := by
  cases request with
  | bind m opcode binding | bindRange m first last step binding =>
    refine { h with modules := h.modules.modify_left fun signatures draft recorded => ?_ }
    rwa [unbound, List.append_nil]
  | install r m =>
    refine { h with registries := h.registries.modify_left fun installations holding recorded => ?_ }
    rwa [uninstalled, List.append_nil]
  | _ => exact h

variable [Inhabited σ]

-- What is recorded of each kind of request, for the lemmas that take one kind.
attribute [local simp] Ledger.record

theorem record_refused (h : l.Covers bench) {request : Request σ} (refused : bench.Refuses request) :
    (l.record request (bench.serve request).1).Covers (bench.serve request).2 := by
  obtain ⟨fault, served⟩ := refused
  rw [served]
  exact h.record_error request rfl fun _ => rfl

theorem record_bind (h : l.Covers bench) (m : String) (opcode : Opcode) (binding : Binding σ) :
    (l.record (.bind m opcode binding) (bench.serve (.bind m opcode binding)).1).Covers
      (bench.serve (.bind m opcode binding)).2 := by
  cases opened : bench.openModule? m with
  | none => exact h.record_refused (serve_bind_of_closed opened opcode binding)
  | some table =>
    cases found : table.find? opcode with
    | none =>
      obtain ⟨k, bound⟩ := Module.exists_bind found binding
      rw [serve_bind_of_ok opened bound]
      refine { h with
        modules := h.modules.modify (openModule?_eq_some.mp opened) fun signatures recorded => ?_ }
      have moved := (recorded.cons _).trans (Module.signatures_of_bind bound).symm
      exact (List.perm_append_singleton _ _).trans moved
    | some other =>
      rw [serve_bind_of_bound opened (Option.isSome_of_eq_some found)]
      exact h.record_error _ rfl fun _ => rfl

theorem record_bindRange (h : l.Covers bench) (m : String) (first last step : Nat)
    (binding : Binding σ) :
    (l.record (.bindRange m first last step binding)
        (bench.serve (.bindRange m first last step binding)).1).Covers
      (bench.serve (.bindRange m first last step binding)).2 := by
  cases opened : bench.openModule? m with
  | none => exact h.record_refused (serve_bindRange_of_closed opened first last step binding)
  | some table =>
    rw [serve_bindRange_of_open opened]
    refine { h with
      modules := h.modules.modify (openModule?_eq_some.mp opened) fun signatures recorded => ?_ }
    exact ((recorded.append_right _).trans List.perm_append_comm).trans
      (table.signatures_bindEach _).symm

theorem record_install (h : l.Covers bench) (r m : String) :
    (l.record (.install r m) (bench.serve (.install r m)).1).Covers
      (bench.serve (.install r m)).2 := by
  cases held : bench.drafts[m]? with
  | none => exact h.record_refused (serve_install_of_missing held)
  | some draft =>
    cases owned : bench.owned? r with
    | none => exact h.record_refused (serve_install_of_closed held owned)
    | some registry =>
      rcases registry.install_cases draft.contents with ⟨s, done⟩ | done | ⟨opcode, owner, done⟩
      · rw [serve_install_of_ok held owned done]
        obtain ⟨signatures, found, recorded⟩ := h.modules.exists held
        have listed := h.alike (.of_draft held ⟨draft.contents.listed, true⟩
          (Module.signatures_listed _))
        refine { listed with
          registries := h.registries.modify (owned?_eq_some.mp owned)
            fun installations kept => ?_ }
        have provided : l.modules.getD m [] = signatures := by
          rw [Std.ExtTreeMap.getD_eq_getD_getElem?, found, Option.getD_some]
        exact provided ▸ kept.of_install (congrArg Logged.value done) recorded
      · rw [serve_install_of_error held owned done]
        exact h.record_error _ rfl fun _ => rfl
      · rw [serve_install_of_error held owned done]
        exact h.record_error _ rfl fun _ => rfl

theorem record_publish (h : l.Covers bench) (r p : String) :
    (l.record (.publish r p) (bench.serve (.publish r p)).1).Covers
      (bench.serve (.publish r p)).2 := by
  cases owned : bench.owned? r with
  | none => exact h.record_refused (serve_publish_of_closed owned)
  | some registry =>
    obtain ⟨installations, found, kept⟩ := h.registries.exists (owned?_eq_some.mp owned)
    rw [serve_publish_of_owned owned]
    simp only [record, found, Option.elim_some]
    exact ⟨h.modules, h.registries.erase, h.publications.insert kept⟩

theorem record_current (h : l.Covers bench) (p kept : String) :
    (l.record (.current p kept) (bench.serve (.current p kept)).1).Covers
      (bench.serve (.current p kept)).2 := by
  cases held : bench.publications[p]? with
  | none => exact h.record_refused (serve_current_of_missing held)
  | some publication =>
    obtain ⟨installations, found, recorded⟩ := h.publications.exists held
    rw [serve_current held]
    simp only [record, found, Option.elim_some]
    exact { h with registries := h.registries.insert recorded }

theorem record_replace (h : l.Covers bench) (p r kept : String) :
    (l.record (.replace p r kept) (bench.serve (.replace p r kept)).1).Covers
      (bench.serve (.replace p r kept)).2 := by
  cases held : bench.publications[p]? with
  | none => exact h.record_refused (serve_replace_of_missing held)
  | some publication =>
    cases owned : bench.owned? r with
    | none => exact h.record_refused (serve_replace_of_closed held owned)
    | some registry =>
      obtain ⟨replaced, known, old⟩ := h.publications.exists held
      obtain ⟨published, found, new⟩ := h.registries.exists (owned?_eq_some.mp owned)
      rw [serve_replace_of_owned held owned]
      simp only [record, known, found, Option.elim_some]
      exact ⟨h.modules, h.registries.erase.insert old, h.publications.insert new⟩

/-- One turn keeps the ledger in step with the tables. -/
theorem record (h : l.Covers bench) (request : Request σ) :
    (l.record request (bench.serve request).1).Covers (bench.serve request).2 := by
  cases request with
  | bind m opcode binding => exact h.record_bind m opcode binding
  | bindRange m first last step binding => exact h.record_bindRange m first last step binding
  | install r m => exact h.record_install r m
  | publish r p => exact h.record_publish r p
  | current p kept => exact h.record_current p kept
  | replace p r kept => exact h.record_replace p r kept
  | newModule m title =>
    rw [serve_newModule]
    exact { h with modules := h.modules.insert (by rw [Module.signatures_empty]) }
  | newRegistry r =>
    rw [serve_newRegistry]
    exact { h with registries := h.registries.insert Registry.recordedBy_empty }
  | reserve m =>
    cases opened : bench.openModule? m with
    | none => exact h.record_refused (serve_reserve_of_closed opened)
    | some table =>
      rw [serve_reserve_of_open opened]
      exact h.alike (.of_draft (openModule?_eq_some.mp opened) _ (table.signatures_reserve 0))
  | call m instruction => exact h.alike (alike_call m instruction)
  | execute r instruction => exact h.alike (alike_execute r instruction)
  | reset => exact h.alike (.of_state bench default)
  | _ => exact h.alike (alike_of_reading rfl)

/-- A ledger kept through any requests is right at their end. -/
theorem replay (h : l.Covers bench) (requests : List (Request σ)) :
    (l.replay (requests.zip (bench.serveAll requests))).Covers (bench.after requests) := by
  induction requests generalizing l bench with
  | nil => exact h
  | cons request requests ih => exact ih (h.record request)

end Covers

end Ledger

namespace Workbench

variable [Inhabited σ]

end Workbench

end OpcodeBinding
