import Mathlib.Data.Finset.Card
import OpcodeBinding.Module.Lemmas

/-! A module as a finite map that keeps the first binding of each opcode. What is kept of listings and
the room in the table cannot be seen from outside. -/
namespace OpcodeBinding

inductive Callback.HasShape {σ : Type} : Callback σ → Shape → Prop
  | effect (run : Instruction → σ → Outcome σ Unit) : HasShape (.effect run) .effect
  | predicate (run : Instruction → σ → Outcome σ Bool) : HasShape (.predicate run) .predicate

theorem Callback.hasShape_iff {σ : Type} {callback : Callback σ} {shape : Shape} :
    callback.HasShape shape ↔ shape = callback.shape := by
  constructor
  · rintro ⟨⟩ <;> rfl
  · rintro rfl
    cases callback with
    | effect run => exact .effect run
    | predicate run => exact .predicate run

/-- A descriptor tells all of a binding but the function itself. -/
theorem Descriptor.eq_describe {σ : Type} {d : Descriptor} {binding : Binding σ} :
    d = binding.describe d.opcode ↔ d.argumentCount = binding.argumentCount ∧
      binding.callback.HasShape d.shape ∧ d.mnemonic = binding.mnemonic := by
  obtain ⟨opcode, argumentCount, shape, mnemonic⟩ := d
  rw [Callback.hasShape_iff, Binding.describe, Descriptor.mk.injEq]
  simp [Binding.shape]

namespace Module

variable {σ : Type}

namespace Call

def binding? : Call σ → Option (Opcode × Binding σ)
  | .bind opcode argumentCount callback => some (opcode, ⟨argumentCount, callback, none⟩)
  | .bindNamed opcode mnemonic argumentCount callback =>
    some (opcode, ⟨argumentCount, callback, some mnemonic⟩)
  | .bindEffect opcode argumentCount run => some (opcode, ⟨argumentCount, .effect run, none⟩)
  | .bindPredicate opcode argumentCount run => some (opcode, ⟨argumentCount, .predicate run, none⟩)
  | _ => none

def binds (call : Call σ) : Bool := call.binding?.isSome

/-- All bindings that calls ask for, refused ones among them. -/
def asked (calls : List (Call σ)) : List (Opcode × Binding σ) := calls.filterMap binding?

theorem asked_filter_binds (calls : List (Call σ)) : asked (calls.filter binds) = asked calls := by
  induction calls with
  | nil => rfl
  | cons call calls ih =>
    cases h : call.binding? with
    | none => simpa [asked, binds, h] using ih
    | some binding => simpa [asked, binds, h] using ih

end Call

/-- What a call answers where the first of the bindings asked for so far wins. -/
def FirstWins (title : String) (asked : List (Opcode × Binding σ)) : Call σ → Result σ → Prop
  | .bind opcode .., result | .bindNamed opcode .., result | .bindEffect opcode .., result
  | .bindPredicate opcode .., result =>
    result = .bound
      (if opcode ∈ asked.map Prod.fst then .error (.boundTwice title opcode) else .ok ())
  | .reserve _, result => result = .reserved
  | .name, result => result = .name title
  | .find opcode, result => result = .binding? (asked.lookup opcode) ∧
    ∀ binding ∈ asked.lookup opcode, binding.callback.HasShape binding.shape
  | .contains opcode, result => result = .truth (opcode ∈ asked.map Prod.fst)
  | .size, result => result = .size (asked.map Prod.fst).toFinset.card
  | .isEmpty, result => result = .truth asked.isEmpty
  | .opcodes, result => ∃ codes, result = .opcodes codes ∧ Opcode.Ascending codes ∧
    ∀ opcode, opcode ∈ codes ↔ opcode ∈ asked.map Prod.fst
  | .entries, result => ∃ entries, result = .entries entries ∧
    Opcode.Ascending (entries.map Prod.fst) ∧
    ∀ opcode binding, (opcode, binding) ∈ entries ↔ asked.lookup opcode = some binding
  | .descriptors, result => ∃ descriptors, result = .descriptors descriptors ∧
    Opcode.Ascending (descriptors.map Descriptor.opcode) ∧
    ∀ d, d ∈ descriptors ↔ ∃ binding, asked.lookup d.opcode = some binding ∧
      d.argumentCount = binding.argumentCount ∧ binding.callback.HasShape d.shape ∧
      d.mnemonic = binding.mnemonic

structure Keeps (m : Module σ) (title : String) (asked : List (Opcode × Binding σ)) : Prop where
  name : m.name = title
  find? : ∀ opcode, m.find? opcode = asked.lookup opcode

theorem keeps_empty (title : String) : (empty title : Module σ).Keeps title [] where
  name := rfl
  find? opcode := find?_empty title opcode

theorem isSome_lookup_iff {asked : List (Opcode × Binding σ)} {opcode : Opcode} :
    (asked.lookup opcode).isSome ↔ opcode ∈ asked.map Prod.fst := by
  rw [List.lookup_isSome_iff, List.mem_map]
  simp only [beq_iff_eq, @eq_comm _ opcode]

theorem mem_of_lookup {asked : List (Opcode × Binding σ)} {opcode : Opcode} {binding : Binding σ}
    (found : asked.lookup opcode = some binding) : (opcode, binding) ∈ asked := by
  obtain ⟨before, behind, rfl, _⟩ := List.lookup_eq_some_iff.mp found
  exact List.mem_append_cons_self

namespace Keeps

variable {m k : Module σ} {title : String} {asked : List (Opcode × Binding σ)}

theorem isSome_find? (h : m.Keeps title asked) (opcode : Opcode) :
    (m.find? opcode).isSome ↔ opcode ∈ asked.map Prod.fst := by
  rw [h.find?, isSome_lookup_iff]

theorem mem_opcodes (h : m.Keeps title asked) (opcode : Opcode) :
    opcode ∈ m.opcodes ↔ opcode ∈ asked.map Prod.fst := by
  rw [Module.mem_opcodes, h.isSome_find?]

theorem size (h : m.Keeps title asked) : m.size = (asked.map Prod.fst).toFinset.card := by
  have same : m.opcodes.toFinset = (asked.map Prod.fst).toFinset := by
    ext opcode
    rw [List.mem_toFinset, List.mem_toFinset, h.mem_opcodes]
  rw [← same, List.toFinset_card_of_nodup m.opcodes_ascending.nodup, length_opcodes]

theorem isEmpty (h : m.Keeps title asked) : m.isEmpty = asked.isEmpty := by
  rw [isEmpty_eq, h.size, Bool.eq_iff_iff]
  simp

/-- A second binding changes nothing, also among those asked for. -/
theorem answerBinding (h : m.Keeps title asked) (opcode : Opcode) (binding : Binding σ) :
    (m.answerBinding opcode binding).2.Keeps title (asked ++ [(opcode, binding)]) := by
  cases found : m.find? opcode with
  | some first =>
    have taken : (asked.lookup opcode).isSome := by simp [← h.find?, found]
    rw [Module.answerBinding, tryBind_of_bound (Option.isSome_of_eq_some found)]
    refine ⟨h.name, fun other => ?_⟩
    rw [h.find?, List.lookup_append]
    by_cases same : other = opcode
    · subst same
      rw [Option.or_of_isSome taken]
    · simp [List.lookup_cons, beq_eq_false_iff_ne.mpr same]
  | none =>
    rw [Module.answerBinding, tryBind_of_unbound found]
    refine ⟨h.name, fun other => ?_⟩
    rw [find?_insert, List.lookup_append, ← h.find?]
    by_cases same : other = opcode
    · subst same
      simp [found]
    · simp [List.lookup_cons, beq_eq_false_iff_ne.mpr same, same]

/-- Every call keeps the readings in step with the bindings that were asked for. -/
theorem serve (h : m.Keeps title asked) (call : Call σ) :
    (m.serve call).2.Keeps title (asked ++ call.binding?.toList) := by
  cases call with
  | bind | bindNamed | bindEffect | bindPredicate => exact h.answerBinding _ _
  | _ => exact ⟨h.name, fun opcode => by simpa [Module.serve, Call.binding?] using h.find? opcode⟩

theorem after (h : m.Keeps title asked) (calls : List (Call σ)) :
    (m.after calls).Keeps title (asked ++ Call.asked calls) := by
  induction calls generalizing m asked with
  | nil => simpa [Call.asked, Module.after] using h
  | cons call calls ih =>
    have next := ih (h.serve call)
    cases found : call.binding? with
    | none => simpa [Call.asked, Module.after, found] using next
    | some binding => simpa [Call.asked, Module.after, found] using next

theorem result_answerBinding (h : m.Keeps title asked) (opcode : Opcode) (binding : Binding σ) :
    (m.answerBinding opcode binding).1 = .bound
      (if opcode ∈ asked.map Prod.fst then .error (.boundTwice title opcode) else .ok ()) := by
  by_cases taken : opcode ∈ asked.map Prod.fst
  · rw [Module.answerBinding, tryBind_of_bound ((h.isSome_find? opcode).mpr taken), if_pos taken,
      h.name]
  · have free : m.find? opcode = none := by
      rwa [← h.isSome_find?, Option.not_isSome_iff_eq_none] at taken
    rw [Module.answerBinding, tryBind_of_unbound free, if_neg taken]

/-- The descriptors are those of the first bindings. -/
theorem mem_descriptors (h : m.Keeps title asked) (d : Descriptor) :
    d ∈ m.descriptors ↔
      ∃ binding, asked.lookup d.opcode = some binding ∧ d = binding.describe d.opcode := by
  rw [Module.mem_descriptors, h.find?]

theorem forall_descriptors {P : Descriptor → Prop} (h : m.Keeps title asked)
    (all : ∀ binding ∈ asked, P (binding.2.describe binding.1)) : ∀ d ∈ m.descriptors, P d := by
  intro d listed
  obtain ⟨binding, found, described⟩ := (h.mem_descriptors d).mp listed
  rw [described]
  exact all (d.opcode, binding) (mem_of_lookup found)

/-- The readings fix what each call answers. -/
theorem firstWins (h : m.Keeps title asked) (call : Call σ) :
    FirstWins title asked call (m.serve call).1 := by
  cases call with
  | bind | bindNamed | bindEffect | bindPredicate => exact h.result_answerBinding _ _
  | reserve => rfl
  | name => exact congrArg Result.name h.name
  | find opcode =>
    exact ⟨congrArg Result.binding? (h.find? opcode), fun _ _ => Callback.hasShape_iff.mpr rfl⟩
  | contains opcode =>
    apply congrArg Result.truth
    rw [contains_eq, Bool.eq_iff_iff, h.isSome_find?, decide_eq_true_iff]
  | size => exact congrArg Result.size h.size
  | isEmpty => exact congrArg Result.truth h.isEmpty
  | opcodes => exact ⟨_, rfl, m.opcodes_ascending, h.mem_opcodes⟩
  | entries =>
    refine ⟨_, rfl, ?_, fun opcode binding => by rw [mem_entries, h.find?]⟩
    rw [map_fst_entries]
    exact m.opcodes_ascending
  | descriptors =>
    refine ⟨_, rfl, ?_, fun d => by simp only [h.mem_descriptors, Descriptor.eq_describe]⟩
    rw [map_opcode_descriptors]
    exact m.opcodes_ascending

/-- Modules that were asked for the same bindings answer every call alike. -/
theorem result_eq (hm : m.Keeps title asked) (hk : k.Keeps title asked) (call : Call σ) :
    (m.serve call).1 = (k.serve call).1 := by
  have same : ∀ opcode, m.find? opcode = k.find? opcode := fun opcode =>
    (hm.find? opcode).trans (hk.find? opcode).symm
  cases call with
  | bind | bindNamed | bindEffect | bindPredicate =>
    exact (hm.result_answerBinding _ _).trans (hk.result_answerBinding _ _).symm
  | reserve => rfl
  | name => exact congrArg Result.name (hm.name.trans hk.name.symm)
  | find opcode => exact congrArg Result.binding? (same opcode)
  | contains opcode => exact congrArg Result.truth (by rw [contains_eq, contains_eq, same])
  | size => exact congrArg Result.size (hm.size.trans hk.size.symm)
  | isEmpty => exact congrArg Result.truth (hm.isEmpty.trans hk.isEmpty.symm)
  | opcodes => exact congrArg Result.opcodes (opcodes_congr same)
  | entries => exact congrArg Result.entries (entries_congr same)
  | descriptors => exact congrArg Result.descriptors (descriptors_congr same)

/-- Calls that do not bind can be left out, whatever they listed. -/
theorem serveAll_filter_binds (hm : m.Keeps title asked) (hk : k.Keeps title asked)
    (calls : List (Call σ)) :
    k.serveAll (calls.filter Call.binds) =
      ((calls.zip (m.serveAll calls)).filter fun turn => turn.1.binds).map Prod.snd := by
  induction calls generalizing m k asked with
  | nil => rfl
  | cons call calls ih =>
    have next := hm.serve call
    cases binds : call.binds with
    | true =>
      simp only [serveAll, List.filter_cons, List.zip_cons_cons, binds, ite_true, List.map_cons]
      rw [hm.result_eq hk, ih next (hk.serve call)]
    | false =>
      have nothing : call.binding? = none := by simpa [Call.binds] using binds
      rw [nothing, Option.toList_none, List.append_nil] at next
      simp only [serveAll, List.filter_cons, List.zip_cons_cons, binds, Bool.false_eq_true,
        ite_false]
      exact ih next hk

end Keeps

theorem length_serveAll (m : Module σ) (calls : List (Call σ)) :
    (m.serveAll calls).length = calls.length := by
  induction calls generalizing m with
  | nil => rfl
  | cons call calls ih => simp [serveAll, ih]

theorem getElem?_serveAll (m : Module σ) (calls : List (Call σ)) (i : Nat) :
    (m.serveAll calls)[i]? = calls[i]?.map fun call => ((m.after (calls.take i)).serve call).1 := by
  induction calls generalizing m i with
  | nil => rfl
  | cons call calls ih =>
    cases i with
    | zero => rfl
    | succ i => simpa [serveAll, after] using ih (m.serve call).2 i

/-- Each call answers by the first bindings asked for before it, and calls that do not bind make no
difference to the others. -/
theorem serveAll_firstWins (title : String) (calls : List (Call σ)) :
    let m : Module σ := empty title
    (m.serveAll calls).length = calls.length ∧
    (∀ i (hi : i < calls.length), ∃ result, (m.serveAll calls)[i]? = some result ∧
      FirstWins title (Call.asked (calls.take i)) calls[i] result) ∧
    (m.after calls).name = title ∧
    m.serveAll (calls.filter Call.binds) =
      ((calls.zip (m.serveAll calls)).filter fun turn => turn.1.binds).map Prod.snd ∧
    ∀ call, ((m.after (calls.filter Call.binds)).serve call).1 = ((m.after calls).serve call).1 := by
  intro m
  have start : m.Keeps title [] := keeps_empty title
  refine ⟨m.length_serveAll calls, fun i hi => ?_, (start.after calls).name,
    start.serveAll_filter_binds start calls, fun call => ?_⟩
  · refine ⟨_, ?_, (start.after (calls.take i)).firstWins calls[i]⟩
    rw [m.getElem?_serveAll, List.getElem?_eq_getElem hi, Option.map_some]
  · have without := start.after (calls.filter Call.binds)
    rw [Call.asked_filter_binds] at without
    exact without.result_eq (start.after calls) call

end Module

end OpcodeBinding
