import Mathlib.Data.List.Pairwise
import OpcodeBinding.Proofs.Compatibility
import OpcodeBinding.Proofs.Scripts

/-! Installations of one family of modules in several orders and with repetitions. A module that was
listed in between is the same module, so modules are compared as they are once listed. -/
namespace OpcodeBinding

variable {σ : Type}

namespace Module

variable {m k : Module σ} {family : List (Module σ)}

instance : Std.Symm (Apart (σ := σ)) where
  symm _ _ apart := ⟨apart.1.symm, List.disjoint_symm apart.2⟩

/-- Two modules of a compatible family are apart unless they are the same. -/
theorem apart_of_ne (compatible : family.Pairwise Apart) (hm : m.listed ∈ family.map listed)
    (hk : k.listed ∈ family.map listed) (ne : m.listed ≠ k.listed) : m.Apart k := by
  obtain ⟨a, ha, hma⟩ := List.mem_map.mp hm
  obtain ⟨b, hb, hkb⟩ := List.mem_map.mp hk
  have distinct : a ≠ b := by
    rintro rfl
    exact ne (hma.symm.trans hkb)
  have apart := compatible.forall ha hb distinct
  change a.listed.Apart b.listed at apart
  rwa [hma, hkb] at apart

end Module

namespace Registry

variable {r s : Registry σ} {m : Module σ} {family earlier sequence : List (Module σ)}

def Holds (r : Registry σ) (modules : List (Module σ)) : Prop :=
  ∀ k, k ∈ r.modules ↔ k ∈ modules.map Module.listed

theorem holds_empty : (empty : Registry σ).Holds [] := by
  intro k
  simp [empty]

/-- A second installation of one module is refused for its name. -/
theorem Holds.install_again (holds : r.Holds earlier) (again : m.listed ∈ earlier.map Module.listed) :
    (r.install m).run.value = .error (.installedTwice m.name) :=
  install_eq_installedTwice ⟨m.listed, (holds m.listed).mpr again, rfl⟩

theorem Holds.install_new (holds : r.Holds earlier) (h : r.Consistent)
    (compatible : family.Pairwise Module.Apart)
    (drawn : ∀ k ∈ earlier, k.listed ∈ family.map Module.listed)
    (member : m.listed ∈ family.map Module.listed) (new : m.listed ∉ earlier.map Module.listed) :
    ∃ s, (r.install m).run.value = .ok s := by
  rw [h.install_isOk_iff]
  intro k there
  obtain ⟨e, before, rfl⟩ := List.mem_map.mp ((holds k).mp there)
  apply Module.apart_of_ne compatible (drawn e before) member
  intro same
  exact new (same ▸ List.mem_map_of_mem before)

/-- An attempt adds its module, unless the module is there already. -/
theorem Holds.attempt (holds : r.Holds earlier) (h : r.Consistent)
    (compatible : family.Pairwise Module.Apart)
    (drawn : ∀ k ∈ earlier, k.listed ∈ family.map Module.listed)
    (member : m.listed ∈ family.map Module.listed) : (r.attempt m).Holds (earlier ++ [m]) := by
  intro k
  rw [List.map_append, List.mem_append, List.map_singleton, List.mem_singleton]
  by_cases again : m.listed ∈ earlier.map Module.listed
  · rw [attempt_of_refusal (holds.install_again again), holds]
    constructor
    · exact .inl
    · rintro (old | rfl)
      · exact old
      · exact again
  · obtain ⟨s, installed⟩ := holds.install_new h compatible drawn member again
    rw [attempt_of_install installed, modules_of_install installed, Array.mem_push, holds]

theorem attemptAll_concat (r : Registry σ) (modules : List (Module σ)) (m : Module σ) :
    r.attemptAll (modules ++ [m]) = (r.attemptAll modules).attempt m :=
  List.foldl_append

/-- Of modules that are apart, those in a sequence are installed and no others. -/
theorem holds_attemptAll (compatible : family.Pairwise Module.Apart)
    (drawn : ∀ k ∈ sequence, k.listed ∈ family.map Module.listed) :
    ((empty : Registry σ).attemptAll sequence).Holds sequence := by
  induction sequence using List.reverseRecOn with
  | nil => exact holds_empty
  | append_singleton earlier m ih =>
    rw [List.forall_mem_append, List.forall_mem_singleton] at drawn
    rw [attemptAll_concat]
    exact (ih drawn.1).attempt (consistent_empty.attemptAll earlier) compatible drawn.1 drawn.2

private theorem eraseDups_concat (names : List String) (name : String) :
    (names ++ [name]).eraseDups =
      if name ∈ names then names.eraseDups else names.eraseDups ++ [name] := by
  rw [List.eraseDups_append]
  by_cases old : name ∈ names
  · rw [if_pos old, List.removeAll, List.filter_cons_of_neg (by simpa using old), List.filter_nil,
      List.eraseDups_nil, List.append_nil]
  · rw [if_neg old, List.removeAll, List.filter_cons_of_pos (by simpa using old), List.filter_nil,
      List.eraseDups_cons, List.filter_nil, List.eraseDups_nil]

/-- Modules drawn from a compatible family stand in the order in which their names came first. -/
theorem names_attemptAll (compatible : family.Pairwise Module.Apart)
    (drawn : ∀ k ∈ sequence, k.listed ∈ family.map Module.listed) :
    ((empty : Registry σ).attemptAll sequence).modules.toList.map Module.name =
      (sequence.map Module.name).eraseDups := by
  induction sequence using List.reverseRecOn with
  | nil => rfl
  | append_singleton earlier m ih =>
    rw [List.forall_mem_append, List.forall_mem_singleton] at drawn
    have holds := holds_attemptAll compatible drawn.1
    rw [attemptAll_concat, List.map_append, List.map_singleton, eraseDups_concat, ← ih drawn.1]
    by_cases again : m.listed ∈ earlier.map Module.listed
    · have named : m.name ∈ earlier.map Module.name := by
        obtain ⟨e, before, same⟩ := List.mem_map.mp again
        exact List.mem_map.mpr ⟨e, before, congrArg (fun k => k.name) same⟩
      rw [attempt_of_refusal (holds.install_again again), if_pos named]
    · have unnamed : m.name ∉ earlier.map Module.name := by
        intro named
        obtain ⟨e, before, same⟩ := List.mem_map.mp named
        have apart := Module.apart_of_ne compatible (drawn.1 e before) drawn.2
          fun equal => again (equal ▸ List.mem_map_of_mem before)
        exact apart.1 same
      obtain ⟨s, installed⟩ := holds.install_new (consistent_empty.attemptAll earlier) compatible
        drawn.1 drawn.2 again
      rw [attempt_of_install installed, modules_of_install installed, if_neg unnamed,
        Array.toList_push, List.map_append, List.map_singleton, Module.name_listed]

section Members

variable (hr : r.Consistent) (hs : s.Consistent) (same : ∀ k, k ∈ r.modules ↔ k ∈ s.modules)

include hr hs same

theorem Consistent.moduleFor?_congr (opcode : Opcode) :
    r.moduleFor? opcode = s.moduleFor? opcode := by
  apply Option.ext
  intro k
  rw [hr.moduleFor?_eq_some, hs.moduleFor?_eq_some, same]

theorem Consistent.opcodeCount_congr : r.opcodeCount = s.opcodeCount := by
  have perm : r.modules.toList.Perm s.modules.toList := by
    rw [List.perm_ext_iff_of_nodup (.of_map _ hr.names) (.of_map _ hs.names)]
    simpa using same
  rw [opcodeCount, hr.count, opcodeCount, hs.count]
  exact (perm.map Module.size).sum_nat

end Members

/-- Compatible modules can be installed in any order. Each is installed where it comes first, and
scripts cannot tell the orders apart. -/
theorem installations_commute (family : List (Module σ)) :
    (∀ order, order.Perm family →
      ((∃ r, ((empty : Registry σ).installAll order).run.value = .ok r) ↔
        family.Pairwise Module.Apart)) ∧
    ∀ sequence, family.Pairwise Module.Apart →
      (∀ m ∈ sequence, m.listed ∈ family.map Module.listed) →
      let r := (empty : Registry σ).attemptAll sequence
      (∀ i (hi : i < sequence.length),
        let before := (empty : Registry σ).attemptAll (sequence.take i)
        let result := (before.install sequence[i]).run.value
        let m := sequence[i].listed
        (m ∉ (sequence.take i).map Module.listed → ∃ s, result = .ok s) ∧
        (m ∈ (sequence.take i).map Module.listed → result = .error (.installedTwice m.name))) ∧
      r.modules.toList.map Module.name = (sequence.map Module.name).eraseDups ∧
      (∀ k, k ∈ r.modules ↔ k ∈ sequence.map Module.listed) ∧
      ∀ other : List (Module σ),
        (∀ k, k ∈ other.map Module.listed ↔ k ∈ sequence.map Module.listed) →
        let s := (empty : Registry σ).attemptAll other
        (∀ opcode, s.find? opcode = r.find? opcode ∧ s.moduleFor? opcode = r.moduleFor? opcode) ∧
        s.opcodeCount = r.opcodeCount ∧
        ∀ script state, s.run script state = r.run script state := by
  refine ⟨fun order reordered => ?_, fun sequence compatible drawn => ?_⟩
  · rw [installAll_empty_isOk_iff]
    exact reordered.pairwise_iff (Std.Symm.symm _ _)
  intro r
  have holds : r.Holds sequence := holds_attemptAll compatible drawn
  refine ⟨fun i hi => ?_, names_attemptAll compatible drawn, holds, fun other covered => ?_⟩
  · intro before result m
    have earlier : ∀ k ∈ sequence.take i, k.listed ∈ family.map Module.listed :=
      fun k there => drawn k (List.mem_of_mem_take there)
    have kept : before.Holds (sequence.take i) := holds_attemptAll compatible earlier
    refine ⟨fun new => ?_, fun again => kept.install_again again⟩
    exact kept.install_new (consistent_empty.attemptAll _) compatible earlier
      (drawn _ (List.getElem_mem hi)) new
  · intro s
    have hr : r.Consistent := consistent_empty.attemptAll sequence
    have hs : s.Consistent := consistent_empty.attemptAll other
    have drawn' : ∀ k ∈ other, k.listed ∈ family.map Module.listed := by
      intro k there
      obtain ⟨e, first, same⟩ :=
        List.mem_map.mp ((covered k.listed).mp (List.mem_map_of_mem there))
      exact same ▸ drawn e first
    have same : ∀ k, k ∈ s.modules ↔ k ∈ r.modules := fun k =>
      (holds_attemptAll compatible drawn' k).trans ((covered k).trans (holds k).symm)
    have provided := hs.moduleFor?_congr hr same
    have found : ∀ opcode, s.find? opcode = r.find? opcode := by
      intro opcode
      rw [find?, find?, provided]
    exact ⟨fun opcode => ⟨found opcode, provided opcode⟩, hs.opcodeCount_congr hr same,
      run_congr found⟩

end Registry

end OpcodeBinding
