import OpcodeBinding.Proofs.Consistency

/-! Modules that can stand in one registry. Installing them one after another makes no more demands
than that any two of them are apart. -/
namespace OpcodeBinding

variable {σ : Type}

def Module.Apart (m k : Module σ) : Prop := m.name ≠ k.name ∧ m.opcodes.Disjoint k.opcodes

/-- Modules are pairwise apart when neither a name nor an opcode is repeated. -/
theorem Module.pairwise_apart_iff {modules : List (Module σ)} :
    modules.Pairwise Apart ↔
      (modules.map Module.name).Nodup ∧ (modules.flatMap Module.opcodes).Nodup := by
  have listed : ∀ m ∈ modules, m.opcodes.Nodup := fun m _ => m.opcodes_ascending.nodup
  rw [List.nodup_flatMap, and_iff_right listed, List.Nodup, List.pairwise_map]
  exact List.pairwise_and_iff

namespace Registry

variable {r s : Registry σ} {m : Module σ} {modules : List (Module σ)}

/-- A module can be installed exactly when it is apart from each installed one. -/
theorem Consistent.install_isOk_iff (h : r.Consistent) :
    (∃ s, (r.install m).run.value = .ok s) ↔ ∀ k ∈ r.modules, k.Apart m := by
  constructor
  · rintro ⟨s, installed⟩ k there
    obtain ⟨fresh, free, _⟩ := install_eq_ok.mp installed
    refine ⟨fun same => fresh ⟨k, there, same⟩, fun opcode old new => ?_⟩
    rw [Module.mem_opcodes, ← Module.contains_eq] at old new
    have owned := h.moduleFor?_eq_some.mpr ⟨there, old⟩
    rw [conflict?_eq_none.mp free opcode new] at owned
    contradiction
  · intro apart
    have fresh : ¬ r.hasName m.name := by
      rintro ⟨k, there, same⟩
      exact (apart k there).1 same
    have free : r.conflict? m = none := by
      rw [conflict?_eq_none]
      intro opcode new
      apply Option.eq_none_iff_forall_ne_some.mpr
      intro k owned
      obtain ⟨there, old⟩ := h.moduleFor?_eq_some.mp owned
      rw [Module.contains_eq, ← Module.mem_opcodes] at old new
      exact (apart k there).2 old new
    exact ⟨_, install_eq_ok.mpr ⟨fresh, free, rfl⟩⟩

theorem installAll_cons_eq_ok :
    (r.installAll (m :: modules)).run.value = .ok s ↔
      ∃ t, (r.install m).run.value = .ok t ∧ (t.installAll modules).run.value = .ok s := by
  rw [installAll, List.foldlM_cons]
  exact Build.bind_eq_ok

/-- Modules stand in the order in which they were installed. -/
theorem modules_of_installAll (installed : (r.installAll modules).run.value = .ok s) :
    s.modules.toList = r.modules.toList ++ modules.map Module.listed := by
  induction modules generalizing r with
  | nil => rw [Build.pure_eq_ok.mp installed, List.map_nil, List.append_nil]
  | cons m modules ih =>
    obtain ⟨t, first, rest⟩ := installAll_cons_eq_ok.mp installed
    rw [ih rest, modules_of_install first, Array.toList_push, List.append_assoc]
    rfl

/-- Consistency is kept by any number of installations. -/
theorem Consistent.of_installAll (h : r.Consistent)
    (installed : (r.installAll modules).run.value = .ok s) : s.Consistent := by
  induction modules generalizing r with
  | nil => rwa [Build.pure_eq_ok.mp installed] at h
  | cons m modules ih =>
    obtain ⟨t, first, rest⟩ := installAll_cons_eq_ok.mp installed
    exact ih (h.of_install first) rest

/-- Modules can be installed in a row exactly when any two are apart, installed ones among them. -/
theorem Consistent.installAll_isOk_iff (h : r.Consistent) :
    (∃ s, (r.installAll modules).run.value = .ok s) ↔
      modules.Pairwise Module.Apart ∧ ∀ k ∈ r.modules, ∀ m ∈ modules, k.Apart m := by
  induction modules generalizing r with
  | nil => simpa using ⟨r, Build.pure_eq_ok.mpr rfl⟩
  | cons m modules ih =>
    simp only [installAll_cons_eq_ok, List.pairwise_cons, List.forall_mem_cons]
    constructor
    · intro all
      rcases all with ⟨s, t, first, rest⟩
      obtain ⟨apart, old⟩ := (ih (h.of_install first)).mp ⟨s, rest⟩
      rw [modules_of_install first] at old
      refine ⟨⟨?_, apart⟩, fun k there => ⟨h.install_isOk_iff.mp ⟨t, first⟩ k there, ?_⟩⟩
      · exact old m.listed (Array.mem_push_self)
      · exact old k (Array.mem_push_of_mem m.listed there)
    · intro all
      rcases all with ⟨⟨new, apart⟩, old⟩
      obtain ⟨t, first⟩ := h.install_isOk_iff.mpr fun k there => (old k there).1
      have grown : ∀ k ∈ t.modules, ∀ n ∈ modules, k.Apart n := by
        rw [modules_of_install first]
        intro k there
        rcases Array.mem_push.mp there with earlier | rfl
        · exact (old k earlier).2
        · exact new
      obtain ⟨s, rest⟩ := (ih (h.of_install first)).mpr ⟨apart, grown⟩
      exact ⟨s, t, first, rest⟩

/-- Modules can be installed one after another exactly when any two of them are apart. -/
theorem installAll_empty_isOk_iff :
    (∃ s, ((empty : Registry σ).installAll modules).run.value = .ok s) ↔
      modules.Pairwise Module.Apart := by
  rw [consistent_empty.installAll_isOk_iff]
  apply and_iff_left
  intro k there
  exact absurd there (Array.not_mem_empty k)

end Registry

end OpcodeBinding
