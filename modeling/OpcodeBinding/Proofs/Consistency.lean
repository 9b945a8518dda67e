import Mathlib.Algebra.GroupWithZero.Nat
import Mathlib.Data.List.Nodup
import Mathlib.Data.List.Perm.Subperm
import Mathlib.Data.List.Range
import OpcodeBinding.Registry.Lemmas

/-! The index of a registry repeats what the modules hold. It stays exact through installations,
whether they succeed or are refused. -/
namespace OpcodeBinding.Registry

variable {σ : Type}

/-- Module names are distinct, the index leads exactly to the positions whose modules bind an opcode,
and each binding is counted once. -/
structure Consistent (r : Registry σ) : Prop where
  names : (r.modules.toList.map Module.name).Nodup
  index : ∀ opcode position,
    r.index[opcode]? = some position ↔
      ∃ m : Module σ, r.modules[position]? = some m ∧ m.contains opcode
  count : r.index.size = (r.modules.toList.map Module.size).sum

theorem consistent_empty : (empty : Registry σ).Consistent where
  names := List.nodup_nil
  index := by simp [empty]
  count := by simp [empty]

namespace Consistent

variable {r s : Registry σ} {m : Module σ} {opcode : Opcode}

/-- No two positions hold modules with a common opcode. -/
theorem position_unique (h : r.Consistent) {p q : Nat} {m k : Module σ}
    (hp : r.modules[p]? = some m) (hq : r.modules[q]? = some k) (hm : m.contains opcode)
    (hk : k.contains opcode) : p = q := by
  have first := (h.index opcode p).mpr ⟨m, hp, hm⟩
  have second := (h.index opcode q).mpr ⟨k, hq, hk⟩
  exact Option.some.inj (first.symm.trans second)

/-- A position in the index is in range, and the module there provides the opcode. -/
theorem moduleFor?_of_index (h : r.Consistent) {position : Nat}
    (found : r.index[opcode]? = some position) :
    ∃ m, r.modules[position]? = some m ∧ m.contains opcode ∧ r.moduleFor? opcode = some m := by
  obtain ⟨m, there, bound⟩ := (h.index opcode position).mp found
  exact ⟨m, there, bound, by simp [moduleFor?, found, there]⟩

/-- The index leads to the installed module that binds an opcode. -/
theorem moduleFor?_eq_some (h : r.Consistent) :
    r.moduleFor? opcode = some m ↔ m ∈ r.modules ∧ m.contains opcode := by
  constructor
  · intro found
    obtain ⟨position, indexed, there⟩ := Option.bind_eq_some_iff.mp found
    obtain ⟨k, here, bound⟩ := (h.index opcode position).mp indexed
    obtain rfl := Option.some.inj (there.symm.trans here)
    exact ⟨Array.mem_of_getElem? there, bound⟩
  · rintro ⟨installed, bound⟩
    obtain ⟨position, there⟩ := Array.getElem?_of_mem installed
    have indexed := (h.index opcode position).mpr ⟨m, there, bound⟩
    simp [moduleFor?, indexed, there]

theorem moduleFor?_eq_none (h : r.Consistent) :
    r.moduleFor? opcode = none ↔ ∀ m ∈ r.modules, m.find? opcode = none := by
  rw [Option.eq_none_iff_forall_ne_some]
  simp only [ne_eq, h.moduleFor?_eq_some, Module.contains_eq, not_and, Bool.not_eq_true,
    Option.isSome_eq_false_iff, Option.isNone_iff_eq_none]

theorem index_eq_none (h : r.Consistent) :
    r.index[opcode]? = none ↔ r.moduleFor? opcode = none := by
  cases found : r.index[opcode]? with
  | none => simp [moduleFor?, found]
  | some position =>
    obtain ⟨m, _, _, there⟩ := h.moduleFor?_of_index found
    simp [there]

theorem find?_eq_some (h : r.Consistent) {binding : Binding σ} :
    r.find? opcode = some binding ↔ ∃ m ∈ r.modules, m.find? opcode = some binding := by
  rw [find?, Option.bind_eq_some_iff]
  constructor
  · rintro ⟨m, found, bound⟩
    exact ⟨m, (h.moduleFor?_eq_some.mp found).1, bound⟩
  · rintro ⟨m, installed, bound⟩
    exact ⟨m, h.moduleFor?_eq_some.mpr ⟨installed, by simp [Module.contains_eq, bound]⟩, bound⟩

theorem find?_eq_none (h : r.Consistent) :
    r.find? opcode = none ↔ ∀ m ∈ r.modules, m.find? opcode = none := by
  rw [Option.eq_none_iff_forall_ne_some]
  simp only [ne_eq, h.find?_eq_some, not_exists, not_and]
  constructor
  · intro unbound m installed
    exact Option.eq_none_iff_forall_ne_some.mpr fun binding => unbound binding m installed
  · intro unbound binding m installed
    simp [unbound m installed]

/-- The index answers as a scan of the modules does. -/
theorem find?_eq_scan (h : r.Consistent) :
    r.find? opcode = r.modules.toList.findSome? fun m => m.find? opcode := by
  cases scan : r.modules.toList.findSome? fun m => m.find? opcode with
  | none => simpa [h.find?_eq_none] using scan
  | some binding =>
    obtain ⟨m, installed, bound⟩ := List.exists_of_findSome?_eq_some scan
    exact h.find?_eq_some.mpr ⟨m, by simpa using installed, bound⟩

/-- The count is exact as long as each opcode that is added is new. -/
private theorem size_foldl_insert (codes : List Opcode) (index : Std.ExtTreeMap Opcode Nat)
    (position : Nat) (distinct : codes.Nodup) (absent : ∀ code ∈ codes, index[code]? = none) :
    (codes.foldl (fun index code => index.insert code position) index).size =
      index.size + codes.length := by
  induction codes generalizing index with
  | nil => rfl
  | cons code codes ih =>
    obtain ⟨apart, distinct⟩ := List.nodup_cons.mp distinct
    rw [List.forall_mem_cons] at absent
    have free : ¬ index.contains code := by simpa using absent.1
    have still : ∀ other ∈ codes, (index.insert code position)[other]? = none := by
      intro other there
      have ne : code ≠ other := fun same => apart (same ▸ there)
      rw [Std.ExtTreeMap.getElem?_insert]
      simp [ne, absent.2 other there]
    rw [List.foldl_cons, ih _ distinct still, Std.ExtTreeMap.size_insert]
    rw [if_neg free, List.length_cons]
    omega

/-- The module of a successful installation provides only opcodes that were unknown before. -/
theorem absent_of_install (h : r.Consistent) (installed : (r.install m).run.value = .ok s)
    (bound : m.contains opcode) : r.index[opcode]? = none := by
  obtain ⟨_, free, _⟩ := install_eq_ok.mp installed
  exact h.index_eq_none.mpr (conflict?_eq_none.mp free opcode bound)

/-- A successful installation keeps a registry consistent. -/
theorem of_install (h : r.Consistent) (installed : (r.install m).run.value = .ok s) :
    s.Consistent where
  names := by
    obtain ⟨fresh, _, _⟩ := install_eq_ok.mp installed
    rw [modules_of_install installed, Array.toList_push, List.map_append, List.nodup_append]
    refine ⟨h.names, List.nodup_singleton _, ?_⟩
    rintro name taken _ new rfl
    obtain ⟨k, there, named⟩ := List.mem_map.mp taken
    rw [List.map_singleton, List.mem_singleton] at new
    exact fresh ⟨k, by simpa using there, named.trans new⟩
  index opcode position := by
    simp only [index_of_install installed, getElem?_of_install installed]
    -- The new module's opcodes led nowhere before, so no position is overwritten.
    by_cases bound : m.contains opcode
    · have absent := h.absent_of_install installed bound
      rw [if_pos bound, Option.some_inj]
      constructor
      · intro new
        exact ⟨m.listed, .inr ⟨new.symm, rfl⟩, bound⟩
      · intro found
        rcases found with ⟨k, there | ⟨last, _⟩, provided⟩
        · have indexed := (h.index opcode position).mpr ⟨k, there, provided⟩
          simp [absent] at indexed
        · exact last.symm
    · rw [if_neg bound, h.index]
      constructor
      · rintro ⟨k, there, provided⟩
        exact ⟨k, .inl there, provided⟩
      · intro found
        rcases found with ⟨k, there | ⟨_, rfl⟩, provided⟩
        · exact ⟨k, there, provided⟩
        · exact absurd provided bound
  count := by
    have absent : ∀ code ∈ m.opcodes, r.index[code]? = none := fun code listed =>
      h.absent_of_install installed (by rw [Module.contains_eq]; exact Module.mem_opcodes.mp listed)
    obtain ⟨_, _, rfl⟩ := install_eq_ok.mp installed
    rw [size_foldl_insert _ _ _ m.opcodes_ascending.nodup absent, h.count, Module.length_opcodes]
    simp

theorem attempt (h : r.Consistent) (m : Module σ) : (r.attempt m).Consistent := by
  cases result : (r.install m).run.value with
  | ok s => rw [attempt_of_install result]; exact h.of_install result
  | error fault => rw [attempt_of_refusal result]; exact h

/-- Whatever is installed or refused, a registry stays consistent. -/
theorem attemptAll (h : r.Consistent) (modules : List (Module σ)) :
    (r.attemptAll modules).Consistent := by
  induction modules generalizing r with
  | nil => exact h
  | cons m modules ih => exact ih (h.attempt m)

end Consistent

/-- Only the positions of distinct opcodes count, and there are no more than sixteen bits give. -/
theorem opcodeCount_le (r : Registry σ) : r.opcodeCount ≤ 2 ^ 16 := by
  have distinct : (r.index.keys.map fun opcode => opcode.code.toNat).Nodup := by
    apply Std.ExtTreeMap.nodup_keys.map
    intro a b same
    exact congrArg Opcode.mk (UInt16.toNat_inj.mp same)
  have inside : (r.index.keys.map fun opcode => opcode.code.toNat) ⊆ List.range (2 ^ 16) := by
    intro code there
    obtain ⟨opcode, _, rfl⟩ := List.mem_map.mp there
    exact List.mem_range.mpr opcode.code.toNat_lt
  have bound := (distinct.subperm inside).length_le
  rwa [List.length_map, List.length_range, Std.ExtTreeMap.length_keys] at bound

/-- After any installations, refused ones among them, the index leads to the one module that binds an
opcode, as a scan of all modules does. -/
theorem index_exact_of_attemptAll (modules : List (Module σ)) :
    let r := (empty : Registry σ).attemptAll modules
    (r.modules.toList.map Module.name).Nodup ∧
    (∀ opcode p q (hp : p < r.modules.size) (hq : q < r.modules.size),
      r.modules[p].contains opcode → r.modules[q].contains opcode → p = q) ∧
    (∀ opcode p,
      r.index[opcode]? = some p ↔ ∃ hp : p < r.modules.size, r.modules[p].contains opcode) ∧
    (∀ opcode,
      (∀ p, r.index[opcode]? = some p → ∃ hp : p < r.modules.size,
        r.moduleFor? opcode = some r.modules[p] ∧
        ∀ q (hq : q < r.modules.size), q ≠ p → r.modules[q].find? opcode = none) ∧
      (∀ m, r.moduleFor? opcode = some m → (m.find? opcode).isSome) ∧
      r.find? opcode = r.modules.toList.findSome? fun m => m.find? opcode) ∧
    r.opcodeCount = (r.modules.toList.map Module.size).sum ∧ r.opcodeCount ≤ 65536 := by
  intro r
  have h : r.Consistent := consistent_empty.attemptAll modules
  have apart : ∀ opcode p q (hp : p < r.modules.size) (hq : q < r.modules.size),
      r.modules[p].contains opcode → r.modules[q].contains opcode → p = q :=
    fun opcode p q hp hq => h.position_unique (Array.getElem?_eq_getElem hp)
      (Array.getElem?_eq_getElem hq)
  have exact : ∀ opcode p,
      r.index[opcode]? = some p ↔ ∃ hp : p < r.modules.size, r.modules[p].contains opcode := by
    intro opcode p
    rw [h.index]
    constructor
    · rintro ⟨m, there, bound⟩
      obtain ⟨hp, rfl⟩ := Array.getElem?_eq_some_iff.mp there
      exact ⟨hp, bound⟩
    · rintro ⟨hp, bound⟩
      exact ⟨_, Array.getElem?_eq_getElem hp, bound⟩
  refine ⟨h.names, apart, exact, fun opcode => ⟨?_, ?_, h.find?_eq_scan⟩, h.count,
    r.opcodeCount_le⟩
  · intro p indexed
    obtain ⟨hp, bound⟩ := (exact opcode p).mp indexed
    refine ⟨hp, by simp [moduleFor?, indexed, hp], fun q hq other => ?_⟩
    by_contra answers
    have provided : r.modules[q].contains opcode := by
      rw [Module.contains_eq]
      exact Option.isSome_iff_ne_none.mpr answers
    exact other (apart opcode q p hq hp provided bound)
  · intro m found
    rw [← Module.contains_eq]
    exact (h.moduleFor?_eq_some.mp found).2

end OpcodeBinding.Registry
