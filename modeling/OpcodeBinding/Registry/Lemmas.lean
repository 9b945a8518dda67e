import OpcodeBinding.Module.Lemmas
import OpcodeBinding.Registry

/-! Registries through the readings `moduleFor?` and `find?`: what an installation changes. -/
namespace OpcodeBinding.Registry

variable {σ : Type}

def hasName (r : Registry σ) (name : String) : Prop := ∃ m ∈ r.modules, m.name = name

theorem any_name_iff (r : Registry σ) (name : String) :
    (r.modules.any fun installed => installed.name == name) = true ↔ r.hasName name := by
  simp only [Array.any_eq_true', beq_iff_eq, hasName]

section Install

variable {r s : Registry σ} {m owner : Module σ} {opcode : Opcode}

theorem tryInstall_of_named (named : r.hasName m.name) :
    r.tryInstall m =
      ⟨(.error (.installedTwice m.name), r), [.installedTwice m.name]⟩ := by
  rw [tryInstall, if_pos ((any_name_iff r m.name).mpr named)]

theorem tryInstall_of_conflict (fresh : ¬ r.hasName m.name)
    (conflict : r.conflict? m = some (opcode, owner)) :
    r.tryInstall m =
      ⟨(.error (.providedTwice opcode owner.name m.name), r),
        [.providedTwice opcode owner.name m.name]⟩ := by
  rw [tryInstall, if_neg (mt (any_name_iff r m.name).mp fresh), conflict]

theorem tryInstall_of_free (fresh : ¬ r.hasName m.name) (free : r.conflict? m = none) :
    r.tryInstall m =
      ⟨(.ok (),
        { modules := r.modules.push m.listed
          index := m.opcodes.foldl (fun index opcode => index.insert opcode r.modules.size)
            r.index }), [.installed m.name m.size]⟩ := by
  rw [tryInstall, if_neg (mt (any_name_iff r m.name).mp fresh), free]

theorem run_install (r : Registry σ) (m : Module σ) :
    (r.install m).run =
      ⟨(r.tryInstall m).value.1.map fun _ => (r.tryInstall m).value.2,
        (r.tryInstall m).events⟩ := rfl

/-- A module is installed exactly when its name is free and no opcode of it is taken. -/
theorem install_eq_ok :
    (r.install m).run.value = .ok s ↔
      ¬ r.hasName m.name ∧ r.conflict? m = none ∧
        s = { modules := r.modules.push m.listed
              index := m.opcodes.foldl (fun index opcode => index.insert opcode r.modules.size)
                r.index } := by
  rw [run_install]
  by_cases named : r.hasName m.name
  · simp [tryInstall_of_named named, Except.map, named]
  cases conflict : r.conflict? m with
  | some found => simp [tryInstall_of_conflict named conflict, Except.map]
  | none => simp [tryInstall_of_free named conflict, Except.map, named, eq_comm]

theorem install_eq_installedTwice (h : r.hasName m.name) :
    (r.install m).run.value = .error (.installedTwice m.name) := by
  rw [run_install, tryInstall_of_named h]
  rfl

theorem install_eq_providedTwice (h : ¬ r.hasName m.name)
    (conflict : r.conflict? m = some (opcode, owner)) :
    (r.install m).run.value = .error (.providedTwice opcode owner.name m.name) := by
  rw [run_install, tryInstall_of_conflict h conflict]
  rfl

/-- Everything that an installation can come to, with what is noted of it. -/
theorem install_cases (r : Registry σ) (m : Module σ) :
    (∃ s, (r.install m).run = ⟨.ok s, [.installed m.name m.size]⟩) ∨
    (r.install m).run = ⟨.error (.installedTwice m.name), [.installedTwice m.name]⟩ ∨
    ∃ opcode owner, (r.install m).run =
      ⟨.error (.providedTwice opcode owner m.name), [.providedTwice opcode owner m.name]⟩ := by
  rw [run_install]
  by_cases named : r.hasName m.name
  · rw [tryInstall_of_named named]
    exact .inr (.inl rfl)
  cases conflict : r.conflict? m with
  | some found =>
    rw [tryInstall_of_conflict named conflict]
    exact .inr (.inr ⟨found.1, found.2.name, rfl⟩)
  | none =>
    rw [tryInstall_of_free named conflict]
    exact .inl ⟨_, rfl⟩

theorem attempt_of_install (h : (r.install m).run.value = .ok s) : r.attempt m = s := by
  obtain ⟨fresh, free, rfl⟩ := install_eq_ok.mp h
  rw [attempt, tryInstall_of_free fresh free]

/-- A refused installation leaves no trace. -/
theorem attempt_of_refusal {fault : BindFault} (h : (r.install m).run.value = .error fault) :
    r.attempt m = r := by
  by_cases named : r.hasName m.name
  · rw [attempt, tryInstall_of_named named]
  cases conflict : r.conflict? m with
  | some found => rw [attempt, tryInstall_of_conflict named conflict]
  | none =>
    rw [install_eq_ok.mpr ⟨named, conflict, rfl⟩] at h
    contradiction

end Install

theorem conflict?_eq_none {r : Registry σ} {m : Module σ} :
    r.conflict? m = none ↔ ∀ opcode, m.contains opcode → r.moduleFor? opcode = none := by
  simp [conflict?, Module.mem_opcodes, Module.contains_eq]

private theorem getElem?_foldl_insert (codes : List Opcode) (index : Std.ExtTreeMap Opcode Nat)
    (position : Nat) (opcode : Opcode) :
    (codes.foldl (fun index code => index.insert code position) index)[opcode]? =
      if opcode ∈ codes then some position else index[opcode]? := by
  induction codes generalizing index with
  | nil => simp
  | cons code codes ih =>
    rw [List.foldl_cons, ih, Std.ExtTreeMap.getElem?_insert]
    simp only [Std.LawfulEqCmp.compare_eq_iff_eq, List.mem_cons]
    grind

/-- A new module's opcodes lead to its position, and all others lead where they led. -/
theorem index_of_install {r s : Registry σ} {m : Module σ}
    (h : (r.install m).run.value = .ok s) (opcode : Opcode) :
    s.index[opcode]? =
      if m.contains opcode then some r.modules.size else r.index[opcode]? := by
  obtain ⟨_, _, rfl⟩ := install_eq_ok.mp h
  rw [getElem?_foldl_insert]
  simp only [Module.mem_opcodes, Module.contains_eq]

theorem modules_of_install {r s : Registry σ} {m : Module σ}
    (h : (r.install m).run.value = .ok s) : s.modules = r.modules.push m.listed := by
  obtain ⟨_, _, rfl⟩ := install_eq_ok.mp h
  rfl

/-- Installed modules keep their positions, and the new one has the next. -/
theorem getElem?_of_install {r s : Registry σ} {m : Module σ}
    (h : (r.install m).run.value = .ok s) (position : Nat) (k : Module σ) :
    s.modules[position]? = some k ↔
      r.modules[position]? = some k ∨ position = r.modules.size ∧ k = m.listed := by
  rw [modules_of_install h, Array.getElem?_push]
  by_cases last : position = r.modules.size
  · simp [last, eq_comm]
  · simp [last]

end OpcodeBinding.Registry
