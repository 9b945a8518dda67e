import OpcodeBinding.Module

/-! Modules through the reading `find?`: what a binding changes, and what the listings hold. -/
namespace OpcodeBinding.Module

variable {σ : Type}

@[simp] theorem find?_empty (name : String) (opcode : Opcode) :
    (empty name : Module σ).find? opcode = none := by
  simp [empty, find?]

@[simp] theorem size_empty (name : String) : (empty name : Module σ).size = 0 := by
  simp [empty, size]

theorem contains_eq (m : Module σ) (opcode : Opcode) :
    m.contains opcode = (m.find? opcode).isSome := by
  simp [contains, find?]

theorem isEmpty_eq (m : Module σ) : m.isEmpty = (m.size == 0) := rfl

theorem tryBind_of_unbound {m : Module σ} {opcode : Opcode} (free : m.find? opcode = none)
    (binding : Binding σ) :
    m.tryBind opcode binding =
      ⟨(.ok (), { name := m.name, table := m.table.insert opcode binding }),
        [.bound m.name opcode binding.argumentCount binding.shape]⟩ := by
  simp [tryBind, contains_eq, free]

theorem tryBind_of_bound {m : Module σ} {opcode : Opcode} (taken : (m.find? opcode).isSome)
    (binding : Binding σ) :
    m.tryBind opcode binding =
      ⟨(.error (.boundTwice m.name opcode), m), [.boundTwice m.name opcode]⟩ := by
  simp [tryBind, contains_eq, taken]

/-- An opcode can be bound exactly when it is not bound yet. What was kept of a listing is dropped. -/
theorem bind_eq_ok {m k : Module σ} {opcode : Opcode} {binding : Binding σ} :
    (m.bind opcode binding).run.value = .ok k ↔
      m.find? opcode = none ∧ k = { name := m.name, table := m.table.insert opcode binding } := by
  rw [bind]
  cases h : m.find? opcode with
  | none =>
    simp [tryBind_of_unbound h, Build.ofAttempt, Except.map, ExceptT.run, ExceptT.mk, eq_comm]
  | some other =>
    simp [tryBind_of_bound (Option.isSome_of_eq_some h), Build.ofAttempt, Except.map, ExceptT.run,
      ExceptT.mk]

/-- An opcode that is not bound yet can always be bound. -/
theorem exists_bind {m : Module σ} {opcode : Opcode} (free : m.find? opcode = none)
    (binding : Binding σ) : ∃ k, (m.bind opcode binding).run.value = .ok k :=
  ⟨_, bind_eq_ok.mpr ⟨free, rfl⟩⟩

theorem find?_insert (m : Module σ) (opcode other : Opcode) (binding : Binding σ) :
    find? { name := m.name, table := m.table.insert opcode binding } other =
      if other = opcode then some binding else m.find? other := by
  rw [find?, find?, Std.HashMap.getElem?_insert]
  by_cases same : other = opcode
  · simp [same]
  · simp [same, Ne.symm same]

/-- A binding is found under its own opcode, and all others are found as before. -/
theorem find?_of_bind {m k : Module σ} {opcode : Opcode} {binding : Binding σ}
    (h : (m.bind opcode binding).run.value = .ok k) (other : Opcode) :
    k.find? other = if other = opcode then some binding else m.find? other := by
  obtain ⟨_, rfl⟩ := bind_eq_ok.mp h
  exact m.find?_insert opcode other binding

theorem name_of_bind {m k : Module σ} {opcode : Opcode} {binding : Binding σ}
    (h : (m.bind opcode binding).run.value = .ok k) : k.name = m.name := by
  obtain ⟨_, rfl⟩ := bind_eq_ok.mp h
  rfl

/-! Room for more bindings and listings leave every reading as it is. -/

@[simp] theorem find?_reserve (m : Module σ) (additional : Nat) (opcode : Opcode) :
    (m.reserve additional).find? opcode = m.find? opcode :=
  (moved_equiv _ _).getElem?_eq

@[simp] theorem name_listed (m : Module σ) : m.listed.name = m.name := rfl

@[simp] theorem find?_listed (m : Module σ) (opcode : Opcode) :
    m.listed.find? opcode = m.find? opcode := rfl

@[simp] theorem size_listed (m : Module σ) : m.listed.size = m.size := rfl

theorem mem_opcodes {m : Module σ} {opcode : Opcode} :
    opcode ∈ m.opcodes ↔ (m.find? opcode).isSome := by
  simp [opcodes_eq_sort, find?]

theorem mem_entries {m : Module σ} {opcode : Opcode} {binding : Binding σ} :
    (opcode, binding) ∈ m.entries ↔ m.find? opcode = some binding := by
  simp only [entries, List.mem_filterMap, Option.map_eq_some_iff, Prod.mk.injEq]
  constructor
  · rintro ⟨_, _, _, found, rfl, rfl⟩
    exact found
  · intro found
    exact ⟨opcode, by simp [mem_opcodes, found], binding, found, rfl, rfl⟩

/-- Kept or sorted anew, a listing ascends. -/
theorem opcodes_ascending (m : Module σ) : Opcode.Ascending m.opcodes := by
  rw [opcodes_eq_sort]
  exact Opcode.ascending_sort Std.HashMap.nodup_keys

private theorem map_fst_found (m : Module σ) (codes : List Opcode)
    (bound : ∀ opcode ∈ codes, (m.find? opcode).isSome) :
    (codes.filterMap fun opcode => (m.find? opcode).map fun binding => (opcode, binding)).map
      Prod.fst = codes := by
  induction codes with
  | nil => rfl
  | cons opcode codes ih =>
    rw [List.forall_mem_cons] at bound
    obtain ⟨binding, h⟩ := Option.isSome_iff_exists.mp bound.1
    simp [h, ih bound.2]

/-- No opcode gets lost between a listing and the table. -/
theorem map_fst_entries (m : Module σ) : m.entries.map Prod.fst = m.opcodes :=
  m.map_fst_found m.opcodes fun _ listed => mem_opcodes.mp listed

theorem map_opcode_descriptors (m : Module σ) :
    m.descriptors.map Descriptor.opcode = m.opcodes := by
  rw [descriptors, List.map_map, ← map_fst_entries]
  rfl

/-- A listing has one line for each binding. -/
theorem mem_descriptors {m : Module σ} {d : Descriptor} :
    d ∈ m.descriptors ↔
      ∃ binding, m.find? d.opcode = some binding ∧ d = binding.describe d.opcode := by
  rw [descriptors, List.mem_map]
  constructor
  · rintro ⟨⟨opcode, binding⟩, listed, rfl⟩
    exact ⟨binding, mem_entries.mp listed, rfl⟩
  · rintro ⟨binding, found, described⟩
    exact ⟨(d.opcode, binding), mem_entries.mpr found, described.symm⟩

theorem length_opcodes (m : Module σ) : m.opcodes.length = m.size := by
  rw [opcodes_eq_sort, (Opcode.sort_perm _).length_eq, Std.HashMap.length_keys, size]

@[simp] theorem opcodes_empty (name : String) : (empty name : Module σ).opcodes = [] := by
  rw [← List.length_eq_zero_iff, length_opcodes, size_empty]

@[simp] theorem entries_empty (name : String) : (empty name : Module σ).entries = [] := by
  rw [entries, opcodes_empty, List.filterMap_nil]

theorem nodup_entries (m : Module σ) : m.entries.Nodup := by
  have distinct : (m.entries.map Prod.fst).Nodup := by
    rw [map_fst_entries]
    exact m.opcodes_ascending.nodup
  apply List.Pairwise.of_map Prod.fst _ distinct
  intro a b ne same
  exact ne (congrArg Prod.fst same)

theorem length_entries (m : Module σ) : m.entries.length = m.size := by
  rw [← length_opcodes, ← map_fst_entries, List.length_map]

/-- A binding is one more line of the listing. -/
theorem entries_of_bind {m k : Module σ} {opcode : Opcode} {binding : Binding σ}
    (h : (m.bind opcode binding).run.value = .ok k) :
    k.entries.Perm ((opcode, binding) :: m.entries) := by
  obtain ⟨free, _⟩ := bind_eq_ok.mp h
  have new : (opcode, binding) ∉ m.entries := by
    simp [mem_entries, free]
  rw [List.perm_ext_iff_of_nodup k.nodup_entries (List.nodup_cons.mpr ⟨new, m.nodup_entries⟩)]
  rintro ⟨other, found⟩
  rw [mem_entries, find?_of_bind h, List.mem_cons, mem_entries]
  by_cases same : other = opcode
  · subst same
    simp [free, eq_comm]
  · simp [same]

theorem opcodes_of_bind {m k : Module σ} {opcode : Opcode} {binding : Binding σ}
    (h : (m.bind opcode binding).run.value = .ok k) : k.opcodes.Perm (opcode :: m.opcodes) := by
  rw [← map_fst_entries, ← map_fst_entries]
  exact (entries_of_bind h).map Prod.fst

/-! Bindings in a row. -/

theorem bindAll_cons_eq_ok {m k : Module σ} {entry : Opcode × Binding σ}
    {bindings : List (Opcode × Binding σ)} :
    (m.bindAll (entry :: bindings)).run.value = .ok k ↔
      ∃ n, (m.bind entry.1 entry.2).run.value = .ok n ∧ (n.bindAll bindings).run.value = .ok k := by
  rw [bindAll, List.foldlM_cons]
  exact Build.bind_eq_ok

theorem name_of_bindAll {m k : Module σ} {bindings : List (Opcode × Binding σ)}
    (h : (m.bindAll bindings).run.value = .ok k) : k.name = m.name := by
  induction bindings generalizing m with
  | nil => rw [Build.pure_eq_ok.mp h]
  | cons entry bindings ih =>
    obtain ⟨n, bound, rest⟩ := bindAll_cons_eq_ok.mp h
    rw [ih rest, name_of_bind bound]

/-- When all bindings succeed, the entries are those before and the new ones. -/
theorem entries_of_bindAll {m k : Module σ} {bindings : List (Opcode × Binding σ)}
    (h : (m.bindAll bindings).run.value = .ok k) : k.entries.Perm (bindings ++ m.entries) := by
  induction bindings generalizing m with
  | nil => rw [Build.pure_eq_ok.mp h, List.nil_append]
  | cons entry bindings ih =>
    obtain ⟨n, bound, rest⟩ := bindAll_cons_eq_ok.mp h
    have moved := (entries_of_bind bound).append_left bindings
    exact ((ih rest).trans moved).trans List.perm_middle

theorem opcodes_of_bindAll {m k : Module σ} {bindings : List (Opcode × Binding σ)}
    (h : (m.bindAll bindings).run.value = .ok k) :
    k.opcodes.Perm (bindings.map Prod.fst ++ m.opcodes) := by
  rw [← map_fst_entries, ← map_fst_entries, ← List.map_append]
  exact (entries_of_bindAll h).map Prod.fst

/-- No binding is refused exactly when all opcodes, new and old, are distinct. -/
theorem bindAll_isOk_iff {m : Module σ} {bindings : List (Opcode × Binding σ)} :
    (∃ k, (m.bindAll bindings).run.value = .ok k) ↔
      (bindings.map Prod.fst ++ m.opcodes).Nodup := by
  constructor
  · rintro ⟨k, h⟩
    exact (opcodes_of_bindAll h).nodup_iff.mp k.opcodes_ascending.nodup
  · intro distinct
    -- Opcodes that are bound on the way join the old ones, so the module varies in the induction.
    induction bindings generalizing m with
    | nil => exact ⟨m, Build.pure_eq_ok.mpr rfl⟩
    | cons entry bindings ih =>
      have free : m.find? entry.1 = none := by
        rw [List.map_cons, List.cons_append, List.nodup_cons, List.mem_append] at distinct
        apply Option.not_isSome_iff_eq_none.mp
        intro taken
        exact distinct.1 (.inr (mem_opcodes.mpr taken))
      obtain ⟨n, bound⟩ := exists_bind free entry.2
      have moved := (opcodes_of_bind bound).append_left (bindings.map Prod.fst)
      obtain ⟨k, rest⟩ := ih ((moved.trans List.perm_middle).nodup_iff.mpr distinct)
      exact ⟨k, bindAll_cons_eq_ok.mpr ⟨n, bound, rest⟩⟩

section Each

/-- The step of `bindEach`, which collects in reverse. -/
private def eachStep (state : Module σ × List BindFault × List Event)
    (entry : Opcode × Binding σ) : Module σ × List BindFault × List Event :=
  let (m, faults, events) := state
  let ⟨(result, m), new⟩ := m.tryBind entry.1 entry.2
  let events := new.reverse ++ events
  match result with
  | .ok () => (m, faults, events)
  | .error fault => (m, fault :: faults, events)

private theorem bindEach_eq (m : Module σ) (bindings : List (Opcode × Binding σ)) :
    m.bindEach bindings =
      let (k, faults, events) := bindings.foldl eachStep (m, [], [])
      ⟨(k, faults.reverse), events.reverse⟩ := rfl

/-- What was collected before stays below. -/
private theorem foldl_eachStep (m : Module σ) (faults : List BindFault) (events : List Event)
    (bindings : List (Opcode × Binding σ)) :
    bindings.foldl eachStep (m, faults, events) =
      let (k, newFaults, newEvents) := bindings.foldl eachStep (m, [], [])
      (k, newFaults ++ faults, newEvents ++ events) := by
  induction bindings generalizing m faults events with
  | nil => rfl
  | cons entry bindings ih =>
    rw [List.foldl_cons, List.foldl_cons]
    cases h : m.find? entry.1 with
    | none =>
      simp only [eachStep, tryBind_of_unbound h, List.append_nil]
      rw [ih _ faults, ih _ [] (List.reverse _)]
      simp
    | some other =>
      simp only [eachStep, tryBind_of_bound (Option.isSome_of_eq_some h), List.append_nil]
      rw [ih _ (_ :: faults), ih _ [_] (List.reverse _)]
      simp

variable {m : Module σ} {opcode : Opcode}

theorem bindEach_cons_of_ok {k : Module σ} {binding : Binding σ}
    (bound : (m.bind opcode binding).run.value = .ok k) (bindings : List (Opcode × Binding σ)) :
    m.bindEach ((opcode, binding) :: bindings) =
      let others := k.bindEach bindings
      ⟨others.value, .bound m.name opcode binding.argumentCount binding.shape :: others.events⟩ := by
  obtain ⟨free, rfl⟩ := bind_eq_ok.mp bound
  rw [bindEach_eq, bindEach_eq, List.foldl_cons]
  simp only [eachStep, tryBind_of_unbound free]
  rw [foldl_eachStep]
  simp

/-- Where a binding is refused, the others are made all the same. -/
theorem bindEach_cons_of_bound (taken : (m.find? opcode).isSome) (binding : Binding σ)
    (bindings : List (Opcode × Binding σ)) :
    m.bindEach ((opcode, binding) :: bindings) =
      let others := m.bindEach bindings
      ⟨(others.value.1, .boundTwice m.name opcode :: others.value.2),
        .boundTwice m.name opcode :: others.events⟩ := by
  rw [bindEach_eq, bindEach_eq, List.foldl_cons]
  simp only [eachStep, tryBind_of_bound taken]
  rw [foldl_eachStep]
  simp

end Each

/-! Modules with equal readings have equal listings, however their tables came about. -/

/-- Listings depend only on what is found under each opcode. -/
theorem opcodes_congr {m k : Module σ} (h : ∀ opcode, m.find? opcode = k.find? opcode) :
    m.opcodes = k.opcodes :=
  m.opcodes_ascending.eq_of_mem_iff k.opcodes_ascending (by simp [mem_opcodes, h])

theorem entries_congr {m k : Module σ} (h : ∀ opcode, m.find? opcode = k.find? opcode) :
    m.entries = k.entries := by
  rw [entries, entries, opcodes_congr h]
  simp only [h]

@[simp] theorem entries_reserve (m : Module σ) (additional : Nat) :
    (m.reserve additional).entries = m.entries :=
  entries_congr (m.find?_reserve additional)

theorem descriptors_congr {m k : Module σ} (h : ∀ opcode, m.find? opcode = k.find? opcode) :
    m.descriptors = k.descriptors := by
  rw [descriptors, descriptors, entries_congr h]

end OpcodeBinding.Module
