import Mathlib.Data.List.Nodup
import OpcodeBinding.Proofs.Scripts
import OpcodeBinding.Publication

/-! The history of a publication under any interleaving of its readers and writers. Editions with equal
contents are told apart by their numbers, so that none can get lost or come back unnoticed. -/
namespace OpcodeBinding

variable {σ : Type}

def Move.script (interpreter : Nat) (moves : List (Move σ)) : List Instruction :=
  moves.filterMap fun move =>
    match move with
    | .execute other _ instruction => if other = interpreter then some instruction else none
    | _ => none

@[simp] theorem Move.script_append (interpreter : Nat) (moves more : List (Move σ)) :
    script interpreter (moves ++ more) = script interpreter moves ++ script interpreter more :=
  List.filterMap_append

namespace Sight

def made (seen : List (Sight σ)) : List (Edition σ) :=
  seen.filterMap fun sight =>
    match sight with
    | .prepared edition => some edition
    | _ => none

def published (seen : List (Sight σ)) : List (Edition σ) :=
  seen.filterMap fun sight =>
    match sight with
    | .swapped next _ => some next
    | _ => none

/-- The editions that were current at some time, in order. -/
def editions (first : Registry σ) (seen : List (Sight σ)) : List (Edition σ) :=
  ⟨0, first⟩ :: published seen

def replaced (seen : List (Sight σ)) : List (Edition σ) :=
  seen.filterMap fun sight =>
    match sight with
    | .swapped _ previous => some previous
    | _ => none

def handed (seen : List (Sight σ)) : List (Edition σ) :=
  seen.filterMap fun sight =>
    match sight with
    | .taken edition => some edition
    | .swapped _ previous => some previous
    | _ => none

def replies (interpreter : Nat) (seen : List (Sight σ)) : List (Reply σ) :=
  seen.filterMap fun sight =>
    match sight with
    | .reply other given => if other = interpreter then some given else none
    | _ => none

section Append

variable (seen more : List (Sight σ))

@[simp] theorem made_append : made (seen ++ more) = made seen ++ made more :=
  List.filterMap_append

@[simp] theorem published_append : published (seen ++ more) = published seen ++ published more :=
  List.filterMap_append

@[simp] theorem editions_append (first : Registry σ) :
    editions first (seen ++ more) = editions first seen ++ published more := by
  rw [editions, published_append, editions, List.cons_append]

@[simp] theorem replaced_append : replaced (seen ++ more) = replaced seen ++ replaced more :=
  List.filterMap_append

@[simp] theorem handed_append : handed (seen ++ more) = handed seen ++ handed more :=
  List.filterMap_append

@[simp] theorem replies_append (interpreter : Nat) :
    replies interpreter (seen ++ more) = replies interpreter seen ++ replies interpreter more :=
  List.filterMap_append

/-- What was published by a time stays where it is in the history. -/
theorem editions_getElem? {first : Registry σ} {i k : Nat} {edition : Edition σ}
    (there : (editions first (seen.take i))[k]? = some edition) :
    (editions first seen)[k]? = some edition := by
  obtain ⟨inside, -⟩ := List.getElem?_eq_some_iff.mp there
  rw [← List.take_append_drop i seen, editions_append, List.getElem?_append_left inside, there]

end Append

end Sight

namespace Circulation

section Serve

variable (c : Circulation σ)

theorem after_append (moves more : List (Move σ)) :
    c.after (moves ++ more) = (c.after moves).after more :=
  List.foldl_append

/-- Each move is made on what all those before it left. -/
theorem getElem?_serveAll (moves : List (Move σ)) (i : Nat) :
    (c.serveAll moves)[i]? = moves[i]?.map fun move => ((c.after (moves.take i)).serve move).1 := by
  induction moves generalizing c i with
  | nil => rfl
  | cons move moves ih =>
    cases i with
    | zero => rfl
    | succ i => simpa [serveAll, after] using ih (c.serve move).2 i

theorem take_serveAll (moves : List (Move σ)) (i : Nat) :
    (c.serveAll moves).take i = c.serveAll (moves.take i) := by
  induction moves generalizing c i with
  | nil => simp [serveAll]
  | cons move moves ih =>
    cases i with
    | zero => rfl
    | succ i => simp [serveAll, ih]

theorem drop_serveAll (moves : List (Move σ)) (i : Nat) :
    (c.serveAll moves).drop i = (c.after (moves.take i)).serveAll (moves.drop i) := by
  induction moves generalizing c i with
  | nil => simp [serveAll]
  | cons move moves ih =>
    cases i with
    | zero => rfl
    | succ i => simpa [serveAll, after] using ih (c.serve move).2 i

end Serve

/-- How the state of a circulation follows from what was seen since its start. -/
structure Follows (c : Circulation σ) (first : Registry σ) (seen : List (Sight σ)) : Prop where
  chain : Sight.replaced seen ++ [c.publication.current] = Sight.editions first seen
  snapshots : c.snapshots = Sight.handed seen
  /-- The number of the first edition is not given again. -/
  positive : 0 < c.made
  numbers : ∀ edition ∈ Sight.made seen, 0 < edition.number ∧ edition.number < c.made
  distinct : ((Sight.made seen).map Edition.number).Nodup
  prepared : ∀ number registry, c.prepared[number]? = some registry ↔
    ⟨number, registry⟩ ∈ Sight.made seen ∧ ⟨number, registry⟩ ∉ Sight.published seen
  made : Sight.published seen ⊆ Sight.made seen
  once : (Sight.published seen).Nodup

namespace Follows

variable {c : Circulation σ} {first : Registry σ} {seen : List (Sight σ)}

theorem start (first : Registry σ) (states : Nat → σ) :
    (Circulation.start first states).Follows first [] where
  chain := rfl
  snapshots := rfl
  positive := Nat.zero_lt_one
  numbers := nofun
  distinct := List.nodup_nil
  prepared number registry := by simp [Circulation.start, Sight.made]
  made := List.Subset.refl []
  once := List.nodup_nil

theorem eq_of_number (h : c.Follows first seen) {a b : Edition σ} (ha : a ∈ Sight.made seen)
    (hb : b ∈ Sight.made seen) (same : a.number = b.number) : a = b :=
  List.inj_on_of_nodup_map h.distinct ha hb same

/-- Sights that tell of no edition change nothing. -/
theorem of_reading (h : c.Follows first seen) {sight : Sight σ} (states : Nat → σ)
    (made : Sight.made [sight] = []) (published : Sight.published [sight] = [])
    (replaced : Sight.replaced [sight] = []) (handed : Sight.handed [sight] = []) :
    Follows { c with states } first (seen ++ [sight]) := by
  constructor <;> simp only [Sight.made_append, Sight.published_append, Sight.editions_append,
    Sight.replaced_append, Sight.handed_append, made, published, replaced, handed, List.append_nil]
  exacts [h.chain, h.snapshots, h.positive, h.numbers, h.distinct, h.prepared, h.made, h.once]

theorem take (h : c.Follows first seen) :
    (c.serve .take).2.Follows first (seen ++ [(c.serve .take).1]) where
  chain := by simpa [Circulation.serve, Sight.replaced, Sight.published] using h.chain
  snapshots := by simp [Circulation.serve, h.snapshots, Sight.handed]
  positive := h.positive
  numbers := by simpa [Circulation.serve, Sight.made] using h.numbers
  distinct := by simpa [Circulation.serve, Sight.made] using h.distinct
  prepared := by simpa [Circulation.serve, Sight.made, Sight.published] using h.prepared
  made := by simpa [Circulation.serve, Sight.made, Sight.published] using h.made
  once := by simpa [Circulation.serve, Sight.published] using h.once

theorem prepare (h : c.Follows first seen) (registry : Registry σ) :
    (c.serve (.prepare registry)).2.Follows first (seen ++ [(c.serve (.prepare registry)).1]) := by
  have made : Sight.made (seen ++ [.prepared ⟨c.made, registry⟩]) =
      Sight.made seen ++ [⟨c.made, registry⟩] := Sight.made_append _ _
  have published : Sight.published (seen ++ [.prepared ⟨c.made, registry⟩]) =
      Sight.published seen := (Sight.published_append _ _).trans (List.append_nil _)
  have new : ∀ edition ∈ Sight.made seen, edition.number ≠ c.made := fun edition there =>
    (h.numbers edition there).2.ne
  refine ⟨?_, ?_, Nat.succ_pos _, ?_, ?_, ?_, ?_, ?_⟩ <;>
    simp only [Circulation.serve, made, published]
  · simpa [Sight.replaced, Sight.published] using h.chain
  · simpa [Sight.handed] using h.snapshots
  · intro edition there
    rcases List.mem_append.mp there with old | last
    · have := h.numbers edition old
      omega
    · obtain rfl := List.mem_singleton.mp last
      exact ⟨h.positive, Nat.lt_succ_self _⟩
  · rw [List.map_append, List.nodup_append]
    refine ⟨h.distinct, List.nodup_singleton _, ?_⟩
    rintro _ old number last rfl
    obtain ⟨edition, there, numbered⟩ := List.mem_map.mp old
    exact new edition there (numbered.trans (List.mem_singleton.mp last))
  · intro number other
    rw [Std.ExtTreeMap.getElem?_insert, List.mem_append, List.mem_singleton, Edition.mk.injEq]
    simp only [Std.LawfulEqCmp.compare_eq_iff_eq]
    by_cases same : c.made = number
    · subst same
      have unmade : ⟨c.made, other⟩ ∉ Sight.made seen := fun there => new _ there rfl
      have unseen : ⟨c.made, other⟩ ∉ Sight.published seen := fun there => unmade (h.made there)
      simp [unmade, unseen, eq_comm]
    · simp [same, Ne.symm same, h.prepared]
  · exact fun edition there => List.mem_append_left _ (h.made there)
  · exact h.once

/-- An edition that is swapped in is no longer prepared, and none but it gets its number. -/
theorem swap (h : c.Follows first seen) {number : Nat} {registry : Registry σ}
    (ready : c.prepared[number]? = some registry) :
    Follows
      { c with
        publication := { current := ⟨number, registry⟩ }
        prepared := c.prepared.erase number
        snapshots := c.snapshots ++ [c.publication.current] }
      first (seen ++ [.swapped ⟨number, registry⟩ c.publication.current]) := by
  obtain ⟨there, unpublished⟩ := (h.prepared number registry).mp ready
  have made : Sight.made (seen ++ [.swapped ⟨number, registry⟩ c.publication.current]) =
      Sight.made seen := (Sight.made_append _ _).trans (List.append_nil _)
  have published : Sight.published (seen ++ [.swapped ⟨number, registry⟩ c.publication.current]) =
      Sight.published seen ++ [⟨number, registry⟩] := Sight.published_append _ _
  refine ⟨?_, ?_, h.positive, ?_, ?_, ?_, ?_, ?_⟩ <;> simp only [made, published]
  · rw [Sight.editions_append, ← h.chain, Sight.replaced_append]
    rfl
  · rw [h.snapshots, Sight.handed_append]
    rfl
  · exact h.numbers
  · exact h.distinct
  · intro other contents
    rw [Std.ExtTreeMap.getElem?_erase, List.mem_append, List.mem_singleton]
    simp only [Std.LawfulEqCmp.compare_eq_iff_eq]
    by_cases same : number = other
    · subst same
      simp only [ite_true, reduceCtorEq, false_iff, not_and, not_not]
      intro made
      exact .inr (h.eq_of_number made there rfl)
    · simp [same, Ne.symm same, h.prepared]
  · intro edition published
    rcases List.mem_append.mp published with old | last
    · exact h.made old
    · exact List.mem_singleton.mp last ▸ there
  · exact h.once.append (List.nodup_singleton _) (List.disjoint_singleton.mpr unpublished)

/-- Whatever the move, the state keeps following from what was seen. -/
theorem serve (h : c.Follows first seen) (move : Move σ) :
    (c.serve move).2.Follows first (seen ++ [(c.serve move).1]) := by
  cases move with
  | take => exact h.take
  | prepare registry => exact h.prepare registry
  | swap number =>
    rw [Circulation.serve]
    split
    · exact h.of_reading c.states rfl rfl rfl rfl
    · next ready => exact h.swap ready
  | ask snapshot question =>
    rw [Circulation.serve]
    split <;> exact h.of_reading c.states rfl rfl rfl rfl
  | execute interpreter snapshot instruction =>
    rw [Circulation.serve]
    split
    · exact h.of_reading c.states rfl rfl rfl rfl
    · exact h.of_reading _ rfl rfl rfl rfl

/-- After any moves the state follows from what was seen in them. -/
theorem serveAll (h : c.Follows first seen) (moves : List (Move σ)) :
    (c.after moves).Follows first (seen ++ c.serveAll moves) := by
  induction moves generalizing c seen with
  | nil => rwa [Circulation.serveAll, List.append_nil]
  | cons move moves ih =>
    rw [Circulation.serveAll, List.append_cons]
    exact ih (h.serve move)

/-- The current edition is the one that was swapped in last. -/
theorem current (h : c.Follows first seen) :
    (Sight.editions first seen)[(Sight.published seen).length]? = some c.publication.current := by
  have lengths := congrArg List.length h.chain
  rw [List.length_append, List.length_singleton, Sight.editions, List.length_cons] at lengths
  rw [← h.chain, List.getElem?_append_right (by omega)]
  simp [show (Sight.replaced seen).length = (Sight.published seen).length by omega]

/-- No two editions share a number, even if their registries are equal. -/
theorem nodup_numbers (h : c.Follows first seen) :
    ((Sight.editions first seen).map Edition.number).Nodup := by
  rw [Sight.editions, List.map_cons, List.nodup_cons]
  constructor
  · intro zero
    obtain ⟨edition, there, numbered⟩ := List.mem_map.mp zero
    exact absurd numbered (h.numbers edition (h.made there)).1.ne'
  · exact h.once.map_on fun a ha b hb => h.eq_of_number (h.made ha) (h.made hb)

end Follows

section Execute

variable {c : Circulation σ} {snapshot : Nat} {edition : Edition σ}

/-- A snapshot is kept through all moves. -/
theorem snapshot_serve (held : c.snapshots[snapshot]? = some edition) (move : Move σ) :
    (c.serve move).2.snapshots[snapshot]? = some edition := by
  obtain ⟨inside, -⟩ := List.getElem?_eq_some_iff.mp held
  have grown : ∀ more, (c.snapshots ++ more)[snapshot]? = some edition := fun more =>
    (List.getElem?_append_left inside).trans held
  cases move with
  | take => exact grown _
  | prepare registry => exact held
  | swap number =>
    rw [serve]
    split
    · exact held
    · exact grown _
  | ask snapshot question =>
    rw [serve]
    split <;> exact held
  | execute interpreter snapshot instruction =>
    rw [serve]
    split <;> exact held

/-- A snapshot stays the same edition, whatever moves follow. -/
theorem snapshot_after (held : c.snapshots[snapshot]? = some edition) (moves : List (Move σ)) :
    (c.after moves).snapshots[snapshot]? = some edition := by
  induction moves generalizing c with
  | nil => exact held
  | cons move moves ih => exact ih (snapshot_serve held move)

/-- One move as an interpreter notices it: its own is one instruction, any other is none. -/
theorem replies_serve (held : c.snapshots[snapshot]? = some edition) {interpreter : Nat}
    {move : Move σ}
    (loyal : ∀ other instruction, move = .execute interpreter other instruction → other = snapshot) :
    Sight.replies interpreter [(c.serve move).1] =
        edition.registry.run (Move.script interpreter [move]) (c.states interpreter) ∧
      (c.serve move).2.states interpreter =
        edition.registry.finalState (Move.script interpreter [move]) (c.states interpreter) := by
  cases move with
  | take => exact ⟨rfl, rfl⟩
  | prepare registry => exact ⟨rfl, rfl⟩
  | swap number =>
    rw [serve]
    split <;> exact ⟨rfl, rfl⟩
  | ask other question =>
    rw [serve]
    split <;> exact ⟨rfl, rfl⟩
  | execute actor other instruction =>
    by_cases own : actor = interpreter
    · subst own
      obtain rfl := loyal other instruction rfl
      simp [serve, held, Sight.replies, Move.script, Registry.run, Registry.finalState]
    · rw [serve]
      split <;> simp [Sight.replies, Move.script, own, Ne.symm own, Registry.run,
        Registry.finalState]

/-- An interpreter that keeps to one snapshot runs its script as if it were alone. -/
theorem replies_serveAll (held : c.snapshots[snapshot]? = some edition) {interpreter : Nat}
    {moves : List (Move σ)}
    (loyal : ∀ other instruction, .execute interpreter other instruction ∈ moves →
      other = snapshot) :
    Sight.replies interpreter (c.serveAll moves) =
        edition.registry.run (Move.script interpreter moves) (c.states interpreter) ∧
      (c.after moves).states interpreter =
        edition.registry.finalState (Move.script interpreter moves) (c.states interpreter) := by
  induction moves generalizing c with
  | nil => exact ⟨rfl, rfl⟩
  | cons move moves ih =>
    obtain ⟨reply, left⟩ := replies_serve held fun other instruction own =>
      loyal other instruction (own ▸ List.mem_cons_self)
    obtain ⟨replies, final⟩ := ih (snapshot_serve held move) fun other instruction there =>
      loyal other instruction (List.mem_cons_of_mem _ there)
    rw [left] at replies final
    rw [serveAll, ← List.singleton_append (x := move), ← List.singleton_append (x := Prod.fst _),
      Move.script_append, Sight.replies_append, Registry.run_append, Registry.finalState_append,
      reply, replies]
    exact ⟨rfl, final⟩

end Execute

/-- Only the current edition is handed out, whether it stays current or not. -/
theorem current_of_handed {c : Circulation σ} {move : Move σ} {edition : Edition σ}
    (handed : edition ∈ Sight.handed [(c.serve move).1]) : edition = c.publication.current := by
  cases move with
  | take => simpa [serve, Sight.handed] using handed
  | prepare registry => nomatch handed
  | swap number =>
    rw [serve] at handed
    split at handed
    · nomatch handed
    · simpa [Publication.replace, Sight.handed] using handed
  | ask snapshot question =>
    rw [serve] at handed
    split at handed <;> nomatch handed
  | execute interpreter snapshot instruction =>
    rw [serve] at handed
    split at handed <;> nomatch handed

section History

variable {first : Registry σ} {states : Nat → σ} {moves : List (Move σ)} {i : Nat}

theorem follows_take (first : Registry σ) (states : Nat → σ) (moves : List (Move σ)) (i : Nat) :
    ((start first states).after (moves.take i)).Follows first
      (((start first states).serveAll moves).take i) := by
  rw [take_serveAll]
  exact (Follows.start first states).serveAll (moves.take i)

/-- What is handed out is what was published most recently. -/
theorem edition_of_handed {sight : Sight σ} {edition : Edition σ}
    (at_i : ((start first states).serveAll moves)[i]? = some sight)
    (handed : edition ∈ Sight.handed [sight]) :
    let seen := (start first states).serveAll moves
    (Sight.editions first seen)[(Sight.published (seen.take i)).length]? = some edition := by
  rw [getElem?_serveAll, Option.map_eq_some_iff] at at_i
  obtain ⟨move, -, rfl⟩ := at_i
  rw [current_of_handed handed]
  exact Sight.editions_getElem? _ (follows_take first states moves i).current

/-- What is swapped in comes right after what it replaces. -/
theorem edition_of_swapped {next previous : Edition σ}
    (at_i : ((start first states).serveAll moves)[i]? = some (.swapped next previous)) :
    let seen := (start first states).serveAll moves
    (Sight.editions first seen)[(Sight.published (seen.take i)).length + 1]? = some next := by
  refine Sight.editions_getElem? (i := i + 1) _ ?_
  rw [List.take_add_one, at_i, Sight.editions_append]
  exact List.getElem?_concat_length

/-- A writer can swap in each edition that it made, and only once. -/
theorem swapped_iff_unpublished {number : Nat} (registry : Registry σ)
    (swap : moves[i]? = some (.swap number)) :
    let seen := (start first states).serveAll moves
    (⟨number, registry⟩ ∈ Sight.made (seen.take i) ∧
        ⟨number, registry⟩ ∉ Sight.published (seen.take i)) ↔
      ∃ previous, seen[i]? = some (.swapped ⟨number, registry⟩ previous) := by
  intro seen
  rw [← (follows_take first states moves i).prepared, getElem?_serveAll, swap, Option.map_some,
    serve]
  split
  · next unready => simp [unready]
  · next other ready => simp [ready, Publication.replace]

/-- A snapshot answers every question at every time. -/
theorem fact_of_handed {k j : Nat} {edition : Edition σ} {question : Question}
    (handed : (Sight.handed (((start first states).serveAll moves).take i))[k]? = some edition)
    (later : i ≤ j) (ask : moves[j]? = some (.ask k question)) :
    ((start first states).serveAll moves)[j]? = some (.fact (edition.registry.answer question)) := by
  rw [← (follows_take first states moves i).snapshots] at handed
  obtain ⟨between, rfl⟩ := Nat.exists_eq_add_of_le later
  have held := snapshot_after handed ((moves.drop i).take between)
  rw [← after_append, ← List.take_add] at held
  simp [getElem?_serveAll, ask, serve, held]

/-- The history of a publication and of everything that was handed out in it. -/
theorem publication_history (first : Registry σ) (states : Nat → σ) (moves : List (Move σ)) :
    let c := start first states
    let seen := c.serveAll moves
    let editions := Sight.editions first seen
    let count (i : Nat) := (Sight.published (seen.take i)).length
    -- Nothing is lost, and nothing given back twice.
    (Sight.replaced seen ++ [(c.after moves).publication.current] = editions ∧
      (editions.map Edition.number).Nodup) ∧
    -- Writers get done what they attempt, each swap giving back what it replaces.
    (∀ (i : Nat) registry, moves[i]? = some (.prepare registry) →
      ∃ number, seen[i]? = some (.prepared ⟨number, registry⟩)) ∧
    (∀ (i : Nat) number registry, moves[i]? = some (.swap number) →
      (⟨number, registry⟩ ∈ Sight.made (seen.take i) ∧
          ⟨number, registry⟩ ∉ Sight.published (seen.take i) ↔
        ∃ previous, seen[i]? = some (.swapped ⟨number, registry⟩ previous))) ∧
    (∀ (i : Nat) next previous, seen[i]? = some (.swapped next previous) →
      editions[count i]? = some previous ∧ editions[count i + 1]? = some next) ∧
    -- Readers take what was published most recently, and so never go back.
    (∀ (i : Nat), moves[i]? = some .take →
      ∃ edition, seen[i]? = some (.taken edition) ∧ editions[count i]? = some edition) ∧
    (∀ (i j : Nat) earlier later, i ≤ j → seen[i]? = some (.taken earlier) →
      seen[j]? = some (.taken later) →
      ∃ k l : Nat, k ≤ l ∧ editions[k]? = some earlier ∧ editions[l]? = some later) ∧
    -- What was handed out answers alike ever after, to questions and to scripts.
    (∀ (i snapshot : Nat) edition, (Sight.handed (seen.take i))[snapshot]? = some edition →
      (∀ (j : Nat) question, i ≤ j → moves[j]? = some (.ask snapshot question) →
        seen[j]? = some (.fact (edition.registry.answer question))) ∧
      ∀ interpreter,
        (∀ other instruction, .execute interpreter other instruction ∈ moves.drop i →
          other = snapshot) →
        let script := Move.script interpreter (moves.drop i)
        let state := (c.after (moves.take i)).states interpreter
        Sight.replies interpreter (seen.drop i) = edition.registry.run script state ∧
          (c.after moves).states interpreter = edition.registry.finalState script state) := by
  intro c seen editions count
  have whole := (Follows.start first states).serveAll moves
  rw [List.nil_append] at whole
  refine ⟨⟨whole.chain, whole.nodup_numbers⟩, ?made, fun i number registry swap =>
    swapped_iff_unpublished registry swap, ?swapped, ?taken, ?forward, ?kept⟩
  case made =>
    intro i registry prepare
    exact ⟨_, by rw [getElem?_serveAll, prepare]; rfl⟩
  case swapped =>
    intro i next previous swapped
    exact ⟨edition_of_handed swapped List.mem_cons_self, edition_of_swapped swapped⟩
  case taken =>
    intro i take
    have taken : seen[i]? = some (.taken (c.after (moves.take i)).publication.current) := by
      rw [getElem?_serveAll, take]
      rfl
    exact ⟨_, taken, edition_of_handed taken List.mem_cons_self⟩
  case forward =>
    intro i j earlier later ordered at_i at_j
    refine ⟨_, _, ?_, edition_of_handed at_i List.mem_cons_self,
      edition_of_handed at_j List.mem_cons_self⟩
    exact ((List.take_sublist_take_left ordered).filterMap _).length_le
  case kept =>
    intro i snapshot edition handed
    refine ⟨fun j question later ask => fact_of_handed handed later ask, fun interpreter loyal => ?_⟩
    rw [← (follows_take first states moves i).snapshots] at handed
    have alone := replies_serveAll handed loyal
    rwa [← drop_serveAll, ← after_append, List.take_append_drop] at alone

end History

end Circulation

end OpcodeBinding
