import OpcodeBinding.Text.Basic

/-! The 16 bit key under which a script names a native function. One canonical spelling is written, and any
hexadecimal or decimal one is read. A list in ascending order is determined by its members. -/
namespace OpcodeBinding

structure Opcode where
  code : UInt16
  deriving DecidableEq, Hashable, Repr, Inhabited

namespace Opcode

instance : Ord Opcode where
  compare a b := compare a.code b.code

instance : Std.TransOrd Opcode where
  eq_swap {a b} := Std.OrientedOrd.eq_swap (a := a.code) (b := b.code)
  isLE_trans {a b c} := Std.TransOrd.isLE_trans (a := a.code) (b := b.code) (c := c.code)

instance : Std.LawfulEqOrd Opcode where
  eq_of_compare h := congrArg Opcode.mk (Std.LawfulEqOrd.eq_of_compare h)

/-- The opcodes `first`, `first + step`, … that do not pass `last`. A step of zero counts as one. -/
def range (first last step : Nat) : List Opcode :=
  let stride := max step 1
  if last < first then []
  else (List.range ((last - first) / stride + 1)).map fun i => ⟨(first + i * stride).toUInt16⟩

end Opcode

/-- Why a text spells no opcode. Either way the text is kept without the blanks at its ends. -/
inductive SpellingFault where
  | malformed (text : String)
  | outOfRange (text : String)
  deriving DecidableEq, Repr

def SpellingFault.message : SpellingFault → String
  | .malformed text => s!"`{text}` is not an opcode"
  | .outOfRange text => s!"`{text}` does not fit in a 16 bit opcode"

namespace Opcode

def spell (o : Opcode) : List Char :=
  let n := o.code.toNat
  '0' :: 'x' :: [n / 4096, n / 256 % 16, n / 16 % 16, n % 16].map Text.digitChar

def display (o : Opcode) : String := String.ofList o.spell

def splitBase : List Char → Nat × List Char
  | '0' :: 'x' :: digits => (16, digits)
  | '0' :: 'X' :: digits => (16, digits)
  | digits => (10, digits)

/-- Adds digits to a number from the left, none as soon as sixteen bits do not hold it. -/
def accumulate? (base : Nat) : UInt16 → List Nat → Option UInt16
  | n, [] => some n
  | n, digit :: digits =>
    let next := n.toNat * base + digit
    if next < UInt16.size then accumulate? base next.toUInt16 digits else none

/-- Reads a spelling between blanks. A text that is no numeral is malformed, whatever its length, and
only a numeral can be out of range. -/
def read (text : String) : Except SpellingFault Opcode :=
  let word := Text.trim text.toList
  let (base, cs) := splitBase word
  match Text.digits? base cs with
  | none => .error (.malformed (String.ofList word))
  | some digits =>
    match accumulate? base 0 digits with
    | none => .error (.outOfRange (String.ofList word))
    | some code => .ok ⟨code⟩

def inspect (o : Opcode) : String := s!"Opcode({o.code.toNat})"

def sort (codes : List Opcode) : List Opcode :=
  codes.mergeSort fun a b => (compare a b).isLE

def Ascending (codes : List Opcode) : Prop := codes.Pairwise fun a b => compare a b = .lt

theorem compare_swap (a b : Opcode) : compare a b = (compare b a).swap := Std.OrientedCmp.eq_swap

theorem compare_eq_lt {a b : Opcode} : compare a b = .lt ↔ (compare a b).isLE ∧ a ≠ b := by
  have same : compare a b = .eq ↔ a = b := Std.LawfulEqCmp.compare_eq_iff_eq
  rw [ne_eq, ← same]
  cases compare a b <;> decide

theorem Ascending.nodup {codes : List Opcode} (h : Ascending codes) : codes.Nodup :=
  h.imp fun lt => (compare_eq_lt.mp lt).2

section Keyed

variable {α : Type} {key : α → Opcode}

def sortBy (key : α → Opcode) (xs : List α) : List α :=
  xs.mergeSort fun a b => (compare (key a) (key b)).isLE

theorem sortBy_perm (xs : List α) : (sortBy key xs).Perm xs := List.mergeSort_perm xs _

/-- Distinct opcodes are sorted strictly. -/
theorem ascending_sortBy {xs : List α} (distinct : (xs.map key).Nodup) :
    Ascending ((sortBy key xs).map key) := by
  have sorted : (sortBy key xs).Pairwise fun a b => (compare (key a) (key b)).isLE := by
    apply List.pairwise_mergeSort
    · intro a b c
      exact Std.TransCmp.isLE_trans
    · intro a b
      rw [compare_swap (key b)]
      cases compare (key a) (key b) <;> rfl
  have apart : ((sortBy key xs).map key).Nodup :=
    ((sortBy_perm xs).map key).nodup_iff.mpr distinct
  exact ((List.pairwise_map.mpr sorted).and apart).imp compare_eq_lt.mpr

/-- There is only one ascending order. -/
theorem eq_of_perm_of_ascending {xs ys : List α} (hx : Ascending (xs.map key))
    (hy : Ascending (ys.map key)) (h : xs.Perm ys) : xs = ys := by
  apply h.eq_of_pairwise _ (List.pairwise_map.mp hx) (List.pairwise_map.mp hy)
  intro a b _ _ ab ba
  rw [compare_swap, ba] at ab
  contradiction

/-- Sorting finds the one ascending order. -/
theorem sortBy_eq_of_ascending {xs ys : List α} (h : xs.Perm ys)
    (ascending : Ascending (ys.map key)) : sortBy key xs = ys :=
  have distinct := (h.map key).nodup_iff.mpr ascending.nodup
  eq_of_perm_of_ascending (ascending_sortBy distinct) ascending ((sortBy_perm xs).trans h)

end Keyed

theorem sort_perm (codes : List Opcode) : (sort codes).Perm codes := List.mergeSort_perm codes _

@[simp] theorem mem_sort {codes : List Opcode} {opcode : Opcode} :
    opcode ∈ sort codes ↔ opcode ∈ codes :=
  (sort_perm codes).mem_iff

theorem ascending_sort {codes : List Opcode} (distinct : codes.Nodup) :
    Ascending (sort codes) := by
  rw [← List.map_id codes] at distinct
  have sorted := ascending_sortBy distinct
  rwa [List.map_id] at sorted

theorem Ascending.eq_of_perm {first second : List Opcode} (ha : Ascending first)
    (hb : Ascending second) (h : first.Perm second) : first = second := by
  rw [← List.map_id first] at ha
  rw [← List.map_id second] at hb
  exact eq_of_perm_of_ascending ha hb h

theorem Ascending.eq_of_mem_iff {first second : List Opcode} (ha : Ascending first)
    (hb : Ascending second) (h : ∀ opcode, opcode ∈ first ↔ opcode ∈ second) : first = second :=
  ha.eq_of_perm hb ((List.perm_ext_iff_of_nodup ha.nodup hb.nodup).mpr h)

/-- Sorting forgets the order in which distinct opcodes came. -/
theorem sort_eq_of_perm {first second : List Opcode} (distinct : first.Nodup)
    (h : first.Perm second) : sort first = sort second :=
  (ascending_sort distinct).eq_of_perm (ascending_sort (h.nodup_iff.mp distinct))
    ((sort_perm first).trans (h.trans (sort_perm second).symm))

end Opcode

end OpcodeBinding
