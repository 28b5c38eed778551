import Mathlib.Algebra.Ring.Nat
import Mathlib.Data.List.SplitLengths

/-!
# Even runs

A list cut into contiguous runs of almost one length, the longer ones first.
-/
namespace EvenRuns

variable {α : Type} {items : List α} {count : Nat}

/-- `runs` are `items` cut into `count` non-empty pieces, in order. -/
structure Cuts (items : List α) (count : Nat) (runs : List (List α)) : Prop where
  inOrder : runs.flatten = items
  count : runs.length = count
  nonempty : ∀ run ∈ runs, run ≠ []
  descending : runs.Pairwise fun run later => later.length ≤ run.length
  even : ∀ a ∈ runs, ∀ b ∈ runs, a.length ≤ b.length + 1

/-- The length of run `g` of `count`: the first runs take the remainder, one item each. -/
def size (total count g : Nat) : Nat :=
  total / count + if g < total % count then 1 else 0

theorem sum_sizes (total count k : Nat) :
    ((List.range k).map (size total count)).sum = total / count * k + min k (total % count) := by
  induction k with
  | zero => simp
  | succ k ih =>
    rw [List.range_succ, List.map_append, List.sum_append, ih, Nat.mul_succ]
    simp only [List.map_cons, List.map_nil, List.sum_singleton, size]
    split <;> omega

/-- No item is left over and none is missing. -/
theorem sum_all_sizes (positive : 0 < count) (total : Nat) :
    ((List.range count).map (size total count)).sum = total := by
  have small := Nat.mod_lt total positive
  have divided := Nat.div_add_mod total count
  rw [sum_sizes, Nat.min_eq_right small.le, Nat.mul_comm]
  exact divided

theorem size_bounds (total count g : Nat) :
    total / count ≤ size total count g ∧ size total count g ≤ total / count + 1 := by
  unfold size
  split <;> omega

theorem size_antitone (total : Nat) {g later : Nat} (before : g < later) :
    size total count later ≤ size total count g := by
  unfold size
  split <;> split <;> omega

def cut (items : List α) (count : Nat) : List (List α) :=
  ((List.range count).map (size items.length count)).splitLengths items

theorem map_length_cut (positive : 0 < count) :
    (cut items count).map List.length = (List.range count).map (size items.length count) :=
  List.map_splitLengths_length items _ (sum_all_sizes positive items.length).le

theorem length_of_mem_cut (positive : 0 < count) {run : List α} (member : run ∈ cut items count) :
    items.length / count ≤ run.length ∧ run.length ≤ items.length / count + 1 := by
  have length := List.mem_map_of_mem (f := List.length) member
  rw [map_length_cut positive, List.mem_map] at length
  obtain ⟨g, -, same⟩ := length
  exact same ▸ size_bounds items.length count g

theorem cuts_cut (positive : 0 < count) (enough : count ≤ items.length) :
    Cuts items count (cut items count) := by
  constructor
  · exact List.flatten_splitLengths items _ (sum_all_sizes positive items.length).ge
  · simp [cut]
  · rintro run member rfl
    have least := (length_of_mem_cut positive member).1
    have one := Nat.div_pos enough positive
    exact absurd one (Nat.not_lt.mpr least)
  · have sorted : ((cut items count).map List.length).Pairwise (· ≥ ·) := by
      rw [map_length_cut positive, List.pairwise_map]
      exact List.pairwise_lt_range.imp (size_antitone items.length)
    exact List.pairwise_map.mp sorted
  · intro a inA b inB
    have most := (length_of_mem_cut positive inA).2
    have least := (length_of_mem_cut positive inB).1
    omega

theorem cuts_singletons (items : List α) :
    Cuts items items.length (items.map fun item => [item]) := by
  constructor
  · simp [← List.flatMap_def]
  · simp
  · simp
  · exact List.pairwise_map.mpr (List.pairwise_of_forall fun _ _ => Nat.le_refl 1)
  · simp

end EvenRuns
