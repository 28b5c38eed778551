import Mathlib.Algebra.BigOperators.Group.List.Basic
import Mathlib.Algebra.BigOperators.Intervals
import Mathlib.Algebra.BigOperators.Ring.List
import Mathlib.Algebra.Order.BigOperators.Group.Finset
import Mathlib.Algebra.Ring.Int.Defs
import Mathlib.Data.List.Dedup

/-!
# Totals of rows

Sums over rows as a report takes them: grouped by a key, and over a window of time. A sum over the
groups, weighted by their keys, is the weighted sum over the rows; a sum over a window is the sum
over its two parts. Steps of an ascending sequence, each taken once, add up to no more than its top.
-/
namespace Totals

variable {ρ κ : Type}

/-- The sum of `value` over the rows that satisfy `cond`. -/
def sumWhere (cond : ρ → Bool) (value : ρ → Int) (rows : List ρ) : Int :=
  ((rows.filter cond).map value).sum

variable (cond : ρ → Bool)

@[simp] theorem sumWhere_nil (value : ρ → Int) : sumWhere cond value [] = 0 :=
  rfl

@[simp] theorem sumWhere_cons (value : ρ → Int) (row : ρ) (rows : List ρ) :
    sumWhere cond value (row :: rows) =
      (if cond row then value row else 0) + sumWhere cond value rows := by
  by_cases kept : cond row <;> simp [sumWhere, kept]

theorem sumWhere_append (value : ρ → Int) (rows more : List ρ) :
    sumWhere cond value (rows ++ more) = sumWhere cond value rows + sumWhere cond value more := by
  simp [sumWhere]

theorem sumWhere_add (value value' : ρ → Int) (rows : List ρ) :
    sumWhere cond (fun row => value row + value' row) rows =
      sumWhere cond value rows + sumWhere cond value' rows := by
  simp only [sumWhere, List.sum_map_add]

theorem sumWhere_congr {cond : ρ → Bool} {value value' : ρ → Int} {rows : List ρ}
    (same : ∀ row ∈ rows, cond row → value row = value' row) :
    sumWhere cond value rows = sumWhere cond value' rows := by
  refine congrArg List.sum (List.map_congr_left fun row member => ?_)
  exact same row (List.mem_filter.mp member).1 (List.mem_filter.mp member).2

theorem sumWhere_nonneg {cond : ρ → Bool} {value : ρ → Int} {rows : List ρ}
    (nonneg : ∀ row ∈ rows, 0 ≤ value row) : 0 ≤ sumWhere cond value rows := by
  induction rows with
  | nil => simp
  | cons row rows ih =>
    have rest := ih fun other member => nonneg other (List.mem_cons_of_mem _ member)
    have own := nonneg row List.mem_cons_self
    rw [sumWhere_cons]
    split <;> omega

theorem sumWhere_eq_zero_iff {cond : ρ → Bool} {value : ρ → Int} {rows : List ρ}
    (positive : ∀ row ∈ rows, 0 < value row) :
    sumWhere cond value rows = 0 ↔ ∀ row ∈ rows, ¬cond row := by
  induction rows with
  | nil => simp
  | cons row rows ih =>
    have others : ∀ other ∈ rows, 0 < value other :=
      fun other member => positive other (List.mem_cons_of_mem _ member)
    have own := positive row List.mem_cons_self
    have rest : 0 ≤ sumWhere cond value rows := sumWhere_nonneg fun r m => Int.le_of_lt (others r m)
    rw [sumWhere_cons, List.forall_mem_cons, ← ih others]
    split
    next kept =>
      simp only [kept, not_true_eq_false, false_and, iff_false]
      omega
    next dropped => simp [dropped]

theorem sumWhere_filter (cond window : ρ → Bool) (value : ρ → Int) (rows : List ρ) :
    sumWhere cond value (rows.filter window) =
      sumWhere (fun row => window row && cond row) value rows := by
  simp [sumWhere, List.filter_filter, Bool.and_comm]

theorem sumWhere_perm {rows rows' : List ρ} (same : rows.Perm rows') (cond : ρ → Bool)
    (value : ρ → Int) : sumWhere cond value rows = sumWhere cond value rows' :=
  ((same.filter cond).map value).sum_eq

theorem sumWhere_eq_weighted (value : ρ → Int) (rows : List ρ) :
    sumWhere cond value rows = (rows.map fun row => (if cond row then 1 else 0) * value row).sum := by
  induction rows with
  | nil => rfl
  | cons row rows ih => simp [ih]

/-! ### Groups -/

variable [DecidableEq κ]

/-- `GROUP BY key`: each key that occurs, with its rows. -/
def groups (key : ρ → κ) (rows : List ρ) : List (κ × List ρ) :=
  (rows.map key).dedup.map fun k => (k, rows.filter fun row => key row = k)

private theorem sum_key (weight : κ → Int) (amount : Int) (k : κ) (keys : List κ)
    (distinct : keys.Nodup) :
    (keys.map fun other => if k = other then weight other * amount else 0).sum =
      if k ∈ keys then weight k * amount else 0 := by
  induction keys with
  | nil => simp
  | cons other keys ih =>
    obtain ⟨fresh, distinct⟩ := List.nodup_cons.mp distinct
    rw [List.map_cons, List.sum_cons, ih distinct]
    by_cases same : k = other
    · subst same
      simp [fresh]
    · simp [same]

/-- A weighted sum over all keys of the rows, each taken once. -/
theorem sum_keys (key : ρ → κ) (weight : κ → Int) (value : ρ → Int) (keys : List κ)
    (distinct : keys.Nodup) (rows : List ρ) (covers : ∀ row ∈ rows, key row ∈ keys) :
    (keys.map fun k => weight k * sumWhere (fun row => key row = k) value rows).sum =
      (rows.map fun row => weight (key row) * value row).sum := by
  induction rows with
  | nil => simp
  | cons row rows ih =>
    have rest := ih fun other member => covers other (List.mem_cons_of_mem _ member)
    have split : ∀ k, weight k * sumWhere (fun row => key row = k) value (row :: rows) =
        (if key row = k then weight k * value row else 0) +
          weight k * sumWhere (fun row => key row = k) value rows := by
      intro k
      by_cases same : key row = k <;> simp [same, mul_add]
    simp only [split, List.sum_map_add, rest]
    rw [sum_key weight (value row) (key row) keys distinct, if_pos (covers row List.mem_cons_self)]
    simp

/-- A weighted sum over the groups is the weighted sum over the rows. -/
theorem sum_groups (key : ρ → κ) (weight : κ → Int) (value : ρ → Int) (rows : List ρ) :
    ((groups key rows).map fun g => weight g.1 * (g.2.map value).sum).sum =
      (rows.map fun row => weight (key row) * value row).sum := by
  have covers : ∀ row ∈ rows, key row ∈ (rows.map key).dedup := by
    intro row member
    exact List.mem_dedup.mpr (List.mem_map_of_mem member)
  have all := sum_keys key weight value _ (List.nodup_dedup _) rows covers
  simpa only [groups, List.map_map, Function.comp_def, sumWhere] using all

/-! ### Steps of a sequence -/

/-- Steps below the top of an ascending sequence, each taken at most once and in any order. -/
theorem sum_steps_le {f : ℕ → Int} {top : ℕ} (ascends : ∀ n < top, f n ≤ f (n + 1))
    {steps : List ℕ} (once : steps.Nodup) (within : ∀ n ∈ steps, n < top) :
    (steps.map fun n => f (n + 1) - f n).sum ≤ f top - f 0 := by
  have inside : steps.toFinset ⊆ Finset.range top := by
    intro n member
    exact Finset.mem_range.mpr (within n (List.mem_toFinset.mp member))
  have rises : ∀ n ∈ Finset.range top, n ∉ steps.toFinset → 0 ≤ f (n + 1) - f n := by
    intro n member _
    have := ascends n (Finset.mem_range.mp member)
    omega
  calc (steps.map fun n => f (n + 1) - f n).sum
      = ∑ n ∈ steps.toFinset, (f (n + 1) - f n) := (List.sum_toFinset _ once).symm
    _ ≤ ∑ n ∈ Finset.range top, (f (n + 1) - f n) :=
        Finset.sum_le_sum_of_subset_of_nonneg inside rises
    _ = f top - f 0 := Finset.sum_range_sub f top

end Totals
