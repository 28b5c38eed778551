import Mathlib.Data.List.Basic

/-!
# Slices of a list

What a loop over `slice(i, i + size)` with a step of `size` visits.
-/
namespace Slices

variable {α : Type}

/-- The first `count` slices, one after the other. -/
theorem flatten_take (size count : Nat) (items : List α) :
    ((List.range count).map fun index => (items.drop (index * size)).take size).flatten =
      items.take (count * size) := by
  induction count with
  | zero => simp
  | succ count ih =>
    rw [List.range_succ, List.map_append, List.flatten_append, ih, Nat.succ_mul, List.take_add]
    simp

/-- The slices of `size` items; the last may be shorter. -/
def slices (size : Nat) (items : List α) : List (List α) :=
  (List.range ((items.length + size - 1) / size)).map fun index =>
    (items.drop (index * size)).take size

theorem flatten_slices {size : Nat} (positive : 0 < size) (items : List α) :
    (slices size items).flatten = items := by
  have parts := Nat.div_add_mod (items.length + size - 1) size
  have part := Nat.mod_lt (items.length + size - 1) positive
  have enough : items.length ≤ (items.length + size - 1) / size * size := by
    rw [Nat.mul_comm]
    omega
  rw [slices, flatten_take, List.take_of_length_le enough]

theorem mem_slices {size : Nat} (positive : 0 < size) {items : List α} {item : α} :
    (∃ slice ∈ slices size items, item ∈ slice) ↔ item ∈ items := by
  rw [← List.mem_flatten, flatten_slices positive]

end Slices
