import Mathlib.Data.List.Basic

/-!
# Standings

A list in a strict order: the place of an element is the number of those before it. A list read by
pages of an offset, each with the offset of the next as long as one row more was found.
-/
namespace Standings

variable {α : Type}

section Places

variable {before : α → α → Prop} [DecidableRel before] {rows : List α}

/-- The place of an element is the number of those before it. -/
theorem getElem?_iff_countP (sorted : rows.Pairwise before)
    (asymm : ∀ a b, before a b → ¬ before b a) {i : Nat} {x : α} :
    rows[i]? = some x ↔ x ∈ rows ∧ rows.countP (fun row => before row x) = i := by
  induction rows generalizing i with
  | nil => simp
  | cons first rest ih =>
    obtain ⟨ahead, sorted⟩ := List.pairwise_cons.mp sorted
    have self : ¬ before first first := fun loop => asymm first first loop loop
    have none : rest.countP (fun row => before row first) = 0 := by
      rw [List.countP_eq_zero]
      intro row member
      simpa using asymm first row (ahead row member)
    have counted : ∀ row ∈ rest, (first :: rest).countP (fun other => before other row) =
        rest.countP (fun other => before other row) + 1 := by
      intro row member
      rw [List.countP_cons, if_pos (by simpa using ahead row member)]
    cases i with
    | zero =>
      simp only [List.getElem?_cons_zero, Option.some.injEq, List.mem_cons]
      constructor
      · rintro rfl
        exact ⟨Or.inl rfl, by simp [none, self]⟩
      · rintro ⟨rfl | member, count⟩
        · rfl
        · rw [counted x member] at count
          omega
    | succ i =>
      rw [List.getElem?_cons_succ, ih sorted, List.mem_cons]
      constructor
      · rintro ⟨member, count⟩
        exact ⟨Or.inr member, by rw [counted x member, count]⟩
      · rintro ⟨rfl | member, count⟩
        · simp [none, self] at count
        · rw [counted x member] at count
          exact ⟨member, by omega⟩

end Places

/-! ### Pages by offset -/

/-- A page out of a query that took one row more, with the offset of the next page. -/
structure OffsetPage (α : Type) where
  items : List α
  next : Option Nat

/-- Reads on until a page has no next offset; `none` if the fuel is spent. -/
def followOffsets (read : Nat → OffsetPage α) : Nat → Nat → Option (List α)
  | 0, _ => none
  | fuel + 1, skip =>
    match (read skip).next with
    | none => some (read skip).items
    | some next => (followOffsets read fuel next).map ((read skip).items ++ ·)

/-- Each page holds the rows from its offset on, and the next begins where it ends. -/
structure ReadsByOffset (rows : List α) (limit : Nat) (read : Nat → OffsetPage α) : Prop where
  items : ∀ skip, (read skip).items = (rows.drop skip).take limit
  next : ∀ skip, (read skip).next =
    if limit < (rows.drop skip).length then some (skip + limit) else none

/-- Following the offsets yields all rows, in their order, each once. -/
theorem ReadsByOffset.followOffsets {rows : List α} {limit : Nat} {read : Nat → OffsetPage α}
    (reads : ReadsByOffset rows limit read) (positive : 1 ≤ limit) (skip : Nat) :
    ∃ fuel, followOffsets read fuel skip = some (rows.drop skip) := by
  induction left : rows.length - skip using Nat.strongRecOn generalizing skip with
  | ind n ih =>
    have next := reads.next skip
    rw [List.length_drop] at next
    by_cases more : limit < rows.length - skip
    · rw [if_pos more] at next
      obtain ⟨fuel, rest⟩ := ih (rows.length - (skip + limit)) (by omega) (skip + limit) rfl
      refine ⟨fuel + 1, ?_⟩
      simp only [Standings.followOffsets, next, rest, Option.map_some, reads.items]
      rw [← List.drop_drop, List.take_append_drop]
    · rw [if_neg more] at next
      refine ⟨1, ?_⟩
      simp only [Standings.followOffsets, next, reads.items]
      rw [List.take_of_length_le (by rw [List.length_drop]; omega)]

end Standings
