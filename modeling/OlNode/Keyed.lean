import Mathlib.Data.List.Nodup

/-!
# Tables with a key

Lookups in a list of rows by a key, and what the writes of a table do to them; and inserts that skip
the rows whose key is taken.
-/
namespace Keyed

variable {α β : Type} [DecidableEq β] {key : α → β} {rows : List α} {row : α}

theorem find?_of_mem (unique : (rows.map key).Nodup) (member : row ∈ rows) :
    rows.find? (fun other => key other = key row) = some row := by
  cases found : rows.find? (fun other => key other = key row) with
  | none =>
    exact absurd (List.find?_eq_none.mp found row member) (by simp)
  | some other =>
    have same : key other = key row := by simpa using List.find?_some found
    rw [List.inj_on_of_nodup_map unique (List.mem_of_find?_eq_some found) member same]

theorem filter_of_mem (unique : (rows.map key).Nodup) (member : row ∈ rows) :
    rows.filter (fun other => key other = key row) = [row] := by
  induction rows with
  | nil => cases member
  | cons first rest ih =>
    rw [List.map_cons, List.nodup_cons] at unique
    rcases List.mem_cons.mp member with rfl | later
    · rw [List.filter_cons_of_pos (by simp)]
      refine congrArg (row :: ·) (List.filter_eq_nil_iff.mpr fun other otherMember same => ?_)
      exact unique.1 (of_decide_eq_true same ▸ List.mem_map_of_mem otherMember)
    · have different : key first ≠ key row := fun same =>
        unique.1 (same ▸ List.mem_map_of_mem later)
      rw [List.filter_cons_of_neg (by simpa using different)]
      exact ih unique.2 later

omit [DecidableEq β] in
/-- An INSERT of a row with a key of its own. -/
theorem nodup_append (unique : (rows.map key).Nodup) (fresh : ∀ other ∈ rows, key other ≠ key row) :
    ((rows ++ [row]).map key).Nodup := by
  rw [List.map_append, List.map_singleton]
  refine List.nodup_append.mpr ⟨unique, List.nodup_singleton _, ?_⟩
  intro k old other isNew
  obtain ⟨stored, member, rfl⟩ := List.mem_map.mp old
  rw [List.mem_singleton.mp isNew]
  exact fresh stored member

theorem perm_remove (unique : (rows.map key).Nodup) (member : row ∈ rows) :
    rows.Perm (row :: rows.filter fun other => key other ≠ key row) := by
  have parts := List.filter_append_perm (fun other => decide (key other = key row)) rows
  rw [filter_of_mem unique member] at parts
  simpa using parts.symm

theorem find?_map {g : α → α} (same : ∀ row, key (g row) = key row) (k : β) :
    (rows.map g).find? (fun row => key row = k) = (rows.find? fun row => key row = k).map g := by
  rw [List.find?_map]
  congr 2
  funext row
  simp [same row]

theorem find?_filter_ne {k other : β} (different : other ≠ k) :
    (rows.filter fun row => key row ≠ k).find? (fun row => key row = other) =
      rows.find? fun row => key row = other := by
  induction rows with
  | nil => rfl
  | cons first rest ih =>
    by_cases own : key first = k
    · have not : key first ≠ other := fun same => different (same.symm.trans own)
      rw [List.filter_cons_of_neg (by simpa using own), List.find?_cons_of_neg (by simpa using not)]
      exact ih
    · rw [List.filter_cons_of_pos (by simpa using own), List.find?_cons, List.find?_cons, ih]

theorem find?_filter_self (k : β) :
    (rows.filter fun row => key row ≠ k).find? (fun row => key row = k) = none := by
  rw [List.find?_eq_none]
  intro row member
  simpa using (List.mem_filter.mp member).2

/-! ### Inserts that skip duplicates -/

/-- `ON CONFLICT DO NOTHING`. -/
def insertNew (key : α → β) (rows : List α) (row : α) : List α :=
  if rows.any fun other => key other = key row then rows else rows ++ [row]

variable {new : List α}

theorem nodup_insertNew (unique : (rows.map key).Nodup) :
    ((insertNew key rows row).map key).Nodup := by
  unfold insertNew
  split
  · exact unique
  next fresh => exact nodup_append unique (by simpa using fresh)

theorem mem_of_mem_insertNew {other : α} (member : other ∈ insertNew key rows row) :
    other ∈ rows ∨ other = row := by
  unfold insertNew at member
  split at member
  · exact .inl member
  · simpa using member

theorem mem_keys_insertNew {k : β} :
    k ∈ (insertNew key rows row).map key ↔ k ∈ rows.map key ∨ k = key row := by
  unfold insertNew
  split
  next taken =>
    obtain ⟨other, member, same⟩ := List.any_eq_true.mp taken
    have present : key row ∈ rows.map key :=
      of_decide_eq_true same ▸ List.mem_map_of_mem member
    constructor
    · exact .inl
    · rintro (old | rfl)
      · exact old
      · exact present
  next => simp

theorem nodup_foldl_insertNew (unique : (rows.map key).Nodup) :
    ((new.foldl (insertNew key) rows).map key).Nodup := by
  induction new generalizing rows with
  | nil => exact unique
  | cons row new ih => exact ih (nodup_insertNew unique)

theorem mem_of_mem_foldl_insertNew {other : α} (member : other ∈ new.foldl (insertNew key) rows) :
    other ∈ rows ∨ other ∈ new := by
  induction new generalizing rows with
  | nil => exact .inl member
  | cons row new ih =>
    rcases ih member with stored | later
    · rcases mem_of_mem_insertNew stored with old | rfl
      · exact .inl old
      · exact .inr List.mem_cons_self
    · exact .inr (List.mem_cons_of_mem row later)

theorem mem_keys_foldl_insertNew {k : β} :
    k ∈ (new.foldl (insertNew key) rows).map key ↔ k ∈ rows.map key ∨ k ∈ new.map key := by
  induction new generalizing rows with
  | nil => simp
  | cons row new ih => rw [List.foldl_cons, ih, mem_keys_insertNew, List.map_cons, List.mem_cons,
      or_assoc]

end Keyed
