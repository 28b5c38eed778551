import Mathlib.Data.List.Sort

/-!
# Merging limited queries

Rows of two kinds are queried apart, each in order and no more than `n` of them. The first `n` rows
of the merge are the first `n` rows of all.
-/
namespace TopMerge

variable {α : Type} {le : α → α → Prop}

/-- Sorted lists of the same rows are equal, where no two of them are level. -/
theorem eq_of_perm_of_sorted {xs ys : List α} (same : xs.Perm ys)
    (apart : ∀ a ∈ xs, ∀ b ∈ xs, le a b → le b a → a = b) (sorted : xs.Pairwise le)
    (sorted' : ys.Pairwise le) : xs = ys :=
  same.eq_of_pairwise (fun a b inXs inYs => apart a inXs b (same.mem_iff.mpr inYs)) sorted sorted'

/-- The first `n` rows of a kind are those among the first `n` of all, and some later ones. -/
theorem exists_take_filter (rows : List α) (kind : α → Bool) (n : Nat) :
    ∃ late, (rows.filter kind).take n = (rows.take n).filter kind ++ late ∧
      ∀ row ∈ late, row ∈ rows.drop n := by
  refine ⟨((rows.drop n).filter kind).take (n - ((rows.take n).filter kind).length), ?_, ?_⟩
  · have split : rows.filter kind = (rows.take n).filter kind ++ (rows.drop n).filter kind := by
      rw [← List.filter_append, List.take_append_drop]
    have short : ((rows.take n).filter kind).length ≤ n :=
      (List.length_filter_le _ _).trans (List.length_take_le _ _)
    rw [split, List.take_append, List.take_of_length_le short]
  · exact fun row member => List.mem_of_mem_filter (List.mem_of_mem_take member)

variable [DecidableRel le] [Std.Total le] [IsTrans α le]

theorem filter_insertionSort {rows : List α} (kind : α → Bool)
    (apart : ∀ a ∈ rows, ∀ b ∈ rows, le a b → le b a → a = b) :
    (rows.filter kind).insertionSort le = (rows.insertionSort le).filter kind := by
  apply eq_of_perm_of_sorted
  · exact (List.perm_insertionSort le _).trans ((List.perm_insertionSort le rows).filter kind).symm
  · intro a inA b inB
    have inside : ∀ c ∈ (rows.filter kind).insertionSort le, c ∈ rows := fun c member =>
      List.mem_of_mem_filter ((List.perm_insertionSort le _).mem_iff.mp member)
    exact apart a (inside a inA) b (inside b inB)
  · exact List.pairwise_insertionSort le _
  · exact (List.pairwise_insertionSort le rows).filter kind

theorem perm_regroup (a b c d : List α) : ((a ++ b) ++ (c ++ d)).Perm ((a ++ c) ++ (b ++ d)) := by
  simp only [List.append_assoc]
  refine List.Perm.append_left a ?_
  rw [← List.append_assoc, ← List.append_assoc]
  exact List.perm_append_comm.append_right d

/-- Nothing is lost by limiting the queries. -/
theorem take_merge {rows : List α} (kind : α → Bool)
    (apart : ∀ a ∈ rows, ∀ b ∈ rows, le a b → le b a → a = b) (n : Nat) :
    ((((rows.filter kind).insertionSort le).take n ++
      ((rows.filter fun row => !kind row).insertionSort le).take n).insertionSort le).take n =
        (rows.insertionSort le).take n := by
  have apart' : ∀ a ∈ rows.insertionSort le, ∀ b ∈ rows.insertionSort le, le a b → le b a →
      a = b := by
    intro a inA b inB
    have all := List.perm_insertionSort le rows
    exact apart a (all.mem_iff.mp inA) b (all.mem_iff.mp inB)
  have sorted := List.pairwise_insertionSort le rows
  rw [filter_insertionSort kind apart, filter_insertionSort _ apart]
  generalize rows.insertionSort le = entries at *
  obtain ⟨first, isFirst, firstLate⟩ := exists_take_filter entries kind n
  obtain ⟨second, isSecond, secondLate⟩ := exists_take_filter entries (fun row => !kind row) n
  rw [isFirst, isSecond]
  have late : ∀ b ∈ first ++ second, b ∈ entries.drop n := fun b member =>
    (List.mem_append.mp member).elim (firstLate b) (secondLate b)
  -- The merge begins with the first `n` rows of all.
  have merged : (((entries.take n).filter kind ++ first) ++
      ((entries.take n).filter (fun row => !kind row) ++ second)).insertionSort le =
        entries.take n ++ (first ++ second).insertionSort le := by
    have together : ((((entries.take n).filter kind ++ first) ++
        ((entries.take n).filter (fun row => !kind row) ++ second))).Perm
          (entries.take n ++ (first ++ second)) := by
      exact (perm_regroup _ _ _ _).trans ((List.filter_append_perm kind _).append_right _)
    have rest := List.perm_insertionSort le (first ++ second)
    apply eq_of_perm_of_sorted
      ((List.perm_insertionSort le _).trans (together.trans (rest.symm.append_left _)))
    · have inside : ∀ c ∈ (((entries.take n).filter kind ++ first) ++
          ((entries.take n).filter (fun row => !kind row) ++ second)).insertionSort le,
            c ∈ entries := by
        intro c member
        rw [(List.perm_insertionSort le _).mem_iff, together.mem_iff] at member
        rcases List.mem_append.mp member with early | rest
        · exact List.mem_of_mem_take early
        · exact List.mem_of_mem_drop (late c rest)
      intro a inA b inB
      exact apart' a (inside a inA) b (inside b inB)
    · exact List.pairwise_insertionSort le _
    · rw [← List.take_append_drop n entries] at sorted
      obtain ⟨early, -, across⟩ := List.pairwise_append.mp sorted
      refine List.pairwise_append.mpr ⟨early, List.pairwise_insertionSort le _, ?_⟩
      intro a inA b inB
      exact across a inA b (late b (rest.mem_iff.mp inB))
  rw [merged]
  rcases Nat.lt_or_ge entries.length n with short | long
  · have none : entries.drop n = [] := List.drop_eq_nil_of_le (by omega)
    have empty : first ++ second = [] := by
      rw [List.eq_nil_iff_forall_not_mem]
      intro b member
      have inDrop := late b member
      simp [none] at inDrop
    rw [empty, List.insertionSort_nil, List.append_nil, List.take_take, Nat.min_self]
  · exact List.take_left' (by rw [List.length_take]; omega)

end TopMerge
