import OlNode.Totals
import Mathlib.Data.List.MinMax

/-!
# The row before a row

Rows in the order of a key that tells them apart. A convex part of them, sorted, is a chain in which
each row is the predecessor of the next. Where every row adds its own weight to the value of its
predecessor, every value is the total of the weights up to its row, and conversely.
-/
namespace Predecessor

open Totals

variable {ρ κ : Type} [LinearOrder κ] {key : ρ → κ} {rows : List ρ} {a b row : ρ}

/-- The row of the greatest key below that of `a`. -/
def prev (key : ρ → κ) (rows : List ρ) (a : ρ) : Option ρ :=
  (rows.filter fun row => key row < key a).argmax key

theorem prev_eq_none_iff : prev key rows a = none ↔ ∀ row ∈ rows, key a ≤ key row := by
  simp [prev, List.argmax_eq_none]

theorem prev_eq_some_iff (apart : ∀ a ∈ rows, ∀ b ∈ rows, key a = key b → a = b) :
    prev key rows a = some b ↔
      b ∈ rows ∧ key b < key a ∧ ∀ row ∈ rows, key row < key a → key row ≤ key b := by
  constructor
  · intro found
    have member := List.argmax_mem found
    simp only [List.mem_filter, decide_eq_true_eq] at member
    refine ⟨member.1, member.2, fun row inRows below => ?_⟩
    exact List.le_of_mem_argmax (List.mem_filter.mpr ⟨inRows, by simpa using below⟩) found
  · rintro ⟨inRows, below, greatest⟩
    have candidate : b ∈ rows.filter fun row => key row < key a :=
      List.mem_filter.mpr ⟨inRows, by simpa using below⟩
    cases found : prev key rows a with
    | none => exact absurd below (not_lt.mpr (prev_eq_none_iff.mp found b inRows))
    | some c =>
      have member := List.argmax_mem found
      simp only [List.mem_filter, decide_eq_true_eq] at member
      have level := le_antisymm (List.le_of_mem_argmax candidate found)
        (greatest c member.1 member.2)
      rw [apart b inRows c member.1 level]

/-! ### Convex parts -/

/-- A sorted part of the rows without gaps is a chain of predecessors. -/
theorem isChain_prev (apart : ∀ a ∈ rows, ∀ b ∈ rows, key a = key b → a = b) {part : List ρ}
    (inside : ∀ row ∈ part, row ∈ rows) (sorted : part.Pairwise fun a b => key a < key b)
    (convex : ∀ a ∈ part, ∀ b ∈ part, ∀ row ∈ rows, key a < key row → key row < key b →
      row ∈ part) : part.IsChain fun a b => prev key rows b = some a := by
  induction part with
  | nil => exact List.IsChain.nil
  | cons a part ih =>
    obtain ⟨first, sorted⟩ := List.pairwise_cons.mp sorted
    have rest : part.IsChain fun a b => prev key rows b = some a := by
      refine ih (fun row member => inside row (List.mem_cons_of_mem a member)) sorted ?_
      intro b inB c inC row member above below
      rcases List.mem_cons.mp (convex b (List.mem_cons_of_mem a inB) c
        (List.mem_cons_of_mem a inC) row member above below) with rfl | later
      · exact absurd (first b inB) (not_lt.mpr (le_of_lt above))
      · exact later
    cases part with
    | nil => exact List.IsChain.singleton a
    | cons b part =>
      have next := first b List.mem_cons_self
      refine List.IsChain.cons_cons ?_ rest
      refine (prev_eq_some_iff apart).mpr ⟨inside a List.mem_cons_self, next, ?_⟩
      intro row member below
      by_contra beyond
      -- A row between the two would be in the part, and behind the second.
      have between := convex a List.mem_cons_self b (List.mem_cons_of_mem a List.mem_cons_self) row
        member (not_le.mp beyond) below
      rcases List.mem_cons.mp between with rfl | later
      · exact beyond (le_refl _)
      · rcases List.mem_cons.mp later with rfl | behind
        · exact lt_irrefl _ below
        · exact lt_asymm below ((List.pairwise_cons.mp sorted).1 row behind)

/-! ### Running totals -/

variable {weight value : ρ → Int}

/-- The weights of the rows up to `a`. -/
def totalUpTo (key : ρ → κ) (weight : ρ → Int) (rows : List ρ) (a : ρ) : Int :=
  sumWhere (fun row => key row ≤ key a) weight rows

private theorem total_below (apart : ∀ a ∈ rows, ∀ b ∈ rows, key a = key b → a = b) (a : ρ) :
    sumWhere (fun row => key row < key a) weight rows =
      ((prev key rows a).map (totalUpTo key weight rows)).getD 0 := by
  cases found : prev key rows a with
  | none =>
    have none := prev_eq_none_iff.mp found
    have empty : rows.filter (fun row => decide (key row < key a)) = [] := by
      simpa [List.filter_eq_nil_iff] using none
    simp [sumWhere, empty]
  | some b =>
    obtain ⟨-, below, greatest⟩ := (prev_eq_some_iff apart).mp found
    rw [Option.map_some, Option.getD_some, totalUpTo, sumWhere, sumWhere]
    congr 2
    refine List.filter_congr fun row member => ?_
    rw [decide_eq_decide]
    exact ⟨greatest row member, fun upTo => lt_of_le_of_lt upTo below⟩

/-- The total up to a row is that up to its predecessor and its own weight. -/
theorem totalUpTo_eq (distinct : rows.Nodup)
    (apart : ∀ a ∈ rows, ∀ b ∈ rows, key a = key b → a = b) (member : a ∈ rows) :
    totalUpTo key weight rows a =
      ((prev key rows a).map (totalUpTo key weight rows)).getD 0 + weight a := by
  rw [← total_below apart]
  obtain ⟨early, late, rfl⟩ := List.append_of_mem member
  -- The row is once among the rows, and no other row has its key.
  have others : ∀ row ∈ early ++ late, key row ≠ key a := by
    intro row inOthers same
    have inRows : row ∈ early ++ a :: late := by
      rcases List.mem_append.mp inOthers with before | after
      · exact List.mem_append_left _ before
      · exact List.mem_append_right _ (List.mem_cons_of_mem a after)
    obtain rfl := apart row inRows a member same
    have alone := List.nodup_middle.mp distinct
    exact (List.nodup_cons.mp alone).1 inOthers
  have rest : sumWhere (fun row => key row ≤ key a) weight (early ++ late) =
      sumWhere (fun row => key row < key a) weight (early ++ late) := by
    rw [sumWhere, sumWhere]
    congr 2
    refine List.filter_congr fun row inOthers => ?_
    rw [decide_eq_decide]
    exact ⟨fun upTo => lt_of_le_of_ne upTo (others row inOthers), le_of_lt⟩
  have same : (early ++ a :: late).Perm (a :: (early ++ late)) := List.perm_middle
  rw [totalUpTo, sumWhere_perm same, sumWhere_perm same, sumWhere_cons, sumWhere_cons, rest]
  simp only [le_refl, lt_irrefl, decide_true, decide_false, ↓reduceIte, Bool.false_eq_true]
  omega

private theorem length_below_lt (distinct : rows.Nodup) (member : b ∈ rows)
    (below : key b < key a) :
    (rows.filter fun row => key row < key b).length <
      (rows.filter fun row => key row < key a).length := by
  have inside : b :: rows.filter (fun row => key row < key b) ⊆
      rows.filter fun row => key row < key a := by
    intro row inEither
    rcases List.mem_cons.mp inEither with rfl | inLower
    · exact List.mem_filter.mpr ⟨member, by simpa using below⟩
    · obtain ⟨inRow, lower⟩ := List.mem_filter.mp inLower
      have low : key row < key a := lt_trans (by simpa using lower) below
      exact List.mem_filter.mpr ⟨inRow, by simpa using low⟩
  have fresh : (b :: rows.filter fun row => key row < key b).Nodup :=
    List.nodup_cons.mpr ⟨by simp, distinct.filter _⟩
  exact (List.subperm_of_subset fresh inside).length_le

/-- Every value continues that of the predecessor exactly if every value is a total. -/
theorem continues_iff (distinct : rows.Nodup)
    (apart : ∀ a ∈ rows, ∀ b ∈ rows, key a = key b → a = b) :
    (∀ a ∈ rows, value a = ((prev key rows a).map value).getD 0 + weight a) ↔
      ∀ a ∈ rows, value a = totalUpTo key weight rows a := by
  constructor
  · intro continues
    -- By induction on how many rows are below.
    have upTo : ∀ n, ∀ a ∈ rows, (rows.filter fun row => key row < key a).length ≤ n →
        value a = totalUpTo key weight rows a := by
      intro n
      induction n with
      | zero =>
        intro a member bound
        have first : prev key rows a = none := by
          rw [prev, List.length_eq_zero_iff.mp (Nat.le_zero.mp bound), List.argmax_nil]
        rw [continues a member, totalUpTo_eq distinct apart member, first]
        simp
      | succ n ih =>
        intro a member bound
        rw [continues a member, totalUpTo_eq distinct apart member]
        cases found : prev key rows a with
        | none => simp
        | some b =>
          obtain ⟨inRows, below, -⟩ := (prev_eq_some_iff apart).mp found
          have fewer := length_below_lt distinct inRows below
          have before := ih b inRows (by omega)
          simp [before]
    intro a member
    exact upTo _ a member (le_refl _)
  · intro totals a member
    rw [totals a member, totalUpTo_eq distinct apart member]
    cases found : prev key rows a with
    | none => simp
    | some b => simp [totals b ((prev_eq_some_iff apart).mp found).1]

end Predecessor
