import Mathlib.Order.Lattice
import Mathlib.Order.Defs.LinearOrder

/-!
# Ladders of thresholds

A ladder is a list of rows, each with a threshold and the grade that is reached at it. `climb` goes
up the list and stops at the first threshold that is out of reach. On a list that ascends this is
the highest grade within reach, and it never falls when the total grows.
-/
namespace Ladder

variable {ρ α β : Type} [LinearOrder α] [LinearOrder β] {grade : ρ → α} {threshold : ρ → β}

/-- The grade of the last row before the first threshold above the total, and `floor` if that is
the first row. -/
def climb (grade : ρ → α) (threshold : ρ → β) (total : β) : α → List ρ → α
  | floor, [] => floor
  | floor, row :: rows =>
    if threshold row ≤ total then climb grade threshold total (grade row) rows else floor

/-- Grades and thresholds go up; two rows may share a threshold, but not a grade. -/
def Ascending (grade : ρ → α) (threshold : ρ → β) (rows : List ρ) : Prop :=
  rows.Pairwise fun row next => grade row < grade next ∧ threshold row ≤ threshold next

variable {rows : List ρ}

/-- On a ladder that goes up strictly, a higher grade has a higher threshold. -/
theorem threshold_lt
    (ascending : rows.Pairwise fun row next =>
      grade row < grade next ∧ threshold row < threshold next) {row next : ρ}
    (member : row ∈ rows) (nextMember : next ∈ rows) (higher : grade row < grade next) :
    threshold row < threshold next := by
  induction rows with
  | nil => cases member
  | cons first rows ih =>
    obtain ⟨above, rest⟩ := List.pairwise_cons.mp ascending
    rcases List.mem_cons.mp member with rfl | later
    · rcases List.mem_cons.mp nextMember with rfl | nextLater
      · exact absurd higher (lt_irrefl _)
      · exact (above next nextLater).2
    · rcases List.mem_cons.mp nextMember with rfl | nextLater
      · exact absurd higher (above row later).1.asymm
      · exact ih rest later nextLater

/-- The highest grade whose threshold is at most the total, and `floor` if there is none. -/
structure Highest (grade : ρ → α) (threshold : ρ → β) (rows : List ρ) (floor : α) (total : β)
    (reached : α) : Prop where
  attained : (∃ row ∈ rows, grade row = reached ∧ threshold row ≤ total) ∨
    (reached = floor ∧ ∀ row ∈ rows, total < threshold row)
  highest : ∀ row ∈ rows, threshold row ≤ total → grade row ≤ reached

theorem Highest.unique {floor reached other : α} {total : β}
    (first : Highest grade threshold rows floor total reached)
    (second : Highest grade threshold rows floor total other) : reached = other := by
  have below : ∀ {a b : α}, Highest grade threshold rows floor total a →
      Highest grade threshold rows floor total b → a ≤ b := by
    intro a b firstly secondly
    rcases firstly.attained with ⟨row, member, rfl, reach⟩ | ⟨rfl, unreached⟩
    · exact secondly.highest row member reach
    · rcases secondly.attained with ⟨row, member, -, reach⟩ | ⟨rfl, -⟩
      · exact absurd reach (not_le.mpr (unreached row member))
      · exact le_rfl
  exact le_antisymm (below first second) (below second first)

/-- Climbing finds the highest grade. -/
theorem climb_highest (ascending : Ascending grade threshold rows) (total : β) (floor : α) :
    Highest grade threshold rows floor total (climb grade threshold total floor rows) := by
  induction rows generalizing floor with
  | nil => exact ⟨.inr ⟨rfl, by simp⟩, by simp⟩
  | cons row rows ih =>
    obtain ⟨above, rest⟩ := List.pairwise_cons.mp ascending
    rw [climb]
    split
    next reach =>
      obtain ⟨attained, highest⟩ := ih rest (grade row)
      have own : grade row ≤ climb grade threshold total (grade row) rows := by
        rcases attained with ⟨next, member, graded, -⟩ | ⟨stays, -⟩
        · rw [← graded]
          exact (above next member).1.le
        · exact stays.ge
      constructor
      · rcases attained with ⟨next, member, graded, reached⟩ | ⟨stays, -⟩
        · exact .inl ⟨next, List.mem_cons_of_mem _ member, graded, reached⟩
        · exact .inl ⟨row, List.mem_cons_self, stays.symm, reach⟩
      · intro next member reached
        rcases List.mem_cons.mp member with rfl | member
        · exact own
        · exact highest next member reached
    next short =>
      -- No later threshold is lower than the one that is out of reach.
      have unreached : ∀ next ∈ row :: rows, total < threshold next := by
        intro next member
        rcases List.mem_cons.mp member with rfl | member
        · exact not_le.mp short
        · exact lt_of_lt_of_le (not_le.mp short) (above next member).2
      refine ⟨.inr ⟨rfl, unreached⟩, fun next member reached => ?_⟩
      exact absurd reached (not_le.mpr (unreached next member))

/-- A higher total reaches no lower grade. -/
theorem climb_mono (ascending : Ascending grade threshold rows) {floor : α}
    (aboveFloor : ∀ row ∈ rows, floor ≤ grade row) {total total' : β} (grows : total ≤ total') :
    climb grade threshold total floor rows ≤ climb grade threshold total' floor rows := by
  have later := climb_highest ascending total' floor
  rcases (climb_highest ascending total floor).attained with
    ⟨row, member, graded, reach⟩ | ⟨stays, -⟩
  · rw [← graded]
    exact later.highest row member (reach.trans grows)
  · rw [stays]
    rcases later.attained with ⟨row, member, graded, -⟩ | ⟨stays', -⟩
    · rw [← graded]
      exact aboveFloor row member
    · exact stays'.ge

end Ladder
