import OlNode.EvenRuns
import OlNode.LuckyWater.Engine

/-!
# The breakdown of a draw

`collapseBreakdown` sums the rewards of a draw in at most `maxGroups` groups, the steps that the
app walks. The array is read here as the source reads it, by an index that runs over all groups.
-/
namespace OlNode

open EvenRuns

variable {perUnit : List Int}

/-- `for (let k = 0; k < size; k++) sum += perUnit[idx++]`. Past the end of the array there is no
BigInt to add, and the addition throws. -/
def sumUnits (perUnit : List Int) : Nat → Int × Nat → Option (Int × Nat)
  | 0, s => some s
  | size + 1, (sum, idx) => do
    let unit ← perUnit[idx]?
    sumUnits perUnit size (sum + unit, idx + 1)

def pushGroup (perUnit : List Int) (base extra : Nat) (s : List Int × Nat) (g : Nat) :
    Option (List Int × Nat) := do
  let size := base + if g < extra then 1 else 0
  let (sum, idx) ← sumUnits perUnit size (0, s.2)
  pure (s.1 ++ [sum], idx)

def collapseBreakdownReads (perUnit : List Int) (maxGroups : Nat := 10) : Option (List Int) :=
  let n := perUnit.length
  if n ≤ maxGroups then some perUnit
  else do
    let s ← (List.range maxGroups).foldlM (pushGroup perUnit (n / maxGroups) (n % maxGroups)) ([], 0)
    pure s.1

theorem sumUnits_eq {size idx : Nat} (sum : Int) (inside : idx + size ≤ perUnit.length) :
    sumUnits perUnit size (sum, idx) =
      some (sum + ((perUnit.drop idx).take size).sum, idx + size) := by
  induction size generalizing sum idx with
  | zero => simp [sumUnits]
  | succ size ih =>
    have read : idx < perUnit.length := by omega
    rw [sumUnits, List.getElem?_eq_getElem read, Option.bind_eq_bind, Option.bind_some,
      ih _ (by omega), List.drop_eq_getElem_cons read, List.take_succ_cons, List.sum_cons]
    simp only [Option.some.injEq, Prod.mk.injEq]
    constructor <;> omega

variable (n maxGroups : Nat)

/-- The passes over some groups add their runs, and read them all. -/
theorem foldlM_pushGroup (groups : List Nat) (out : List Int) {idx : Nat}
    (inside : idx + (groups.map (size n maxGroups)).sum ≤ perUnit.length) :
    groups.foldlM (pushGroup perUnit (n / maxGroups) (n % maxGroups)) (out, idx) =
      some (out ++ ((groups.map (size n maxGroups)).splitLengths (perUnit.drop idx)).map List.sum,
        idx + (groups.map (size n maxGroups)).sum) := by
  induction groups generalizing out idx with
  | nil => simp
  | cons g groups ih =>
    rw [List.map_cons, List.sum_cons] at inside
    have pass : pushGroup perUnit (n / maxGroups) (n % maxGroups) (out, idx) g =
        some (out ++ [((perUnit.drop idx).take (size n maxGroups g)).sum],
          idx + size n maxGroups g) := by
      have units : sumUnits perUnit (size n maxGroups g) (0, idx) = _ := sumUnits_eq 0 (by omega)
      change (sumUnits perUnit (size n maxGroups g) (0, idx)).bind _ = _
      rw [units, Int.zero_add]
      rfl
    rw [List.foldlM_cons, pass, Option.bind_eq_bind, Option.bind_some, ih _ (by omega)]
    simp [Nat.add_assoc]

theorem foldl_collapseStep (groups : List Nat) (out left : List Int) :
    (groups.foldl (collapseStep (n / maxGroups) (n % maxGroups)) (out, left)).1 =
      out ++ ((groups.map (size n maxGroups)).splitLengths left).map List.sum := by
  induction groups generalizing out left with
  | nil => simp
  | cons g groups ih =>
    rw [List.foldl_cons, collapseStep, ih]
    simp [size]

variable {maxGroups}

/-- The runs whose sums are the entries. -/
theorem collapseBreakdown_runs (perUnit : List Int) (positive : 0 < maxGroups) :
    ∃ runs, Cuts perUnit (min perUnit.length maxGroups) runs ∧
      collapseBreakdownReads perUnit maxGroups = some (runs.map List.sum) ∧
      collapseBreakdown perUnit maxGroups = runs.map List.sum := by
  unfold collapseBreakdownReads collapseBreakdown
  dsimp only
  split
  next few =>
    refine ⟨perUnit.map fun unit => [unit], ?_, ?_, ?_⟩
    · rw [Nat.min_eq_left few]
      exact cuts_singletons perUnit
    · simp [Function.comp_def]
    · simp [Function.comp_def]
  next many =>
    have enough : maxGroups ≤ perUnit.length := by omega
    have whole := sum_all_sizes positive perUnit.length
    refine ⟨cut perUnit maxGroups, ?_, ?_, ?_⟩
    · rw [Nat.min_eq_right enough]
      exact cuts_cut positive enough
    · rw [foldlM_pushGroup perUnit.length maxGroups (List.range maxGroups) [] (by omega)]
      simp [cut]
    · rw [foldl_collapseStep]
      rfl

/-- The groups add up to the whole array. -/
theorem collapseBreakdown_sum (perUnit : List Int) (maxGroups : Nat) (positive : 0 < maxGroups) :
    (collapseBreakdown perUnit maxGroups).sum = perUnit.sum := by
  obtain ⟨runs, cuts, -, entries⟩ := collapseBreakdown_runs perUnit positive
  rw [entries, ← List.sum_flatten, cuts.inOrder]

/-- Every read finds its unit, and the entries are the sums of even runs. -/
theorem collapseBreakdown_even (perUnit : List Int) (maxGroups : Nat) (positive : 0 < maxGroups) :
    ∃ entries, collapseBreakdownReads perUnit maxGroups = some entries ∧
      collapseBreakdown perUnit maxGroups = entries ∧
      entries.length = min perUnit.length maxGroups ∧ entries.sum = perUnit.sum ∧
      ∃ runs, Cuts perUnit entries.length runs ∧ entries = runs.map List.sum := by
  obtain ⟨runs, cuts, reads, entries⟩ := collapseBreakdown_runs perUnit positive
  have length : (runs.map List.sum).length = min perUnit.length maxGroups := by
    rw [List.length_map, cuts.count]
  have total := collapseBreakdown_sum perUnit maxGroups positive
  rw [entries] at total
  exact ⟨_, reads, entries, length, total, runs, length ▸ cuts, rfl⟩

/-- Runs of three, two and two units. -/
theorem collapseBreakdown_even_seven :
    collapseBreakdownReads [0, 1, 2, 3, 4, 5, 6] 3 = some [3, 7, 11] ∧
      ∃ runs : List (List Int), Cuts [0, 1, 2, 3, 4, 5, 6] 3 runs ∧
        [3, 7, 11] = runs.map List.sum := by
  obtain ⟨entries, reads, -, -, -, cut⟩ :=
    collapseBreakdown_even [0, 1, 2, 3, 4, 5, 6] 3 (by decide)
  obtain rfl : [3, 7, 11] = entries := Option.some.inj (Eq.trans (by decide) reads)
  exact ⟨reads, cut⟩

end OlNode
