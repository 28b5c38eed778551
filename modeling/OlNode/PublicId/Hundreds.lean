import OlNode.PublicId.Classifier
import Mathlib.Data.Nat.Digits.Defs

/-!
# Hundreds of public ids

The ids of a hundred differ in their last two digits only. If the digits before have a run of four,
or the first half of the id is a run, all of them are VIP ids. Otherwise some are not, since every
other pattern says something about the last digit.
-/
namespace OlNode.PublicIds

/-- The leading digits make VIP ids of the whole hundred. -/
def isFixedHundred (leading : List Char) : Bool :=
  hasRunOfN leading 4 ||
    leading.length % 2 = 0 &&
      (isAscendingRun (leading.take (leading.length / 2 + 1)) (leading.length / 2 + 1) ||
        isDescendingRun (leading.take (leading.length / 2 + 1)) (leading.length / 2 + 1))

/-! ### Runs of equal digits -/

variable {xs : List Char}

theorem hasRunFrom_append {n run : Nat} (ys : List Char) (runs : hasRunFrom n run xs = true) :
    hasRunFrom n run (xs ++ ys) = true := by
  fun_induction hasRunFrom n run xs with
  | case1 run a rest ih =>
    simp only [List.cons_append, hasRunFrom, if_true, Bool.or_eq_true] at runs ⊢
    exact runs.imp id fun more => ih more
  | case2 run a b rest different ih =>
    simp only [List.cons_append, hasRunFrom, different, if_false] at runs ⊢
    exact ih runs
  | case3 xs run short => simp at runs

/-- Two more digits, each different from the one before, make no run. -/
theorem hasRunFrom_of_append {n run : Nat} {a b : Char} (last : xs.getLast? ≠ some a)
    (different : a ≠ b) (runs : hasRunFrom n run (xs ++ [a, b]) = true) :
    hasRunFrom n run xs = true := by
  fun_induction hasRunFrom n run xs with
  | case1 run c rest ih =>
    simp only [List.cons_append, hasRunFrom, if_true, Bool.or_eq_true] at runs ⊢
    exact runs.imp id fun more => ih (by simpa using last) more
  | case2 run c d rest differ ih =>
    simp only [List.cons_append, hasRunFrom, differ, if_false] at runs ⊢
    exact ih (by simpa using last) runs
  | case3 xs run short =>
    match xs with
    | [] =>
      simp [hasRunFrom, different] at runs
    | [c] =>
      have differ : c ≠ a := by simpa using last
      simp [hasRunFrom, different, differ] at runs
    | c :: d :: rest => exact absurd rfl (short c d rest)

/-! ### Patterns of the whole -/

theorem last_pair_mem (xs : List Char) (a b : Char) :
    (a, b) ∈ (xs ++ [a, b]).zip (xs ++ [a, b]).tail := by
  induction xs with
  | nil => simp
  | cons x xs ih =>
    cases xs with
    | nil => simp
    | cons y xs => exact List.mem_cons_of_mem _ ih

theorem isRun_append {next : Nat → Nat → Bool} {a b : Char} {m n : Nat}
    (first : number a = some m) (second : number b = some n)
    (run : isRun next (xs ++ [a, b]) (xs ++ [a, b]).length = true) : next m n = true := by
  unfold isRun at run
  rw [List.take_length] at run
  simp only [Bool.and_eq_true, List.all_eq_true] at run
  have holds := run.2 (a, b) (last_pair_mem xs a b)
  simpa [first, second] using holds

theorem pairs_append {a b : Char} (even : xs.length % 2 = 0)
    (paired : (pairs (xs ++ [a, b])).isSome = true) : a = b := by
  fun_induction pairs xs with
  | case1 =>
    by_contra different
    simp [pairs, different] at paired
  | case2 c => simp at even
  | case3 c rest ih =>
    apply ih
    · simp only [List.length_cons] at even
      omega
    · simpa [pairs] using paired
  | case4 c d rest different => simp [pairs, different] at paired

theorem allSameDigits_append {a b : Char} (same : allSameDigits (xs ++ [a, b]) = true) : a = b := by
  cases xs with
  | nil =>
    simp only [List.nil_append, allSameDigits, List.all_cons, List.all_nil, Bool.and_true,
      decide_eq_true_eq] at same
    exact same.symm
  | cons x xs =>
    simp only [List.cons_append, allSameDigits, List.all_append, List.all_cons, List.all_nil,
      Bool.and_true, Bool.and_eq_true, decide_eq_true_eq] at same
    exact same.2.1.trans same.2.2.symm

theorem isAlternating_append {z a b : Char} (alternating : isAlternating (xs ++ [z, a, b]) = true) :
    z = b := by
  have all : ∃ even odd : Char, ∀ pair ∈ (xs ++ [z, a, b]).zipIdx,
      pair.1 = if pair.2 % 2 = 0 then even else odd := by
    unfold isAlternating at alternating
    split at alternating
    next even odd rest equal =>
      simp only [Bool.and_eq_true, List.all_eq_true, decide_eq_true_eq] at alternating
      exact ⟨even, odd, alternating.2⟩
    next => simp at alternating
  obtain ⟨even, odd, all⟩ := all
  have before := all (z, xs.length) (by simp [List.mem_zipIdx_iff_getElem?])
  have last := all (b, xs.length + 2) (by simp [List.mem_zipIdx_iff_getElem?])
  have parity : (xs.length + 2) % 2 = xs.length % 2 := by omega
  simp only [parity] at before last
  exact before.trans last.symm

theorem isPalindrome_append {x a b : Char} (first : xs.head? = some x)
    (palindrome : isPalindrome (xs ++ [a, b]) = true) : x = b := by
  simp only [isPalindrome, decide_eq_true_eq] at palindrome
  have ends := congrArg List.head? palindrome
  simpa [first] using ends

theorem isDoubleCopy_append {x a b : Char} (nonempty : xs ≠ [])
    (middle : xs[xs.length / 2]? = some x) (double : isDoubleCopy (xs ++ [a, b]) = true) :
    x = b := by
  simp only [isDoubleCopy, Bool.and_eq_true, decide_eq_true_eq] at double
  obtain ⟨⟨even, -⟩, copies⟩ := double
  have long := List.length_pos_iff.mpr nonempty
  have length : (xs ++ [a, b]).length = xs.length + 2 := by simp
  rw [length] at even copies
  have half : (xs.length + 2) / 2 = xs.length / 2 + 1 := by omega
  have last := congrArg (·[xs.length / 2]?) copies
  have index : xs.length / 2 + 1 + xs.length / 2 = xs.length + 1 := by omega
  simp only [half, List.getElem?_take, List.getElem?_drop, index] at last
  rw [if_pos (by omega), List.getElem?_append_left (by omega), middle] at last
  simpa using last

/-! ### Fixed hundreds -/

/-- Two last digits that no pattern fits, whatever the number of digits before. -/
structure PlainEnding (leading : List Char) (a b : Char) : Prop where
  run : leading.getLast? ≠ some a
  alternation : leading.getLast? ≠ some b
  palindrome : leading.head? ≠ some b
  copy : leading[leading.length / 2]? ≠ some b
  pair : a ≠ b
  step : ∃ m n, number a = some m ∧ number b = some n ∧ (n + 10 - m) % 10 ≠ 1 ∧
    (m + 10 - n) % 10 ≠ 1

theorem hasRunOfN_append {leading : List Char} {n : Nat} (ys : List Char)
    (runs : hasRunOfN leading n = true) : hasRunOfN (leading ++ ys) n = true := by
  simp only [hasRunOfN, Bool.or_eq_true, Bool.and_eq_true, decide_eq_true_eq] at runs ⊢
  refine runs.imp id fun ⟨long, run⟩ => ⟨?_, hasRunFrom_append ys run⟩
  rw [List.length_append]
  omega

theorem startsWithNSame_append {leading : List Char} (long : 4 ≤ leading.length) (ys : List Char)
    (same : startsWithNSame (leading ++ ys) 4 = true) : hasRunOfN leading 4 = true := by
  match leading, long with
  | c :: d :: e :: f :: rest, _ =>
    simp only [startsWithNSame, List.cons_append, List.take_succ_cons, List.take_zero,
      allSameDigits, Bool.and_eq_true, List.all_cons, List.all_nil, decide_eq_true_eq] at same
    obtain ⟨-, rfl, rfl, rfl, -⟩ := same
    simp [hasRunOfN, hasRunFrom]

section Ending

variable {leading : List Char} {a b : Char}

/-- A check of the first half does not see the last two digits. -/
theorem onHalf_firstHalf_append (check : List Char → Nat → Bool) (long : 2 ≤ leading.length) :
    onHalf firstHalf check (leading ++ [a, b]) = (leading.length % 2 = 0 &&
      check (leading.take (leading.length / 2 + 1)) (leading.length / 2 + 1)) := by
  have length : (leading ++ [a, b]).length = leading.length + 2 := by simp
  have half : (leading.length + 2) / 2 = leading.length / 2 + 1 := by omega
  have parity : (leading.length + 2) % 2 = leading.length % 2 := by omega
  unfold onHalf firstHalf
  rw [length, half, parity, List.take_append_of_le_length (by omega)]
  simp

theorem matches_of_isFixedHundred (long : 2 ≤ leading.length)
    (fixed : isFixedHundred leading = true) :
    ∃ rule ∈ VIP_RULES, rule.check (leading ++ [a, b]) = true := by
  simp only [isFixedHundred, Bool.or_eq_true, Bool.and_eq_true, decide_eq_true_eq] at fixed
  rcases fixed with run | ⟨even, ascending | descending⟩
  · have run := hasRunOfN_append [a, b] run
    by_cases same : allSameDigits (leading ++ [a, b]) = true
    · exact ⟨_, List.mem_of_getElem? (i := 0) rfl, same⟩
    · by_cases ends : endsWithNSame (leading ++ [a, b]) 4 = true
      · exact ⟨_, List.mem_of_getElem? (i := 8) rfl, by simp [ends, same]⟩
      · by_cases starts : startsWithNSame (leading ++ [a, b]) 4 = true
        · exact ⟨_, List.mem_of_getElem? (i := 9) rfl, by simp [starts, same]⟩
        · exact ⟨_, List.mem_of_getElem? (i := 12) rfl, by simp [run, ends, starts]⟩
  · refine ⟨_, List.mem_of_getElem? (i := 10) rfl, ?_⟩
    simp [onHalf_firstHalf_append isAscendingRun long, even, ascending]
  · refine ⟨_, List.mem_of_getElem? (i := 11) rfl, ?_⟩
    simp [onHalf_firstHalf_append isDescendingRun long, even, descending]

namespace PlainEnding

variable (plain : PlainEnding leading a b)
include plain

theorem not_isAscendingRun (xs : List Char) :
    isAscendingRun (xs ++ [a, b]) (xs ++ [a, b]).length = false := by
  obtain ⟨m, n, first, second, up, -⟩ := plain.step
  by_contra runs
  have next := isRun_append first second (Bool.not_eq_false _ ▸ runs)
  exact up (of_decide_eq_true next)

theorem not_isDescendingRun (xs : List Char) :
    isDescendingRun (xs ++ [a, b]) (xs ++ [a, b]).length = false := by
  obtain ⟨m, n, first, second, -, down⟩ := plain.step
  by_contra runs
  have next := isRun_append first second (Bool.not_eq_false _ ▸ runs)
  exact down (of_decide_eq_true next)

theorem not_allSameDigits (xs : List Char) : allSameDigits (xs ++ [a, b]) = false := by
  by_contra same
  exact plain.pair (allSameDigits_append (Bool.not_eq_false _ ▸ same))

theorem not_isAlternating (nonempty : leading ≠ []) : isAlternating (leading ++ [a, b]) = false := by
  by_contra alternating
  rw [Bool.not_eq_false] at alternating
  have split : leading = leading.dropLast ++ [leading.getLast nonempty] :=
    (List.dropLast_append_getLast nonempty).symm
  rw [split, List.append_assoc] at alternating
  have same := isAlternating_append alternating
  exact plain.alternation (same ▸ List.getLast?_eq_some_getLast nonempty)

theorem not_isPalindrome (nonempty : leading ≠ []) : isPalindrome (leading ++ [a, b]) = false := by
  by_contra palindrome
  rw [Bool.not_eq_false] at palindrome
  have same := isPalindrome_append (List.head?_eq_some_head nonempty) palindrome
  exact plain.palindrome (same ▸ List.head?_eq_some_head nonempty)

theorem not_isDoubleCopy (nonempty : leading ≠ []) : isDoubleCopy (leading ++ [a, b]) = false := by
  by_contra double
  rw [Bool.not_eq_false] at double
  have long := List.length_pos_iff.mpr nonempty
  have middle : leading[leading.length / 2]? = some leading[leading.length / 2] :=
    List.getElem?_eq_getElem (by omega)
  have same := isDoubleCopy_append nonempty middle double
  exact plain.copy (same ▸ middle)

theorem not_isHalvesRepeated (long : 2 ≤ leading.length) :
    isHalvesRepeated (leading ++ [a, b]) = false := by
  have length : (leading ++ [a, b]).length = leading.length + 2 := by simp
  have right : (leading ++ [a, b]).drop ((leading.length + 2) / 2) =
      leading.drop ((leading.length + 2) / 2) ++ [a, b] :=
    List.drop_append_of_le_length (by omega)
  simp only [isHalvesRepeated, length, right, plain.not_allSameDigits, Bool.and_false,
    Bool.false_and]

theorem not_isPairedSequence : isPairedSequence (leading ++ [a, b]) = false := by
  have length : (leading ++ [a, b]).length = leading.length + 2 := by simp
  by_contra paired
  simp only [isPairedSequence, length, Bool.not_eq_false, Bool.and_eq_true, decide_eq_true_eq,
    Option.any_eq_true] at paired
  obtain ⟨⟨even, -⟩, digits, found, -⟩ := paired
  have even' : leading.length % 2 = 0 := by omega
  exact plain.pair (pairs_append even' (by rw [found]; rfl))

theorem not_endsWithNSame {n : Nat} (several : 2 ≤ n) :
    endsWithNSame (leading ++ [a, b]) n = false := by
  by_contra same
  simp only [endsWithNSame, Bool.not_eq_false, Bool.and_eq_true, decide_eq_true_eq,
    List.length_append, List.length_cons, List.length_nil] at same
  obtain ⟨⟨-, long⟩, same⟩ := same
  rw [List.drop_append_of_le_length (by omega), plain.not_allSameDigits] at same
  exact Bool.false_ne_true same

omit plain in
theorem not_onHalf_lastHalf (long : 2 ≤ leading.length) {check : List Char → Nat → Bool}
    (fails : ∀ xs, check (xs ++ [a, b]) (xs ++ [a, b]).length = false) :
    onHalf lastHalf check (leading ++ [a, b]) = false := by
  have length : (leading ++ [a, b]).length = leading.length + 2 := by simp
  by_contra half
  simp only [onHalf, lastHalf, length, Bool.not_eq_false, Bool.and_eq_true,
    decide_eq_true_eq] at half
  obtain ⟨⟨even, -⟩, run⟩ := half
  have rest := fails (leading.drop ((leading.length + 2) / 2))
  rw [List.length_append, List.length_drop] at rest
  have size : leading.length - (leading.length + 2) / 2 + [a, b].length =
      (leading.length + 2) / 2 := by
    simp only [List.length_cons, List.length_nil]
    omega
  rw [List.drop_append_of_le_length (by omega)] at run
  rw [size, run] at rest
  exact Bool.false_ne_true rest.symm

theorem not_hasRunOfN (long : 4 ≤ leading.length) (none : hasRunOfN leading 4 = false) :
    hasRunOfN (leading ++ [a, b]) 4 = false := by
  by_contra run
  simp only [hasRunOfN, Bool.not_eq_false, Bool.or_eq_true, Bool.and_eq_true,
    decide_eq_true_eq] at run
  have before := hasRunFrom_of_append plain.run plain.pair (run.resolve_left (by omega)).2
  simp [hasRunOfN, long, before] at none

/-- With such an ending, no rule matches an id of a hundred that is not fixed. -/
theorem not_matches (long : 4 ≤ leading.length) (free : isFixedHundred leading = false) :
    ∀ rule ∈ VIP_RULES, rule.check (leading ++ [a, b]) = false := by
  have nonempty : leading ≠ [] := List.length_pos_iff.mp (by omega)
  simp only [isFixedHundred, Bool.or_eq_false_iff, Bool.and_eq_false_iff] at free
  obtain ⟨noRun, halves⟩ := free
  have starts : startsWithNSame (leading ++ [a, b]) 4 = false := by
    by_contra same
    have run := startsWithNSame_append long [a, b] (Bool.not_eq_false _ ▸ same)
    rw [noRun] at run
    exact Bool.false_ne_true run
  have two : 2 ≤ leading.length := by omega
  have first : ∀ check, check = isAscendingRun ∨ check = isDescendingRun →
      onHalf firstHalf check (leading ++ [a, b]) = false := by
    intro check run
    rw [onHalf_firstHalf_append check two, Bool.and_eq_false_iff]
    rcases run with rfl | rfl
    · exact halves.imp id fun both => both.1
    · exact halves.imp id fun both => both.2
  simpa [VIP_RULES, plain.not_allSameDigits, plain.not_isAlternating nonempty,
    plain.not_isPalindrome nonempty, plain.not_isDoubleCopy nonempty, plain.not_isHalvesRepeated two, plain.not_isPairedSequence,
    plain.not_endsWithNSame, starts, first, plain.not_hasRunOfN long noRun,
    not_onHalf_lastHalf two plain.not_isAscendingRun,
    not_onHalf_lastHalf two plain.not_isDescendingRun] using
    And.intro (plain.not_isAscendingRun leading) (plain.not_isDescendingRun leading)

end PlainEnding

end Ending

/-! ### Hundreds -/

theorem exists_other (x y z : Option Char) : ∃ n, (n = 2 ∨ n = 3 ∨ n = 7 ∨ n = 8) ∧
    x ≠ some (Nat.digitChar n) ∧ y ≠ some (Nat.digitChar n) ∧ z ≠ some (Nat.digitChar n) := by
  by_contra none
  have taken : ∀ n, (n = 2 ∨ n = 3 ∨ n = 7 ∨ n = 8) →
      x = some (Nat.digitChar n) ∨ y = some (Nat.digitChar n) ∨ z = some (Nat.digitChar n) := by
    intro n candidate
    by_contra other
    simp only [not_or] at other
    exact none ⟨n, candidate, other⟩
  have two := taken 2 (by simp)
  have three := taken 3 (by simp)
  have seven := taken 7 (by simp)
  have eight := taken 8 (by simp)
  simp only [Nat.digitChar] at two three seven eight
  grind

theorem exists_plainEnding (leading : List Char) :
    ∃ s < 100, PlainEnding leading (Nat.digitChar (s / 10)) (Nat.digitChar (s % 10)) := by
  obtain ⟨b, candidate, last, first, middle⟩ := exists_other leading.getLast? leading.head?
    leading[leading.length / 2]?
  obtain ⟨a, choice, run⟩ : ∃ a, (a = 0 ∨ a = 5) ∧ leading.getLast? ≠ some (Nat.digitChar a) := by
    by_cases zero : leading.getLast? = some (Nat.digitChar 0)
    · exact ⟨5, Or.inr rfl, by rw [zero]; decide⟩
    · exact ⟨0, Or.inl rfl, zero⟩
  have tens : (10 * a + b) / 10 = a := by omega
  have ones : (10 * a + b) % 10 = b := by omega
  refine ⟨10 * a + b, by omega, ?_⟩
  rw [tens, ones]
  refine ⟨run, last, first, middle, ?_, a, b, ?_⟩
  · rcases choice with rfl | rfl <;> rcases candidate with rfl | rfl | rfl | rfl <;> decide
  · rcases choice with rfl | rfl <;> rcases candidate with rfl | rfl | rfl | rfl <;> decide

theorem decimal_hundred {p : Nat} (positive : 0 < p) {s : Nat} (within : s < 100) :
    decimal ((100 * p + s : Nat) : Int) =
      Nat.toDigits 10 p ++ [Nat.digitChar (s / 10), Nat.digitChar (s % 10)] := by
  have tens : (100 * p + s) / 10 = 10 * p + s / 10 := by omega
  have ones : (100 * p + s) % 10 = s % 10 := by omega
  have hundreds : (10 * p + s / 10) / 10 = p := by omega
  have tens' : (10 * p + s / 10) % 10 = s / 10 := by omega
  rw [decimal, if_neg (by omega), Int.natAbs_natCast, Nat.toDigits_of_base_le (by omega) (by omega),
    tens, ones, Nat.toDigits_of_base_le (by omega) (by omega), hundreds, tens', List.append_assoc]
  rfl

/-- The digits of all ids of the hundred before their last two. -/
def fixedHundred (p : Nat) : Bool := isFixedHundred (Nat.toDigits 10 p)

/-- A hundred has VIP ids only if and only if its leading digits fix it. -/
theorem fixedHundred_iff {p : Nat} (long : 1000 ≤ p) : fixedHundred p = true ↔
    ∀ s < 100, (classifyPublicId ((100 * p + s : Nat) : Int)).isVip = true := by
  have length : 4 ≤ (Nat.toDigits 10 p).length := by
    have three := (Nat.length_toDigits_le_iff (show 1 < 10 by omega) (show 0 < 3 by omega)).mp.mt
      (show ¬ p < 10 ^ 3 by omega)
    omega
  constructor
  · intro fixed s within
    rw [isVip_iff, decimal_hundred (by omega) within]
    exact matches_of_isFixedHundred (by omega) fixed
  · intro all
    by_contra free
    rw [Bool.not_eq_true] at free
    obtain ⟨s, within, plain⟩ := exists_plainEnding (Nat.toDigits 10 p)
    have vip := all s within
    rw [isVip_iff, decimal_hundred (by omega) within] at vip
    obtain ⟨rule, known, matched⟩ := vip
    rw [plain.not_matches length free rule known] at matched
    exact Bool.false_ne_true matched

end OlNode.PublicIds
