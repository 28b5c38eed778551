import Mathlib.Data.List.Basic

/-!
# VIP patterns of public ids

`classifyPublicId`: the rules are tried in order on the decimal digits of an id, and the first that
matches decides the tier.
-/
namespace OlNode.PublicIds

inductive VipTier where
  | none | bronze | silver | gold | diamond
  deriving DecidableEq

inductive PriceGroup where
  | standard | premiumBronze | premiumSilver | premiumGold | premiumDiamond
  deriving DecidableEq

structure VipClassification where
  isVip : Bool
  tier : VipTier
  priceGroup : PriceGroup
  matchedRules : List String
  rarityScore : Nat

/-- `publicId.toString()`. -/
def decimal (publicId : Int) : List Char :=
  if publicId < 0 then '-' :: Nat.toDigits 10 publicId.natAbs
  else Nat.toDigits 10 publicId.natAbs

/-- `Number(c)` of one character; NaN is `none`. -/
def number (c : Char) : Option Nat := if c.isDigit then some (c.toNat - '0'.toNat) else none

def allSameDigits (s : List Char) : Bool :=
  match s with
  | [] => false
  | c0 :: rest => rest.all (· = c0)

/-- The first `len` digits go on from each to the next as `next` says. -/
def isRun (next : Nat → Nat → Bool) (s : List Char) (len : Nat) : Bool :=
  let sub := s.take len
  0 < len && len ≤ s.length && (sub.zip sub.tail).all fun pair =>
    match number pair.1, number pair.2 with
    | some prev, some curr => next prev curr
    | _, _ => false

def isAscendingRun : List Char → Nat → Bool := isRun fun prev curr => (curr + 10 - prev) % 10 = 1

def isDescendingRun : List Char → Nat → Bool := isRun fun prev curr => (prev + 10 - curr) % 10 = 1

def isPalindrome (s : List Char) : Bool := s = s.reverse

def isDoubleCopy (s : List Char) : Bool :=
  s.length % 2 = 0 && s.length ≠ 0 && s.take (s.length / 2) = s.drop (s.length / 2)

def isAlternating (s : List Char) : Bool :=
  match s with
  | a :: b :: _ => !allSameDigits s && a ≠ b &&
      s.zipIdx.all fun pair => pair.1 = if pair.2 % 2 = 0 then a else b
  | _ => false

def isHalvesRepeated (s : List Char) : Bool :=
  let left := s.take (s.length / 2)
  let right := s.drop (s.length / 2)
  s.length % 2 = 0 && s.length ≠ 0 && !allSameDigits s && allSameDigits left &&
    allSameDigits right && left.head? ≠ right.head?

/-- The digits of each pair, if both are the same. -/
def pairs : List Char → Option (List Char)
  | [] => some []
  | [_] => none
  | a :: b :: rest => if a = b then (pairs rest).map (a :: ·) else none

def isPairedSequence (s : List Char) : Bool :=
  s.length % 2 = 0 && 4 ≤ s.length && (pairs s).any fun digits =>
    isAscendingRun digits digits.length || isDescendingRun digits digits.length

def startsWithNSame (s : List Char) (n : Nat) : Bool :=
  0 < n && n ≤ s.length && allSameDigits (s.take n)

def endsWithNSame (s : List Char) (n : Nat) : Bool :=
  0 < n && n ≤ s.length && allSameDigits (s.drop (s.length - n))

/-- The loop of `hasRunOfN`, with the length of the run at the first digit. -/
def hasRunFrom (n run : Nat) : List Char → Bool
  | a :: b :: rest =>
    if a = b then n ≤ run + 1 || hasRunFrom n (run + 1) (b :: rest)
    else hasRunFrom n 1 (b :: rest)
  | _ => false

def hasRunOfN (s : List Char) (n : Nat) : Bool :=
  n = 0 || (n ≤ s.length && hasRunFrom n 1 s)

/-- A check of one half, for ids with an even number of digits. -/
def onHalf (half : List Char → Nat → List Char) (check : List Char → Nat → Bool) (d : List Char) :
    Bool :=
  d.length % 2 = 0 && d.length / 2 ≠ 0 && check (half d (d.length / 2)) (d.length / 2)

def firstHalf (d : List Char) (half : Nat) : List Char := d.take half

def lastHalf (d : List Char) (half : Nat) : List Char := d.drop half

structure VipRule where
  name : String
  tier : VipTier
  check : List Char → Bool

def VIP_RULES : List VipRule := [
  ⟨"all-same-digits", .diamond, allSameDigits⟩,
  ⟨"full-ascending-sequence", .diamond, fun d => isAscendingRun d d.length⟩,
  ⟨"full-descending-sequence", .diamond, fun d => isDescendingRun d d.length⟩,
  ⟨"alternating-two-digit", .diamond, isAlternating⟩,
  ⟨"palindrome", .gold, isPalindrome⟩,
  ⟨"double-copy", .gold, isDoubleCopy⟩,
  ⟨"halves-repeated", .gold, isHalvesRepeated⟩,
  ⟨"paired-sequential", .gold, isPairedSequence⟩,
  ⟨"ends-with-4-same", .silver, fun d => endsWithNSame d 4 && !allSameDigits d⟩,
  ⟨"starts-with-4-same", .silver, fun d => startsWithNSame d 4 && !allSameDigits d⟩,
  ⟨"ascending-first-half", .silver, onHalf firstHalf isAscendingRun⟩,
  ⟨"descending-first-half", .silver, onHalf firstHalf isDescendingRun⟩,
  ⟨"run-of-4", .bronze, fun d => hasRunOfN d 4 && !endsWithNSame d 4 && !startsWithNSame d 4⟩,
  ⟨"ends-with-3-same", .bronze, fun d => endsWithNSame d 3 && !endsWithNSame d 4⟩,
  ⟨"ascending-last-half", .bronze, onHalf lastHalf isAscendingRun⟩,
  ⟨"descending-last-half", .bronze, onHalf lastHalf isDescendingRun⟩]

def tierPriceAndRarity : VipTier → PriceGroup × Nat
  | .none => (.standard, 0)
  | .bronze => (.premiumBronze, 30)
  | .silver => (.premiumSilver, 55)
  | .gold => (.premiumGold, 80)
  | .diamond => (.premiumDiamond, 100)

def classifyPublicId (publicId : Int) : VipClassification :=
  let matched := VIP_RULES.filter fun rule => rule.check (decimal publicId)
  let tier := (matched.head?.map (·.tier)).getD .none
  { isVip := tier ≠ .none, tier, priceGroup := (tierPriceAndRarity tier).1,
    matchedRules := matched.map (·.name), rarityScore := (tierPriceAndRarity tier).2 }

/-- An id is VIP exactly if some rule matches it. -/
theorem isVip_iff (publicId : Int) :
    (classifyPublicId publicId).isVip = true ↔
      ∃ rule ∈ VIP_RULES, rule.check (decimal publicId) = true := by
  have tiers : ∀ rule ∈ VIP_RULES, rule.tier ≠ .none := by
    simp [VIP_RULES]
  unfold classifyPublicId
  cases found : VIP_RULES.filter fun rule => rule.check (decimal publicId) with
  | nil =>
    rw [List.filter_eq_nil_iff] at found
    simpa using found
  | cons rule rest =>
    have member : rule ∈ VIP_RULES.filter fun rule => rule.check (decimal publicId) := by
      rw [found]
      exact List.mem_cons_self
    obtain ⟨known, matched⟩ := List.mem_filter.mp member
    simp only [List.head?_cons, Option.map_some, Option.getD_some]
    exact ⟨fun _ => ⟨rule, known, matched⟩, fun _ => decide_eq_true (tiers rule known)⟩

example : (classifyPublicId 12344321).matchedRules = ["palindrome", "ascending-first-half",
    "descending-last-half"] := by
  decide

end OlNode.PublicIds
