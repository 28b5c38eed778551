import OlNode.Membership.Operations

/-!
# The audit of VIP expiries

The audit replays the purchases of a user from the instants at which their rows were created, which
are not those at which their expiries were computed. An expiry is a maximum plus a constant, so the
replay is never further off than the worst of these instants, however long the history is and
whichever of the two stacks where the other restarts.
-/
namespace OlNode.VipAudit

open Memberships (computeProposedExpiresAt addUtcDays VIP_MS_PER_DAY vipKey)

def VIP_EXPIRY_TOLERANCE_MS : Nat := 2000

structure VipPurchaseReplayRow where
  id : Nat
  createdAt : Time
  periodDays : Nat
  expiresAtAfter : Time
  coinCost : Int
  ledgerEntryId : LedgerKey

namespace VipPurchaseReplayRow

/-- The comparison of the sort, which is stable. -/
def createdBefore (a b : VipPurchaseReplayRow) : Prop := a.createdAt ≤ b.createdAt

instance : DecidableRel createdBefore :=
  fun a b => inferInstanceAs (Decidable (a.createdAt ≤ b.createdAt))

instance : Std.Total createdBefore where
  total a b := Nat.le_total a.createdAt b.createdAt

instance : IsTrans VipPurchaseReplayRow createdBefore where
  trans _ _ _ first second := Nat.le_trans first second

end VipPurchaseReplayRow

open VipPurchaseReplayRow (createdBefore)

/-- The loop of `reconstructVipExpiresAt`. -/
def replay (current : Option Time) (p : VipPurchaseReplayRow) : Option Time :=
  let base := match current with
    | some expiresAt => if p.createdAt < expiresAt then expiresAt else p.createdAt
    | none => p.createdAt
  some (addUtcDays base p.periodDays)

def reconstructVipExpiresAt (purchases : List VipPurchaseReplayRow) : Option Time :=
  if purchases.isEmpty then none
  else (purchases.insertionSort createdBefore).foldl replay none

def vipExpiresDisagree : Option Time → Option Time → Bool
  | none, none => false
  | some actual, some expected =>
    VIP_EXPIRY_TOLERANCE_MS < ((actual : Int) - (expected : Int)).natAbs
  | _, _ => true

inductive VipDraft where
  | activeWithoutPurchase
  | expiryMismatch (expected actual : Option Time) (purchaseCount : Nat)

/-- The part of `scanVipEntitlements` about one user and the rows of that user. -/
def auditVipUser (now : Time) (vipSubscriptionActive : Bool)
    (vipSubscriptionExpiresAt : Option Time) (purchases : List VipPurchaseReplayRow) :
    Option VipDraft :=
  let isActive := vipSubscriptionExpiresAt.any (now < ·) || vipSubscriptionActive
  if isActive && purchases.isEmpty then some .activeWithoutPurchase
  else
    let expected := reconstructVipExpiresAt purchases
    if vipExpiresDisagree vipSubscriptionExpiresAt expected
    then some (.expiryMismatch expected vipSubscriptionExpiresAt purchases.length)
    else none

/-! ### Purchases and their instants -/

/-- A row, and the instant at which its expiry was computed. -/
abbrev TimedPurchase := Time × VipPurchaseReplayRow

/-- Every expiry is computed from the one before. -/
def ComputedFrom (current : Option Time) : List TimedPurchase → Prop
  | [] => True
  | (now, p) :: later => p.expiresAtAfter = computeProposedExpiresAt now current p.periodDays ∧
      ComputedFrom (some p.expiresAtAfter) later

def Near (T a b : Nat) : Prop := a ≤ b + T ∧ b ≤ a + T

/-- The purchases of a user, oldest first, whose rows were created near the instants at which their
expiries were computed. -/
structure Purchases (T : Nat) (history : List TimedPurchase) : Prop where
  computed : ComputedFrom none history
  instants : history.Pairwise fun a b => a.1 ≤ b.1
  created : history.Pairwise fun a b => createdBefore a.2 b.2
  near : ∀ bought ∈ history, Near T bought.2.createdAt bought.1

def rows (history : List TimedPurchase) : List VipPurchaseReplayRow := history.map (·.2)

def lastExpiresAt (history : List TimedPurchase) : Option Time :=
  history.getLast?.map (·.2.expiresAtAfter)

/-! ### The replay -/

def Agree (T : Nat) : Option Time → Option Time → Prop
  | none, none => True
  | some a, some b => Near T a b
  | _, _ => False

private theorem replay_some (expiresAt : Nat) (p : VipPurchaseReplayRow) :
    replay (some expiresAt) p =
      some (max expiresAt p.createdAt + p.periodDays * VIP_MS_PER_DAY) := by
  unfold replay addUtcDays
  rw [max_def]
  grind

private theorem replay_none (p : VipPurchaseReplayRow) :
    replay none p = some (p.createdAt + p.periodDays * VIP_MS_PER_DAY) := rfl

private theorem proposed_some (now expiresAt periodDays : Nat) :
    computeProposedExpiresAt now (some expiresAt) periodDays =
      max expiresAt now + periodDays * VIP_MS_PER_DAY := by
  unfold computeProposedExpiresAt addUtcDays
  rw [max_def]
  grind

theorem Near.max_add {T a b c d : Nat} (first : Near T a b) (second : Near T c d) (k : Nat) :
    Near T (max a c + k) (max b d + k) := by
  unfold Near at *
  omega

theorem Near.add {T a b : Nat} (near : Near T a b) (k : Nat) : Near T (a + k) (b + k) := by
  unfold Near at *
  omega

private theorem replay_near {T : Nat} {current replayed : Option Time} {now : Time}
    {p : VipPurchaseReplayRow} (agree : Agree T replayed current) (near : Near T p.createdAt now) :
    Agree T (replay replayed p) (some (computeProposedExpiresAt now current p.periodDays)) := by
  cases current with
  | none =>
    cases replayed with
    | none => exact near.add _
    | some r => exact agree.elim
  | some expiresAt =>
    cases replayed with
    | none => exact agree.elim
    | some r =>
      rw [replay_some, proposed_some]
      exact Near.max_add agree near _

private theorem foldl_near {T : Nat} {history : List TimedPurchase} {current replayed : Option Time}
    (computed : ComputedFrom current history)
    (near : ∀ bought ∈ history, Near T bought.2.createdAt bought.1)
    (agree : Agree T replayed current) :
    Agree T ((rows history).foldl replay replayed) ((lastExpiresAt history).or current) := by
  induction history generalizing current replayed with
  | nil => simpa [rows, lastExpiresAt] using agree
  | cons bought later ih =>
    obtain ⟨now, p⟩ := bought
    obtain ⟨expiry, rest⟩ := computed
    have next := replay_near agree (near (now, p) List.mem_cons_self)
    rw [← expiry] at next
    have final := ih rest (fun bought member => near bought (List.mem_cons_of_mem _ member)) next
    have last : (lastExpiresAt ((now, p) :: later)).or current =
        (lastExpiresAt later).or (some p.expiresAtAfter) := by
      unfold lastExpiresAt
      cases later with
      | nil => rfl
      | cons next later => simp [List.getLast?_cons]
    rw [last]
    exact final

/-! ### Rows of one millisecond -/

/-- The query does not say in which order it returns purchases of one millisecond. It need not: their
periods are added in any order. -/
private theorem replay_comm (current : Option Time) {p q : VipPurchaseReplayRow}
    (tie : p.createdAt = q.createdAt) :
    replay (replay current p) q = replay (replay current q) p := by
  generalize periodP : p.periodDays * VIP_MS_PER_DAY = a
  generalize periodQ : q.periodDays * VIP_MS_PER_DAY = b
  cases current with
  | none =>
    rw [replay_none, replay_none, replay_some, replay_some, tie, periodP, periodQ]
    congr 1
    omega
  | some expiresAt =>
    simp only [replay_some, tie, periodP, periodQ]
    congr 1
    omega

private theorem foldl_front (current : Option Time) (p : VipPurchaseReplayRow)
    (before after : List VipPurchaseReplayRow) (ties : ∀ q ∈ before, q.createdAt = p.createdAt) :
    (before ++ p :: after).foldl replay current = (p :: before ++ after).foldl replay current := by
  induction before generalizing current with
  | nil => rfl
  | cons q before ih =>
    have tie := ties q List.mem_cons_self
    have later := ih (replay current q) fun r member => ties r (List.mem_cons_of_mem _ member)
    simp only [List.cons_append, List.foldl_cons] at later ⊢
    rw [later, replay_comm current tie]

private theorem foldl_perm {first second : List VipPurchaseReplayRow} (perm : first.Perm second)
    (sorted : first.Pairwise createdBefore) (sorted' : second.Pairwise createdBefore)
    (current : Option Time) : first.foldl replay current = second.foldl replay current := by
  induction first generalizing second current with
  | nil => rw [perm.nil_eq]
  | cons p first ih =>
    obtain ⟨before, after, rfl⟩ := List.append_of_mem (perm.mem_iff.mp List.mem_cons_self)
    obtain ⟨least, rest⟩ := List.pairwise_cons.mp sorted
    have others : first.Perm (before ++ after) := (perm.trans List.perm_middle).cons_inv
    -- `p` comes first in one list, so what is before it in the other has its instant.
    have ties : ∀ q ∈ before, q.createdAt = p.createdAt := by
      intro q member
      have later := least q (others.mem_iff.mpr (List.mem_append_left _ member))
      have earlier := (List.pairwise_append.mp sorted').2.2 q member p List.mem_cons_self
      exact Nat.le_antisymm earlier later
    have thinned : (before ++ after).Pairwise createdBefore :=
      sorted'.sublist (List.Sublist.append_left (List.sublist_cons_self p after) before)
    rw [foldl_front current p before after ties]
    exact ih others rest thinned (replay current p)

private theorem reconstruct_perm {fetched purchases : List VipPurchaseReplayRow}
    (perm : fetched.Perm purchases) :
    reconstructVipExpiresAt fetched = reconstructVipExpiresAt purchases := by
  unfold reconstructVipExpiresAt
  rw [perm.isEmpty_eq]
  have sorted := List.pairwise_insertionSort createdBefore fetched
  have sorted' := List.pairwise_insertionSort createdBefore purchases
  have same := ((List.perm_insertionSort createdBefore fetched).trans perm).trans
    (List.perm_insertionSort createdBefore purchases).symm
  rw [foldl_perm same sorted sorted' none]

private theorem reconstruct_sorted {purchases : List VipPurchaseReplayRow}
    (sorted : purchases.Pairwise createdBefore) :
    reconstructVipExpiresAt purchases = purchases.foldl replay none := by
  unfold reconstructVipExpiresAt
  rw [sorted.insertionSort_eq]
  cases purchases <;> rfl

private theorem not_disagree {T : Nat} {expected actual : Option Time}
    (agree : Agree T expected actual) (tolerable : T ≤ VIP_EXPIRY_TOLERANCE_MS) :
    vipExpiresDisagree actual expected = false := by
  cases expected <;> cases actual
  · rfl
  · exact agree.elim
  · exact agree.elim
  · unfold Agree Near at agree
    unfold vipExpiresDisagree
    simp only [decide_eq_false_iff_not, Nat.not_lt]
    omega

/-- The expiry reconstructed from the rows, in whatever order they are fetched, is as near to the
stored one as the rows are to their purchases, and does not disagree with it if that is near
enough. -/
theorem reconstructVipExpiresAt_near {T : Nat} {history : List TimedPurchase}
    (purchases : Purchases T history) {fetched : List VipPurchaseReplayRow}
    (same : fetched.Perm (rows history)) :
    Agree T (reconstructVipExpiresAt fetched) (lastExpiresAt history) ∧
      (T ≤ VIP_EXPIRY_TOLERANCE_MS →
        vipExpiresDisagree (lastExpiresAt history) (reconstructVipExpiresAt fetched) = false) := by
  have sorted : (rows history).Pairwise createdBefore :=
    List.pairwise_map.mpr purchases.created
  have start : Agree T none none := trivial
  have agree := foldl_near purchases.computed purchases.near start
  rw [Option.or_none, ← reconstruct_sorted sorted, ← reconstruct_perm same] at agree
  exact ⟨agree, not_disagree agree⟩

/-- The scan reports nothing of such a user. -/
theorem auditVipUser_silent {T : Nat} {history : List TimedPurchase}
    (purchases : Purchases T history) {fetched : List VipPurchaseReplayRow}
    (same : fetched.Perm (rows history)) (tolerable : T ≤ VIP_EXPIRY_TOLERANCE_MS)
    (bought : history ≠ []) (now : Time) (vipSubscriptionActive : Bool) :
    auditVipUser now vipSubscriptionActive (lastExpiresAt history) fetched = none := by
  have fetchedSome : fetched.isEmpty = false := by
    rw [same.isEmpty_eq]
    simpa [rows] using bought
  have sorted : (rows history).Pairwise createdBefore := List.pairwise_map.mpr purchases.created
  have start : Agree T none none := trivial
  have agree := foldl_near purchases.computed purchases.near start
  rw [Option.or_none, ← reconstruct_sorted sorted, ← reconstruct_perm same] at agree
  simp [auditVipUser, fetchedSome, not_disagree agree tolerable]

/-- The second purchase restarts, since the first has run out; in the replay it stacks. -/
def nearExpiry : List TimedPurchase :=
  [(0, ⟨1, 1500, 30, 2592000000, 1000000, vipKey 1 1⟩),
   (2592001000, ⟨2, 2592001200, 30, 5184001000, 1000000, vipKey 1 2⟩)]

theorem reconstructVipExpiresAt_near_two :
    vipExpiresDisagree (lastExpiresAt nearExpiry) (reconstructVipExpiresAt (rows nearExpiry)) =
      false := by
  have purchases : Purchases 1500 nearExpiry := by
    constructor
    · exact ⟨by decide, by decide, trivial⟩
    · simp [nearExpiry]
    · simp [nearExpiry, createdBefore]
    · simp [nearExpiry, Near]
  exact (reconstructVipExpiresAt_near purchases (List.Perm.refl _)).2 (by decide)

end OlNode.VipAudit
