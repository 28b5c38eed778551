import Mathlib.Order.Bounds.Basic
import OlNode.InternalLedger.Operations
import OlNode.LuckyWater.Economy

/-!
# The price of a call

A host sets the points of a minute, the caller is charged coins. Rounding the coins up is the lower
adjoint of rounding the host's share of coins down: the charge is the least amount whose share
reaches the set price.
-/
namespace OlNode.VideoCalls

open ReadCommitted InternalLedger Economy

/-- Division of BigInts; a division by zero throws. -/
def bigIntDiv (a b : Int) : Option Int := if b = 0 then none else some (a.tdiv b)

/-- `callerCoinDebitForCall`, with the RangeError of its division. -/
def callerCoinDebitForCallOrThrow (hostPricePerMin hostShareBp : Int) : Option Int :=
  if hostPricePerMin ≤ 0 then some 0
  else bigIntDiv (hostPricePerMin * 10000 + hostShareBp - 1) hostShareBp

section Adjoint

variable {p c bp : Int}

theorem debit_returns (share : 1 ≤ bp) :
    callerCoinDebitForCallOrThrow p bp = some (callerCoinDebitForCall p bp) := by
  unfold callerCoinDebitForCallOrThrow callerCoinDebitForCall bigIntDiv
  split
  · rfl
  · rw [if_neg (by omega)]

/-- The host's share of an amount reaches the price when the amount covers it in basis points. -/
theorem le_hostPoints_iff (set : 0 < p) (share : 1 ≤ bp) :
    p ≤ hostPointsFromGift c bp ↔ p * 10000 ≤ c * bp := by
  unfold hostPointsFromGift
  split
  next unpaid =>
    have nothing : c * bp ≤ 0 := Int.mul_nonpos_of_nonpos_of_nonneg unpaid (by omega)
    constructor <;> intro _ <;> omega
  next paid =>
    have spent : 0 ≤ c * bp := Int.mul_nonneg (by omega) (by omega)
    rw [Int.tdiv_eq_ediv_of_nonneg spent]
    omega

/-- An amount is at least the charge when it covers the price in basis points. -/
theorem debit_le_iff (set : 0 < p) (share : 1 ≤ bp) :
    callerCoinDebitForCall p bp ≤ c ↔ p * 10000 ≤ c * bp := by
  have positive : 0 < bp := by omega
  unfold callerCoinDebitForCall
  rw [if_neg (by omega), Int.tdiv_eq_ediv_of_nonneg (by omega), ← Int.lt_add_one_iff,
    Int.ediv_lt_iff_lt_mul positive, Int.add_mul, Int.one_mul]
  omega

/-- The charge is the least amount whose share reaches the price. -/
theorem debit_isLeast (set : 0 < p) (share : 1 ≤ bp) :
    IsLeast {c | p ≤ hostPointsFromGift c bp} (callerCoinDebitForCall p bp) := by
  constructor
  · exact (le_hostPoints_iff set share).mpr ((debit_le_iff set share).mp (le_refl _))
  · intro c reaches
    exact (debit_le_iff set share).mpr ((le_hostPoints_iff set share).mp reaches)

theorem debit_mono {q : Int} (set : 0 < p) (more : p ≤ q) (share : 1 ≤ bp) :
    callerCoinDebitForCall p bp ≤ callerCoinDebitForCall q bp := by
  have covers := (debit_le_iff (by omega : 0 < q) share).mp (le_refl _)
  exact (debit_le_iff set share).mpr (by omega)

/-- A larger share of the host costs no more. -/
theorem debit_anti {bp' : Int} (set : 0 < p) (share : 1 ≤ bp) (larger : bp ≤ bp') :
    callerCoinDebitForCall p bp' ≤ callerCoinDebitForCall p bp := by
  have covers := (debit_le_iff set share).mp (le_refl _)
  have charged : 0 ≤ callerCoinDebitForCall p bp := by
    unfold callerCoinDebitForCall
    split
    · exact Int.le_refl 0
    · exact Int.tdiv_nonneg (by omega) (by omega)
  have wider := Int.mul_le_mul_of_nonneg_left larger charged
  exact (debit_le_iff set (by omega)).mpr (by omega)

end Adjoint

/-- An update that returns has set only shares from 1 to 10000 basis points. -/
theorem share_of_updateConfig {updates : HostRevenueShareUpdates} {db : EconomyDb}
    {row : HostRevenueShareRow} (accepted : ((updateConfig updates).call db).1 = .ok row) :
    ∀ bp ∈ updates.videoCallHostShareBp, 1 ≤ bp ∧ bp ≤ 10000 := by
  rw [updateConfig, Prog.call_ensure_bind] at accepted
  split at accepted
  · split at accepted
    · cases accepted
    next passed => exact (HostRevenueShareUpdates.inRange_of_refusal passed).videoCallHostShareBp
  · cases accepted

/-- The charge for a minute is the least amount of coins whose share reaches the set price. It grows
with the price and falls with the share, and no share that an update accepts or leaves in place
makes it divide by zero. -/
theorem callPrice_inverts {p q bp bp' : Int} (set : 0 < p) (more : p ≤ q) (share : 1 ≤ bp)
    (larger : bp ≤ bp') :
    (∃ coins, callerCoinDebitForCallOrThrow p bp = some coins ∧
      IsLeast {c | p ≤ hostPointsFromGift c bp} coins ∧
      (∀ dearer ∈ callerCoinDebitForCallOrThrow q bp, coins ≤ dearer) ∧
      ∀ cheaper ∈ callerCoinDebitForCallOrThrow p bp', cheaper ≤ coins) ∧
    ∀ (db : EconomyDb) (updates : HostRevenueShareUpdates) (row : HostRevenueShareRow),
      ((updateConfig updates).call db).1 = .ok row →
      (∀ accepted ∈ updates.videoCallHostShareBp,
        (callerCoinDebitForCallOrThrow p accepted).isSome = true) ∧
      (callerCoinDebitForCallOrThrow p row.videoCallHostShareBp).isSome = true := by
  constructor
  · refine ⟨_, debit_returns share, debit_isLeast set share, ?_, ?_⟩
    · rw [debit_returns share]
      rintro _ ⟨⟩
      exact debit_mono set more share
    · rw [debit_returns (by omega : 1 ≤ bp')]
      rintro _ ⟨⟩
      exact debit_anti set share larger
  · intro db updates row accepted
    constructor
    · intro value given
      rw [debit_returns (share_of_updateConfig accepted value given).1]
      rfl
    · rw [debit_returns row.videoCallHostShareBp_pos]
      rfl

theorem callPrice_inverts_thousand :
    (∃ coins, callerCoinDebitForCallOrThrow 1000 6000 = some coins ∧
      IsLeast {c | 1000 ≤ hostPointsFromGift c 6000} coins ∧
      (∀ dearer ∈ callerCoinDebitForCallOrThrow 1800 6000, coins ≤ dearer) ∧
      ∀ cheaper ∈ callerCoinDebitForCallOrThrow 1000 10000, cheaper ≤ coins) ∧
    callerCoinDebitForCallOrThrow 1000 6000 = some 1667 :=
  ⟨(callPrice_inverts (by decide) (by decide : (1000 : Int) ≤ 1800) (by decide) (by decide)).1,
    by decide⟩

end OlNode.VideoCalls
