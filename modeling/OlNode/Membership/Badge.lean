import OlNode.Membership.Stacking

/-!
# The badge of a member

`resolveVipDisplayState` on the purchases of a user, and `hasActive` with its entry in Redis. The
fold shows the last SVIP period and the Diamond periods that reach beyond it, so it agrees with the
plain test of the expiry as long as the rows sort in the order in which they were bought.
-/
namespace OlNode.Memberships

/-! ### The display state -/

structure VipDisplayState where
  displayTier : Option VipMembershipTier
  /-- When the current badge ends. -/
  displayExpiresAt : Option Time
  /-- The expiry that the last purchase has left. -/
  membershipExpiresAt : Option Time

/-- The loop for `lastSvipEnd`. -/
def lastSvipEnd (stack : List (VipMembershipPurchase × Time)) : Option Time :=
  stack.foldl (fun last x => if x.1.tier = .svip then some x.2 else last) none

/-- The loop for `lastVisibleDiamondEnd`: a Diamond period under the last SVIP one is skipped. -/
def lastVisibleDiamondEnd (svipEnd : Option Time) (stack : List (VipMembershipPurchase × Time)) :
    Option Time :=
  stack.foldl (fun last x =>
    if x.1.tier ≠ .diamond then last
    else if svipEnd.any (x.2 ≤ ·) then last
    else if last.all (· < x.2) then some x.2
    else last) none

def resolveVipDisplayState (purchases : List VipMembershipPurchase) (now : Time) :
    VipDisplayState :=
  if purchases.isEmpty then ⟨none, none, none⟩
  else
    let ordered := purchases.insertionSort purchasedBefore
    let ends := stackedExpiresAtAfter ordered
    let svipEnd := lastSvipEnd (ordered.zip ends)
    let diamondEnd := lastVisibleDiamondEnd svipEnd (ordered.zip ends)
    if svipEnd.any (now < ·) then ⟨some .svip, svipEnd, ends.getLast?⟩
    else if diamondEnd.any (now < ·) then ⟨some .diamond, diamondEnd, ends.getLast?⟩
    else ⟨none, none, ends.getLast?⟩

/-! ### The cache -/

def VIPM_ACTIVE_TTL_MAX : Int := 24 * 60 * 60
def VIPM_ACTIVE_INACTIVE_TTL : Int := 300

/-- The text in Redis: 'null', or the JSON of an active membership. -/
inductive CachedMembership where
  | null
  | active (tier : VipMembershipTier) (expiresAt : Time)

structure MembershipState where
  isActive : Bool
  expiresAt : Option Time

/-- `vipMembershipRepository.getMembershipState`, given the user's column. -/
def getMembershipState (vipSubscriptionExpiresAt : Option Time) (now : Time) : MembershipState :=
  { isActive := vipSubscriptionExpiresAt.any (now < ·), expiresAt := vipSubscriptionExpiresAt }

def cacheTtlSec (expiresAt : Time) (cacheUntil : Option Time) (now : Time) : Int :=
  let untilAt := match cacheUntil with
    | some cacheUntil => if cacheUntil < expiresAt then cacheUntil else expiresAt
    | none => expiresAt
  min VIPM_ACTIVE_TTL_MAX (max 1 (((untilAt : Int) - now) / 1000))

/-- The instants at which a request reads the clock, in their order. -/
structure ClockReads where
  parsed : Time
  state : Time
  display : Time
  written : Time
  ttl : Time
  ordered : parsed ≤ state ∧ state ≤ display ∧ display ≤ written ∧ written ≤ ttl

def ClockReads.at (now : Time) : ClockReads :=
  { parsed := now, state := now, display := now, written := now, ttl := now
    ordered := ⟨Nat.le_refl now, Nat.le_refl now, Nat.le_refl now, Nat.le_refl now⟩ }

def writeMembershipCache (isActive : Bool) (expiresAt : Option Time)
    (tier : Option VipMembershipTier) (cacheUntil : Option Time) (clock : ClockReads) :
    CachedMembership × Int :=
  match isActive, expiresAt, tier with
  | true, some expiresAt, some tier =>
    if expiresAt ≤ clock.written then (.null, VIPM_ACTIVE_INACTIVE_TTL)
    else (.active tier expiresAt, cacheTtlSec expiresAt cacheUntil clock.ttl)
  | _, _, _ => (.null, VIPM_ACTIVE_INACTIVE_TTL)

structure ParsedMembership where
  active : Bool
  expiresAt : Option Time
  tier : Option VipMembershipTier

def parseActiveFromCache (raw : Option CachedMembership) (now : Time) : Option ParsedMembership :=
  raw.map fun
    | .null => ⟨false, none, none⟩
    | .active tier expiresAt => ⟨decide (now < expiresAt), some expiresAt, some tier⟩

def refreshCache (vipSubscriptionExpiresAt : Option Time) (purchases : List VipMembershipPurchase)
    (clock : ClockReads) : CachedMembership × Int :=
  let state := getMembershipState vipSubscriptionExpiresAt clock.state
  let display :=
    if state.isActive then some (resolveVipDisplayState purchases clock.display) else none
  writeMembershipCache state.isActive state.expiresAt (display.bind (·.displayTier))
    (display.bind (·.displayExpiresAt)) clock

/-- The answer, and what a missing entry is set to. -/
def hasActive (cached : Option CachedMembership) (vipSubscriptionExpiresAt : Option Time)
    (purchases : List VipMembershipPurchase) (clock : ClockReads) :
    Bool × Option (CachedMembership × Int) :=
  match parseActiveFromCache cached clock.parsed with
  | some parsed => (parsed.active, none)
  | none => ((getMembershipState vipSubscriptionExpiresAt clock.state).isActive,
      some (refreshCache vipSubscriptionExpiresAt purchases clock))

/-! ### Sorted rows -/

instance : Std.Total purchasedBefore where
  total a b := by
    unfold purchasedBefore
    grind

instance : Std.Refl purchasedBefore where
  refl a := .inr ⟨rfl, Nat.le_refl a.id⟩

instance : IsTrans VipMembershipPurchase purchasedBefore where
  trans a b c first second := by
    unfold purchasedBefore at *
    grind

theorem purchasedBefore_antisymm {a b : VipMembershipPurchase} (ab : purchasedBefore a b)
    (ba : purchasedBefore b a) : a.id = b.id := by
  unfold purchasedBefore at *
  grind

/-- The last row of a list, and how every row relates to it. -/
theorem getLast?_of_pairwise {α : Type} {R : α → α → Prop} [Std.Refl R] {l : List α} {x : α}
    (pairwise : l.Pairwise R) (member : x ∈ l) : ∃ last, l.getLast? = some last ∧ R x last :=
  ⟨_, List.getLast?_eq_some_getLast (List.ne_nil_of_mem member), pairwise.rel_getLast member⟩

/-- The stacked expiries of rows in their order are their own. -/
theorem stackedExpiresAtAfter_sorted (purchases : List VipMembershipPurchase) :
    stackedExpiresAtAfter (purchases.insertionSort purchasedBefore) =
      (purchases.insertionSort purchasedBefore).map (·.expiresAtAfter) := by
  have sorted := List.pairwise_insertionSort purchasedBefore purchases
  rw [stackedExpiresAtAfter, sorted.insertionSort_eq]

/-! ### What the loops find -/

def svips (purchases : List VipMembershipPurchase) : List VipMembershipPurchase :=
  purchases.filter (·.tier = .svip)

theorem svips_subset (purchases : List VipMembershipPurchase) : svips purchases ⊆ purchases :=
  fun _ row => List.mem_of_mem_filter row

/-- The expiry that the last of these has left. Of all purchases of a user, in the order in which
they were made, it is in `users.vip_subscription_expires_at`. -/
def lastExpiresAt (purchases : List VipMembershipPurchase) : Option Time :=
  purchases.getLast?.map (·.expiresAtAfter)

theorem lastSvipEnd_eq (ordered : List VipMembershipPurchase) :
    lastSvipEnd (ordered.map fun p => (p, p.expiresAtAfter)) =
      lastExpiresAt (svips ordered) := by
  unfold lastSvipEnd lastExpiresAt svips
  induction ordered using List.reverseRecOn with
  | nil => rfl
  | append_singleton earlier p ih =>
    rw [List.map_append, List.foldl_append, ih]
    by_cases svip : p.tier = .svip <;> simp [svip]

/-- The end that is found belongs to a Diamond purchase. -/
theorem lastVisibleDiamondEnd_mem {stack : List (VipMembershipPurchase × Time)}
    {svipEnd : Option Time} {e : Time} (found : lastVisibleDiamondEnd svipEnd stack = some e) :
    ∃ x ∈ stack, x.2 = e := by
  unfold lastVisibleDiamondEnd at found
  induction stack using List.reverseRecOn with
  | nil => cases found
  | append_singleton earlier x ih =>
    simp only [List.foldl_append, List.foldl_cons, List.foldl_nil] at found
    have old : ∀ {o : Option Time}, o = some e →
        (o = some e → ∃ y ∈ earlier, y.2 = e) → ∃ y ∈ earlier ++ [x], y.2 = e := by
      intro o is from'
      obtain ⟨y, member, ends⟩ := from' is
      exact ⟨y, List.mem_append_left _ member, ends⟩
    split at found
    · exact old found ih
    · split at found
      · exact old found ih
      · split at found
        · exact ⟨x, by simp, by simpa using found⟩
        · exact old found ih

/-- It is later than `now` when some visible one is. -/
theorem lastVisibleDiamondEnd_any (svipEnd : Option Time)
    (stack : List (VipMembershipPurchase × Time)) (now : Time) :
    (lastVisibleDiamondEnd svipEnd stack).any (now < ·) = true ↔
      ∃ x ∈ stack, x.1.tier = .diamond ∧ svipEnd.any (x.2 ≤ ·) = false ∧ now < x.2 := by
  unfold lastVisibleDiamondEnd
  induction stack using List.reverseRecOn with
  | nil => simp
  | append_singleton earlier x ih =>
    simp only [List.foldl_append, List.foldl_cons, List.foldl_nil, List.mem_append,
      List.mem_singleton, or_and_right, exists_or, exists_eq_left, ← ih]
    split
    next other => simp [other]
    next diamond =>
      rw [not_not] at diamond
      split
      next hidden => simp [hidden]
      next visible =>
        rw [Bool.not_eq_true] at visible
        simp only [diamond, visible, true_and]
        -- The later of the two ends is kept.
        generalize earlier.foldl _ none = last
        cases last with
        | none => simp
        | some l =>
          by_cases later : l < x.2
          · simp only [Option.all_some, later, decide_true, if_true, Option.any_some,
              decide_eq_true_eq]
            exact ⟨.inr, fun either => either.elim (Nat.lt_trans · later) id⟩
          · simp only [Option.all_some, later, decide_false, Bool.false_eq_true, if_false,
              Option.any_some, decide_eq_true_eq]
            have kept : x.2 ≤ l := Nat.le_of_not_lt later
            exact ⟨.inl, fun either => either.elim id (Nat.lt_of_lt_of_le · kept)⟩

/-! ### What is shown -/

/-- The fold over sorted rows, in which each row is paired with its own expiry. -/
def shownState (ordered : List VipMembershipPurchase) (now : Time) : VipDisplayState :=
  let svipEnd := lastExpiresAt (svips ordered)
  let diamondEnd := lastVisibleDiamondEnd svipEnd (ordered.map fun p => (p, p.expiresAtAfter))
  let membershipExpiresAt := lastExpiresAt ordered
  if svipEnd.any (now < ·) then ⟨some .svip, svipEnd, membershipExpiresAt⟩
  else if diamondEnd.any (now < ·) then ⟨some .diamond, diamondEnd, membershipExpiresAt⟩
  else ⟨none, none, membershipExpiresAt⟩

theorem resolveVipDisplayState_eq (purchases : List VipMembershipPurchase) (now : Time) :
    resolveVipDisplayState purchases now =
      shownState (purchases.insertionSort purchasedBefore) now := by
  unfold resolveVipDisplayState shownState
  cases purchases with
  | nil => rfl
  | cons p rest =>
    have zipped : ∀ ordered : List VipMembershipPurchase,
        ordered.zip (ordered.map (·.expiresAtAfter)) =
          ordered.map fun p => (p, p.expiresAtAfter) := by
      intro ordered
      rw [List.zip_map_right, List.zip_eq_zipWith, List.zipWith_self, List.map_map]
      rfl
    simp only [List.isEmpty_cons, Bool.false_eq_true, if_false, stackedExpiresAtAfter_sorted]
    rw [zipped, lastSvipEnd_eq, List.getLast?_map]
    rfl

section Shown

variable {ordered : List VipMembershipPurchase} {now : Time}

theorem shownState_membershipExpiresAt :
    (shownState ordered now).membershipExpiresAt = lastExpiresAt ordered := by
  unfold shownState
  dsimp only
  split
  · rfl
  · split <;> rfl

/-- SVIP is shown while the SVIP period that sorts last lasts. -/
theorem shownState_svip : (shownState ordered now).displayTier = some .svip ↔
    (lastExpiresAt (svips ordered)).any (now < ·) = true := by
  unfold shownState
  dsimp only
  split
  next svip => exact ⟨fun _ => svip, fun _ => rfl⟩
  next ended =>
    constructor
    · intro shown
      split at shown <;> cases shown
    · exact fun svip => absurd svip ended

/-- A hidden Diamond period ends under an SVIP one, so some badge is shown while it lasts. -/
theorem shownState_isSome : (shownState ordered now).displayTier.isSome = true ↔
    (lastExpiresAt (svips ordered)).any (now < ·) = true ∨
      ∃ p ∈ ordered, p.tier = .diamond ∧ now < p.expiresAtAfter := by
  unfold shownState
  dsimp only
  generalize lastExpiresAt (svips ordered) = svipEnd
  split
  next svip => exact ⟨fun _ => .inl svip, fun _ => rfl⟩
  next ended =>
    have visible :=
      lastVisibleDiamondEnd_any svipEnd (ordered.map fun p => (p, p.expiresAtAfter)) now
    split
    next diamond =>
      obtain ⟨x, member, isDiamond, -, lasts⟩ := visible.mp diamond
      obtain ⟨p, row, rfl⟩ := List.mem_map.mp member
      exact ⟨fun _ => .inr ⟨p, row, isDiamond, lasts⟩, fun _ => rfl⟩
    next none =>
      constructor
      · intro shown
        cases shown
      · rintro (svip | ⟨p, row, isDiamond, lasts⟩)
        · exact absurd svip ended
        · cases hidden : svipEnd.any (p.expiresAtAfter ≤ ·) with
          | false =>
            have found := visible.mpr ⟨_, List.mem_map_of_mem row, isDiamond, hidden, lasts⟩
            exact absurd found none
          | true =>
            obtain ⟨e, rfl, under⟩ := (Option.any_eq_true _ _).mp hidden
            have longer : now < e := Nat.lt_of_lt_of_le lasts (of_decide_eq_true under)
            exact absurd (by simpa using longer) ended

/-- A badge that is shown ends with some purchase, later than now. -/
theorem shownState_displayExpiresAt (shown : (shownState ordered now).displayTier.isSome = true) :
    ∃ p ∈ ordered, (shownState ordered now).displayExpiresAt = some p.expiresAtAfter ∧
      now < p.expiresAtAfter := by
  unfold shownState at shown ⊢
  dsimp only at shown ⊢
  split
  next svip =>
    obtain ⟨e, found, lasts⟩ := (Option.any_eq_true _ _).mp svip
    obtain ⟨p, last, rfl⟩ := Option.map_eq_some_iff.mp found
    have member := List.mem_of_mem_filter (List.mem_of_getLast? last)
    exact ⟨p, member, found, of_decide_eq_true lasts⟩
  next ended =>
    rw [if_neg ended] at shown
    split
    next diamond =>
      obtain ⟨e, found, lasts⟩ := (Option.any_eq_true _ _).mp diamond
      obtain ⟨x, member, rfl⟩ := lastVisibleDiamondEnd_mem found
      obtain ⟨p, row, rfl⟩ := List.mem_map.mp member
      exact ⟨p, row, found, of_decide_eq_true lasts⟩
    next none =>
      rw [if_neg none] at shown
      cases shown

/-- A badge has an expiry, and only a badge has. -/
theorem shownState_dated : (shownState ordered now).displayExpiresAt.isSome =
    (shownState ordered now).displayTier.isSome := by
  unfold shownState
  dsimp only
  split
  next svip => exact Option.isSome_of_any svip
  next ended =>
    split
    next diamond => exact Option.isSome_of_any diamond
    next none => rfl

end Shown

/-! ### The purchases of a user -/

/-- The period is the tier's; the expiry was computed from the one that was found. -/
structure Bought (p : VipMembershipPurchase) : Prop where
  period : p.periodDays = (tierConfig p.tier).periodDays
  computed : ∃ now, p.expiresAtAfter =
    computeProposedExpiresAt now p.expiresAtBefore p.periodDays

/-- The purchases of a user in the order in which they were made: each found the expiry that the one
before it had left. The clocks that dated them may disagree. -/
structure Produced (purchases : List VipMembershipPurchase) : Prop where
  rows : ∀ p ∈ purchases, Bought p
  chain : purchases.IsChain StacksOn
  ids : (purchases.map (·.id)).Nodup

theorem computeProposedExpiresAt_le (now : Time) (current : Option Time) (periodDays : Nat) :
    ∀ e ∈ current, addUtcDays e periodDays ≤ computeProposedExpiresAt now current periodDays := by
  rintro e rfl
  unfold computeProposedExpiresAt
  dsimp only
  split
  · exact Nat.le_refl _
  next ended => exact addUtcDays_le periodDays (Nat.le_of_not_lt ended)

theorem lt_addUtcDays (date : Time) {days : Nat} (pos : 0 < days) :
    date < addUtcDays date days := by
  unfold addUtcDays VIP_MS_PER_DAY
  exact Nat.lt_add_of_pos_right (Nat.mul_pos pos (by decide))

theorem periodDays_pos (tier : VipMembershipTier) : 0 < (tierConfig tier).periodDays := by
  cases tier <;> decide

def EndsBefore (p q : VipMembershipPurchase) : Prop := p.expiresAtAfter < q.expiresAtAfter

def EndsBy (p q : VipMembershipPurchase) : Prop := p.expiresAtAfter ≤ q.expiresAtAfter

instance : Trans EndsBefore EndsBefore EndsBefore := ⟨Nat.lt_trans⟩

instance : Trans EndsBy EndsBy EndsBy := ⟨Nat.le_trans⟩

instance : Std.Refl EndsBy := ⟨fun p => Nat.le_refl p.expiresAtAfter⟩

/-- Each purchase ends later than the one it stacks on. -/
theorem Bought.endsBefore {p q : VipMembershipPurchase} (bought : Bought q) (onTop : StacksOn p q) :
    EndsBefore p q := by
  obtain ⟨now, computed⟩ := bought.computed
  have longer := computeProposedExpiresAt_le now q.expiresAtBefore q.periodDays _ onTop
  rw [EndsBefore, computed]
  apply Nat.lt_of_lt_of_le (lt_addUtcDays _ _) longer
  rw [bought.period]
  exact periodDays_pos q.tier

theorem Bought.pos {p : VipMembershipPurchase} (bought : Bought p) : 0 < p.expiresAtAfter := by
  obtain ⟨now, computed⟩ := bought.computed
  have period : 0 < p.periodDays := bought.period ▸ periodDays_pos p.tier
  rw [computed]
  unfold computeProposedExpiresAt
  split <;> exact Nat.zero_lt_of_lt (lt_addUtcDays _ period)

theorem Produced.increasing {purchases : List VipMembershipPurchase}
    (produced : Produced purchases) : purchases.Pairwise EndsBefore := by
  rw [← List.isChain_iff_pairwise]
  apply List.IsChain.imp_of_mem_imp _ produced.chain
  intro p q _ row onTop
  exact (produced.rows q row).endsBefore onTop

/-! ### Agreement -/

/-- The badge and the plain test of the expiry agree at every instant, and so do the two paths of
`hasActive` after an entry was written, when nothing is bought meanwhile. -/
structure BadgeAgrees (purchases : List VipMembershipPurchase) : Prop where
  shown : ∀ now, (resolveVipDisplayState purchases now).displayTier.isSome =
    (resolveVipDisplayState purchases now).membershipExpiresAt.any (now < ·)
  svip : ∀ now, (resolveVipDisplayState purchases now).displayTier = some .svip ↔
    ∃ p, (svips purchases).getLast? = some p ∧ now < p.expiresAtAfter
  dated : ∀ now, (resolveVipDisplayState purchases now).displayExpiresAt.isSome =
    (resolveVipDisplayState purchases now).displayTier.isSome
  expires : ∀ now e, (resolveVipDisplayState purchases now).displayExpiresAt = some e →
    now < e ∧ ∃ m, (resolveVipDisplayState purchases now).membershipExpiresAt = some m ∧ e ≤ m
  cached : ∀ (clock : ClockReads) (later : Time), clock.ttl ≤ later →
    let expiresAt := lastExpiresAt purchases
    let entry := (refreshCache expiresAt purchases clock).1
    (hasActive (some entry) expiresAt purchases (.at later)).1 =
      (hasActive none expiresAt purchases (.at later)).1

section Agreement

variable {purchases : List VipMembershipPurchase}

/-- The membership lasts while the last SVIP period or some Diamond period does. -/
theorem lastExpiresAt_any (increasing : purchases.Pairwise EndsBy) (now : Time) :
    (lastExpiresAt purchases).any (now < ·) = true ↔
      (lastExpiresAt (svips purchases)).any (now < ·) = true ∨
        ∃ p ∈ purchases, p.tier = .diamond ∧ now < p.expiresAtAfter := by
  have lasts : ∀ p ∈ purchases, now < p.expiresAtAfter →
      (lastExpiresAt purchases).any (now < ·) = true := by
    intro p member before
    obtain ⟨last, found, ends⟩ := getLast?_of_pairwise increasing member
    have : now < last.expiresAtAfter := Nat.lt_of_lt_of_le before ends
    simpa [lastExpiresAt, found] using this
  constructor
  · intro member
    obtain ⟨e, found, before⟩ := (Option.any_eq_true _ _).mp member
    obtain ⟨p, last, rfl⟩ := Option.map_eq_some_iff.mp found
    have row := List.mem_of_getLast? last
    cases tier : p.tier with
    | diamond => exact .inr ⟨p, row, tier, of_decide_eq_true before⟩
    | svip =>
      -- It is among the SVIP purchases, the last of which ends no earlier.
      have among : p ∈ svips purchases := List.mem_filter.mpr ⟨row, by simpa using tier⟩
      obtain ⟨q, lastSvip, ends⟩ := getLast?_of_pairwise (increasing.filter _) among
      have : now < q.expiresAtAfter := Nat.lt_of_lt_of_le (of_decide_eq_true before) ends
      left
      rw [lastExpiresAt, svips, lastSvip]
      simpa using this
  · rintro (svip | ⟨p, row, -, before⟩)
    · obtain ⟨e, found, before⟩ := (Option.any_eq_true _ _).mp svip
      obtain ⟨p, last, rfl⟩ := Option.map_eq_some_iff.mp found
      exact lasts p (List.mem_of_mem_filter (List.mem_of_getLast? last)) (of_decide_eq_true before)
    · exact lasts p row before

/-- The rows sort so that the same purchases come last. -/
structure SameEnds (purchases : List VipMembershipPurchase) : Prop where
  last : lastExpiresAt (purchases.insertionSort purchasedBefore) =
    lastExpiresAt purchases
  svip : lastExpiresAt (svips (purchases.insertionSort purchasedBefore)) =
    lastExpiresAt (svips purchases)

/-- A cached 'null' is not read before the membership is over, and a cached expiry is the user's. -/
theorem refreshCache_parsed {clock : ClockReads} {later : Time} (written : clock.ttl ≤ later)
    (shown : ∀ now, (resolveVipDisplayState purchases now).displayTier.isSome =
      (lastExpiresAt purchases).any (now < ·)) :
    (parseActiveFromCache (some (refreshCache (lastExpiresAt purchases) purchases clock).1)
      later).map (·.active) = some ((lastExpiresAt purchases).any (later < ·)) := by
  obtain ⟨-, display, write, ttl⟩ := clock.ordered
  have last : clock.written ≤ later := Nat.le_trans ttl written
  unfold refreshCache getMembershipState
  cases found : lastExpiresAt purchases with
  | none => rfl
  | some e =>
    dsimp only [Option.any_some]
    by_cases active : clock.state < e
    · have tier := shown clock.display
      rw [found, Option.any_some] at tier
      cases badge : (resolveVipDisplayState purchases clock.display).displayTier with
      | none =>
        -- The membership ended between the two reads of the clock.
        have ended : ¬ clock.display < e := by simpa [badge] using tier
        have after : ¬ later < e := fun before =>
          ended (Nat.lt_of_le_of_lt (Nat.le_trans write last) before)
        simp [writeMembershipCache, parseActiveFromCache, active, badge, after]
      | some tier =>
        by_cases ended : e ≤ clock.written
        · have after : ¬ later < e := Nat.not_lt.mpr (Nat.le_trans ended last)
          simp [writeMembershipCache, parseActiveFromCache, active, badge, ended, after]
        · simp [writeMembershipCache, parseActiveFromCache, active, badge, ended]
    · have after : ¬ later < e := fun before =>
        active (Nat.lt_of_le_of_lt (Nat.le_trans (Nat.le_trans display write) last) before)
      simp [writeMembershipCache, parseActiveFromCache, active, after]

theorem SameEnds.agrees (same : SameEnds purchases) (increasing : purchases.Pairwise EndsBy) :
    BadgeAgrees purchases := by
  have mem : ∀ {p}, p ∈ purchases.insertionSort purchasedBefore ↔ p ∈ purchases :=
    List.mem_insertionSort purchasedBefore
  have shown : ∀ now, (resolveVipDisplayState purchases now).displayTier.isSome =
      (lastExpiresAt purchases).any (now < ·) := by
    intro now
    rw [Bool.eq_iff_iff, lastExpiresAt_any increasing, resolveVipDisplayState_eq,
      shownState_isSome, same.svip]
    simp only [mem]
  constructor
  · intro now
    rw [shown, resolveVipDisplayState_eq, shownState_membershipExpiresAt, same.last]
  · intro now
    rw [resolveVipDisplayState_eq, shownState_svip, same.svip, lastExpiresAt]
    cases (svips purchases).getLast? <;> simp
  · intro now
    rw [resolveVipDisplayState_eq]
    exact shownState_dated
  · intro now e found
    rw [resolveVipDisplayState_eq] at found ⊢
    have badge : (shownState (purchases.insertionSort purchasedBefore) now).displayTier.isSome := by
      rw [← shownState_dated, found]
      rfl
    obtain ⟨p, row, ends, before⟩ := shownState_displayExpiresAt badge
    obtain ⟨last, isLast, longer⟩ := getLast?_of_pairwise increasing (mem.mp row)
    rw [ends] at found
    cases found
    refine ⟨before, last.expiresAtAfter, ?_, longer⟩
    rw [shownState_membershipExpiresAt, same.last, lastExpiresAt, isLast]
    rfl
  · intro clock later written expiresAt cached
    obtain ⟨entry, read, active⟩ := Option.map_eq_some_iff.mp (refreshCache_parsed written shown)
    have hit : parseActiveFromCache _ (ClockReads.at later).parsed = some entry := read
    rw [hasActive, hit]
    exact active

/-- Among these, no purchase sorts after the last one. -/
def LastSorts (purchases : List VipMembershipPurchase) : Prop :=
  ∀ last, purchases.getLast? = some last → ∀ p ∈ purchases, purchasedBefore p last

/-- The purchase that sorts last ends when the last one ends just when it is that one. -/
theorem lastExpiresAt_eq_iff {ordered : List VipMembershipPurchase}
    (perm : ordered.Perm purchases) (sorted : ordered.Pairwise purchasedBefore)
    (ids : (purchases.map (·.id)).Nodup) (increasing : purchases.Pairwise EndsBefore) :
    lastExpiresAt ordered = lastExpiresAt purchases ↔ LastSorts purchases := by
  have ends : (purchases.map (·.expiresAtAfter)).Nodup :=
    List.pairwise_map.mpr (increasing.imp fun before => Nat.ne_of_lt before)
  unfold lastExpiresAt LastSorts
  cases isLast : purchases.getLast? with
  | none =>
    rw [List.getLast?_eq_none_iff] at isLast
    subst isLast
    simp [perm.eq_nil]
  | some last =>
    have row := List.mem_of_getLast? isLast
    obtain ⟨sortsLast, found, lastBefore⟩ := getLast?_of_pairwise sorted (perm.mem_iff.mpr row)
    have sortsLastRow := perm.mem_iff.mp (List.mem_of_getLast? found)
    rw [found]
    constructor
    · -- Expiries identify the purchases.
      intro same other isOther p member
      cases isOther
      have : sortsLast = last :=
        List.inj_on_of_nodup_map ends sortsLastRow row (by simpa using same)
      subst this
      obtain ⟨q, isQ, before⟩ := getLast?_of_pairwise sorted (perm.mem_iff.mpr member)
      rw [found] at isQ
      cases isQ
      exact before
    · -- Both sort before each other, and ids identify the purchases.
      intro sorts
      have id := purchasedBefore_antisymm (sorts last rfl sortsLast sortsLastRow) lastBefore
      rw [List.inj_on_of_nodup_map ids sortsLastRow row id]

/-- An expiry is known from the instants before it. -/
theorem eq_of_any_lt {o p : Option Time} (pos : ∀ e ∈ o, 0 < e) (pos' : ∀ e ∈ p, 0 < e)
    (same : ∀ now : Time, o.any (now < ·) = p.any (now < ·)) : o = p := by
  cases o with
  | none =>
    cases p with
    | none => rfl
    | some e => simpa [Nat.ne_of_gt (pos' e rfl)] using same 0
  | some e =>
    cases p with
    | none => simpa [Nat.ne_of_gt (pos e rfl)] using same 0
    | some f =>
      have iff : ∀ now : Time, now < e ↔ now < f := fun now => by simpa using same now
      rw [Nat.le_antisymm (Nat.le_of_not_lt fun lt => Nat.lt_irrefl f ((iff f).mp lt))
        (Nat.le_of_not_lt fun lt => Nat.lt_irrefl e ((iff e).mpr lt))]

end Agreement

/-- No purchase sorts after the last one that was made, and no SVIP purchase after the last of
these. -/
structure InOrder (purchases : List VipMembershipPurchase) : Prop where
  last : LastSorts purchases
  svip : LastSorts (svips purchases)

theorem Produced.sameEnds_iff {purchases : List VipMembershipPurchase}
    (produced : Produced purchases) : SameEnds purchases ↔ InOrder purchases := by
  have perm := List.perm_insertionSort purchasedBefore purchases
  have sorted := List.pairwise_insertionSort purchasedBefore purchases
  have last := lastExpiresAt_eq_iff perm sorted produced.ids produced.increasing
  have svip := lastExpiresAt_eq_iff (perm.filter (·.tier = .svip)) (sorted.filter _)
    (produced.ids.sublist (List.filter_sublist.map _)) (produced.increasing.filter _)
  constructor
  · intro same
    exact ⟨last.mp same.last, svip.mp same.svip⟩
  · intro inOrder
    exact ⟨last.mpr inOrder.last, svip.mpr inOrder.svip⟩

/-- For purchases that stack on each other, the badge agrees with the membership just when the last
purchase and the last SVIP purchase sort last. -/
theorem badge_agrees_iff {purchases : List VipMembershipPurchase} (produced : Produced purchases) :
    BadgeAgrees purchases ↔ InOrder purchases := by
  rw [← produced.sameEnds_iff]
  have ends : purchases.Pairwise EndsBy := produced.increasing.imp fun before => Nat.le_of_lt before
  constructor
  · intro agrees
    -- What is shown at every instant determines the ends that it was computed from.
    have pos : ∀ rows ⊆ purchases, ∀ e ∈ lastExpiresAt rows, 0 < e := by
      intro rows among e found
      obtain ⟨p, last, rfl⟩ := Option.map_eq_some_iff.mp found
      exact (produced.rows p (among (List.mem_of_getLast? last))).pos
    have sorted := (List.perm_insertionSort purchasedBefore purchases).subset
    have svip : lastExpiresAt (svips (purchases.insertionSort purchasedBefore)) =
        lastExpiresAt (svips purchases) := by
      apply eq_of_any_lt (pos _ (List.Subset.trans (svips_subset _) sorted))
        (pos _ (svips_subset purchases))
      intro now
      have shown := agrees.svip now
      rw [resolveVipDisplayState_eq, shownState_svip] at shown
      rw [Bool.eq_iff_iff, shown, lastExpiresAt]
      cases (svips purchases).getLast? <;> simp
    refine ⟨eq_of_any_lt (pos _ sorted) (pos _ (List.Subset.refl purchases)) fun now => ?_, svip⟩
    -- The SVIP part being the same, a badge is shown as long as the membership lasts.
    have shown := agrees.shown now
    rw [resolveVipDisplayState_eq, shownState_membershipExpiresAt] at shown
    rw [← shown, Bool.eq_iff_iff, shownState_isSome, svip, lastExpiresAt_any ends]
    simp only [List.mem_insertionSort]
  · exact fun same => same.agrees ends

/-- A Diamond purchase, an SVIP one on top of it, and another Diamond one. -/
def threePurchases : List VipMembershipPurchase :=
  [⟨1, 1, .diamond, 30, 1000000, vipKey 1 1, none, addUtcDays 0 30, 0⟩,
   ⟨2, 1, .svip, 365, 12990000, vipKey 1 2, some (addUtcDays 0 30), addUtcDays 0 395, 5⟩,
   ⟨3, 1, .diamond, 30, 1000000, vipKey 1 3, some (addUtcDays 0 395), addUtcDays 0 425, 9⟩]

/-- Two Diamond purchases in one millisecond, of which the second has the smaller id. -/
def tiedPurchases : List VipMembershipPurchase :=
  [⟨2, 1, .diamond, 30, 1000000, vipKey 1 1, none, addUtcDays 0 30, 0⟩,
   ⟨1, 1, .diamond, 30, 1000000, vipKey 1 2, some (addUtcDays 0 30), addUtcDays 0 60, 0⟩]

theorem badge_agrees_three : BadgeAgrees threePurchases := by
  refine (badge_agrees_iff ⟨?_, ?_, by decide⟩).mpr ⟨?_, ?_⟩
  · simp only [threePurchases, List.forall_mem_cons]
    exact ⟨⟨rfl, 0, rfl⟩, ⟨rfl, 5, rfl⟩, ⟨rfl, 9, rfl⟩, List.forall_mem_nil _⟩
  · simp [threePurchases, StacksOn]
  · rintro last ⟨⟩
    decide
  · rintro last ⟨⟩
    decide

theorem not_badge_agrees : ¬ ∀ purchases, Produced purchases → BadgeAgrees purchases := by
  intro claim
  have produced : Produced tiedPurchases := by
    refine ⟨?_, ?_, by decide⟩
    · simp only [tiedPurchases, List.forall_mem_cons]
      exact ⟨⟨rfl, 0, rfl⟩, ⟨rfl, 0, rfl⟩, List.forall_mem_nil _⟩
    · simp [tiedPurchases, StacksOn]
  -- On day 45 the Diamond badge is shown, past the expiry that is called the membership's.
  have shown := (claim tiedPurchases produced).shown (addUtcDays 0 45)
  revert shown
  decide

end OlNode.Memberships
