import OlNode.Schema
import Mathlib.Algebra.BigOperators.Group.Finset.Piecewise
import Mathlib.Algebra.Order.Ring.Int
import Mathlib.Data.Finmap
import Mathlib.Data.List.Sort

/-!
# Agency commission of gifts

`gift-agency-commission.ts`: host credits are matched to gifts, first by the gift's id in `refId`,
then each remaining gift takes the nearest free credit within 15 seconds; commissions are summed by
the gift they name, or by the gift of the credit they name. A gift and a credit are matched at most
once, and no commission is counted twice. The second pass is greedy: when two gifts are within reach
of one credit, the gift that comes first in the list takes it.
-/
namespace OlNode.GiftCommission

/-! ### Rows -/

structure GiftRowForAgency where
  id : String
  senderUserId : String
  receiverUserId : String
  pointsAwarded : Int
  createdAt : Time
  deriving DecidableEq

structure HostGiftCredit where
  id : String
  refId : Option String
  amount : Int
  createdAt : Time
  counterpartyId : Option String
  walletUserId : String
  deriving DecidableEq

structure CommissionRow where
  refId : Option String
  amount : Int
  deriving DecidableEq

/-- A `Map` whose keys are ids. -/
abbrev IdMap (β : Type) := Finmap fun _ : String => β

def GIFT_AGENCY_NEAR_MS : Nat := 15000

/-! ### Host credits -/

/-- `new Set(map.values())`. -/
def values (m : IdMap String) : Finset String := (m.entries.map (·.2)).toFinset

/-- The loop over `byRef`; an empty `refId` counts as none. -/
def assignByRef (giftIds : Finset String) (hostToGift : IdMap String) (h : HostGiftCredit) :
    IdMap String :=
  match h.refId with
  | none => hostToGift
  | some refId =>
    if refId ≠ "" ∧ refId ∈ giftIds ∧ h.id ∉ hostToGift then hostToGift.insert h.id refId
    else hostToGift

structure Assignment where
  hostToGift : IdMap String
  usedHosts : Finset String
  claimedGifts : Finset String
  deriving DecidableEq

/-- Milliseconds between a gift and a credit. -/
def distance (g : GiftRowForAgency) (h : HostGiftCredit) : Nat :=
  ((h.createdAt : Int) - g.createdAt).natAbs

/-- The conditions of the filter that do not change during the loop. -/
def fits (g : GiftRowForAgency) (h : HostGiftCredit) : Bool :=
  h.walletUserId = g.receiverUserId && h.counterpartyId = some g.senderUserId &&
    h.amount = g.pointsAwarded && distance g h ≤ GIFT_AGENCY_NEAR_MS

def sortedMatches (near : List HostGiftCredit) (usedHosts : Finset String) (g : GiftRowForAgency) :
    List HostGiftCredit :=
  (near.filter fun h => decide (h.id ∉ usedHosts) && fits g h).insertionSort
    fun a b => distance g a ≤ distance g b

/-- The loop over the gifts. -/
def assignNear (near : List HostGiftCredit) (s : Assignment) (g : GiftRowForAgency) : Assignment :=
  if g.id ∈ s.claimedGifts ∨ g.pointsAwarded ≤ 0 then s
  else match (sortedMatches near s.usedHosts g).head? with
    | none => s
    | some pick =>
      { hostToGift := s.hostToGift.insert pick.id g.id
        usedHosts := insert pick.id s.usedHosts
        claimedGifts := insert g.id s.claimedGifts }

def idsOf (gifts : List GiftRowForAgency) : Finset String := (gifts.map (·.id)).toFinset

/-- After the first loop. -/
def assignedByRef (gifts : List GiftRowForAgency) (byRef : List HostGiftCredit) : Assignment :=
  let hostToGift := byRef.foldl (assignByRef (idsOf gifts)) ∅
  { hostToGift, usedHosts := hostToGift.keys, claimedGifts := values hostToGift }

def assignHostCreditsToGiftRows (gifts : List GiftRowForAgency) (byRef near : List HostGiftCredit) :
    IdMap String :=
  (gifts.foldl (assignNear near) (assignedByRef gifts byRef)).hostToGift

/-! ### Commissions -/

/-- The gift a commission counts for; an empty id counts as none. -/
def giftOf (giftIds : Finset String) (hostToGift : IdMap String) (c : CommissionRow) :
    Option String :=
  match c.refId.filter (· ≠ "") with
  | none => none
  | some refId =>
    (if refId ∈ giftIds then some refId else hostToGift.lookup refId).filter (· ≠ "")

def addCommission (giftIds : Finset String) (hostToGift : IdMap String) (map : IdMap Int)
    (c : CommissionRow) : IdMap Int :=
  match giftOf giftIds hostToGift c with
  | none => map
  | some giftId => map.insert giftId ((map.lookup giftId).getD 0 + c.amount)

def sumCommissionsByGiftId (giftIds : Finset String) (hostToGift : IdMap String)
    (commissions : List CommissionRow) : IdMap Int :=
  commissions.foldl (addCommission giftIds hostToGift) ∅

def mapAgencyCommissionToGiftRows (gifts : List GiftRowForAgency)
    (hostsByGiftRef nearHosts : List HostGiftCredit) (commissions : List CommissionRow) :
    IdMap Int :=
  sumCommissionsByGiftId (idsOf gifts) (assignHostCreditsToGiftRows gifts hostsByGiftRef nearHosts)
    commissions

/-! ### The credit that a gift takes -/

/-- A free credit and a gift without one, that fit. -/
structure Candidate (near : List HostGiftCredit) (start : Assignment) (g : GiftRowForAgency)
    (h : HostGiftCredit) : Prop where
  stored : h ∈ near
  free : h.id ∉ start.usedHosts
  unclaimed : g.id ∉ start.claimedGifts
  positive : 0 < g.pointsAwarded
  fit : fits g h = true

instance (near : List HostGiftCredit) (start : Assignment) (g : GiftRowForAgency)
    (h : HostGiftCredit) : Decidable (Candidate near start g h) :=
  decidable_of_iff (h ∈ near ∧ h.id ∉ start.usedHosts ∧ g.id ∉ start.claimedGifts ∧
      0 < g.pointsAwarded ∧ fits g h = true)
    ⟨fun ⟨stored, free, unclaimed, positive, fit⟩ => ⟨stored, free, unclaimed, positive, fit⟩,
      fun c => ⟨c.stored, c.free, c.unclaimed, c.positive, c.fit⟩⟩

/-- Of these, the nearest. -/
structure Nearest (near : List HostGiftCredit) (start : Assignment) (g : GiftRowForAgency)
    (h : HostGiftCredit) : Prop where
  candidate : Candidate near start g h
  least : ∀ h' ∈ near, Candidate near start g h' → distance g h ≤ distance g h'

instance (near : List HostGiftCredit) (start : Assignment) (g : GiftRowForAgency)
    (h : HostGiftCredit) : Decidable (Nearest near start g h) :=
  decidable_of_iff (Candidate near start g h ∧
      ∀ h' ∈ near, Candidate near start g h' → distance g h ≤ distance g h')
    ⟨fun ⟨candidate, least⟩ => ⟨candidate, least⟩, fun n => ⟨n.candidate, n.least⟩⟩

/-- Nothing is freed during the second loop. -/
structure Assignment.LE (start s : Assignment) : Prop where
  used : start.usedHosts ⊆ s.usedHosts
  claimed : start.claimedGifts ⊆ s.claimedGifts

/-! ### Bookkeeping -/

section Assigned

variable {gifts : List GiftRowForAgency} {byRef near : List HostGiftCredit}
  {start s : Assignment} {g : GiftRowForAgency} {h : HostGiftCredit}

theorem mem_values {m : IdMap String} {gift : String} :
    gift ∈ values m ↔ ∃ host, m.lookup host = some gift := by
  simp only [values, Multiset.mem_toFinset, Multiset.mem_map, Finmap.lookup_eq_some_iff]
  constructor
  · rintro ⟨⟨host, _⟩, entry, rfl⟩
    exact ⟨host, entry⟩
  · rintro ⟨host, entry⟩
    exact ⟨⟨host, gift⟩, entry, rfl⟩

/-- The first loop writes at most the entry of the credit, and only when there is none. -/
theorem assignByRef_lookup (giftIds : Finset String) (m : IdMap String) (h : HostGiftCredit)
    (host : String) : (assignByRef giftIds m h).lookup host =
      if host = h.id then
        (m.lookup host).or (h.refId.filter fun refId => refId ≠ "" ∧ refId ∈ giftIds)
      else m.lookup host := by
  unfold assignByRef
  by_cases same : host = h.id
  · subst same
    rw [if_pos rfl]
    cases h.refId with
    | none => simp
    | some refId =>
      by_cases stored : h.id ∈ m
      · obtain ⟨gift, found⟩ := Option.isSome_iff_exists.mp (Finmap.lookup_isSome.mpr stored)
        simp [stored, found]
      · have absent := Finmap.lookup_eq_none.mpr stored
        by_cases names : refId ≠ "" ∧ refId ∈ giftIds
        · simp [stored, absent, names, Option.filter_some]
        · rw [absent, Option.filter_some, if_neg (by simpa using names)]
          dsimp only
          rw [if_neg fun within => names ⟨within.1, within.2.1⟩, absent]
          rfl
  · rw [if_neg same]
    split
    · rfl
    · split
      · exact Finmap.lookup_insert_of_ne _ same
      · rfl

/-- A match by reference comes from a credit that names a gift of the list. -/
theorem assignedByRef_from {host gift : String}
    (matched : (assignedByRef gifts byRef).hostToGift.lookup host = some gift) :
    gift ∈ idsOf gifts ∧ ∃ h ∈ byRef, h.id = host ∧ h.refId = some gift := by
  unfold assignedByRef at matched
  dsimp only at matched
  induction byRef using List.reverseRecOn with
  | nil => cases matched
  | append_singleton earlier h ih =>
    rw [List.foldl_append, List.foldl_cons, List.foldl_nil, assignByRef_lookup] at matched
    have earlier_from (before : ((earlier.foldl (assignByRef (idsOf gifts)) ∅).lookup host) =
        some gift) : gift ∈ idsOf gifts ∧ ∃ h' ∈ earlier ++ [h], h'.id = host ∧
          h'.refId = some gift := by
      obtain ⟨within, h', member, named⟩ := ih before
      exact ⟨within, h', List.mem_append_left _ member, named⟩
    split at matched
    next same =>
      rcases Option.or_eq_some_iff.mp matched with before | ⟨_, named⟩
      · exact earlier_from before
      · rw [Option.filter_eq_some_iff] at named
        simp only [decide_eq_true_eq] at named
        exact ⟨named.2.2, h, by simp, same.symm, named.1⟩
    · exact earlier_from matched

/-- The gift takes this credit in the second loop. -/
def Picks (near : List HostGiftCredit) (s : Assignment) (g : GiftRowForAgency)
    (h : HostGiftCredit) : Prop :=
  g.id ∉ s.claimedGifts ∧ 0 < g.pointsAwarded ∧
    (sortedMatches near s.usedHosts g).head? = some h

def Assignment.take (s : Assignment) (g : GiftRowForAgency) (h : HostGiftCredit) : Assignment :=
  { hostToGift := s.hostToGift.insert h.id g.id
    usedHosts := insert h.id s.usedHosts
    claimedGifts := insert g.id s.claimedGifts }

theorem assignNear_cases (near : List HostGiftCredit) (s : Assignment) (g : GiftRowForAgency) :
    (∃ h, Picks near s g h ∧ assignNear near s g = s.take g h) ∨
      ((∀ h, ¬ Picks near s g h) ∧ assignNear near s g = s) := by
  unfold assignNear Picks
  split
  next out =>
    right
    refine ⟨?_, rfl⟩
    rintro h ⟨unclaimed, positive, -⟩
    exact out.elim unclaimed (Int.not_le.mpr positive)
  next active =>
    rw [not_or, Int.not_le] at active
    cases (sortedMatches near s.usedHosts g).head? with
    | none =>
      right
      constructor
      · intro h picks
        cases picks.2.2
      · rfl
    | some pick =>
      left
      exact ⟨pick, ⟨active.1, active.2, rfl⟩, rfl⟩

theorem mem_sortedMatches {usedHosts : Finset String} {g : GiftRowForAgency} {h : HostGiftCredit} :
    h ∈ sortedMatches near usedHosts g ↔ h ∈ near ∧ h.id ∉ usedHosts ∧ fits g h = true := by
  unfold sortedMatches
  rw [List.mem_insertionSort, List.mem_filter, Bool.and_eq_true, decide_eq_true_eq]

theorem Picks.matches {s : Assignment} {g : GiftRowForAgency} {h : HostGiftCredit}
    (picks : Picks near s g h) : h ∈ near ∧ h.id ∉ s.usedHosts ∧ fits g h = true :=
  mem_sortedMatches.mp (List.mem_of_head? picks.2.2)

theorem Assignment.LE.refl (start : Assignment) : start.LE start :=
  ⟨Finset.Subset.refl _, Finset.Subset.refl _⟩

theorem Assignment.LE.step (below : start.LE s) (near : List HostGiftCredit)
    (g : GiftRowForAgency) : start.LE (assignNear near s g) := by
  rcases assignNear_cases near s g with ⟨h, _, taken⟩ | ⟨_, same⟩
  · rw [taken]
    constructor
    · exact fun host member => Finset.mem_insert_of_mem (below.used member)
    · exact fun gift member => Finset.mem_insert_of_mem (below.claimed member)
  · rw [same]
    exact below

theorem Candidate.earlier (below : start.LE s) (candidate : Candidate near s g h) :
    Candidate near start g h where
  stored := candidate.stored
  free used := candidate.free (below.used used)
  unclaimed claimed := candidate.unclaimed (below.claimed claimed)
  positive := candidate.positive
  fit := candidate.fit

theorem sortedMatches_pairwise (usedHosts : Finset String) (g : GiftRowForAgency) :
    (sortedMatches near usedHosts g).Pairwise fun a b => distance g a ≤ distance g b := by
  let nearer (a b : HostGiftCredit) : Prop := distance g a ≤ distance g b
  have : Std.Total nearer := ⟨fun a b => Nat.le_total (distance g a) (distance g b)⟩
  have : IsTrans HostGiftCredit nearer := ⟨fun _ _ _ => Nat.le_trans⟩
  exact List.pairwise_insertionSort nearer _

theorem Picks.nearest (picks : Picks near s g h) : Nearest near s g h := by
  obtain ⟨stored, free, fit⟩ := picks.matches
  obtain ⟨unclaimed, positive, first⟩ := picks
  refine ⟨⟨stored, free, unclaimed, positive, fit⟩, ?_⟩
  intro h' _ candidate
  have member : h' ∈ sortedMatches near s.usedHosts g :=
    mem_sortedMatches.mpr ⟨candidate.stored, candidate.free, candidate.fit⟩
  have sorted : (sortedMatches near s.usedHosts g).Pairwise _ := sortedMatches_pairwise _ g
  obtain ⟨rest, split⟩ := List.head?_eq_some_iff.mp first
  rw [split] at member sorted
  rcases List.mem_cons.mp member with rfl | later
  · exact Nat.le_refl _
  · exact List.rel_of_pairwise_cons sorted later

theorem Candidate.exists_picks (candidate : Candidate near s g h) :
    ∃ pick, Picks near s g pick := by
  have member : h ∈ sortedMatches near s.usedHosts g :=
    mem_sortedMatches.mpr ⟨candidate.stored, candidate.free, candidate.fit⟩
  cases first : (sortedMatches near s.usedHosts g).head? with
  | none =>
    rw [List.head?_eq_none_iff] at first
    rw [first] at member
    cases member
  | some pick => exact ⟨pick, candidate.unclaimed, candidate.positive, first⟩

/-- After its turn a gift has a credit, or there was none for it. -/
theorem assignNear_idle_after : ¬ Candidate near (assignNear near s g) g h := by
  intro candidate
  rcases assignNear_cases near s g with ⟨pick, _, taken⟩ | ⟨idle, same⟩
  · rw [taken] at candidate
    exact candidate.unclaimed (Finset.mem_insert_self _ _)
  · rw [same] at candidate
    obtain ⟨pick, picks⟩ := candidate.exists_picks
    exact idle pick picks

/-- What the turns of the gifts in `passed` have done to the assignment by reference: they only add,
each time the nearest free credit and a gift that has none. -/
structure Extends (gifts : List GiftRowForAgency) (near : List HostGiftCredit) (start : Assignment)
    (passed : List GiftRowForAgency) (s : Assignment) : Prop where
  used : s.usedHosts = s.hostToGift.keys
  claimed : ∀ gift, gift ∈ s.claimedGifts ↔ ∃ host, s.hostToGift.lookup host = some gift
  within : ∀ host gift, s.hostToGift.lookup host = some gift → gift ∈ idsOf gifts
  kept : ∀ host gift, start.hostToGift.lookup host = some gift →
    s.hostToGift.lookup host = some gift
  nearest : ∀ host gift, start.hostToGift.lookup host = none → s.hostToGift.lookup host = some gift →
    ∃ before g after h, gifts = before ++ g :: after ∧ g.id = gift ∧ h.id = host ∧
      Nearest near (before.foldl (assignNear near) start) g h
  once : ∀ host host' gift, start.hostToGift.lookup host = none →
    s.hostToGift.lookup host = some gift → s.hostToGift.lookup host' = some gift → host = host'
  idle : ∀ g ∈ passed, ∀ h, ¬ Candidate near s g h

theorem extends_start :
    Extends gifts near (assignedByRef gifts byRef) [] (assignedByRef gifts byRef) where
  used := rfl
  claimed _ := mem_values
  within _ _ matched := (assignedByRef_from matched).1
  kept _ _ matched := matched
  nearest _ _ free matched := by
    rw [free] at matched
    cases matched
  once _ _ _ free matched := by
    rw [free] at matched
    cases matched
  idle _ member := absurd member List.not_mem_nil

theorem Extends.step {before after : List GiftRowForAgency} (split : gifts = before ++ g :: after)
    (now : s = before.foldl (assignNear near) start) (ext : Extends gifts near start before s) :
    Extends gifts near start (before ++ [g]) (assignNear near s g) := by
  have idle : ∀ g' ∈ before ++ [g], ∀ h, ¬ Candidate near (assignNear near s g) g' h := by
    intro g' member h candidate
    rcases List.mem_append.mp member with passed | last
    · exact ext.idle g' passed h (candidate.earlier ((Assignment.LE.refl s).step near g))
    · rw [List.mem_singleton.mp last] at candidate
      exact assignNear_idle_after candidate
  rcases assignNear_cases near s g with ⟨h, picks, taken⟩ | ⟨_, same⟩
  · have nearest := picks.nearest
    have absent : s.hostToGift.lookup h.id = none := by
      rw [Finmap.lookup_eq_none, ← Finmap.mem_keys, ← ext.used]
      exact nearest.candidate.free
    have fresh : ∀ host, s.hostToGift.lookup host ≠ some g.id :=
      fun host matched => nearest.candidate.unclaimed ((ext.claimed g.id).mpr ⟨host, matched⟩)
    have different : ∀ {host gift}, s.hostToGift.lookup host = some gift → host ≠ h.id := by
      rintro _ _ matched rfl
      rw [absent] at matched
      cases matched
    -- After the step a credit has this gift, or the one that it had before.
    have after : ∀ host gift, (s.take g h).hostToGift.lookup host = some gift →
        (host = h.id ∧ gift = g.id) ∨ (host ≠ h.id ∧ s.hostToGift.lookup host = some gift) := by
      intro host gift matched
      by_cases same : host = h.id
      · subst same
        rw [Assignment.take, Finmap.lookup_insert] at matched
        cases matched
        exact .inl ⟨rfl, rfl⟩
      · rw [Assignment.take, Finmap.lookup_insert_of_ne _ same] at matched
        exact .inr ⟨same, matched⟩
    have still : ∀ host gift, s.hostToGift.lookup host = some gift →
        (s.take g h).hostToGift.lookup host = some gift := by
      intro host gift matched
      rw [Assignment.take, Finmap.lookup_insert_of_ne _ (different matched)]
      exact matched
    rw [taken] at idle ⊢
    constructor
    · ext host
      rw [Assignment.take, ext.used, Finset.mem_insert, Finmap.mem_keys, Finmap.mem_keys,
        Finmap.mem_insert]
    · intro gift
      rw [Assignment.take, Finset.mem_insert, ext.claimed]
      constructor
      · rintro (rfl | ⟨host, matched⟩)
        · exact ⟨h.id, Finmap.lookup_insert _⟩
        · exact ⟨host, still host gift matched⟩
      · rintro ⟨host, matched⟩
        rcases after host gift matched with ⟨_, rfl⟩ | ⟨_, before⟩
        · exact .inl rfl
        · exact .inr ⟨host, before⟩
    · intro host gift matched
      rcases after host gift matched with ⟨rfl, rfl⟩ | ⟨_, before⟩
      · exact List.mem_toFinset.mpr (List.mem_map_of_mem (by simp [split]))
      · exact ext.within host gift before
    · exact fun host gift matched => still host gift (ext.kept host gift matched)
    · intro host gift free matched
      rcases after host gift matched with ⟨rfl, rfl⟩ | ⟨_, before⟩
      · exact ⟨_, g, _, h, split, rfl, rfl, now ▸ nearest⟩
      · exact ext.nearest host gift free before
    · intro host host' gift free matched matched'
      rcases after host gift matched with ⟨rfl, rfl⟩ | ⟨_, before⟩
      · rcases after host' _ matched' with ⟨rfl, _⟩ | ⟨_, before'⟩
        · rfl
        · exact absurd before' (fresh host')
      · rcases after host' gift matched' with ⟨rfl, rfl⟩ | ⟨_, before'⟩
        · exact absurd before (fresh host)
        · exact ext.once host host' gift free before before'
    · exact idle
  · rw [same] at idle ⊢
    exact { ext with idle }

theorem extends_run (ext : Extends gifts near start [] start) (before after : List GiftRowForAgency)
    (split : gifts = before ++ after) :
    Extends gifts near start before (before.foldl (assignNear near) start) := by
  induction before using List.reverseRecOn generalizing after with
  | nil => exact ext
  | append_singleton before g ih =>
    rw [List.append_assoc, List.singleton_append] at split
    rw [List.foldl_append]
    exact (ih (g :: after) split).step split rfl

theorem assigned_extends : Extends gifts near (assignedByRef gifts byRef) gifts
    (gifts.foldl (assignNear near) (assignedByRef gifts byRef)) :=
  extends_run extends_start gifts [] (List.append_nil gifts).symm

end Assigned

/-! ### Sums -/

section Sums

variable {giftIds : Finset String} {hostToGift : IdMap String}

/-- What a commission adds to a gift. -/
def share (giftIds : Finset String) (hostToGift : IdMap String) (gift : String)
    (c : CommissionRow) : Int :=
  if giftOf giftIds hostToGift c = some gift then c.amount else 0

/-- A commission changes the sum of its own gift and no other. -/
theorem addCommission_lookup (map : IdMap Int) (c : CommissionRow) (gift : String) :
    (addCommission giftIds hostToGift map c).lookup gift =
      if giftOf giftIds hostToGift c = some gift then some ((map.lookup gift).getD 0 + c.amount)
      else map.lookup gift := by
  unfold addCommission
  cases giftOf giftIds hostToGift c with
  | none => rfl
  | some giftId =>
    by_cases same : giftId = gift
    · subst same
      rw [if_pos rfl]
      exact Finmap.lookup_insert map
    · rw [if_neg (by simpa using same)]
      exact Finmap.lookup_insert_of_ne map (Ne.symm same)

/-- Each commission is counted for the gift it counts for, and for no other. -/
theorem sumCommissionsByGiftId_lookup (commissions : List CommissionRow) (gift : String) :
    ((sumCommissionsByGiftId giftIds hostToGift commissions).lookup gift).getD 0 =
      (commissions.map (share giftIds hostToGift gift)).sum := by
  unfold sumCommissionsByGiftId
  induction commissions using List.reverseRecOn with
  | nil => rfl
  | append_singleton earlier c ih =>
    rw [List.foldl_append, List.foldl_cons, List.foldl_nil, List.map_append, List.sum_append, ← ih,
      addCommission_lookup]
    split
    next counts => simp [share, counts]
    next other => simp [share, other]

/-- There is a sum only where a commission counts. -/
theorem sumCommissionsByGiftId_from {commissions : List CommissionRow} {gift : String}
    (stored : gift ∈ sumCommissionsByGiftId giftIds hostToGift commissions) :
    ∃ c ∈ commissions, giftOf giftIds hostToGift c = some gift := by
  rw [← Finmap.lookup_isSome] at stored
  unfold sumCommissionsByGiftId at stored
  induction commissions using List.reverseRecOn with
  | nil => cases stored
  | append_singleton earlier c ih =>
    rw [List.foldl_append, List.foldl_cons, List.foldl_nil, addCommission_lookup] at stored
    split at stored
    next counts => exact ⟨c, by simp, counts⟩
    · obtain ⟨c', member, counts⟩ := ih stored
      exact ⟨c', List.mem_append_left _ member, counts⟩

theorem giftOf_within (within : ∀ host gift, hostToGift.lookup host = some gift → gift ∈ giftIds)
    {c : CommissionRow} {gift : String} (counts : giftOf giftIds hostToGift c = some gift) :
    gift ∈ giftIds := by
  unfold giftOf at counts
  split at counts
  · cases counts
  next refId _ =>
    rw [Option.filter_eq_some_iff] at counts
    obtain ⟨found, -⟩ := counts
    split at found
    next own =>
      cases found
      exact own
    · exact within refId gift found

/-- Over all gifts, every commission that counts is added once. -/
theorem sum_gifts (within : ∀ host gift, hostToGift.lookup host = some gift → gift ∈ giftIds)
    (commissions : List CommissionRow) :
    ∑ gift ∈ giftIds, ((sumCommissionsByGiftId giftIds hostToGift commissions).lookup gift).getD 0 =
      ((commissions.filter fun c => (giftOf giftIds hostToGift c).isSome).map (·.amount)).sum := by
  simp only [sumCommissionsByGiftId_lookup]
  induction commissions with
  | nil => simp
  | cons c rest ih =>
    simp only [List.map_cons, List.sum_cons, Finset.sum_add_distrib, ih]
    cases counts : giftOf giftIds hostToGift c with
    | none =>
      rw [List.filter_cons_of_neg (by simp [counts])]
      simp [share, counts]
    | some gift =>
      rw [List.filter_cons_of_pos (by simp [counts]), List.map_cons, List.sum_cons]
      -- Its own gift is the only one to which it adds anything.
      have one : ∑ other ∈ giftIds, share giftIds hostToGift other c = c.amount := by
        simp [share, counts, giftOf_within within counts]
      rw [one]

/-- A commission counts when its `refId` is a gift of the list, or a credit that was matched. -/
theorem giftOf_isSome_iff {c : CommissionRow} : (giftOf giftIds hostToGift c).isSome = true ↔
    ∃ refId, c.refId = some refId ∧ refId ≠ "" ∧ (refId ∈ giftIds ∨
      ∃ gift, hostToGift.lookup refId = some gift ∧ gift ≠ "") := by
  unfold giftOf
  cases c.refId with
  | none => simp
  | some refId =>
    by_cases empty : refId = ""
    · simp [Option.filter_some, empty]
    · by_cases own : refId ∈ giftIds
      · simp [Option.filter_some, empty, own]
      · cases found : hostToGift.lookup refId with
        | none => simp [Option.filter_some, empty, own, found]
        | some gift => simp [Option.filter_some, empty, own, found]

end Sums

/-! ### Attribution -/

section Attribution

variable {gifts : List GiftRowForAgency} {byRef near : List HostGiftCredit}
  {commissions : List CommissionRow}

/-- What the attribution of commissions to gifts is, whatever the rows. `hostToGift` being a map, a
credit has at most one gift. -/
structure Attributed (gifts : List GiftRowForAgency) (byRef near : List HostGiftCredit)
    (commissions : List CommissionRow) (hostToGift : IdMap String) (map : IdMap Int) : Prop where
  /-- Matches by reference are kept. -/
  by_ref : ∀ host gift, (assignedByRef gifts byRef).hostToGift.lookup host = some gift →
    hostToGift.lookup host = some gift ∧ gift ∈ idsOf gifts ∧
      ∃ h ∈ byRef, h.id = host ∧ h.refId = some gift
  /-- Any other match is the nearest one that was free when the gift had its turn, and then the
  gift has no other credit. -/
  by_near : ∀ host gift, (assignedByRef gifts byRef).hostToGift.lookup host = none →
    hostToGift.lookup host = some gift →
      (∃ before g after h, gifts = before ++ g :: after ∧ g.id = gift ∧ h.id = host ∧
        Nearest near (before.foldl (assignNear near) (assignedByRef gifts byRef)) g h) ∧
      ∀ host', hostToGift.lookup host' = some gift → host = host'
  /-- A gift without a credit has no candidate that is left. -/
  unmatched : ∀ g ∈ gifts, (∀ host, hostToGift.lookup host ≠ some g.id) → 0 < g.pointsAwarded →
    ∀ h ∈ near, fits g h = true → h.id ∈ hostToGift
  /-- A commission is part of the sum of the one gift it counts for. -/
  per_gift : ∀ gift, (map.lookup gift).getD 0 =
    (commissions.map (share (idsOf gifts) hostToGift gift)).sum
  within : ∀ gift ∈ map, gift ∈ idsOf gifts
  /-- The commissions that count are the ones that name a gift, or a credit that has one. -/
  counts : ∀ c, (giftOf (idsOf gifts) hostToGift c).isSome = true ↔
    ∃ refId, c.refId = some refId ∧ refId ≠ "" ∧ (refId ∈ idsOf gifts ∨
      ∃ gift, hostToGift.lookup refId = some gift ∧ gift ≠ "")
  total : ∑ gift ∈ idsOf gifts, (map.lookup gift).getD 0 =
    ((commissions.filter fun c => (giftOf (idsOf gifts) hostToGift c).isSome).map (·.amount)).sum

theorem attributed : Attributed gifts byRef near commissions
    (assignHostCreditsToGiftRows gifts byRef near)
    (mapAgencyCommissionToGiftRows gifts byRef near commissions) := by
  have ext : Extends gifts near (assignedByRef gifts byRef) gifts _ := assigned_extends
  constructor
  · intro host gift matched
    exact ⟨ext.kept host gift matched, assignedByRef_from matched⟩
  · intro host gift free matched
    constructor
    · exact ext.nearest host gift free matched
    · exact fun host' matched' => ext.once host host' gift free matched matched'
  · intro g member without positive h stored fit
    by_contra free
    apply ext.idle g member h
    refine ⟨stored, fun used => free ?_, fun claimed => ?_, positive, fit⟩
    · exact Finmap.mem_keys.mp (ext.used ▸ used)
    · obtain ⟨host, matched⟩ := (ext.claimed g.id).mp claimed
      exact without host matched
  · exact sumCommissionsByGiftId_lookup commissions
  · intro gift stored
    obtain ⟨c, _, counts⟩ := sumCommissionsByGiftId_from stored
    exact giftOf_within ext.within counts
  · exact fun c => giftOf_isSome_iff
  · exact sum_gifts ext.within commissions

end Attribution

end OlNode.GiftCommission
