import OlNode.Gifting.AgencyCommission

/-!
# Order of the rows of gift commissions

The second loop of `assignHostCreditsToGiftRows` is greedy: a gift takes its nearest free credit, so
when one credit is the nearest of two gifts, the gift that comes first in the list has it. Nothing
else depends on the order of the rows, as long as no two credits are equally near to a gift.
-/
namespace OlNode.GiftCommission

/-- A loop does not depend on the order of its list when any two of its steps commute, in the states
that it can be in. -/
theorem foldl_perm {σ α : Type} {f : σ → α → σ} (Inv : σ → Prop) {l l' : List α}
    (perm : l.Perm l') (keeps : ∀ x ∈ l, ∀ z, Inv z → Inv (f z x))
    (commute : ∀ x ∈ l, ∀ y ∈ l, ∀ z, Inv z → f (f z x) y = f (f z y) x) {z : σ} (start : Inv z) :
    l.foldl f z = l'.foldl f z := by
  induction perm generalizing z with
  | nil => rfl
  | cons x _ ih =>
    apply ih
    · exact fun y later => keeps y (List.mem_cons_of_mem x later)
    · exact fun y later w other => commute y (List.mem_cons_of_mem x later) w
        (List.mem_cons_of_mem x other)
    · exact keeps x List.mem_cons_self z start
  | swap x y rest =>
    have x_mem : x ∈ y :: x :: rest := List.mem_cons_of_mem y List.mem_cons_self
    have swapped := commute y List.mem_cons_self x x_mem z start
    rw [List.foldl_cons, List.foldl_cons, swapped]
    rfl
  | trans first _ ih ih' =>
    rw [ih keeps commute start]
    apply ih'
    · exact fun x member => keeps x (first.mem_iff.mpr member)
    · exact fun x member y other => commute x (first.mem_iff.mpr member) y
        (first.mem_iff.mpr other)
    · exact start

/-- Rows of the list with the same id are the same row. -/
def Unique {α : Type} (id : α → String) (rows : List α) : Prop :=
  ∀ row ∈ rows, ∀ other ∈ rows, id row = id other → row = other

instance {α : Type} [DecidableEq α] (id : α → String) (rows : List α) :
    Decidable (Unique id rows) :=
  inferInstanceAs (Decidable (∀ row ∈ rows, ∀ other ∈ rows, id row = id other → row = other))

/-- No two candidates of a gift are equally near. -/
def Untied (gifts : List GiftRowForAgency) (near : List HostGiftCredit) (start : Assignment) :
    Prop :=
  ∀ g ∈ gifts, ∀ h ∈ near, ∀ h' ∈ near, Candidate near start g h → Candidate near start g h' →
    distance g h = distance g h' → h = h'

instance (gifts : List GiftRowForAgency) (near : List HostGiftCredit) (start : Assignment) :
    Decidable (Untied gifts near start) :=
  inferInstanceAs (Decidable (∀ g ∈ gifts, ∀ h ∈ near, ∀ h' ∈ near, Candidate near start g h →
    Candidate near start g h' → distance g h = distance g h' → h = h'))

/-- No credit is the nearest candidate of two gifts. -/
def Uncontested (gifts : List GiftRowForAgency) (near : List HostGiftCredit) (start : Assignment) :
    Prop :=
  ∀ h ∈ near, ∀ g ∈ gifts, ∀ g' ∈ gifts, Nearest near start g h → Nearest near start g' h → g = g'

instance (gifts : List GiftRowForAgency) (near : List HostGiftCredit) (start : Assignment) :
    Decidable (Uncontested gifts near start) :=
  inferInstanceAs (Decidable (∀ h ∈ near, ∀ g ∈ gifts, ∀ g' ∈ gifts, Nearest near start g h →
    Nearest near start g' h → g = g'))

section Order

variable {gifts gifts' : List GiftRowForAgency} {byRef byRef' near near' : List HostGiftCredit}
  {start s : Assignment} {g x y : GiftRowForAgency} {h : HostGiftCredit}

/-! ### The credit that a gift takes -/

/-- Without ties the sort has nothing to decide. -/
theorem picks_iff (below : start.LE s) (untied : Untied gifts near start) (member : g ∈ gifts) :
    Picks near s g h ↔ Nearest near s g h := by
  constructor
  · exact Picks.nearest
  · intro nearest
    obtain ⟨pick, picks⟩ := nearest.candidate.exists_picks
    have first := picks.nearest
    have level : distance g h = distance g pick :=
      Nat.le_antisymm (nearest.least pick first.candidate.stored first.candidate)
        (first.least h nearest.candidate.stored nearest.candidate)
    rw [untied g member h nearest.candidate.stored pick first.candidate.stored
      (nearest.candidate.earlier below) (first.candidate.earlier below) level]
    exact picks

theorem Picks.step (picks : Picks near s g h) : assignNear near s g = s.take g h := by
  rcases assignNear_cases near s g with ⟨pick, picks', taken⟩ | ⟨idle, _⟩
  · have both := picks.2.2.symm.trans picks'.2.2
    cases both
    exact taken
  · exact absurd picks (idle h)

theorem assignNear_idle (idle : ∀ h, ¬ Picks near s g h) : assignNear near s g = s := by
  rcases assignNear_cases near s g with ⟨h, picks, _⟩ | ⟨_, same⟩
  · exact absurd picks (idle h)
  · exact same

/-- A step is known from the credit that the gift picks. -/
theorem assignNear_congr (same : ∀ h, Picks near s g h ↔ Picks near' s g h) :
    assignNear near s g = assignNear near' s g := by
  by_cases busy : ∃ h, Picks near s g h
  · obtain ⟨h, picks⟩ := busy
    rw [picks.step, ((same h).mp picks).step]
  · have idle : ∀ h, ¬ Picks near s g h := not_exists.mp busy
    rw [assignNear_idle idle, assignNear_idle fun h picks => idle h ((same h).mpr picks)]

theorem Assignment.take_comm {k : HostGiftCredit} (different : h.id ≠ k.id) :
    (s.take x h).take y k = (s.take y k).take x h := by
  unfold Assignment.take
  dsimp only
  rw [Finmap.insert_insert_of_ne _ different, Finset.insert_comm k.id h.id,
    Finset.insert_comm y.id x.id]

/-! ### Reordering the lists -/

variable {giftIds : Finset String}

/-- Credits with different ids do not see each other's entries. -/
theorem assignByRef_comm {x y : HostGiftCredit} (m : IdMap String) (different : x.id ≠ y.id) :
    assignByRef giftIds (assignByRef giftIds m x) y =
      assignByRef giftIds (assignByRef giftIds m y) x := by
  apply Finmap.ext_lookup
  intro host
  simp only [assignByRef_lookup]
  by_cases isX : host = x.id
  · have notY : host ≠ y.id := isX ▸ different
    rw [if_neg notY, if_pos isX, if_pos isX, if_neg notY]
  · rw [if_neg isX, if_neg isX]

theorem Candidate.of_perm (perm : near'.Perm near) (candidate : Candidate near' s g h) :
    Candidate near s g h where
  stored := perm.mem_iff.mp candidate.stored
  free := candidate.free
  unclaimed := candidate.unclaimed
  positive := candidate.positive
  fit := candidate.fit

theorem Nearest.of_perm (perm : near'.Perm near) (nearest : Nearest near' s g h) :
    Nearest near s g h where
  candidate := nearest.candidate.of_perm perm
  least h' stored candidate :=
    nearest.least h' (perm.mem_iff.mpr stored) (candidate.of_perm perm.symm)

theorem Untied.of_perm (perm : near'.Perm near) (untied : Untied gifts near start) :
    Untied gifts near' start :=
  fun g member h stored h' stored' candidate candidate' =>
    untied g member h (perm.mem_iff.mp stored) h' (perm.mem_iff.mp stored')
      (candidate.of_perm perm) (candidate'.of_perm perm)

theorem near_perm (perm : near'.Perm near) (untied : Untied gifts near start)
    (rest : List GiftRowForAgency) (among : rest ⊆ gifts) (below : start.LE s) :
    rest.foldl (assignNear near') s = rest.foldl (assignNear near) s := by
  induction rest generalizing s with
  | nil => rfl
  | cons g rest ih =>
    have member : g ∈ gifts := among List.mem_cons_self
    have step : assignNear near' s g = assignNear near s g := by
      apply assignNear_congr
      intro h
      rw [picks_iff below untied member, picks_iff below (untied.of_perm perm) member]
      constructor
      · exact Nearest.of_perm perm
      · exact Nearest.of_perm perm.symm
    rw [List.foldl_cons, List.foldl_cons, step]
    exact ih (List.subset_of_cons_subset among) (below.step near g)

/-- Each credit taken so far is the nearest one of a gift that has taken it. -/
structure Settled (gifts : List GiftRowForAgency) (near : List HostGiftCredit)
    (start s : Assignment) : Prop where
  below : start.LE s
  taken : ∀ host ∈ s.usedHosts, host ∈ start.usedHosts ∨
    ∃ g ∈ gifts, ∃ h, h.id = host ∧ Nearest near start g h ∧ g.id ∈ s.claimedGifts

theorem settled_start : Settled gifts near start start where
  below := Assignment.LE.refl start
  taken _ used := .inl used

section Uncontested

variable (uncontested : Uncontested gifts near start) (unique : Unique HostGiftCredit.id near)

include uncontested unique

section

variable (settled : Settled gifts near start s)
include settled

/-- The credit of a gift that has none yet is still there. -/
theorem Settled.nearest (member : g ∈ gifts) (unclaimed : g.id ∉ s.claimedGifts)
    (nearest : Nearest near start g h) : Nearest near s g h := by
  have free : h.id ∉ s.usedHosts := by
    intro used
    rcases settled.taken h.id used with before | ⟨other, among, h', same, nearest', claimed⟩
    · exact nearest.candidate.free before
    · rw [unique h' nearest'.candidate.stored h nearest.candidate.stored same] at nearest'
      rw [uncontested h nearest.candidate.stored other among g member nearest' nearest] at claimed
      exact unclaimed claimed
  constructor
  · exact ⟨nearest.candidate.stored, free, unclaimed, nearest.candidate.positive,
      nearest.candidate.fit⟩
  · exact fun h' stored candidate => nearest.least h' stored (candidate.earlier settled.below)

section

variable (untied : Untied gifts near start)
include untied

/-- So the order of the gifts before it does not matter to a gift. -/
theorem Settled.picks_iff (member : g ∈ gifts) :
    Picks near s g h ↔ g.id ∉ s.claimedGifts ∧ Nearest near start g h := by
  constructor
  · intro picks
    have candidate := picks.nearest.candidate.earlier settled.below
    obtain ⟨pick, first⟩ := candidate.exists_picks
    have still := settled.nearest uncontested unique member picks.1 first.nearest
    -- Both are nearest now, so both are nearest at the start.
    have level : distance g h = distance g pick :=
      Nat.le_antisymm (picks.nearest.least pick still.candidate.stored still.candidate)
        (first.nearest.least h candidate.stored candidate)
    rw [untied g member h candidate.stored pick still.candidate.stored candidate
      first.nearest.candidate level]
    exact ⟨picks.1, first.nearest⟩
  · rintro ⟨unclaimed, nearest⟩
    rw [GiftCommission.picks_iff settled.below untied member]
    exact settled.nearest uncontested unique member unclaimed nearest

theorem Settled.step (member : g ∈ gifts) : Settled gifts near start (assignNear near s g) := by
  constructor
  · exact settled.below.step near g
  · rcases assignNear_cases near s g with ⟨h, picks, took⟩ | ⟨_, same⟩
    · obtain ⟨_, nearest⟩ := (settled.picks_iff uncontested unique untied member).mp picks
      rw [took]
      intro host used
      rcases Finset.mem_insert.mp used with rfl | before
      · exact .inr ⟨g, member, h, rfl, nearest, Finset.mem_insert_self _ _⟩
      · rcases settled.taken host before with initial | ⟨other, among, h', same, nearest', claimed⟩
        · exact .inl initial
        · exact .inr ⟨other, among, h', same, nearest', Finset.mem_insert_of_mem claimed⟩
    · rw [same]
      exact settled.taken

/-- A gift picks the same credit before and after another gift has taken its own. -/
theorem Settled.picks_after (x_mem : x ∈ gifts) (y_mem : y ∈ gifts) (different : y.id ≠ x.id) :
    Picks near (assignNear near s x) y h ↔ Picks near s y h := by
  have claimed : y.id ∈ (assignNear near s x).claimedGifts ↔ y.id ∈ s.claimedGifts := by
    rcases assignNear_cases near s x with ⟨k, _, took⟩ | ⟨_, same⟩
    · rw [took, Assignment.take, Finset.mem_insert]
      simp [different]
    · rw [same]
  have later := settled.step uncontested unique untied x_mem
  rw [later.picks_iff uncontested unique untied y_mem,
    settled.picks_iff uncontested unique untied y_mem, claimed]

theorem assignNear_comm (rows : Unique GiftRowForAgency.id gifts) (x_mem : x ∈ gifts)
    (y_mem : y ∈ gifts) :
    assignNear near (assignNear near s x) y = assignNear near (assignNear near s y) x := by
  by_cases same : x = y
  · rw [same]
  have different : x.id ≠ y.id := fun ids => same (rows x x_mem y y_mem ids)
  have y_after := fun k =>
    settled.picks_after (h := k) uncontested unique untied x_mem y_mem different.symm
  have x_after := fun k =>
    settled.picks_after (h := k) uncontested unique untied y_mem x_mem different
  by_cases x_busy : ∃ h, Picks near s x h
  · obtain ⟨h, x_picks⟩ := x_busy
    by_cases y_busy : ∃ k, Picks near s y k
    · obtain ⟨k, y_picks⟩ := y_busy
      obtain ⟨_, x_nearest⟩ := (settled.picks_iff uncontested unique untied x_mem).mp x_picks
      obtain ⟨_, y_nearest⟩ := (settled.picks_iff uncontested unique untied y_mem).mp y_picks
      have apart : h.id ≠ k.id := by
        intro ids
        rw [unique h x_nearest.candidate.stored k y_nearest.candidate.stored ids] at x_nearest
        exact same (uncontested k y_nearest.candidate.stored x x_mem y y_mem x_nearest y_nearest)
      rw [((y_after k).mpr y_picks).step, ((x_after h).mpr x_picks).step, x_picks.step,
        y_picks.step]
      exact Assignment.take_comm apart
    · have idle : ∀ k, ¬ Picks near s y k := not_exists.mp y_busy
      rw [assignNear_idle fun k picks => idle k ((y_after k).mp picks), assignNear_idle idle]
  · have idle : ∀ h, ¬ Picks near s x h := not_exists.mp x_busy
    rw [assignNear_idle fun h picks => idle h ((x_after h).mp picks), assignNear_idle idle]

end

end

theorem gifts_perm (perm : gifts'.Perm gifts) (untied : Untied gifts near start)
    (rows : Unique GiftRowForAgency.id gifts) :
    gifts'.foldl (assignNear near) start = gifts.foldl (assignNear near) start := by
  symm
  apply foldl_perm (Settled gifts near start) perm.symm
  · exact fun g member s settled => settled.step uncontested unique untied member
  · exact fun x x_mem y y_mem s settled =>
      assignNear_comm uncontested unique settled untied rows x_mem y_mem
  · exact settled_start

end Uncontested

theorem assignedByRef_gifts (perm : gifts'.Perm gifts) :
    assignedByRef gifts' byRef = assignedByRef gifts byRef := by
  have ids : idsOf gifts' = idsOf gifts := List.toFinset_eq_of_perm _ _ (perm.map _)
  unfold assignedByRef
  rw [ids]

theorem assignedByRef_perm (perm : byRef'.Perm byRef) (unique : Unique HostGiftCredit.id byRef) :
    assignedByRef gifts byRef' = assignedByRef gifts byRef := by
  have commute : ∀ x ∈ byRef, ∀ y ∈ byRef, ∀ m : IdMap String,
      assignByRef (idsOf gifts) (assignByRef (idsOf gifts) m x) y =
        assignByRef (idsOf gifts) (assignByRef (idsOf gifts) m y) x := by
    intro x x_mem y y_mem m
    by_cases same : x.id = y.id
    · rw [unique x x_mem y y_mem same]
    · exact assignByRef_comm m same
  unfold assignedByRef
  rw [perm.symm.foldl_eq' commute]

/-- Two commissions for one gift are added in either order, two for different gifts do not meet. -/
theorem addCommission_comm {hostToGift : IdMap String} (map : IdMap Int) (c d : CommissionRow) :
    addCommission giftIds hostToGift (addCommission giftIds hostToGift map c) d =
      addCommission giftIds hostToGift (addCommission giftIds hostToGift map d) c := by
  apply Finmap.ext_lookup
  intro gift
  simp only [addCommission_lookup]
  by_cases forC : giftOf giftIds hostToGift c = some gift
  · by_cases forD : giftOf giftIds hostToGift d = some gift
    · simp only [if_pos forC, if_pos forD, Option.getD_some, Option.some.injEq]
      omega
    · simp only [if_pos forC, if_neg forD]
  · simp only [if_neg forC]

theorem commissions_perm {hostToGift : IdMap String}
    {commissions commissions' : List CommissionRow} (perm : commissions'.Perm commissions) :
    sumCommissionsByGiftId giftIds hostToGift commissions' =
      sumCommissionsByGiftId giftIds hostToGift commissions := by
  unfold sumCommissionsByGiftId
  apply perm.foldl_eq'
  exact fun c _ d _ map => addCommission_comm map c d

end Order

section Attribution

variable {gifts gifts' : List GiftRowForAgency} {byRef byRef' near near' : List HostGiftCredit}

theorem assigned_perm (permByRef : byRef'.Perm byRef) (permNear : near'.Perm near)
    (refs : Unique HostGiftCredit.id byRef) (untied : Untied gifts near (assignedByRef gifts byRef))
    (permGifts : gifts' = gifts ∨ gifts'.Perm gifts ∧ Unique GiftRowForAgency.id gifts ∧
      Unique HostGiftCredit.id near ∧ Uncontested gifts near (assignedByRef gifts byRef)) :
    assignHostCreditsToGiftRows gifts' byRef' near' =
      assignHostCreditsToGiftRows gifts byRef near := by
  have perm : gifts'.Perm gifts := by
    rcases permGifts with rfl | ⟨perm, _⟩
    · exact List.Perm.refl _
    · exact perm
  have same : gifts'.foldl (assignNear near) (assignedByRef gifts byRef) =
      gifts.foldl (assignNear near) (assignedByRef gifts byRef) := by
    rcases permGifts with rfl | ⟨perm, rows, unique, uncontested⟩
    · rfl
    · exact gifts_perm uncontested unique perm untied rows
  unfold assignHostCreditsToGiftRows
  rw [assignedByRef_gifts perm, assignedByRef_perm permByRef refs,
    near_perm permNear untied gifts' perm.subset (Assignment.LE.refl _), same]

/-- The attribution loses and duplicates nothing. The order of the credits and of the commissions
does not matter when nothing is tied, and that of the gifts when no credit is the nearest of two. -/
theorem attribution (gifts : List GiftRowForAgency) (byRef near : List HostGiftCredit)
    (commissions : List CommissionRow) :
    Attributed gifts byRef near commissions (assignHostCreditsToGiftRows gifts byRef near)
        (mapAgencyCommissionToGiftRows gifts byRef near commissions) ∧
      ∀ gifts' byRef' near' commissions', byRef'.Perm byRef → near'.Perm near →
        commissions'.Perm commissions → Unique HostGiftCredit.id byRef →
        Untied gifts near (assignedByRef gifts byRef) →
        (gifts' = gifts ∨ gifts'.Perm gifts ∧ Unique GiftRowForAgency.id gifts ∧
          Unique HostGiftCredit.id near ∧ Uncontested gifts near (assignedByRef gifts byRef)) →
        mapAgencyCommissionToGiftRows gifts' byRef' near' commissions' =
          mapAgencyCommissionToGiftRows gifts byRef near commissions := by
  constructor
  · exact attributed
  · intro gifts' byRef' near' commissions' permByRef permNear permCommissions refs untied permGifts
    have ids : idsOf gifts' = idsOf gifts := by
      rcases permGifts with rfl | ⟨perm, _⟩
      · rfl
      · exact List.toFinset_eq_of_perm _ _ (perm.map _)
    unfold mapAgencyCommissionToGiftRows
    rw [ids, assigned_perm permByRef permNear refs untied permGifts,
      commissions_perm permCommissions]

end Attribution

/-! ### Two gifts -/

private def gift (id : String) (createdAt : Time) : GiftRowForAgency :=
  { id, senderUserId := "s", receiverUserId := "r", pointsAwarded := 5, createdAt }

private def credit (id : String) (refId : Option String) (createdAt : Time) : HostGiftCredit :=
  { id, refId, amount := 5, createdAt, counterpartyId := some "s", walletUserId := "r" }

/-- Both credits are within reach of both gifts, and each gift has its own nearest one. -/
theorem attribution_two_gifts :
    mapAgencyCommissionToGiftRows [gift "b" 2000, gift "a" 0, gift "c" 10] [credit "i" (some "c") 0]
        [credit "k" none 2000, credit "h" none 0]
        [⟨some "c", 16⟩, ⟨some "k", 200⟩, ⟨some "h", 100⟩] =
      mapAgencyCommissionToGiftRows [gift "a" 0, gift "b" 2000, gift "c" 10]
        [credit "i" (some "c") 0] [credit "h" none 0, credit "k" none 2000]
        [⟨some "h", 100⟩, ⟨some "k", 200⟩, ⟨some "c", 16⟩] :=
  (attribution [gift "a" 0, gift "b" 2000, gift "c" 10] [credit "i" (some "c") 0]
    [credit "h" none 0, credit "k" none 2000]
    [⟨some "h", 100⟩, ⟨some "k", 200⟩, ⟨some "c", 16⟩]).2
    [gift "b" 2000, gift "a" 0, gift "c" 10] [credit "i" (some "c") 0]
    [credit "k" none 2000, credit "h" none 0]
    [⟨some "c", 16⟩, ⟨some "k", 200⟩, ⟨some "h", 100⟩]
    (by decide) (by decide) (by decide) (by decide) (by decide) (by right; decide)

/-- The commissions whose host credit was matched. -/
def ofMatched (hostToGift : IdMap String) (commissions : List CommissionRow) :
    List CommissionRow :=
  commissions.filter fun c => (c.refId.bind hostToGift.lookup).isSome

/-- No two matches of any gifts are equally near. -/
def Apart (gifts : List GiftRowForAgency) (near : List HostGiftCredit) (start : Assignment) :
    Prop :=
  ∀ g ∈ gifts, ∀ g' ∈ gifts, ∀ h ∈ near, ∀ h' ∈ near, Candidate near start g h →
    Candidate near start g' h' → distance g h = distance g' h' → g = g' ∧ h = h'

instance (gifts : List GiftRowForAgency) (near : List HostGiftCredit) (start : Assignment) :
    Decidable (Apart gifts near start) :=
  inferInstanceAs (Decidable (∀ g ∈ gifts, ∀ g' ∈ gifts, ∀ h ∈ near, ∀ h' ∈ near,
    Candidate near start g h → Candidate near start g' h' → distance g h = distance g' h' →
      g = g' ∧ h = h'))

/-- A commission on the gift itself counts without a credit. The credit in the middle of two gifts
goes to the one that is listed first, and of two rows for one credit the first is used. -/
theorem not_attribution :
    (¬ ∀ gifts byRef near commissions,
      ∑ id ∈ idsOf gifts,
          ((mapAgencyCommissionToGiftRows gifts byRef near commissions).lookup id).getD 0 =
        ((ofMatched (assignHostCreditsToGiftRows gifts byRef near) commissions).map (·.amount)).sum) ∧
    (¬ ∀ gifts gifts' byRef near commissions, gifts'.Perm gifts →
      Apart gifts near (assignedByRef gifts byRef) →
        mapAgencyCommissionToGiftRows gifts' byRef near commissions =
          mapAgencyCommissionToGiftRows gifts byRef near commissions) ∧
    ¬ ∀ gifts byRef byRef' near commissions, byRef'.Perm byRef →
      Apart gifts near (assignedByRef gifts byRef) →
        mapAgencyCommissionToGiftRows gifts byRef' near commissions =
          mapAgencyCommissionToGiftRows gifts byRef near commissions := by
  refine ⟨?_, ?_, ?_⟩
  · intro sums
    have same := sums [gift "a" 0] [] [] [⟨some "a", 16⟩]
    exact absurd same (by decide)
  · intro free
    have same := free [gift "a" 0, gift "b" 2000] [gift "b" 2000, gift "a" 0] []
      [credit "h" none 1500] [⟨some "h", 7⟩] (by decide) (by decide)
    exact absurd same (by decide)
  · intro free
    have same := free [gift "a" 0, gift "b" 2000] [credit "h" (some "a") 0, credit "h" (some "b") 0]
      [credit "h" (some "b") 0, credit "h" (some "a") 0] [] [⟨some "h", 7⟩] (by decide) (by decide)
    exact absurd same (by decide)

end OlNode.GiftCommission
