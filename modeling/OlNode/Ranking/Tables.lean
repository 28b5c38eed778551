import OlNode.Ranking.Model

/-!
# The tables hold what is counted

Each operation of a live service adds the same to the scores and to what the tables say, except for
a gift, which is credited first and counted later: until then it waits in between. The monthly
totals of recharges say nothing of a day.
-/
namespace OlNode.Ranking

open Totals

/-! ### The tables -/

def creditSource (db : RankingDb) (txTypes : List PointTxType) (entityId : UserId) (day : Day) :
    Int :=
  sumWhere (fun credit => credit.txType ∈ txTypes && (credit.userId, credit.createdDay) =
    (entityId, day)) (·.amount) db.credits

def source (db : RankingDb) (board : RankingBoard) (entityId : UserId) (day : Day) : Int :=
  match board with
  | .host => creditSource db HOST_RANKING_TX_TYPES entityId day
  | .gift => creditSource db GIFT_RANKING_TX_TYPES entityId day
  | .agency => sumWhere (fun row => (row.agencyUserId, row.day) = (entityId, day))
      (·.hostEarningsPoints) db.earnings
  | .rich => 0

def uncounted (db : RankingDb) (board : RankingBoard) (entityId : UserId) (day : Day) : Int :=
  match board with
  | .host | .gift => sumWhere (fun gift => (gift.userId, gift.createdDay) = (entityId, day))
      (·.amount) db.sentGifts
  | _ => 0

def owed (rows : List ScoreRow) (entityId : UserId) (day : Day) : Int :=
  sumWhere (fun row => (row.entityId, row.day) = (entityId, day)) (·.score) rows

private theorem owed_grouped {ρ : Type} (key : ρ → UserId × Day) (value : ρ → Int) (rows : List ρ)
    (entityId : UserId) (day : Day) :
    owed (grouped key value rows) entityId day =
      sumWhere (fun row => key row = (entityId, day)) value rows := by
  have all := sum_groups key (fun k => if k = (entityId, day) then 1 else 0) value rows
  rw [owed, sumWhere_eq_weighted, sumWhere_eq_weighted, grouped, List.map_map]
  simpa [Function.comp_def, Prod.ext_iff] using all

private theorem sumWhere_window {ρ : Type} (key : ρ → UserId × Day) (cond : ρ → Bool)
    (value : ρ → Int) (window : Window) (rows : List ρ) (entityId : UserId) (day : Day) :
    sumWhere (fun row => key row = (entityId, day)) value
        (rows.filter fun row => cond row && window.contains (key row).2) =
      if window.contains day then
        sumWhere (fun row => cond row && key row = (entityId, day)) value rows else 0 := by
  induction rows with
  | nil => simp
  | cons row rows ih =>
    rw [sumWhere_filter, sumWhere_cons, ← sumWhere_filter, ih, sumWhere_cons]
    by_cases own : key row = (entityId, day)
    · rw [own]
      by_cases inside : window.contains day = true
      · simp [inside]
      · simp [inside]
    · simp [own]

theorem owed_rowsOf (db : RankingDb) (window : Window) {board : RankingBoard}
    (notRich : board ≠ .rich) (entityId : UserId) (day : Day) :
    owed (rowsOf db window board) entityId day =
      if window.contains day then source db board entityId day else 0 := by
  cases board with
  | host =>
    rw [rowsOf, creditRows, owed_grouped]
    exact sumWhere_window (fun credit : PointCredit => (credit.userId, credit.createdDay))
      _ _ _ _ _ _
  | gift =>
    rw [rowsOf, creditRows, owed_grouped]
    exact sumWhere_window (fun credit : PointCredit => (credit.userId, credit.createdDay))
      _ _ _ _ _ _
  | agency =>
    have all := sumWhere_window (fun row : DailyEarning => (row.agencyUserId, row.day))
      (fun _ => true) (·.hostEarningsPoints) window db.earnings entityId day
    simp only [Bool.true_and] at all
    rw [rowsOf, owed_grouped]
    exact all
  | rich => exact absurd rfl notRich

/-! ### What a live service counts -/

/-- What is added to the scores on both sides, to what the tables say and to what is not counted
yet. -/
structure Effect (s t : RankingDb) (counted tables pending : Scores) : Prop where
  scores : ∀ b e d, t.scores b e d = s.scores b e d + counted b e d
  live : ∀ b e d, t.live b e d = s.live b e d + counted b e d
  source : ∀ b, b ≠ .rich → ∀ e d, source t b e d = source s b e d + tables b e d
  uncounted : ∀ b e d, uncounted t b e d = uncounted s b e d + pending b e d

/-- The tables as the live services leave them. -/
structure Tables (db : RankingDb) : Prop where
  credits : ∀ credit ∈ db.credits, 0 < credit.amount
  earnings : ∀ row ∈ db.earnings, 0 ≤ row.hostEarningsPoints
  unique : (db.earnings.map DailyEarning.key).Nodup
  gifts : ∀ gift ∈ db.sentGifts, 0 < gift.amount
  scores : ∀ b e d, 0 ≤ db.scores b e d
  live : ∀ b e d, 0 ≤ db.live b e d

def point (counts : Bool) (board : RankingBoard) (entityId : UserId) (day : Day) (amount : Int) :
    Scores :=
  fun b e d => if counts = true ∧ b = board ∧ e = entityId ∧ d = day then amount else 0

theorem increment_eq {scores : Scores} (nonneg : ∀ b e d, 0 ≤ scores b e d)
    {amount : Int} (amount_nonneg : 0 ≤ amount) (board : RankingBoard) (entityId : UserId)
    (day : Day) (b : RankingBoard) (e : UserId) (d : Day) :
    scores.increment board entityId day amount b e d =
      scores b e d + point true board entityId day amount b e d := by
  have old := nonneg b e d
  unfold Scores.increment point
  by_cases own : b = board ∧ e = entityId ∧ d = day
  · simp only [own, and_self, if_true]
    rw [own.1, own.2.1, own.2.2] at old
    omega
  · simp [own]

def nothing : Scores := fun _ _ _ => 0

private theorem Effect.trans {s t u : RankingDb} {c c' x x' p p' : Scores}
    (first : Effect s t c x p) (second : Effect t u c' x' p') :
    Effect s u (fun b e d => c b e d + c' b e d) (fun b e d => x b e d + x' b e d)
      (fun b e d => p b e d + p' b e d) where
  scores b e d := by rw [second.scores, first.scores, Int.add_assoc]
  live b e d := by rw [second.live, first.live, Int.add_assoc]
  source b notRich e d := by rw [second.source b notRich, first.source b notRich, Int.add_assoc]
  uncounted b e d := by rw [second.uncounted, first.uncounted, Int.add_assoc]

section Statements

variable {db : RankingDb} {amount : Int}

private theorem incrementLive_effect (tables : Tables db) (nonneg : 0 ≤ amount)
    (board : RankingBoard) (entityId : UserId) (day : Day) :
    Effect db (db.incrementLive board entityId day amount)
      (point true board entityId day amount) nothing nothing where
  scores := increment_eq tables.scores nonneg board entityId day
  live := increment_eq tables.live nonneg board entityId day
  source b _ e d := by cases b <;> simp [source, creditSource, RankingDb.incrementLive, nothing]
  uncounted b e d := by cases b <;> simp [uncounted, RankingDb.incrementLive, nothing]

private theorem incrementLive_tables (tables : Tables db) (nonneg : 0 ≤ amount)
    (board : RankingBoard) (entityId : UserId) (day : Day) :
    Tables (db.incrementLive board entityId day amount) := by
  have effect := incrementLive_effect tables nonneg board entityId day
  have gain : ∀ b e d, 0 ≤ point true board entityId day amount b e d := by
    intro b e d
    unfold point
    split <;> omega
  refine ⟨tables.credits, tables.earnings, tables.unique, tables.gifts, fun b e d => ?_,
    fun b e d => ?_⟩
  · have old := tables.scores b e d
    have more := gain b e d
    rw [effect.scores]
    omega
  · have old := tables.live b e d
    have more := gain b e d
    rw [effect.live]
    omega

private theorem incrementIf_effect (tables : Tables db) (nonneg : 0 ≤ amount) (counts : Bool)
    (board : RankingBoard) (entityId : UserId) (day : Day) :
    Effect db (db.incrementIf counts board entityId day amount)
        (point counts board entityId day amount) nothing nothing ∧
      Tables (db.incrementIf counts board entityId day amount) := by
  cases counts with
  | true =>
    exact ⟨incrementLive_effect tables nonneg board entityId day,
      incrementLive_tables tables nonneg board entityId day⟩
  | false =>
    refine ⟨⟨fun b e d => ?_, fun b e d => ?_, fun b _ e d => ?_, fun b e d => ?_⟩, tables⟩
    all_goals simp [RankingDb.incrementIf, point, nothing]

def hostPoints (txType : PointTxType) (entityId : UserId) (day : Day) (amount : Int) : Scores :=
  fun b e d => point (txType ∈ HOST_RANKING_TX_TYPES) .host entityId day amount b e d +
    point (txType ∈ GIFT_RANKING_TX_TYPES) .gift entityId day amount b e d

private theorem onHostPointCredit_effect (tables : Tables db) (nonneg : 0 ≤ amount)
    (entityId : UserId) (txType : PointTxType) (day : Day) :
    Effect db (db.onHostPointCredit entityId amount txType day)
        (hostPoints txType entityId day amount) nothing nothing ∧
      Tables (db.onHostPointCredit entityId amount txType day) := by
  obtain ⟨first, between⟩ := incrementIf_effect tables nonneg (txType ∈ HOST_RANKING_TX_TYPES)
    .host entityId day
  obtain ⟨second, after⟩ := incrementIf_effect between nonneg (txType ∈ GIFT_RANKING_TX_TYPES)
    .gift entityId day
  exact ⟨first.trans second, after⟩

private theorem addCredit_effect (credit : PointCredit) :
    Effect db (db.addCredit credit) nothing
      (hostPoints credit.txType credit.userId credit.createdDay credit.amount) nothing where
  scores b e d := by simp [RankingDb.addCredit, nothing]
  live b e d := by simp [RankingDb.addCredit, nothing]
  uncounted b e d := by cases b <;> simp [uncounted, RankingDb.addCredit, nothing]
  source b notRich e d := by
    have one : ∀ txTypes : List PointTxType, creditSource (db.addCredit credit) txTypes e d =
        creditSource db txTypes e d + if credit.txType ∈ txTypes ∧ e = credit.userId ∧
          d = credit.createdDay then credit.amount else 0 := by
      intro txTypes
      have own : (credit.userId, credit.createdDay) = (e, d) ↔
          e = credit.userId ∧ d = credit.createdDay := by
        rw [Prod.mk.injEq, eq_comm, @eq_comm _ credit.createdDay]
      rw [creditSource, RankingDb.addCredit, sumWhere_append, sumWhere_cons, sumWhere_nil,
        creditSource]
      simp only [own, Bool.and_eq_true, decide_eq_true_eq, Int.add_zero]
    cases b with
    | host => simp [source, one, hostPoints, point]
    | gift => simp [source, one, hostPoints, point]
    | agency => simp [source, RankingDb.addCredit, hostPoints, point]
    | rich => exact absurd rfl notRich

private theorem addCredit_tables (tables : Tables db) {credit : PointCredit}
    (positive : 0 < credit.amount) : Tables (db.addCredit credit) := by
  refine ⟨fun other member => ?_, tables.earnings, tables.unique, tables.gifts, tables.scores,
    tables.live⟩
  rcases List.mem_append.mp member with old | last
  · exact tables.credits other old
  · rw [List.mem_singleton.mp last]
    exact positive

private theorem sum_map_earning {rows : List DailyEarning}
    (unique : (rows.map DailyEarning.key).Nodup)
    (nonneg : ∀ row ∈ rows, 0 ≤ row.hostEarningsPoints) (amount_nonneg : 0 ≤ amount)
    {agencyUserId hostUserId : UserId} {day : Day}
    (present : (agencyUserId, hostUserId, day) ∈ rows.map DailyEarning.key) (e : UserId) (d : Day) :
    sumWhere (fun row : DailyEarning => (row.agencyUserId, row.day) = (e, d))
      (·.hostEarningsPoints) (rows.map fun row => if row.key = (agencyUserId, hostUserId, day)
        then { row with hostEarningsPoints := max 0 (row.hostEarningsPoints + amount) } else row) =
      sumWhere (fun row : DailyEarning => (row.agencyUserId, row.day) = (e, d))
        (·.hostEarningsPoints) rows + if agencyUserId = e ∧ day = d then amount else 0 := by
  induction rows with
  | nil => cases present
  | cons row rows ih =>
    rw [List.map_cons, List.nodup_cons] at unique
    rw [List.map_cons, sumWhere_cons, sumWhere_cons]
    by_cases own : row.key = (agencyUserId, hostUserId, day)
    · have others : (rows.map fun row => if row.key = (agencyUserId, hostUserId, day)
          then { row with hostEarningsPoints := max 0 (row.hostEarningsPoints + amount) } else row) =
          rows := by
        conv_rhs => rw [← List.map_id rows]
        refine List.map_congr_left fun other member => if_neg fun same => ?_
        exact unique.1 (own.trans same.symm ▸ List.mem_map_of_mem member)
      have old := nonneg row List.mem_cons_self
      obtain ⟨agency, -, onDay⟩ : row.agencyUserId = agencyUserId ∧ row.hostUserId = hostUserId ∧
          row.day = day := by simpa [DailyEarning.key] using own
      rw [others, if_pos own]
      simp only [agency, onDay, Prod.mk.injEq, decide_eq_true_eq]
      split <;> omega
    · rw [if_neg own, ih unique.2 (fun other member => nonneg other (List.mem_cons_of_mem _ member))
        ((List.mem_cons.mp present).resolve_left (Ne.symm own)), Int.add_assoc]

private theorem sum_upsertEarning {rows : List DailyEarning}
    (unique : (rows.map DailyEarning.key).Nodup)
    (nonneg : ∀ row ∈ rows, 0 ≤ row.hostEarningsPoints) (amount_nonneg : 0 ≤ amount)
    (agencyUserId hostUserId : UserId) (day : Day) (e : UserId) (d : Day) :
    sumWhere (fun row : DailyEarning => (row.agencyUserId, row.day) = (e, d))
      (·.hostEarningsPoints) (upsertEarning rows agencyUserId hostUserId day amount) =
      sumWhere (fun row : DailyEarning => (row.agencyUserId, row.day) = (e, d))
        (·.hostEarningsPoints) rows + if agencyUserId = e ∧ day = d then amount else 0 := by
  unfold upsertEarning
  split
  next present =>
    refine sum_map_earning unique nonneg amount_nonneg ?_ e d
    obtain ⟨row, member, same⟩ := List.any_eq_true.mp present
    exact of_decide_eq_true same ▸ List.mem_map_of_mem member
  next =>
    rw [sumWhere_append, sumWhere_cons, sumWhere_nil]
    simp only [Prod.mk.injEq, decide_eq_true_eq]
    split <;> omega

private theorem upsertDailyEarning_effect (tables : Tables db) (nonneg : 0 ≤ amount)
    (agencyUserId hostUserId : UserId) (day : Day) :
    Effect db (db.upsertDailyEarning agencyUserId hostUserId day amount) nothing
      (point true .agency agencyUserId day amount) nothing where
  scores b e d := by simp [RankingDb.upsertDailyEarning, nothing]
  live b e d := by simp [RankingDb.upsertDailyEarning, nothing]
  uncounted b e d := by cases b <;> simp [uncounted, RankingDb.upsertDailyEarning, nothing]
  source b notRich e d := by
    have earned := sum_upsertEarning tables.unique tables.earnings nonneg agencyUserId hostUserId
      day e d
    cases b with
    | agency =>
      rw [source, RankingDb.upsertDailyEarning, earned, source, point]
      simp [eq_comm]
    | host => simp [source, creditSource, RankingDb.upsertDailyEarning, point]
    | gift => simp [source, creditSource, RankingDb.upsertDailyEarning, point]
    | rich => exact absurd rfl notRich

private theorem upsertDailyEarning_tables (tables : Tables db) (amount : Int)
    (agencyUserId hostUserId : UserId) (day : Day) :
    Tables (db.upsertDailyEarning agencyUserId hostUserId day amount) := by
  have rows : (∀ row ∈ upsertEarning db.earnings agencyUserId hostUserId day amount,
      0 ≤ row.hostEarningsPoints) ∧
      ((upsertEarning db.earnings agencyUserId hostUserId day amount).map
        DailyEarning.key).Nodup := by
    unfold upsertEarning
    split
    · refine ⟨fun row member => ?_, ?_⟩
      · obtain ⟨old, oldMember, rfl⟩ := List.mem_map.mp member
        split
        · exact Int.le_max_left 0 _
        · exact tables.earnings old oldMember
      · rw [List.map_map]
        have keys : DailyEarning.key ∘ (fun row : DailyEarning =>
            if row.key = (agencyUserId, hostUserId, day)
            then { row with hostEarningsPoints := max 0 (row.hostEarningsPoints + amount) }
            else row) = DailyEarning.key := by
          funext row
          simp only [Function.comp]
          split <;> rfl
        rw [keys]
        exact tables.unique
    next absent =>
      refine ⟨fun row member => ?_, ?_⟩
      · rcases List.mem_append.mp member with old | last
        · exact tables.earnings row old
        · rw [List.mem_singleton.mp last]
          exact Int.le_max_left 0 _
      · rw [List.map_append]
        refine List.nodup_append.mpr ⟨tables.unique, List.nodup_singleton _, ?_⟩
        rintro key member other last rfl
        obtain ⟨row, rowMember, same⟩ := List.mem_map.mp member
        rw [List.map_singleton, List.mem_singleton] at last
        refine absent (List.any_eq_true.mpr ⟨row, rowMember, ?_⟩)
        rw [same, last]
        exact decide_eq_true rfl
  exact ⟨tables.credits, rows.1, rows.2, tables.gifts, tables.scores, tables.live⟩

/-- What an agency earns. -/
def agencyPoints (agencyUserId : Option UserId) (day : Day) (amount : Int) : Scores :=
  fun b e d => point agencyUserId.isSome .agency (agencyUserId.getD 0) day amount b e d

private theorem earn_effect (tables : Tables db) (nonneg : 0 ≤ amount)
    (agencyUserId : Option UserId) (hostUserId : UserId) (day : Day) :
    Effect db (db.earn agencyUserId hostUserId day amount) (agencyPoints agencyUserId day amount)
        (agencyPoints agencyUserId day amount) nothing ∧
      Tables (db.earn agencyUserId hostUserId day amount) := by
  cases agencyUserId with
  | none =>
    refine ⟨⟨fun b e d => ?_, fun b e d => ?_, fun b _ e d => ?_, fun b e d => ?_⟩, tables⟩
    all_goals simp [RankingDb.earn, agencyPoints, point, nothing]
  | some agency =>
    have first := upsertDailyEarning_effect tables nonneg agency hostUserId day
    have between := upsertDailyEarning_tables tables amount agency hostUserId day
    have second := incrementLive_effect between nonneg .agency agency day
    have both := first.trans second
    simp only [nothing, Int.zero_add, Int.add_zero] at both
    exact ⟨both, incrementLive_tables between nonneg .agency agency day⟩

private theorem hostPoints_gift (userId : UserId) (day : Day) (amount : Int) (b : RankingBoard)
    (e : UserId) (d : Day) :
    hostPoints .giftReceive userId day amount b e d =
      if (b = .host ∨ b = .gift) ∧ (userId, day) = (e, d) then amount else 0 := by
  by_cases own : e = userId ∧ d = day
  · obtain ⟨rfl, rfl⟩ := own
    cases b <;> simp [hostPoints, point, HOST_RANKING_TX_TYPES, GIFT_RANKING_TX_TYPES]
  · have other : (userId, day) ≠ (e, d) := by
      intro same
      obtain ⟨rfl, rfl⟩ := Prod.mk.injEq .. ▸ same
      exact own ⟨rfl, rfl⟩
    rw [if_neg fun both => other both.2]
    simp [hostPoints, point, own]

private theorem uncounted_append (gift : SentGift) (b : RankingBoard) (e : UserId) (d : Day) :
    uncounted { db with sentGifts := db.sentGifts ++ [gift] } b e d = uncounted db b e d +
      hostPoints .giftReceive gift.userId gift.createdDay gift.amount b e d := by
  rw [hostPoints_gift]
  cases b with
  | host =>
    rw [uncounted, sumWhere_append, sumWhere_cons, sumWhere_nil]
    simp [uncounted]
  | gift =>
    rw [uncounted, sumWhere_append, sumWhere_cons, sumWhere_nil]
    simp [uncounted]
  | agency => simp [uncounted]
  | rich => simp [uncounted]

private theorem uncounted_erase {gift : SentGift} (sent : gift ∈ db.sentGifts) (b : RankingBoard)
    (e : UserId) (d : Day) :
    uncounted { db with sentGifts := db.sentGifts.erase gift } b e d = uncounted db b e d -
      hostPoints .giftReceive gift.userId gift.createdDay gift.amount b e d := by
  have parts := sumWhere_perm (List.perm_cons_erase sent)
    (fun gift : SentGift => (gift.userId, gift.createdDay) = (e, d)) (·.amount)
  rw [sumWhere_cons] at parts
  rw [hostPoints_gift]
  cases b with
  | host =>
    rw [uncounted, uncounted, parts]
    simp
  | gift =>
    rw [uncounted, uncounted, parts]
    simp
  | agency => simp [uncounted]
  | rich => simp [uncounted]

private theorem setGifts_effect {gifts : List SentGift} {pending : Scores}
    (waiting : ∀ b e d, uncounted { db with sentGifts := gifts } b e d =
      uncounted db b e d + pending b e d) :
    Effect db { db with sentGifts := gifts } nothing nothing pending where
  scores b e d := by simp [nothing]
  live b e d := by simp [nothing]
  source b _ e d := by cases b <;> simp [source, creditSource, nothing]
  uncounted := waiting

private theorem setGifts_tables (tables : Tables db) (gifts : List SentGift)
    (positive : ∀ gift ∈ gifts, 0 < gift.amount) : Tables { db with sentGifts := gifts } :=
  ⟨tables.credits, tables.earnings, tables.unique, positive, tables.scores, tables.live⟩

private theorem sentGifts_earn (db : RankingDb) (agencyUserId : Option UserId)
    (hostUserId : UserId) (day : Day) (amount : Int) :
    (db.earn agencyUserId hostUserId day amount).sentGifts = db.sentGifts := by
  cases agencyUserId <;> rfl

private theorem sentGifts_onHostPointCredit (db : RankingDb) (hostUserId : UserId)
    (amount : Int) (txType : PointTxType) (day : Day) :
    (db.onHostPointCredit hostUserId amount txType day).sentGifts = db.sentGifts := by
  have same : ∀ (s : RankingDb) counts board, (s.incrementIf counts board hostUserId day
      amount).sentGifts = s.sentGifts := by
    intro s counts board
    cases counts <;> rfl
  rw [RankingDb.onHostPointCredit, same, same]

private theorem recharge_effect (db : RankingDb) (userId : UserId) (month : Nat) (day : Day)
    (coins : Int) :
    Effect db (db.upsertMonthlyAggregate userId month day coins) nothing nothing nothing where
  scores b e d := by simp [RankingDb.upsertMonthlyAggregate, nothing]
  live b e d := by simp [RankingDb.upsertMonthlyAggregate, nothing]
  source b _ e d := by
    cases b <;> simp [source, creditSource, RankingDb.upsertMonthlyAggregate, nothing]
  uncounted b e d := by cases b <;> simp [uncounted, RankingDb.upsertMonthlyAggregate, nothing]

end Statements

/-! ### Operations -/

/-- The boards and days an operation counts for. -/
def Live.increments : Live → List (RankingBoard × Day)
  | .hostCredit _ txType _ _ day agencyUserId =>
    (if txType ∈ HOST_RANKING_TX_TYPES then [(.host, day)] else []) ++
      (if txType ∈ GIFT_RANKING_TX_TYPES then [(.gift, day)] else []) ++
      (if agencyUserId.isSome then [(.agency, day)] else [])
  | .giftCredit _ _ _ day agencyUserId => if agencyUserId.isSome then [(.agency, day)] else []
  | .giftCount _ day => [(.host, day), (.gift, day)]
  | .recharge _ _ _ day => [(.rich, day)]

/-- A credit is counted on the day of its row. -/
def Live.sameDay : Live → Bool
  | .hostCredit _ _ _ createdDay day _ => createdDay = day
  | .giftCount gift day => gift.createdDay = day
  | _ => true

/-- What an operation counts is in the tables or was waiting. -/
structure Counted (s t : RankingDb) (op : Live) (inc : Scores) : Prop where
  scores : ∀ b e d, t.scores b e d = s.scores b e d + inc b e d
  live : ∀ b e d, t.live b e d = s.live b e d + inc b e d
  balance : ∀ b, b ≠ .rich → ∀ e d, source t b e d - uncounted t b e d =
    source s b e d - uncounted s b e d + inc b e d
  days : ∀ b e d, inc b e d ≠ 0 → (b, d) ∈ op.increments
  tables : Tables t

private theorem Effect.counted {s t : RankingDb} {op : Live} {inc x p : Scores}
    (effect : Effect s t inc x p) (tables : Tables t)
    (balance : ∀ b, b ≠ .rich → ∀ e d, x b e d = inc b e d + p b e d)
    (days : ∀ b e d, inc b e d ≠ 0 → (b, d) ∈ op.increments) : Counted s t op inc where
  scores := effect.scores
  live := effect.live
  balance b notRich e d := by
    rw [effect.source b notRich, effect.uncounted, balance b notRich]
    omega
  days := days
  tables := tables

private theorem counted_nothing {db : RankingDb} (tables : Tables db) (op : Live) :
    Counted db db op nothing :=
  ⟨fun _ _ _ => (Int.add_zero _).symm, fun _ _ _ => (Int.add_zero _).symm,
    fun _ _ _ _ => (Int.add_zero _).symm, fun _ _ _ different => absurd rfl different, tables⟩

private theorem point_ne_zero {counts : Bool} {board b : RankingBoard} {entityId e : UserId}
    {day d : Day} {amount : Int} (different : point counts board entityId day amount b e d ≠ 0) :
    counts = true ∧ b = board ∧ d = day := by
  unfold point at different
  split at different
  next own => exact ⟨own.1, own.2.1, own.2.2.2⟩
  next => exact absurd rfl different

private theorem hostPoints_ne_zero {txType : PointTxType} {b : RankingBoard} {entityId e : UserId}
    {day d : Day} {amount : Int} (different : hostPoints txType entityId day amount b e d ≠ 0) :
    (txType ∈ HOST_RANKING_TX_TYPES ∧ (b, d) = (.host, day)) ∨
      (txType ∈ GIFT_RANKING_TX_TYPES ∧ (b, d) = (.gift, day)) := by
  by_cases first : point (txType ∈ HOST_RANKING_TX_TYPES) .host entityId day amount b e d = 0
  · right
    unfold hostPoints at different
    rw [first, Int.zero_add] at different
    obtain ⟨counts, rfl, rfl⟩ := point_ne_zero different
    exact ⟨of_decide_eq_true counts, rfl⟩
  · left
    obtain ⟨counts, rfl, rfl⟩ := point_ne_zero first
    exact ⟨of_decide_eq_true counts, rfl⟩

theorem live_counted {db : RankingDb} (tables : Tables db) (op : Live)
    (sameDay : op.sameDay = true) : ∃ inc, Counted db (op.apply db) op inc := by
  cases op with
  | hostCredit hostUserId txType amount createdDay day agencyUserId =>
    have onDay : createdDay = day := of_decide_eq_true sameDay
    subst onDay
    unfold Live.apply
    dsimp only
    split
    next positive =>
      have nonneg : 0 ≤ amount := Int.le_of_lt positive
      have credited := addCredit_tables tables
        (show 0 < (⟨hostUserId, txType, amount, createdDay⟩ : PointCredit).amount from positive)
      obtain ⟨earned, between⟩ := earn_effect credited nonneg agencyUserId hostUserId createdDay
      obtain ⟨counted, after⟩ :=
        onHostPointCredit_effect between nonneg hostUserId txType createdDay
      have all := ((addCredit_effect ⟨hostUserId, txType, amount, createdDay⟩).trans earned).trans
        counted
      refine ⟨_, all.counted after (fun b _ e d => ?_) fun b e d different => ?_⟩
      · simp only [nothing]
        omega
      · simp only [nothing, Int.zero_add] at different
        by_cases agency : agencyPoints agencyUserId createdDay amount b e d = 0
        · rw [agency, Int.zero_add] at different
          rcases hostPoints_ne_zero different with ⟨counts, same⟩ | ⟨counts, same⟩
          · simp [Live.increments, counts, same]
          · simp [Live.increments, counts, same]
        · obtain ⟨counts, rfl, rfl⟩ := point_ne_zero agency
          simp [Live.increments, counts]
    next => exact ⟨_, counted_nothing tables _⟩
  | giftCredit hostUserId amount createdDay day agencyUserId =>
    unfold Live.apply
    dsimp only
    split
    next positive =>
      have nonneg : 0 ≤ amount := Int.le_of_lt positive
      have credited := addCredit_tables tables
        (show 0 < (⟨hostUserId, .giftReceive, amount, createdDay⟩ : PointCredit).amount
          from positive)
      obtain ⟨earned, between⟩ := earn_effect credited nonneg agencyUserId hostUserId day
      have both := (addCredit_effect ⟨hostUserId, .giftReceive, amount, createdDay⟩).trans earned
      have gifts := sentGifts_earn (db.addCredit ⟨hostUserId, .giftReceive, amount, createdDay⟩)
        agencyUserId hostUserId day amount
      have waits := both.trans (setGifts_effect
        (uncounted_append ⟨hostUserId, amount, createdDay⟩))
      rw [gifts] at waits
      have after := setGifts_tables between (db.sentGifts ++ [⟨hostUserId, amount, createdDay⟩])
        fun gift member => by
          rcases List.mem_append.mp member with old | last
          · exact tables.gifts gift old
          · rw [List.mem_singleton.mp last]
            exact positive
      refine ⟨_, waits.counted after (fun b _ e d => ?_) fun b e d different => ?_⟩
      · simp only [nothing]
        omega
      · simp only [nothing, Int.zero_add, Int.add_zero] at different
        obtain ⟨counts, rfl, rfl⟩ := point_ne_zero different
        simp [Live.increments, counts]
    next => exact ⟨_, counted_nothing tables _⟩
  | giftCount gift day =>
    have onDay : gift.createdDay = day := of_decide_eq_true sameDay
    subst onDay
    unfold Live.apply
    dsimp only
    split
    next sent =>
      have nonneg : 0 ≤ gift.amount := Int.le_of_lt (tables.gifts gift sent)
      obtain ⟨counted, between⟩ :=
        onHostPointCredit_effect tables nonneg gift.userId .giftReceive gift.createdDay
      have gifts := sentGifts_onHostPointCredit db gift.userId gift.amount .giftReceive
        gift.createdDay
      have left := uncounted_erase (gifts ▸ sent : gift ∈ (db.onHostPointCredit gift.userId
        gift.amount .giftReceive gift.createdDay).sentGifts)
      simp only [Int.sub_eq_add_neg] at left
      have both := counted.trans (setGifts_effect left)
      have after := setGifts_tables between (db.sentGifts.erase gift) fun other member =>
        tables.gifts other (List.mem_of_mem_erase member)
      refine ⟨_, both.counted after (fun b _ e d => ?_) fun b e d different => ?_⟩
      · simp only [nothing]
        omega
      · simp only [nothing, Int.add_zero] at different
        rcases hostPoints_ne_zero different with ⟨-, same⟩ | ⟨-, same⟩
        · simp [Live.increments, same]
        · simp [Live.increments, same]
    next => exact ⟨_, counted_nothing tables _⟩
  | recharge userId coins month day =>
    unfold Live.apply
    dsimp only
    split
    next positive =>
      have nonneg : 0 ≤ coins := Int.le_of_lt positive
      have between : Tables (db.upsertMonthlyAggregate userId month day coins) :=
        ⟨tables.credits, tables.earnings, tables.unique, tables.gifts, tables.scores, tables.live⟩
      have both := (recharge_effect db userId month day coins).trans
        (incrementLive_effect between nonneg .rich userId day)
      refine ⟨_, both.counted (incrementLive_tables between nonneg .rich userId day)
        (fun b notRich e d => ?_) fun b e d different => ?_⟩
      · simp [nothing, point, notRich]
      · simp only [nothing, Int.zero_add] at different
        obtain ⟨-, rfl, rfl⟩ := point_ne_zero different
        simp [Live.increments]
    next => exact ⟨_, counted_nothing tables _⟩

end OlNode.Ranking
