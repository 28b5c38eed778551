import OlNode.Ranking.Model
import OlNode.Standings
import Mathlib.Data.List.Sort

/-!
# The ranking board

A board is read by pages of the grouped scores. The viewer's own rank is counted by a query of its
own, and the distance to the next rank re-reads the score one place above. All of them follow one
strict order: the higher score first, and the lower id among equal scores.
-/
namespace OlNode.Ranking.Boards

open Totals Standings

structure RankingDailyScore where
  board : RankingBoard
  entityId : UserId
  day : Day
  score : Int
  country : Option String

structure RankingScoreRow where
  entityId : UserId
  totalScore : Int

structure Params where
  board : RankingBoard
  startDay : Day
  endDayExclusive : Day
  country : Option String

section Queries

-- `normalizeCountry`, and the operator ILIKE
variable (normalizeCountry : String → String) (ilike : String → String → Bool)

def normalizeCountryOptional (value : Option String) : Option String :=
  value.bind fun value =>
    if 0 < (normalizeCountry value).length then some (normalizeCountry value) else none

/-- The WHERE clause; a row without a country matches no pattern. -/
def selected (params : Params) (row : RankingDailyScore) : Bool :=
  row.board = params.board && params.startDay ≤ row.day && row.day < params.endDayExclusive &&
    match normalizeCountryOptional normalizeCountry params.country with
    | none => true
    | some country => row.country.any (ilike · country)

variable (rows : List RankingDailyScore) (params : Params)

/-- `SUM(score) ... GROUP BY entity_id`. -/
def totals : List RankingScoreRow :=
  (groups (·.entityId) (rows.filter (selected normalizeCountry ilike params))).map fun group =>
    ⟨group.1, (group.2.map (·.score)).sum⟩

/-- `ORDER BY SUM(score) DESC, entity_id ASC`. -/
def ordered (a b : RankingScoreRow) : Prop :=
  b.totalScore < a.totalScore ∨ a.totalScore = b.totalScore ∧ a.entityId ≤ b.entityId

instance : DecidableRel ordered := fun _ _ => inferInstanceAs (Decidable (_ ∨ _))

def sumScoresInRange (limit offset : Nat) : List RankingScoreRow :=
  ((((totals normalizeCountry ilike rows params).filter (0 < ·.totalScore)).insertionSort
    ordered).drop offset).take limit

def scoreForEntity (entityId : UserId) : Int :=
  ((rows.filter fun row => selected normalizeCountry ilike params row &&
    row.entityId = entityId).map (·.score)).sum

/-- The HAVING clause of `rankOfEntity`. -/
def higher (myScore : Int) (entityId : UserId) (row : RankingScoreRow) : Bool :=
  myScore < row.totalScore || (row.totalScore = myScore && row.entityId < entityId)

def rankOfEntity (entityId : UserId) (myScore : Int) : Option Nat :=
  if myScore ≤ 0 then none
  else some (((totals normalizeCountry ilike rows params).filter
    (higher myScore entityId)).length + 1)

def scoreAtRank (rank : Nat) : Option Int :=
  if rank < 1 then none
  else (sumScoresInRange normalizeCountry ilike rows params 1 (rank - 1)).head?.map (·.totalScore)

/-! ### The board -/

def gap (a b : Int) : Int := if 0 < a - b then a - b else 0

structure BoardItem where
  rank : Nat
  score : Int
  entityId : UserId

structure Me where
  entityId : UserId
  rank : Option Nat
  score : Int
  distanceToNextRank : Int
  distanceToRank1 : Int
  distanceToRank2 : Int

/-- The page of a board that is not in the cache; a cursor holds the number of rows to skip. -/
def boardPage (limit skip : Nat) : OffsetPage BoardItem :=
  let found := sumScoresInRange normalizeCountry ilike rows params (limit + 1) skip
  let hasMore := limit < found.length
  let page := if hasMore then found.take limit else found
  { items := page.mapIdx fun i row => ⟨skip + i + 1, row.totalScore, row.entityId⟩
    next := if hasMore then some (skip + limit) else none }

def boardMe (viewerUserId : UserId) : Me :=
  let myScore := scoreForEntity normalizeCountry ilike rows params viewerUserId
  let myRank := rankOfEntity normalizeCountry ilike rows params viewerUserId myScore
  let score1 := scoreAtRank normalizeCountry ilike rows params 1
  let score2 := scoreAtRank normalizeCountry ilike rows params 2
  let scoreAbove := myRank.bind fun rank =>
    if 1 < rank then scoreAtRank normalizeCountry ilike rows params (rank - 1) else none
  { entityId := viewerUserId
    rank := myRank
    score := myScore
    distanceToNextRank :=
      if myRank = some 1 then 0
      else match scoreAbove with
        | some above => gap above myScore
        | none => (score1.map (gap · myScore)).getD 0
    distanceToRank1 := (score1.map (gap · myScore)).getD 0
    distanceToRank2 := (score2.map (gap · myScore)).getD 0 }

/-! ### The standings -/

def rowOf (entityId : UserId) : RankingScoreRow :=
  ⟨entityId, scoreForEntity normalizeCountry ilike rows params entityId⟩

def standings : List RankingScoreRow :=
  ((totals normalizeCountry ilike rows params).filter (0 < ·.totalScore)).insertionSort ordered

def before (a b : RankingScoreRow) : Prop :=
  b.totalScore < a.totalScore ∨ a.totalScore = b.totalScore ∧ a.entityId < b.entityId

instance : DecidableRel before := fun _ _ => inferInstanceAs (Decidable (_ ∨ _))

end Queries

theorem before_asymm (a b : RankingScoreRow) (ahead : before a b) : ¬ before b a := by
  unfold before at *
  simp only [UserId] at *
  omega

theorem before_of_ordered {a b : RankingScoreRow} (le : ordered a b)
    (different : a.entityId ≠ b.entityId) : before a b := by
  unfold ordered at le
  unfold before
  simp only [UserId] at *
  omega

instance : Std.Total ordered where
  total a b := by
    unfold ordered
    simp only [UserId]
    omega

instance : IsTrans RankingScoreRow ordered where
  trans a b c first second := by
    unfold ordered at *
    simp only [UserId] at *
    omega

section Standings

variable {normalizeCountry : String → String} {ilike : String → String → Bool}
  {rows : List RankingDailyScore} {params : Params}

/-- The groups are the rows of the entities that occur. -/
theorem totals_eq : totals normalizeCountry ilike rows params =
    ((rows.filter (selected normalizeCountry ilike params)).map (·.entityId)).dedup.map
      (rowOf normalizeCountry ilike rows params) := by
  unfold totals groups
  rw [List.map_map]
  apply List.map_congr_left
  intro entityId _
  simp only [Function.comp_apply, rowOf, scoreForEntity, List.filter_filter, Bool.and_comm]

theorem standings_perm : (standings normalizeCountry ilike rows params).Perm
    ((totals normalizeCountry ilike rows params).filter (0 < ·.totalScore)) :=
  List.perm_insertionSort _ _

theorem mem_standings {row : RankingScoreRow} :
    row ∈ standings normalizeCountry ilike rows params ↔
      row = rowOf normalizeCountry ilike rows params row.entityId ∧ 0 < row.totalScore := by
  rw [standings_perm.mem_iff, totals_eq, List.mem_filter, List.mem_map]
  constructor
  · rintro ⟨⟨entityId, -, rfl⟩, positive⟩
    exact ⟨rfl, of_decide_eq_true positive⟩
  · rintro ⟨own, positive⟩
    refine ⟨⟨row.entityId, ?_, own.symm⟩, decide_eq_true positive⟩
    -- A sum over no rows is not positive.
    by_contra absent
    have none : (rows.filter fun other => selected normalizeCountry ilike params other &&
        other.entityId = row.entityId) = [] := by
      rw [List.filter_eq_nil_iff]
      intro other member both
      simp only [Bool.and_eq_true, decide_eq_true_eq] at both
      apply absent
      rw [List.mem_dedup, List.mem_map]
      exact ⟨other, List.mem_filter.mpr ⟨member, both.1⟩, both.2⟩
    rw [own] at positive
    simp [rowOf, scoreForEntity, none] at positive

theorem standings_nodup :
    ((standings normalizeCountry ilike rows params).map (·.entityId)).Nodup := by
  have ids : ((totals normalizeCountry ilike rows params).map (·.entityId)).Nodup := by
    rw [totals_eq, List.map_map]
    have same : ((·.entityId) ∘ rowOf normalizeCountry ilike rows params) = id := rfl
    rw [same, List.map_id]
    exact List.nodup_dedup _
  rw [(standings_perm.map _).nodup_iff]
  exact ids.sublist (List.filter_sublist.map _)

theorem standings_sorted : (standings normalizeCountry ilike rows params).Pairwise before := by
  have sorted : (standings normalizeCountry ilike rows params).Pairwise ordered :=
    List.pairwise_insertionSort _ _
  have apart := List.pairwise_map.mp
    (@standings_nodup normalizeCountry ilike rows params)
  exact (sorted.and apart).imp fun both => before_of_ordered both.1 both.2

/-- The own rank counts the rows that come before. -/
theorem rankOfEntity_eq {entityId : UserId} {myScore : Int} (positive : 0 < myScore) :
    rankOfEntity normalizeCountry ilike rows params entityId myScore =
      some ((standings normalizeCountry ilike rows params).countP
        (fun row => before row ⟨entityId, myScore⟩) + 1) := by
  have counted : (standings normalizeCountry ilike rows params).countP
      (fun row => before row ⟨entityId, myScore⟩) =
        ((totals normalizeCountry ilike rows params).filter (higher myScore entityId)).length := by
    rw [standings_perm.countP_eq, List.countP_filter, List.countP_eq_length_filter]
    congr 1
    apply List.filter_congr
    intro row _
    rw [Bool.eq_iff_iff]
    simp only [higher, Bool.and_eq_true, Bool.or_eq_true, decide_eq_true_eq]
    simp only [before, UserId]
    omega
  rw [rankOfEntity, if_neg (by omega), counted]

/-- The place of a row is the rank of its entity. -/
theorem standings_getElem?_iff {i : Nat} {row : RankingScoreRow} :
    (standings normalizeCountry ilike rows params)[i]? = some row ↔
      row = rowOf normalizeCountry ilike rows params row.entityId ∧
        rankOfEntity normalizeCountry ilike rows params row.entityId row.totalScore =
          some (i + 1) := by
  rw [getElem?_iff_countP standings_sorted before_asymm, mem_standings, and_assoc]
  apply and_congr_right
  intro _
  by_cases positive : 0 < row.totalScore
  · rw [rankOfEntity_eq positive]
    simp [positive]
  · simp [rankOfEntity, positive]

/-! ### Pages and distances -/

theorem sumScoresInRange_getElem? (limit offset i : Nat) :
    (sumScoresInRange normalizeCountry ilike rows params limit offset)[i]? =
      if i < limit then (standings normalizeCountry ilike rows params)[offset + i]? else none := by
  unfold sumScoresInRange
  rw [List.getElem?_take, List.getElem?_drop]
  rfl

theorem scoreAtRank_eq (place : Nat) :
    scoreAtRank normalizeCountry ilike rows params (place + 1) =
      (standings normalizeCountry ilike rows params)[place]?.map (·.totalScore) := by
  rw [scoreAtRank, if_neg (by omega), List.head?_eq_getElem?, sumScoresInRange_getElem?]
  simp

def itemAt (place : Nat) (row : RankingScoreRow) : BoardItem :=
  ⟨place + 1, row.totalScore, row.entityId⟩

/-- The items of a board, from the first rank on. -/
def allItems (normalizeCountry : String → String) (ilike : String → String → Bool)
    (rows : List RankingDailyScore) (params : Params) : List BoardItem :=
  (standings normalizeCountry ilike rows params).mapIdx itemAt

theorem boardPage_readsByOffset (limit : Nat) :
    ReadsByOffset (allItems normalizeCountry ilike rows params) limit
      (boardPage normalizeCountry ilike rows params limit) := by
  have length : ∀ skip, (sumScoresInRange normalizeCountry ilike rows params (limit + 1)
      skip).length = min (limit + 1)
        ((standings normalizeCountry ilike rows params).length - skip) := by
    intro skip
    simp [sumScoresInRange, standings]
  constructor
  · intro skip
    have page : (if limit < (sumScoresInRange normalizeCountry ilike rows params (limit + 1)
        skip).length then (sumScoresInRange normalizeCountry ilike rows params (limit + 1)
          skip).take limit else sumScoresInRange normalizeCountry ilike rows params (limit + 1)
            skip) = (sumScoresInRange normalizeCountry ilike rows params (limit + 1)
              skip).take limit := by
      split
      · rfl
      · rw [List.take_of_length_le (by omega)]
    apply List.ext_getElem?
    intro i
    simp only [boardPage, page, List.getElem?_mapIdx, List.getElem?_take, List.getElem?_drop,
      sumScoresInRange_getElem?, allItems]
    by_cases within : i < limit
    · have read : i < limit + 1 := by omega
      simp only [within, read, if_true]
      rfl
    · simp [within]
  · intro skip
    simp only [boardPage, length, List.length_drop, allItems, List.length_mapIdx]
    congr 1
    rw [eq_iff_iff]
    omega

theorem mem_allItems {item : BoardItem} : item ∈ allItems normalizeCountry ilike rows params ↔
    ∃ place row, (standings normalizeCountry ilike rows params)[place]? = some row ∧
      item = itemAt place row := by
  rw [allItems, List.mem_mapIdx]
  constructor
  · rintro ⟨place, short, rfl⟩
    exact ⟨place, _, List.getElem?_eq_getElem short, rfl⟩
  · rintro ⟨place, row, found, rfl⟩
    obtain ⟨short, same⟩ := List.getElem?_eq_some_iff.mp found
    exact ⟨place, short, by rw [same]⟩

theorem allItems_rank : (allItems normalizeCountry ilike rows params).map (·.rank) =
    List.range' 1 (allItems normalizeCountry ilike rows params).length := by
  apply List.ext_getElem
  · simp
  · intro place short _
    simp only [allItems, List.getElem_map, List.getElem_mapIdx, List.getElem_range', itemAt]
    omega

theorem allItems_entityId : (allItems normalizeCountry ilike rows params).map (·.entityId) =
    (standings normalizeCountry ilike rows params).map (·.entityId) := by
  apply List.ext_getElem
  · simp [allItems]
  · intro place _ _
    simp only [allItems, List.getElem_map, List.getElem_mapIdx, itemAt]

/-- The place of an entity on the board is its rank. -/
theorem item_rank_iff {entityId : UserId} {rank : Nat} :
    (∃ item ∈ allItems normalizeCountry ilike rows params,
      item.entityId = entityId ∧ item.rank = rank) ↔
        rankOfEntity normalizeCountry ilike rows params entityId
          (scoreForEntity normalizeCountry ilike rows params entityId) = some rank := by
  constructor
  · rintro ⟨item, member, rfl, rfl⟩
    obtain ⟨place, row, found, rfl⟩ := mem_allItems.mp member
    obtain ⟨own, ranked⟩ := standings_getElem?_iff.mp found
    rw [own] at ranked
    exact ranked
  · intro ranked
    obtain ⟨place, rfl⟩ : ∃ place, rank = place + 1 := by
      unfold rankOfEntity at ranked
      split at ranked
      · simp at ranked
      · exact ⟨_, (Option.some.inj ranked).symm⟩
    have found := (@standings_getElem?_iff normalizeCountry ilike rows params place
      (rowOf normalizeCountry ilike rows params entityId)).mpr ⟨rfl, ranked⟩
    exact ⟨_, mem_allItems.mpr ⟨place, _, found, rfl⟩, rfl, rfl⟩

theorem gap_eq {a b : Int} (le : b ≤ a) : gap a b = a - b := by
  unfold gap
  split <;> omega

/-- The distance to the place above is not cut off. -/
theorem distanceToNextRank_eq {viewerUserId : UserId} {place : Nat}
    (ranked : (boardMe normalizeCountry ilike rows params viewerUserId).rank = some (place + 2)) :
    ∃ item ∈ allItems normalizeCountry ilike rows params, item.rank = place + 1 ∧
      (boardMe normalizeCountry ilike rows params viewerUserId).distanceToNextRank =
        item.score - (boardMe normalizeCountry ilike rows params viewerUserId).score := by
  have rank : rankOfEntity normalizeCountry ilike rows params viewerUserId
      (scoreForEntity normalizeCountry ilike rows params viewerUserId) = some (place + 1 + 1) :=
    ranked
  have own := (@standings_getElem?_iff normalizeCountry ilike rows params (place + 1)
    (rowOf normalizeCountry ilike rows params viewerUserId)).mpr ⟨rfl, rank⟩
  obtain ⟨short, same⟩ := List.getElem?_eq_some_iff.mp own
  have above := List.getElem?_eq_getElem (show place <
    (standings normalizeCountry ilike rows params).length by omega)
  have ahead := List.pairwise_iff_getElem.mp (@standings_sorted normalizeCountry ilike rows params)
    place (place + 1) (by omega) short (by omega)
  rw [same] at ahead
  refine ⟨_, mem_allItems.mpr ⟨place, _, above, rfl⟩, rfl, ?_⟩
  have scoreAbove := @scoreAtRank_eq normalizeCountry ilike rows params place
  rw [above] at scoreAbove
  simp only [boardMe, rank, Option.bind_some, Nat.add_sub_cancel, scoreAbove, Option.map_some]
  have notFirst : ¬ some (place + 1 + 1) = some 1 := by simp
  have more : 1 < place + 1 + 1 := by omega
  have le : scoreForEntity normalizeCountry ilike rows params viewerUserId ≤
      (standings normalizeCountry ilike rows params)[place].totalScore := by
    unfold before rowOf at ahead
    dsimp only at ahead
    omega
  rw [if_neg notFirst, if_pos more]
  exact gap_eq le

/-- The board read by pages of any size gives every entity the place that it is told as its rank;
entities without a positive score have neither; and the distance to the next rank is that to the
score one place above. -/
theorem board_rank (normalizeCountry : String → String) (ilike : String → String → Bool)
    (rows : List RankingDailyScore) (params : Params) {limit : Nat} (positive : 1 ≤ limit) :
    ∃ items : List BoardItem,
      (∃ fuel, followOffsets (boardPage normalizeCountry ilike rows params limit) fuel 0 =
        some items) ∧
      items.map (·.rank) = List.range' 1 items.length ∧ (items.map (·.entityId)).Nodup ∧
      (∀ entityId rank, (∃ item ∈ items, item.entityId = entityId ∧ item.rank = rank) ↔
        rankOfEntity normalizeCountry ilike rows params entityId
          (scoreForEntity normalizeCountry ilike rows params entityId) = some rank) ∧
      (∀ size offset i row, (sumScoresInRange normalizeCountry ilike rows params size offset)[i]? =
        some row → rankOfEntity normalizeCountry ilike rows params row.entityId
          (scoreForEntity normalizeCountry ilike rows params row.entityId) = some (offset + i + 1)) ∧
      (∀ entityId, scoreForEntity normalizeCountry ilike rows params entityId ≤ 0 →
        rankOfEntity normalizeCountry ilike rows params entityId
            (scoreForEntity normalizeCountry ilike rows params entityId) = none ∧
          entityId ∉ items.map (·.entityId)) ∧
      ∀ viewerUserId, let me := boardMe normalizeCountry ilike rows params viewerUserId
        (me.rank = some 1 → me.distanceToNextRank = 0) ∧
          ∀ rank, me.rank = some (rank + 2) → ∃ item ∈ items,
            item.rank = rank + 1 ∧ me.distanceToNextRank = item.score - me.score := by
  have reads := @boardPage_readsByOffset normalizeCountry ilike rows params limit
  refine ⟨allItems normalizeCountry ilike rows params, reads.followOffsets positive 0, ?_, ?_, ?_,
    ?_, ?_, ?_⟩
  · exact allItems_rank
  · rw [allItems_entityId]
    exact standings_nodup
  · exact fun entityId rank => item_rank_iff
  · intro size offset i row found
    rw [sumScoresInRange_getElem?] at found
    split at found
    · obtain ⟨own, ranked⟩ := standings_getElem?_iff.mp found
      rw [own] at ranked
      exact ranked
    · cases found
  · intro entityId low
    have none : rankOfEntity normalizeCountry ilike rows params entityId
        (scoreForEntity normalizeCountry ilike rows params entityId) = none := if_pos low
    refine ⟨none, fun member => ?_⟩
    obtain ⟨item, found, same⟩ := List.mem_map.mp member
    have ranked := item_rank_iff.mp ⟨item, found, same, rfl⟩
    rw [none] at ranked
    cases ranked
  · refine fun viewerUserId => ⟨fun first => ?_, fun rank ranked => distanceToNextRank_eq ranked⟩
    have ranked : rankOfEntity normalizeCountry ilike rows params viewerUserId
        (scoreForEntity normalizeCountry ilike rows params viewerUserId) = some 1 := first
    simp [boardMe, ranked]

end Standings

/-- Two entities with equal totals, and one without a score. -/
def tiedScores : List RankingDailyScore :=
  [⟨.gift, 8, 1, 5, some "India"⟩, ⟨.gift, 7, 1, 2, some "India"⟩, ⟨.gift, 7, 2, 3, some "India"⟩,
    ⟨.gift, 9, 2, 0, none⟩]

def firstDays : Params := { board := .gift, startDay := 1, endDayExclusive := 3, country := none }

theorem board_rank_tied : ∃ items : List BoardItem,
    (∃ fuel, followOffsets (boardPage id (fun a b => a = b) tiedScores firstDays 1) fuel 0 =
      some items) ∧
      (∃ item ∈ items, item.entityId = 8 ∧ item.rank = 2) ∧ 9 ∉ items.map (·.entityId) := by
  obtain ⟨items, read, -, -, ranks, -, without, -⟩ :=
    board_rank id (fun a b => a = b) tiedScores firstDays (show 1 ≤ 1 by omega)
  exact ⟨items, read, (ranks 8 2).mpr (by decide), (without 9 (by decide)).2⟩

end OlNode.Ranking.Boards
