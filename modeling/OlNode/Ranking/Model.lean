import OlNode.Schema
import OlNode.Totals

/-!
# Ranking boards

A daily score is kept for each board and entity. The live services add to it what they credit; a
rebuild wipes the scores of a window of days, board by board, queries the tables and adds what it
finds. Every statement of the rebuild commits on its own, and so does every transaction of a live
service; the scores are changed by relative updates, so a run is the order in which these happen.
The jobs of the queue run one at a time.

Countries, and who is no longer a user, are left out.
-/
namespace OlNode.Ranking

open Totals

inductive RankingBoard where
  | host | gift | agency | rich
  deriving DecidableEq

/-- Days since the epoch, in UTC. -/
abbrev Day := Nat

def HOST_RANKING_TX_TYPES : List PointTxType :=
  [.giftReceive, .livestreamGift, .videoCall, .subscription, .guardianPurchase]

def GIFT_RANKING_TX_TYPES : List PointTxType := [.giftReceive, .livestreamGift]

/-- A CREDIT row of the point ledger. -/
structure PointCredit where
  userId : UserId
  txType : PointTxType
  amount : Int
  createdDay : Day

/-- A row of `agency_daily_earnings`. -/
structure DailyEarning where
  agencyUserId : UserId
  hostUserId : UserId
  day : Day
  hostEarningsPoints : Int

def DailyEarning.key (row : DailyEarning) : UserId × UserId × Day :=
  (row.agencyUserId, row.hostUserId, row.day)

/-- A row of `monthly_recharge_aggregates`. -/
structure MonthlyRecharge where
  userId : UserId
  month : Nat
  totalRechargeCoins : Int
  lastRechargeDay : Day

/-- A gift whose row is committed and whose increment is still to be made. -/
structure SentGift where
  userId : UserId
  amount : Int
  createdDay : Day
  deriving DecidableEq

abbrev Scores := RankingBoard → UserId → Day → Int

/-- `live` are the scores as the live increments alone would have left them. -/
structure RankingDb where
  credits : List PointCredit := []
  earnings : List DailyEarning := []
  recharges : List MonthlyRecharge := []
  scores : Scores := fun _ _ _ => 0
  live : Scores := fun _ _ _ => 0
  sentGifts : List SentGift := []

/-- `GREATEST(0, score + delta)` for one day. -/
def Scores.increment (scores : Scores) (board : RankingBoard) (entityId : UserId) (day : Day)
    (delta : Int) : Scores :=
  fun b e d => if b = board ∧ e = entityId ∧ d = day then max 0 (scores b e d + delta)
    else scores b e d

/-- `GREATEST(0, host_earnings_points + delta)` for the row of the agency, host and day. -/
def upsertEarning (rows : List DailyEarning) (agencyUserId hostUserId : UserId) (day : Day)
    (delta : Int) : List DailyEarning :=
  if rows.any fun row => row.key = (agencyUserId, hostUserId, day)
  then rows.map fun row => if row.key = (agencyUserId, hostUserId, day)
    then { row with hostEarningsPoints := max 0 (row.hostEarningsPoints + delta) } else row
  else rows ++ [⟨agencyUserId, hostUserId, day, max 0 delta⟩]

def upsertRecharge (rows : List MonthlyRecharge) (userId : UserId) (month : Nat) (day : Day)
    (deltaCoins : Int) : List MonthlyRecharge :=
  if rows.any fun row => row.userId = userId && row.month = month
  then rows.map fun row => if row.userId = userId && row.month = month
    then { row with totalRechargeCoins := row.totalRechargeCoins + deltaCoins
                    lastRechargeDay := day } else row
  else rows ++ [⟨userId, month, deltaCoins, day⟩]

namespace RankingDb

variable (db : RankingDb)

/-! ### Live increments -/

def incrementLive (board : RankingBoard) (entityId : UserId) (day : Day) (delta : Int) :
    RankingDb :=
  { db with scores := db.scores.increment board entityId day delta
            live := db.live.increment board entityId day delta }

def incrementIf (counts : Bool) (board : RankingBoard) (entityId : UserId) (day : Day)
    (delta : Int) : RankingDb :=
  if counts then db.incrementLive board entityId day delta else db

def onHostPointCredit (hostUserId : UserId) (amount : Int) (txType : PointTxType) (day : Day) :
    RankingDb :=
  (db.incrementIf (txType ∈ HOST_RANKING_TX_TYPES) .host hostUserId day amount).incrementIf
    (txType ∈ GIFT_RANKING_TX_TYPES) .gift hostUserId day amount

def addCredit (credit : PointCredit) : RankingDb := { db with credits := db.credits ++ [credit] }

def upsertDailyEarning (agencyUserId hostUserId : UserId) (day : Day) (delta : Int) : RankingDb :=
  { db with earnings := upsertEarning db.earnings agencyUserId hostUserId day delta }

/-- The earnings of the agency the host's commission goes to, if there is one. -/
def earn (agencyUserId : Option UserId) (hostUserId : UserId) (day : Day) (amount : Int) :
    RankingDb :=
  match agencyUserId with
  | none => db
  | some agencyUserId =>
    (db.upsertDailyEarning agencyUserId hostUserId day amount).incrementLive .agency agencyUserId
      day amount

def upsertMonthlyAggregate (userId : UserId) (month : Nat) (day : Day) (deltaCoins : Int) :
    RankingDb :=
  { db with recharges := upsertRecharge db.recharges userId month day deltaCoins }

end RankingDb

/-- What a live service commits. A gift is credited in its transaction and counted after it. -/
inductive Live where
  | hostCredit (hostUserId : UserId) (txType : PointTxType) (amount : Int) (createdDay day : Day)
      (agencyUserId : Option UserId)
  | giftCredit (hostUserId : UserId) (amount : Int) (createdDay day : Day)
      (agencyUserId : Option UserId)
  | giftCount (gift : SentGift) (day : Day)
  | recharge (userId : UserId) (coins : Int) (month : Nat) (day : Day)

def Live.apply (db : RankingDb) : Live → RankingDb
  | .hostCredit hostUserId txType amount createdDay day agencyUserId =>
    if 0 < amount then ((db.addCredit ⟨hostUserId, txType, amount, createdDay⟩).earn agencyUserId
      hostUserId day amount).onHostPointCredit hostUserId amount txType day
    else db
  | .giftCredit hostUserId amount createdDay day agencyUserId =>
    if 0 < amount then
      { (db.addCredit ⟨hostUserId, .giftReceive, amount, createdDay⟩).earn agencyUserId hostUserId
          day amount with sentGifts := db.sentGifts ++ [⟨hostUserId, amount, createdDay⟩] }
    else db
  | .giftCount gift day =>
    if gift ∈ db.sentGifts then
      { db.onHostPointCredit gift.userId gift.amount .giftReceive day with
        sentGifts := db.sentGifts.erase gift }
    else db
  | .recharge userId coins month day =>
    if 0 < coins then (db.upsertMonthlyAggregate userId month day coins).incrementLive .rich userId
      day coins
    else db

/-! ### The rebuild -/

structure Window where
  first : Day
  toExclusive : Day

def Window.contains (window : Window) (day : Day) : Bool :=
  window.first ≤ day && day < window.toExclusive

structure ScoreRow where
  entityId : UserId
  day : Day
  score : Int
  deriving DecidableEq

/-- `SUM(value) ... GROUP BY entity, day`. -/
def grouped {ρ : Type} (key : ρ → UserId × Day) (value : ρ → Int) (rows : List ρ) :
    List ScoreRow :=
  (groups key rows).map fun group => ⟨group.1.1, group.1.2, (group.2.map value).sum⟩

def creditRows (db : RankingDb) (txTypes : List PointTxType) (window : Window) : List ScoreRow :=
  grouped (fun credit => (credit.userId, credit.createdDay)) (·.amount)
    (db.credits.filter fun credit => credit.txType ∈ txTypes && window.contains credit.createdDay)

/-- The query of a board. -/
def rowsOf (db : RankingDb) (window : Window) : RankingBoard → List ScoreRow
  | .host => creditRows db HOST_RANKING_TX_TYPES window
  | .gift => creditRows db GIFT_RANKING_TX_TYPES window
  | .agency => grouped (fun row => (row.agencyUserId, row.day)) (·.hostEarningsPoints)
      (db.earnings.filter fun row => window.contains row.day)
  | .rich => (db.recharges.filter fun row =>
      window.contains row.lastRechargeDay && 0 < row.totalRechargeCoins).map fun row =>
        ⟨row.userId, row.lastRechargeDay, row.totalRechargeCoins⟩

inductive Statement where
  | wipeBoardDays (board : RankingBoard)
  | query (board : RankingBoard)
  | incrementScore (board : RankingBoard) (row : ScoreRow)
  deriving DecidableEq

/-- The database, and what the rebuild of a window has still to do. -/
structure Server where
  db : RankingDb
  window : Window := ⟨0, 0⟩
  todo : List Statement := []

def rebuildBoards (boards : List RankingBoard) : List Statement :=
  boards.flatMap fun board => [.wipeBoardDays board, .query board]

/-- `rebuildRankingWindow`, before its first statement. -/
def rebuildRankingWindow : List Statement := rebuildBoards [.host, .gift, .agency, .rich]

def wipe (scores : Scores) (board : RankingBoard) (window : Window) : Scores :=
  fun b e d => if b = board ∧ window.contains d = true then 0 else scores b e d

/-- Rows without a positive score are skipped. -/
def additions (board : RankingBoard) (rows : List ScoreRow) : List Statement :=
  (rows.filter fun row => 0 < row.score).map (.incrementScore board)

inductive Event where
  | live (op : Live)
  /-- A job of the queue starts. -/
  | rebuild (window : Window)
  /-- The next statement of the job. -/
  | statement

namespace Server

def statement (server : Server) : Server :=
  match server.todo with
  | [] => server
  | .wipeBoardDays board :: rest =>
    { server with db := { server.db with scores := wipe server.db.scores board server.window }
                  todo := rest }
  | .query board :: rest =>
    { server with todo := additions board (rowsOf server.db server.window board) ++ rest }
  | .incrementScore board row :: rest =>
    { server with
      db := { server.db with
        scores := server.db.scores.increment board row.entityId row.day row.score }
      todo := rest }

def apply (server : Server) : Event → Server
  | .live op => { server with db := op.apply server.db }
  | .rebuild window =>
    if server.todo = [] then { server with window, todo := rebuildRankingWindow } else server
  | .statement => server.statement

def run (server : Server) (events : List Event) : Server := events.foldl apply server

end Server

/-- `scoreForEntity`: the score over a period of days. -/
def scoreForEntity (scores : Scores) (board : RankingBoard) (entityId : UserId)
    (startDay endDayExclusive : Day) : Int :=
  ((List.range' startDay (endDayExclusive - startDay)).map fun day =>
    scores board entityId day).sum

end OlNode.Ranking
