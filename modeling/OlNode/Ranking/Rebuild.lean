import OlNode.Ranking.Tables

/-!
# A rebuild leaves the scores of the live increments

A board that is wiped and rebuilt from the tables gets its scores back, if nothing is counted
between its wipe and its query and no gift of the window waits to be counted at the query. What is
counted later adds to the score like before. The board of recharges is rebuilt from monthly totals
instead: a month appears whole on the day of its last recharge.

The invariant says, of each moment of a rebuild, what the score of a board lacks: the days of the
window after its wipe, and the rows still to be added after its query.
-/
namespace OlNode.Ranking

open Totals

def Server.empty : Server := { db := {} }

/-! ### The condition -/

/-- Nothing is counted for a board and a day of the window between the wipe and the query, and no
gift of the window waits to be counted at the query. -/
def Orderly (server : Server) : Event → Bool
  | .live op => op.sameDay && op.increments.all fun increment =>
      server.todo.head? ≠ some (.query increment.1) || !server.window.contains increment.2
  | .statement =>
    (server.todo.head? ≠ some (.query .host) && server.todo.head? ≠ some (.query .gift)) ||
      server.db.sentGifts.all fun gift => !server.window.contains gift.createdDay
  | .rebuild _ => true

/-- Every event of the run is orderly where it happens. -/
def OrderlyRun : Server → List Event → Bool
  | _, [] => true
  | server, event :: events => Orderly server event && OrderlyRun (server.apply event) events

/-! ### Rows -/

private theorem owed_cons (row : ScoreRow) (rows : List ScoreRow) (board : RankingBoard)
    (entityId : UserId) (day : Day) :
    owed (row :: rows) entityId day =
      point true board row.entityId row.day row.score board entityId day +
        owed rows entityId day := by
  have same : (row.entityId, row.day) = (entityId, day) ↔
      entityId = row.entityId ∧ day = row.day := by
    rw [Prod.mk.injEq, eq_comm, @eq_comm _ row.day]
  unfold owed point
  rw [sumWhere_cons]
  simp only [same, true_and, decide_eq_true_eq]

private theorem owed_filter {rows : List ScoreRow} (nonneg : ∀ row ∈ rows, 0 ≤ row.score)
    (entityId : UserId) (day : Day) :
    owed (rows.filter fun row => 0 < row.score) entityId day = owed rows entityId day := by
  induction rows with
  | nil => rfl
  | cons row rows ih =>
    have rest := ih fun other member => nonneg other (List.mem_cons_of_mem _ member)
    have own := nonneg row List.mem_cons_self
    rw [List.filter_cons, owed_cons row rows .host]
    split
    next => rw [owed_cons row _ .host, rest]
    next zero =>
      have none : row.score = 0 := by
        rw [decide_eq_true_eq] at zero
        omega
      simp [rest, none, point]

private theorem grouped_nonneg {ρ : Type} (key : ρ → UserId × Day) {value : ρ → Int}
    {rows : List ρ} (nonneg : ∀ row ∈ rows, 0 ≤ value row) :
    ∀ row ∈ grouped key value rows, 0 ≤ row.score := by
  intro row member
  obtain ⟨group, inGroups, rfl⟩ := List.mem_map.mp member
  obtain ⟨k, -, rfl⟩ := List.mem_map.mp inGroups
  exact sumWhere_nonneg nonneg

private theorem rowsOf_nonneg {db : RankingDb} (tables : Tables db) (window : Window)
    (board : RankingBoard) : ∀ row ∈ rowsOf db window board, 0 ≤ row.score := by
  cases board with
  | host => exact grouped_nonneg _ fun credit member =>
      Int.le_of_lt (tables.credits credit (List.mem_filter.mp member).1)
  | gift => exact grouped_nonneg _ fun credit member =>
      Int.le_of_lt (tables.credits credit (List.mem_filter.mp member).1)
  | agency => exact grouped_nonneg _ fun row member =>
      tables.earnings row (List.mem_filter.mp member).1
  | rich =>
    intro row member
    obtain ⟨recharge, kept, rfl⟩ := List.mem_map.mp member
    have positive := (Bool.and_eq_true_iff.mp (List.mem_filter.mp kept).2).2
    exact Int.le_of_lt (of_decide_eq_true positive)

/-! ### The invariant -/

inductive Progress (server : Server) : Prop where
  | wiped (board : RankingBoard) (boards : List RankingBoard)
      (todo : server.todo = .query board :: rebuildBoards boards)
      (zero : ∀ e d, server.window.contains d = true → server.db.scores board e d = 0)
      (outside : board ≠ .rich → ∀ e d, server.window.contains d = false →
        server.db.scores board e d = server.db.live board e d)
      (others : ∀ b, b ≠ .rich → b ≠ board → ∀ e d,
        server.db.scores b e d = server.db.live b e d)
  | adding (board : RankingBoard) (rows : List ScoreRow) (boards : List RankingBoard)
      (todo : server.todo = rows.map (.incrementScore board) ++ rebuildBoards boards)
      (positive : ∀ row ∈ rows, 0 < row.score)
      (scores : ∀ b, b ≠ .rich → ∀ e d,
        server.db.scores b e d + (if b = board then owed rows e d else 0) =
          server.db.live b e d)

structure Kept (server : Server) : Prop where
  tables : Tables server.db
  balance : ∀ b, b ≠ .rich → ∀ e d,
    source server.db b e d - uncounted server.db b e d = server.db.live b e d
  progress : Progress server

private theorem kept_empty : Kept .empty := by
  have none : Tables {} := ⟨by simp, by simp, by simp, by simp, by simp, by simp⟩
  refine ⟨none, ?_, .adding .host [] [] rfl (by simp) ?_⟩
  · intro b notRich e d
    cases b <;> simp [Server.empty, source, creditSource, uncounted]
  · intro b notRich e d
    simp [Server.empty, owed]

variable {server : Server}

private theorem kept_live (kept : Kept server) {op : Live}
    (orderly : Orderly server (.live op) = true) : Kept (server.apply (.live op)) := by
  obtain ⟨sameDay, apart⟩ := Bool.and_eq_true_iff.mp orderly
  obtain ⟨inc, counted⟩ := live_counted kept.tables op sameDay
  have unchanged : ∀ b e d, server.todo.head? = some (.query b) → server.window.contains d = true →
      inc b e d = 0 := by
    intro b e d atQuery inside
    by_contra different
    have free := List.all_eq_true.mp apart (b, d) (counted.days b e d different)
    simp [atQuery, inside] at free
  refine ⟨counted.tables, fun b notRich e d => ?_, ?_⟩
  · have before := kept.balance b notRich e d
    have after := counted.balance b notRich e d
    have total := counted.live b e d
    simp only [Server.apply]
    omega
  · rcases kept.progress with ⟨board, boards, todo, zero, outside, others⟩ |
      ⟨board, rows, boards, todo, positive, scores⟩
    · have atQuery : server.todo.head? = some (.query board) := by rw [todo, List.head?_cons]
      refine .wiped board boards todo (fun e d inside => ?_) (fun notRich e d out => ?_)
        fun b notRich other e d => ?_
      · have same := unchanged board e d atQuery inside
        have before := zero e d inside
        have after := counted.scores board e d
        simp only [Server.apply]
        omega
      · have before := outside notRich e d out
        have after := counted.scores board e d
        have total := counted.live board e d
        simp only [Server.apply]
        omega
      · have before := others b notRich other e d
        have after := counted.scores b e d
        have total := counted.live b e d
        simp only [Server.apply]
        omega
    · refine .adding board rows boards todo positive fun b notRich e d => ?_
      have before := scores b notRich e d
      have after := counted.scores b e d
      have total := counted.live b e d
      simp only [Server.apply]
      omega

private theorem kept_scores (kept : Kept server) {scores : Scores}
    (nonneg : ∀ b e d, 0 ≤ scores b e d) {todo : List Statement}
    (progress : Progress { server with db := { server.db with scores }, todo }) :
    Kept { server with db := { server.db with scores }, todo } := by
  refine ⟨⟨kept.tables.credits, kept.tables.earnings, kept.tables.unique, kept.tables.gifts, nonneg,
    kept.tables.live⟩, fun b notRich e d => ?_, progress⟩
  have before := kept.balance b notRich e d
  cases b with
  | host => exact before
  | gift => exact before
  | agency => exact before
  | rich => exact absurd rfl notRich

variable {board : RankingBoard} {boards : List RankingBoard}

section

variable (kept : Kept server)
include kept

private theorem kept_wipe (todo : server.todo = rebuildBoards (board :: boards))
    (scores : ∀ b, b ≠ .rich → ∀ e d, server.db.scores b e d = server.db.live b e d) :
    Kept server.statement := by
  have step : server.statement =
      { server with db := { server.db with scores := wipe server.db.scores board server.window }
                    todo := .query board :: rebuildBoards boards } := by
    unfold Server.statement
    rw [todo]
    rfl
  have same : ∀ b e d, ¬(b = board ∧ server.window.contains d = true) →
      wipe server.db.scores board server.window b e d = server.db.scores b e d :=
    fun b e d out => if_neg out
  rw [step]
  refine kept_scores kept (fun b e d => ?_) (.wiped board boards rfl (fun e d inside => ?_)
    (fun notRich e d out => ?_) fun b notRich other e d => ?_)
  · unfold wipe
    split
    · exact Int.le_refl 0
    · exact kept.tables.scores b e d
  · exact if_pos ⟨rfl, inside⟩
  · exact (same board e d (by simp [out])).trans (scores board notRich e d)
  · exact (same b e d fun own => other own.1).trans (scores b notRich e d)

private theorem kept_increment {row : ScoreRow} {rows : List ScoreRow}
    (todo : server.todo = (row :: rows).map (.incrementScore board) ++ rebuildBoards boards)
    (positive : ∀ other ∈ row :: rows, 0 < other.score)
    (scores : ∀ b, b ≠ .rich → ∀ e d, server.db.scores b e d +
      (if b = board then owed (row :: rows) e d else 0) = server.db.live b e d) :
    Kept server.statement := by
  have step : server.statement =
      { server with
        db := { server.db with
          scores := server.db.scores.increment board row.entityId row.day row.score }
        todo := rows.map (.incrementScore board) ++ rebuildBoards boards } := by
    unfold Server.statement
    rw [todo]
    rfl
  have added := increment_eq kept.tables.scores
    (Int.le_of_lt (positive row List.mem_cons_self)) board row.entityId row.day
  rw [step]
  refine kept_scores kept (fun b e d => ?_) (.adding board rows boards rfl
    (fun other member => positive other (List.mem_cons_of_mem _ member)) fun b notRich e d => ?_)
  · have before := kept.tables.scores b e d
    unfold Scores.increment
    split
    · exact Int.le_max_left 0 _
    · exact before
  · have before := scores b notRich e d
    dsimp only
    rw [added]
    by_cases own : b = board
    · subst own
      rw [if_pos rfl, owed_cons row rows b] at before
      rw [if_pos rfl]
      omega
    · rw [if_neg own] at before ⊢
      simpa [point, own] using before

private theorem kept_query (orderly : Orderly server .statement = true)
    (todo : server.todo = .query board :: rebuildBoards boards)
    (zero : ∀ e d, server.window.contains d = true → server.db.scores board e d = 0)
    (outside : board ≠ .rich → ∀ e d, server.window.contains d = false →
      server.db.scores board e d = server.db.live board e d)
    (others : ∀ b, b ≠ .rich → b ≠ board → ∀ e d, server.db.scores b e d = server.db.live b e d) :
    Kept server.statement := by
  have step : server.statement = { server with
      todo := additions board (rowsOf server.db server.window board) ++ rebuildBoards boards } := by
    unfold Server.statement
    rw [todo]
  have counted : board ≠ .rich → ∀ e d, server.window.contains d = true →
      uncounted server.db board e d = 0 := by
    intro notRich e d inside
    have none : server.todo.head? = some (.query .host) ∨ server.todo.head? = some (.query .gift) →
        sumWhere (fun gift : SentGift => (gift.userId, gift.createdDay) = (e, d)) (·.amount)
          server.db.sentGifts = 0 := by
      intro atQuery
      refine (sumWhere_eq_zero_iff kept.tables.gifts).mpr fun gift member own => ?_
      have free : server.db.sentGifts.all fun gift => !server.window.contains gift.createdDay := by
        rcases atQuery with atQuery | atQuery
        · simpa [Orderly, atQuery] using orderly
        · simpa [Orderly, atQuery] using orderly
      have apart := List.all_eq_true.mp free gift member
      obtain ⟨-, rfl⟩ := Prod.mk.inj (of_decide_eq_true own)
      simp [inside] at apart
    cases board with
    | host => exact none (.inl (by rw [todo, List.head?_cons]))
    | gift => exact none (.inr (by rw [todo, List.head?_cons]))
    | agency => rfl
    | rich => exact absurd rfl notRich
  rw [step]
  refine ⟨kept.tables, kept.balance, .adding board _ boards rfl (fun row member => ?_)
    fun b notRich e d => ?_⟩
  · exact of_decide_eq_true (List.mem_filter.mp member).2
  · by_cases own : b = board
    · subst own
      rw [if_pos rfl, owed_filter (rowsOf_nonneg kept.tables _ _), owed_rowsOf _ _ notRich]
      have balance := kept.balance b notRich e d
      cases inside : server.window.contains d with
      | true =>
        have none := counted notRich e d inside
        have wiped := zero e d inside
        simp only [if_true]
        omega
      | false =>
        have same := outside notRich e d inside
        simp [same]
    · rw [if_neg own, Int.add_zero]
      exact others b notRich own e d

private theorem kept_statement (orderly : Orderly server .statement = true) :
    Kept server.statement := by
  rcases kept.progress with ⟨board, boards, todo, zero, outside, others⟩ |
    ⟨board, rows, boards, todo, positive, scores⟩
  · exact kept_query kept orderly todo zero outside others
  · cases rows with
    | cons row rows => exact kept_increment kept todo positive scores
    | nil =>
      have settled : ∀ b, b ≠ .rich → ∀ e d, server.db.scores b e d = server.db.live b e d := by
        intro b notRich e d
        simpa [owed] using scores b notRich e d
      cases boards with
      | cons next boards => exact kept_wipe kept todo settled
      | nil =>
        have idle : server.statement = server := by
          unfold Server.statement
          rw [todo]
          rfl
        rw [idle]
        exact kept

private theorem scores_idle (idle : server.todo = []) (notRich : board ≠ .rich) (entityId : UserId)
    (day : Day) : server.db.scores board entityId day = server.db.live board entityId day := by
  rcases kept.progress with ⟨_, _, todo, -, -, -⟩ | ⟨_, rows, boards, todo, -, scores⟩
  · rw [idle] at todo
    cases todo
  · have none : rows = [] := by
      rw [idle] at todo
      exact List.map_eq_nil_iff.mp (List.append_eq_nil_iff.mp todo.symm).1
    simpa [none, owed] using scores board notRich entityId day

private theorem kept_apply {event : Event} (orderly : Orderly server event = true) :
    Kept (server.apply event) := by
  cases event with
  | live op => exact kept_live kept orderly
  | statement => exact kept_statement kept orderly
  | rebuild window =>
    unfold Server.apply
    dsimp only
    split
    next idle =>
      refine ⟨kept.tables, kept.balance, .adding .host [] [.host, .gift, .agency, .rich] rfl
        (by simp) fun b notRich e d => ?_⟩
      simpa [owed] using scores_idle kept idle notRich e d
    next => exact kept

end

private theorem kept_run {events : List Event} : ∀ {server : Server}, Kept server →
    OrderlyRun server events = true → Kept (server.run events) := by
  induction events with
  | nil => exact fun kept _ => kept
  | cons event events ih =>
    intro server kept orderly
    obtain ⟨first, rest⟩ := Bool.and_eq_true_iff.mp orderly
    exact ih (kept_apply kept first) rest

/-! ### Recharges -/

/-- The totals of the months whose last recharge is of that day. -/
def monthlyTotals (db : RankingDb) (userId : UserId) (day : Day) : Int :=
  sumWhere (fun row => 0 < row.totalRechargeCoins && (row.userId, row.lastRechargeDay) =
    (userId, day)) (·.totalRechargeCoins) db.recharges

private theorem owed_rich (db : RankingDb) (window : Window) (userId : UserId) (day : Day) :
    owed (rowsOf db window .rich) userId day =
      if window.contains day then monthlyTotals db userId day else 0 := by
  unfold rowsOf monthlyTotals
  dsimp only
  induction db.recharges with
  | nil => simp [owed]
  | cons row rows ih =>
    rw [List.filter_cons, sumWhere_cons]
    by_cases own : (row.userId, row.lastRechargeDay) = (userId, day)
    · obtain ⟨rfl, rfl⟩ := Prod.mk.inj own
      cases inside : window.contains row.lastRechargeDay with
      | true =>
        rw [inside] at ih
        by_cases positive : 0 < row.totalRechargeCoins
        · simp only [positive, decide_true, Bool.and_self, if_true, List.map_cons]
          rw [owed_cons _ _ .rich, ih]
          simp [point]
        · simpa [positive] using ih
      | false =>
        rw [inside] at ih
        simpa using ih
    · have skipped :
          owed [⟨row.userId, row.lastRechargeDay, row.totalRechargeCoins⟩] userId day = 0 := by
        simp only [owed, sumWhere_cons, sumWhere_nil, own]
        rfl
      simp only [own, decide_false, Bool.and_false, Bool.false_eq_true, if_false, Int.zero_add]
      split
      · rw [List.map_cons, ← List.singleton_append, owed, sumWhere_append]
        simp only [owed] at skipped ih
        rw [skipped, ih, Int.zero_add]
      · exact ih

def Event.isRebuild : Event → Bool
  | .rebuild _ => true
  | _ => false

/-- After the query of the recharges: what is still to be added, and what was counted since. -/
structure Late (atQuery server : Server) (rows : List ScoreRow) : Prop where
  todo : server.todo = rows.map (.incrementScore .rich)
  positive : ∀ row ∈ rows, 0 < row.score
  scores : ∀ e d, server.db.scores .rich e d + owed rows e d =
    atQuery.db.scores .rich e d + owed (rowsOf atQuery.db atQuery.window .rich) e d +
      (server.db.live .rich e d - atQuery.db.live .rich e d)

private theorem late_query (kept : Kept server) (todo : server.todo = [.query .rich]) :
    ∃ rows, Late server server.statement rows := by
  have step : server.statement =
      { server with todo := additions .rich (rowsOf server.db server.window .rich) ++ [] } := by
    unfold Server.statement
    rw [todo]
  refine ⟨(rowsOf server.db server.window .rich).filter fun row => 0 < row.score, ?_,
    fun row member => of_decide_eq_true (List.mem_filter.mp member).2, fun e d => ?_⟩
  · rw [step, List.append_nil]
    rfl
  · rw [step, owed_filter (rowsOf_nonneg kept.tables _ _)]
    dsimp only
    omega

private theorem late_apply {atQuery server : Server} (kept : Kept server) {rows : List ScoreRow}
    (late : Late atQuery server rows) {event : Event} (orderly : Orderly server event = true)
    (single : event.isRebuild = false) : ∃ rows, Late atQuery (server.apply event) rows := by
  cases event with
  | rebuild window => cases single
  | live op =>
    obtain ⟨sameDay, -⟩ := Bool.and_eq_true_iff.mp orderly
    obtain ⟨inc, counted⟩ := live_counted kept.tables op sameDay
    refine ⟨rows, late.todo, late.positive, fun e d => ?_⟩
    have before := late.scores e d
    have after := counted.scores .rich e d
    have total := counted.live .rich e d
    simp only [Server.apply]
    omega
  | statement =>
    cases rows with
    | nil =>
      have idle : server.apply .statement = server := by
        rw [Server.apply, Server.statement, late.todo]
        rfl
      rw [idle]
      exact ⟨[], late⟩
    | cons row rows =>
      have step : server.apply .statement =
          { server with
            db := { server.db with
              scores := server.db.scores.increment .rich row.entityId row.day row.score }
            todo := rows.map (.incrementScore .rich) } := by
        rw [Server.apply, Server.statement, late.todo]
        rfl
      have added := increment_eq kept.tables.scores
        (Int.le_of_lt (late.positive row List.mem_cons_self)) .rich row.entityId row.day
      refine ⟨rows, ⟨by rw [step], fun other member =>
        late.positive other (List.mem_cons_of_mem _ member), fun e d => ?_⟩⟩
      have before := late.scores e d
      rw [owed_cons row rows .rich] at before
      rw [step]
      dsimp only
      rw [added]
      omega

private theorem late_run {atQuery : Server} {events : List Event} : ∀ {server : Server},
    Kept server → (∃ rows, Late atQuery server rows) → OrderlyRun server events = true →
    (∀ event ∈ events, event.isRebuild = false) →
    ∃ rows, Late atQuery (server.run events) rows := by
  induction events with
  | nil => exact fun _ late _ _ => late
  | cons event events ih =>
    intro server kept late orderly single
    obtain ⟨rows, late⟩ := late
    obtain ⟨first, rest⟩ := Bool.and_eq_true_iff.mp orderly
    exact ih (kept_apply kept first) (late_apply kept late first (single event List.mem_cons_self))
      rest fun other member => single other (List.mem_cons_of_mem _ member)

/-- A rebuild leaves the days outside of its window alone. -/
structure Outside (start server : Server) (window : Window) : Prop where
  same : server.window = window
  rows : ∀ row, .incrementScore .rich row ∈ server.todo → window.contains row.day = true
  scores : ∀ e d, window.contains d = false →
    server.db.scores .rich e d - server.db.live .rich e d =
      start.db.scores .rich e d - start.db.live .rich e d

variable {window : Window}

private theorem rowsOf_rich_inside {db : RankingDb} {row : ScoreRow}
    (member : row ∈ rowsOf db window .rich) : window.contains row.day = true := by
  obtain ⟨recharge, kept, rfl⟩ := List.mem_map.mp member
  exact (Bool.and_eq_true_iff.mp (List.mem_filter.mp kept).2).1

private theorem outside_statement {start server : Server} (outside : Outside start server window) :
    Outside start server.statement window := by
  unfold Server.statement
  split
  next => exact outside
  next board rest todo =>
    refine ⟨outside.same, fun row member => outside.rows row ?_, fun e d out => ?_⟩
    · rw [todo]
      exact List.mem_cons_of_mem _ member
    · have same : wipe server.db.scores board server.window .rich e d =
          server.db.scores .rich e d := by
        refine if_neg fun inside => ?_
        rw [outside.same, out] at inside
        exact absurd inside.2 (by decide)
      rw [← outside.scores e d out]
      exact congrArg (· - _) same
  next board rest todo =>
    refine ⟨outside.same, fun row member => ?_, outside.scores⟩
    rcases List.mem_append.mp member with added | later
    · obtain ⟨other, inRows, same⟩ := List.mem_map.mp added
      obtain ⟨rfl, rfl⟩ := Statement.incrementScore.inj same
      rw [← outside.same]
      exact rowsOf_rich_inside (List.mem_filter.mp inRows).1
    · refine outside.rows row ?_
      rw [todo]
      exact List.mem_cons_of_mem _ later
  next board row rest todo =>
    refine ⟨outside.same, fun other member => outside.rows other ?_, fun e d out => ?_⟩
    · rw [todo]
      exact List.mem_cons_of_mem _ member
    · have same : server.db.scores.increment board row.entityId row.day row.score .rich e d =
          server.db.scores .rich e d := by
        refine if_neg fun ⟨own, _, onDay⟩ => ?_
        subst own onDay
        have inside := outside.rows row (by rw [todo]; exact List.mem_cons_self)
        rw [out] at inside
        exact absurd inside (by decide)
      rw [← outside.scores e d out]
      exact congrArg (· - _) same

private theorem outside_run {start : Server} {events : List Event} :
    ∀ {server : Server}, Kept server → Outside start server window →
      OrderlyRun server events = true → (∀ event ∈ events, event.isRebuild = false) →
      Outside start (server.run events) window := by
  induction events with
  | nil => exact fun _ outside _ _ => outside
  | cons event events ih =>
    intro server kept outside orderly single
    obtain ⟨first, rest⟩ := Bool.and_eq_true_iff.mp orderly
    refine ih (kept_apply kept first) ?_ rest
      fun other member => single other (List.mem_cons_of_mem _ member)
    cases event with
    | rebuild window => exact absurd (single _ List.mem_cons_self) (by simp [Event.isRebuild])
    | statement => exact outside_statement outside
    | live op =>
      obtain ⟨sameDay, -⟩ := Bool.and_eq_true_iff.mp first
      obtain ⟨inc, counted⟩ := live_counted kept.tables op sameDay
      refine ⟨outside.same, outside.rows, fun e d out => ?_⟩
      have before := outside.scores e d out
      have after := counted.scores .rich e d
      have total := counted.live .rich e d
      simp only [Server.apply]
      omega

/-! ### Agreement -/

private theorem orderlyRun_append {events more : List Event} :
    OrderlyRun server (events ++ more) =
      (OrderlyRun server events && OrderlyRun (server.run events) more) := by
  induction events generalizing server with
  | nil => rfl
  | cons event events ih =>
    rw [List.cons_append, OrderlyRun, ih, OrderlyRun, Bool.and_assoc]
    rfl

private theorem run_append (server : Server) (events more : List Event) :
    server.run (events ++ more) = (server.run events).run more := List.foldl_append

private theorem zero_at_query (kept : Kept server) {rest : List Statement}
    (query : server.todo = .query board :: rest) (e : UserId) {d : Day}
    (inside : server.window.contains d = true) : server.db.scores board e d = 0 := by
  rcases kept.progress with ⟨other, boards, todo, zero, -, -⟩ | ⟨other, rows, boards, todo, -, -⟩
  · obtain ⟨same, -⟩ := List.cons.inj (todo.symm.trans query)
    obtain rfl := Statement.query.inj same
    exact zero e d inside
  · -- neither an addition nor a wipe is a query
    exfalso
    rw [query] at todo
    cases rows with
    | cons row rows => cases (List.cons.inj todo).1
    | nil =>
      cases boards with
      | cons next boards => cases (List.cons.inj todo).1
      | nil => cases todo

/-- What a rebuild makes of the recharges, as far as they are counted when it queries them. -/
private theorem rich_rebuilt {start atQuery finish : Server} {during after : List Event}
    (kept : Kept start) (idle : start.todo = [])
    (early : OrderlyRun (start.apply (.rebuild window)) during = true)
    (first : atQuery = (start.apply (.rebuild window)).run during)
    (query : atQuery.todo = [.query .rich])
    (late : OrderlyRun atQuery (.statement :: after) = true)
    (last : finish = (atQuery.apply .statement).run after) (done : finish.todo = [])
    (single : ∀ event ∈ during ++ after, event.isRebuild = false) (e : UserId) (d : Day) :
    finish.db.scores .rich e d =
      if window.contains d then
        monthlyTotals atQuery.db e d + (finish.db.live .rich e d - atQuery.db.live .rich e d)
      else start.db.scores .rich e d + (finish.db.live .rich e d - start.db.live .rich e d) := by
  have opened : Kept (start.apply (.rebuild window)) := kept_apply kept rfl
  have keptQuery : Kept atQuery := first ▸ kept_run opened early
  -- up to the query nothing happens outside of the window
  have initial : Outside start (start.apply (.rebuild window)) window := by
    rw [Server.apply, if_pos idle]
    refine ⟨rfl, fun row member => ?_, fun e d _ => rfl⟩
    simp [rebuildRankingWindow, rebuildBoards] at member
  have outside : Outside start atQuery window := first ▸ outside_run opened initial early
    fun event member => single event (List.mem_append_left _ member)
  -- from then on the rows are added to what is counted
  obtain ⟨atStatement, late⟩ := Bool.and_eq_true_iff.mp late
  obtain ⟨rows, added⟩ := late_run (kept_apply keptQuery atStatement) (late_query keptQuery query)
    late fun event member => single event (List.mem_append_right _ member)
  rw [← last] at added
  have none : rows = [] := List.map_eq_nil_iff.mp (added.todo.symm.trans done)
  have nothingLeft : owed [] e d = 0 := rfl
  have scores := added.scores e d
  rw [none, nothingLeft, owed_rich, outside.same] at scores
  cases inside : window.contains d with
  | true =>
    have zero := zero_at_query keptQuery query e (outside.same.symm ▸ inside)
    simp only [inside, if_true] at scores ⊢
    omega
  | false =>
    have before := outside.scores e d inside
    simp only [inside, Bool.false_eq_true, if_false] at scores ⊢
    omega

/-- After every orderly run the scores of the hosts, gifts and agencies over any period are those of
the live increments. A user's recharges of a month are moved to the day of the last one, if a
rebuild queries them and that day is in its window; what is counted later is added. -/
theorem rebuild_agrees {events : List Event} (orderly : OrderlyRun .empty events = true)
    (done : (Server.empty.run events).todo = []) :
    (∀ board, board ≠ .rich → ∀ entityId startDay endDayExclusive,
      scoreForEntity (Server.empty.run events).db.scores board entityId startDay endDayExclusive =
        scoreForEntity (Server.empty.run events).db.live board entityId startDay
          endDayExclusive) ∧
    ∀ before window during after,
      events = before ++ Event.rebuild window :: (during ++ Event.statement :: after) →
      (Server.empty.run before).todo = [] →
      (Server.empty.run (before ++ Event.rebuild window :: during)).todo = [.query .rich] →
      (∀ event ∈ during ++ after, event.isRebuild = false) →
      ∀ userId day, (Server.empty.run events).db.scores .rich userId day =
        if window.contains day then
          monthlyTotals (Server.empty.run (before ++ Event.rebuild window :: during)).db userId day +
            ((Server.empty.run events).db.live .rich userId day -
              (Server.empty.run (before ++ Event.rebuild window :: during)).db.live .rich userId
                day)
        else (Server.empty.run before).db.scores .rich userId day +
          ((Server.empty.run events).db.live .rich userId day -
            (Server.empty.run before).db.live .rich userId day) := by
  constructor
  · intro board notRich entityId startDay endDayExclusive
    have kept := kept_run kept_empty orderly
    unfold scoreForEntity
    refine congrArg List.sum (List.map_congr_left fun day _ => ?_)
    exact scores_idle kept done notRich entityId day
  · rintro before window during after rfl idle query single userId day
    rw [orderlyRun_append, Bool.and_eq_true_iff] at orderly
    obtain ⟨orderlyBefore, orderly⟩ := orderly
    obtain ⟨-, orderly⟩ := Bool.and_eq_true_iff.mp orderly
    rw [orderlyRun_append, Bool.and_eq_true_iff] at orderly
    have first := run_append .empty before (.rebuild window :: during)
    have last : Server.empty.run (before ++ .rebuild window :: (during ++ .statement :: after)) =
        ((Server.empty.run (before ++ .rebuild window :: during)).apply .statement).run after := by
      rw [first, run_append]
      exact run_append _ during (.statement :: after)
    refine rich_rebuilt (kept_run kept_empty orderlyBefore) idle orderly.1 first query ?_ last done
      single userId day
    rw [first]
    exact orderly.2

/-- A call is counted while a rebuild of the second day runs. -/
def countedDuring : List Event :=
  [Event.live (.hostCredit 7 .livestreamGift 40 1 1 (some 9)), .live (.recharge 5 100 0 1),
    .live (.recharge 5 50 0 2), .rebuild ⟨2, 3⟩, .live (.hostCredit 7 .videoCall 10 2 2 none)] ++
    List.replicate 8 Event.statement

def queriedAfter : List Event := [.live (.recharge 5 30 0 2), .statement]

theorem rebuild_agrees_countedDuring :
    scoreForEntity (Server.empty.run (countedDuring ++ .statement :: queriedAfter)).db.scores .host
        7 1 3 =
      scoreForEntity (Server.empty.run (countedDuring ++ .statement :: queriedAfter)).db.live .host
        7 1 3 ∧
    (Server.empty.run (countedDuring ++ .statement :: queriedAfter)).db.scores .rich 5 2 =
      150 + (80 - 50) := by
  obtain ⟨hosts, rich⟩ := @rebuild_agrees (countedDuring ++ .statement :: queriedAfter)
    (by decide) (by decide)
  refine ⟨hosts .host (by decide) 7 1 3, ?_⟩
  exact rich (countedDuring.take 3) ⟨2, 3⟩ (countedDuring.drop 4) queriedAfter rfl
    (by decide) (by decide) (by decide) 5 2

/-- Two recharges of a month, of which a rebuild sees the second day. -/
def rechargedTwice : List Event :=
  [Event.live (.recharge 5 100 0 1), .live (.recharge 5 50 0 2), .rebuild ⟨2, 3⟩] ++
    List.replicate 9 Event.statement

/-- A call is counted between the wipe and the query of the hosts. -/
def countedBetween : List Event :=
  [Event.rebuild ⟨1, 2⟩, .statement, .live (.hostCredit 7 .videoCall 10 1 1 none)] ++
    List.replicate 8 Event.statement

private theorem rechargedTwice_scores :
    (Server.empty.run rechargedTwice).todo = [] ∧
      scoreForEntity (Server.empty.run rechargedTwice).db.scores .rich 5 1 3 = 250 ∧
      scoreForEntity (Server.empty.run rechargedTwice).db.live .rich 5 1 3 = 150 := by
  decide

private theorem countedBetween_scores :
    (Server.empty.run countedBetween).todo = [] ∧
      scoreForEntity (Server.empty.run countedBetween).db.scores .host 7 1 2 = 20 ∧
      scoreForEntity (Server.empty.run countedBetween).db.live .host 7 1 2 = 10 := by
  decide

theorem rebuild_not_agrees :
    (¬∀ events, (Server.empty.run events).todo = [] → ∀ userId startDay endDayExclusive,
      scoreForEntity (Server.empty.run events).db.scores .rich userId startDay endDayExclusive =
        scoreForEntity (Server.empty.run events).db.live .rich userId startDay
          endDayExclusive) ∧
    ¬∀ events, (Server.empty.run events).todo = [] → ∀ userId startDay endDayExclusive,
      scoreForEntity (Server.empty.run events).db.scores .host userId startDay endDayExclusive =
        scoreForEntity (Server.empty.run events).db.live .host userId startDay
          endDayExclusive := by
  constructor
  · intro agrees
    obtain ⟨done, scores, live⟩ := rechargedTwice_scores
    have same := agrees rechargedTwice done 5 1 3
    rw [scores, live] at same
    exact absurd same (by decide)
  · intro agrees
    obtain ⟨done, scores, live⟩ := countedBetween_scores
    have same := agrees countedBetween done 7 1 2
    rw [scores, live] at same
    exact absurd same (by decide)

end OlNode.Ranking
