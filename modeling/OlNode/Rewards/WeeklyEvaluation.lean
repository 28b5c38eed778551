import Mathlib.Data.List.MinMax
import OlNode.Keyed
import OlNode.ReadCommitted.Journal
import OlNode.Rewards.Model

/-!
# The weekly evaluation of Royal Hosts

A batch stores one evaluation for each of its hosts and takes the tag from a host that has missed
too many weeks. It counts on from the latest earlier evaluation, whichever week that is of, and
it rewrites the tags it has read, whatever they are by then.

The history records evaluations with what they were computed from, and every change of the tags.
An evaluation is clear if it counts on from the week before or from no misses, and does not come in
below a miss that is already evaluated; a repeated one if the host is tagged as it was. In clear
runs the stored counts are the lengths of the runs of missed weeks. Earnings of a week are final
when it is evaluated.
-/
namespace OlNode.Rewards

open ReadCommitted

structure WeeklyEvaluation where
  userId : UserId
  weekStart : Week
  earningsTotal : Nat
  targetMet : Bool
  consecutiveMissCountAfterThisWeek : Nat
  tagRevokedAfterThisWeek : Bool
  deriving DecidableEq

structure EvaluationConfig where
  autoRevokeEarningThreshold : Nat
  consecutiveMissWeeksLimit : Nat

inductive EvaluationEvent where
  /-- Stored by a batch that had read this earlier evaluation and these tags. -/
  | evaluated (row : WeeklyEvaluation) (priorEval : Option WeeklyEvaluation)
      (adminTags : List String)
  /-- The job has rewritten the tags it had read. -/
  | revoked (userId : UserId) (weekStart : Week) (adminTags : List String)
  /-- The console has stored other tags. -/
  | tagsSet (userId : UserId) (adminTags : List String)
  /-- The batch is done with this host. -/
  | finished (userId : UserId) (weekStart : Week)
  deriving DecidableEq

structure EvaluationDb where
  earnings : List Earning := []
  evaluations : List WeeklyEvaluation := []
  adminTags : UserId → Option (List String) := fun _ => none
  history : List EvaluationEvent := []

inductive EvaluationError where
  | userNotFound
  deriving DecidableEq

inductive EvaluationLock where
  | evaluation (userId : UserId) (weekStart : Week)
  | user (userId : UserId)
  deriving DecidableEq

abbrev EvaluationProg := Prog EvaluationDb EvaluationLock EvaluationError

/-! ### The tables -/

def WeeklyEvaluation.key (row : WeeklyEvaluation) : UserId × Week := (row.userId, row.weekStart)

def findEvaluation (rows : List WeeklyEvaluation) (userId : UserId) (week : Week) :
    Option WeeklyEvaluation :=
  rows.find? fun row => row.key = (userId, week)

/-- `findFirst` with `orderBy: { weekStart: 'desc' }`. -/
def getLatestEvaluation (rows : List WeeklyEvaluation) (userId : UserId) (before : Week) :
    Option WeeklyEvaluation :=
  (rows.filter fun row => row.userId = userId && row.weekStart < before).argmax (·.weekStart)

def upsertEvaluation (rows : List WeeklyEvaluation) (data : WeeklyEvaluation) :
    List WeeklyEvaluation :=
  if (findEvaluation rows data.userId data.weekStart).isSome then
    rows.map fun row => if row.key = data.key then data else row
  else rows ++ [data]

namespace EvaluationDb

variable (db : EvaluationDb)

def earningsOf (userId : UserId) (week : Week) : Nat :=
  getQualifyingRewardEarningsForRange db.earnings userId week.start (Week.start (week + 1))

def upsert (data : WeeklyEvaluation) (priorEval : Option WeeklyEvaluation)
    (adminTags : List String) : EvaluationDb :=
  { db with
    evaluations := upsertEvaluation db.evaluations data
    history := db.history ++ [.evaluated data priorEval adminTags] }

def setAdminTags (userId : UserId) (adminTags : List String) (event : EvaluationEvent) :
    EvaluationDb :=
  { db with
    adminTags := Function.update db.adminTags userId (some adminTags)
    history := db.history ++ [event] }

def finish (userId : UserId) (week : Week) : EvaluationDb :=
  { db with history := db.history ++ [.finished userId week] }

end EvaluationDb

/-! ### The operations -/

section Operations

variable (toLowerCase : String → String) (config : EvaluationConfig)

/-- The row of a host, from what the batch has read. -/
def evaluate (userId : UserId) (weekStart : Week) (earningsTotal : Nat)
    (priorEval : Option WeeklyEvaluation) (adminTags : List String) : WeeklyEvaluation :=
  let targetMet := decide (config.autoRevokeEarningThreshold ≤ earningsTotal)
  let priorMissCount := (priorEval.map (·.consecutiveMissCountAfterThisWeek)).getD 0
  let consecutiveMissCountAfterThisWeek := if targetMet then 0 else priorMissCount + 1
  let stillTagged := hasRoyalHostTag toLowerCase adminTags
  { userId, weekStart, earningsTotal, targetMet, consecutiveMissCountAfterThisWeek
    tagRevokedAfterThisWeek :=
      stillTagged && config.consecutiveMissWeeksLimit ≤ consecutiveMissCountAfterThisWeek }

def withoutRoyalHostTag (adminTags : List String) : List String :=
  adminTags.filter fun tag => !isRoyalHostTag toLowerCase tag

/-- `setTags`; the last argument is what the history says of it. -/
def setTags (targetUserId : UserId) (tags : List String)
    (event : List String → EvaluationEvent) : EvaluationProg Unit := do
  let user ← Prog.select fun s => s.adminTags targetUserId
  match user with
  | none => .fail .userNotFound
  | some _ =>
    let adminTags := normalizeAdminTags toLowerCase tags
    Prog.autocommit (.user targetUserId) (·.setAdminTags targetUserId adminTags (event adminTags))

/-- Store the row of a host, take the tag if it says so, and note that the batch goes on. -/
def storeEvaluation (row : WeeklyEvaluation) (priorEval : Option WeeklyEvaluation)
    (adminTags : List String) : EvaluationProg Unit := do
  Prog.autocommit (.evaluation row.userId row.weekStart) (·.upsert row priorEval adminTags)
  Prog.when (row.tagRevokedAfterThisWeek = true)
    (setTags toLowerCase row.userId (withoutRoyalHostTag toLowerCase adminTags) fun _ =>
      .revoked row.userId row.weekStart adminTags)
  Prog.autocommit (.evaluation row.userId row.weekStart) (·.finish row.userId row.weekStart)

def evaluateUser (weekStart : Week) (userId : UserId) : EvaluationProg Unit := do
  let earningsTotal ← Prog.select (·.earningsOf userId weekStart)
  let priorEval ← Prog.select fun s => getLatestEvaluation s.evaluations userId weekStart
  let user ← Prog.select (·.adminTags userId)
  match user with
  | none => pure ()
  | some adminTags =>
    storeEvaluation toLowerCase
      (evaluate toLowerCase config userId weekStart earningsTotal priorEval adminTags)
      priorEval adminTags

def handleBatch (weekStart : Week) : List UserId → EvaluationProg Unit
  | [] => pure ()
  | userId :: userIds => do
    evaluateUser toLowerCase config weekStart userId
    handleBatch weekStart userIds

inductive EvaluationRequest where
  | batch (weekStart : Week) (userIds : List UserId)
  | setTags (userId : UserId) (tags : List String)

def evaluationHandler : EvaluationRequest → EvaluationProg Unit
  | .batch weekStart userIds => handleBatch toLowerCase config weekStart userIds
  | .setTags userId tags => setTags toLowerCase userId tags (.tagsSet userId)

end Operations

/-! ### Clear runs -/

def missedWeek (rows : List WeeklyEvaluation) (userId : UserId) (week : Week) : Bool :=
  (findEvaluation rows userId week).any (!·.targetMet)

/-- The length of the run of missed weeks that ends in a week. -/
def missRun (missed : Week → Bool) : Week → Nat
  | 0 => if missed 0 then 1 else 0
  | week + 1 => if missed (week + 1) then missRun missed week + 1 else 0

section Clear

variable (toLowerCase : String → String) (config : EvaluationConfig)

/-- What an event makes of the tags of a user. -/
def tagsStep (userId : UserId) (tags : Option (List String)) :
    EvaluationEvent → Option (List String)
  | .tagsSet other adminTags => if other = userId then some adminTags else tags
  | .revoked other _ _ =>
    if other = userId then
      tags.map fun tags => normalizeAdminTags toLowerCase (withoutRoyalHostTag toLowerCase tags)
    else tags
  | .evaluated .. | .finished .. => tags

/-- The tags of a user after a history: those the console stored last, less the Royal tag if it was
taken since. -/
def tagsAfter (start : Option (List String)) (userId : UserId) (history : List EvaluationEvent) :
    Option (List String) :=
  history.foldl (tagsStep toLowerCase userId) start

/-- The count goes on from the week before, from no misses, or not at all. -/
def followsOn (row : WeeklyEvaluation) (priorEval : Option WeeklyEvaluation) : Bool :=
  config.autoRevokeEarningThreshold ≤ row.earningsTotal || priorEval.all fun prior =>
    prior.weekStart + 1 = row.weekStart || prior.consecutiveMissCountAfterThisWeek = 0

/-- A week that is evaluated is evaluated again with the tag as it was; another is no miss below one
that is evaluated already. -/
def fitsIn (rows : List WeeklyEvaluation) (row : WeeklyEvaluation) (adminTags : List String) :
    Bool :=
  match findEvaluation rows row.userId row.weekStart with
  | some stored => stored.tagRevokedAfterThisWeek =
      (hasRoyalHostTag toLowerCase adminTags && config.consecutiveMissWeeksLimit ≤
        stored.consecutiveMissCountAfterThisWeek)
  | none => config.autoRevokeEarningThreshold ≤ row.earningsTotal ||
      !missedWeek rows row.userId (row.weekStart + 1)

def evaluationJournal : Journal EvaluationDb EvaluationEvent where
  entries := EvaluationDb.history
  clear db
    | .evaluated row priorEval adminTags =>
      getLatestEvaluation db.evaluations row.userId row.weekStart = priorEval &&
        followsOn config row priorEval && fitsIn toLowerCase config db.evaluations row adminTags
    | .revoked userId _ adminTags => (db.adminTags userId).all fun now =>
        withoutRoyalHostTag toLowerCase now = withoutRoyalHostTag toLowerCase adminTags
    | .tagsSet .. | .finished .. => true

/-- The rows as clear evaluations store them. -/
structure EvaluationsSound (db : EvaluationDb) : Prop where
  keys : (db.evaluations.map (·.key)).Nodup
  earned : ∀ row ∈ db.evaluations, row.earningsTotal = db.earningsOf row.userId row.weekStart ∧
    row.targetMet = decide (config.autoRevokeEarningThreshold ≤ row.earningsTotal)
  counts : ∀ row ∈ db.evaluations, row.consecutiveMissCountAfterThisWeek =
    missRun (missedWeek db.evaluations row.userId) row.weekStart

/-- What the history says of the rows and the tags. -/
structure EvaluationLawful (start : UserId → Option (List String)) (db : EvaluationDb) : Prop where
  sound : EvaluationsSound config db
  kept : ∀ row prior tags, .evaluated row prior tags ∈ db.history → row ∈ db.evaluations ∧
    row.tagRevokedAfterThisWeek = (hasRoyalHostTag toLowerCase tags &&
      config.consecutiveMissWeeksLimit ≤ row.consecutiveMissCountAfterThisWeek)
  revoked : ∀ userId week read, .revoked userId week read ∈ db.history →
    ∃ row prior tags, .evaluated row prior tags ∈ db.history ∧ row.key = (userId, week) ∧
      config.consecutiveMissWeeksLimit ≤ row.consecutiveMissCountAfterThisWeek
  finished : ∀ userId week, .finished userId week ∈ db.history →
    ∃ row prior tags, .evaluated row prior tags ∈ db.history ∧ row.key = (userId, week) ∧
      (row.tagRevokedAfterThisWeek = true → ∃ read, .revoked userId week read ∈ db.history)
  tags : ∀ userId, db.adminTags userId = tagsAfter toLowerCase (start userId) userId db.history

end Clear

/-! ### Runs of missed weeks -/

section Weeks

variable {missed : Week → Bool} {week : Week}

private def missRunBefore (missed : Week → Bool) : Week → Nat
  | 0 => 0
  | week + 1 => missRun missed week

private theorem missRun_eq (missed : Week → Bool) (week : Week) :
    missRun missed week = if missed week then missRunBefore missed week + 1 else 0 := by
  cases week <;> rfl

private theorem missRun_update {value : Bool} (apart : missed week = false)
    (ends : value = false ∨ missed (week + 1) = false) {other : Week} (different : other ≠ week) :
    missRun (Function.update missed week value) other = missRun missed other := by
  induction other with
  | zero => simp [missRun, Function.update_of_ne different]
  | succ other ih =>
    simp only [missRun, Function.update_of_ne different]
    by_cases next : other = week
    · subst next
      rcases ends with hit | none
      · have same : Function.update missed other value = missed := by
          rw [hit, ← apart, Function.update_eq_self]
        rw [same]
      · simp [none]
    · rw [ih next]

private theorem missRunBefore_update {value : Bool} (apart : missed week = false)
    (ends : value = false ∨ missed (week + 1) = false) :
    missRunBefore (Function.update missed week value) week = missRunBefore missed week := by
  cases week with
  | zero => rfl
  | succ earlier => exact missRun_update apart ends (Nat.ne_of_lt (Nat.lt_succ_self _))

end Weeks

/-! ### The table of evaluations -/

section Table

variable {rows : List WeeklyEvaluation} {userId : UserId} {week : Week} {row : WeeklyEvaluation}

private theorem findEvaluation_mem (found : findEvaluation rows userId week = some row) :
    row ∈ rows ∧ row.userId = userId ∧ row.weekStart = week := by
  have named := List.find?_some found
  simp only [WeeklyEvaluation.key, Prod.mk.injEq, decide_eq_true_eq] at named
  exact ⟨List.mem_of_find?_eq_some found, named⟩

private theorem findEvaluation_of_mem (keys : (rows.map (·.key)).Nodup) (member : row ∈ rows) :
    findEvaluation rows row.userId row.weekStart = some row :=
  Keyed.find?_of_mem keys member

private theorem missedWeek_append (absent : findEvaluation rows row.userId row.weekStart = none)
    (userId : UserId) :
    missedWeek (rows ++ [row]) userId = if row.userId = userId then
      Function.update (missedWeek rows userId) row.weekStart (!row.targetMet)
      else missedWeek rows userId := by
  funext week
  by_cases own : row.key = (userId, week)
  · obtain ⟨rfl, rfl⟩ := Prod.mk.inj own
    rw [if_pos rfl, Function.update_self, missedWeek, findEvaluation, List.find?_append]
    rw [findEvaluation] at absent
    simp [absent, own]
  · have same : missedWeek (rows ++ [row]) userId week = missedWeek rows userId week := by
      rw [missedWeek, findEvaluation, List.find?_append]
      simp [own, missedWeek, findEvaluation]
    rw [same]
    split
    next user =>
      have other : week ≠ row.weekStart := fun equal => own (by rw [equal, ← user]; rfl)
      rw [Function.update_of_ne other]
    next => rfl

private theorem upsertEvaluation_stored (keys : (rows.map (·.key)).Nodup) (member : row ∈ rows) :
    upsertEvaluation rows row = rows := by
  have found := findEvaluation_of_mem keys member
  rw [upsertEvaluation, if_pos (Option.isSome_iff_exists.mpr ⟨row, found⟩)]
  refine (List.map_congr_left fun other inside => ?_).trans (List.map_id rows)
  split
  next same => exact List.inj_on_of_nodup_map keys member inside same.symm
  next => rfl

private theorem getLatestEvaluation_eq_none
    (noEarlier : getLatestEvaluation rows userId week = none) {earlier : Week}
    (before : earlier < week) : findEvaluation rows userId earlier = none := by
  rw [getLatestEvaluation, List.argmax_eq_none, List.filter_eq_nil_iff] at noEarlier
  cases found : findEvaluation rows userId earlier with
  | none => rfl
  | some stored =>
    obtain ⟨member, own, sameWeek⟩ := findEvaluation_mem found
    exact absurd (by simp [own, sameWeek, before]) (noEarlier stored member)

private theorem getLatestEvaluation_eq_some {prior : WeeklyEvaluation}
    (latest : getLatestEvaluation rows userId week = some prior) :
    prior ∈ rows ∧ prior.userId = userId ∧ prior.weekStart < week ∧
      ∀ earlier, prior.weekStart < earlier → earlier < week →
        findEvaluation rows userId earlier = none := by
  have member := List.argmax_mem latest
  simp only [List.mem_filter, Bool.and_eq_true, decide_eq_true_eq] at member
  refine ⟨member.1, member.2.1, member.2.2, fun earlier after before => ?_⟩
  cases found : findEvaluation rows userId earlier with
  | none => rfl
  | some stored =>
    obtain ⟨inside, own, sameWeek⟩ := findEvaluation_mem found
    have listed : stored ∈ rows.filter fun row => row.userId = userId && row.weekStart < week := by
      simp [inside, own, sameWeek, before]
    have atMost := List.le_of_mem_argmax listed latest
    exact absurd (sameWeek ▸ atMost) (Nat.not_le.mpr after)

variable {db : EvaluationDb} {config : EvaluationConfig}

private theorem priorMissCount_eq (sound : EvaluationsSound config db)
    {priorEval : Option WeeklyEvaluation}
    (latest : getLatestEvaluation db.evaluations userId week = priorEval)
    (follows : ∀ prior ∈ priorEval,
      prior.weekStart + 1 = week ∨ prior.consecutiveMissCountAfterThisWeek = 0) :
    (priorEval.map (·.consecutiveMissCountAfterThisWeek)).getD 0 =
      missRunBefore (missedWeek db.evaluations userId) week := by
  have noneBefore : ∀ earlier, week = earlier + 1 →
      findEvaluation db.evaluations userId earlier = none →
      missRunBefore (missedWeek db.evaluations userId) week = 0 := by
    rintro earlier rfl absent
    simp [missRunBefore, missRun_eq, missedWeek, absent]
  cases priorEval with
  | none =>
    cases week with
    | zero => rfl
    | succ earlier =>
      have absent := getLatestEvaluation_eq_none latest (Nat.lt_succ_self earlier)
      exact (noneBefore earlier rfl absent).symm
  | some prior =>
    obtain ⟨member, rfl, before, between⟩ := getLatestEvaluation_eq_some latest
    rw [Option.map_some, Option.getD_some]
    by_cases next : prior.weekStart + 1 = week
    · subst next
      exact sound.counts prior member
    · have zero := (follows prior rfl).resolve_left next
      rw [zero]
      cases week with
      | zero => rfl
      | succ earlier =>
        have later : prior.weekStart < earlier :=
          Nat.lt_of_le_of_ne (Nat.le_of_lt_succ before) fun same => next (congrArg (· + 1) same)
        have absent := between earlier later (Nat.lt_succ_self earlier)
        exact (noneBefore earlier rfl absent).symm

end Table

/-- Earnings and users stay, and the history grows. -/
structure EvaluationGrows (s t : EvaluationDb) : Prop where
  earnings : t.earnings = s.earnings
  users : ∀ userId, (s.adminTags userId).isSome → (t.adminTags userId).isSome
  history : ∀ event ∈ s.history, event ∈ t.history

theorem EvaluationGrows.trans {s t u : EvaluationDb} (first : EvaluationGrows s t)
    (second : EvaluationGrows t u) : EvaluationGrows s u :=
  ⟨second.earnings.trans first.earnings,
    fun userId known => second.users userId (first.users userId known),
    fun event old => second.history event (first.history event old)⟩

/-! ### What the writes do -/

section Writes

variable {toLowerCase : String → String} {config : EvaluationConfig}
  {start : UserId → Option (List String)} {db : EvaluationDb} {userId : UserId} {week : Week}
  {priorEval : Option WeeklyEvaluation} {adminTags : List String}

private theorem sound_append {row : WeeklyEvaluation} (sound : EvaluationsSound config db)
    (absent : findEvaluation db.evaluations row.userId row.weekStart = none)
    (earned : row.earningsTotal = db.earningsOf row.userId row.weekStart ∧
      row.targetMet = decide (config.autoRevokeEarningThreshold ≤ row.earningsTotal))
    (count : row.consecutiveMissCountAfterThisWeek = if row.targetMet then 0 else
      missRunBefore (missedWeek db.evaluations row.userId) row.weekStart + 1)
    (ends : row.targetMet = true ∨ missedWeek db.evaluations row.userId (row.weekStart + 1) = false)
    (history : List EvaluationEvent) :
    EvaluationsSound config { db with evaluations := db.evaluations ++ [row], history } := by
  have notMissed : missedWeek db.evaluations row.userId row.weekStart = false := by
    simp [missedWeek, absent]
  have hit : (!row.targetMet) = false ∨
      missedWeek db.evaluations row.userId (row.weekStart + 1) = false := by
    simpa using ends
  have apart : ∀ other ∈ db.evaluations, other.key ≠ row.key := by
    intro other member same
    obtain ⟨user, weekStart⟩ := Prod.mk.inj same
    rw [← user, ← weekStart, findEvaluation_of_mem sound.keys member] at absent
    cases absent
  refine ⟨?_, ?_, ?_⟩
  · rw [List.map_append, List.map_singleton]
    refine List.nodup_append.mpr ⟨sound.keys, List.nodup_singleton _, ?_⟩
    intro key old other isNew
    obtain ⟨stored, member, rfl⟩ := List.mem_map.mp old
    rw [List.mem_singleton.mp isNew]
    exact apart stored member
  · intro stored member
    rcases List.mem_append.mp member with old | isNew
    · exact sound.earned stored old
    · rw [List.mem_singleton.mp isNew]
      exact earned
  · intro stored member
    rcases List.mem_append.mp member with old | isNew
    · have before := sound.counts stored old
      rw [missedWeek_append absent]
      split
      next user =>
        have other : stored.weekStart ≠ row.weekStart :=
          fun same => apart stored old (by rw [WeeklyEvaluation.key, ← user, same]; rfl)
        rw [← user] at before ⊢
        rw [missRun_update notMissed hit other]
        exact before
      next => exact before
    · rw [List.mem_singleton.mp isNew, missedWeek_append absent, if_pos rfl, missRun_eq,
        Function.update_self, missRunBefore_update notMissed hit, count]
      cases row.targetMet <;> rfl

/-- What a row says, in terms of the week it is for. -/
private structure Evaluates (toLowerCase : String → String) (config : EvaluationConfig)
    (db : EvaluationDb) (adminTags : List String) (row : WeeklyEvaluation) : Prop where
  earned : row.earningsTotal = db.earningsOf row.userId row.weekStart ∧
    row.targetMet = decide (config.autoRevokeEarningThreshold ≤ row.earningsTotal)
  count : row.consecutiveMissCountAfterThisWeek = if row.targetMet then 0 else
    missRunBefore (missedWeek db.evaluations row.userId) row.weekStart + 1
  flag : row.tagRevokedAfterThisWeek = (hasRoyalHostTag toLowerCase adminTags &&
    config.consecutiveMissWeeksLimit ≤ row.consecutiveMissCountAfterThisWeek)

private theorem evaluate_evaluates (sound : EvaluationsSound config db)
    (latest : getLatestEvaluation db.evaluations userId week = priorEval)
    (follows : followsOn config
      (evaluate toLowerCase config userId week (db.earningsOf userId week) priorEval adminTags)
      priorEval = true) :
    Evaluates toLowerCase config db adminTags
      (evaluate toLowerCase config userId week (db.earningsOf userId week) priorEval
        adminTags) := by
  refine ⟨⟨rfl, rfl⟩, ?_, rfl⟩
  simp only [followsOn, Bool.or_eq_true, decide_eq_true_eq, Option.all_eq_true] at follows
  by_cases met : config.autoRevokeEarningThreshold ≤ db.earningsOf userId week
  · simp [evaluate, met]
  · have counted := priorMissCount_eq sound latest (follows.resolve_left met)
    simp [evaluate, met, counted]

/-- A clear evaluation leaves the table as it is or adds its row, and its row is there. -/
private theorem upsert_sound {row : WeeklyEvaluation} (sound : EvaluationsSound config db)
    (evaluates : Evaluates toLowerCase config db adminTags row)
    (fits : fitsIn toLowerCase config db.evaluations row adminTags = true)
    (history : List EvaluationEvent) :
    EvaluationsSound config
        { db with evaluations := upsertEvaluation db.evaluations row, history } ∧
      row ∈ upsertEvaluation db.evaluations row ∧
      ∀ stored ∈ db.evaluations, stored ∈ upsertEvaluation db.evaluations row := by
  obtain ⟨earned, count, flag⟩ := evaluates
  unfold fitsIn at fits
  cases found : findEvaluation db.evaluations row.userId row.weekStart with
  | some stored =>
    obtain ⟨member, user, weekStart⟩ := findEvaluation_mem found
    simp only [found, decide_eq_true_eq] at fits
    have before := sound.earned stored member
    have total : stored.earningsTotal = row.earningsTotal := by
      rw [before.1, user, weekStart, earned.1]
    have met : stored.targetMet = row.targetMet := by rw [before.2, total, earned.2]
    have same : stored.consecutiveMissCountAfterThisWeek =
        row.consecutiveMissCountAfterThisWeek := by
      have missed : missedWeek db.evaluations row.userId row.weekStart = !row.targetMet := by
        simp [missedWeek, found, met]
      rw [sound.counts stored member, count, missRun_eq, user, weekStart, missed]
      cases row.targetMet <;> rfl
    have again : stored = row := by
      rw [same, ← flag] at fits
      cases stored
      cases row
      simp_all
    have unchanged := upsertEvaluation_stored sound.keys (again ▸ member)
    rw [unchanged]
    exact ⟨⟨sound.keys, sound.earned, sound.counts⟩, again ▸ member, fun _ old => old⟩
  | none =>
    simp only [found, Bool.or_eq_true, decide_eq_true_eq, Bool.not_eq_true'] at fits
    have added : upsertEvaluation db.evaluations row = db.evaluations ++ [row] := by
      rw [upsertEvaluation, found]
      rfl
    have ends : row.targetMet = true ∨
        missedWeek db.evaluations row.userId (row.weekStart + 1) = false := by
      simpa [earned.2] using fits
    rw [added]
    exact ⟨sound_append sound found earned count ends history, by simp,
      fun stored old => by simp [old]⟩

private theorem tagsAfter_append (history : List EvaluationEvent) (event : EvaluationEvent)
    (tags : Option (List String)) :
    tagsAfter toLowerCase tags userId (history ++ [event]) =
      tagsStep toLowerCase userId (tagsAfter toLowerCase tags userId history) event := by
  rw [tagsAfter, List.foldl_append]
  rfl

variable (lawful : EvaluationLawful toLowerCase config start db)
include lawful

private theorem upsert_lawful
    (clear : (evaluationJournal toLowerCase config).clear db (.evaluated
      (evaluate toLowerCase config userId week (db.earningsOf userId week) priorEval adminTags)
      priorEval adminTags) = true) :
    EvaluationLawful toLowerCase config start (db.upsert
      (evaluate toLowerCase config userId week (db.earningsOf userId week) priorEval adminTags)
      priorEval adminTags) := by
  simp only [evaluationJournal, Bool.and_eq_true, decide_eq_true_eq] at clear
  obtain ⟨⟨latest, follows⟩, fits⟩ := clear
  have evaluates : Evaluates toLowerCase config db adminTags _ :=
    evaluate_evaluates lawful.sound latest follows
  obtain ⟨sound, present, stays⟩ := upsert_sound lawful.sound evaluates fits _
  refine ⟨sound, ?_, ?_, ?_, fun other => ?_⟩
  · intro row prior tags recorded
    rcases List.mem_append.mp recorded with old | isNew
    · obtain ⟨stored, flag⟩ := lawful.kept row prior tags old
      exact ⟨stays row stored, flag⟩
    · obtain ⟨rfl, rfl, rfl⟩ : row = _ ∧ prior = _ ∧ tags = _ := by simpa using isNew
      exact ⟨present, evaluates.flag⟩
  · intro other otherWeek read recorded
    have old : .revoked other otherWeek read ∈ db.history := by
      simpa [EvaluationDb.upsert] using recorded
    obtain ⟨row, prior, tags, evaluated, rest⟩ := lawful.revoked other otherWeek read old
    exact ⟨row, prior, tags, List.mem_append_left _ evaluated, rest⟩
  · intro other otherWeek recorded
    have old : .finished other otherWeek ∈ db.history := by
      simpa [EvaluationDb.upsert] using recorded
    obtain ⟨row, prior, tags, evaluated, key, done⟩ := lawful.finished other otherWeek old
    refine ⟨row, prior, tags, List.mem_append_left _ evaluated, key, fun flag => ?_⟩
    obtain ⟨read, taken⟩ := done flag
    exact ⟨read, List.mem_append_left _ taken⟩
  · simp only [EvaluationDb.upsert, tagsAfter_append]
    exact lawful.tags other

private theorem record_lawful {event : EvaluationEvent} {after : UserId → Option (List String)}
    (other : ∀ row prior tags, event ≠ .evaluated row prior tags)
    (revoked : ∀ userId week read, event = .revoked userId week read →
      ∃ row prior tags, .evaluated row prior tags ∈ db.history ∧ row.key = (userId, week) ∧
        config.consecutiveMissWeeksLimit ≤ row.consecutiveMissCountAfterThisWeek)
    (finished : ∀ userId week, event = .finished userId week →
      ∃ row prior tags, .evaluated row prior tags ∈ db.history ∧ row.key = (userId, week) ∧
        (row.tagRevokedAfterThisWeek = true → ∃ read, .revoked userId week read ∈ db.history))
    (tags : ∀ userId, after userId = tagsStep toLowerCase userId (db.adminTags userId) event) :
    EvaluationLawful toLowerCase config start
      { db with adminTags := after, history := db.history ++ [event] } := by
  refine ⟨⟨lawful.sound.keys, lawful.sound.earned, lawful.sound.counts⟩, ?_, ?_, ?_, ?_⟩
  · intro row prior tags recorded
    rcases List.mem_append.mp recorded with old | isNew
    · exact lawful.kept row prior tags old
    · exact absurd (List.mem_singleton.mp isNew).symm (other row prior tags)
  · intro userId week read recorded
    have found : ∃ row prior tags, .evaluated row prior tags ∈ db.history ∧
        row.key = (userId, week) ∧
        config.consecutiveMissWeeksLimit ≤ row.consecutiveMissCountAfterThisWeek := by
      rcases List.mem_append.mp recorded with old | isNew
      · exact lawful.revoked userId week read old
      · exact revoked userId week read (List.mem_singleton.mp isNew).symm
    obtain ⟨row, prior, tags, evaluated, rest⟩ := found
    exact ⟨row, prior, tags, List.mem_append_left _ evaluated, rest⟩
  · intro userId week recorded
    have found : ∃ row prior tags, .evaluated row prior tags ∈ db.history ∧
        row.key = (userId, week) ∧
        (row.tagRevokedAfterThisWeek = true → ∃ read, .revoked userId week read ∈ db.history) := by
      rcases List.mem_append.mp recorded with old | isNew
      · exact lawful.finished userId week old
      · exact finished userId week (List.mem_singleton.mp isNew).symm
    obtain ⟨row, prior, tags, evaluated, key, done⟩ := found
    refine ⟨row, prior, tags, List.mem_append_left _ evaluated, key, fun flag => ?_⟩
    obtain ⟨read, taken⟩ := done flag
    exact ⟨read, List.mem_append_left _ taken⟩
  · intro userId
    rw [tagsAfter_append, ← lawful.tags userId]
    exact tags userId

private theorem tagsSet_lawful (userId : UserId) (adminTags : List String) :
    EvaluationLawful toLowerCase config start
      (db.setAdminTags userId adminTags (.tagsSet userId adminTags)) := by
  refine record_lawful lawful nofun nofun nofun fun other => ?_
  by_cases own : userId = other
  · subst own
    simp [tagsStep]
  · simp [tagsStep, own, Function.update_of_ne (Ne.symm own)]

/-- The Royal tag is taken from tags that have not changed otherwise since they were read. -/
private theorem revoked_lawful (known : (db.adminTags userId).isSome)
    (clear : (evaluationJournal toLowerCase config).clear db
      (.revoked userId week adminTags) = true)
    (evaluated : ∃ row prior tags, .evaluated row prior tags ∈ db.history ∧
      row.key = (userId, week) ∧
      config.consecutiveMissWeeksLimit ≤ row.consecutiveMissCountAfterThisWeek) :
    EvaluationLawful toLowerCase config start (db.setAdminTags userId
      (normalizeAdminTags toLowerCase (withoutRoyalHostTag toLowerCase adminTags))
      (.revoked userId week adminTags)) := by
  refine record_lawful lawful nofun ?_ nofun fun other => ?_
  · rintro _ _ _ ⟨⟩
    exact evaluated
  · by_cases own : userId = other
    · subst own
      obtain ⟨now, isNow⟩ := Option.isSome_iff_exists.mp known
      simp only [evaluationJournal, isNow, Option.all_some, decide_eq_true_eq] at clear
      simp [tagsStep, isNow, clear]
    · simp [tagsStep, own, Function.update_of_ne (Ne.symm own)]

private theorem finish_lawful
    (evaluated : ∃ row prior tags, .evaluated row prior tags ∈ db.history ∧
      row.key = (userId, week) ∧
      (row.tagRevokedAfterThisWeek = true → ∃ read, .revoked userId week read ∈ db.history)) :
    EvaluationLawful toLowerCase config start (db.finish userId week) := by
  refine record_lawful lawful nofun nofun ?_ fun _ => rfl
  rintro _ _ ⟨⟩
  exact evaluated

end Writes

/-! ### Runs -/

section Runs

variable (toLowerCase : String → String) (config : EvaluationConfig)
  (start : UserId → Option (List String))

def evaluationAgreement : Agreement EvaluationRequest EvaluationDb EvaluationLock where
  inv := EvaluationLawful toLowerCase config start
  grows := EvaluationGrows
  same _ _ _ := True
  step _ _ _ := True
  allows _ := (evaluationJournal toLowerCase config).Allowed
  grows_refl _ := ⟨rfl, fun _ known => known, fun _ old => old⟩
  grows_trans _ _ _ := EvaluationGrows.trans
  same_refl _ _ := trivial
  same_trans _ _ _ _ _ _ := trivial

variable {toLowerCase config start} {request : EvaluationRequest} {s : EvaluationDb}

/-- A handler that keeps the rows lawful and leaves a state with `post` if it returns. -/
private abbrev Evaluated (toLowerCase : String → String) (config : EvaluationConfig)
    (start : UserId → Option (List String)) (request : EvaluationRequest)
    (p : EvaluationProg Unit) (post : EvaluationDb → Prop) (s : EvaluationDb) : Prop :=
  p.Relies (evaluationAgreement toLowerCase config start) request
    (fun outcome t => outcome = .ok () → post t) ∅ id s

variable {post : EvaluationDb → Prop}

private theorem autocommit_evaluated {row : EvaluationLock} {f : EvaluationDb → EvaluationDb}
    (kept : ∀ u, EvaluationGrows s u → EvaluationLawful toLowerCase config start u →
      (∀ event, (f u).history = u.history ++ [event] →
        (evaluationJournal toLowerCase config).clear u event = true) →
      EvaluationLawful toLowerCase config start (f u) ∧ EvaluationGrows u (f u) ∧ post (f u)) :
    Evaluated toLowerCase config start request (Prog.autocommit row f) post s := by
  refine Prog.relies_autocommit fun t first _ u second allowed => ?_
  obtain ⟨lawful, grows, after⟩ := kept u (first.grows.trans second.grows) second.inv allowed
  exact ⟨⟨lawful, grows, fun _ _ => trivial, trivial⟩, fun _ => after⟩

private theorem then_evaluated (mid : EvaluationDb → Prop) {p : EvaluationProg Unit}
    {k : Unit → EvaluationProg Unit} (first : Evaluated toLowerCase config start request p mid s)
    (rest : ∀ t, EvaluationGrows s t → mid t →
      Evaluated toLowerCase config start request (k ()) post t) :
    Evaluated toLowerCase config start request (p >>= k) post s :=
  first.grown.bind (fun _ t left => rest t left.1 (left.2 rfl)) fun _ _ _ thrown => nomatch thrown

private theorem setAdminTags_grows (u : EvaluationDb) (userId : UserId) (adminTags : List String)
    (event : EvaluationEvent) : EvaluationGrows u (u.setAdminTags userId adminTags event) := by
  refine ⟨rfl, fun other known => ?_, fun _ old => List.mem_append_left _ old⟩
  by_cases own : other = userId
  · simp [EvaluationDb.setAdminTags, own]
  · simpa [EvaluationDb.setAdminTags, Function.update_of_ne own] using known

private theorem setTags_evaluated {userId : UserId} {tags : List String}
    {event : List String → EvaluationEvent}
    (kept : ∀ u, EvaluationGrows s u → EvaluationLawful toLowerCase config start u →
      (u.adminTags userId).isSome → (evaluationJournal toLowerCase config).clear u
        (event (normalizeAdminTags toLowerCase tags)) = true →
      EvaluationLawful toLowerCase config start (u.setAdminTags userId
          (normalizeAdminTags toLowerCase tags) (event (normalizeAdminTags toLowerCase tags))) ∧
        post (u.setAdminTags userId (normalizeAdminTags toLowerCase tags)
          (event (normalizeAdminTags toLowerCase tags)))) :
    Evaluated toLowerCase config start request (setTags toLowerCase userId tags event) post s := by
  unfold setTags
  refine Prog.relies_select fun t first => ?_
  cases known : t.adminTags userId with
  | none => exact Prog.relies_fail nofun
  | some _ =>
    refine (autocommit_evaluated fun u grows lawful clear => ?_ :
      Evaluated toLowerCase config start request _ _ t)
    have still := grows.users userId (by simp [known])
    obtain ⟨after, holds⟩ := kept u (first.grows.trans grows) lawful still (clear _ rfl)
    exact ⟨after, setAdminTags_grows u _ _ _, holds⟩

private theorem storeEvaluation_evaluated {userId : UserId} {weekStart : Week}
    {priorEval : Option WeeklyEvaluation} {adminTags : List String} {earningsTotal : Nat}
    (total : earningsTotal = s.earningsOf userId weekStart) :
    Evaluated toLowerCase config start request (storeEvaluation toLowerCase
      (evaluate toLowerCase config userId weekStart earningsTotal priorEval adminTags)
      priorEval adminTags) (fun _ => True) s := by
  generalize isRow :
    evaluate toLowerCase config userId weekStart earningsTotal priorEval adminTags = row
  have key : row.key = (row.userId, row.weekStart) := rfl
  have limit : row.tagRevokedAfterThisWeek = true →
      config.consecutiveMissWeeksLimit ≤ row.consecutiveMissCountAfterThisWeek := by
    intro flag
    rw [← isRow] at flag ⊢
    simpa [evaluate] using (Bool.and_eq_true_iff.mp flag).2
  refine then_evaluated (fun t => .evaluated row priorEval adminTags ∈ t.history) ?_
    fun t _ stored => ?_
  · refine autocommit_evaluated fun u grows lawful clear => ?_
    have same : earningsTotal = u.earningsOf userId weekStart := by
      rw [total, EvaluationDb.earningsOf, EvaluationDb.earningsOf, grows.earnings]
    subst same
    subst isRow
    exact ⟨upsert_lawful lawful (clear _ rfl),
      ⟨rfl, fun _ known => known, fun _ old => List.mem_append_left _ old⟩,
      by simp [EvaluationDb.upsert]⟩
  · refine then_evaluated (fun v => row.tagRevokedAfterThisWeek = true →
      .revoked row.userId row.weekStart adminTags ∈ v.history) ?_ fun v since taken => ?_
    · unfold Prog.when
      split
      next flag =>
        refine setTags_evaluated fun u grows lawful known clear => ?_
        have evaluated := grows.history _ stored
        exact ⟨revoked_lawful lawful known clear
            ⟨row, priorEval, adminTags, evaluated, key, limit flag⟩,
          fun _ => by simp [EvaluationDb.setAdminTags]⟩
      next flag => exact Prog.relies_pure fun _ flagged => absurd flagged flag
    · refine autocommit_evaluated fun u grows lawful _ => ?_
      have evaluated := grows.history _ (since.history _ stored)
      have done : row.tagRevokedAfterThisWeek = true →
          ∃ read, .revoked row.userId row.weekStart read ∈ u.history :=
        fun flag => ⟨adminTags, grows.history _ (taken flag)⟩
      exact ⟨finish_lawful lawful ⟨row, priorEval, adminTags, evaluated, key, done⟩,
        ⟨rfl, fun _ known => known, fun _ old => List.mem_append_left _ old⟩, trivial⟩

private theorem evaluateUser_evaluated (weekStart : Week) (userId : UserId) :
    Evaluated toLowerCase config start request (evaluateUser toLowerCase config weekStart userId)
      (fun _ => True) s := by
  unfold evaluateUser
  refine Prog.relies_select fun t _ => Prog.relies_select fun u second =>
    Prog.relies_select fun v third => ?_
  have same : t.earningsOf userId weekStart = v.earningsOf userId weekStart := by
    rw [EvaluationDb.earningsOf, EvaluationDb.earningsOf, third.grows.earnings,
      second.grows.earnings]
  cases v.adminTags userId with
  | none => exact Prog.relies_pure fun _ => trivial
  | some adminTags => exact storeEvaluation_evaluated same

private theorem handleBatch_evaluated (weekStart : Week) (userIds : List UserId) :
    Evaluated toLowerCase config start request (handleBatch toLowerCase config weekStart userIds)
      (fun _ => True) s := by
  induction userIds generalizing s with
  | nil => exact Prog.relies_pure fun _ => trivial
  | cons userId userIds ih =>
    exact then_evaluated _ (evaluateUser_evaluated weekStart userId) fun _ _ _ => ih

private theorem evaluationHandler_evaluated (request : EvaluationRequest) (s : EvaluationDb) :
    (evaluationHandler toLowerCase config request).Abides (evaluationAgreement toLowerCase config start) request s := by
  cases request with
  | batch weekStart userIds =>
    exact (handleBatch_evaluated weekStart userIds).imp fun _ _ _ => trivial
  | setTags userId tags =>
    have served : Evaluated toLowerCase config start (.setTags userId tags)
        (setTags toLowerCase userId tags (.tagsSet userId)) (fun _ => True) s :=
      setTags_evaluated fun u _ lawful _ _ => ⟨tagsSet_lawful lawful userId _, trivial⟩
    exact served.imp fun _ _ _ => trivial

end Runs

/-- In a clear run a host has one evaluation a week, and evaluating a week again stores the same
row; the counts are the lengths of the runs of missed weeks; the tag is taken where the count has
reached the limit, and only there; and all other changes of the tags are kept. -/
theorem weeklyEvaluation_faithful {toLowerCase : String → String} {config : EvaluationConfig}
    {db : EvaluationDb} (fresh : db.history = []) (sound : EvaluationsSound config db)
    {c : Config EvaluationRequest EvaluationDb EvaluationLock EvaluationError}
    (run : Reaches (evaluationHandler toLowerCase config)
      (evaluationJournal toLowerCase config).Orderly (Config.idle db) c) :
    EvaluationsSound config c.db ∧
      (∀ row prior tags, .evaluated row prior tags ∈ c.db.history → row ∈ c.db.evaluations) ∧
      (∀ userId week read, .revoked userId week read ∈ c.db.history →
        ∃ row ∈ c.db.evaluations, row.key = (userId, week) ∧
          config.consecutiveMissWeeksLimit ≤ row.consecutiveMissCountAfterThisWeek) ∧
      (∀ row prior tags, .evaluated row prior tags ∈ c.db.history →
        .finished row.userId row.weekStart ∈ c.db.history →
        hasRoyalHostTag toLowerCase tags = true →
        config.consecutiveMissWeeksLimit ≤ row.consecutiveMissCountAfterThisWeek →
        ∃ read, .revoked row.userId row.weekStart read ∈ c.db.history) ∧
      ∀ userId, c.db.adminTags userId =
        tagsAfter toLowerCase (db.adminTags userId) userId c.db.history := by
  have base : EvaluationLawful toLowerCase config db.adminTags db :=
    ⟨sound, by simp [fresh], by simp [fresh], by simp [fresh], by simp [fresh, tagsAfter]⟩
  have observed := run.observed (fun request s _ => evaluationHandler_evaluated request s)
    (fun _ _ orderly => orderly)
    (base : (evaluationAgreement toLowerCase config db.adminTags).inv db)
  have lawful : EvaluationLawful toLowerCase config db.adminTags c.db := observed.inv
  refine ⟨lawful.sound, fun row prior tags recorded => (lawful.kept row prior tags recorded).1,
    fun userId week read recorded => ?_, fun row prior tags recorded finished tagged limit => ?_,
    lawful.tags⟩
  · obtain ⟨row, prior, tags, evaluated, key, limit⟩ := lawful.revoked userId week read recorded
    exact ⟨row, (lawful.kept row prior tags evaluated).1, key, limit⟩
  · obtain ⟨row', prior', tags', evaluated, key, taken⟩ :=
      lawful.finished row.userId row.weekStart finished
    obtain ⟨stored, flag⟩ := lawful.kept row prior tags recorded
    -- the primary key makes the two rows of this host and week one
    have same : row' = row := List.inj_on_of_nodup_map lawful.sound.keys
      (lawful.kept row' prior' tags' evaluated).1 stored key
    refine taken ?_
    rw [same, flag]
    simp [tagged, limit]

/-! ### Runs of a few batches -/

/-- User 1 is a Royal Host without earnings. -/
def taggedHost : EvaluationDb :=
  { adminTags := fun userId => if userId = 1 then some ["Royal Host", "vip"] else none }

private theorem sound_taggedHost {config : EvaluationConfig} :
    EvaluationsSound config taggedHost :=
  ⟨List.nodup_nil, by simp [taggedHost], by simp [taggedHost]⟩

/-- Two missed weeks, the first evaluated twice, and other tags in between. -/
theorem weeklyEvaluation_faithful_second :
    ∃ c : Config EvaluationRequest EvaluationDb EvaluationLock EvaluationError,
    (c.db.evaluations.map (·.consecutiveMissCountAfterThisWeek) = [1, 2] ∧
      c.db.adminTags 1 = some ["agency"]) ∧
    EvaluationsSound ⟨1000, 2⟩ c.db ∧
    (∀ row prior tags, .evaluated row prior tags ∈ c.db.history → row ∈ c.db.evaluations) ∧
    (∀ userId week read, .revoked userId week read ∈ c.db.history →
      ∃ row ∈ c.db.evaluations, row.key = (userId, week) ∧
        2 ≤ row.consecutiveMissCountAfterThisWeek) ∧
    (∀ row prior tags, .evaluated row prior tags ∈ c.db.history →
      .finished row.userId row.weekStart ∈ c.db.history →
      hasRoyalHostTag toLowerAscii tags = true → 2 ≤ row.consecutiveMissCountAfterThisWeek →
      ∃ read, .revoked row.userId row.weekStart read ∈ c.db.history) ∧
    ∀ userId, c.db.adminTags userId =
      tagsAfter toLowerAscii (taggedHost.adminTags userId) userId c.db.history := by
  obtain ⟨c, run, now⟩ : ∃ c, Reaches (evaluationHandler toLowerAscii ⟨1000, 2⟩)
      (evaluationJournal toLowerAscii ⟨1000, 2⟩).Orderly (Config.idle taggedHost) c ∧
      c.db.evaluations.map (·.consecutiveMissCountAfterThisWeek) = [1, 2] ∧
      c.db.adminTags 1 = some ["agency"] :=
    exists_reaches_checked (evaluationJournal toLowerAscii ⟨1000, 2⟩).orderly_of_checks [
      serve (.batch 1 [1]) 0 7,
      serve (.setTags 1 [" royal host", "agency"]) 1 3, serve (.batch 1 [1, 2]) 2 10,
      serve (.batch 2 [1]) 3 10] (by decide +kernel)
  exact ⟨c, now, weeklyEvaluation_faithful rfl sound_taggedHost run⟩

/-- A week that was not evaluated does not break the run of misses, and the tag goes a week early;
evaluating a week again after the tag is gone stores another row; and the tags that the console
stores while a batch runs are lost. -/
theorem weeklyEvaluation_not_faithful :
    (∃ c, Reaches (evaluationHandler toLowerAscii ⟨1000, 2⟩) (fun _ _ => True)
      (Config.idle taggedHost) c ∧
      c.db.evaluations.map (fun row => (row.weekStart, row.consecutiveMissCountAfterThisWeek)) =
        [(1, 1), (3, 2)] ∧
      missRun (missedWeek c.db.evaluations 1) 3 = 1 ∧ c.db.adminTags 1 = some ["vip"]) ∧
    (∃ c, Reaches (evaluationHandler toLowerAscii ⟨1000, 1⟩) (fun _ _ => True)
      (Config.idle taggedHost) c ∧
      (c.db.evaluations.map (·.tagRevokedAfterThisWeek) = [false] ∧
        .evaluated ⟨1, 1, 0, false, 1, true⟩ none ["Royal Host", "vip"] ∈ c.db.history)) ∧
    ∃ c, Reaches (evaluationHandler toLowerAscii ⟨1000, 1⟩) (fun _ _ => True)
      (Config.idle taggedHost) c ∧
      .tagsSet 1 ["Royal Host", "vip", "agency"] ∈ c.db.history ∧
      c.db.adminTags 1 = some ["vip"] := by
  refine ⟨?_, ?_, ?_⟩
  · exact exists_reaches [serve (.batch 1 [1]) 0 7,
      serve (.batch 3 [1]) 1 10] (by decide +kernel)
  · exact exists_reaches [serve (.batch 1 [1]) 0 10,
      serve (.batch 1 [1]) 1 7] (by decide +kernel)
  · exact exists_reaches [serve (.batch 1 [1]) 0 5,
      serve (.setTags 1 ["Royal Host", "vip", "agency"]) 1 3,
      List.replicate 3 (.advance 0)] (by decide +kernel)

end OlNode.Rewards
