import OlNode.Schema

/-!
# The credited seconds of a live session

While a session is live its seconds are computed from the clock and the uncounted time in Redis;
when it ends the same number is stored, and read back from then on. A stored 0 is read as a missing
value, for which the wall clock stands in, so a session whose uncounted time covers all of it is
credited in full as soon as it has ended.
-/
namespace OlNode.Rewards

/-! ### Sessions -/

/-- The columns of `live_streams` that the seconds depend on. -/
structure SessionDurationRow where
  startedAt : Option Time
  endedAt : Option Time
  isLive : Bool
  effectiveDurationSeconds : Int

/-- What Redis holds about a room, as parsed: what is not a number counts as 0 or as missing. -/
structure RoomClock where
  uncountedSeconds : Int
  cameraOffAt : Option Int

/-- Whole seconds by the wall clock; instants are milliseconds. -/
def grossDurationSeconds (startedAt endedAt : Time) : Int :=
  max 0 (((endedAt : Int) - startedAt) / 1000)

def computeEffectiveDurationSeconds (startedAt endedAt : Time) (uncountedSeconds : Int) : Int :=
  let uncountedSec := max 0 uncountedSeconds
  max 0 (grossDurationSeconds startedAt endedAt - uncountedSec)

/-- A camera that is off counts from its second minute on. -/
def readUncountedLiveSeconds (room : RoomClock) (asOf : Time) : Int :=
  match room.cameraOffAt with
  | none => room.uncountedSeconds
  | some cameraOffAt =>
    let offSec := ((asOf : Int) - cameraOffAt) / 1000
    if 60 < offSec then room.uncountedSeconds + (offSec - 60) else room.uncountedSeconds

def provisionalEffectiveDurationSeconds (room : RoomClock) (startedAt asOf : Time) : Int :=
  computeEffectiveDurationSeconds startedAt asOf (readUncountedLiveSeconds room asOf)

def effectiveSecondsForSession (s : SessionDurationRow) (room : RoomClock) (now : Time) : Int :=
  match s.startedAt with
  | none => 0
  | some startedAt =>
    if s.isLive && s.endedAt.isNone then provisionalEffectiveDurationSeconds room startedAt now
    else
      let stored := max 0 s.effectiveDurationSeconds
      if 0 < stored then stored
      else match s.endedAt with
        | some endedAt => grossDurationSeconds startedAt endedAt
        | none => 0

def liveRow (startedAt : Time) (stored : Int) : SessionDurationRow :=
  { startedAt := some startedAt, endedAt := none, isLive := true
    effectiveDurationSeconds := stored }

/-- What stopping it writes. -/
def endedRow (room : RoomClock) (startedAt endedAt : Time) : SessionDurationRow :=
  { startedAt := some startedAt, endedAt := some endedAt, isLive := false
    effectiveDurationSeconds := computeEffectiveDurationSeconds startedAt endedAt
      (readUncountedLiveSeconds room endedAt) }

/-! ### What an ended session is credited -/

section Ended

variable {room : RoomClock} {startedAt endedAt : Time}

theorem computeEffective_bounds (startedAt endedAt : Time) (uncounted : Int) :
    0 ≤ computeEffectiveDurationSeconds startedAt endedAt uncounted ∧
      computeEffectiveDurationSeconds startedAt endedAt uncounted ≤
        grossDurationSeconds startedAt endedAt := by
  have gross : 0 ≤ grossDurationSeconds startedAt endedAt := by
    unfold grossDurationSeconds
    omega
  unfold computeEffectiveDurationSeconds
  simp only
  omega

/-- The value stored at the end, unless that is 0; then the wall clock. -/
theorem effectiveSeconds_ended (later : RoomClock) (now : Time) :
    effectiveSecondsForSession (endedRow room startedAt endedAt) later now =
      if 0 < computeEffectiveDurationSeconds startedAt endedAt
          (readUncountedLiveSeconds room endedAt)
      then computeEffectiveDurationSeconds startedAt endedAt (readUncountedLiveSeconds room endedAt)
      else grossDurationSeconds startedAt endedAt := by
  have bounds := computeEffective_bounds startedAt endedAt (readUncountedLiveSeconds room endedAt)
  simp only [effectiveSecondsForSession, endedRow, Bool.false_and, Bool.false_eq_true, if_false,
    Int.max_eq_right bounds.1]

theorem effectiveSeconds_live (stored : Int) (now : Time) :
    effectiveSecondsForSession (liveRow startedAt stored) room now =
      computeEffectiveDurationSeconds startedAt now (readUncountedLiveSeconds room now) := rfl

end Ended

/-- Ending a session at this instant does not change its credited time, whatever Redis and the clock
say afterwards. -/
structure CreditKept (room : RoomClock) (startedAt endedAt : Time) : Prop where
  computed : ∀ later now, effectiveSecondsForSession (endedRow room startedAt endedAt) later now =
    computeEffectiveDurationSeconds startedAt endedAt (readUncountedLiveSeconds room endedAt)
  nonneg : ∀ later now, 0 ≤ effectiveSecondsForSession (endedRow room startedAt endedAt) later now
  within : ∀ later now, effectiveSecondsForSession (endedRow room startedAt endedAt) later now ≤
    grossDurationSeconds startedAt endedAt
  provisional : ∀ later now stored,
    effectiveSecondsForSession (endedRow room startedAt endedAt) later now ≤
      effectiveSecondsForSession (liveRow startedAt stored) room endedAt

/-- The credited time is kept just when some of the session counts, or it had no whole second. -/
theorem credit_kept_iff (room : RoomClock) (startedAt endedAt : Time) :
    CreditKept room startedAt endedAt ↔
      readUncountedLiveSeconds room endedAt < grossDurationSeconds startedAt endedAt ∨
        grossDurationSeconds startedAt endedAt = 0 := by
  let effective := computeEffectiveDurationSeconds startedAt endedAt
    (readUncountedLiveSeconds room endedAt)
  have gross : 0 ≤ grossDurationSeconds startedAt endedAt := by
    unfold grossDurationSeconds
    omega
  obtain ⟨nonneg, within⟩ :=
    computeEffective_bounds startedAt endedAt (readUncountedLiveSeconds room endedAt)
  have counted : 0 < effective ↔
      readUncountedLiveSeconds room endedAt < grossDurationSeconds startedAt endedAt ∧
        0 < grossDurationSeconds startedAt endedAt := by
    simp only [effective, computeEffectiveDurationSeconds]
    omega
  constructor
  · intro kept
    have same := kept.computed room endedAt
    rw [effectiveSeconds_ended] at same
    split at same
    next some => exact .inl (counted.mp some).1
    next none =>
      -- The stored 0 was replaced by the wall clock, which must have been 0 as well.
      have zero : ¬ 0 < effective := none
      right
      omega
  · intro condition
    have same : ∀ later now,
        effectiveSecondsForSession (endedRow room startedAt endedAt) later now = effective := by
      intro later now
      rw [effectiveSeconds_ended]
      split
      · rfl
      next none =>
        have zero : ¬ 0 < effective := none
        have := counted.not.mp zero
        omega
    constructor
    · exact same
    · intro later now
      rw [same later now]
      exact nonneg
    · intro later now
      rw [same later now]
      exact within
    · intro later now stored
      exact Int.le_of_eq ((same later now).trans (effectiveSeconds_live ..).symm)

/-- An hour with the camera off from the start on is credited in full once the session has ended. -/
theorem credit_not_kept : ¬ ∀ (room : RoomClock) (startedAt endedAt : Time),
    CreditKept room startedAt endedAt := by
  intro kept
  have hour := (kept ⟨3600, none⟩ 0 3600000).computed ⟨0, none⟩ 3600000
  revert hour
  decide

end OlNode.Rewards
