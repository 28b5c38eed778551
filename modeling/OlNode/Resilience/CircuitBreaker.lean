import Mathlib.Data.List.Basic

/-!
# Circuit breaker

The breaker knows only its own state and two times; the calls that it protects overlap, and their
outcomes arrive in any order. The documented machine `Phase` knows which call is the probe. The
breaker follows it in exactly those runs in which no call arrives past the half-open timeout while a
probe is out, and in which no other call's success arrives while the breaker is half-open.
-/
namespace OlNode.Resilience

inductive CircuitState where
  | closed | opened | halfOpen
  deriving DecidableEq

structure CircuitBreakerOptions where
  failureThreshold : Option Nat := none
  openDurationMs : Option Int := none
  halfOpenTimeoutMs : Option Int := none

def DEFAULT_FAILURE_THRESHOLD : Nat := 5

def DEFAULT_OPEN_MS : Int := 10000

def DEFAULT_HALF_OPEN_TIMEOUT_MS : Int := 2000

structure CircuitBreaker where
  state : CircuitState
  failures : Nat
  lastFailureAt : Int
  halfOpenProbeAt : Int
  failureThreshold : Nat
  openDurationMs : Int
  halfOpenTimeoutMs : Int

namespace CircuitBreaker

def make (options : CircuitBreakerOptions) : CircuitBreaker where
  state := .closed
  failures := 0
  lastFailureAt := 0
  halfOpenProbeAt := 0
  failureThreshold := options.failureThreshold.getD DEFAULT_FAILURE_THRESHOLD
  openDurationMs := options.openDurationMs.getD DEFAULT_OPEN_MS
  halfOpenTimeoutMs := options.halfOpenTimeoutMs.getD DEFAULT_HALF_OPEN_TIMEOUT_MS

variable (breaker : CircuitBreaker)

/-- The breaker after the call; what is returned is its state. -/
def getState (now : Int) : CircuitBreaker :=
  if breaker.state = .opened then
    if breaker.openDurationMs ≤ now - breaker.lastFailureAt then
      { breaker with state := .halfOpen, halfOpenProbeAt := now }
    else breaker
  else breaker

/-- The clock is read in `getState` and, in the half-open state, once more. -/
def shouldSkip (now now' : Int) : Bool × CircuitBreaker :=
  let breaker := breaker.getState now
  match breaker.state with
  | .closed => (false, breaker)
  | .opened => (true, breaker)
  | .halfOpen =>
    if breaker.halfOpenTimeoutMs ≤ now' - breaker.halfOpenProbeAt then (false, breaker)
    else (true, breaker)

def recordSuccess : CircuitBreaker :=
  if breaker.state = .halfOpen then { breaker with state := .closed, failures := 0 }
  else if breaker.state = .closed then { breaker with failures := 0 }
  else breaker

def recordFailure (now : Int) : CircuitBreaker :=
  let breaker := { breaker with lastFailureAt := now }
  if breaker.state = .halfOpen then { breaker with state := .opened }
  else if breaker.state = .closed then
    let breaker := { breaker with failures := breaker.failures + 1 }
    if breaker.failureThreshold ≤ breaker.failures then { breaker with state := .opened }
    else breaker
  else breaker

end CircuitBreaker

/-! ### Runs -/

/-- What a protected call does with the breaker. -/
inductive Event where
  | shouldSkip (call : Nat) (now now' : Int)
  | recordSuccess (call : Nat)
  | recordFailure (call : Nat) (now : Int)

/-- The clock is read in this order. -/
def Event.readings : Event → List Int
  | .shouldSkip _ now now' => [now, now']
  | .recordSuccess _ => []
  | .recordFailure _ now => [now]

inductive Observation where
  | admitted (call : Nat) (now : Int)
  | skipped (call : Nat) (now : Int)
  | succeeded (call : Nat)
  | failed (call : Nat) (now : Int)

/-- The probes are the calls that were admitted while the breaker was not closed, and whose outcomes
have not been recorded. -/
structure World where
  breaker : CircuitBreaker
  probes : List Nat

namespace World

def start (options : CircuitBreakerOptions) : World where
  breaker := .make options
  probes := []

def observe (world : World) : Event → Observation
  | .shouldSkip call now now' =>
    if (world.breaker.shouldSkip now now').1 then .skipped call now else .admitted call now
  | .recordSuccess call => .succeeded call
  | .recordFailure call now => .failed call now

def step (world : World) : Event → World
  | .shouldSkip call now now' =>
    let (skip, breaker) := world.breaker.shouldSkip now now'
    { breaker
      probes := if !skip && breaker.state ≠ .closed then call :: world.probes else world.probes }
  | .recordSuccess call =>
    { breaker := world.breaker.recordSuccess
      probes := world.probes.filter (· ≠ call) }
  | .recordFailure call now =>
    { breaker := world.breaker.recordFailure now
      probes := world.probes.filter (· ≠ call) }

end World

/-! ### The documented machine -/

/-- In `opened`, the probe is one that was out when the failure of another call opened the breaker
again. -/
inductive Phase where
  | closed (failures : Nat)
  | opened (since : Int) (probe : Option Nat)
  | probing (since : Int) (probe : Nat)

def Phase.isClosed : Phase → Bool
  | .closed _ => true
  | _ => false

/-- The phases that may follow; none, if what is observed must not happen. -/
def Phase.next (breaker : CircuitBreaker) : Phase → Observation → List Phase
  -- Every call is admitted until there are as many failures in a row as the threshold.
  | .closed failures, .admitted _ _ => [.closed failures]
  | .closed _, .skipped _ _ => []
  | .closed _, .succeeded _ => [.closed 0]
  | .closed failures, .failed _ now =>
    if breaker.failureThreshold ≤ failures + 1 then [.opened now none]
    else [.closed (failures + 1)]
  -- After the time that it stays open, one call may be admitted, as the probe.
  | .opened since probe, .skipped _ _ => [.opened since probe]
  | .opened since none, .admitted call now =>
    if since + breaker.openDurationMs ≤ now then [.probing since call] else []
  | .opened _ (some _), .admitted _ _ => []
  | .opened since probe, .succeeded call =>
    if probe = some call then [.closed 0, .opened since none] else [.opened since probe]
  | .opened _ probe, .failed call now => [.opened now (probe.filter (· ≠ call))]
  -- Its outcome closes the breaker or opens it again.
  | .probing since probe, .skipped _ _ => [.probing since probe]
  | .probing _ _, .admitted _ _ => []
  | .probing since probe, .succeeded call =>
    if call = probe then [.closed 0] else [.probing since probe]
  | .probing _ probe, .failed call now => [.opened now (if call = probe then none else some probe)]

/-- The next phases in which the machine is closed if and only if the breaker is. -/
def successors (phase : Phase) (world : World) (event : Event) : List Phase :=
  (phase.next world.breaker (world.observe event)).filter fun phase =>
    phase.isClosed = decide ((world.step event).breaker.state = .closed)

/-- The run is one of the documented machine. -/
def follows : Phase → World → List Event → Bool
  | _, _, [] => true
  | phase, world, event :: events =>
    (successors phase world event).any fun phase => follows phase (world.step event) events

/-! ### The steps that keep to it -/

/-- A call that comes to a half-open breaker so late is admitted, whoever else was. -/
def pastHalfOpenTimeout (breaker : CircuitBreaker) (now now' : Int) : Prop :=
  match breaker.state with
  | .closed => False
  | .opened => breaker.openDurationMs ≤ now - breaker.lastFailureAt ∧
      breaker.halfOpenTimeoutMs ≤ now' - now
  | .halfOpen => breaker.halfOpenTimeoutMs ≤ now' - breaker.halfOpenProbeAt

/-- No call past the half-open timeout while a probe is out, and no success of another call in the
half-open state. -/
def OneProbe (world : World) : Event → Prop
  | .shouldSkip _ now now' =>
    pastHalfOpenTimeout world.breaker now now' → world.probes = []
  | .recordSuccess call => world.breaker.state = .halfOpen → call ∈ world.probes
  | .recordFailure _ _ => True

def OneProbeRun : World → List Event → Prop
  | _, [] => True
  | world, event :: events => OneProbe world event ∧ OneProbeRun (world.step event) events

/-- The machine is in this phase, at a time when the clock shows no less than `clock`. -/
def Agrees (clock : Int) (world : World) : Phase → Prop
  | .closed failures =>
    world.breaker.state = .closed ∧ world.breaker.failures = failures ∧ world.probes = []
  | .opened since probe =>
    world.breaker.lastFailureAt = since ∧ world.probes = probe.toList ∧
      (world.breaker.state = .opened ∨
        world.breaker.state = .halfOpen ∧ since + world.breaker.openDurationMs ≤ clock)
  | .probing since probe =>
    world.breaker.state = .halfOpen ∧ world.breaker.lastFailureAt = since ∧ world.probes = [probe]

section Step

variable {clock : Int} {world : World} {phase : Phase}

/-! ### One step -/

namespace CircuitBreaker

variable {breaker : CircuitBreaker} {now now' : Int}

theorem shouldSkip_closed (closed : breaker.state = .closed) :
    breaker.shouldSkip now now' = (false, breaker) := by
  simp [shouldSkip, getState, closed]

theorem shouldSkip_opened (opened : breaker.state = .opened)
    (early : ¬ breaker.openDurationMs ≤ now - breaker.lastFailureAt) :
    breaker.shouldSkip now now' = (true, breaker) := by
  simp [shouldSkip, getState, opened, early]

/-- After the time that it stays open, the breaker turns half-open, and admits a call only past the
half-open timeout. -/
theorem shouldSkip_halfOpen (waited : breaker.state = .opened ∧
      breaker.openDurationMs ≤ now - breaker.lastFailureAt ∨ breaker.state = .halfOpen) :
    ∃ halfOpen : CircuitBreaker, halfOpen.state = .halfOpen ∧
      halfOpen.lastFailureAt = breaker.lastFailureAt ∧
      halfOpen.openDurationMs = breaker.openDurationMs ∧
      (pastHalfOpenTimeout breaker now now' → breaker.shouldSkip now now' = (false, halfOpen)) ∧
      (¬ pastHalfOpenTimeout breaker now now' →
        breaker.shouldSkip now now' = (true, halfOpen)) := by
  rcases waited with ⟨opened, waited⟩ | halfOpen
  · refine ⟨{ breaker with state := .halfOpen, halfOpenProbeAt := now }, rfl, rfl, rfl, ?_, ?_⟩
    · intro past
      simp only [pastHalfOpenTimeout, opened] at past
      simp [shouldSkip, getState, opened, waited, past.2]
    · intro notPast
      simp only [pastHalfOpenTimeout, opened, waited, true_and] at notPast
      simp [shouldSkip, getState, opened, waited, notPast]
  · refine ⟨breaker, halfOpen, rfl, rfl, ?_, ?_⟩
    · intro past
      simp only [pastHalfOpenTimeout, halfOpen] at past
      simp [shouldSkip, getState, halfOpen, past]
    · intro notPast
      simp only [pastHalfOpenTimeout, halfOpen] at notPast
      simp [shouldSkip, getState, halfOpen, notPast]

end CircuitBreaker

/-- What one step does to a machine that agrees: the phase that follows is determined, and there is
one only if the step keeps to `OneProbe`. -/
def Advances (clock : Int) (world : World) (phase : Phase) (event : Event) : Prop :=
  (OneProbe world event → ∃ after, successors phase world event = [after] ∧
      Agrees clock (world.step event) after) ∧
    (¬ OneProbe world event → successors phase world event = [])

theorem advances_of_none {event : Event} {clock' : Int} (broken : ¬ OneProbe world event)
    (none : successors phase world event = []) : Advances clock' world phase event :=
  ⟨fun kept => absurd kept broken, fun _ => none⟩

theorem advances_of_one {event : Event} {clock' : Int} (after : Phase)
    (kept : OneProbe world event) (one : successors phase world event = [after])
    (agrees : Agrees clock' (world.step event) after) : Advances clock' world phase event :=
  ⟨fun _ => ⟨after, one, agrees⟩, fun broken => absurd kept broken⟩

/-- A step in which the answer is that the call is to be skipped. -/
theorem advances_skipped {call : Nat} {now now' : Int} {breaker : CircuitBreaker}
    (skips : world.breaker.shouldSkip now now' = (true, breaker))
    (notPast : ¬ pastHalfOpenTimeout world.breaker now now') (notClosed : phase.isClosed = false)
    (stays : breaker.state ≠ .closed)
    (agrees : Agrees now { breaker, probes := world.probes } phase) :
    Advances now world phase (.shouldSkip call now now') := by
  have stepped : world.step (.shouldSkip call now now') = { breaker, probes := world.probes } := by
    simp [World.step, skips]
  have same : phase.next world.breaker (world.observe (.shouldSkip call now now')) = [phase] := by
    cases phase <;> simp_all [Phase.next, World.observe, Phase.isClosed]
  refine advances_of_one phase (fun past => absurd past notPast) ?_ (stepped ▸ agrees)
  simp [successors, same, stepped, notClosed, stays]

variable (agrees : Agrees clock world phase) (call : Nat)
include agrees call

theorem advances_shouldSkip {now : Int} (now' : Int) (later : clock ≤ now) :
    Advances now world phase (.shouldSkip call now now') := by
  cases phase with
  | closed failures =>
    obtain ⟨closed, rfl, none⟩ := agrees
    have admits := @CircuitBreaker.shouldSkip_closed world.breaker now now' closed
    apply advances_of_one (.closed world.breaker.failures)
    · simp [OneProbe, pastHalfOpenTimeout, closed]
    · simp [successors, Phase.next, World.observe, World.step, admits, closed, Phase.isClosed]
    · simp [Agrees, World.step, admits, closed, none]
  | opened since probe =>
    obtain ⟨rfl, probes, state⟩ := agrees
    by_cases early : world.breaker.state = .opened ∧
        ¬ world.breaker.openDurationMs ≤ now - world.breaker.lastFailureAt
    · apply advances_skipped (CircuitBreaker.shouldSkip_opened early.1 early.2)
      · simp [pastHalfOpenTimeout, early.1, early.2]
      · rfl
      · simp [early.1]
      · exact ⟨rfl, probes, Or.inl early.1⟩
    · have waited : world.breaker.state = .opened ∧
          world.breaker.openDurationMs ≤ now - world.breaker.lastFailureAt ∨
            world.breaker.state = .halfOpen := by
        rcases state with opened | ⟨halfOpen, -⟩
        · exact Or.inl ⟨opened, by by_contra short; exact early ⟨opened, short⟩⟩
        · exact Or.inr halfOpen
      have time : world.breaker.lastFailureAt + world.breaker.openDurationMs ≤ now := by
        rcases state with opened | ⟨-, reached⟩
        · by_contra short
          exact early ⟨opened, by omega⟩
        · omega
      obtain ⟨halfOpen, isHalfOpen, failed, duration, admits, skips⟩ :=
        @CircuitBreaker.shouldSkip_halfOpen world.breaker now now' waited
      by_cases past : pastHalfOpenTimeout world.breaker now now'
      · cases probe with
        | none =>
          have answer := admits past
          apply advances_of_one (.probing world.breaker.lastFailureAt call)
          · exact fun _ => probes
          · simp [successors, Phase.next, World.observe, World.step, answer, isHalfOpen, time,
              Phase.isClosed]
          · simp [Agrees, World.step, answer, isHalfOpen, failed, probes]
        | some probe =>
          -- A second probe.
          apply advances_of_none
          · simp [OneProbe, past, probes]
          · simp [successors, Phase.next, World.observe, admits past]
      · apply advances_skipped (skips past) past rfl (by simp [isHalfOpen])
        exact ⟨failed, probes, Or.inr ⟨isHalfOpen, by rw [duration]; exact time⟩⟩
  | probing since probe =>
    obtain ⟨state, rfl, probes⟩ := agrees
    obtain ⟨halfOpen, isHalfOpen, failed, duration, admits, skips⟩ :=
      @CircuitBreaker.shouldSkip_halfOpen world.breaker now now' (Or.inr state)
    by_cases past : pastHalfOpenTimeout world.breaker now now'
    · apply advances_of_none
      · simp [OneProbe, past, probes]
      · simp [successors, Phase.next, World.observe, admits past]
    · apply advances_skipped (skips past) past rfl (by simp [isHalfOpen])
      exact ⟨isHalfOpen, failed, probes⟩

theorem advances_recordSuccess : Advances clock world phase (.recordSuccess call) := by
  cases phase with
  | closed failures =>
    obtain ⟨closed, rfl, none⟩ := agrees
    apply advances_of_one (.closed 0)
    · simp [OneProbe, closed]
    · simp [successors, Phase.next, World.observe, World.step, CircuitBreaker.recordSuccess, closed,
        Phase.isClosed]
    · simp [Agrees, World.step, CircuitBreaker.recordSuccess, closed, none]
  | opened since probe =>
    obtain ⟨rfl, probes, opened | ⟨halfOpen, reached⟩⟩ := agrees
    · -- The open breaker does not react, but a probe's outcome is recorded.
      apply advances_of_one (.opened world.breaker.lastFailureAt (probe.filter (· ≠ call)))
      · simp [OneProbe, opened]
      · cases probe with
        | none =>
          simp [successors, Phase.next, World.observe, World.step, CircuitBreaker.recordSuccess,
            opened, Phase.isClosed]
        | some probe =>
          by_cases own : probe = call <;>
            simp [successors, Phase.next, World.observe, World.step, CircuitBreaker.recordSuccess,
              opened, Phase.isClosed, own, Option.filter]
      · cases probe with
        | none => simp [Agrees, World.step, CircuitBreaker.recordSuccess, opened, probes]
        | some probe =>
          by_cases own : probe = call <;>
            simp [Agrees, World.step, CircuitBreaker.recordSuccess, opened, probes, own,
              Option.filter]
    · by_cases own : probe = some call
      · subst own
        apply advances_of_one (.closed 0)
        · simp [OneProbe, probes]
        · simp [successors, Phase.next, World.observe, World.step, CircuitBreaker.recordSuccess,
            halfOpen, Phase.isClosed]
        · simp [Agrees, World.step, CircuitBreaker.recordSuccess, halfOpen, probes]
      · apply advances_of_none
        · simp [OneProbe, halfOpen, probes, Ne.symm, own]
        · simp [successors, Phase.next, World.observe, World.step, CircuitBreaker.recordSuccess,
            halfOpen, Phase.isClosed, own]
  | probing since probe =>
    obtain ⟨state, rfl, probes⟩ := agrees
    by_cases own : call = probe
    · subst own
      apply advances_of_one (.closed 0)
      · simp [OneProbe, probes]
      · simp [successors, Phase.next, World.observe, World.step, CircuitBreaker.recordSuccess,
          state, Phase.isClosed]
      · simp [Agrees, World.step, CircuitBreaker.recordSuccess, state, probes]
    · apply advances_of_none
      · simp [OneProbe, state, probes, own]
      · simp [successors, Phase.next, World.observe, World.step, CircuitBreaker.recordSuccess,
          state, Phase.isClosed, own]

theorem advances_recordFailure (now : Int) :
    Advances now world phase (.recordFailure call now) := by
  cases phase with
  | closed failures =>
    obtain ⟨closed, rfl, none⟩ := agrees
    by_cases reached : world.breaker.failureThreshold ≤ world.breaker.failures + 1
    · apply advances_of_one (.opened now Option.none)
      · exact trivial
      · simp [successors, Phase.next, World.observe, World.step, CircuitBreaker.recordFailure,
          closed, reached, Phase.isClosed]
      · simp [Agrees, World.step, CircuitBreaker.recordFailure, closed, reached, none]
    · apply advances_of_one (.closed (world.breaker.failures + 1))
      · exact trivial
      · simp [successors, Phase.next, World.observe, World.step, CircuitBreaker.recordFailure,
          closed, reached, Phase.isClosed]
      · simp [Agrees, World.step, CircuitBreaker.recordFailure, closed, reached, none]
  | opened since probe =>
    obtain ⟨rfl, probes, state⟩ := agrees
    have opens : world.breaker.recordFailure now =
        { world.breaker with state := .opened, lastFailureAt := now } := by
      rcases state with opened | ⟨halfOpen, -⟩ <;> simp_all [CircuitBreaker.recordFailure]
    apply advances_of_one (.opened now (probe.filter (· ≠ call)))
    · exact trivial
    · simp [successors, Phase.next, World.observe, World.step, opens, Phase.isClosed]
    · cases probe with
      | none => simp [Agrees, opens, World.step, probes]
      | some probe =>
        by_cases own : probe = call <;>
          simp [Agrees, opens, World.step, probes, own, Option.filter]
  | probing since probe =>
    obtain ⟨state, rfl, probes⟩ := agrees
    by_cases own : call = probe
    · apply advances_of_one (.opened now none)
      · exact trivial
      · simp [successors, Phase.next, World.observe, World.step, CircuitBreaker.recordFailure,
          state, Phase.isClosed, own]
      · simp [Agrees, World.step, CircuitBreaker.recordFailure, state, probes, own]
    · apply advances_of_one (.opened now (some probe))
      · exact trivial
      · simp [successors, Phase.next, World.observe, World.step, CircuitBreaker.recordFailure,
          state, Phase.isClosed, own]
      · simp [Agrees, World.step, CircuitBreaker.recordFailure, state, probes, Ne.symm own]

end Step

/-! ### Runs -/

theorem follows_iff_of_agrees {clock : Int} {world : World} {phase : Phase}
    (agrees : Agrees clock world phase) {events : List Event}
    (later : ∀ now ∈ events.flatMap Event.readings, clock ≤ now)
    (ordered : (events.flatMap Event.readings).Pairwise (· ≤ ·)) :
    follows phase world events = true ↔ OneProbeRun world events := by
  induction events generalizing clock world phase with
  | nil => simp [follows, OneProbeRun]
  | cons event events ih =>
    rw [List.flatMap_cons] at later ordered
    -- The clock after the step is below all that is read later.
    obtain ⟨clock', advances, later'⟩ : ∃ clock', Advances clock' world phase event ∧
        ∀ now ∈ events.flatMap Event.readings, clock' ≤ now := by
      cases event with
      | shouldSkip call now now' =>
        simp only [Event.readings, List.cons_append, List.nil_append] at later ordered
        obtain ⟨least, -⟩ := List.pairwise_cons.mp ordered
        have advances := advances_shouldSkip agrees call now' (later now List.mem_cons_self)
        exact ⟨now, advances, fun next member => least next (List.mem_cons_of_mem _ member)⟩
      | recordSuccess call =>
        exact ⟨clock, advances_recordSuccess agrees call, later⟩
      | recordFailure call now =>
        exact ⟨now, advances_recordFailure agrees call now, (List.pairwise_cons.mp ordered).1⟩
    obtain ⟨kept, broken⟩ := advances
    rw [follows, OneProbeRun]
    by_cases one : OneProbe world event
    · obtain ⟨after, only, agrees'⟩ := kept one
      have rest := ih agrees' later' (List.pairwise_append.mp ordered).2.1
      simpa [only, one] using rest
    · simp [broken one, one]

/-- A breaker follows the documented machine in the runs whose steps all keep to `OneProbe`. -/
theorem follows_iff (options : CircuitBreakerOptions) {events : List Event}
    (ordered : (events.flatMap Event.readings).Pairwise (· ≤ ·)) :
    follows (.closed 0) (.start options) events = true ↔ OneProbeRun (.start options) events := by
  have agrees : ∀ clock, Agrees clock (.start options) (.closed 0) := fun _ => ⟨rfl, rfl, rfl⟩
  cases times : events.flatMap Event.readings with
  | nil => exact follows_iff_of_agrees (agrees 0) (by simp [times]) ordered
  | cons first rest =>
    apply follows_iff_of_agrees (agrees first) ?_ ordered
    rw [times] at ordered ⊢
    intro now member
    rcases List.mem_cons.mp member with rfl | member
    · exact Int.le_refl _
    · exact (List.pairwise_cons.mp ordered).1 now member

/-- Five calls fail at once, and the next finds the breaker half-open ten seconds later. -/
def outage : List Event :=
  (List.range 5).map (Event.shouldSkip · 1000 1000) ++
    (List.range 5).map (Event.recordFailure · 1000) ++ [Event.shouldSkip 5 11000 11000]

/-- A probe that succeeds closes the breaker. -/
theorem follows_iff_recovery :
    OneProbeRun (.start {}) (outage ++ [Event.shouldSkip 6 13000 13000, .recordSuccess 6,
      .shouldSkip 7 14000 14000]) :=
  (follows_iff {} (by decide)).mp (by decide)

/-- Two calls are admitted past the half-open timeout; and the success of a call that was admitted
before the outage closes the breaker, with no probe at all. -/
theorem follows_fails :
    follows (.closed 0) (.start {}) (outage ++ [.shouldSkip 6 13000 13000,
        .shouldSkip 7 13000 13000]) = false ∧
      follows (.closed 0) (.start {}) (.shouldSkip 8 1000 1000 :: outage ++
        [.recordSuccess 8]) = false := by
  decide

end OlNode.Resilience
