import OlNode.VideoCall.Charges

/-!
# What the internal ledger does to a session that is also ticked

The session row and the internal ledger's own rows change only under the lock on the session, also
when ticks raise its counters in between.
-/
namespace OlNode.VideoCalls

open ReadCommitted InternalLedger

/-- What a commit of the request may do to the sessions. The ticks' own commits are followed by
what they owe. -/
def Request.MayMove (request : Request) (rows rows' : Nat → CallRows) : Prop :=
  match request with
  | .ledger call => InternalLedger.MayMove MovesSession call rows rows'
  | _ => True

theorem mayMove_refl (request : Request) (rows : Nat → CallRows) : request.MayMove rows rows := by
  cases request with
  | ledger call => exact fun _ => .inl rfl
  | _ => trivial

theorem modifySession_ownId {sessionId : Nat} {v : CallRows}
    {f : VideoCallSession → VideoCallSession} (keeps : ∀ session, (f session).id = session.id)
    (ownId : OwnId sessionId v) : OwnId sessionId { v with session := v.session.map f } := by
  intro updated now
  obtain ⟨session, found, rfl⟩ := Option.map_eq_some_iff.mp now
  rw [keeps]
  exact ownId session found

/-- The internal ledger writes a session under its own id. -/
theorem ownId_follows : Follows OwnId MovesSession where
  ownId valid := valid
  step {sessionId v v' request} valid moved := by
    refine ⟨?_, moved⟩
    cases request with
    | callAccept input =>
      obtain ⟨-, session, session', coin, point, booked, -⟩ := moved
      rintro updated now
      cases booked.after.symm.trans now
      exact booked.own.trans (valid session booked.before)
    | callMinute input =>
      obtain ⟨-, session, session', coin, point, booked, -⟩ := moved
      rintro updated now
      cases booked.after.symm.trans now
      exact booked.own.trans (valid session booked.before)
    | createSession session =>
      obtain ⟨rfl, -, rfl⟩ := moved
      rintro updated now
      cases now
      rfl
    | closeSession closed status =>
      obtain ⟨rfl, rfl⟩ := moved
      exact modifySession_ownId (fun _ => rfl) valid
    | _ => exact moved.elim

/-- Ticks and ends change a session under its lock, too. -/
theorem update_bind_safe {α : Type} {request : Request} {sessionId : Nat}
    {f : VideoCallSession → VideoCallSession} {k : Unit → LedgerProg α}
    (keeps : ∀ session, (f session).id = session.id)
    (client : ∀ rows rows', request.MayMove rows rows')
    (rest : (k ()).Safe (sessionParts OwnId) request.MayMove .initial) :
    ((Prog.autocommit (.session sessionId) fun db => MoneyDb.modifySession db sessionId f) >>= k).Safe
      (sessionParts OwnId) request.MayMove .initial := by
  refine Prog.Safe.transaction_bind (modifySession_safe fun v ownId => ⟨?_, rest⟩)
  refine Knowledge.settles_own _ (modifySession_ownId keeps ownId) fun committed _ _ => ?_
  exact client _ _

theorem tickTx_outside (env : Environment) (sessionId : Nat) (session : VideoCallSession)
    (minute : Nat) (callerDebit : Int) :
    (tickTx env sessionId session minute callerDebit).Touches callParts.outside := by
  have frame := callWalletFrame
  refine .bind (lockWalletsInOrder_touches frame _) fun _ => ?_
  refine .bind (Tx.touches_select (Parts.outside_blind _ _)) fun coinBalance => ?_
  refine Tx.touches_ensure_bind trivial fun _ => ?_
  refine .bind (insertCoin_touches frame ⟨rfl, rfl⟩) fun _ => ?_
  refine .bind (applyCredit_touches frame.toSideFrame _ _ _) fun _ => ?_
  refine .bind (Tx.touches_select (Parts.outside_blind _ _)) fun pointBalance => ?_
  refine .bind (insertPoint_touches frame ⟨rfl, rfl⟩) fun ptEntry => ?_
  refine .bind (applyCommission_touches frame _ _ _ _ _) fun _ => ?_
  exact .bind (applyCredit_touches frame.toSideFrame _ _ _) fun _ => trivial

theorem afterTick_safe (env : Environment) (sessionId : Nat) (callerId : UserId)
    (session : VideoCallSession) (callerDebit : Int) :
    (afterTick sessionId session callerDebit).Safe (sessionParts OwnId)
      (Request.MayMove (.tick env sessionId callerId)) .initial := by
  refine update_bind_safe (fun _ => rfl) (fun _ _ => trivial) ?_
  refine Prog.safe_select_bind.mpr fun db _ => ?_
  split
  · trivial
  · exact update_bind_safe (fun _ => rfl) (fun _ _ => trivial) trivial

theorem tick_safe (env : Environment) (sessionId : Nat) (callerId : UserId) :
    (tick env sessionId callerId).Safe (sessionParts OwnId)
      (Request.MayMove (.tick env sessionId callerId)) .initial := by
  refine Prog.safe_select_bind.mpr fun db _ => ?_
  split
  · trivial
  next session _ =>
    refine Prog.safe_ensure_bind (fun _ => trivial) fun _ => ?_
    refine Prog.safe_ensure_bind (fun _ => trivial) fun _ => ?_
    refine Prog.safe_select_bind.mpr fun db' _ => ?_
    split
    · unfold Prog.when
      split
      · exact update_bind_safe (fun _ => rfl) (fun _ _ => trivial) trivial
      · trivial
    · refine Prog.Safe.transaction_bind (Tx.Touches.safe (tickTx_outside env _ _ _ _) fun _ => ?_)
      refine ⟨Prog.settles_initial (mayMove_refl _), ?_⟩
      exact afterTick_safe env sessionId callerId session _

theorem endCall_safe (sessionId : Nat) (requesterId : UserId) :
    (endCall sessionId requesterId).Safe (sessionParts OwnId)
      (Request.MayMove (.endCall sessionId requesterId)) .initial := by
  refine Prog.safe_select_bind.mpr fun db _ => ?_
  split
  · trivial
  next session _ =>
    refine Prog.safe_ensure_bind (fun _ => trivial) fun _ => ?_
    split
    · exact update_bind_safe (fun _ => rfl) (fun _ _ => trivial) trivial
    · trivial

theorem handler_safe (request : Request) (beside : Beside (.start request)) :
    (handler request).Safe (sessionParts OwnId) request.MayMove .initial := by
  cases request with
  | tick env sessionId callerId => exact .forget (tick_safe env sessionId callerId)
  | endCall sessionId requesterId => exact .forget (endCall_safe sessionId requesterId)
  | ledger call =>
    refine ownId_follows.handler (Config.idle MoneyDb.empty) call ?_
    obtain ⟨env, request⟩ := call
    cases request with
    | wallet ops => exact fun op member => (beside op member).1
    | _ => trivial

end OlNode.VideoCalls
