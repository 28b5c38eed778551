import OlNode.Subscription.Operations
import OlNode.Ledger.Coins
import OlNode.ReadCommitted.Exclusive

/-!
# Every paid period is granted, and every granted period is paid

A job charges in one transaction and grants the period in the next statement, and nothing ties the
two together: a run that dies in between, a second run of the same job, or a request of the same
pair in between breaks the account. It holds when the requests of a pair are served one at a time,
a renewal runs only when it is due, and no job dies between its charge and its grant.
-/
namespace OlNode.Subscriptions

open ReadCommitted

variable {pair : Pair}

def chargeKeys (pair : Pair) (money : MoneyDb) : List LedgerKey :=
  (charges pair money).map fun entry => entry.idempotencyKey

/-- The time in a subscription's key: when the charged period was due. -/
def chargedFor : LedgerKey → Option Time
  | .subscriptionRenewal _ due => some due
  | .subscriptionGrace _ due => some due
  | .subscriptionInitial _ _ existing => existing.map fun row => row.2
  | _ => none

/-- The period that was charged under the key ends by `next`. -/
def ChargedBefore (next : Time) (key : LedgerKey) : Prop :=
  ∀ due, chargedFor key = some due → due + SUBSCRIPTION_PERIOD_MS ≤ next

theorem ChargedBefore.mono {next later : Time} (le : next ≤ later) {key : LedgerKey}
    (before : ChargedBefore next key) : ChargedBefore later key :=
  fun due found => Nat.le_trans (before due found) le

/-- A key with the current due time has not been used. -/
theorem ChargedBefore.fresh {next : Time} {keys : List LedgerKey} {key : LedgerKey} {due : Time}
    (before : ∀ key ∈ keys, ChargedBefore next key) (found : chargedFor key = some due)
    (le : next ≤ due) : key ∉ keys := by
  intro member
  have used := before key member due found
  have positive : 0 < SUBSCRIPTION_PERIOD_MS := by decide
  exact Nat.not_lt.mpr used (Nat.lt_of_le_of_lt le (Nat.lt_add_of_pos_right positive))

/-- The row agrees with what was charged and granted. -/
structure RowSettled (keys : List LedgerKey) (db : SubscriptionDb) (sub : CreatorSubscription) :
    Prop where
  granted : ∀ period ∈ db.granted, period.finish ≤ sub.nextRenewalAt
  charged : ∀ key ∈ keys, ChargedBefore sub.nextRenewalAt key
  ended : sub.status = .grace ∨ sub.status = .expired → sub.nextRenewalAt ≤ db.clock
  grace : ∀ graceUntil, sub.status = .grace → sub.graceUntil = some graceUntil →
    sub.nextRenewalAt ≤ graceUntil

/-- The account of the pair, for the charges under `keys`. -/
structure SettledFor (keys : List LedgerKey) (db : SubscriptionDb) : Prop where
  balanced : keys.length = db.granted.length
  once : keys.Nodup
  ordered : db.granted.Pairwise fun earlier later => earlier.finish ≤ later.start
  unsubscribed : db.sub = none → db.granted = []
  row : ∀ sub, db.sub = some sub → RowSettled keys db sub

def Settled (pair : Pair) (db : SubscriptionDb) : Prop := SettledFor (chargeKeys pair db.money) db

/-- The last charge has not been granted yet. -/
def Owed (pair : Pair) (key : LedgerKey) (db : SubscriptionDb) : Prop :=
  ∃ keys, chargeKeys pair db.money = keys ++ [key] ∧ SettledFor keys db

/-! ### The steps of a paid period -/

section Periods

variable {keys : List LedgerKey} {db : SubscriptionDb} {sub : CreatorSubscription}

theorem SettledFor.updateRow {data : CreatorSubscription → CreatorSubscription}
    (settled : SettledFor keys db) (kept : ∀ sub, (data sub).nextRenewalAt = sub.nextRenewalAt)
    (ended : ∀ sub, db.sub = some sub →
      (data sub).status = .grace ∨ (data sub).status = .expired → sub.nextRenewalAt ≤ db.clock)
    (grace : ∀ sub graceUntil, db.sub = some sub → (data sub).status = .grace →
      (data sub).graceUntil = some graceUntil → sub.nextRenewalAt ≤ graceUntil) :
    SettledFor keys (db.updateRow data) := by
  refine ⟨settled.balanced, settled.once, settled.ordered, fun none => ?_, fun sub' row => ?_⟩
  · exact settled.unsubscribed (Option.map_eq_none_iff.mp none)
  · obtain ⟨sub, found, rfl⟩ := Option.map_eq_some_iff.mp row
    have old := settled.row sub found
    refine ⟨?_, ?_, ?_, ?_⟩
    · rw [kept]
      exact old.granted
    · rw [kept]
      exact old.charged
    · rw [kept]
      exact ended sub found
    · rw [kept]
      exact fun graceUntil => grace sub graceUntil found

/-- A new period is granted for one more charge. -/
theorem SettledFor.grant {key : LedgerKey} {start : Time} {row : Option CreatorSubscription}
    (settled : SettledFor keys db) (fresh : key ∉ keys)
    (after : ∀ period ∈ db.granted, period.finish ≤ start)
    (earlier : ∀ key ∈ keys, ChargedBefore (start + SUBSCRIPTION_PERIOD_MS) key)
    (this : ChargedBefore (start + SUBSCRIPTION_PERIOD_MS) key)
    (now : row = some
      { status := .active, nextRenewalAt := start + SUBSCRIPTION_PERIOD_MS, graceUntil := none }) :
    SettledFor (keys ++ [key])
      { db.grant { start, finish := start + SUBSCRIPTION_PERIOD_MS } with sub := row } := by
  subst now
  have balanced := settled.balanced
  refine ⟨?_, ?_, ?_, fun none => (by cases none), ?_⟩
  · simp [SubscriptionDb.grant, balanced]
  · refine List.nodup_append.mpr ⟨settled.once, by simp, ?_⟩
    rintro k member k' last rfl
    rw [List.mem_singleton] at last
    exact fresh (last ▸ member)
  · refine List.pairwise_append.mpr ⟨settled.ordered, by simp, ?_⟩
    intro period member last found
    rw [List.mem_singleton] at found
    rw [found]
    exact after period member
  · intro sub found
    cases found
    refine ⟨?_, ?_, by simp, by simp⟩
    · intro period member
      rcases List.mem_append.mp member with old | last
      · exact Nat.le_trans (after period old) (Nat.le_add_right _ _)
      · rw [List.mem_singleton] at last
        exact Nat.le_of_eq (by rw [last])
    · intro k member
      rcases List.mem_append.mp member with old | last
      · exact earlier k old
      · rw [List.mem_singleton] at last
        rw [last]
        exact this

/-- The account does not depend on anything else. -/
theorem SettledFor.moved {t : SubscriptionDb} (settled : SettledFor keys db)
    (row : t.sub = db.sub) (granted : t.granted = db.granted) (clock : db.clock ≤ t.clock) :
    SettledFor keys t := by
  refine ⟨?_, settled.once, ?_, ?_, ?_⟩
  · rw [granted]
    exact settled.balanced
  · rw [granted]
    exact settled.ordered
  · rw [row, granted]
    exact settled.unsubscribed
  · intro sub found
    have old := settled.row sub (row ▸ found)
    refine ⟨?_, old.charged, fun elapsed => Nat.le_trans (old.ended elapsed) clock, old.grace⟩
    rw [granted]
    exact old.granted

end Periods

/-! ### The discipline -/

def SubscriptionDb.inGrace (db : SubscriptionDb) : Bool := db.sub.any fun sub => sub.status = .grace

/-- What the requests of nobody in particular change: time, queues, other wallet movements. -/
structure Meanwhile (pair : Pair) (s t : SubscriptionDb) : Prop where
  clock : s.clock ≤ t.clock
  sub : t.sub = s.sub
  granted : t.granted = s.granted
  charges : charges pair t.money = charges pair s.money

/-- What is right about every single step: a charge of a running subscription is due, and one that
was charged for the coming period is not moved to GRACE. -/
structure BillsSoundly (pair : Pair) (s t : SubscriptionDb) : Prop where
  due : charges pair t.money ≠ charges pair s.money →
    ∀ sub, s.sub = some sub → sub.nextRenewalAt ≤ s.clock
  grace : t.inGrace = true → s.inGrace = false → ∀ sub, s.sub = some sub →
    LedgerKey.subscriptionRenewal pair.subscriptionId sub.nextRenewalAt ∉ chargeKeys pair s.money

theorem Meanwhile.refl (s : SubscriptionDb) : Meanwhile pair s s :=
  ⟨Nat.le_refl _, rfl, rfl, rfl⟩

theorem Meanwhile.trans {s t u : SubscriptionDb} (first : Meanwhile pair s t)
    (second : Meanwhile pair t u) : Meanwhile pair s u :=
  ⟨Nat.le_trans first.clock second.clock, second.sub.trans first.sub,
    second.granted.trans first.granted, second.charges.trans first.charges⟩

theorem Meanwhile.chargeKeys {s t : SubscriptionDb} (moved : Meanwhile pair s t) :
    chargeKeys pair t.money = chargeKeys pair s.money := by
  rw [Subscriptions.chargeKeys, moved.charges, Subscriptions.chargeKeys]

theorem Meanwhile.settledFor {keys : List LedgerKey} {s t : SubscriptionDb}
    (moved : Meanwhile pair s t) (settled : SettledFor keys s) : SettledFor keys t :=
  settled.moved moved.sub moved.granted moved.clock

theorem Meanwhile.settled {s t : SubscriptionDb} (moved : Meanwhile pair s t)
    (settled : Settled pair s) : Settled pair t := by
  rw [Settled, moved.chargeKeys]
  exact moved.settledFor settled

theorem Meanwhile.soundly {s t : SubscriptionDb} (moved : Meanwhile pair s t) :
    BillsSoundly pair s t := by
  constructor
  · intro charged
    exact absurd moved.charges charged
  · intro after before
    rw [SubscriptionDb.inGrace, moved.sub, ← SubscriptionDb.inGrace, before] at after
    cases after

def Request.ofPair : Request → Bool
  | .createSubscription | .cancelSubscription | .blockUser _ | .processRenewalJob
  | .processGraceJob => true
  | _ => false

def Balanced (pair : Pair) (db : SubscriptionDb) : Prop :=
  (charges pair db.money).length = db.granted.length

theorem not_balanced_of_owed {key : LedgerKey} {db : SubscriptionDb} (owed : Owed pair key db) :
    ¬ Balanced pair db := by
  obtain ⟨keys, charged, settled⟩ := owed
  have count := congrArg List.length charged
  have balanced := settled.balanced
  simp only [chargeKeys, List.length_map, List.length_append, List.length_singleton] at count
  unfold Balanced
  omega

/-- A request of the pair dies only while every debit has its period. -/
def billing (pair : Pair) : Discipline Request SubscriptionDb where
  mine request := request.ofPair = true
  env := Meanwhile pair
  step := BillsSoundly pair
  rest := Settled pair
  mayStop := Balanced pair
  refl := Meanwhile.refl
  trans _ _ _ := Meanwhile.trans
  rest_stable _ _ := Meanwhile.settled
  mayStop_stable s t moved balanced := by
    rw [Balanced, moved.charges, moved.granted] at balanced
    exact balanced

/-- A renewal job runs only when the renewal is due. -/
def RunsWhenDue (request : Request) (db : SubscriptionDb) : Prop :=
  request = .processRenewalJob →
    ∀ sub, db.sub = some sub → sub.status = .active → sub.nextRenewalAt ≤ db.clock

/-! ### The charge -/

/-- The debit adds exactly one charge, under its key. -/
theorem debitForCreatorSubscription_effects (pair : Pair) (amount : Int) (key : LedgerKey) :
    (debitForCreatorSubscription pair.subscriberId amount pair.creatorId key).Effects
      (fun _ g => ∀ money, chargeKeys pair (g money) = chargeKeys pair money ++ [key]) id := by
  refine .bind (.imp ((assertCoinDebitAllowedInTx_writes (P := fun _ => False) _ _).effects_after
    (Q := fun g => g = id) (fun _ _ impossible => absurd impossible id) rfl) ?_)
  rintro _ w rfl
  simp only [lockForUpdate, latestCoinBalance, Tx.effects_lockRow_bind, Tx.effects_select_bind]
  intro db
  refine Tx.effects_ensure_bind fun _ => .bind ?_
  -- The unique index may refuse the row; when it does not, this is the only coin row.
  simp only [CoinLedgerRepository.insert, assertPositiveAmount,
    CoinLedgerRepository.findByIdempotencyKey]
  refine Tx.effects_ensure_bind fun _ => ?_
  rw [Tx.effects_lockRow_bind, Tx.effects_select_bind]
  refine fun db' => Tx.effects_ensure_bind fun _ => ?_
  rw [Tx.effects_update_bind, Tx.effects_pure]
  refine .bind (.imp ((applyCredit_keepsCoins _ _ _).effects_after
    (Q := fun g => ∀ money, chargeKeys pair (g money) = chargeKeys pair money ++ [key])
    ?_ ?_) fun _ _ charged => charged)
  · intro f g keeps charged money
    rw [Function.comp_apply, chargeKeys, charges, keeps, ← charges, ← chargeKeys, charged]
  · intro money
    simp [chargeKeys, charges, MoneyDb.addCoin]

/-- A composed write that charges the pair once and leaves the rest of the account alone. -/
structure Pays (pair : Pair) (key : LedgerKey) (s t : SubscriptionDb) : Prop where
  charged : chargeKeys pair t.money = chargeKeys pair s.money ++ [key]
  sub : t.sub = s.sub
  granted : t.granted = s.granted
  clock : t.clock = s.clock

theorem onMoney_debit_effects (pair : Pair) (amount : Int) (key : LedgerKey) :
    (onMoney (debitForCreatorSubscription pair.subscriberId amount pair.creatorId key)).Effects
      (fun _ w => ∀ s, Pays pair key s (w s)) id := by
  change (onMoney _).Effects _ fun t => (id t).setMoney (id (SubscriptionDb.money (id t)))
  refine Tx.Effects.zoom ?_ ?_ ?_
  · exact fun _ _ => rfl
  · exact fun _ _ _ => rfl
  refine (debitForCreatorSubscription_effects pair amount key).imp fun _ g charged s => ?_
  exact ⟨charged s.money, rfl, rfl, rfl⟩

theorem onMoney_credit_writes (pair : Pair) (now : Time) (coinsPaid hostShareBp : Int)
    (key : LedgerKey) :
    (onMoney (creditCreatorSubscriptionPoints pair now coinsPaid hostShareBp key)).Writes
      fun f => ∀ s, (f s).money.coinLedger = s.money.coinLedger ∧ (f s).sub = s.sub ∧
        (f s).granted = s.granted ∧ (f s).clock = s.clock := by
  have keeps : (creditCreatorSubscriptionPoints pair now coinsPaid hostShareBp key).Writes
      KeepsCoins := by
    refine Tx.writes_when (.bind ?_ fun _ => trivial)
    exact PointWallet.creditInTransaction_keepsCoins now pair.creatorId _ .subscription _
  exact keeps.zoom_of fun f kept s => ⟨kept s.money, rfl, rfl, rfl⟩

theorem payTx_effects (pair : Pair) (shares : HostRevenueShares) (key : LedgerKey) :
    (payTx pair shares key).Effects (fun _ w => ∀ s, Pays pair key s (w s)) id := by
  refine .bind ((onMoney_debit_effects pair _ key).imp fun _ w paid => ?_)
  rw [Tx.effects_select_bind]
  intro db
  refine (onMoney_credit_writes pair db.clock _ _ key).effects_after ?_ paid
  intro f g beside paid s
  obtain ⟨coins, sub, granted, clock⟩ := beside (g s)
  obtain ⟨charged, sub', granted', clock'⟩ := paid s
  refine ⟨?_, sub.trans sub', granted.trans granted', clock.trans clock'⟩
  rw [← charged, chargeKeys, charges, Function.comp_apply, coins, ← charges, ← chargeKeys]

/-! ### The parts that leave the account alone -/

section Handlers

variable {α : Type} {K : SubscriptionDb → Prop} {s : SubscriptionDb}

/-- What is known of the state and stays known while the others move. -/
structure Carried (pair : Pair) (K : SubscriptionDb → Prop) : Prop where
  stable : ∀ s t, Meanwhile pair s t → K s → K t
  calm : ∀ s, K s → (billing pair).Calm s

theorem carried_settled : Carried pair (Settled pair) :=
  ⟨fun _ _ => Meanwhile.settled, fun _ settled _ => settled⟩

/-- The part ends in `K`, and an error of its own is not about coins. -/
def Leaves (K : SubscriptionDb → Prop) (result : Except LedgerError α) (t : SubscriptionDb) : Prop :=
  K t ∧ ∀ error, result = .error error → isInsufficientCoins error = false

section

variable (carried : Carried pair K) (holds : K s)
include carried holds

theorem commits_meanwhile {w : SubscriptionDb → SubscriptionDb}
    (moves : ∀ t, Meanwhile pair t (w t)) (value : α) :
    Prog.CommitsTo (billing pair) (Leaves K (.ok value)) w s :=
  Prog.commitsTo_env (fun _ _ => Meanwhile.soundly)
    (fun s t moved left => ⟨carried.stable s t moved left.1, left.2⟩)
    (fun s left => carried.calm s left.1) moves ⟨holds, by simp⟩

theorem enqueue_serves (queue : Queue) (runAt : Time) :
    (enqueue queue runAt).Serves (billing pair) (Leaves K) id s := by
  refine Prog.serves_select fun t moved => ?_
  refine Prog.serves_autocommit (commits_meanwhile carried (carried.stable s t moved holds) ?_ ())
  intro u
  split <;> exact ⟨Nat.le_refl _, rfl, rfl, rfl⟩

theorem setSubscriptionAccess_serves (nextRenewalAt : Time) :
    (setSubscriptionAccess nextRenewalAt).Serves (billing pair) (Leaves K) id s := by
  refine Prog.serves_select fun t moved => ?_
  refine Prog.serves_autocommit (commits_meanwhile carried (carried.stable s t moved holds) ?_ ())
  exact fun u => ⟨Nat.le_refl _, rfl, rfl, rfl⟩

theorem dropSubscriptionAccess_serves :
    dropSubscriptionAccess.Serves (billing pair) (Leaves K) id s := by
  refine Prog.serves_autocommit (commits_meanwhile carried holds ?_ ())
  exact fun t => ⟨Nat.le_refl _, rfl, rfl, rfl⟩

theorem cancelJob_serves (queue : Queue) :
    (cancelJob queue).Serves (billing pair) (Leaves K) id s := by
  refine Prog.serves_select fun t moved => ?_
  have here := carried.stable s t moved holds
  unfold Prog.when
  split
  · refine Prog.serves_transaction fun u moved => ?_
    have now := carried.stable t u moved here
    change (Tx.ensure _ _ >>= _).Serves _ _ _ _ _
    unfold Tx.ensure
    split
    · refine commits_meanwhile (w := fun db => db.setJob queue none) carried now ?_ ()
      exact fun v => ⟨Nat.le_refl _, rfl, rfl, rfl⟩
    · exact ⟨now, fun error same => by cases same; rfl⟩
  · exact Prog.serves_pure ⟨here, by simp⟩

end

/-- A part of the handler that leaves `K` behind, whatever it answers. -/
theorem serves_then {β : Type} {post : Except LedgerError β → SubscriptionDb → Prop}
    {p : SubscriptionProg α} {k : α → SubscriptionProg β}
    (first : p.Serves (billing pair) (Leaves K) id s)
    (rest : ∀ a t, K t → (k a).Serves (billing pair) post id t)
    (thrown : ∀ e t, K t → isInsufficientCoins e = false → post (.error e) t) :
    (p >>= k).Serves (billing pair) post id s :=
  first.seq (fun a t left => rest a t left.1) (fun e t left => thrown e t left.1 (left.2 e rfl))

theorem leaves_error {error : LedgerError} (holds : K s)
    (notCoins : isInsufficientCoins error = false) :
    Leaves K (.error error : Except LedgerError α) s := by
  refine ⟨holds, fun error' same => ?_⟩
  cases same
  exact notCoins

section Sequences

variable {β : Type} {p : SubscriptionProg α} {k : α → SubscriptionProg β}

theorem serves_then_leaves (first : p.Serves (billing pair) (Leaves K) id s)
    (rest : ∀ a t, K t → (k a).Serves (billing pair) (Leaves K) id t) :
    (p >>= k).Serves (billing pair) (Leaves K) id s :=
  serves_then first rest fun _ _ => leaves_error

theorem serves_then_keeps (first : p.Serves (billing pair) (Leaves K) id s)
    (rest : ∀ a t, K t → (k a).Serves (billing pair) (fun _ t => K t) id t) :
    (p >>= k).Serves (billing pair) (fun _ t => K t) id s :=
  serves_then first rest fun _ _ holds _ => holds

end Sequences

/-! ### Changes of the row -/

theorem updateById_serves {data : CreatorSubscription → CreatorSubscription}
    (commits : ∀ t, Meanwhile pair s t → BillsSoundly pair t (t.updateRow data) ∧
      Settled pair (t.updateRow data) ∧ K (t.updateRow data)) :
    (SubscriptionRepository.updateById data).Serves (billing pair) (Leaves K) id s := by
  refine Prog.serves_autocommit fun t moved => ?_
  obtain ⟨soundly, settled, left⟩ := commits t moved
  exact ⟨soundly, fun _ => settled, left, by simp⟩

theorem soundly_updateRow {data : CreatorSubscription → CreatorSubscription}
    (notGrace : ∀ sub, (data sub).status ≠ .grace) (t : SubscriptionDb) :
    BillsSoundly pair t (t.updateRow data) := by
  refine ⟨fun charged => absurd rfl charged, fun grace => ?_⟩
  cases row : t.sub <;> simp [SubscriptionDb.inGrace, SubscriptionDb.updateRow, row, notGrace] at grace

theorem stopRenewalKeepingAccess_serves (settled : Settled pair s) (sub : CreatorSubscription) :
    (stopRenewalKeepingAccess sub).Serves (billing pair) (Leaves (Settled pair)) id s := by
  refine serves_then_leaves (updateById_serves fun t moved => ?_) fun _ t settled => ?_
  · have stopped : SettledFor (chargeKeys pair t.money)
        (t.updateRow fun row => { row with status := .cancelled, graceUntil := none }) :=
      (moved.settled settled).updateRow (fun _ => rfl) (by simp) (by simp)
    exact ⟨soundly_updateRow (by simp) t, stopped, stopped⟩
  refine serves_then_leaves (cancelJob_serves carried_settled settled .renewal) fun _ t settled => ?_
  refine serves_then_leaves (cancelJob_serves carried_settled settled .grace) fun _ t settled => ?_
  refine Prog.serves_select fun u moved => ?_
  split
  · exact setSubscriptionAccess_serves carried_settled (moved.settled settled) _
  · exact dropSubscriptionAccess_serves carried_settled (moved.settled settled)

theorem stopRenewalDueToBlockKeepingAccess_serves (settled : Settled pair s) :
    stopRenewalDueToBlockKeepingAccess.Serves (billing pair) (Leaves (Settled pair)) id s := by
  refine Prog.serves_select fun t moved => ?_
  have here := moved.settled settled
  cases t.sub with
  | none => exact Prog.serves_pure ⟨here, by simp⟩
  | some sub =>
    dsimp only
    unfold Prog.when
    split
    · exact stopRenewalKeepingAccess_serves here sub
    · exact Prog.serves_pure ⟨here, by simp⟩

theorem cancelSubscription_serves (settled : Settled pair s) :
    cancelSubscription.Serves (billing pair) (fun _ t => Settled pair t) id s := by
  refine Prog.serves_select fun t moved => ?_
  have here := moved.settled settled
  cases t.sub with
  | none => exact Prog.serves_fail here
  | some sub =>
    refine Prog.serves_ensure_bind (fun _ => here) fun _ => ?_
    exact (stopRenewalKeepingAccess_serves here sub).imp fun _ _ left => left.1

theorem blockUser_serves (settled : Settled pair s) (byCreator : Bool) :
    (blockUser byCreator).Serves (billing pair) (fun _ t => Settled pair t) id s := by
  refine Prog.serves_select fun t moved => ?_
  have here := moved.settled settled
  refine Prog.serves_ensure_bind (fun _ => here) fun _ => ?_
  refine serves_then (Prog.serves_autocommit
    (commits_meanwhile carried_settled here (fun u => ?_) ())) (fun _ u settled => ?_)
    (fun _ _ settled _ => settled)
  · split <;> exact ⟨Nat.le_refl _, rfl, rfl, rfl⟩
  · exact (stopRenewalDueToBlockKeepingAccess_serves settled).imp fun _ _ left => left.1

/-! ### Charging, then granting -/

variable {key : LedgerKey} {start : Time} {keys : List LedgerKey}

/-- A debit has been committed under `key`, and the period from `start` on is the one to grant. -/
structure Grantable (pair : Pair) (key : LedgerKey) (start : Time) (keys : List LedgerKey)
    (db : SubscriptionDb) : Prop where
  charged : chargeKeys pair db.money = keys ++ [key]
  settled : SettledFor keys db
  fresh : key ∉ keys
  after : ∀ period ∈ db.granted, period.finish ≤ start
  earlier : ∀ key ∈ keys, ChargedBefore (start + SUBSCRIPTION_PERIOD_MS) key
  this : ChargedBefore (start + SUBSCRIPTION_PERIOD_MS) key
  row : db.sub.isSome = true

variable {t : SubscriptionDb}

theorem Grantable.meanwhile (grantable : Grantable pair key start keys s)
    (moved : Meanwhile pair s t) : Grantable pair key start keys t where
  charged := moved.chargeKeys.trans grantable.charged
  settled := moved.settledFor grantable.settled
  fresh := grantable.fresh
  after := moved.granted ▸ grantable.after
  earlier := grantable.earlier
  this := grantable.this
  row := moved.sub ▸ grantable.row

variable {u v : SubscriptionDb}

/-- The period that starts at `start` is paid for when its charge was due after the last one. -/
theorem grantable_of_pays {sub : CreatorSubscription} {due : Time} (settled : Settled pair u)
    (row : u.sub = some sub) (paid : Pays pair key u v) (found : chargedFor key = some due)
    (notBefore : sub.nextRenewalAt ≤ due) (le : due ≤ start) :
    Grantable pair key start (chargeKeys pair u.money) v := by
  have old := settled.row sub row
  have next : sub.nextRenewalAt ≤ start := Nat.le_trans notBefore le
  refine ⟨paid.charged, settled.moved paid.sub paid.granted (Nat.le_of_eq paid.clock.symm),
    ChargedBefore.fresh old.charged found notBefore, ?_, ?_, ?_, by rw [paid.sub, row]; rfl⟩
  · rw [paid.granted]
    exact fun period member => Nat.le_trans (old.granted period member) next
  · exact fun k member =>
      (old.charged k member).mono (Nat.le_trans next (Nat.le_add_right _ _))
  · intro due' same
    rw [found, Option.some.injEq] at same
    subst same
    exact Nat.add_le_add_right le _

theorem grantPeriod_serves (grantable : Grantable pair key start keys s) :
    (grantPeriod { start, finish := start + SUBSCRIPTION_PERIOD_MS }).Serves (billing pair)
      (Leaves (Settled pair)) id s := by
  refine Prog.serves_autocommit fun t moved => ?_
  have here := grantable.meanwhile moved
  obtain ⟨sub, row⟩ := Option.isSome_iff_exists.mp here.row
  have settled : Settled pair ((t.grant { start, finish := start + SUBSCRIPTION_PERIOD_MS }).updateRow
      fun _ => { status := .active, nextRenewalAt := start + SUBSCRIPTION_PERIOD_MS,
                 graceUntil := none }) := by
    change SettledFor (chargeKeys pair t.money) _
    rw [here.charged]
    exact here.settled.grant here.fresh here.after here.earlier here.this
      (by simp [SubscriptionDb.grant, row])
  refine ⟨⟨fun charged => absurd rfl charged, fun grace => ?_⟩, fun _ => settled, settled, by simp⟩
  simp [SubscriptionDb.inGrace, SubscriptionDb.updateRow, SubscriptionDb.grant, row] at grace

/-- A commit that charges the pair is made when the charge is due. -/
theorem payTx_serves (shares : HostRevenueShares)
    (stable : ∀ s t, Meanwhile pair s t → K s → K t) (settled : ∀ t, K t → Settled pair t)
    (due : ∀ t, K t → ∀ sub, t.sub = some sub → sub.nextRenewalAt ≤ t.clock) (holds : K s) :
    (Prog.transaction (payTx pair shares key)).Serves (billing pair)
      (fun result t => match result with
        | .ok _ => ∃ u, K u ∧ Pays pair key u t
        | .error _ => K t) id s := by
  have trans := (billing pair).trans
  refine Prog.serves_transaction
    ((payTx_effects pair shares key).serves trans ((billing pair).refl s) ?_ ?_)
  · intro _ w t moved paid u further
    have here := stable _ _ further (stable _ _ moved holds)
    have pays := paid u
    have owed : Owed pair key (w u) :=
      ⟨chargeKeys pair u.money, pays.charged,
        (settled u here).moved pays.sub pays.granted (Nat.le_of_eq pays.clock.symm)⟩
    refine ⟨⟨fun _ => due u here, fun grace before => ?_⟩,
      fun balanced => absurd balanced (not_balanced_of_owed owed), u, here, pays⟩
    rw [SubscriptionDb.inGrace, pays.sub, ← SubscriptionDb.inGrace, before] at grace
    cases grace
  · exact fun _ t moved => stable _ _ moved holds

/-- The try block of a job: the charge, and what follows it. -/
theorem tryPaying_serves {shares : HostRevenueShares} {after insufficient : SubscriptionProg Unit}
    (stable : ∀ s t, Meanwhile pair s t → K s → K t) (settled : ∀ t, K t → Settled pair t)
    (due : ∀ t, K t → ∀ sub, t.sub = some sub → sub.nextRenewalAt ≤ t.clock) (holds : K s)
    (grants : ∀ u v, K u → Pays pair key u v →
      after.Serves (billing pair) (Leaves (Settled pair)) id v)
    (without : ∀ t, K t → insufficient.Serves (billing pair) (fun _ t => Settled pair t) id t) :
    (tryPaying (do Prog.transaction (payTx pair shares key); after) insufficient).Serves
      (billing pair) (fun _ t => Settled pair t) id s := by
  -- An error about coins comes from the transaction, which then has changed nothing.
  have body : (do Prog.transaction (payTx pair shares key); after : SubscriptionProg Unit).Serves
      (billing pair) (fun result t => Settled pair t ∧
        ∀ error, result = .error error → isInsufficientCoins error = true → K t) id s := by
    refine (payTx_serves shares stable settled due holds).seq ?_ ?_
    · rintro _ t ⟨u, here, pays⟩
      refine (grants u t here pays).imp fun result v left => ⟨left.1, ?_⟩
      intro error same coins
      rw [left.2 error same] at coins
      cases coins
    · exact fun error t here => ⟨settled t here, fun _ _ _ => here⟩
  refine Prog.Serves.bind (Prog.Serves.attempt (body.imp ?_))
  rintro outcome t ⟨rests, known⟩
  cases outcome with
  | ok _ => exact Prog.serves_pure rests
  | error error =>
    dsimp only
    split
    next coins => exact without t (known error rfl coins)
    next => exact Prog.serves_fail rests

/-! ### The jobs -/

variable {sub : CreatorSubscription} {graceUntil : Time}

structure Renewable (pair : Pair) (sub : CreatorSubscription) (db : SubscriptionDb) : Prop where
  settled : Settled pair db
  row : db.sub = some sub
  due : sub.nextRenewalAt ≤ db.clock

theorem Renewable.meanwhile (renewable : Renewable pair sub s) (moved : Meanwhile pair s t) :
    Renewable pair sub t :=
  ⟨moved.settled renewable.settled, moved.sub.trans renewable.row,
    Nat.le_trans renewable.due moved.clock⟩

theorem Renewable.due_of_row (renewable : Renewable pair sub t) (sub' : CreatorSubscription)
    (row : t.sub = some sub') : sub'.nextRenewalAt ≤ t.clock := by
  rw [renewable.row, Option.some.injEq] at row
  exact row ▸ renewable.due

theorem moveToGrace_serves (renewable : Renewable pair sub s) :
    moveToGrace.Serves (billing pair) (fun _ t => Settled pair t) id s := by
  refine Prog.serves_select fun t moved => ?_
  have here := renewable.meanwhile moved
  refine serves_then (K := Settled pair) (updateById_serves fun u further => ?_)
    (fun _ u settled => ?_) (fun _ _ settled _ => settled)
  · have now := here.meanwhile further
    have known : ∀ sub', u.sub = some sub' → sub' = sub := fun sub' row =>
      Option.some.inj (row.symm.trans now.row)
    have settled : SettledFor (chargeKeys pair u.money) (u.updateRow fun row =>
        { row with status := .grace, graceUntil := some (t.clock + SUBSCRIPTION_GRACE_MS) }) := by
      refine now.settled.updateRow (fun _ => rfl) (fun sub' row _ => now.due_of_row sub' row) ?_
      intro sub' graceUntil row _ same
      cases same
      rw [known sub' row]
      exact Nat.le_trans here.due (Nat.le_add_right _ _)
    refine ⟨⟨fun charged => absurd rfl charged, fun _ _ sub' row => ?_⟩, settled, settled⟩
    -- Had the coming period been charged, it would be over by now.
    rw [known sub' row]
    exact ChargedBefore.fresh (now.settled.row sub now.row).charged rfl (Nat.le_refl _)
  refine serves_then_keeps (dropSubscriptionAccess_serves carried_settled settled)
    fun _ u settled => ?_
  refine serves_then_keeps (cancelJob_serves carried_settled settled .renewal)
    fun _ u settled => ?_
  exact (enqueue_serves carried_settled settled .grace _).imp fun _ _ left => left.1

theorem afterRenewal_serves (renewable : Renewable pair sub u)
    (paid : Pays pair (.subscriptionRenewal pair.subscriptionId sub.nextRenewalAt) u v) :
    (afterRenewal sub).Serves (billing pair) (Leaves (Settled pair)) id v := by
  have grantable := grantable_of_pays renewable.settled renewable.row paid rfl (Nat.le_refl _)
    (Nat.le_refl _)
  refine serves_then_leaves (grantPeriod_serves grantable) fun _ t settled => ?_
  refine serves_then_leaves (cancelJob_serves carried_settled settled .grace) fun _ t settled => ?_
  refine serves_then_leaves (setSubscriptionAccess_serves carried_settled settled _)
    fun _ t settled => ?_
  exact enqueue_serves carried_settled settled .renewal _

theorem processRenewalJob_serves (settled : Settled pair s)
    (due : RunsWhenDue .processRenewalJob s) :
    (processRenewalJob pair).Serves (billing pair) (fun _ t => Settled pair t) id s := by
  refine Prog.serves_select fun t moved => ?_
  have here := moved.settled settled
  cases row : t.sub with
  | none => exact Prog.serves_pure here
  | some sub =>
    dsimp only
    split
    next active =>
      have renewable : Renewable pair sub t :=
        ⟨here, row, Nat.le_trans (due rfl sub (moved.sub ▸ row) active) moved.clock⟩
      refine Prog.serves_select fun u further => ?_
      have now := renewable.meanwhile further
      split
      · exact (stopRenewalDueToBlockKeepingAccess_serves now.settled).imp fun _ _ left => left.1
      · refine Prog.serves_select fun v later => ?_
        exact tryPaying_serves (K := Renewable pair sub) (fun _ _ moved known => known.meanwhile moved)
          (fun _ known => known.settled) (fun _ => Renewable.due_of_row) (now.meanwhile later)
          (fun _ _ => afterRenewal_serves) (fun _ => moveToGrace_serves)
    next => exact Prog.serves_pure here

structure Recoverable (pair : Pair) (sub : CreatorSubscription) (graceUntil : Time)
    (db : SubscriptionDb) : Prop extends Renewable pair sub db where
  notBefore : sub.nextRenewalAt ≤ graceUntil
  elapsed : graceUntil ≤ db.clock

theorem Recoverable.meanwhile (recoverable : Recoverable pair sub graceUntil s)
    (moved : Meanwhile pair s t) : Recoverable pair sub graceUntil t :=
  ⟨recoverable.toRenewable.meanwhile moved, recoverable.notBefore,
    Nat.le_trans recoverable.elapsed moved.clock⟩

theorem afterRecovery_serves (recoverable : Recoverable pair sub graceUntil u)
    (paid : Pays pair (.subscriptionGrace pair.subscriptionId graceUntil) u v) :
    afterRecovery.Serves (billing pair) (Leaves (Settled pair)) id v := by
  refine Prog.serves_select fun t moved => ?_
  have later : graceUntil ≤ t.clock :=
    Nat.le_trans recoverable.elapsed (Nat.le_trans (Nat.le_of_eq paid.clock.symm) moved.clock)
  have grantable := (grantable_of_pays recoverable.settled recoverable.row paid rfl
    recoverable.notBefore later).meanwhile moved
  refine serves_then_leaves (grantPeriod_serves grantable) fun _ t settled => ?_
  refine serves_then_leaves (setSubscriptionAccess_serves carried_settled settled _)
    fun _ t settled => ?_
  refine serves_then_leaves (enqueue_serves carried_settled settled .renewal _)
    fun _ t settled => ?_
  exact cancelJob_serves carried_settled settled .grace

theorem expire_serves (renewable : Renewable pair sub s) :
    expire.Serves (billing pair) (fun _ t => Settled pair t) id s := by
  refine serves_then_keeps (K := Settled pair) (updateById_serves fun t moved => ?_)
    fun _ t settled => ?_
  · have here := renewable.meanwhile moved
    have settled : SettledFor (chargeKeys pair t.money)
        (t.updateRow fun row => { row with status := .expired, graceUntil := none }) :=
      here.settled.updateRow (fun _ => rfl) (fun sub' row _ => here.due_of_row sub' row) (by simp)
    exact ⟨soundly_updateRow (by simp) t, settled, settled⟩
  refine serves_then_keeps (dropSubscriptionAccess_serves carried_settled settled)
    fun _ t settled => ?_
  exact (cancelJob_serves carried_settled settled .grace).imp fun _ _ left => left.1

theorem processGraceJob_serves (settled : Settled pair s) :
    (processGraceJob pair).Serves (billing pair) (fun _ t => Settled pair t) id s := by
  refine Prog.serves_select fun t moved => ?_
  have here := moved.settled settled
  cases row : t.sub with
  | none => exact Prog.serves_pure here
  | some sub =>
    dsimp only
    split
    next grace =>
      split
      · exact Prog.serves_pure here
      next graceUntil until_ =>
        have account := here.row sub row
        refine Prog.serves_select fun u further => ?_
        split
        · exact Prog.serves_pure (further.settled here)
        next elapsed =>
          have recoverable : Recoverable pair sub graceUntil u :=
            ⟨⟨further.settled here, further.sub.trans row,
              Nat.le_trans (account.ended (.inl grace)) further.clock⟩,
              account.grace graceUntil grace until_, Nat.le_of_not_lt elapsed⟩
          refine Prog.serves_select fun v later => ?_
          have now := recoverable.meanwhile later
          split
          · exact (stopRenewalDueToBlockKeepingAccess_serves now.settled).imp
              fun _ _ left => left.1
          · refine Prog.serves_select fun w last => ?_
            exact tryPaying_serves (K := Recoverable pair sub graceUntil)
              (fun _ _ moved known => known.meanwhile moved) (fun _ known => known.settled)
              (fun _ known => known.due_of_row) (now.meanwhile last)
              (fun _ _ => afterRecovery_serves) (fun _ known => expire_serves known.toRenewable)
    next => exact Prog.serves_pure here

/-! ### Subscribing -/

/-- Nothing paid for is running at `now`, as far as the row says that was found. -/
structure Vacant (pair : Pair) (existing : Option CreatorSubscription) (now : Time)
    (db : SubscriptionDb) : Prop where
  settled : Settled pair db
  row : db.sub = existing
  elapsed : ∀ sub, existing = some sub → sub.nextRenewalAt ≤ now
  past : now ≤ db.clock

variable {existing : Option CreatorSubscription}

theorem Vacant.meanwhile {now : Time} (vacant : Vacant pair existing now s)
    (moved : Meanwhile pair s t) :
    Vacant pair existing now t :=
  ⟨moved.settled vacant.settled, moved.sub.trans vacant.row, vacant.elapsed,
    Nat.le_trans vacant.past moved.clock⟩

/-- The effect of the transaction of a paid subscribe. -/
structure Subscribes (pair : Pair) (key : LedgerKey) (period : Period) (s t : SubscriptionDb) :
    Prop where
  charged : chargeKeys pair t.money = chargeKeys pair s.money ++ [key]
  sub : t.sub = some { status := .active, nextRenewalAt := period.finish, graceUntil := none }
  granted : t.granted = s.granted ++ [period]
  clock : t.clock = s.clock

theorem subscribeTx_effects (pair : Pair) (shares : HostRevenueShares) (period : Period)
    (key : LedgerKey) :
    (subscribeTx pair shares period key).Effects
      (fun _ w => ∀ s, Subscribes pair key period s (w s)) id := by
  refine .bind ((onMoney_debit_effects pair _ key).imp fun _ w paid => .bind ?_)
  simp only [SubscriptionRepository.upsertActiveInTx, Tx.effects_update_bind, Tx.effects_pure]
  rw [Tx.effects_select_bind]
  intro db
  refine .bind (.imp ((onMoney_credit_writes pair db.clock _ _ key).effects_after
    (Q := fun w => ∀ s, Subscribes pair key period s (w s)) ?_ ?_) fun _ _ subscribed => subscribed)
  · intro f g beside subscribed s
    obtain ⟨coins, sub, granted, clock⟩ := beside (g s)
    obtain ⟨charged, sub', granted', clock'⟩ := subscribed s
    refine ⟨?_, sub.trans sub', granted.trans granted', clock.trans clock'⟩
    rw [← charged, chargeKeys, charges, Function.comp_apply, coins, ← charges, ← chargeKeys]
  · intro s
    have pays := paid s
    refine ⟨pays.charged, rfl, ?_, pays.clock⟩
    simp [SubscriptionDb.grant, pays.granted]

def initialKey (pair : Pair) (existing : Option CreatorSubscription) : LedgerKey :=
  .subscriptionInitial pair.subscriberId pair.creatorId
    (existing.map fun sub => (pair.subscriptionId, sub.nextRenewalAt))

/-- The new period comes after all others, and its key is new. -/
theorem Vacant.subscribes {now : Time} (vacant : Vacant pair existing now u)
    (subscribed : Subscribes pair (initialKey pair existing)
      { start := now, finish := now + SUBSCRIPTION_PERIOD_MS } u v) : Settled pair v := by
  have settled := vacant.settled
  have facts : initialKey pair existing ∉ chargeKeys pair u.money ∧
      (∀ period ∈ u.granted, period.finish ≤ now) ∧
      (∀ key ∈ chargeKeys pair u.money, ChargedBefore (now + SUBSCRIPTION_PERIOD_MS) key) ∧
      ChargedBefore (now + SUBSCRIPTION_PERIOD_MS) (initialKey pair existing) := by
    cases found : existing with
    | none =>
      have nothing := settled.unsubscribed (vacant.row.trans found)
      have uncharged : chargeKeys pair u.money = [] := by
        rw [← List.length_eq_zero_iff, settled.balanced, nothing, List.length_nil]
      rw [nothing, uncharged]
      exact ⟨by simp, by simp, by simp, fun due impossible => by cases impossible⟩
    | some sub =>
      have old := settled.row sub (vacant.row.trans found)
      have elapsed := vacant.elapsed sub found
      refine ⟨ChargedBefore.fresh old.charged rfl (Nat.le_refl _), ?_, ?_, ?_⟩
      · exact fun period member => Nat.le_trans (old.granted period member) elapsed
      · exact fun k member =>
          (old.charged k member).mono (Nat.le_trans elapsed (Nat.le_add_right _ _))
      · intro due same
        cases same
        exact Nat.add_le_add_right elapsed _
  obtain ⟨fresh, after, earlier, this⟩ := facts
  rw [Settled, subscribed.charged]
  refine (settled.grant fresh after earlier this rfl).moved subscribed.sub subscribed.granted ?_
  exact Nat.le_of_eq subscribed.clock.symm

theorem subscribePaid_serves {now : Time} (vacant : Vacant pair existing now s) :
    (subscribePaid pair existing).Serves (billing pair) (fun _ t => Settled pair t) id s := by
  refine Prog.serves_select fun t moved => ?_
  have here : Vacant pair existing t.clock t :=
    { vacant.meanwhile moved with
      elapsed := fun sub found =>
        Nat.le_trans (vacant.elapsed sub found) (vacant.meanwhile moved).past
      past := Nat.le_refl _ }
  refine Prog.serves_select fun u further => ?_
  have now := here.meanwhile further
  have paid : (Prog.transaction (subscribeTx pair u.shares
      { start := t.clock, finish := t.clock + SUBSCRIPTION_PERIOD_MS }
      (initialKey pair existing))).Serves (billing pair) (fun _ t => Settled pair t) id u := by
    refine Prog.serves_transaction ((subscribeTx_effects pair u.shares _ _).serves
      (billing pair).trans ((billing pair).refl u) ?_ ?_)
    · intro _ w v moved subscribes x later
      have vacant := (now.meanwhile moved).meanwhile later
      have subscribed := subscribes x
      have settled := vacant.subscribes subscribed
      refine ⟨⟨fun _ sub row => ?_, fun grace => ?_⟩, fun _ => settled, settled⟩
      · exact Nat.le_trans (vacant.elapsed sub (vacant.row.symm.trans row)) vacant.past
      · simp [SubscriptionDb.inGrace, subscribed.sub] at grace
    · exact fun _ v moved => moved.settled now.settled
  refine paid.seq (fun row v settled => ?_) (fun _ _ settled => settled)
  refine serves_then_keeps (setSubscriptionAccess_serves carried_settled settled _)
    fun _ x settled => ?_
  refine serves_then_keeps (enqueue_serves carried_settled settled .renewal _)
    fun _ x settled => ?_
  exact Prog.serves_pure settled

theorem announceResumed_serves (settled : Settled pair s) (row : CreatorSubscription) :
    (announceResumed row).Serves (billing pair) (fun _ t => Settled pair t) id s := by
  refine serves_then_keeps (setSubscriptionAccess_serves carried_settled settled _)
    fun _ t settled => ?_
  refine serves_then_keeps (cancelJob_serves carried_settled settled .renewal)
    fun _ t settled => ?_
  refine serves_then_keeps (enqueue_serves carried_settled settled .renewal _)
    fun _ t settled => ?_
  exact Prog.serves_pure settled

/-- Either the row renews again, or the period has ended in the meantime. -/
theorem resumeCancelledWithinPeriod_serves (settled : Settled pair s) (row : s.sub = some sub)
    (cancelled : sub.status = .cancelled) :
    SubscriptionRepository.resumeCancelledWithinPeriod.Serves (billing pair)
      (fun result t => Settled pair t ∧
        (result = .ok none → Vacant pair (some sub) t.clock t)) id s := by
  refine Prog.serves_select fun t moved => ?_
  have updated : (Prog.transaction (do
      Tx.lockRow .subscription
      let row ← Tx.select fun db : SubscriptionDb => db.sub
      if row.any fun r => r.status = .cancelled ∧ t.clock < r.nextRenewalAt then
        Tx.update .subscription fun db : SubscriptionDb =>
          db.updateRow fun r => { r with status := .active, graceUntil := none }
        pure 1
      else pure 0 : SubscriptionTx Nat)).Serves (billing pair)
      (fun result u => Settled pair u ∧ (∀ count, result = .ok count →
        (count = 0 → Vacant pair (some sub) u.clock u) ∧ (count ≠ 0 → u.sub.isSome = true)))
      id t := by
    refine Prog.serves_transaction fun u further => ?_
    have here := further.settled (moved.settled settled)
    have found : u.sub = some sub := further.sub.trans (moved.sub.trans row)
    change Tx.Serves _ _ _ (if u.sub.any _ then _ else _) id u
    split
    · intro v later
      have now := later.settled here
      have resumed : SettledFor (chargeKeys pair v.money)
          (v.updateRow fun r => { r with status := .active, graceUntil := none }) :=
        now.updateRow (fun _ => rfl) (by simp) (by simp)
      have present : (v.updateRow fun r =>
          { r with status := .active, graceUntil := none }).sub.isSome = true := by
        simp [SubscriptionDb.updateRow, later.sub, found]
      refine ⟨soundly_updateRow (by simp) v, fun _ => resumed, resumed, fun count same => ?_⟩
      cases same
      exact ⟨fun impossible => absurd impossible (by decide), fun _ => present⟩
    next notRunning =>
      intro v later
      have now := later.settled here
      refine ⟨(Meanwhile.refl v).soundly, fun _ => now, now, fun count same => ?_⟩
      cases same
      refine ⟨fun _ => ⟨now, later.sub.trans found, fun sub' same => ?_, Nat.le_refl _⟩,
        fun impossible => absurd rfl impossible⟩
      cases same
      have elapsed : sub.nextRenewalAt ≤ t.clock := by
        simpa [found, cancelled] using notRunning
      exact Nat.le_trans elapsed (Nat.le_trans further.clock later.clock)
  refine updated.seq (fun count u left => ?_) (fun _ _ left => ⟨left.1, by simp⟩)
  obtain ⟨rests, known⟩ := left
  obtain ⟨vacant, present⟩ := known count rfl
  split
  next zero => exact Prog.serves_pure ⟨rests, fun _ => vacant zero⟩
  next resumed =>
    intro v moved
    refine ⟨rfl, moved.settled rests, fun same => ?_⟩
    have gone : v.sub = none := Except.ok.inj same
    have some := present resumed
    rw [← moved.sub, gone] at some
    cases some

theorem createSubscriptionOnce_serves (settled : Settled pair s) :
    (createSubscriptionOnce pair).Serves (billing pair) (fun _ t => Settled pair t) id s := by
  refine Prog.serves_ensure_bind (fun _ => settled) fun _ => ?_
  have unblocked : assertNotBlockedEitherWay.Serves (billing pair) (fun _ t => Settled pair t)
      id s := by
    refine Prog.serves_select fun t moved => ?_
    refine Prog.serves_ensure_bind (fun _ => moved.settled settled) fun _ => ?_
    refine Prog.serves_select fun u further => ?_
    have here := further.settled (moved.settled settled)
    unfold Prog.ensure
    split
    · exact Prog.serves_pure here
    · exact Prog.serves_fail here
  refine unblocked.seq (fun _ t settled => ?_) (fun _ _ settled => settled)
  refine Prog.serves_select fun u moved => ?_
  refine Prog.serves_ensure_bind (fun _ => moved.settled settled) fun _ => ?_
  refine Prog.serves_select fun v further => ?_
  have here := further.settled (moved.settled settled)
  cases row : v.sub with
  | none => exact subscribePaid_serves ⟨here, row, by simp, Nat.le_refl v.clock⟩
  | some sub =>
    refine Prog.serves_ensure_bind (fun _ => here) fun stopped => ?_
    refine Prog.serves_select fun w later => ?_
    have now := later.settled here
    have found := later.sub.trans row
    split
    next running =>
      refine (resumeCancelledWithinPeriod_serves now found running.1).seq
        (fun resumed x left => ?_) (fun _ _ left => left.1)
      cases resumed with
      | some row => exact announceResumed_serves left.1 row
      | none => exact subscribePaid_serves (left.2 rfl)
    next notRunning =>
      refine subscribePaid_serves ⟨now, found, fun sub' same => ?_, Nat.le_refl w.clock⟩
      cases same
      -- A row that does not renew and is not CANCELLED within its period is past it.
      cases status : sub.status with
      | active => simp [CreatorSubscription.renews, status] at stopped
      | grace => simp [CreatorSubscription.renews, status] at stopped
      | cancelled => simpa [status] using notRunning
      | expired => exact (now.row sub found).ended (.inr status)

theorem createSubscription_serves (settled : Settled pair s) :
    (createSubscription pair).Serves (billing pair) (fun _ t => Settled pair t) id s := by
  refine Prog.Serves.bind (Prog.Serves.attempt ((createSubscriptionOnce_serves settled).imp ?_))
  intro outcome t settled
  cases outcome with
  | ok row => exact Prog.serves_pure settled
  | error error =>
    cases error with
    | app error => exact Prog.serves_fail settled
    | serializationAbort => exact Prog.serves_fail settled
    | uniqueViolation => exact createSubscriptionOnce_serves settled

end Handlers

/-! ### Runs -/

theorem handler_serves (request : Request) (mine : (billing pair).mine request)
    (s : SubscriptionDb) (settled : Settled pair s) (due : RunsWhenDue request s) :
    (handler pair request).Serves (billing pair) (fun _ t => Settled pair t) id s := by
  cases request with
  | createSubscription =>
    refine Prog.Serves.seq (createSubscription_serves settled) (fun _ t settled => ?_)
      (fun _ _ settled => settled)
    exact Prog.serves_pure settled
  | cancelSubscription => exact cancelSubscription_serves settled
  | blockUser byCreator => exact blockUser_serves settled byCreator
  | processRenewalJob => exact processRenewalJob_serves settled due
  | processGraceJob => exact processGraceJob_serves settled
  | unblockUser byCreator => cases mine
  | wait duration => cases mine
  | elsewhere change => cases mine
  | queueMove queue job => cases mine

theorem handler_meanwhile (request : Request) (other : ¬ (billing pair).mine request) :
    (handler pair request).Writes fun f => ∀ s, (billing pair).env s (f s) := by
  cases request with
  | createSubscription => exact absurd rfl other
  | cancelSubscription => exact absurd rfl other
  | blockUser byCreator => exact absurd rfl other
  | processRenewalJob => exact absurd rfl other
  | processGraceJob => exact absurd rfl other
  | unblockUser byCreator =>
    refine fun s => (Prog.writes_ensure_bind _ _ _).mpr fun _ => ?_
    refine (Prog.writes_autocommit _ _).mpr fun t => ?_
    split <;> exact ⟨Nat.le_refl _, rfl, rfl, rfl⟩
  | wait duration =>
    exact (Prog.writes_autocommit _ _).mpr fun t => ⟨Nat.le_add_right _ _, rfl, rfl, rfl⟩
  | elsewhere change =>
    refine (Prog.writes_autocommit _ _).mpr fun t => ?_
    split
    next same => exact ⟨Nat.le_refl _, rfl, rfl, same⟩
    next => exact ⟨Nat.le_refl _, rfl, rfl, rfl⟩
  | queueMove queue job =>
    exact (Prog.writes_autocommit _ _).mpr fun t => ⟨Nat.le_refl _, rfl, rfl, rfl⟩

/-- `paidAccessWhere`. -/
def SubscriptionDb.hasAccess (db : SubscriptionDb) : Bool :=
  db.sub.any fun sub =>
    sub.status = .active ∨ (sub.status = .cancelled ∧ db.clock < sub.nextRenewalAt)

structure Unsubscribed (pair : Pair) (db : SubscriptionDb) : Prop where
  sub : db.sub = none
  granted : db.granted = []
  charges : charges pair db.money = []

theorem Unsubscribed.settled {db : SubscriptionDb} (fresh : Unsubscribed pair db) :
    Settled pair db := by
  have none : chargeKeys pair db.money = [] := by rw [chargeKeys, fresh.charges, List.map_nil]
  rw [Settled, none]
  refine ⟨by rw [fresh.granted]; rfl, List.nodup_nil, by rw [fresh.granted]; exact .nil,
    fun _ => fresh.granted, fun sub row => ?_⟩
  rw [fresh.sub] at row
  cases row

/-- The account of a pair at rest: as many debits as periods granted, each key charged once, no two
periods overlap, a paid renewal has moved `nextRenewalAt` past its period, and a period that is
paid for can be used until it ends. -/
structure BilledOnce (pair : Pair) (db : SubscriptionDb) : Prop where
  balanced : (charges pair db.money).length = db.granted.length
  once : ((charges pair db.money).map fun entry => entry.idempotencyKey).Nodup
  apart : db.granted.Pairwise fun earlier later => earlier.finish ≤ later.start
  renewed : ∀ entry ∈ charges pair db.money, ∀ due,
    entry.idempotencyKey = .subscriptionRenewal pair.subscriptionId due →
    ∃ sub, db.sub = some sub ∧ due + SUBSCRIPTION_PERIOD_MS ≤ sub.nextRenewalAt
  access : ∀ period ∈ db.granted, db.clock < period.finish → db.hasAccess = true

theorem Settled.billedOnce {db : SubscriptionDb} (settled : Settled pair db) :
    BilledOnce pair db := by
  have subscribed : db.granted ≠ [] → ∃ sub, db.sub = some sub := by
    intro some
    refine Option.isSome_iff_exists.mp (Option.isSome_iff_ne_none.mpr fun none => ?_)
    exact some (settled.unsubscribed none)
  have balanced := settled.balanced
  rw [chargeKeys, List.length_map] at balanced
  refine ⟨balanced, settled.once, settled.ordered, ?_, ?_⟩
  · intro entry member due key
    have positive : 0 < db.granted.length := balanced ▸ List.length_pos_of_mem member
    obtain ⟨sub, row⟩ := subscribed (List.length_pos_iff.mp positive)
    have charged := (settled.row sub row).charged entry.idempotencyKey
      (List.mem_map_of_mem member)
    exact ⟨sub, row, charged due (by rw [key]; rfl)⟩
  · intro period member running
    obtain ⟨sub, row⟩ := subscribed (List.ne_nil_of_mem member)
    have account := settled.row sub row
    have inside : db.clock < sub.nextRenewalAt :=
      Nat.lt_of_lt_of_le running (account.granted period member)
    have notOver : ¬ (sub.status = .grace ∨ sub.status = .expired) :=
      fun elapsed => Nat.not_le.mpr inside (account.ended elapsed)
    cases status : sub.status <;> simp_all [SubscriptionDb.hasAccess]

/-- In every run in which the requests of the pair are served one at a time, renewal jobs run only
when they are due, and no request dies between a debit and its period: the account is right
whenever none of them is in progress, and every step bills soundly. -/
theorem billed_once {db : SubscriptionDb} {c : Config Request SubscriptionDb Lock LedgerError}
    (fresh : Unsubscribed pair db)
    (run : Reaches (handler pair) ((billing pair).Allows RunsWhenDue) (Config.idle db) c) :
    ((billing pair).Quiet c → BilledOnce pair c.db) ∧
      ∀ e c', (billing pair).Allows RunsWhenDue c e → c.apply (handler pair) e = some c' →
        BillsSoundly pair c.db c'.db := by
  have orderly := run.orderly handler_serves handler_meanwhile fresh.settled
  refine ⟨fun quiet => Settled.billedOnce (orderly.resting quiet), ?_⟩
  intro e c' allowed applied
  rcases (orderly.apply handler_serves handler_meanwhile allowed applied).2 with moved | step
  · exact moved.soundly
  · exact step

/-! ### A sample run, and where it goes wrong -/

/-- The executable form of the discipline, for runs in which nothing dies. -/
private def checkBilling (c : Config Request SubscriptionDb Lock LedgerError) :
    Event Request → Bool
  | .start request =>
    !request.ofPair ||
      (c.threads.all (fun t => !t.request.ofPair || t.prog.finished) &&
        c.db.sub.all fun sub => sub.nextRenewalAt ≤ c.db.clock)
  | .advance _ => true
  | .crash _ => false

private theorem checkBilling_sound (c : Config Request SubscriptionDb Lock LedgerError)
    (e : Event Request) (checked : checkBilling c e = true) :
    (billing samplePair).Allows RunsWhenDue c e := by
  cases e with
  | start request =>
    intro mine
    have asked : request.ofPair = true := mine
    simp only [checkBilling, asked, Bool.not_true, Bool.false_or, Bool.and_eq_true,
      List.all_eq_true, Option.all_eq_true, decide_eq_true_eq] at checked
    refine ⟨fun t member mine => ?_, fun _ sub row _ => checked.2 sub row⟩
    have ofPair : t.request.ofPair = true := mine
    simpa [ofPair] using checked.1 t member
  | advance i => trivial
  | crash i => cases checked

/-- Subscribed, and renewed when the first period was over. -/
def renewedEvents : List (Event Request) :=
  serve Request.createSubscription 0 36 ++ serve (Request.wait SUBSCRIPTION_PERIOD_MS) 1 2 ++
    serve Request.processRenewalJob 2 35

private def atRest (count : Nat) (c : Config Request SubscriptionDb Lock LedgerError) : Bool :=
  c.threads.all (fun t => t.prog.finished) && (charges samplePair c.db.money).length = count

private theorem quiet_of_atRest {count : Nat}
    {c : Config Request SubscriptionDb Lock LedgerError} (rests : atRest count c = true) :
    (billing pair).Quiet c ∧ (charges samplePair c.db.money).length = count := by
  simp only [atRest, Bool.and_eq_true, List.all_eq_true, decide_eq_true_eq] at rests
  exact ⟨fun t member _ => rests.1 t member, rests.2⟩

private theorem unsubscribed_funded (coins : Int) : Unsubscribed samplePair (funded coins) :=
  ⟨rfl, rfl, rfl⟩

theorem billed_once_renewed :
    ∃ c : Config Request SubscriptionDb Lock LedgerError,
      Reaches (handler samplePair) ((billing samplePair).Allows RunsWhenDue)
        (Config.idle (funded 200000)) c ∧
      (charges samplePair c.db.money).length = 2 ∧ BilledOnce samplePair c.db := by
  obtain ⟨c, run, rests⟩ : ∃ c, Reaches (handler samplePair)
      ((billing samplePair).Allows RunsWhenDue) (Config.idle (funded 200000)) c ∧
      atRest 2 c = true :=
    exists_reaches_checked checkBilling_sound [renewedEvents] (by decide +kernel)
  obtain ⟨quiet, count⟩ := quiet_of_atRest rests
  exact ⟨c, run, count, (billed_once (unsubscribed_funded 200000) run).1 quiet⟩

/-- The renewal job dies after its debit has been committed. -/
def diedEvents : List (Event Request) :=
  serve Request.createSubscription 0 36 ++ serve (Request.wait SUBSCRIPTION_PERIOD_MS) 1 2 ++
    serve Request.processRenewalJob 2 26 ++ [Event.crash 2]

/-- A pair that is at rest has not always got what it paid for. -/
theorem not_billed_once :
    ¬ ∀ (pair : Pair) (db : SubscriptionDb)
        (c : Config Request SubscriptionDb Lock LedgerError),
      Unsubscribed pair db → Reaches (handler pair) (fun _ _ => True) (Config.idle db) c →
      ((billing pair).Quiet c → BilledOnce pair c.db) ∧
        ∀ e c', c.apply (handler pair) e = some c' → BillsSoundly pair c.db c'.db := by
  intro claim
  obtain ⟨c, run, passed⟩ : ∃ c, Reaches (handler samplePair) (fun _ _ => True)
      (Config.idle (funded 200000)) c ∧ (atRest 2 c && c.db.granted.length = 1) = true :=
    exists_reaches [diedEvents] (by decide +kernel)
  rw [Bool.and_eq_true, decide_eq_true_eq] at passed
  obtain ⟨quiet, count⟩ := quiet_of_atRest passed.1
  have billed := (claim samplePair _ c (unsubscribed_funded 200000) run).1 quiet
  have balanced := billed.balanced
  rw [count, passed.2] at balanced
  cases balanced

end OlNode.Subscriptions
