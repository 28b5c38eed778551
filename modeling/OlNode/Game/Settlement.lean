import OlNode.Game.Rounds

/-!
# Every game round is settled once

The callbacks are followed statement by statement. A unique violation on a ledger key or on the link
means that the order is settled; one on a wallet row has no such meaning, so the results hold for
runs in which no settlement runs into a wallet row that was created under it.
-/
namespace OlNode.Games

open ReadCommitted InternalLedger

/-! ### Statement by statement -/

section Bodies

variable {request : Request} {held : Set Lock} {draft : Draft} {s : GameDb}
  {err : LedgerError → GameDb → Prop} {ok : Unit → Set Lock → (GameDb → GameDb) → GameDb → Prop}

theorem insertWallet_relies {wallet : Wallet} (own : wallet ∉ draft.wallets)
    (inserted : ∀ t held', held ⊆ held' → .walletRow wallet ∈ held' → settling.Rely held s t →
      ok () held' (Draft.apply { draft with wallets := draft.wallets ++ [wallet] }) t)
    (throws : ∀ t, settling.Rely held s t → OrderLinked t request.params → err .uniqueViolation t) :
    (insertWallet wallet).Relies settling request ok err held draft.apply s := by
  refine Tx.relies_lockRow fun t rely allowed => Tx.relies_select fun u further => ?_
  have later : settling.Rely held s u := rely.trans (further.mono (Set.subset_insert _ _))
  have kept : wallet ∈ t.wallets ↔ wallet ∈ u.wallets := further.same _ (Set.mem_insert _ _)
  refine Tx.relies_ensure_bind (fun taken => ?_) fun _ v last _ => ?_
  · -- the row was there when the INSERT began to wait, so the run allows it only if settled
    have present : wallet ∈ u.wallets := by
      simpa [Draft.apply, own] using taken
    rcases allowed wallet rfl with absent | linked
    · exact absurd (kept.mpr present) absent
    · exact throws u later (orderLinked_grows further.grows linked)
  · rw [Draft.apply_wallet]
    refine inserted v _ ?_ ?_ (later.trans (last.mono (Set.subset_insert _ _)))
    · exact (Set.subset_insert _ _).trans (Set.subset_insert _ _)
    · exact Set.mem_insert _ _

theorem getOrCreate_relies {wallet : Wallet}
    (found : ∀ t, settling.Rely held s t → ok () held draft.apply t)
    (inserted : ∀ t held', held ⊆ held' → .walletRow wallet ∈ held' → settling.Rely held s t →
      ok () held' (Draft.apply { draft with wallets := draft.wallets ++ [wallet] }) t)
    (throws : ∀ t, settling.Rely held s t → OrderLinked t request.params → err .uniqueViolation t) :
    (getOrCreate wallet).Relies settling request ok err held draft.apply s := by
  refine Tx.relies_select fun t rely => ?_
  split
  next present => exact found t rely
  next absent =>
    have own : wallet ∉ draft.wallets := by
      intro member
      simp [Draft.apply, member] at absent
    refine insertWallet_relies own ?_ ?_
    · exact fun u held' sub row further => inserted u held' sub row (rely.trans further)
    · exact fun u further => throws u (rely.trans further)

theorem books : Books settling GameDb.money fun money db => db.setMoney money where
  get_set _ _ := rfl
  wallet _ _ _ same := same
  coinKey _ _ _ same := same

theorem draft_appends (draft : Draft) : Appends GameDb.money draft.apply draft.rows :=
  fun _ => rfl

/-- One leg: the row of its key if there is one, else a new row on the locked wallet. -/
theorem leg_relies {ok : LedgerReceipt → Set Lock → (GameDb → GameDb) → GameDb → Prop}
    {isDebit : Bool} {userId : UserId} {amount : Int} {txType : CoinTxType} {key : LedgerKey}
    (sound : Sound s) (own : findByKey draft.rows key = none)
    (found : ∀ t row, settling.Rely held s t → findByKey t.money.coinLedger key = some row →
      ok ⟨key, row.balanceAfter⟩ held draft.apply t)
    (posted : ∀ t held' row, held ⊆ held' → .wallet (diamonds userId) ∈ held' →
      .coinKey key ∈ held' → settling.Rely held s t → findByKey t.money.coinLedger key = none →
      LegRow row isDebit userId amount key
        (latestBalance (t.money.coinLedger ++ draft.rows) (diamonds userId)) →
      ok ⟨key, row.balanceAfter⟩ held' (Draft.apply { draft with rows := draft.rows ++ [row] }) t)
    (throws : ∀ error t, settling.Rely held s t →
      (error = .uniqueViolation → findByKey t.money.coinLedger key ≠ none) → err error t) :
    (leg isDebit userId amount txType key).Relies settling request ok err held draft.apply s := by
  cases isDebit with
  | true =>
    refine books.debit_relies sound (draft_appends draft) own rfl found ?_ throws
    intro t held' row sub wallet keyHeld rely absent fits
    have written := posted t held' row sub wallet keyHeld rely absent
      ⟨fits.positive, fits.wallet, fits.key, fits.direction, fits.balanceAfter,
        fun _ => fits.covered rfl, fits.amount⟩
    exact draft.apply_row row ▸ written
  | false =>
    refine books.credit_relies sound (draft_appends draft) own rfl found ?_ throws
    intro t held' row sub wallet keyHeld rely absent fits
    have written := posted t held' row sub wallet keyHeld rely absent
      ⟨fits.positive, fits.wallet, fits.key, fits.direction, fits.balanceAfter, nofun, fits.amount⟩
    exact draft.apply_row row ▸ written

theorem createLink_relies {providerId orderId : Nat} {link : GameRoundLedgerLink}
    (fits : link.For providerId orderId) (first : draft.links = [])
    (created : ∀ t held', held ⊆ held' → .gameLink providerId orderId ∈ held' →
      settling.Rely held s t → ¬ Linked t providerId orderId →
      ok () held' (Draft.apply { draft with links := [link] }) t)
    (throws : ∀ t, settling.Rely held s t → Linked t providerId orderId → err .uniqueViolation t) :
    (createLink link).Relies settling request ok err held draft.apply s := by
  unfold createLink
  rw [fits.provider, fits.order]
  refine Tx.relies_lockRow fun t rely _ => Tx.relies_select fun u further => ?_
  have later := rely.trans (further.mono (Set.subset_insert _ _))
  have view : (draft.apply u).links = u.links := by simp [Draft.apply, first]
  rw [view]
  refine Tx.relies_ensure_bind (fun taken => ?_) fun free v last _ => ?_
  · rw [Bool.not_eq_false', List.any_eq_true] at taken
    obtain ⟨other, member, clash⟩ := taken
    exact throws u later (linked_of_clash later.inv fits member clash)
  · have unlinked : ¬ Linked u providerId orderId := by
      rintro ⟨other, member, provider, order⟩
      rw [Bool.not_eq_true', List.any_eq_false] at free
      refine free other member ?_
      simp [GameRoundLedgerLink.clashes, fits.provider, fits.order, provider, order]
    have kept : Linked u providerId orderId ↔ Linked v providerId orderId :=
      last.same (.gameLink providerId orderId) (Set.mem_insert _ _)
    rw [Draft.apply_link, first]
    refine created v _ ?_ ?_ (later.trans (last.mono (Set.subset_insert _ _)))
      fun linked => unlinked (kept.mpr linked)
    · exact (Set.subset_insert _ _).trans (Set.subset_insert _ _)
    · exact Set.mem_insert _ _

end Bodies

/-! ### The transaction -/

section Transaction

variable {request : Request} {held : Set Lock} {s : GameDb} {err : LedgerError → GameDb → Prop}
  {ok : Unit → Set Lock → (GameDb → GameDb) → GameDb → Prop} {session : GameSession}
  {houseUserId : UserId} {params : ChangeBalanceParams} {wallets : List Wallet}

def roundOf (session : GameSession) (houseUserId : UserId) (params : ChangeBalanceParams) :
    Round :=
  let settlement := resolveSettlement params.diffMsg params.currencyDiff
  { providerId := session.providerId, orderId := params.orderId, userId := session.userId,
    houseUserId, userIsDebit := settlement.userIsDebit, amount := settlement.amount }

theorem settle_relies (sound : Sound s) (created : ∀ wallet ∈ wallets, .walletRow wallet ∈ held)
    (ready : ∀ t held' userRow houseRow link, settling.Rely held s t →
      Ready (roundOf session houseUserId params) held' wallets userRow houseRow link t →
      ok () held' (commitRound wallets userRow houseRow link) t)
    (throws : ∀ error t, settling.Rely held s t →
      (error = .uniqueViolation → Linked t session.providerId params.orderId) → err error t) :
    (settle session houseUserId params).Relies settling request ok err held
      (Draft.apply { wallets }) s := by
  have linkedOf : ∀ t key, Sound t → (key = .gameRoundUser session.providerId params.orderId ∨
      key = .gameRoundHouse session.providerId params.orderId) →
      findByKey t.money.coinLedger key ≠ none → Linked t session.providerId params.orderId :=
    fun t key inv own taken => by
      by_contra unlinked
      exact taken ((findByKey_leg (inv.orders _ _) own).mpr unlinked)
  refine Tx.Relies.bind (leg_relies sound rfl ?_ ?_ ?_)
  · -- the user's row is there: so is the house's, and the link is refused
    intro t userRow rely present
    have linked := linkedOf t _ rely.inv (.inl rfl) (by simp [present])
    refine Tx.Relies.bind (leg_relies rely.inv rfl ?_ ?_ ?_)
    · intro u houseRow further found
      refine createLink_relies ⟨rfl, rfl, rfl, rfl⟩ rfl ?_ ?_
      · exact fun v held' _ _ last unlinked =>
          absurd ((further.trans last).grows.linked _ _ linked) unlinked
      · exact fun v last still => throws _ v ((rely.trans further).trans last) fun _ => still
    · intro u held' houseRow _ _ _ further absent _
      have unlinked := (findByKey_leg (further.inv.orders _ _) (.inr rfl)).mp absent
      exact absurd (further.grows.linked _ _ linked) unlinked
    · exact fun error u further taken => throws error u (rely.trans further) fun unique =>
        linkedOf u _ further.inv (.inr rfl) (taken unique)
  · intro t held' userRow sub userWallet userKey rely absent userFits
    have notHouse : findByKey [userRow] (.gameRoundHouse session.providerId params.orderId) =
        none := by
      simp [findByKey, userFits.key]
    refine Tx.Relies.bind (leg_relies rely.inv notHouse ?_ ?_ ?_)
    · -- the key of the user's row is locked, so the house's row cannot have come
      intro u houseRow further found
      have kept : findByKey t.money.coinLedger (.gameRoundUser session.providerId params.orderId) =
          none ↔ findByKey u.money.coinLedger
            (.gameRoundUser session.providerId params.orderId) = none := further.same _ userKey
      have unlinked := (findByKey_leg (further.inv.orders _ _) (.inl rfl)).mp (kept.mp absent)
      have linked := linkedOf u _ further.inv (.inr rfl) (by simp [found])
      exact absurd linked unlinked
    · intro u held'' houseRow sub' houseWallet houseKey further absentHouse houseFits
      have now := rely.trans (further.mono sub)
      refine createLink_relies ⟨rfl, rfl, rfl, rfl⟩ rfl ?_ ?_
      · intro v final sub'' order last unlinked
        have userBalance : latestBalance t.money.coinLedger (diamonds session.userId) =
            latestBalance v.money.coinLedger (diamonds session.userId) :=
          (further.trans (last.mono sub')).same _ userWallet
        have houseBalance : latestBalance u.money.coinLedger (diamonds houseUserId) =
            latestBalance v.money.coinLedger (diamonds houseUserId) := last.same _ houseWallet
        rw [List.append_nil, userBalance] at userFits
        refine ready v final userRow houseRow _ (now.trans (last.mono (sub.trans sub')))
          { unlinked, fits := ⟨rfl, rfl, rfl, rfl⟩, player := rfl, user := userFits,
            house := latestBalance_append_congr houseBalance ▸ houseFits,
            userWallet := sub'' (sub' userWallet), houseWallet := sub'' houseWallet,
            userKey := sub'' (sub' userKey), houseKey := sub'' houseKey, order,
            created := fun wallet member => sub'' (sub' (sub (created wallet member))) }
      · exact fun v last linked => throws _ v (now.trans (last.mono (sub.trans sub'))) fun _ =>
          linked
    · exact fun error u further taken => throws error u (rely.trans (further.mono sub)) fun unique =>
        linkedOf u _ further.inv (.inr rfl) (taken unique)
  · exact fun error t rely taken => throws error t rely fun unique =>
      linkedOf t _ rely.inv (.inl rfl) (taken unique)

/-- Commits that change nothing are always in order. -/
theorem keeps_refl (sound : Sound s) (held : Set Lock) : settling.Keeps request held s s :=
  ⟨sound, settling.grows_refl s, fun row _ => settling.same_refl row s, .inl ⟨rfl, rfl⟩⟩

/-- What a settlement commits, and what it leaves behind. -/
def Commits (request : Request) : Unit → Set Lock → (GameDb → GameDb) → GameDb → Prop :=
  fun _ held w s => ∀ t, settling.Rely held s t →
    settling.Keeps request held t (w t) ∧ OrderLinked (w t) request.params

variable (mine : s.session request.params.ssToken = some session)
include mine

/-- The session of the call is still the one it has read. -/
theorem orderLinked_of_linked {t : GameDb} (grows : Grows s t)
    (linked : Linked t session.providerId request.params.orderId) : OrderLinked t request.params :=
  ⟨session, grows.session ▸ mine, linked⟩

theorem lockAndSettle_relies (created : ∀ wallet ∈ wallets, .walletRow wallet ∈ held)
    (throws : ∀ error t, settling.Rely held s t →
      (error = .uniqueViolation → OrderLinked t request.params) → err error t) :
    (onMoney (lockWalletsInOrder [diamonds session.userId, diamonds houseUserId]) >>= fun _ =>
      settle session houseUserId request.params).Relies settling request (Commits request) err held
      (Draft.apply { wallets }) s := by
  refine fun t rely _ u further _ => ?_
  have later := rely.trans (further.mono (Set.subset_insert _ _))
  have sub : held ⊆ insert (.wallet (diamonds houseUserId))
      (insert (.wallet (diamonds session.userId)) held) :=
    (Set.subset_insert _ _).trans (Set.subset_insert _ _)
  refine settle_relies later.inv (fun wallet member => sub (created wallet member)) ?_ ?_
  · intro v held' userRow houseRow link settled ready x last
    have keeps := (ready.rely last).keeps last.inv request
    have linked : Linked (commitRound wallets userRow houseRow link x) session.providerId
        request.params.orderId :=
      ⟨link, List.mem_append_right _ (List.mem_singleton_self link), ready.fits.provider,
        ready.fits.order⟩
    have grows : Grows s x :=
      settling.grows_trans _ _ _ (later.trans (settled.mono sub)).grows last.grows
    exact ⟨keeps, orderLinked_of_linked mine (settling.grows_trans _ _ _ grows keeps.grows) linked⟩
  · intro error v last linked
    have upTo := later.trans (last.mono sub)
    exact throws error v upTo fun unique => orderLinked_of_linked mine upTo.grows (linked unique)

theorem runSettlement_relies :
    (runSettlement session houseUserId request.params).Relies settling request (Commits request)
      (fun error t => error = .uniqueViolation → OrderLinked t request.params) ∅ id s := by
  refine Tx.relies_select fun t rely => ?_
  dsimp only [id]
  have mineAt : ∀ {u}, settling.Rely ∅ s u → u.session request.params.ssToken = some session :=
    fun since => since.grows.session ▸ mine
  cases dup : findLink t session.providerId request.params.orderId with
  | some link =>
    have linked : Linked t session.providerId request.params.orderId := by
      by_contra unlinked
      rw [findLink_eq_none.mpr unlinked] at dup
      cases dup
    have ordered := orderLinked_of_linked mine rely.grows linked
    exact fun u further => ⟨keeps_refl further.inv ∅, orderLinked_grows further.grows ordered⟩
  | none =>
    rw [← Draft.apply_empty]
    refine Tx.Relies.bind (getOrCreate_relies ?_ ?_ ?_)
    · intro u further
      have now := rely.trans further
      refine Tx.Relies.bind (getOrCreate_relies ?_ ?_ ?_)
      · exact fun v last => lockAndSettle_relies (mineAt (now.trans last)) nofun
          fun _ _ _ linked => linked
      · exact fun v held' _ row last => lockAndSettle_relies (mineAt (now.trans last))
          (by simpa using row) fun _ _ _ linked => linked
      · exact fun v last linked _ => linked
    · intro u held' _ row further
      have now := rely.trans further
      have upTo : ∀ v, settling.Rely held' u v → settling.Rely ∅ s v :=
        fun v last => now.trans (last.mono (Set.empty_subset held'))
      refine Tx.Relies.bind (getOrCreate_relies ?_ ?_ ?_)
      · exact fun v last => lockAndSettle_relies (mineAt (upTo v last)) (by simpa using row)
          fun _ _ _ linked => linked
      · exact fun v held'' sub row' last => lockAndSettle_relies (mineAt (upTo v last))
          (by simpa using ⟨sub row, row'⟩) fun _ _ _ linked => linked
      · exact fun v last linked _ => linked
    · exact fun u further linked _ => linked

end Transaction

/-! ### The callback -/

section Handlers

variable {request : Request} {s : GameDb} {session : GameSession} {houseUserId : UserId}

/-- A settlement that returns, or fails on a unique index, leaves the order settled. -/
def Attempted {α : Type} (request : Request) : Except LedgerError α → GameDb → Prop
  | .ok _, t => OrderLinked t request.params
  | .error error, t => error = .uniqueViolation → OrderLinked t request.params

theorem settleOnce_relies (aborts : List Nat) (sound : Sound s)
    (mine : s.session request.params.ssToken = some session) :
    (settleOnce aborts session houseUserId request.params).Relies settling request
      (fun result t => result = .ok () → OrderLinked t request.params) ∅ id s := by
  have attempts : (withSerializationRetry (runSettlement session houseUserId request.params) 3
      aborts).Relies settling request (Attempted request) ∅ id s := by
    refine withSerializationRetry_relies
      (fun t => t.session request.params.ssToken = some session) ?_ ?_ sound mine 3 aborts ?_
    · exact fun t u rely found => rely.grows.session ▸ found
    · exact fun t _ found => (runSettlement_relies found).imp
        (fun _ _ _ _ commits u rely _ => commits u rely) fun _ _ thrown => thrown
    · exact fun _ _ _ => nofun
  refine attempts.attempt_bind fun outcome t left => ?_
  cases outcome with
  | ok value => exact Prog.relies_pure fun _ => left
  | error error =>
    dsimp only
    split
    next unique => exact Prog.relies_pure fun _ => left unique
    next => exact Prog.relies_fail nofun

/-- Writes that concern neither the ledger nor the links. -/
theorem Sound.aside {t : GameDb} (sound : Sound s) (money : t.money = s.money)
    (links : t.links = s.links) (answers : ∀ answer ∈ t.answered, OrderLinked t answer.1) :
    Sound t where
  orders p o := by
    have sameLinks : linksOf t p o = linksOf s p o := by rw [linksOf, links, linksOf]
    have sameRows : movements t p o = movements s p o := by rw [movements, money, movements]
    cases sound.orders p o with
    | unsettled noLinks noRows => exact .unsettled (sameLinks.trans noLinks) (sameRows.trans noRows)
    | settled link userRow houseRow present fits rows legs =>
      exact .settled link userRow houseRow (sameLinks.trans present) fits (sameRows.trans rows) legs
  noDebt := by rw [money]; exact sound.noDebt
  answers := answers

theorem grows_aside {t : GameDb} (links : t.links = s.links) (session : t.session = s.session) :
    Grows s t :=
  ⟨session, fun p o linked => by rwa [Linked, links]⟩

theorem keeps_aside {held : Set Lock} {t : GameDb} (sound : Sound s) (money : t.money = s.money)
    (links : t.links = s.links) (session : t.session = s.session)
    (wallets : ∀ wallet, .walletRow wallet ∉ held → (wallet ∈ s.wallets ↔ wallet ∈ t.wallets))
    (answers : ∀ answer ∈ t.answered, OrderLinked t answer.1) :
    settling.Keeps request held s t where
  inv := sound.aside money links answers
  grows := grows_aside links session
  same row free := by
    cases row <;> simp only [Protected, settling, money, Linked, links]
    case walletRow wallet => exact wallets wallet free
  step := .inl ⟨by rw [money], links⟩

theorem setCache_relies (wallet : Wallet) (balance : Option Int)
    (linked : OrderLinked s request.params) :
    (setCache wallet balance).Relies settling request
      (fun _ t => OrderLinked t request.params) ∅ id s := by
  refine Prog.relies_autocommit fun t rely _ u further _ => ?_
  have now := orderLinked_grows further.grows (orderLinked_grows rely.grows linked)
  have grows : Grows u { u with cache := Function.update u.cache wallet balance } :=
    grows_aside rfl rfl
  refine ⟨keeps_aside further.inv rfl rfl rfl (fun _ _ => Iff.rfl) ?_, orderLinked_grows grows now⟩
  exact fun answer member => orderLinked_grows grows (further.inv.answers answer member)

theorem createWallet_relies (wallet : Wallet) (linked : OrderLinked s request.params) :
    (Prog.transaction (getOrCreate wallet)).Relies settling request
      (fun _ t => OrderLinked t request.params) ∅ id s := by
  refine Prog.relies_transaction ?_
  rw [← Draft.apply_empty]
  refine getOrCreate_relies ?_ ?_ ?_
  · intro t rely u further _
    have now := orderLinked_grows further.grows (orderLinked_grows rely.grows linked)
    rw [Draft.apply_empty]
    exact ⟨keeps_refl further.inv ∅, now⟩
  · intro t held _ row rely u further _
    have now := orderLinked_grows further.grows (orderLinked_grows rely.grows linked)
    have grows : Grows u (Draft.apply { wallets := [wallet] } u) :=
      grows_aside (by simp [Draft.apply]) rfl
    refine ⟨keeps_aside further.inv (by simp [Draft.apply]) (by simp [Draft.apply]) rfl ?_ ?_,
      orderLinked_grows grows now⟩
    · intro other free
      have different : other ≠ wallet := by
        rintro rfl
        exact free row
      simp [Draft.apply, different]
    · exact fun answer member => orderLinked_grows grows (further.inv.answers answer member)
  · exact fun t _ settled => settled

theorem getBalance_relies (wallet : Wallet) (linked : OrderLinked s request.params) :
    (getBalance wallet).Relies settling request (fun _ t => OrderLinked t request.params) ∅ id
      s := by
  refine Prog.relies_select fun t rely => ?_
  have linkedT := orderLinked_grows rely.grows linked
  cases t.cache wallet with
  | some balance => exact Prog.relies_pure linkedT
  | none =>
    refine Prog.relies_select fun u again => ?_
    have linkedU := orderLinked_grows again.grows linkedT
    cases u.cache wallet with
    | some balance => exact Prog.relies_pure linkedU
    | none =>
      refine (createWallet_relies wallet linkedU).bind (fun _ v linkedV => ?_) fun _ _ left => left
      refine Prog.relies_select fun x read => ?_
      refine (setCache_relies wallet _ (orderLinked_grows read.grows linkedV)).bind ?_
        fun _ _ left => left
      exact fun _ y left => Prog.relies_pure left

theorem settleAndReport_relies (mine : s.session request.params.ssToken = some session) :
    (settleAndReport request.env session houseUserId request.params).Relies settling request
      (fun result t => ∀ balance, result = .ok balance → OrderLinked t request.params) ∅ id s := by
  refine Prog.relies_select fun t rely => ?_
  have mineT : t.session request.params.ssToken = some session := rely.grows.session ▸ mine
  cases existing : findLink t session.providerId request.params.orderId with
  | some link =>
    have linked : Linked t session.providerId request.params.orderId := by
      by_contra unlinked
      rw [findLink_eq_none.mpr unlinked] at existing
      cases existing
    refine (getBalance_relies _ ⟨session, mineT, linked⟩).imp ?_
    exact fun _ _ left _ _ => left
  | none =>
    refine (settleOnce_relies request.env.aborts rely.inv mineT).bind (fun _ u settled => ?_)
      fun _ _ _ => nofun
    refine (setCache_relies _ _ (settled rfl)).bind (fun _ v left => ?_) fun _ _ _ => nofun
    refine (setCache_relies _ _ left).bind (fun _ x left => ?_) fun _ _ _ => nofun
    exact (getBalance_relies _ left).imp fun _ _ left _ _ => left

theorem changeBalance_relies :
    (changeBalance request.env request.params).Relies settling request
      (fun result t => ∀ balance, result = .ok balance → OrderLinked t request.params) ∅ id s := by
  refine Prog.relies_ensure_bind (fun _ => nofun) fun _ => ?_
  refine Prog.relies_select fun t rely => ?_
  cases found : t.session request.params.ssToken with
  | none => exact Prog.relies_fail nofun
  | some session =>
    dsimp only
    cases sessionRefusal request.env session request.params.userId with
    | some error => exact Prog.relies_fail nofun
    | none =>
      refine Prog.relies_select fun u further => ?_
      have mine : u.session request.params.ssToken = some session := further.grows.session ▸ found
      cases u.gameHouseUserId with
      | none => exact Prog.relies_fail nofun
      | some houseUserId => exact settleAndReport_relies mine

theorem handler_relies (request : Request) (s : GameDb) :
    (handler request).Abides settling request s := by
  refine changeBalance_relies.bind (fun balance t returned => ?_) fun _ _ _ => trivial
  refine Prog.relies_autocommit fun u rely _ v further _ => ⟨?_, trivial⟩
  have grows : Grows v { v with answered := v.answered ++ [(request.params, balance)] } :=
    grows_aside rfl rfl
  refine keeps_aside further.inv rfl rfl rfl (fun _ _ => Iff.rfl) fun answer member => ?_
  refine orderLinked_grows grows ?_
  rcases List.mem_append.mp member with before | last
  · exact further.inv.answers answer before
  · rw [List.mem_singleton] at last
    subst last
    have now := orderLinked_grows rely.grows (returned balance rfl)
    exact orderLinked_grows further.grows now

end Handlers

/-! ### Runs -/

/-- No call inserts a wallet row that somebody else has committed since it looked, unless its order
is settled by then. -/
def NoWalletRace (c : GameConfig) (e : Event Request) : Prop :=
  ∀ i t wallet, e = .advance i → c.threads[i]? = some t →
    t.statement = some (.lock (.walletRow wallet)) →
    wallet ∉ c.db.wallets ∨ OrderLinked c.db t.request.params

theorem NoWalletRace.allows {c : GameConfig} {e : Event Request} (free : NoWalletRace c e) :
    settling.Allows c e := by
  cases e with
  | advance i =>
    rintro t statement found next wallet rfl
    exact free i t wallet rfl found next
  | _ => trivial

theorem settled_once {db : GameDb} {c : GameConfig} (sound : Sound db)
    (run : Reaches handler NoWalletRace (Config.idle db) c) :
    Sound c.db ∧ ∀ e c', NoWalletRace c e → c.apply handler e = some c' →
      SettlesOrKeeps c.db c'.db := by
  have handlers : ∀ request s, settling.inv s →
      (handler request).Abides settling request s :=
    fun request s _ => handler_relies request s
  have observed := run.observed handlers (fun _ _ free => free.allows) sound
  refine ⟨observed.inv, fun e c' free applied => ?_⟩
  rcases (observed.apply handlers free.allows applied).2 with same | ⟨i, t, -, -, keeps⟩
  · exact .inl (by rw [same]; exact ⟨rfl, rfl⟩)
  · exact keeps.step

def houseFunds : CoinLedgerEntry :=
  { wallet := diamonds 9, direction := .credit, txType := .topup, amount := 1000,
    balanceAfter := 1000, idempotencyKey := .other 0 }

/-- A house with 1000 diamonds and a player without a wallet. -/
def newPlayer : GameDb where
  money := { MoneyDb.empty with coinLedger := [houseFunds] }
  wallets := [diamonds 9]
  cache := fun _ => none
  session := fun token => if token = 1 then some ⟨5, 7, some 100⟩ else none
  gameHouseUserId := some 9
  links := []
  answered := []

theorem newPlayer_sound : Sound newPlayer where
  orders providerId orderId := .unsettled rfl (by simp [movements, newPlayer, houseFunds])
  noDebt userId := by
    by_cases house : userId = 9
    · subst house
      decide
    · have other : ¬ diamonds 9 = diamonds userId := by
        intro same
        exact house (Wallet.mk.inj same).1.symm
      simp [latestBalance, newest, newPlayer, houseFunds, other]
  answers := nofun

def win (orderId : Nat) : Request where
  env := { now := 10, enforceUserCheck := true, aborts := [] }
  params := { ssToken := 1, currencyDiff := 50, diffMsg := .result, gameId := 3, roomId := none,
              orderId, userId := some 5 }

private def walletFree (c : GameConfig) : Event Request → Bool
  | .advance i =>
    match c.threads[i]? with
    | none => true
    | some t =>
      match t.statement with
      | some (.lock (.walletRow wallet)) => !c.db.wallets.contains wallet
      | _ => true
  | _ => true

private theorem walletFree_sound (c : GameConfig) (e : Event Request)
    (checked : walletFree c e = true) : NoWalletRace c e := by
  rintro i t wallet rfl found atInsert
  left
  simpa [walletFree, found, atInsert] using checked

/-- The wallet is created by the settlement of an order, which then comes a second time. -/
theorem settled_once_newPlayer : ∃ c : GameConfig,
    Reaches handler NoWalletRace (Config.idle newPlayer) c ∧ c.db.answered.length = 2 ∧
      c.db.links.length = 1 ∧ Sound c.db := by
  obtain ⟨c, run, answered, links⟩ : ∃ c, Reaches handler NoWalletRace (Config.idle newPlayer) c ∧
      c.db.answered.length = 2 ∧ c.db.links.length = 1 :=
    exists_reaches_checked walletFree_sound [serve (win 1) 0 41, serve (win 1) 1 6]
      (by decide +kernel)
  exact ⟨c, run, answered, links, (settled_once newPlayer_sound run).1⟩

/-- Two orders of a new player at once: the second one to insert the wallet is answered as settled
without having been settled. -/
theorem not_settled_once : ¬ ∀ (db : GameDb) (c : GameConfig), Sound db →
    Reaches handler (fun _ _ => True) (Config.idle db) c → Sound c.db := by
  intro claim
  obtain ⟨c, run, answered, unlinked⟩ : ∃ c, Reaches handler (fun _ _ => True)
      (Config.idle newPlayer) c ∧ (c.db.answered.map (·.1)).contains (win 1).params ∧
      ∀ link ∈ c.db.links, link.orderId ≠ 1 :=
    exists_reaches [.start (win 1) :: List.replicate 5 (.advance 0), serve (win 2) 1 41,
      List.replicate 16 (.advance 0)] (by decide +kernel)
  rw [List.contains_iff_mem, List.mem_map] at answered
  obtain ⟨answer, member, same⟩ := answered
  obtain ⟨session, -, link, present, -, order⟩ := (claim newPlayer c newPlayer_sound run).answers
    answer member
  rw [same] at order
  exact unlinked link present order

end OlNode.Games
