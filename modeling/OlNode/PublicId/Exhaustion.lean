import OlNode.PublicId.Allocation
import OlNode.PublicId.Hundreds
import OlNode.ReadCommitted.Within

/-!
# Allocation that runs dry

A call alone tries the 200 ids from the position of the sequence on. They hold one whole hundred, so
the call fails only where its leading digits make VIP ids of all of it, and the other ids are VIP ids
too. A stretch of 10,000 such ids begins at 34560000.
-/
namespace OlNode.PublicIds

open ReadCommitted

/-- The first value that the sequence hands out next. -/
def PublicIdDb.position (db : PublicIdDb) : Int := db.nextValue.getD INITIAL_VALUE

structure VipOnly (db : PublicIdDb) : Prop where
  cached : ∀ publicId ∈ db.vipReserved, (classifyPublicId publicId).isVip = true
  catalogued : ∀ row ∈ db.vipPublicIds, (classifyPublicId row.publicId).isVip = true

/-- The search over the ids themselves. -/
def firstPlain : Nat → Int → Except PublicIdError (Int × VipClassification)
  | 0, _ => .error .exhausted
  | n + 1, publicId =>
    if (classifyPublicId publicId).isVip then firstPlain n (publicId + 1)
    else .ok (publicId, classifyPublicId publicId)

/-- The least id from the position on that is not VIP. -/
def LeastPlain (position publicId : Int) : Prop :=
  position ≤ publicId ∧ (classifyPublicId publicId).isVip = false ∧
    ∀ other, position ≤ other → other < publicId → (classifyPublicId other).isVip = true

theorem firstPlain_ok {n : Nat} {position publicId : Int} {classification : VipClassification}
    (found : firstPlain n position = .ok (publicId, classification)) :
    classification = classifyPublicId publicId ∧ LeastPlain position publicId ∧
      publicId < position + n := by
  induction n generalizing position with
  | zero => simp [firstPlain] at found
  | succ n ih =>
    rw [firstPlain] at found
    split at found
    next vip =>
      obtain ⟨same, ⟨after, plain, least⟩, within⟩ := ih found
      refine ⟨same, ⟨by omega, plain, ?_⟩, by omega⟩
      intro other reached before
      rcases Int.lt_or_eq_of_le reached with later | rfl
      · exact least other (by omega) before
      · exact vip
    next plain =>
      simp only [Except.ok.injEq, Prod.mk.injEq] at found
      obtain ⟨rfl, rfl⟩ := found
      refine ⟨rfl, ⟨le_rfl, by simpa using plain, ?_⟩, by omega⟩
      intro other reached before
      omega

theorem firstPlain_error {n : Nat} {position : Int} {error : PublicIdError}
    (failed : firstPlain n position = .error error) : error = .exhausted ∧
      ∀ publicId, position ≤ publicId → publicId < position + n →
        (classifyPublicId publicId).isVip = true := by
  induction n generalizing position with
  | zero =>
    simp only [firstPlain, Except.error.injEq] at failed
    refine ⟨failed.symm, fun publicId reached before => ?_⟩
    omega
  | succ n ih =>
    rw [firstPlain] at failed
    split at failed
    next vip =>
      obtain ⟨same, all⟩ := ih failed
      refine ⟨same, fun publicId reached before => ?_⟩
      rcases Int.lt_or_eq_of_le reached with later | rfl
      · exact all publicId (by omega) (by omega)
      · exact vip
    next => simp at failed

/-! ### One call alone -/

section Call

variable (override : Nat → Option Nat) {α : Type} {db : PublicIdDb}

theorem call_getNextAndIncrement_bind (k : Int → PublicIdProg α) {next : Int}
    (sequence : db.nextValue = some next) :
    (getNextAndIncrement >>= k).call db = (k next).call (db.take next (some (next + 1))) := by
  simp [getNextAndIncrement, Prog.call_transaction_bind, sequence, nextOf]

/-- The first call ever creates the sequence with the value that it gets. -/
theorem call_getNextAndIncrement_bind_first (k : Int → PublicIdProg α)
    (fresh : db.nextValue = none) : (getNextAndIncrement >>= k).call db =
      (k INITIAL_VALUE).call (db.take INITIAL_VALUE (some INITIAL_VALUE)) := by
  have created : createSequence.eval db =
      .ok ((), db.take INITIAL_VALUE (some INITIAL_VALUE)) := by
    simp [createSequence, fresh]
  rw [getNextAndIncrement, Prog.call_transaction_bind, Tx.eval_select_bind, fresh, nextOf,
    Tx.eval_bind_of_ok _ created, Tx.eval_pure]

theorem call_isReserved_bind (k : Bool → PublicIdProg α) (publicId : Int) :
    (isReserved publicId >>= k).call db =
      if publicId ∈ db.vipReserved then (k true).call db
      else if inCatalogue db publicId then (k true).call (db.sadd publicId)
      else (k false).call db := by
  rw [isReserved, Prog.bind_assoc, Prog.call_select_bind]
  by_cases cached : publicId ∈ db.vipReserved
  · simp [cached]
  · rw [if_neg cached, decide_eq_false cached, if_neg Bool.false_ne_true, lookUpReserved,
      Prog.bind_assoc, Prog.call_select_bind]
    cases inCatalogue db publicId with
    | true =>
      rw [if_pos rfl, if_pos rfl, reserveInCache, Prog.bind_assoc, Prog.call_autocommit_bind,
        Prog.call_pure_bind]
    | false => simp

variable {publicId : Int}

theorem call_enrolInline_bind (k : Unit → PublicIdProg α) (free : inCatalogue db publicId = false) :
    (enrolInline override publicId >>= k).call db =
      (k ()).call ((db.enrol (catalogueRow override publicId)).sadd publicId) := by
  rw [enrolInline, Prog.bind_assoc, Prog.transactionCatch_bind, Prog.call_run]
  simp [createVipPublicId, free]

theorem VipOnly.sadd (only : VipOnly db) (vip : (classifyPublicId publicId).isVip = true) :
    VipOnly (db.sadd publicId) where
  cached := by
    intro other member
    unfold PublicIdDb.sadd at member
    dsimp only at member
    split at member
    · exact only.cached other member
    · rcases List.mem_append.mp member with before | last
      · exact only.cached other before
      · rwa [List.mem_singleton.mp last]
  catalogued := only.catalogued

theorem VipOnly.enrol (only : VipOnly db) {row : VipPublicId}
    (vip : (classifyPublicId row.publicId).isVip = true) : VipOnly (db.enrol row) where
  cached := only.cached
  catalogued := by
    intro other member
    rcases List.mem_append.mp member with before | last
    · exact only.catalogued other before
    · rwa [List.mem_singleton.mp last]

theorem VipOnly.inCatalogue (only : VipOnly db) (found : inCatalogue db publicId = true) :
    (classifyPublicId publicId).isVip = true := by
  obtain ⟨row, member, same⟩ := List.any_eq_true.mp found
  rw [← of_decide_eq_true same]
  exact only.catalogued row member

theorem VipOnly.call_isReserved_bind (only : VipOnly db)
    (plain : ¬ (classifyPublicId publicId).isVip = true) (k : Bool → PublicIdProg α) :
    (isReserved publicId >>= k).call db = (k false).call db := by
  have uncached : publicId ∉ db.vipReserved := fun member => plain (only.cached publicId member)
  have uncatalogued : ¬ PublicIds.inCatalogue db publicId = true :=
    fun found => plain (only.inCatalogue found)
  rw [PublicIds.call_isReserved_bind, if_neg uncached, if_neg uncatalogued]

/-- The call finds what the search finds: a VIP id is passed over, reserved or not. -/
theorem call_nextNonReservedNonVip (n : Nat) (only : VipOnly db) {next : Int}
    (sequence : db.nextValue = some next) :
    ((nextNonReservedNonVip override n).call db).1 = firstPlain n next := by
  induction n generalizing db next with
  | zero => rfl
  | succ n ih =>
    have taken : VipOnly (db.take next (some (next + 1))) := ⟨only.cached, only.catalogued⟩
    rw [nextNonReservedNonVip, firstPlain, call_getNextAndIncrement_bind _ sequence]
    by_cases vip : (classifyPublicId next).isVip = true
    · rw [if_pos vip, call_isReserved_bind]
      split
      · exact ih taken rfl
      · split
        · exact ih (taken.sadd vip) rfl
        next free =>
          rw [Bool.not_eq_true] at free
          rw [if_neg Bool.false_ne_true, call_enrolInline_bind override _ free]
          have enrolled := @VipOnly.enrol _ taken (catalogueRow override next) vip
          exact ih (enrolled.sadd vip) rfl
    · rw [taken.call_isReserved_bind vip, if_neg Bool.false_ne_true, if_neg vip, if_neg vip]
      rfl

theorem call_nextNonReservedNonVip_first (n : Nat) (only : VipOnly db)
    (fresh : db.nextValue = none) : ((nextNonReservedNonVip override (n + 1)).call db).1 =
      .ok (INITIAL_VALUE, classifyPublicId INITIAL_VALUE) := by
  have taken : VipOnly (db.take INITIAL_VALUE (some INITIAL_VALUE)) :=
    ⟨only.cached, only.catalogued⟩
  have plain : ¬ (classifyPublicId INITIAL_VALUE).isVip = true := by decide
  rw [nextNonReservedNonVip, call_getNextAndIncrement_bind_first _ fresh]
  generalize INITIAL_VALUE = first at taken plain ⊢
  rw [taken.call_isReserved_bind plain, if_neg Bool.false_ne_true, if_neg plain]
  rfl

end Call

/-- What a call finds is what the search finds from the position on. -/
theorem call_eq_firstPlain (override : Nat → Option Nat) (n : Nat) {db : PublicIdDb}
    (only : VipOnly db) : ((nextNonReservedNonVip override (n + 1)).call db).1 =
      firstPlain (n + 1) db.position := by
  cases sequence : db.nextValue with
  | none =>
    have plain : ¬ (classifyPublicId INITIAL_VALUE).isVip = true := by decide
    rw [call_nextNonReservedNonVip_first override n only sequence, PublicIdDb.position, sequence,
      Option.getD_none, firstPlain, if_neg plain]
  | some next =>
    rw [call_nextNonReservedNonVip override (n + 1) only sequence, PublicIdDb.position, sequence,
      Option.getD_some]

/-! ### Where the sequence runs dry -/

/-- The first whole hundred at or after the position. -/
def wholeHundred (position : Int) : Nat := ((position + 99) / 100).toNat

/-- The whole hundred is fixed, and the other ids of the 200 are VIP ids too. -/
def RunsDryAt (position : Int) : Prop :=
  fixedHundred (wholeHundred position) = true ∧
    ∀ publicId, position ≤ publicId → publicId < position + MAX_ITERATIONS →
      publicId < 100 * wholeHundred position ∨ 100 * wholeHundred position + 100 ≤ publicId →
        (classifyPublicId publicId).isVip = true

theorem runsDryAt_iff {position : Int} (started : INITIAL_VALUE ≤ position) :
    RunsDryAt position ↔ ∀ publicId, position ≤ publicId →
      publicId < position + MAX_ITERATIONS → (classifyPublicId publicId).isVip = true := by
  unfold INITIAL_VALUE at started
  have whole : (wholeHundred position : Int) = (position + 99) / 100 := by
    unfold wholeHundred
    omega
  have fixed := @fixedHundred_iff (wholeHundred position) (by omega)
  unfold RunsDryAt
  rw [fixed]
  constructor
  · rintro ⟨hundred, rest⟩ publicId reached within
    by_cases outside : publicId < 100 * wholeHundred position ∨
        100 * wholeHundred position + 100 ≤ publicId
    · exact rest publicId reached within outside
    · have vip := hundred (publicId - 100 * wholeHundred position).toNat (by omega)
      have same : ((100 * wholeHundred position +
          (publicId - 100 * wholeHundred position).toNat : Nat) : Int) = publicId := by omega
      rwa [same] at vip
  · intro all
    refine ⟨fun s within => all _ ?_ ?_, fun publicId reached within _ =>
      all publicId reached within⟩
    · omega
    · unfold MAX_ITERATIONS
      omega

/-- A call alone gets the least id from the position on that is not VIP. -/
def Allocates (override : Nat → Option Nat) (db : PublicIdDb) : Prop :=
  ∃ publicId, ((nextNonReservedNonVip override MAX_ITERATIONS).call db).1 =
    .ok (publicId, classifyPublicId publicId) ∧ LeastPlain db.position publicId

/-- A call alone gets an id except where the sequence runs dry. -/
theorem allocates_iff (override : Nat → Option Nat) {db : PublicIdDb} (only : VipOnly db)
    (started : INITIAL_VALUE ≤ db.position) :
    Allocates override db ↔ ¬ RunsDryAt db.position := by
  have call := call_eq_firstPlain override 199 only
  have iterations : 199 + 1 = MAX_ITERATIONS := rfl
  rw [iterations] at call
  rw [runsDryAt_iff started, Allocates, call]
  cases found : firstPlain MAX_ITERATIONS db.position with
  | ok result =>
    obtain ⟨publicId, classification⟩ := result
    obtain ⟨rfl, least, within⟩ := firstPlain_ok found
    constructor
    · intro _ dry
      have vip := dry publicId least.1 within
      rw [least.2.1] at vip
      exact Bool.false_ne_true vip
    · exact fun _ => ⟨publicId, rfl, least⟩
  | error error =>
    obtain ⟨-, dry⟩ := firstPlain_error found
    constructor
    · rintro ⟨publicId, returned, -⟩
      cases returned
    · exact fun notDry => absurd dry notDry

/-! ### In every run -/

/-- Only VIP ids are reserved, and none is returned. -/
structure Apart (db : PublicIdDb) : Prop where
  only : VipOnly db
  plain : ∀ publicId ∈ db.returned, (classifyPublicId publicId).isVip = false

section Within

variable {publicId : Int}

private def Calls (Q : Except PublicIdError α → Prop) (p : PublicIdProg α) : Prop :=
  p.WithinTo Apart (fun _ _ => True) Q

private theorem harmless_sadd (vip : (classifyPublicId publicId).isVip = true) :
    Harmless Apart (fun _ _ => True) (·.sadd publicId) :=
  fun _ apart => ⟨⟨apart.only.sadd vip, apart.plain⟩, trivial⟩

private theorem harmless_take (value : Int) (nextValue : PublicIdDb → Option Int) :
    Harmless Apart (fun _ _ => True) fun db => db.take value (nextValue db) :=
  fun _ apart => ⟨⟨⟨apart.only.cached, apart.only.catalogued⟩, apart.plain⟩, trivial⟩

private theorem getNextAndIncrement_calls : Calls (fun _ => True) getNextAndIncrement := by
  have created : createSequence.WithinTo Apart (fun _ _ => True) fun _ => True :=
    Tx.withinTo_lockRow_bind (Tx.withinTo_select_bind fun _ _ =>
      Tx.withinTo_ensure_bind trivial ⟨harmless_take _ _, trivial⟩)
  refine Prog.withinTo_transaction (Tx.withinTo_select_bind fun s _ => ?_)
  cases s.nextValue with
  | none => exact created.bind (fun _ _ => trivial) fun _ _ => trivial
  | some next => exact Tx.withinTo_update_bind (harmless_take next _) trivial

private theorem isReserved_calls (publicId : Int) : Calls (fun _ => True) (isReserved publicId) := by
  refine Prog.withinTo_select_bind fun s _ => ?_
  split
  · trivial
  -- What the catalogue has may enter the cache, since it is VIP.
  refine Prog.withinTo_select_bind fun t apart => ?_
  split
  next found => exact ⟨harmless_sadd (apart.only.inCatalogue found), trivial⟩
  next => trivial

private theorem enrolInline_calls (override : Nat → Option Nat)
    (vip : (classifyPublicId publicId).isVip = true) :
    Calls (fun _ => True) (enrolInline override publicId) := by
  have created : (createVipPublicId override publicId).WithinTo Apart (fun _ _ => True)
      fun _ => True :=
    Tx.withinTo_lockRow_bind (Tx.withinTo_select_bind fun _ _ => Tx.withinTo_ensure_bind trivial
      ⟨fun _ apart => ⟨⟨apart.only.enrol vip, apart.plain⟩, trivial⟩, trivial⟩)
  unfold enrolInline Calls
  rw [Prog.transactionCatch_bind]
  exact Prog.withinTo_run created (fun _ _ => ⟨harmless_sadd vip, trivial⟩)
    fun _ _ => ⟨harmless_sadd vip, trivial⟩

private theorem nextNonReservedNonVip_calls (override : Nat → Option Nat) (n : Nat) :
    Calls (fun outcome => ∀ result, outcome = .ok result →
      (classifyPublicId result.1).isVip = false) (nextNonReservedNonVip override n) := by
  have thrown : ∀ e : PublicIdError, True → ∀ result : Int × VipClassification,
      Except.error e = .ok result → (classifyPublicId result.1).isVip = false :=
    fun _ _ _ returned => by cases returned
  induction n with
  | zero => exact fun _ returned => by cases returned
  | succ n ih =>
    refine getNextAndIncrement_calls.bind (fun publicId _ => ?_) thrown
    refine (isReserved_calls publicId).bind (fun reserved _ => ?_) thrown
    split
    · exact ih
    split
    next vip => exact (enrolInline_calls override vip).bind (fun _ _ => ih) thrown
    next plain =>
      rintro result ⟨⟩
      exact Bool.eq_false_iff.mpr plain

end Within

/-- Whatever calls interleave or die, and whether or not the sequence exists: an id that is returned
is not VIP, and is never reserved or catalogued. -/
theorem returned_apart (override : Nat → Option Nat) {db : PublicIdDb} (only : VipOnly db)
    (start : db.returned = []) {c : Config UserId PublicIdDb Lock PublicIdError}
    (run : Reaches (getNextPublicId override) (fun _ _ => True) (Config.idle db) c) :
    ∀ publicId ∈ c.db.returned, (classifyPublicId publicId).isVip = false ∧
      publicId ∉ c.db.vipReserved ∧ ∀ row ∈ c.db.vipPublicIds, row.publicId ≠ publicId := by
  have apart := (run.within (I := Apart) (R := fun _ _ => True) (fun _ => trivial)
    (fun _ _ _ _ _ => trivial) (fun _ request _ => ?_) ⟨only, by simp [Config.idle, start]⟩
    (by simp [Config.idle])).1
  · intro publicId member
    have plain := apart.plain publicId member
    refine ⟨plain, fun reserved => ?_, fun row enrolled same => ?_⟩
    · simp [apart.only.cached publicId reserved] at plain
    · simp [← same, apart.only.catalogued row enrolled] at plain
  · -- The search ends with an id that is not VIP, and only then is it recorded.
    refine ((nextNonReservedNonVip_calls override MAX_ITERATIONS).bind (fun result plain => ?_)
      fun _ _ => trivial : Calls (fun _ => True) (getNextPublicId override request)).within
    refine ⟨fun s apart => ⟨⟨⟨apart.only.cached, apart.only.catalogued⟩, ?_⟩, trivial⟩, trivial⟩
    intro publicId member
    rcases List.mem_append.mp member with before | last
    · exact apart.plain publicId before
    · exact List.mem_singleton.mp last ▸ plain result rfl

/-- The first two calls ever both return the initial value. -/
theorem returned_apart_initial :
    ∃ c : Config UserId PublicIdDb Lock PublicIdError, c.db.returned = [34216589, 34216589] ∧
      ∀ publicId ∈ c.db.returned, (classifyPublicId publicId).isVip = false ∧
        publicId ∉ c.db.vipReserved ∧ ∀ row ∈ c.db.vipPublicIds, row.publicId ≠ publicId := by
  obtain ⟨c, run, returned⟩ : ∃ c, Reaches (getNextPublicId fun _ => none) (fun _ _ => True)
      (Config.idle { nextValue := none, vipPublicIds := [], vipReserved := [] }) c ∧
      c.db.returned = [34216589, 34216589] :=
    exists_reaches [serve 1 0 9, serve 2 1 7] (by decide +kernel)
  exact ⟨c, returned, returned_apart _ ⟨by simp, by simp⟩ rfl run⟩

/-- A sequence that has just been created, and one reserved id. -/
def oneReserved (position : Int) : PublicIdDb where
  nextValue := some position
  vipPublicIds := []
  vipReserved := [34444444]

theorem vipOnly_oneReserved (position : Int) : VipOnly (oneReserved position) :=
  ⟨by simp only [oneReserved]; decide, by simp [oneReserved]⟩

/-- The first two ids are VIP, for their four nines and four zeros. -/
theorem allocates_iff_nines : (classifyPublicId 34219999).isVip = true ∧
    (classifyPublicId 34220000).isVip = true ∧ Allocates (fun _ => none) (oneReserved 34219999) := by
  refine ⟨by decide, by decide, ?_⟩
  refine (allocates_iff (fun _ => none) (vipOnly_oneReserved _) (by decide)).mpr ?_
  rintro ⟨fixed, -⟩
  revert fixed
  decide

/-- The ids from 34560000 to 34569999 all begin with a half that ascends. -/
theorem allocation_runs_dry : INITIAL_VALUE ≤ (oneReserved 34560000).position ∧
    VipOnly (oneReserved 34560000) ∧
      ((nextNonReservedNonVip (fun _ => none) MAX_ITERATIONS).call (oneReserved 34560000)).1 =
        .error .exhausted := by
  have hundred := (@fixedHundred_iff 345600 (by omega)).mp (by decide)
  have next := (@fixedHundred_iff 345601 (by omega)).mp (by decide)
  have call := call_eq_firstPlain (fun _ => none) 199 (vipOnly_oneReserved 34560000)
  refine ⟨by decide, vipOnly_oneReserved _, call.trans ?_⟩
  have position : (oneReserved 34560000).position = 34560000 := rfl
  rw [position]
  cases found : firstPlain (199 + 1) 34560000 with
  | error error => rw [(firstPlain_error found).1]
  | ok result =>
    obtain ⟨-, ⟨reached, plain, -⟩, within⟩ := firstPlain_ok found
    have vip : (classifyPublicId result.1).isVip = true := by
      rcases Int.lt_or_le result.1 34560100 with first | second
      · have vip := hundred (result.1 - 34560000).toNat (by omega)
        have same : ((100 * 345600 + (result.1 - 34560000).toNat : Nat) : Int) = result.1 := by
          omega
        rwa [same] at vip
      · have vip := next (result.1 - 34560100).toNat (by omega)
        have same : ((100 * 345601 + (result.1 - 34560100).toNat : Nat) : Int) = result.1 := by
          omega
        rwa [same] at vip
    rw [plain] at vip
    exact absurd vip Bool.false_ne_true

end OlNode.PublicIds
