import OlNode.PublicId.Classifier
import OlNode.ReadCommitted.Tokens
import OlNode.Schema

/-!
# Allocation of public ids

`getNextPublicId` takes values from a sequence until one is neither reserved nor of a VIP pattern.
The value is read before the sequence is incremented, and the first use creates the sequence with
the value it hands out, so two calls may get the same id. As long as the sequence is there and each
increment finds the value that was read, no id is handed out twice.
-/
namespace OlNode.PublicIds

open ReadCommitted

/-- A row of `vip_public_ids`, as far as the allocator writes it. -/
structure VipPublicId where
  publicId : Int
  tier : VipTier
  priceGroup : PriceGroup
  rarityScore : Nat
  matchedRules : List String
  isAvailable : Bool
  priceCredits : Nat

/-- `nextValue` is the row of `next_public_id_sequence`, `vipReserved` the Redis set. `taken` and
`returned` record what the calls got from the sequence and what they returned, oldest first. -/
structure PublicIdDb where
  nextValue : Option Int
  vipPublicIds : List VipPublicId
  vipReserved : List Int
  taken : List Int := []
  returned : List Int := []

inductive Lock where
  | sequence | vipPublicId (publicId : Int) | vipReserved | answers
  deriving DecidableEq

inductive PublicIdError where
  | uniqueViolation
  | exhausted
  deriving DecidableEq

abbrev PublicIdTx := Tx PublicIdDb Lock PublicIdError
abbrev PublicIdProg := Prog PublicIdDb Lock PublicIdError

def INITIAL_VALUE : Int := 34216589

def MAX_ITERATIONS : Nat := 200

/-! ### The sequence -/

def PublicIdDb.take (db : PublicIdDb) (value : Int) (nextValue : Option Int) : PublicIdDb :=
  { db with nextValue, taken := db.taken ++ [value] }

def createSequence : PublicIdTx Unit := do
  Tx.lockRow .sequence
  let exists' ← Tx.select (·.nextValue.isSome)
  Tx.ensure (!exists') .uniqueViolation
  Tx.update .sequence fun db => db.take INITIAL_VALUE (some INITIAL_VALUE)

/-- The first value is handed out and stays the next value. -/
def nextOf : Option Int → PublicIdTx Int
  | none => do
    createSequence
    pure INITIAL_VALUE
  | some next => do
    Tx.update .sequence fun db => db.take next (db.nextValue.map (· + 1))
    pure next

def getNextAndIncrement : PublicIdProg Int :=
  Prog.transaction do
    let row ← Tx.select (·.nextValue)
    nextOf row

/-! ### Reservation -/

def PublicIdDb.sadd (db : PublicIdDb) (publicId : Int) : PublicIdDb :=
  { db with vipReserved := if publicId ∈ db.vipReserved then db.vipReserved
                           else db.vipReserved ++ [publicId] }

def inCatalogue (db : PublicIdDb) (publicId : Int) : Bool :=
  db.vipPublicIds.any (·.publicId = publicId)

def reserveInCache (publicId : Int) : PublicIdProg Bool := do
  Prog.autocommit .vipReserved (·.sadd publicId)
  pure true

def lookUpReserved (publicId : Int) : PublicIdProg Bool := do
  let row ← Prog.select (inCatalogue · publicId)
  if row then reserveInCache publicId else pure false

def isReserved (publicId : Int) : PublicIdProg Bool := do
  let cached ← Prog.select fun db => decide (publicId ∈ db.vipReserved)
  if cached then pure true else lookUpReserved publicId

def tierRank : VipTier → Option Nat
  | .bronze => some 1
  | .silver => some 2
  | .gold => some 3
  | .diamond => some 4
  | .none => none

def DEFAULT_BY_RANK : Nat → Nat
  | 1 => 9999
  | 2 => 49999
  | 3 => 149999
  | 4 => 499999
  | _ => 0

section Allocation

-- VIP_PRICE_TIER_1 to VIP_PRICE_TIER_4
variable (override : Nat → Option Nat)

def priceCreditsForTier (tier : VipTier) : Nat :=
  match tierRank tier with
  | none => 0
  | some rank => (override rank).getD (DEFAULT_BY_RANK rank)

def catalogueRow (publicId : Int) : VipPublicId :=
  let classification := classifyPublicId publicId
  { publicId, tier := classification.tier, priceGroup := classification.priceGroup,
    rarityScore := classification.rarityScore, matchedRules := classification.matchedRules,
    isAvailable := true, priceCredits := priceCreditsForTier override classification.tier }

def PublicIdDb.enrol (db : PublicIdDb) (row : VipPublicId) : PublicIdDb :=
  { db with vipPublicIds := db.vipPublicIds ++ [row] }

def createVipPublicId (publicId : Int) : PublicIdTx Unit := do
  Tx.lockRow (.vipPublicId publicId)
  let exists' ← Tx.select (inCatalogue · publicId)
  Tx.ensure (!exists') .uniqueViolation
  Tx.update (.vipPublicId publicId) (·.enrol (catalogueRow override publicId))

/-- A VIP id is enrolled in the catalogue; that this fails is only logged. -/
def enrolInline (publicId : Int) : PublicIdProg Unit := do
  Prog.transactionCatch (createVipPublicId override publicId) fun _ => pure ()
  Prog.autocommit .vipReserved (·.sadd publicId)

def nextNonReservedNonVip : Nat → PublicIdProg (Int × VipClassification)
  | 0 => Prog.fail .exhausted
  | n + 1 => do
    let id ← getNextAndIncrement
    let reserved ← isReserved id
    if reserved then nextNonReservedNonVip n
    else if (classifyPublicId id).isVip then do
      enrolInline override id
      nextNonReservedNonVip n
    else pure (id, classifyPublicId id)

def PublicIdDb.answer (db : PublicIdDb) (publicId : Int) : PublicIdDb :=
  { db with returned := db.returned ++ [publicId] }

/-- The call of a user, with its answer recorded. -/
def getNextPublicId (_userId : UserId) : PublicIdProg Unit := do
  let result ← nextNonReservedNonVip override MAX_ITERATIONS
  Prog.autocommit .answers (·.answer result.1)

end Allocation

/-! ### What a call holds -/

/-- The id a call has taken and not returned yet, and what it has found out about it. -/
inductive Token where
  | nothing
  | took (publicId : Int)
  | uncached (publicId : Int)
  | unreserved (publicId : Int)

def Token.held : Token → Option Int
  | .nothing => none
  | .took publicId => some publicId
  | .uncached publicId => some publicId
  | .unreserved publicId => some publicId

structure Owned (publicId : Int) (db : PublicIdDb) : Prop where
  taken : publicId ∈ db.taken
  unreturned : publicId ∉ db.returned

def Token.Valid (db : PublicIdDb) : Token → Prop
  | .nothing => True
  | .took publicId => Owned publicId db
  | .uncached publicId => Owned publicId db ∧ publicId ∉ db.vipReserved
  | .unreserved publicId =>
    Owned publicId db ∧ publicId ∉ db.vipReserved ∧ inCatalogue db publicId = false

variable {publicId : Int} {g : Token}

theorem Token.Valid.owned {db : PublicIdDb} (valid : g.Valid db) (holds : g.held = some publicId) :
    Owned publicId db := by
  cases g with
  | nothing => simp [Token.held] at holds
  | took other =>
    obtain rfl : other = publicId := by simpa [Token.held] using holds
    exact valid
  | uncached other =>
    obtain rfl : other = publicId := by simpa [Token.held] using holds
    exact valid.1
  | unreserved other =>
    obtain rfl : other = publicId := by simpa [Token.held] using holds
    exact valid.1

/-- What holds of the ids that were returned. -/
structure Unique (db : PublicIdDb) : Prop where
  next : ∃ next, db.nextValue = some next ∧ ∀ value ∈ db.taken, value < next
  distinct : db.returned.Nodup
  taken : ∀ publicId ∈ db.returned, publicId ∈ db.taken
  plain : ∀ publicId ∈ db.returned, (classifyPublicId publicId).isVip = false ∧
    publicId ∉ db.vipReserved ∧ inCatalogue db publicId = false

/-- The value a call takes is the one the sequence still holds when the call commits. -/
def Undisturbed (statement : Statement PublicIdDb Lock) (db : PublicIdDb) : Prop :=
  match statement with
  | .commit writes => ∀ value, (writes db).taken = db.taken ++ [value] → db.nextValue = some value
  | _ => True

def ownership : Tokens UserId PublicIdDb Lock Token where
  inv := Unique
  valid g db := g.Valid db
  compat g h := ∀ publicId, g.held = some publicId → h.held ≠ some publicId
  allows _ := Undisturbed
  free := .nothing
  free_valid _ := trivial
  free_compat _ _ held := by simp [Token.held] at held
  compat_symm _ _ apart publicId held same := apart publicId same held

/-! ### The statements of a call -/

/-- Nothing that concerns the id has changed from `s` to `t`. -/
structure Keeps (publicId : Int) (s t : PublicIdDb) : Prop where
  taken : publicId ∈ s.taken → publicId ∈ t.taken
  returned : publicId ∉ s.returned → publicId ∉ t.returned
  reserved : publicId ∉ s.vipReserved → publicId ∉ t.vipReserved
  catalogue : inCatalogue s publicId = false → inCatalogue t publicId = false

private theorem Owned.keeps {s t : PublicIdDb} (owned : Owned publicId s)
    (keeps : Keeps publicId s t) : Owned publicId t :=
  ⟨keeps.taken owned.taken, keeps.returned owned.unreturned⟩

theorem Token.Valid.keeps {s t : PublicIdDb} (valid : g.Valid s)
    (keeps : ∀ publicId, g.held = some publicId → Keeps publicId s t) : g.Valid t := by
  cases g with
  | nothing => trivial
  | took publicId => exact Owned.keeps valid (keeps publicId rfl)
  | uncached publicId =>
    exact ⟨valid.1.keeps (keeps publicId rfl), (keeps publicId rfl).reserved valid.2⟩
  | unreserved publicId =>
    exact ⟨valid.1.keeps (keeps publicId rfl), (keeps publicId rfl).reserved valid.2.1,
      (keeps publicId rfl).catalogue valid.2.2⟩

variable {s : PublicIdDb}

private theorem sadd_keeps {publicId other : Int} (different : other ≠ publicId) :
    Keeps other s (s.sadd publicId) where
  taken := id
  returned := id
  reserved absent := by
    unfold PublicIdDb.sadd
    dsimp only
    split <;> simp [absent, different]
  catalogue := id

private theorem enrol_keeps {row : VipPublicId} {other : Int} (different : other ≠ row.publicId) :
    Keeps other s (s.enrol row) where
  taken := id
  returned := id
  reserved := id
  catalogue absent := by
    simp only [inCatalogue, PublicIdDb.enrol, List.any_append, List.any_cons, List.any_nil,
      Bool.or_false, Bool.or_eq_false_iff, decide_eq_false_iff_not]
    exact ⟨absent, Ne.symm different⟩

private theorem exchange_own {g g' : Token} {s t : PublicIdDb} (holds : g.held = some publicId)
    (stays : g'.held = some publicId) (inv : Unique s) (valid : g.Valid s) (valid' : g'.Valid t)
    (next : t.nextValue = s.nextValue) (taken : t.taken = s.taken)
    (returned : t.returned = s.returned) (others : ∀ other, other ≠ publicId → Keeps other s t) :
    ownership.Exchange g g' s t := by
  have unreturned := (valid.owned holds).unreturned
  refine ⟨⟨?_, returned ▸ inv.distinct, ?_, ?_⟩, valid', ?_⟩
  · rw [next, taken]
    exact inv.next
  · rw [returned, taken]
    exact inv.taken
  · intro other member
    rw [returned] at member
    have different : other ≠ publicId := fun same => unreturned (same ▸ member)
    obtain ⟨plain, reserved, catalogue⟩ := inv.plain other member
    exact ⟨plain, (others other different).reserved reserved,
      (others other different).catalogue catalogue⟩
  · intro h validH apart
    constructor
    · refine validH.keeps fun other heldH => others other fun same => ?_
      exact apart publicId holds (same ▸ heldH)
    · intro other heldG
      rw [stays] at heldG
      exact apart other (heldG ▸ holds)

private theorem exchange_sadd (holds : g.held = some publicId) (inv : Unique s)
    (valid : g.Valid s) :
    ownership.Exchange g (.took publicId) s (s.sadd publicId) :=
  exchange_own holds rfl inv valid
    ⟨(valid.owned holds).taken, (valid.owned holds).unreturned⟩ rfl rfl rfl
    fun _ different => sadd_keeps different

private theorem exchange_enrol (row : VipPublicId) (holds : g.held = some row.publicId)
    (inv : Unique s) (valid : g.Valid s) :
    ownership.Exchange g (.took row.publicId) s (s.enrol row) :=
  exchange_own holds rfl inv valid
    ⟨(valid.owned holds).taken, (valid.owned holds).unreturned⟩ rfl rfl rfl
    fun _ different => enrol_keeps different

private theorem exchange_take {value : Int} (inv : Unique s) (current : s.nextValue = some value) :
    ownership.Exchange g (.took value) s (s.take value (s.nextValue.map (· + 1))) := by
  obtain ⟨next, found, below⟩ := inv.next
  obtain rfl : next = value := by
    rw [found] at current
    exact Option.some.inj current
  have untaken : next ∉ s.taken := fun member => lt_irrefl next (below next member)
  have keeps : ∀ other, Keeps other s (s.take next (s.nextValue.map (· + 1))) := fun other =>
    ⟨fun member => List.mem_append_left _ member, id, id, id⟩
  refine ⟨⟨⟨next + 1, ?_, ?_⟩, inv.distinct, ?_, inv.plain⟩, ⟨?_, ?_⟩, ?_⟩
  · rw [PublicIdDb.take, found]
    rfl
  · intro value member
    rcases List.mem_append.mp member with before | last
    · exact Int.lt_add_one_of_le (le_of_lt (below value before))
    · rw [List.mem_singleton.mp last]
      exact Int.lt_add_one_of_le le_rfl
  · exact fun publicId member => List.mem_append_left _ (inv.taken publicId member)
  · exact List.mem_append_right _ (List.mem_singleton.mpr rfl)
  · exact fun member => untaken (inv.taken next member)
  · intro h validH _
    refine ⟨validH.keeps fun other _ => keeps other, ?_⟩
    rintro publicId rfl' heldH
    obtain rfl : next = publicId := Option.some.inj rfl'
    exact untaken (validH.owned heldH).taken

private theorem exchange_answer (inv : Unique s)
    (plain : (classifyPublicId publicId).isVip = false)
    (valid : (Token.unreserved publicId).Valid s) :
    ownership.Exchange (.unreserved publicId) .nothing s (s.answer publicId) := by
  obtain ⟨⟨taken, unreturned⟩, reserved, catalogue⟩ := valid
  refine ⟨⟨inv.next, ?_, ?_, ?_⟩, trivial, ?_⟩
  · exact List.nodup_append.mpr ⟨inv.distinct, by simp, by
      rintro a member b last rfl
      exact unreturned (List.mem_singleton.mp last ▸ member)⟩
  · intro other member
    rcases List.mem_append.mp member with before | last
    · exact inv.taken other before
    · rw [List.mem_singleton.mp last]
      exact taken
  · intro other member
    rcases List.mem_append.mp member with before | last
    · exact inv.plain other before
    · rw [List.mem_singleton.mp last]
      exact ⟨plain, reserved, catalogue⟩
  · intro h validH apart
    refine ⟨validH.keeps fun other heldH => ⟨id, fun absent member => ?_, id, id⟩, ?_⟩
    · rcases List.mem_append.mp member with before | last
      · exact absent before
      · exact apart publicId rfl (List.mem_singleton.mp last ▸ heldH)
    · exact ownership.free_compat h

/-! ### Calls -/

section Calls

variable {userId : UserId}

private theorem getNextAndIncrement_holds (g : Token) :
    getNextAndIncrement.Holds ownership userId
      (fun outcome g' => ∀ value, outcome = .ok value → g' = .took value) g id := by
  refine Prog.holds_transaction (Tx.holds_select_bind fun s inv _ => ?_)
  obtain ⟨next, found, -⟩ := inv.next
  change (nextOf s.nextValue).Holds _ _ _ _ _ _
  rw [found]
  -- The sequence is there, so its value is taken and incremented.
  intro t inv' _ allowed
  have current : t.nextValue = some next := allowed next rfl
  refine ⟨.took next, exchange_take inv' current, ?_⟩
  rintro value ⟨⟩
  rfl

private theorem isReserved_holds (publicId : Int) :
    (isReserved publicId).Holds ownership userId
      (fun outcome g' => g'.held = some publicId ∧
        (outcome = .ok false → g' = .unreserved publicId)) (.took publicId) id := by
  refine Prog.holds_select_bind fun s inv valid => ?_
  by_cases cached : publicId ∈ s.vipReserved
  · refine ⟨.took publicId, .refl inv valid, ?_⟩
    rw [decide_eq_true cached, if_pos rfl]
    exact Prog.holds_pure ⟨rfl, fun free => by simp at free⟩
  · refine ⟨.uncached publicId, .learn inv ⟨valid, cached⟩ fun _ apart => apart, ?_⟩
    rw [decide_eq_false cached, if_neg Bool.false_ne_true]
    refine Prog.holds_select_bind fun t inv' valid' => ?_
    cases found : inCatalogue t publicId with
    | false =>
      refine ⟨.unreserved publicId,
        .learn inv' ⟨valid'.1, valid'.2, found⟩ fun _ apart => apart, ?_⟩
      exact Prog.holds_pure ⟨rfl, fun _ => rfl⟩
    | true =>
      refine ⟨.uncached publicId, .refl inv' valid', ?_⟩
      refine Prog.holds_autocommit_bind fun u invU validU _ => ?_
      refine ⟨.took publicId, exchange_sadd rfl invU validU, ?_⟩
      exact Prog.holds_pure ⟨rfl, fun free => by simp at free⟩

variable (override : Nat → Option Nat)

private theorem enrolInline_holds {publicId : Int} {g : Token} (holds : g.held = some publicId) :
    (enrolInline override publicId).Holds ownership userId (fun _ _ => True) g id := by
  have cached : ∀ g : Token, g.held = some publicId →
      (Prog.autocommit Lock.vipReserved (·.sadd publicId) : PublicIdProg Unit).Holds ownership
        userId (fun _ _ => True) g id := fun g holds => Prog.holds_autocommit
    fun s inv valid _ => ⟨_, exchange_sadd holds inv valid, trivial⟩
  unfold enrolInline
  rw [Prog.transactionCatch_bind]
  refine Prog.holds_run (Tx.holds_lockRow_bind (Tx.holds_select_bind fun _ _ _ => ?_))
  refine Tx.holds_ensure_bind (cached g holds) fun s inv valid _ => ?_
  have exchange : ownership.Exchange g (.took publicId) s
      (s.enrol (catalogueRow override publicId)) :=
    exchange_enrol (catalogueRow override publicId) holds inv valid
  exact ⟨.took publicId, exchange, cached _ rfl⟩

private theorem nextNonReservedNonVip_holds (n : Nat) (g : Token) :
    (nextNonReservedNonVip override n).Holds ownership userId
      (fun outcome g' => ∀ result, outcome = .ok result → g' = .unreserved result.1 ∧
        (classifyPublicId result.1).isVip = false) g id := by
  induction n generalizing g with
  | zero => exact Prog.holds_fail fun _ returned => by cases returned
  | succ n ih =>
    refine (getNextAndIncrement_holds g).bind ?_ fun _ _ _ _ returned => by cases returned
    intro publicId g took
    obtain rfl := took publicId rfl
    refine (isReserved_holds publicId).bind ?_ fun _ _ _ _ returned => by cases returned
    rintro reserved g ⟨holds, free⟩
    cases reserved with
    | true => exact ih g
    | false =>
      obtain rfl := free rfl
      rw [if_neg Bool.false_ne_true]
      by_cases vip : (classifyPublicId publicId).isVip
      · rw [if_pos vip]
        exact (enrolInline_holds override holds).bind (fun _ g _ => ih g)
          fun _ _ _ _ returned => by cases returned
      · rw [if_neg vip]
        refine Prog.holds_pure ?_
        rintro result ⟨⟩
        exact ⟨rfl, Bool.eq_false_iff.mpr vip⟩

private theorem getNextPublicId_holds (userId : UserId) :
    (getNextPublicId override userId).Holds ownership userId (fun _ _ => True)
      ownership.free id := by
  refine (nextNonReservedNonVip_holds override MAX_ITERATIONS _).bind ?_ fun _ _ _ => trivial
  intro result g returned
  obtain ⟨rfl, plain⟩ := returned result rfl
  exact Prog.holds_autocommit fun s inv valid _ =>
    ⟨.nothing, exchange_answer inv plain valid, trivial⟩

end Calls

/-- A call may commit an increment only if the sequence still has the value the call read. -/
def Orderly : Config UserId PublicIdDb Lock PublicIdError → Event UserId → Prop :=
  ownership.Allows

/-- Where the sequence exists and no increment is made on a value that was read before another one,
the ids that are returned are pairwise distinct, and none of them is or becomes VIP or reserved. -/
theorem publicIds_unique (override : Nat → Option Nat) (nextValue : Int)
    (vipPublicIds : List VipPublicId) (vipReserved : List Int)
    {c : Config UserId PublicIdDb Lock PublicIdError}
    (run : Reaches (getNextPublicId override) Orderly
      (Config.idle { nextValue := some nextValue, vipPublicIds, vipReserved }) c) :
    c.db.returned.Nodup ∧ ∀ publicId ∈ c.db.returned,
      (classifyPublicId publicId).isVip = false ∧ publicId ∉ c.db.vipReserved ∧
        ∀ row ∈ c.db.vipPublicIds, row.publicId ≠ publicId := by
  obtain ⟨token, held⟩ := run.held (getNextPublicId_holds override) (fun _ _ allowed => allowed)
    ⟨⟨nextValue, rfl, by simp⟩, by simp, by simp, by simp⟩
  refine ⟨held.inv.distinct, fun publicId member => ?_⟩
  obtain ⟨plain, reserved, catalogue⟩ := held.inv.plain publicId member
  refine ⟨plain, reserved, fun row enrolled same => ?_⟩
  simp only [inCatalogue, List.any_eq_false, decide_eq_true_eq] at catalogue
  exact catalogue row enrolled same

def oneAfterTheOther : List (Event UserId) := serve 1 0 7 ++ serve 2 1 7

/-- The check of the condition on a run of single steps. -/
private def takesCurrent (c : Config UserId PublicIdDb Lock PublicIdError) : Event UserId → Bool
  | .advance i => (c.threads[i]?).all fun t => (t.view c.db).taken = c.db.taken ||
      decide ((t.view c.db).taken.getLast? = c.db.nextValue)
  | _ => true

private theorem orderly_of_takesCurrent (c : Config UserId PublicIdDb Lock PublicIdError)
    (e : Event UserId) (checked : takesCurrent c e = true) : Orderly c e := by
  cases e with
  | start _ => trivial
  | crash _ => trivial
  | advance i =>
    intro t statement found stated
    rw [takesCurrent, found, Option.all_some, Bool.or_eq_true, decide_eq_true_eq,
      decide_eq_true_eq] at checked
    cases statement with
    | commit writes =>
      obtain rfl := Thread.statement_commit stated
      intro value taken
      rcases checked with same | current
      · rw [taken] at same
        simpa using congrArg List.length same
      · rw [taken] at current
        simpa using current.symm
    | _ => trivial

theorem publicIds_unique_in_turn :
    ∃ c : Config UserId PublicIdDb Lock PublicIdError, c.db.returned = [34216589, 34216590] ∧
      c.db.returned.Nodup ∧ ∀ publicId ∈ c.db.returned,
        (classifyPublicId publicId).isVip = false ∧ publicId ∉ c.db.vipReserved ∧
          ∀ row ∈ c.db.vipPublicIds, row.publicId ≠ publicId := by
  obtain ⟨c, run, returned⟩ : ∃ c, Reaches (getNextPublicId fun _ => none) Orderly
      (Config.idle { nextValue := some 34216589, vipPublicIds := [], vipReserved := [] }) c ∧
      c.db.returned = [34216589, 34216590] :=
    exists_reaches_checked orderly_of_takesCurrent [oneAfterTheOther] (by decide +kernel)
  exact ⟨c, returned, publicIds_unique _ _ _ _ run⟩

/-- The first two calls ever get the same id, one after the other. So do two calls that both read
the sequence before one of them increments it. -/
theorem publicIds_not_unique :
    (∃ c, Reaches (getNextPublicId fun _ => none) (fun _ _ => True)
      (Config.idle { nextValue := none, vipPublicIds := [], vipReserved := [] }) c ∧
      c.db.returned = [34216589, 34216589]) ∧
    ∃ c, Reaches (getNextPublicId fun _ => none) (fun _ _ => True)
      (Config.idle { nextValue := some 34216589, vipPublicIds := [], vipReserved := [] }) c ∧
      c.db.returned = [34216589, 34216589] := by
  constructor
  · exact exists_reaches [serve 1 0 9, serve 2 1 7] (by decide +kernel)
  · exact exists_reaches [serve 1 0 1, serve 2 1 7, List.replicate 6 (.advance 0)]
      (by decide +kernel)

end OlNode.PublicIds
