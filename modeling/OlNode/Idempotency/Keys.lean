import Mathlib.Data.List.Basic

/-!
# The texts of idempotency keys

Point exchanges, personal top-ups and agent point transfers spell their keys as strings: the marker
in Redis, the unique keys of ledger rows, orders and transfers. Which of them tell users apart is a
matter of the spelling. A user id is a UUID, so all have the same length, and whatever follows a
fixed text and a whole user id can be told from the same thing of another user. A ledger reference
of an exchange holds only the first eight characters of the id, and a top-up none of them.
-/
namespace OlNode.Idempotency

/-! ### Identifiers and client keys -/

/-- 36 hexadecimal digits and dashes. -/
def isUuid (text : String) : Bool :=
  decide (text.length = 36) &&
    text.toList.all fun c => c.isDigit || (decide ('a' ≤ c) && decide (c ≤ 'f')) || decide (c = '-')

structure Uuid where
  text : String
  wellFormed : isUuid text = true
  deriving DecidableEq

/-- `userId.slice(0, 8)`. -/
def Uuid.firstEight (id : Uuid) : String := String.ofList (id.text.toList.take 8)

/-- A key as the schemas of the routes accept it. -/
structure ClientKey where
  text : String
  long : 8 ≤ text.length
  short : text.length ≤ 128
  deriving DecidableEq

variable {u v : Uuid}

theorem Uuid.ext (same : u.text = v.text) : u = v := by
  cases u
  cases v
  cases same
  rfl

theorem ClientKey.ext {k l : ClientKey} (same : k.text = l.text) : k = l := by
  cases k
  cases l
  cases same
  rfl

theorem Uuid.length (id : Uuid) : id.text.length = 36 := by
  have wellFormed := id.wellFormed
  simp only [isUuid, Bool.and_eq_true, decide_eq_true_eq] at wellFormed
  exact wellFormed.1

theorem Uuid.length_firstEight (id : Uuid) : id.firstEight.length = 8 := by
  have long : id.text.toList.length = 36 := by rw [String.length_toList, id.length]
  simp [firstEight, long]

/-! ### The templates -/

def exchangeMarker (userId : Uuid) (clientKey : ClientKey) : String :=
  "ct-exchange:" ++ (userId.text ++ (":" ++ clientKey.text))

/-- Without a client key the reference is drawn. -/
def exchangeRefId (userId : Uuid) (clientKey : Option ClientKey) (drawn : Uuid) : String :=
  match clientKey with
  | some key => "idem-" ++ (userId.firstEight ++ ("-" ++ key.text))
  | none => drawn.text

def exchangePointKey (refId : String) : String := "exchange-pts:" ++ refId

def exchangeCoinKey (isAgent : Bool) (refId : String) : String :=
  if isAgent then "exchange-ct:" ++ refId else "exchange-coin:" ++ refId

/-- The key the route builds; without a client key it ends in the current time. -/
def transferKey (userId : Uuid) (clientKey : Option ClientKey) (now : Nat) : String :=
  "agent-point-transfer:" ++
    (userId.text ++ (":" ++ (clientKey.map ClientKey.text).getD (toString now)))

def transferDebitKey (key : String) : String := key ++ ":debit"

def transferCreditKey (key : String) : String := key ++ ":credit"

/-! ### What the texts tell apart -/

private theorem append_inj {a b c d : String} (same : a ++ b = c ++ d)
    (long : a.length = c.length) : a = c ∧ b = d := by
  have lists := congrArg String.toList same
  simp only [String.toList_append] at lists
  obtain ⟨first, rest⟩ := List.append_inj lists (by simpa only [String.length_toList] using long)
  exact ⟨String.toList_inj.mp first, String.toList_inj.mp rest⟩

variable {a b : String}

private theorem user_of_append (same : u.text ++ a = v.text ++ b) : u = v ∧ a = b := by
  obtain ⟨users, rest⟩ := append_inj same (by rw [u.length, v.length])
  exact ⟨Uuid.ext users, rest⟩

/-- The marker of an exchange holds the whole user id. -/
theorem user_of_exchangeMarker {k l : ClientKey} (same : exchangeMarker u k = exchangeMarker v l) :
    u = v :=
  (user_of_append (append_inj same rfl).2).1

/-- The ledger reference of an exchange holds eight characters of it. -/
theorem exchangeRefId_some {k l : ClientKey} {drawn drawn' : Uuid} :
    exchangeRefId u (some k) drawn = exchangeRefId v (some l) drawn' ↔
      u.firstEight = v.firstEight ∧ k = l := by
  constructor
  · intro same
    have users := append_inj (append_inj same rfl).2
      (by rw [u.length_firstEight, v.length_firstEight])
    exact ⟨users.1, ClientKey.ext (append_inj users.2 rfl).2⟩
  · rintro ⟨users, rfl⟩
    simp only [exchangeRefId, users]

/-- A drawn reference has no letter `i`. -/
theorem exchangeRefId_some_ne_none {k : ClientKey} {drawn drawn' : Uuid} :
    exchangeRefId u (some k) drawn ≠ exchangeRefId v none drawn' := by
  intro same
  have wellFormed := drawn'.wellFormed
  change "idem-" ++ _ = drawn'.text at same
  rw [← same] at wellFormed
  simp [isUuid] at wellFormed

theorem exchangePointKey_inj (same : exchangePointKey a = exchangePointKey b) :
    a = b := (append_inj same rfl).2

theorem exchangeCoinKey_inj {agent agent' : Bool}
    (same : exchangeCoinKey agent a = exchangeCoinKey agent' b) : agent = agent' ∧ a = b := by
  have apart : ∀ a b, "exchange-ct:" ++ a ≠ "exchange-coin:" ++ b := by
    intro a b impossible
    have letters := congrArg (fun text => text.toList[10]?) impossible
    simp [String.toList_append] at letters
  cases agent <;> cases agent' <;> simp only [exchangeCoinKey, Bool.false_eq_true, if_true,
    if_false] at same
  · exact ⟨rfl, (append_inj same rfl).2⟩
  · exact absurd same.symm (apart b a)
  · exact absurd same (apart a b)
  · exact ⟨rfl, (append_inj same rfl).2⟩

/-- The key of a transfer holds the whole user id, whatever follows it. -/
theorem user_of_transferKey {k l : Option ClientKey} {now now' : Nat}
    (same : transferKey u k now ++ a = transferKey v l now' ++ b) : u = v := by
  have regroup : ∀ first second rest c : String,
      first ++ (second ++ rest) ++ c = first ++ (second ++ (rest ++ c)) := by
    intro first second rest c
    rw [String.append_assoc, String.append_assoc]
  unfold transferKey at same
  rw [regroup, regroup] at same
  exact (user_of_append (append_inj same rfl).2).1

/-- Exchanges and transfers share the point ledger, but no key of it. -/
theorem exchangePointKey_ne_transferKey {refId a : String} {u : Uuid} {k : Option ClientKey}
    {now : Nat} : exchangePointKey refId ≠ transferKey u k now ++ a := by
  unfold exchangePointKey transferKey
  rw [String.append_assoc]
  intro same
  have letters := congrArg (fun text => text.toList[0]?) same
  simp [String.toList_append] at letters

end OlNode.Idempotency
