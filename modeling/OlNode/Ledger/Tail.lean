import OlNode.Ledger.Database
import Mathlib.Data.List.Basic

/-!
# The tail of a ledger

A wallet has no balance of its own: every writer takes the `balanceAfter` of the newest row, and
newest means the highest `created_at`. Rows that share it are returned in any order. The operations
on one wallet, one after the other under its row lock, and what the database may answer them: it is
the row inserted last as long as every row that moves the balance is created later than the rows
before it, and the first one that is not can be passed over.
-/
namespace OlNode.LedgerTail

/-- An escrow row is a debit that carries the balance on unchanged. -/
inductive RowKind where
  | credit | debit | escrow
  deriving DecidableEq

/-- The columns of a coin or point ledger row that the chain of balances is about. -/
structure LedgerRow where
  createdAt : Time
  kind : RowKind
  amount : Int
  balanceAfter : Int

/-- The rows `ORDER BY created_at DESC LIMIT 1` may return. -/
def newest (rows : List LedgerRow) : List LedgerRow :=
  rows.filter fun row => rows.all fun other => decide (other.createdAt ≤ row.createdAt)

/-- What `latestCoinBalance`, `latestPointBalance` and the tail reads of the other writers may
answer, and `computeBalance`. -/
def latestBalances (rows : List LedgerRow) : List Int :=
  match rows with
  | [] => [0]
  | rows => (newest rows).map (·.balanceAfter)

def lastBalance (rows : List LedgerRow) : Int := (rows.getLast?.map (·.balanceAfter)).getD 0

/-! ### Writers -/

/-- The statements of a transaction on the rows of one wallet. -/
inductive WalletTx (α : Type) where
  | done (value : α)
  | fail (error : LedgerError)
  | latestBalance (next : Int → WalletTx α)
  | insert (kind : RowKind) (amount balanceAfter : Int) (next : WalletTx α)

namespace WalletTx

variable {α β : Type}

def bind : WalletTx α → (α → WalletTx β) → WalletTx β
  | .done value, k => k value
  | .fail error, _ => .fail error
  | .latestBalance next, k => .latestBalance fun balance => (next balance).bind k
  | .insert kind amount balanceAfter next, k => .insert kind amount balanceAfter (next.bind k)

instance : Monad WalletTx where
  pure := .done
  bind := .bind

def ensure (condition : Prop) [Decidable condition] (error : LedgerError) : WalletTx Unit :=
  if condition then .done () else .fail error

end WalletTx

def assertPositive (amount : Int) : WalletTx Unit := .ensure (0 < amount) invalidAmount

def readLatest : WalletTx Int := .latestBalance .done

/-- `coinLedgerRepository.insert` and `pointLedgerRepository.insert`. -/
def insertRow (kind : RowKind) (amount balanceAfter : Int) : WalletTx Unit := do
  assertPositive amount
  .insert kind amount balanceAfter (.done ())

/-- A debit of what is left over `reserved`. -/
def debitAvailable (amount reserved : Int) (insufficient : LedgerError) : WalletTx Unit := do
  assertPositive amount
  let balance ← readLatest
  WalletTx.ensure (amount ≤ balance - reserved) insufficient
  insertRow .debit amount (balance - amount)

/-- `debit` of the coin wallet. -/
def coinDebit (amount : Int) : WalletTx Unit := debitAvailable amount 0 insufficientCoins

/-- `debit` of the point wallet. -/
def pointDebit (amount unconfirmed : Int) : WalletTx Unit :=
  debitAvailable amount unconfirmed insufficientPoints

def credit (amount : Int) : WalletTx Unit := do
  assertPositive amount
  let balance ← readLatest
  insertRow .credit amount (balance + amount)

def escrow (amount : Int) : WalletTx Unit := do
  assertPositive amount
  let balance ← readLatest
  insertRow .escrow amount balance

/-- The reward of a lucky gift, on the balance its debit left. -/
def creditReward (coinsAfterDebit reward : Int) : WalletTx Unit :=
  if 0 < reward then insertRow .credit reward (coinsAfterDebit + reward) else pure ()

/-- What `luckyGiftSend` does to the sender's coins: one read, and up to two rows. -/
def luckyGiftSend (totalCost reward : Int) : WalletTx Unit := do
  let coins ← readLatest
  WalletTx.ensure (totalCost ≤ coins) insufficientCoins
  insertRow .debit totalCost (coins - totalCost)
  creditReward (coins - totalCost) reward

inductive Call where
  | coinDebit (amount : Int)
  | pointDebit (amount unconfirmed : Int)
  | credit (amount : Int)
  | escrow (amount : Int)
  | luckyGiftSend (totalCost reward : Int)

def Call.tx : Call → WalletTx Unit
  | .coinDebit amount => LedgerTail.coinDebit amount
  | .pointDebit amount unconfirmed => LedgerTail.pointDebit amount unconfirmed
  | .credit amount => LedgerTail.credit amount
  | .escrow amount => LedgerTail.escrow amount
  | .luckyGiftSend totalCost reward => LedgerTail.luckyGiftSend totalCost reward

/-- The calls that one transaction makes on the wallet. -/
def operation : List Call → WalletTx Unit
  | [] => pure ()
  | call :: calls => do
    call.tx
    operation calls

/-! ### Runs -/

/-- The rows of the wallet, and the transaction that holds its row lock with the rows as it sees
them. -/
structure WalletState where
  committed : List LedgerRow
  current : Option (WalletTx Unit × List LedgerRow)

def WalletState.rows (s : WalletState) : List LedgerRow :=
  match s.current with
  | none => s.committed
  | some (_, rows) => rows

inductive Label where
  | begin (calls : List Call)
  /-- A writer reads the balance. -/
  | answer (balance : Int)
  | insert (createdAt : Time)
  | commit
  /-- A check fails, or the process dies. -/
  | rollback
  /-- `computeBalance`. -/
  | report (balance : Int)

/-- `created_at` never decreases, and of several newest rows the database returns any. -/
inductive Step : WalletState → Label → WalletState → Prop where
  | begin {committed : List LedgerRow} (calls : List Call) :
      Step ⟨committed, none⟩ (.begin calls) ⟨committed, some (operation calls, committed)⟩
  | answer {committed rows : List LedgerRow} {next : Int → WalletTx Unit} {balance : Int}
      (returned : balance ∈ latestBalances rows) :
      Step ⟨committed, some (.latestBalance next, rows)⟩ (.answer balance)
        ⟨committed, some (next balance, rows)⟩
  | insert {committed rows : List LedgerRow} {kind : RowKind} {amount balanceAfter : Int}
      {next : WalletTx Unit} {createdAt : Time}
      (notEarlier : ∀ row ∈ rows, row.createdAt ≤ createdAt) :
      Step ⟨committed, some (.insert kind amount balanceAfter next, rows)⟩ (.insert createdAt)
        ⟨committed, some (next, rows ++ [⟨createdAt, kind, amount, balanceAfter⟩])⟩
  | commit {committed rows : List LedgerRow} :
      Step ⟨committed, some (.done (), rows)⟩ .commit ⟨rows, none⟩
  | rollback {committed rows : List LedgerRow} {tx : WalletTx Unit} :
      Step ⟨committed, some (tx, rows)⟩ .rollback ⟨committed, none⟩
  | report {s : WalletState} {balance : Int} (returned : balance ∈ latestBalances s.committed) :
      Step s (.report balance) s

def newWallet : WalletState := ⟨[], none⟩

/-- The states that the steps of a run lead to, each of them satisfying `ok` where it is made. -/
inductive Reached (ok : WalletState → Label → Prop) : WalletState → Prop where
  | start : Reached ok newWallet
  | step {s s' : WalletState} {label : Label} (before : Reached ok s) (allowed : ok s label)
      (made : Step s label s') : Reached ok s'

/-- A balance that is read is the one of the row inserted last. -/
def ReadsLast (s : WalletState) : Label → Prop
  | .answer balance => balance = lastBalance s.rows
  | .report balance => balance = lastBalance s.committed
  | _ => True

/-- A row that moves the balance is created later than every row before it. -/
def Timely (s : WalletState) : Label → Prop
  | .insert createdAt => ∀ kind amount balanceAfter next rows,
      s.current = some (.insert kind amount balanceAfter next, rows) → kind ≠ .escrow →
      ∀ row ∈ rows, row.createdAt < createdAt
  | _ => True

/-! ### Tails -/

/-- Every answer the database may give is the balance of the last row. -/
def TailIsLast (rows : List LedgerRow) : Prop :=
  ∀ balance ∈ latestBalances rows, balance = lastBalance rows

theorem lastBalance_append (rows : List LedgerRow) (row : LedgerRow) :
    lastBalance (rows ++ [row]) = row.balanceAfter := by
  simp [lastBalance]

variable {rows : List LedgerRow}

theorem mem_newest {row : LedgerRow} :
    row ∈ newest rows ↔ row ∈ rows ∧ ∀ other ∈ rows, other.createdAt ≤ row.createdAt := by
  simp [newest]

theorem latestBalances_append (rows : List LedgerRow) (row : LedgerRow) :
    latestBalances (rows ++ [row]) = (newest (rows ++ [row])).map (·.balanceAfter) := by
  cases rows <;> rfl

theorem tailIsLast_nil : TailIsLast [] := by
  intro balance returned
  simpa [latestBalances, lastBalance] using returned

/-- A row that carries the balance on may share its instant with the rows before it. -/
theorem TailIsLast.carry {row : LedgerRow} (before : TailIsLast rows)
    (same : row.balanceAfter = lastBalance rows) : TailIsLast (rows ++ [row]) := by
  intro balance returned
  rw [latestBalances_append] at returned
  obtain ⟨top, isTop, rfl⟩ := List.mem_map.mp returned
  obtain ⟨member, highest⟩ := mem_newest.mp isTop
  rw [lastBalance_append]
  rcases List.mem_append.mp member with old | new
  · -- An old row that is newest still was newest before.
    have wasTop : top ∈ newest rows :=
      mem_newest.mpr ⟨old, fun other inside => highest other (List.mem_append_left _ inside)⟩
    rw [same]
    refine before top.balanceAfter ?_
    cases rows with
    | nil => cases old
    | cons first rest => exact List.mem_map_of_mem wasTop
  · rw [List.mem_singleton.mp new]

/-- A row that moves the balance is the tail exactly if it is later than the rows before it. -/
theorem tailIsLast_append_iff {row : LedgerRow} (before : TailIsLast rows)
    (notEarlier : ∀ other ∈ rows, other.createdAt ≤ row.createdAt)
    (moves : row.balanceAfter ≠ lastBalance rows) :
    TailIsLast (rows ++ [row]) ↔ ∀ other ∈ rows, other.createdAt < row.createdAt := by
  constructor
  · intro tail other member
    by_contra notLater
    -- Then some row of the highest instant before shares it with the new one.
    have tied : other.createdAt = row.createdAt :=
      Nat.le_antisymm (notEarlier other member) (Nat.not_lt.mp notLater)
    have isTop : other ∈ newest (rows ++ [row]) := by
      refine mem_newest.mpr ⟨List.mem_append_left _ member, fun r inside => ?_⟩
      rw [tied]
      rcases List.mem_append.mp inside with old | new
      · exact notEarlier r old
      · exact Nat.le_of_eq (congrArg LedgerRow.createdAt (List.mem_singleton.mp new))
    have wasTop : other ∈ newest rows :=
      mem_newest.mpr ⟨member, fun r inside => tied ▸ notEarlier r inside⟩
    have answered := tail other.balanceAfter
      (latestBalances_append rows row ▸ List.mem_map_of_mem isTop)
    rw [lastBalance_append] at answered
    refine moves (answered.symm.trans (before other.balanceAfter ?_))
    cases rows with
    | nil => cases member
    | cons first rest => exact List.mem_map_of_mem wasTop
  · intro later balance returned
    rw [latestBalances_append] at returned
    obtain ⟨top, isTop, rfl⟩ := List.mem_map.mp returned
    obtain ⟨member, highest⟩ := mem_newest.mp isTop
    rw [lastBalance_append]
    rcases List.mem_append.mp member with old | new
    · have above := highest row (List.mem_append_right _ List.mem_cons_self)
      exact absurd (later top old) (Nat.not_lt.mpr above)
    · rw [List.mem_singleton.mp new]

/-! ### What the writers insert -/

def RowKind.signed (kind : RowKind) (amount : Int) : Int :=
  match kind with
  | .credit => amount
  | .debit => -amount
  | .escrow => 0

namespace WalletTx

variable {α β : Type}

/-- As long as it is answered the balance of the last row, which now is `last`, the transaction
inserts rows of positive amounts that carry this balance on, and ends with `post`. -/
def Carries (post : α → Int → Prop) : WalletTx α → Int → Prop
  | .done value, last => post value last
  | .fail _, _ => True
  | .latestBalance next, last => (next last).Carries post last
  | .insert kind amount balanceAfter next, last =>
    0 < amount ∧ balanceAfter = last + kind.signed amount ∧ next.Carries post balanceAfter

theorem Carries.bind {post : β → Int → Prop} {x : WalletTx α} {k : α → WalletTx β} {last : Int}
    (first : x.Carries (fun a last' => (k a).Carries post last') last) :
    (x >>= k).Carries post last := by
  change (x.bind k).Carries post last
  induction x generalizing last with
  | done value => exact first
  | fail error => trivial
  | latestBalance next ih => exact ih last first
  | insert kind amount balanceAfter next ih => exact ⟨first.1, first.2.1, ih first.2.2⟩

theorem carries_ensure {post : Unit → Int → Prop} {condition : Prop} [Decidable condition]
    {error : LedgerError} {last : Int} (holds : condition → post () last) :
    (ensure condition error).Carries post last := by
  unfold ensure
  split
  next passed => exact holds passed
  · trivial

end WalletTx

open WalletTx

section Calls

variable {post : Unit → Int → Prop} {last : Int}

theorem insertRow_carries {kind : RowKind} {amount balanceAfter : Int}
    (next : balanceAfter = last + kind.signed amount) (goesOn : post () balanceAfter) :
    (insertRow kind amount balanceAfter).Carries post last :=
  .bind (carries_ensure fun positive => ⟨positive, next, goesOn⟩)

theorem debitAvailable_carries (amount reserved : Int) (insufficient : LedgerError)
    (goesOn : ∀ last', post () last') :
    (debitAvailable amount reserved insufficient).Carries post last :=
  .bind (carries_ensure fun _ => .bind (.bind (carries_ensure fun _ =>
    insertRow_carries (Int.sub_eq_add_neg) (goesOn _))))

theorem luckyGiftSend_carries (totalCost reward : Int) (goesOn : ∀ last', post () last') :
    (luckyGiftSend totalCost reward).Carries post last := by
  refine .bind (.bind (carries_ensure fun _ => .bind (insertRow_carries Int.sub_eq_add_neg ?_)))
  unfold creditReward
  split
  · exact insertRow_carries rfl (goesOn _)
  · exact goesOn _

theorem call_carries (call : Call) (goesOn : ∀ last', post () last') :
    call.tx.Carries post last := by
  cases call with
  | coinDebit amount => exact debitAvailable_carries amount 0 insufficientCoins goesOn
  | pointDebit amount unconfirmed =>
    exact debitAvailable_carries amount unconfirmed insufficientPoints goesOn
  | credit amount =>
    exact .bind (carries_ensure fun _ => .bind (insertRow_carries rfl (goesOn _)))
  | escrow amount =>
    exact .bind (carries_ensure fun _ =>
      .bind (insertRow_carries (Int.add_zero _).symm (goesOn _)))
  | luckyGiftSend totalCost reward => exact luckyGiftSend_carries totalCost reward goesOn

theorem operation_carries (calls : List Call) (last : Int) :
    (operation calls).Carries (fun _ _ => True) last := by
  induction calls generalizing last with
  | nil => trivial
  | cons call calls ih => exact .bind (call_carries call ih)

end Calls

/-! ### Runs -/

/-- The state of a run in which every balance that was read was the last one. -/
structure Sound (s : WalletState) : Prop where
  committed : TailIsLast s.committed
  opened : ∀ tx rows, s.current = some (tx, rows) →
    TailIsLast rows ∧ tx.Carries (fun _ _ => True) (lastBalance rows)

/-- Whatever is read in this state is the balance of the row inserted last. -/
def WalletState.TailsAreLast (s : WalletState) : Prop :=
  TailIsLast s.committed ∧ TailIsLast s.rows

theorem Sound.tailsAreLast {s : WalletState} (sound : Sound s) : s.TailsAreLast := by
  refine ⟨sound.committed, ?_⟩
  obtain ⟨committed, current⟩ := s
  cases current with
  | none => exact sound.committed
  | some current => exact (sound.opened current.1 current.2 rfl).1

private theorem signed_ne_zero {kind : RowKind} {amount : Int} (positive : 0 < amount)
    (moving : kind ≠ .escrow) : kind.signed amount ≠ 0 := by
  cases kind with
  | credit => exact Int.ne_of_gt positive
  | debit => simp only [RowKind.signed]; omega
  | escrow => exact absurd rfl moving

/-- An insertion keeps the tail the last row exactly if it is timely. -/
theorem insertion_iff {kind : RowKind} {amount balanceAfter : Int} {createdAt : Time}
    (before : TailIsLast rows) (positive : 0 < amount)
    (next : balanceAfter = lastBalance rows + kind.signed amount)
    (notEarlier : ∀ row ∈ rows, row.createdAt ≤ createdAt) :
    TailIsLast (rows ++ [⟨createdAt, kind, amount, balanceAfter⟩]) ↔
      (kind ≠ .escrow → ∀ row ∈ rows, row.createdAt < createdAt) := by
  by_cases carried : kind = .escrow
  · have same : balanceAfter = lastBalance rows := by
      rw [next, carried]
      exact Int.add_zero _
    exact ⟨fun _ moving => absurd carried moving, fun _ => before.carry same⟩
  · have moves : balanceAfter ≠ lastBalance rows := by
      have moved := signed_ne_zero positive carried
      omega
    rw [tailIsLast_append_iff before notEarlier moves]
    exact ⟨fun later _ => later, fun later => later carried⟩

/-- One step: what is read is the last balance, and it stays so exactly if the step is timely. -/
theorem Sound.step {s s' : WalletState} {label : Label} (sound : Sound s)
    (made : Step s label s') :
    ReadsLast s label ∧ (Timely s label → Sound s') ∧ (s'.TailsAreLast ↔ Timely s label) := by
  -- Only an insertion can be untimely.
  have others : ∀ {label : Label}, Timely s label → Sound s' →
      (Timely s label → Sound s') ∧ (s'.TailsAreLast ↔ Timely s label) :=
    fun timely after => ⟨fun _ => after, fun _ => timely, fun _ => after.tailsAreLast⟩
  cases made with
  | @begin committed calls =>
    refine ⟨trivial, others trivial ⟨sound.committed, ?_⟩⟩
    rintro tx rows ⟨⟩
    exact ⟨sound.committed, operation_carries calls _⟩
  | @answer committed rows next balance returned =>
    obtain ⟨tail, carries⟩ := sound.opened _ rows rfl
    have last : balance = lastBalance rows := tail balance returned
    refine ⟨last, others trivial ⟨sound.committed, ?_⟩⟩
    rintro tx rows ⟨⟩
    exact ⟨tail, last ▸ carries⟩
  | @insert committed rows kind amount balanceAfter next createdAt notEarlier =>
    obtain ⟨tail, positive, carried, carries⟩ := sound.opened _ rows rfl
    have exactly := insertion_iff tail positive carried notEarlier
    have timely : Timely ⟨committed, some (.insert kind amount balanceAfter next, rows)⟩
        (.insert createdAt) ↔ (kind ≠ .escrow → ∀ row ∈ rows, row.createdAt < createdAt) := by
      constructor
      · exact fun timely => timely kind amount balanceAfter next rows rfl
      · rintro later _ _ _ _ _ ⟨⟩
        exact later
    refine ⟨trivial, fun inTime => ⟨sound.committed, ?_⟩, ?_⟩
    · rintro tx rows' ⟨⟩
      exact ⟨exactly.mpr (timely.mp inTime), lastBalance_append rows _ ▸ carries⟩
    · rw [timely, ← exactly]
      exact ⟨And.right, fun tail' => ⟨sound.committed, tail'⟩⟩
  | @commit committed rows =>
    refine ⟨trivial, others trivial ⟨(sound.opened _ rows rfl).1, ?_⟩⟩
    rintro tx rows ⟨⟩
  | rollback =>
    refine ⟨trivial, others trivial ⟨sound.committed, ?_⟩⟩
    rintro tx rows ⟨⟩
  | report returned => exact ⟨sound.committed _ returned, others trivial sound⟩

theorem Reached.sound {s : WalletState} (run : Reached Timely s) : Sound s := by
  induction run with
  | start =>
    refine ⟨tailIsLast_nil, ?_⟩
    rintro tx rows ⟨⟩
  | step before timely made ih => exact (ih.step made).2.1 timely

/-- In every run in which the rows that move the balance are created later than the rows before
them, every balance that is read is the one of the row inserted last. The first row that is not
leaves a state in which another one can be read. -/
theorem reads_last_of_timely {s s' : WalletState} {label : Label} (run : Reached Timely s)
    (made : Step s label s') :
    ReadsLast s label ∧ (s'.TailsAreLast ↔ Timely s label) :=
  have step := run.sound.step made
  ⟨step.1, step.2.2⟩

def recharge : LedgerRow := ⟨1, .credit, 1000, 1000⟩

/-- A lucky gift and its reward, of one transaction and one instant. -/
def luckyRows : List LedgerRow := [⟨2, .debit, 100, 900⟩, ⟨2, .credit, 50, 950⟩]

private theorem recharge_reached {ok : WalletState → Label → Prop}
    (allowed : ∀ s label, (∀ createdAt, label ≠ .insert createdAt) → ok s label)
    (inTime : ok ⟨[], some (.insert .credit 1000 1000 (.done ()), [])⟩ (.insert 1)) :
    Reached ok ⟨[recharge], none⟩ := by
  have begun : Reached ok ⟨[], some (operation [.credit 1000], [])⟩ :=
    .step .start (allowed _ (.begin [.credit 1000]) nofun) (.begin _)
  have answered : Reached ok ⟨[], some (.insert .credit 1000 1000 (.done ()), [])⟩ :=
    .step begun (allowed _ (.answer 0) nofun) (.answer (by decide))
  have inserted : Reached ok ⟨[], some (.done (), [recharge])⟩ :=
    .step answered inTime (.insert (by simp))
  exact .step inserted (allowed _ .commit nofun) .commit

/-- After a recharge of 1000 and a debit of 300 in a later millisecond the balance is reported as
700, and only as that. -/
theorem reads_last_recharge :
    ReadsLast ⟨[recharge, ⟨2, .debit, 300, 700⟩], none⟩ (.report 700) ∧
      (WalletState.TailsAreLast ⟨[recharge, ⟨2, .debit, 300, 700⟩], none⟩ ↔
        Timely ⟨[recharge, ⟨2, .debit, 300, 700⟩], none⟩ (.report 700)) := by
  have quiet : ∀ s label, (∀ createdAt, label ≠ .insert createdAt) → Timely s label := by
    intro s label other
    cases label with
    | insert createdAt => exact absurd rfl (other createdAt)
    | _ => trivial
  have recharged : Reached Timely ⟨[recharge], none⟩ := by
    refine recharge_reached quiet ?_
    rintro _ _ _ _ _ ⟨⟩
    simp
  have begun : Reached Timely ⟨[recharge], some (operation [.coinDebit 300], [recharge])⟩ :=
    .step recharged (quiet _ (.begin _) nofun) (.begin _)
  have answered : Reached Timely
      ⟨[recharge], some (.insert .debit 300 700 (.done ()), [recharge])⟩ :=
    .step begun (quiet _ (.answer 1000) nofun) (.answer (by decide))
  have timely : Timely ⟨[recharge], some (.insert .debit 300 700 (.done ()), [recharge])⟩
      (.insert 2) := by
    rintro _ _ _ _ _ ⟨⟩
    simp [recharge]
  have spent : Reached Timely
      ⟨[recharge], some (.done (), [recharge, ⟨2, .debit, 300, 700⟩])⟩ :=
    .step answered timely (.insert (by decide))
  exact reads_last_of_timely (.step spent (quiet _ .commit nofun) .commit) (.report (by decide))

/-- After a lucky gift of 100 coins with a reward of 50, both booked in the same millisecond, the
balance may be reported as it was before the reward. -/
theorem luckyGift_reads_stale :
    ¬ ∀ (s s' : WalletState) (label : Label), Reached (fun _ _ => True) s → Step s label s' →
      ReadsLast s label := by
  intro reads
  have recharged : Reached (fun _ _ => True) ⟨[recharge], none⟩ :=
    recharge_reached (fun _ _ _ => trivial) trivial
  have begun : Reached (fun _ _ => True)
      ⟨[recharge], some (operation [.luckyGiftSend 100 50], [recharge])⟩ :=
    .step recharged trivial (.begin _)
  have answered : Reached (fun _ _ => True) ⟨[recharge], some
      (.insert .debit 100 900 (.insert .credit 50 950 (.done ())), [recharge])⟩ :=
    .step begun trivial (show Step _ (.answer 1000) _ from .answer (by decide))
  have sent : Reached (fun _ _ => True) ⟨[recharge], some
      (.insert .credit 50 950 (.done ()), [recharge, ⟨2, .debit, 100, 900⟩])⟩ :=
    .step answered trivial (show Step _ (.insert 2) _ from .insert (by decide))
  have rewarded : Reached (fun _ _ => True) ⟨[recharge], some (.done (), recharge :: luckyRows)⟩ :=
    .step sent trivial (show Step _ (.insert 2) _ from .insert (by decide))
  have settled : Reached (fun _ _ => True) ⟨recharge :: luckyRows, none⟩ :=
    .step rewarded trivial .commit
  have stale : (900 : Int) = 950 :=
    reads _ _ (.report 900) settled (.report (by decide))
  exact absurd stale (by decide)

end OlNode.LedgerTail
