import OlNode.Schema
import Mathlib.Algebra.Ring.Nat
import Mathlib.Data.List.Sort

/-!
# Support tickets by status tier

A list of tickets shows one status tier after the other. `findByStatusTiers` counts every tier, then
queries those that the page touches, with what is left of `skip` and `take`. If the order inside a
tier leaves nothing to the database, a page is the cut out of the concatenated tiers.
-/
namespace OlNode.SupportTickets

inductive SupportTicketStatus where
  | open | awaitingReply | closed | assigned | pendingReview
  deriving DecidableEq

inductive SupportTicketPriority where
  | low | normal | high | urgent
  deriving DecidableEq

/-- A row of `support_tickets`, as far as the lists filter and sort it. -/
structure SupportTicket where
  id : Nat
  userId : UserId
  status : SupportTicketStatus
  priority : SupportTicketPriority
  updatedAt : Time
  deriving DecidableEq

/-- A condition on the status: a value, or one of the operators of the query language. -/
inductive StatusFilter where
  | equals (status : SupportTicketStatus)
  | isIn (statuses : List SupportTicketStatus)
  | notIn (statuses : List SupportTicketStatus)

def StatusFilter.accepts (status : SupportTicketStatus) : StatusFilter → Bool
  | .equals wanted => status = wanted
  | .isIn wanted => status ∈ wanted
  | .notIn unwanted => status ∉ unwanted

def TICKET_STAGE_TIER_FILTERS : List StatusFilter :=
  [.notIn [.pendingReview, .closed], .equals .pendingReview, .equals .closed]

/-- What `findMany` is asked for. -/
structure Query where
  status : StatusFilter
  skip : Nat
  take : Nat

section Tiers

-- the table, the conditions on the other columns, and how the database orders the rows of a query
variable (tickets : List SupportTicket) (baseWhere : SupportTicket → Bool)
  (arrange : Query → List SupportTicket → List SupportTicket)

def tier (status : StatusFilter) : List SupportTicket :=
  tickets.filter fun ticket => baseWhere ticket && status.accepts ticket.status

def count (status : StatusFilter) : Nat := (tier tickets baseWhere status).length

def findMany (query : Query) : List SupportTicket :=
  ((arrange query (tier tickets baseWhere query.status)).drop query.skip).take query.take

/-- The loop over the tiers, each with its total. -/
def collect (take : Nat) : List (StatusFilter × Nat) → List SupportTicket → Nat →
    List SupportTicket
  | [], found, _ => found
  | (status, tierTotal) :: rest, found, skipRemaining =>
    if found.length < take then
      if tierTotal ≤ skipRemaining then collect take rest found (skipRemaining - tierTotal)
      else
        let rows := findMany tickets baseWhere arrange
          { status, skip := skipRemaining, take := take - found.length }
        collect take rest (found ++ rows) 0
    else found

structure TicketPage where
  tickets : List SupportTicket
  total : Nat
  deriving DecidableEq

def findByStatusTiers (tierStatusFilters : List StatusFilter) (skip take : Nat) : TicketPage :=
  let tierTotals := tierStatusFilters.map (count tickets baseWhere)
  { tickets := collect tickets baseWhere arrange take (tierStatusFilters.zip tierTotals) [] skip
    total := tierTotals.sum }

end Tiers

/-! ### The concatenated tiers -/

/-- `orderBy`, which decides the order of any two tickets of a tier. -/
structure TotalOrder (tickets : List SupportTicket) (baseWhere : SupportTicket → Bool)
    (tierStatusFilters : List StatusFilter) (orderBy : SupportTicket → SupportTicket → Prop) :
    Prop where
  total : ∀ a b, orderBy a b ∨ orderBy b a
  trans : ∀ a b c, orderBy a b → orderBy b c → orderBy a c
  antisymm : ∀ status ∈ tierStatusFilters, ∀ a ∈ tier tickets baseWhere status,
    ∀ b ∈ tier tickets baseWhere status, orderBy a b → orderBy b a → a = b

/-- A database that sorts the rows of each query. -/
def Arranges (orderBy : SupportTicket → SupportTicket → Prop)
    (arrange : Query → List SupportTicket → List SupportTicket) : Prop :=
  ∀ query rows, (arrange query rows).Perm rows ∧ (arrange query rows).Pairwise orderBy

def combined (tickets : List SupportTicket) (baseWhere : SupportTicket → Bool)
    (orderBy : SupportTicket → SupportTicket → Prop) [DecidableRel orderBy]
    (tierStatusFilters : List StatusFilter) : List SupportTicket :=
  tierStatusFilters.flatMap fun status => (tier tickets baseWhere status).insertionSort orderBy

section Combined

variable {tickets : List SupportTicket} {baseWhere : SupportTicket → Bool}
  {orderBy : SupportTicket → SupportTicket → Prop} [DecidableRel orderBy]
  {arrange : Query → List SupportTicket → List SupportTicket}

private theorem arrange_eq {filters : List StatusFilter}
    (order : TotalOrder tickets baseWhere filters orderBy) (arranges : Arranges orderBy arrange)
    (query : Query) (asked : query.status ∈ filters) :
    arrange query (tier tickets baseWhere query.status) =
      (tier tickets baseWhere query.status).insertionSort orderBy := by
  obtain ⟨perm, sorted⟩ := arranges query (tier tickets baseWhere query.status)
  have other := List.perm_insertionSort orderBy (tier tickets baseWhere query.status)
  have total : Std.Total orderBy := ⟨order.total⟩
  have trans : IsTrans SupportTicket orderBy := ⟨order.trans⟩
  refine (perm.trans other.symm).eq_of_pairwise (fun a b inA inB => ?_) sorted
    (List.pairwise_insertionSort orderBy _)
  exact order.antisymm _ asked a (perm.mem_iff.mp inA) b (other.mem_iff.mp inB)

private theorem cut_append {α : Type} (first rest : List α) (skip take : Nat) :
    ((first ++ rest).drop skip).take take = (first.drop skip).take take ++
      ((rest.drop (skip - first.length)).take (take - (first.drop skip).length)) := by
  rw [List.drop_append, List.take_append]

private theorem collect_eq (arranges : Arranges orderBy arrange) (take : Nat)
    (filters : List StatusFilter) (order : TotalOrder tickets baseWhere filters orderBy)
    (found : List SupportTicket) (skip : Nat) :
    collect tickets baseWhere arrange take
        (filters.zip (filters.map (count tickets baseWhere))) found skip =
      found ++ ((combined tickets baseWhere orderBy filters).drop skip).take
        (take - found.length) := by
  induction filters generalizing found skip with
  | nil => simp [collect, combined]
  | cons status filters ih =>
    have later : TotalOrder tickets baseWhere filters orderBy := { order with
      antisymm := fun status member => order.antisymm status (List.mem_cons_of_mem _ member) }
    have total : count tickets baseWhere status =
        ((tier tickets baseWhere status).insertionSort orderBy).length := by
      rw [count, List.length_insertionSort]
    have whole : combined tickets baseWhere orderBy (status :: filters) =
        (tier tickets baseWhere status).insertionSort orderBy ++
          combined tickets baseWhere orderBy filters := rfl
    rw [List.map_cons, List.zip_cons_cons, collect, whole, cut_append, total]
    generalize rows : (tier tickets baseWhere status).insertionSort orderBy = sorted
    split
    next room =>
      split
      next passed =>
        -- The tier lies before the page.
        have nothing : sorted.drop skip = [] := List.drop_eq_nil_of_le passed
        rw [ih later, nothing]
        simp
      next within =>
        have answer : findMany tickets baseWhere arrange
            { status, skip, take := take - found.length } =
              (sorted.drop skip).take (take - found.length) := by
          rw [findMany, arrange_eq order arranges _ List.mem_cons_self, rows]
        have begun : skip - sorted.length = 0 := by omega
        simp only [answer, ih later, begun, List.append_assoc, List.length_append, List.length_take]
        congr 3
        omega
    next full =>
      -- The page is full.
      have none : take - found.length = 0 := by omega
      simp [none]

/-- A page is the cut out of the concatenated tiers, and the total their length. -/
theorem findByStatusTiers_eq (tierStatusFilters : List StatusFilter)
    (order : TotalOrder tickets baseWhere tierStatusFilters orderBy)
    (arranges : Arranges orderBy arrange) (skip take : Nat) :
    findByStatusTiers tickets baseWhere arrange tierStatusFilters skip take =
      { tickets :=
          ((combined tickets baseWhere orderBy tierStatusFilters).drop skip).take take
        total := (combined tickets baseWhere orderBy tierStatusFilters).length } := by
  have counts : count tickets baseWhere = fun status => (tier tickets baseWhere status).length :=
    rfl
  have total : (tierStatusFilters.map (count tickets baseWhere)).sum =
      (combined tickets baseWhere orderBy tierStatusFilters).length := by
    simp [combined, List.length_flatMap, counts]
  rw [findByStatusTiers, collect_eq arranges take tierStatusFilters order, total]
  simp

end Combined

/-- The latest update first, and then the highest id. -/
def latestFirst (a b : SupportTicket) : Prop :=
  b.updatedAt < a.updatedAt ∨ b.updatedAt = a.updatedAt ∧ b.id ≤ a.id

instance : DecidableRel latestFirst := fun _ _ => inferInstanceAs (Decidable (_ ∨ _))

instance : Std.Total latestFirst where
  total a b := by
    simp only [latestFirst, Time]
    omega

instance : IsTrans SupportTicket latestFirst where
  trans a b c first second := by
    simp only [latestFirst, Time] at *
    omega

theorem latestFirst_arranges : Arranges latestFirst fun _ rows => rows.insertionSort latestFirst :=
  fun _ rows => ⟨List.perm_insertionSort _ _, List.pairwise_insertionSort _ rows⟩

/-- A page that begins in the first tier and ends in the last, past an empty one. -/
theorem findByStatusTiers_eq_three :
    findByStatusTiers
        [⟨1, 7, .closed, .normal, 9⟩, ⟨2, 7, .assigned, .high, 5⟩, ⟨3, 8, .open, .low, 5⟩]
        (fun _ => true) (fun _ rows => rows.insertionSort latestFirst) TICKET_STAGE_TIER_FILTERS 1 2 =
      { tickets := [⟨2, 7, .assigned, .high, 5⟩, ⟨1, 7, .closed, .normal, 9⟩], total := 3 } :=
  (findByStatusTiers_eq TICKET_STAGE_TIER_FILTERS
    ⟨Std.Total.total, IsTrans.trans, by decide⟩ latestFirst_arranges 1 2).trans (by decide)

end OlNode.SupportTickets
