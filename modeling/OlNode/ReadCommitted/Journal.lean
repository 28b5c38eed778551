import OlNode.ReadCommitted.Tokens

/-!
# Handlers that keep a journal

A database may carry a journal of what its handlers have done, one entry with each commit that
matters. Runs are then restricted by what has to hold of the committed state when an entry is made,
and what is proved of them is a statement about the journal.
-/
namespace ReadCommitted

variable {ι σ κ ε α E : Type}

/-- An entry may be made where it is `clear`. -/
structure Journal (σ E : Type) where
  entries : σ → List E
  clear : σ → E → Bool

namespace Journal

variable (J : Journal σ E)

def Allowed (statement : Statement σ κ) (db : σ) : Prop :=
  match statement with
  | .commit writes => ∀ e, J.entries (writes db) = J.entries db ++ [e] → J.clear db e = true
  | _ => True

def Orderly (c : Config ι σ κ ε) : Event ι → Prop
  | .advance i => ∀ t statement, c.threads[i]? = some t → t.statement = some statement →
      J.Allowed statement c.db
  | _ => True

/-- Handlers that keep `inv` wherever they are allowed to commit, whatever they have read. -/
def clerks (inv : σ → Prop) : Tokens ι σ κ Unit where
  inv := inv
  valid _ _ := True
  compat _ _ := True
  allows _ := J.Allowed
  free := ()
  free_valid _ := trivial
  free_compat _ := trivial
  compat_symm _ _ _ := trivial

variable {J} {inv : σ → Prop} {request : ι}

theorem exchange_clerks {s t : σ} (kept : inv t) :
    (J.clerks inv : Tokens ι σ κ Unit).Exchange () () s t :=
  ⟨kept, trivial, fun _ _ _ => ⟨trivial, trivial⟩⟩

theorem commitsWith_clerks {w : σ → σ} {next : Unit → Prop}
    (kept : ∀ s, inv s → J.Allowed (κ := κ) (.commit w) s → inv (w s)) (goesOn : next ()) :
    Prog.CommitsWith (J.clerks inv : Tokens ι σ κ Unit) request () w next :=
  fun s lawful _ allowed => ⟨(), exchange_clerks (kept s lawful allowed), goesOn⟩

theorem select_clerks {q : σ → α} {k : α → Prog σ κ ε Unit}
    (rest : ∀ s, inv s →
      (k (q s)).Holds (J.clerks inv : Tokens ι σ κ Unit) request (fun _ _ => True) () id) :
    (Prog.select q >>= k).Holds (J.clerks inv) request (fun _ _ => True) () id :=
  Prog.holds_select_bind fun s lawful _ => ⟨(), exchange_clerks lawful, rest s lawful⟩

theorem autocommit_clerks {row : κ} {f : σ → σ}
    (kept : ∀ s, inv s → J.Allowed (κ := κ) (.commit f) s → inv (f s)) :
    (Prog.autocommit row f : Prog σ κ ε Unit).Holds (J.clerks inv) request (fun _ _ => True) () id :=
  Prog.holds_autocommit (commitsWith_clerks kept trivial)

theorem autocommit_bind_clerks {row : κ} {f : σ → σ} {k : Unit → Prog σ κ ε Unit}
    (kept : ∀ s, inv s → J.Allowed (κ := κ) (.commit f) s → inv (f s))
    (rest : (k ()).Holds (J.clerks inv : Tokens ι σ κ Unit) request (fun _ _ => True) () id) :
    (Prog.autocommit row f >>= k).Holds (J.clerks inv) request (fun _ _ => True) () id :=
  Prog.holds_autocommit_bind (commitsWith_clerks kept rest)

theorem invariant_of_clerks [DecidableEq κ] {handler : ι → Prog σ κ ε Unit} {db : σ}
    {c : Config ι σ κ ε}
    (handlers : ∀ request, (handler request).Holds (J.clerks inv) request (fun _ _ => True) () id)
    (base : inv db) (run : Reaches handler J.Orderly (Config.idle db) c) : inv c.db := by
  obtain ⟨token, held⟩ := run.held handlers (fun _ _ orderly => orderly) base
  exact held.inv

/-! ### Checking a run -/

variable (J) [DecidableEq E]

def checks (c : Config ι σ κ ε) : Event ι → Bool
  | .advance i => (c.threads[i]?).all fun t =>
      J.entries (t.view c.db) = J.entries c.db ||
        (J.entries (t.view c.db)).getLast?.all fun e => J.clear c.db e
  | _ => true

theorem orderly_of_checks (c : Config ι σ κ ε) (e : Event ι) (checked : J.checks c e = true) :
    J.Orderly c e := by
  cases e with
  | start _ => trivial
  | crash _ => trivial
  | advance i =>
    intro t statement found stated
    rw [checks, found, Option.all_some, Bool.or_eq_true, decide_eq_true_eq] at checked
    cases statement with
    | commit writes =>
      obtain rfl := Thread.statement_commit stated
      intro e recorded
      rcases checked with same | clear
      · rw [recorded] at same
        simpa using congrArg List.length same
      · rwa [recorded, List.getLast?_concat, Option.all_some] at clear
    | _ => trivial

end Journal

end ReadCommitted
