import OlNode.Session.Commits

/-!
# Every call commits as the kinds of commits say

The row a login has found FOR UPDATE is still as it was found when the login commits, and a device
whose key the login holds gets no other open session. What a refresh or a revocation writes does not
depend on what it has read.
-/
namespace OlNode.Sessions

open ReadCommitted

variable {X : Law} {request : Request}

variable {s : SessionDb}

private abbrev Committing (X : Law) (request : Request) (held : Set Lock)
    (w : SessionDb → SessionDb) (s : SessionDb) : Prop :=
  ∀ t, X.agreement.Rely held s t → X.agreement.allows request (.commit w) t →
    X.agreement.Keeps request held t (w t)

private abbrev Keeps (X : Law) (request : Request) (body : SessionTx LoginOutcome)
    (held : Set Lock) (w : SessionDb → SessionDb) (s : SessionDb) : Prop :=
  body.Relies X.agreement request (fun _ held w s => Committing X request held w s)
    (fun _ s => X.agreement.inv s) held w s

variable {held : Set Lock} (data : LoginParams)

abbrev Law.Served (X : Law) (request : Request) {α : Type} (p : SessionProg α) (s : SessionDb) :
    Prop :=
  p.Abides X.agreement request s

end OlNode.Sessions
