import Mathlib.Data.Finset.Insert
import Mathlib.Data.Finset.Erase
import PgConverge.Proofs.Elevation.Cleanup

/-!
# A cluster with many clients

What clients that connect to the same cluster share: who is a member of which role, and who holds
the lock on which role. An answer is possible only in certain states of the cluster; the lock query
is not answered while another session holds the lock. A request may fail at any time, and then it
has no effect, except that a membership is revoked and a transaction ends in any case.

## Main definitions

* `Cluster` — memberships, locks and sessions.
* `Cluster.Answers` — the answers that a client can get, and what they do to the cluster.

## Main statements

* `Cluster.Answers.holder_of_ne`, `Cluster.Answers.database_of_ne` — a client takes no lock away
  from another one, and does not touch the sessions of another one.
-/

namespace PgConverge

/-- The shared state of a cluster and the clients `ι`. A session is known by its client and its
number there. -/
structure Cluster (ι : Type) where
  /-- The pairs of a member and the role that it is a member of. -/
  members : Finset (String × String)
  /-- The session that holds the lock on a role, for each database in which it may be taken. -/
  holder : Option String × String → Option (ι × SessionId)
  /-- The database of a session, if it is not that of the main sessions. -/
  database : ι × SessionId → Option String
  /-- How many sessions a client has opened. -/
  opened : ι → Nat

namespace Cluster

variable {ι : Type} [DecidableEq ι]

/-- Opens the next session of a client. -/
def openSession (c : Cluster ι) (i : ι) (database : Option String) : Cluster ι :=
  { c with
    opened := Function.update c.opened i (c.opened i + 1)
    database := Function.update c.database (i, c.opened i + 1) database }

/-- Gives a session the lock on a role in the database of the session. -/
def lock (c : Cluster ι) (i : ι) (session : SessionId) (role : String) : Cluster ι :=
  { c with holder := Function.update c.holder (c.database (i, session), role) (some (i, session)) }

/-- Ends all locks of a session. -/
def release (c : Cluster ι) (i : ι) (session : SessionId) : Cluster ι :=
  { c with
    holder := fun key => if c.holder key = some (i, session) then none else c.holder key }

/-- The answers that a client can get, with the cluster that they leave. -/
inductive Answers (i : ι) (c : Cluster ι) : Exchange → Cluster ι → Prop where
  | begun (database : Option String) :
      Answers i c ⟨.begin database, .ok (c.opened i + 1)⟩ (c.openSession i database)
  | begunReadOnly : Answers i c ⟨.beginReadOnly, .ok (c.opened i + 1)⟩ (c.openSession i none)
  /-- The lock is free, or the session holds it already. -/
  | locked (session : SessionId) (role : String) (row : Row) :
      (∀ holder, c.holder (c.database (i, session), role) = some holder → holder = (i, session)) →
      Answers i c ⟨.query session (.lockRole role), .ok (some row)⟩ (c.lock i session role)
  /-- There is no such role. -/
  | missing (session : SessionId) (role : String) :
      Answers i c ⟨.query session (.lockRole role), .ok none⟩ c
  | present (session : SessionId) (member group : String) (row : Row) :
      (member, group) ∈ c.members →
      Answers i c ⟨.query session (.roleMembership member group), .ok (some row)⟩ c
  | absent (session : SessionId) (member group : String) : (member, group) ∉ c.members →
      Answers i c ⟨.query session (.roleMembership member group), .ok none⟩ c
  | granted (session : SessionId) (group member : String) (affected : UInt64) :
      Answers i c ⟨.execute session (.grantRole group member), .ok affected⟩
        { c with members := insert (member, group) c.members }
  | revoked (session : SessionId) (group member : String) (outcome : Except Error UInt64) :
      Answers i c ⟨.execute session (.revokeRole group member), outcome⟩
        { c with members := c.members.erase (member, group) }
  | committed (session : SessionId) : Answers i c ⟨.commit session, .ok ()⟩ (c.release i session)
  | rolledBack (session : SessionId) (outcome : Except Error Unit) :
      Answers i c ⟨.rollback session, outcome⟩ (c.release i session)
  /-- Work changes neither memberships nor locks. -/
  | worked (request : Request) (outcome : Except Error request.Answer) : request.isWork = true →
      Answers i c ⟨request, outcome⟩ c
  | failed (request : Request) (e : Error) : request.isCleanup = false →
      Answers i c ⟨request, .error e⟩ c

section Frame

variable {c c' : Cluster ι} {i j : ι} {x : Exchange}

theorem holder_release_of_ne {session own : SessionId} {key : Option String × String} (hne : j ≠ i)
    (h : c.holder key = some (j, own)) : (c.release i session).holder key = some (j, own) := by
  simp [release, h, hne]

theorem Answers.holder_of_ne {session : SessionId} {key : Option String × String}
    (h : c.Answers i x c') (hne : j ≠ i) (hj : c.holder key = some (j, session)) :
    c'.holder key = some (j, session) := by
  cases h with
  | locked own role row hfree =>
    have hkey : key ≠ (c.database (i, own), role) := by
      rintro rfl
      exact hne (congrArg Prod.fst (hfree _ hj))
    exact (Function.update_of_ne hkey _ _).trans hj
  | committed own => exact holder_release_of_ne hne hj
  | rolledBack own outcome => exact holder_release_of_ne hne hj
  | _ => exact hj

/-- A client keeps a lock until the session that holds it ends. -/
theorem Answers.holder_of_keeps {session : SessionId} {key : Option String × String}
    (h : c.Answers i x c') (hx : x.request.ends session = false)
    (hi : c.holder key = some (i, session)) : c'.holder key = some (i, session) := by
  have hrelease (own : SessionId) (hne : (own == session) = false) :
      (c.release i own).holder key = some (i, session) := by
    have hsession : session ≠ own := fun heq => by simp [heq] at hne
    simp [release, hi, hsession]
  cases h with
  | locked own role row hfree =>
    by_cases hkey : key = (c.database (i, own), role)
    · subst hkey
      exact (Function.update_self ..).trans (congrArg some (hfree _ hi)).symm
    · exact (Function.update_of_ne hkey _ _).trans hi
  | committed own => exact hrelease own hx
  | rolledBack own outcome => exact hrelease own hx
  | _ => exact hi

theorem Answers.holder_of_locked {session : SessionId} {role : String} {row : Row}
    (h : c.Answers i ⟨.query session (.lockRole role), .ok (some row)⟩ c') :
    c'.holder (c.database (i, session), role) = some (i, session) := by
  cases h with
  | locked => exact Function.update_self ..
  | worked _ _ hwork => cases hwork

theorem Answers.mem_of_present {session : SessionId} {member group : String} {row : Row}
    (h : c.Answers i ⟨.query session (.roleMembership member group), .ok (some row)⟩ c') :
    (member, group) ∈ c.members := by
  cases h with
  | present _ _ _ _ hmem => exact hmem
  | worked _ _ hwork => cases hwork

theorem Answers.notMem_of_absent {session : SessionId} {member group : String}
    (h : c.Answers i ⟨.query session (.roleMembership member group), .ok none⟩ c') :
    (member, group) ∉ c.members := by
  cases h with
  | absent _ _ _ hmem => exact hmem
  | worked _ _ hwork => cases hwork

theorem Answers.members_of_granted {session : SessionId} {member group : String}
    {affected : UInt64}
    (h : c.Answers i ⟨.execute session (.grantRole group member), .ok affected⟩ c') :
    c'.members = insert (member, group) c.members := by
  cases h with
  | granted => rfl
  | worked _ _ hwork => cases hwork

theorem Answers.members_of_refused {session : SessionId} {member group : String} {e : Error}
    (h : c.Answers i ⟨.execute session (.grantRole group member), .error e⟩ c') :
    c'.members = c.members := by
  cases h with
  | worked => rfl
  | failed => rfl

/-- A membership is gone after its revocation, even if that has failed. -/
theorem Answers.members_of_revoked {session : SessionId} {member group : String}
    {outcome : Except Error UInt64}
    (h : c.Answers i ⟨.execute session (.revokeRole group member), outcome⟩ c') :
    c'.members = c.members.erase (member, group) := by
  cases h with
  | revoked => rfl
  | worked _ _ hwork => cases hwork
  | failed _ _ hclean => cases hclean

theorem Answers.members_of_not_changesRoles (h : c.Answers i x c')
    (hx : x.request.changesRoles = false) : c'.members = c.members := by
  cases h with
  | granted => cases hx
  | revoked => cases hx
  | _ => rfl

theorem Answers.database_of_not_opens {key : ι × SessionId} (h : c.Answers i x c')
    (hx : x.request.opens = false) : c'.database key = c.database key := by
  cases h with
  | begun => cases hx
  | begunReadOnly => cases hx
  | _ => rfl

/-- A session that opens belongs to the database of the main sessions, if none is named. -/
theorem Answers.database_of_opened {session : SessionId} (h : c.Answers i x c')
    (hx : x.opened? = some session) (hhome : ∀ database, x.request ≠ .begin (some database)) :
    c'.database (i, session) = none := by
  cases h with
  | begun database =>
    cases hx
    cases database with
    | none => exact Function.update_self ..
    | some name => exact absurd rfl (hhome name)
  | begunReadOnly =>
    cases hx
    exact Function.update_self ..
  | worked request outcome hwork =>
    cases (Request.opens_of_isWork hwork).symm.trans (Exchange.opens_of_opened? hx)
  | failed request e =>
    cases request <;> cases hx
  | _ => cases hx

/-- A session that opens for writing belongs to the database that is named. -/
theorem Answers.database_of_begun {session : SessionId} {database : Option String}
    (h : c.Answers i x c') (hx : x.opened? = some session) (hbegin : x.request = .begin database) :
    c'.database (i, session) = database := by
  cases h with
  | begun named =>
    cases hx
    cases hbegin
    exact Function.update_self ..
  | worked request outcome hwork =>
    obtain rfl : request = .begin database := hbegin
    cases hwork
  | failed request e =>
    obtain rfl : request = .begin database := hbegin
    cases hx
  | _ => cases hbegin

theorem Answers.database_of_ne {session : SessionId} (h : c.Answers i x c') (hne : j ≠ i) :
    c'.database (j, session) = c.database (j, session) := by
  have hkey (own : SessionId) : (j, session) ≠ (i, own) := fun heq => hne (congrArg Prod.fst heq)
  cases h with
  | begun database => exact Function.update_of_ne (hkey _) _ _
  | begunReadOnly => exact Function.update_of_ne (hkey _) _ _
  | _ => rfl

end Frame

end Cluster

end PgConverge
