import PgConverge.Catalog

/-!
# Acting with another role's privileges

Only a member of a role may create, hand over or drop what the role owns. The connecting role
becomes a member for the time of one operation, under a lock on its own name that keeps other
programs that connect as the same role from doing so at the same time:

  lock, grant, privileged statement, revoke, release.

The lock lives in a transaction on a session of its own and ends with it. Locks are kept per
database: only locks taken in the same database exclude each other.

## Main definitions

* `RoleGrant`, `RoleGrant.make`, `RoleGrant.revoke` — membership for the time of an operation.
* `RoleLock`, `RoleLock.acquire`, `RoleLock.commit`, `RoleLock.release` — the lock on a role.
* `Elevation`, `Elevation.enter`, `Elevation.exit`, `Elevation.exitCommitting` — both together.
-/

namespace PgConverge

/-- Membership of a role in a group for the time of one operation. -/
structure RoleGrant where
  member : String
  group : String
  /-- Whether the membership is new, so that it has to be revoked. -/
  isNew : Bool
deriving DecidableEq, Repr

namespace RoleGrant

/-- Makes a role a member of a group, unless it is that role or a member already. -/
def make (session : SessionId) (member group : String) : Action RoleGrant := do
  if member == group then return ⟨member, group, false⟩
  if ← Catalog.isMemberOf session member group then return ⟨member, group, false⟩
  let _ ← (Session.execute session (.grantRole group member)).inContext
    ("error granting role " ++ group ++ " to " ++ member)
  return ⟨member, group, true⟩

/-- Takes back a membership that is new. -/
def revoke (session : SessionId) (grant : RoleGrant) : Action Unit :=
  .onlyIf grant.isNew do
    let _ ← (Session.execute session (.revokeRole grant.group grant.member)).inContext
      ("error revoking role " ++ grant.group ++ " from " ++ grant.member)

end RoleGrant

/-- A lock on a role, held by the open transaction of a session. -/
structure RoleLock where
  role : String
  session : SessionId
deriving DecidableEq, Repr

namespace RoleLock

/-- Opens a transaction in a database, or in that of the main session, and locks a role in it; waits
while another session holds the lock. Without the lock the transaction is rolled back. -/
def acquire (role : String) (database : Option String) : Action RoleLock := do
  let session ← (Session.begin database).mapError fun e =>
    .lock role ("could not open lock transaction: " ++ e.message)
  match ← (Session.query session (.lockRole role)).attempt with
  | .ok (some _) => return ⟨role, session⟩
  | .ok none => refuse session (.lock role "role does not exist")
  | .error e => refuse session (.lock role e.message)
where
  /-- Rolls the transaction back and fails. -/
  refuse (session : SessionId) (e : Error) : Action RoleLock :=
    ⟨do return withCleanup (.error e) (← (Session.rollback session).attempt)⟩

/-- Commits the transaction, which keeps its work and ends the lock. -/
def commit (lock : RoleLock) : Action Unit :=
  (Session.commit lock.session).inContext "error committing role lock transaction"

/-- Rolls the transaction back, which ends the lock. -/
def release (lock : RoleLock) : Action Unit := Session.rollback lock.session

end RoleLock

/-- A role that acts with the privileges of a group, under a lock on its own name. -/
structure Elevation where
  lock : RoleLock
  grant : RoleGrant
deriving DecidableEq, Repr

namespace Elevation

/-- Locks a role, with the session of the lock in a database or in that of the main session, and
makes the role a member of a group. Without the membership the lock is released. -/
def enter (principal group : String) (database : Option String) : Action Elevation := do
  let lock ← RoleLock.acquire principal database
  match ← (RoleGrant.make mainSession principal group).attempt with
  | .ok grant => return ⟨lock, grant⟩
  | .error e => ⟨do return withCleanup (.error e) (← lock.release.attempt)⟩

/-- The session of the lock, for statements that belong to its transaction. -/
def session (elevation : Elevation) : SessionId := elevation.lock.session

/-- Revokes the membership and releases the lock, whatever the outcome of the privileged work is. -/
def exit {α : Type} (elevation : Elevation) (primary : Except Error α) : Action α :=
  ⟨do
    let revoked ← (elevation.grant.revoke mainSession).attempt
    let released ← elevation.lock.release.attempt
    return withCleanup (withCleanup primary revoked) released⟩

/-- Commits the transaction of the lock and revokes the membership if the privileged work succeeded;
leaves as `exit` does if it failed. -/
def exitCommitting {α : Type} (elevation : Elevation) (primary : Except Error α) : Action α :=
  match primary with
  | .error _ => elevation.exit primary
  | .ok _ => ⟨do
    let committed ← elevation.lock.commit.attempt
    let revoked ← (elevation.grant.revoke mainSession).attempt
    return withCleanup (withCleanup primary committed) revoked⟩

end Elevation

end PgConverge
