import PgConverge.Database.Spec
import PgConverge.Database.State
import PgConverge.Elevation

/-!
# The reconciler

Brings one database to its declared state. Each operation runs its steps in a fixed order, stops at
the first one that fails, and repeats nothing by itself. Steps that need the privileges of an owner
run under an elevation; every other step is a single statement on the main session.

## Main definitions

* `Reconciler` — the version of the server and the role that connects to it.
* `Reconciler.create`, `Reconciler.read`, `Reconciler.adopt`, `Reconciler.update`,
  `Reconciler.delete`, `Reconciler.exists?` — the operations.
-/

namespace PgConverge

/-- What an operation needs to know about its connection. -/
structure Reconciler where
  version : ServerVersion
  /-- The role that connects. -/
  principal : String
deriving DecidableEq, Repr

namespace Reconciler

/-- Asks the server for the role and the version, unless they are given. -/
def ofConnection (principal : Option String) (version : Option ServerVersion) :
    Action Reconciler := do
  let principal ←
    match principal with
    | some principal => pure principal
    | none => Catalog.currentUser mainSession
  let version ←
    match version with
    | some version => pure version
    | none => Catalog.serverVersion mainSession
  return { version, principal }

/-- The printed form of a reconciler; its connection is left out. -/
def summary (r : Reconciler) : String :=
  Text.partialSummary "DatabaseReconciler"
    [("features", Text.summary "FeatureSet" [("version", r.version.summary)]),
      ("principal", Text.quoted r.principal)]

/-- Runs a statement on the main session for the operation named by `context`. -/
def run (context : String) (statement : Statement) : Action Unit := do
  let _ ← (Session.execute mainSession statement).inContext context

/-- Runs an action on the main session with the privileges of a group. -/
def elevated (r : Reconciler) (group : String) (action : Action Unit) : Action Unit := do
  let elevation ← Elevation.enter r.principal group none
  elevation.exit (← action.attempt)

/-- Runs an action with the privileges of the owner that a spec asks for, if it asks for one. -/
def asOwner (r : Reconciler) (spec : DatabaseSpec) (action : Action Unit) : Action Unit :=
  match spec.requestedOwner with
  | some owner => r.elevated owner action
  | none => action

/-! ## Reading -/

/-- The template that an observation reports: the one asked for, or the default one. -/
def reportedTemplate (spec : DatabaseSpec) : String :=
  (spec.template.filter fun template => !template.isEmpty).getD DatabaseDefinition.defaultTemplate

/-- A flag that only some servers have: not asked for on the others, and no result if the database
is gone. -/
def observeFlag (r : Reconciler) (feature : Feature) (ask : Action (Option Bool)) :
    Action (Option (Option Bool)) := do
  if r.version.supports feature then
    return (← ask).map some
  else
    return some none

/-- The attributes of a database in the catalog; no result if one of the questions finds no row. -/
def observe (r : Reconciler) (name : String) (spec : DatabaseSpec) :
    Action (Option ObservedDatabase) := do
  let some (name, owner) ← Catalog.databaseOwner mainSession name | return none
  let some settings ← Catalog.databaseSettings mainSession name | return none
  let some allowConnections ←
    r.observeFlag .allowConnections (Catalog.databaseAllowConnections mainSession name)
    | return none
  let some isTemplate ←
    r.observeFlag .isTemplate (Catalog.databaseIsTemplate mainSession name)
    | return none
  return some
    { name, owner, template := reportedTemplate spec, encoding := settings.encoding,
      lcCollate := settings.lcCollate, lcCtype := settings.lcCtype,
      tablespace := settings.tablespace, connectionLimit := settings.connectionLimit,
      allowConnections, isTemplate }

/-- Reads a database back; a database that is gone leaves the empty state. -/
def read (r : Reconciler) (state : DatabaseState) (spec : DatabaseSpec) : Action DatabaseState := do
  let some id := state.id | return .empty
  match ← r.observe id spec with
  | some observed => return .ofObserved observed
  | none => return .empty

/-- Takes an existing database under management. -/
def adopt (r : Reconciler) (name : String) : Action DatabaseState := do
  let state ← r.read (.ofId name) (.ofName name)
  if state.existing then return state else throw (.notFound name)

/-- Whether there is a database of a name, asked in a transaction that cannot change anything. -/
def exists? (_r : Reconciler) (id : String) : Action Bool := do
  let session ← Session.beginReadOnly
  let found ← (Catalog.databaseExists session id).attempt
  ⟨do return withCleanup found (← (Session.rollback session).attempt)⟩

/-! ## Creating -/

/-- Fails if a spec asks for what the server cannot do. -/
def requireSupport (r : Reconciler) (spec : DatabaseSpec) : Except Error Unit := do
  if !spec.allowConnections then r.version.require .allowConnections
  if spec.isTemplate then r.version.require .isTemplate

/-- Creates a database and reads it back. -/
def create (r : Reconciler) (spec : DatabaseSpec) : Action DatabaseState := do
  spec.check
  r.requireSupport spec
  r.asOwner spec <|
    run "error creating database" (.createDatabase (.ofSpec spec r.principal r.version))
  r.read (.ofId spec.name) spec

/-! ## Updating -/

/-- Sets whether sessions may connect to a database. -/
def setAllowConnections (r : Reconciler) (name : String) (allow : Bool) : Action Unit := do
  r.version.require .allowConnections
  run "error updating database ALLOW_CONNECTIONS" (.setAllowConnections name allow)

/-- Sets whether a database is a template. -/
def setIsTemplate (r : Reconciler) (name : String) (isTemplate : Bool) : Action Unit := do
  r.version.require .isTemplate
  run "error updating database IS_TEMPLATE" (.setIsTemplate name isTemplate)

/-- Renames a database. -/
def rename (name newName : String) : Action Unit := do
  if newName.isEmpty then throw (.validation "database name must not be empty")
  run "error updating database name" (.renameDatabase name newName)

/-- Hands over to a new owner whatever the current owner of a database owns in it. It is done in the
database itself, on the session of the lock, and committed before the membership ends. -/
def reassignOwned (r : Reconciler) (name newOwner : String) : Action Unit := do
  let some (_, owner) ← Catalog.databaseOwner mainSession name | throw (.notFound name)
  if owner == newOwner then return
  let elevation ← Elevation.enter r.principal owner (some name)
  let reassigned ← ((Session.execute elevation.session (.reassignOwned owner newOwner)).inContext
    "error reassigning objects to new owner").attempt
  elevation.exitCommitting (reassigned.map fun _ => ())

/-- Makes a role the owner of a database. -/
def setOwner (r : Reconciler) (name owner : String) : Action Unit :=
  r.elevated owner (run "error updating database owner" (.setOwner name owner))

/-- Changes the owner of a database to the one asked for by name, with the objects if the spec says
so; nothing happens if none is asked for. -/
def changeOwner (r : Reconciler) (name : String) (desired : DatabaseSpec) : Action Unit :=
  match desired.requestedOwner with
  | none => pure ()
  | some owner => do
    .onlyIf desired.reassignObjects (r.reassignOwned name owner)
    r.setOwner name owner

/-- Changes the attributes in which two specs differ, except the name. -/
def changeAttributes (r : Reconciler) (name : String) (change : SpecChange) : Action Unit := do
  let desired := change.desired
  .onlyIf (change.differs .owner) (r.changeOwner name desired)
  .onlyIf (change.differs .tablespace) <|
    run "error updating database tablespace" (.moveTablespace name desired.tablespace)
  .onlyIf (change.differs .connectionLimit) <|
    run "error updating database connection limit"
      (.setConnectionLimit name desired.connectionLimit)
  .onlyIf (change.differs .allowConnections) (r.setAllowConnections name desired.allowConnections)
  .onlyIf (change.differs .isTemplate) (r.setIsTemplate name desired.isTemplate)

/-- The name by which an update addresses its database at first. -/
def currentName (state : DatabaseState) (change : SpecChange) : String :=
  state.id.getD change.prior.name

/-- The name by which an update addresses its database once it is renamed. -/
def finalName (state : DatabaseState) (change : SpecChange) : String :=
  if change.differs .name then change.desired.name else currentName state change

/-- The state once an update has renamed its database. -/
def renamedState (state : DatabaseState) (change : SpecChange) : DatabaseState :=
  if change.differs .name then { state with id := some change.desired.name } else state

/-- Applies what differs between two specs and reads the database back. The new name is kept even if
a later step fails; else a failure leaves the state as it was. -/
def update (r : Reconciler) (state : DatabaseState) (change : SpecChange) :
    Program (Except Error Unit × DatabaseState) := do
  let renamed : Action Unit := do
    change.check
    .onlyIf (change.differs .name) (rename (currentName state change) change.desired.name)
  match ← renamed.attempt with
  | .error e => return (.error e, state)
  | .ok () =>
    let state' := renamedState state change
    let rest : Action DatabaseState := do
      r.changeAttributes (finalName state change) change
      r.read state' change.desired
    match ← rest.attempt with
    | .error e => return (.error e, state')
    | .ok state'' => return (.ok (), state'')

/-! ## Deleting -/

/-- Ends the sessions connected to a database, and first keeps new ones out where the server can. -/
def drain (session : SessionId) (name : String) (version : ServerVersion) : Action Unit := do
  .onlyIf (version.supports .allowConnections) do
    let _ ← (Session.execute session (.setAllowConnections name false)).inContext
      "error blocking connections to database"
  let _ ← (Session.execute session (.terminateSessions version.pidColumn name)).inContext
    "error terminating database connections"

/-- Whether the catalog marks a database as a template. -/
def isMarkedTemplate (name : String) : Action Bool := do
  return (← Catalog.databaseIsTemplate mainSession name) == some true

/-- Takes the template mark off a database, with a second attempt if the mark is still there; fails
if it stays. -/
def clearTemplate (r : Reconciler) (name : String) : Action Unit := do
  if ← isMarkedTemplate name then
    r.setIsTemplate name false
    if ← isMarkedTemplate name then r.setIsTemplate name false
    if ← isMarkedTemplate name then
      throw (.constraint ("database " ++ Text.quoted name ++
        " is still marked as a template and cannot be dropped"))

/-- Takes the template mark off a database, ends its sessions and drops it. -/
def drop (r : Reconciler) (name : String) : Action Unit := do
  .onlyIf (r.version.supports .isTemplate) (r.clearTemplate name)
  drain mainSession name r.version
  run "error dropping database" (.drop name r.version)

/-- Drops a database; the state that is left is empty. -/
def delete (r : Reconciler) (state : DatabaseState) (spec : DatabaseSpec) :
    Action DatabaseState := do
  r.asOwner spec (r.drop (state.id.getD spec.name))
  return .empty

end Reconciler

end PgConverge
