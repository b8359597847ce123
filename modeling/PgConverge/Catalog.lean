import PgConverge.Connection.Program

/-!
# Reading the catalog

The questions that the reconciler asks, with their rows decoded. Each can be asked on the main
session or inside a transaction.

## Main definitions

* `Catalog.databaseOwner`, `Catalog.databaseSettings`, `Catalog.databaseAllowConnections`,
  `Catalog.databaseIsTemplate`, `Catalog.databaseExists` — what is known about a database.
* `Catalog.isMemberOf`, `Catalog.currentUser` — roles.
* `Catalog.serverVersion` — the version of the server.
-/

namespace PgConverge

/-- The settings of a database that one row of the catalog holds. -/
structure DatabaseSettings where
  encoding : String
  lcCollate : String
  lcCtype : String
  tablespace : String
  connectionLimit : Int32
deriving DecidableEq, Repr

/-- An integer as a connection limit of 32 bits. -/
def connectionLimitOf (n : Int64) : Except Error Int32 :=
  if Int32.minValue.toInt64 ≤ n && n ≤ Int32.maxValue.toInt64 then .ok n.toInt32
  else .error (.internal "datconnlimit out of range")

/-- Reads the name and the owner of a database from a row. -/
def Row.databaseOwner (row : Row) : Except Error (String × String) := do
  let name ← row.text 0
  let owner ← row.text 1
  return (name, owner)

/-- Reads the settings of a database from a row. -/
def Row.databaseSettings (row : Row) : Except Error DatabaseSettings := do
  let connectionLimit ← connectionLimitOf (← row.integer 4)
  let encoding ← row.text 0
  let lcCollate ← row.text 1
  let lcCtype ← row.text 2
  let tablespace ← row.text 3
  return { encoding, lcCollate, lcCtype, tablespace, connectionLimit }

/-- An integer as the number that a server reports for its version. -/
def versionNumberOf (n : Int64) : Except Error UInt32 :=
  if 0 ≤ n.toInt && n.toInt < UInt32.size then .ok (UInt32.ofNat n.toInt.toNat)
  else .error (.internal ("invalid server_version_num " ++ toString n.toInt))

/-- Reads a server version from a row. -/
def Row.serverVersion (row : Row) : Except Error ServerVersion := do
  let n ← versionNumberOf (← row.integer 0)
  return .ofNumber n

namespace Catalog

/-- Asks a question on a session and decodes the row that answers it, if there is one. -/
def lookup {α : Type} (session : SessionId) (question : Query) (context : String)
    (decode : Row → Except Error α) : Action (Option α) := do
  match ← (Session.query session question).inContext context with
  | none => return none
  | some row => return some (← decode row)

/-- The name and the owner of a database. -/
def databaseOwner (session : SessionId) (name : String) : Action (Option (String × String)) :=
  lookup session (.databaseOwner name) "error reading database" Row.databaseOwner

/-- The settings of a database. -/
def databaseSettings (session : SessionId) (name : String) : Action (Option DatabaseSettings) :=
  lookup session (.databaseSettings name) "error reading database" Row.databaseSettings

/-- Whether a database lets sessions connect. -/
def databaseAllowConnections (session : SessionId) (name : String) : Action (Option Bool) :=
  lookup session (.databaseAllowConnections name)
    "error reading ALLOW_CONNECTIONS property for database" (·.boolean 0)

/-- Whether a database is a template. -/
def databaseIsTemplate (session : SessionId) (name : String) : Action (Option Bool) :=
  lookup session (.databaseIsTemplate name)
    "error reading IS_TEMPLATE property for database" (·.boolean 0)

/-- Whether there is a database of a name. -/
def databaseExists (session : SessionId) (name : String) : Action Bool := do
  let row ← (Session.query session (.databaseExists name)).inContext
    "error checking database existence"
  return row.isSome

/-- Whether a role is a direct member of a group. -/
def isMemberOf (session : SessionId) (member group : String) : Action Bool := do
  let row ← (Session.query session (.roleMembership member group)).inContext
    "error checking role membership"
  return row.isSome

/-- The role of a session. -/
def currentUser (session : SessionId) : Action String := do
  match ← lookup session .currentUser "error reading current user" (·.text 0) with
  | some user => return user
  | none => throw (.internal "CURRENT_USER returned no row")

/-- The version of the server. -/
def serverVersion (session : SessionId) : Action ServerVersion := do
  match ← lookup session .serverVersion "error detecting server version" Row.serverVersion with
  | some version => return version
  | none => throw (.internal "server_version_num returned no row")

end Catalog

end PgConverge
