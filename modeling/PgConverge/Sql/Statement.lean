import PgConverge.Database.Spec
import PgConverge.Sql.Quote
import PgConverge.Sql.Setting
import PgConverge.Value
import PgConverge.Version

/-!
# Statements

The statements that create, alter and drop a database and that grant role membership, with the text
of each. Every name in a text is quoted.

## Main definitions

* `DatabaseDefinition` — everything that a statement creating a database says.
* `Statement`, `Statement.sql`, `Statement.parameters` — a statement, its text, its parameters.
-/

namespace PgConverge

/-- The words for truth values. -/
def Sql.flag (b : Bool) : String := if b then "true" else "false"

/-- A clause for a setting, with its value written by `quoted`. -/
def Setting.clause (keyword : String) (quoted : String → String) : Setting → Option String
  | .unset => none
  | .serverDefault => some (keyword ++ " DEFAULT")
  | .value text => some (keyword ++ " " ++ quoted text)

/-- What a statement creating a database says. A flag is left out on servers without it. -/
structure DatabaseDefinition where
  name : String
  colocation : Bool
  owner : String
  template : Setting
  encoding : Setting
  lcCollate : Setting
  lcCtype : Setting
  tablespace : Setting
  allowConnections : Option Bool
  connectionLimit : Int32
  isTemplate : Option Bool
deriving DecidableEq, Repr

namespace DatabaseDefinition

/-- The template for databases that request none. -/
def defaultTemplate : String := "template0"

/-- The encoding for databases that request none. -/
def defaultEncoding : String := "UTF8"

/-- What a spec asks a server of the given version to create. The principal owns the database where
the spec names no owner. -/
def ofSpec (spec : DatabaseSpec) (principal : String) (version : ServerVersion) :
    DatabaseDefinition where
  name := spec.name
  colocation := spec.colocation
  owner := spec.requestedOwner.getD principal
  template := (Setting.of spec.template).orElse defaultTemplate
  encoding := (Setting.of spec.encoding).orElse defaultEncoding
  lcCollate := Setting.of spec.lcCollate
  lcCtype := Setting.of spec.lcCtype
  tablespace := Setting.of spec.tablespace
  allowConnections :=
    if version.supports .allowConnections then some spec.allowConnections else none
  connectionLimit := spec.connectionLimit
  isTemplate := if version.supports .isTemplate then some spec.isTemplate else none

/-- The clauses of the statement in the order in which they are written. -/
def clauses (d : DatabaseDefinition) : List String :=
  [some ("CREATE DATABASE " ++ Sql.identifier d.name),
    if d.colocation then some "WITH COLOCATION = true" else none,
    some ("OWNER " ++ Sql.identifier d.owner),
    d.template.clause "TEMPLATE" Sql.identifier,
    d.encoding.clause "ENCODING" Sql.literal,
    d.lcCollate.clause "LC_COLLATE" Sql.literal,
    d.lcCtype.clause "LC_CTYPE" Sql.literal,
    d.tablespace.clause "TABLESPACE" Sql.identifier,
    d.allowConnections.map fun b => "ALLOW_CONNECTIONS " ++ Sql.flag b,
    some ("CONNECTION LIMIT " ++ toString d.connectionLimit.toInt),
    d.isTemplate.map fun b => "IS_TEMPLATE " ++ Sql.flag b].filterMap id

end DatabaseDefinition

/-- A statement that changes something on the server. -/
inductive Statement where
  | createDatabase (definition : DatabaseDefinition)
  | renameDatabase (name newName : String)
  | setOwner (name owner : String)
  | reassignOwned (oldOwner newOwner : String)
  | setTablespace (name tablespace : String)
  | resetTablespace (name : String)
  | setConnectionLimit (name : String) (limit : Int32)
  | setAllowConnections (name : String) (allow : Bool)
  | setIsTemplate (name : String) (isTemplate : Bool)
  /-- Forced, the sessions that are connected to the database are ended. -/
  | dropDatabase (name : String) (forced : Bool)
  | grantRole (group member : String)
  | revokeRole (group member : String)
  /-- Ends every session connected to the database but the one that asks. -/
  | terminateSessions (column : PidColumn) (name : String)
  /-- A statement given by its text. -/
  | verbatim (sql : String) (parameters : List Value)
deriving DecidableEq, Repr

namespace Statement

/-- Moves a database to a tablespace, or back to the server's default one where no tablespace is
requested by name. -/
def moveTablespace (name : String) (tablespace : Option String) : Statement :=
  match Setting.of tablespace with
  | .value tablespace => setTablespace name tablespace
  | .unset | .serverDefault => resetTablespace name

/-- Drops a database on a server of the given version, forced where the server can. -/
def drop (name : String) (version : ServerVersion) : Statement :=
  dropDatabase name (version.supports .forcedDrop)

/-- A statement that alters a database. -/
def alteration (name action : String) : String :=
  "ALTER DATABASE " ++ Sql.identifier name ++ " " ++ action

/-- The text of a statement. -/
def sql : Statement → String
  | createDatabase definition => String.intercalate " " definition.clauses
  | renameDatabase name newName => alteration name ("RENAME TO " ++ Sql.identifier newName)
  | setOwner name owner => alteration name ("OWNER TO " ++ Sql.identifier owner)
  | reassignOwned oldOwner newOwner =>
    "REASSIGN OWNED BY " ++ Sql.identifier oldOwner ++ " TO " ++ Sql.identifier newOwner
  | setTablespace name tablespace =>
    alteration name ("SET TABLESPACE " ++ Sql.identifier tablespace)
  | resetTablespace name => alteration name "RESET TABLESPACE"
  | setConnectionLimit name limit =>
    alteration name ("CONNECTION LIMIT = " ++ toString limit.toInt)
  | setAllowConnections name allow => alteration name ("ALLOW_CONNECTIONS " ++ Sql.flag allow)
  | setIsTemplate name isTemplate => alteration name ("IS_TEMPLATE " ++ Sql.flag isTemplate)
  | dropDatabase name forced =>
    "DROP DATABASE " ++ Sql.identifier name ++ (if forced then " WITH (FORCE)" else "")
  | grantRole group member =>
    "GRANT " ++ Sql.identifier group ++ " TO " ++ Sql.identifier member
  | revokeRole group member =>
    "REVOKE " ++ Sql.identifier group ++ " FROM " ++ Sql.identifier member
  | terminateSessions column _ =>
    "SELECT pg_terminate_backend(" ++ column.name ++ ") FROM pg_catalog.pg_stat_activity " ++
      "WHERE datname = $1 AND " ++ column.name ++ " <> pg_backend_pid()"
  | verbatim sql _ => sql

/-- The parameters sent with a statement. -/
def parameters : Statement → List Value
  | terminateSessions _ name => [.text name]
  | verbatim _ parameters => parameters
  | _ => []

end Statement

end PgConverge
