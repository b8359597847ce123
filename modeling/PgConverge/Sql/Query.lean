import PgConverge.Value

/-!
# Queries

The questions asked of the catalog. Their texts are fixed: names go into the parameters.

## Main definitions

* `Query`, `Query.sql`, `Query.parameters` — a question, its text, its parameters.
-/

namespace PgConverge

/-- A question that at most one row answers. -/
inductive Query where
  /-- The name and the owner of a database. -/
  | databaseOwner (name : String)
  /-- The encoding, collation, character classes, tablespace and connection limit of a database. -/
  | databaseSettings (name : String)
  | databaseAllowConnections (name : String)
  | databaseIsTemplate (name : String)
  | databaseExists (name : String)
  /-- A row if the member belongs to the group directly. -/
  | roleMembership (member group : String)
  /-- Takes the advisory lock of a role until the transaction ends; no row if there is no role. -/
  | lockRole (role : String)
  | currentUser
  | serverVersion
  /-- A question given by its text. -/
  | verbatim (sql : String) (parameters : List Value)
deriving DecidableEq, Repr

namespace Query

/-- The tables that hold a database's settings, joined for the database in the first parameter. -/
def settingsSource : String :=
  " FROM pg_catalog.pg_database AS d, pg_catalog.pg_tablespace AS ts " ++
    "WHERE d.datname = $1 AND d.dattablespace = ts.oid"

/-- The text of a question. -/
def sql : Query → String
  | databaseOwner _ =>
    "SELECT d.datname, pg_catalog.pg_get_userbyid(d.datdba) " ++
      "FROM pg_catalog.pg_database AS d WHERE d.datname = $1"
  | databaseSettings _ =>
    "SELECT pg_catalog.pg_encoding_to_char(d.encoding), d.datcollate, d.datctype, ts.spcname, " ++
      "d.datconnlimit" ++ settingsSource
  | databaseAllowConnections _ => "SELECT d.datallowconn" ++ settingsSource
  | databaseIsTemplate _ => "SELECT d.datistemplate" ++ settingsSource
  | databaseExists _ => "SELECT d.datname FROM pg_catalog.pg_database AS d WHERE d.datname = $1"
  | roleMembership .. =>
    "SELECT 1 FROM pg_catalog.pg_auth_members WHERE pg_catalog.pg_get_userbyid(member) = $1 " ++
      "AND pg_catalog.pg_get_userbyid(roleid) = $2"
  | lockRole _ =>
    "SELECT pg_catalog.pg_advisory_xact_lock(oid) FROM pg_catalog.pg_roles WHERE rolname = $1"
  | currentUser => "SELECT CURRENT_USER"
  | serverVersion => "SELECT current_setting('server_version_num')::integer"
  | verbatim sql _ => sql

/-- The parameters sent with a question. -/
def parameters : Query → List Value
  | databaseOwner name | databaseSettings name | databaseAllowConnections name
  | databaseIsTemplate name | databaseExists name => [.text name]
  | roleMembership member group => [.text member, .text group]
  | lockRole role => [.text role]
  | currentUser | serverVersion => []
  | verbatim _ parameters => parameters

end Query

end PgConverge
