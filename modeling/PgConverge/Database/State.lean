/-!
# What is known about a database

The attributes read back from the catalog, and the state that is kept between operations.

## Main definitions

* `ObservedDatabase` — the attributes of an existing database.
* `DatabaseState` — the identity of a managed database with its last observation.
-/

namespace PgConverge

/-- A database as the catalog shows it. -/
structure ObservedDatabase where
  name : String
  owner : String
  /-- The template that was asked for; the server does not remember it. -/
  template : String
  encoding : String
  lcCollate : String
  lcCtype : String
  tablespace : String
  connectionLimit : Int32
  /-- Known only where the server has the attribute. -/
  allowConnections : Option Bool
  /-- Known only where the server has the attribute. -/
  isTemplate : Option Bool
deriving DecidableEq, Repr

/-- What is kept about a managed database; without an identity there is no database. -/
structure DatabaseState where
  id : Option String
  observed : Option ObservedDatabase
deriving DecidableEq, Repr

namespace DatabaseState

/-- The state of a database that does not exist. -/
def empty : DatabaseState := ⟨none, none⟩

/-- A database known by name only. -/
def ofId (id : String) : DatabaseState := ⟨some id, none⟩

/-- A database that was just read back. -/
def ofObserved (observed : ObservedDatabase) : DatabaseState := ⟨some observed.name, some observed⟩

/-- Whether the database is known to exist. -/
def existing (state : DatabaseState) : Bool := state.id.isSome

end DatabaseState

end PgConverge
