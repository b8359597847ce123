import PgConverge.Database.Spec
import PgConverge.Database.State
import PgConverge.Json.Record

/-!
# Databases in JSON

The JSON records of declared and of observed databases.

## Main definitions

* `DatabaseSpec.fields`, `DatabaseSpec.parse` — the members of a spec, and reading one.
* `ObservedDatabase.fields`, `ObservedDatabase.parse` — the same for an observed database.
-/

namespace PgConverge

open Json

namespace DatabaseSpec

/-- The members of a spec. Only the name has to be given. -/
abbrev fields : List Field :=
  [.required "name" .text,
    .withDefault "owner" .optionalText none,
    .withDefault "template" .optionalText none,
    .withDefault "encoding" .optionalText none,
    .withDefault "lcCollate" .optionalText none,
    .withDefault "lcCtype" .optionalText none,
    .withDefault "tablespaceName" .optionalText none,
    .withDefault "connectionLimit" .int32 unlimited,
    .withDefault "allowConnections" .flag true,
    .withDefault "isTemplate" .flag false,
    .withDefault "alterObjectOwnership" .flag false,
    .withDefault "colocation" .flag false]

/-- The spec with the values of a record. -/
def ofRecord : Record fields → DatabaseSpec
  | (name, owner, template, encoding, lcCollate, lcCtype, tablespace, connectionLimit,
      allowConnections, isTemplate, reassignObjects, colocation, ()) =>
    { name, owner, template, encoding, lcCollate, lcCtype, tablespace, connectionLimit,
      allowConnections, isTemplate, reassignObjects, colocation }

/-- The record of a spec. -/
def toRecord (spec : DatabaseSpec) : Record fields :=
  (spec.name, spec.owner, spec.template, spec.encoding, spec.lcCollate, spec.lcCtype,
    spec.tablespace, spec.connectionLimit, spec.allowConnections, spec.isTemplate,
    spec.reassignObjects, spec.colocation, ())

/-- Reads a spec from JSON text. -/
def parse (s : String) : Except Defect DatabaseSpec := (Record.parse fields s).map ofRecord

@[simp] theorem ofRecord_toRecord (spec : DatabaseSpec) : ofRecord spec.toRecord = spec := rfl

end DatabaseSpec

namespace ObservedDatabase

/-- The members of an observed database. Only the flags may be left out, and only in objects. -/
abbrev fields : List Field :=
  [.required "name" .text,
    .required "owner" .text,
    .required "template" .text,
    .required "encoding" .text,
    .required "lcCollate" .text,
    .required "lcCtype" .text,
    .required "tablespaceName" .text,
    .required "connectionLimit" .int32,
    .withMemberDefault "allowConnections" .optionalFlag none,
    .withMemberDefault "isTemplate" .optionalFlag none]

/-- The observed database with the values of a record. -/
def ofRecord : Record fields → ObservedDatabase
  | (name, owner, template, encoding, lcCollate, lcCtype, tablespace, connectionLimit,
      allowConnections, isTemplate, ()) =>
    { name, owner, template, encoding, lcCollate, lcCtype, tablespace, connectionLimit,
      allowConnections, isTemplate }

/-- The record of an observed database. -/
def toRecord (observed : ObservedDatabase) : Record fields :=
  (observed.name, observed.owner, observed.template, observed.encoding, observed.lcCollate,
    observed.lcCtype, observed.tablespace, observed.connectionLimit, observed.allowConnections,
    observed.isTemplate, ())

/-- Reads an observed database from JSON text. -/
def parse (s : String) : Except Defect ObservedDatabase := (Record.parse fields s).map ofRecord

@[simp] theorem ofRecord_toRecord (observed : ObservedDatabase) :
    ofRecord observed.toRecord = observed := rfl

end ObservedDatabase

end PgConverge
