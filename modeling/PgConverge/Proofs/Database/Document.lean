import PgConverge.Database.Document
import PgConverge.Proofs.Json.Record

/-!
# Databases written in JSON

What is written for a declared or an observed database is read back as the same, in any order,
among other members, and with defaults left out.

## Main definitions

* `DatabaseSpec.members`, `DatabaseSpec.defaults` — what a spec is written as, and what may be left
  out of that.
* `ObservedDatabase.members`, `ObservedDatabase.defaults` — the same for an observed database.

## Main statements

* `databases_round_trip` — specs and observed databases are read back, and flawed objects are
  mismatches.
-/

namespace PgConverge

open Json

namespace Json.Document

/-- The JSON value for a text that may be missing. -/
def textOrNull : Option String → Document
  | some s => .text (some s)
  | none => .null

/-- The JSON value for a flag that may be missing. -/
def boolOrNull : Option Bool → Document
  | some b => .bool b
  | none => .null

theorem document_optionalText (s : Option String) :
    Kind.optionalText.document s = textOrNull s := by
  cases s <;> rfl

theorem document_optionalFlag (b : Option Bool) :
    Kind.optionalFlag.document b = boolOrNull b := by
  cases b <;> rfl

end Json.Document

namespace DatabaseSpec

/-- The names of the members of a spec. -/
def memberNames : List String :=
  ["name", "owner", "template", "encoding", "lcCollate", "lcCtype", "tablespaceName",
    "connectionLimit", "allowConnections", "isTemplate", "alterObjectOwnership", "colocation"]

/-- The members of a spec with their values. -/
def members (spec : DatabaseSpec) : List (String × Document) :=
  [("name", .text (some spec.name)),
    ("owner", .textOrNull spec.owner),
    ("template", .textOrNull spec.template),
    ("encoding", .textOrNull spec.encoding),
    ("lcCollate", .textOrNull spec.lcCollate),
    ("lcCtype", .textOrNull spec.lcCtype),
    ("tablespaceName", .textOrNull spec.tablespace),
    ("connectionLimit", .number (.ofInt spec.connectionLimit.toInt)),
    ("allowConnections", .bool spec.allowConnections),
    ("isTemplate", .bool spec.isTemplate),
    ("alterObjectOwnership", .bool spec.reassignObjects),
    ("colocation", .bool spec.colocation)]

/-- The members of a spec that may be left out. -/
def defaults : List (String × Document) :=
  [("owner", .null), ("template", .null), ("encoding", .null), ("lcCollate", .null),
    ("lcCtype", .null), ("tablespaceName", .null), ("connectionLimit", .number (.ofInt (-1))),
    ("allowConnections", .bool true), ("isTemplate", .bool false),
    ("alterObjectOwnership", .bool false), ("colocation", .bool false)]

theorem form_toRecord (spec : DatabaseSpec) : spec.toRecord.form = spec.members := by
  simp only [members, ← Document.document_optionalText]
  rfl

theorem roundTrips : RoundTrips parse members memberNames defaults := by
  have hnames : (fields.map Field.name).Nodup := by decide
  have h := (Record.roundTrips hnames).map ofRecord_toRecord fun _ => rfl
  simp only [form_toRecord] at h
  exact h

end DatabaseSpec

namespace ObservedDatabase

/-- The names of the members of an observed database. -/
def memberNames : List String :=
  ["name", "owner", "template", "encoding", "lcCollate", "lcCtype", "tablespaceName",
    "connectionLimit", "allowConnections", "isTemplate"]

/-- The members of an observed database with their values. -/
def members (observed : ObservedDatabase) : List (String × Document) :=
  [("name", .text (some observed.name)),
    ("owner", .text (some observed.owner)),
    ("template", .text (some observed.template)),
    ("encoding", .text (some observed.encoding)),
    ("lcCollate", .text (some observed.lcCollate)),
    ("lcCtype", .text (some observed.lcCtype)),
    ("tablespaceName", .text (some observed.tablespace)),
    ("connectionLimit", .number (.ofInt observed.connectionLimit.toInt)),
    ("allowConnections", .boolOrNull observed.allowConnections),
    ("isTemplate", .boolOrNull observed.isTemplate)]

/-- The members of an observed database that may be left out. -/
def defaults : List (String × Document) := [("allowConnections", .null), ("isTemplate", .null)]

theorem form_toRecord (observed : ObservedDatabase) :
    observed.toRecord.form = observed.members := by
  simp only [members, ← Document.document_optionalFlag]
  rfl

theorem roundTrips : RoundTrips parse members memberNames defaults := by
  have hnames : (fields.map Field.name).Nodup := by decide
  have h := (Record.roundTrips hnames).map ofRecord_toRecord fun _ => rfl
  simp only [form_toRecord] at h
  exact h

end ObservedDatabase

/-- Specs and observed databases are read back from what they are written as, from any object with
their members in it, and from the array of their values; an object that lacks a required member,
repeats a member or gives one a value that it cannot have is a mismatch. -/
theorem databases_round_trip :
    RoundTrips DatabaseSpec.parse DatabaseSpec.members DatabaseSpec.memberNames
        DatabaseSpec.defaults ∧
      RoundTrips ObservedDatabase.parse ObservedDatabase.members ObservedDatabase.memberNames
        ObservedDatabase.defaults :=
  ⟨DatabaseSpec.roundTrips, ObservedDatabase.roundTrips⟩

/-- A spec with a member out of order, one that is no field, and a name written with an escape. -/
theorem databases_round_trip_shuffled :
    DatabaseSpec.parse
        "\x7b\"connectionLimit\": 5, \"x\": [\x7b\"y\": \"\\udead\"\x7d], \"n\\u0061me\": \"d\"\x7d" =
      .ok { DatabaseSpec.ofName "d" with connectionLimit := 5 } := by
  refine (databases_round_trip.1.object (show tokens _ = (Document.ofMembers
    [("connectionLimit", .number (.ofInt 5)),
      ("x", .array [.object [(some "y", .text none)]]),
      ("name", .text (some "d"))]).tokens by decide) _).mpr ?_
  simp [Holds, DatabaseSpec.members, DatabaseSpec.defaults, DatabaseSpec.ofName, valuesOf,
    Document.textOrNull]

end PgConverge
