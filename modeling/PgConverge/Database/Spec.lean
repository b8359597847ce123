import PgConverge.Text.Blank
import PgConverge.Validation

/-!
# The declared state of a database

A spec says what one database should look like. It is checked before anything is sent, and compared
with the spec of the previous run to find out what has to change.

## Main definitions

* `DatabaseSpec` — the attributes that can be declared.
* `DatabaseSpec.fieldErrors`, `DatabaseSpec.check` — what is wrong with a spec.
* `SpecChange`, `SpecChange.differs`, `SpecChange.fixedChanges` — a previous and a desired spec, and
  the attributes in which they differ.
-/

namespace PgConverge

/-- The declared state of a database. The template, the encoding, the collation, the character
classes and the colocation hold from creation on and cannot be changed later. -/
structure DatabaseSpec where
  name : String
  /-- The owning role; without one, or with an empty one, the connecting role owns the database. -/
  owner : Option String
  template : Option String
  encoding : Option String
  lcCollate : Option String
  lcCtype : Option String
  tablespace : Option String
  /-- The largest number of sessions at a time; -1 sets no limit. -/
  connectionLimit : Int32
  allowConnections : Bool
  isTemplate : Bool
  /-- Whether a change of owner hands over the objects of the previous owner too. -/
  reassignObjects : Bool
  colocation : Bool
deriving DecidableEq, Repr

theorem Text.not_isEmpty (text : String) : (!text.isEmpty) = decide (text ≠ "") := by
  rw [Bool.eq_iff_iff]
  simp

namespace DatabaseSpec

/-- The connection limit that sets none. -/
def unlimited : Int32 := -1

/-- A spec that requests nothing but a name. -/
def ofName (name : String) : DatabaseSpec where
  name := name
  owner := none
  template := none
  encoding := none
  lcCollate := none
  lcCtype := none
  tablespace := none
  connectionLimit := unlimited
  allowConnections := true
  isTemplate := false
  reassignObjects := false
  colocation := false

/-- The owner that is asked for by name. -/
def requestedOwner (spec : DatabaseSpec) : Option String :=
  spec.owner.filter fun owner => !owner.isEmpty

theorem requestedOwner_eq (spec : DatabaseSpec) :
    spec.requestedOwner = spec.owner.filter (· ≠ "") := by
  simp only [requestedOwner, Text.not_isEmpty]

theorem requestedOwner_eq_some_iff {spec : DatabaseSpec} {owner : String} :
    spec.requestedOwner = some owner ↔ spec.owner = some owner ∧ owner ≠ "" := by
  rw [requestedOwner_eq, Option.filter_eq_some_iff, decide_eq_true_iff]

/-- What is wrong with a name: it is blank, or it holds a NUL character. -/
def nameErrors (name : String) : List FieldError :=
  if name.toList.all Text.isBlank then
    [⟨"name", "empty_name", some "database name must not be empty"⟩]
  else if name.toList.contains '\x00' then
    [⟨"name", "invalid_name", some "database name must not contain NUL"⟩]
  else []

/-- What is wrong with a connection limit: it is below -1. -/
def connectionLimitErrors (limit : Int32) : List FieldError :=
  if limit < unlimited then
    [⟨"connection_limit", "range", some "connection limit must be -1 or greater"⟩]
  else []

/-- Everything that is wrong with a spec, in the order of the field names. -/
def fieldErrors (spec : DatabaseSpec) : List FieldError :=
  connectionLimitErrors spec.connectionLimit ++ nameErrors spec.name

/-- Succeeds if a spec is valid. -/
def check (spec : DatabaseSpec) : Except Error Unit := FieldError.check spec.fieldErrors

end DatabaseSpec

/-- An attribute that can change on an existing database. -/
inductive Attribute where
  | name
  | owner
  | tablespace
  | connectionLimit
  | allowConnections
  | isTemplate
deriving DecidableEq, Repr

/-- The spec of the previous run and the one to converge to. -/
structure SpecChange where
  prior : DatabaseSpec
  desired : DatabaseSpec
deriving DecidableEq, Repr

namespace SpecChange

/-- Whether the two specs differ in an attribute. -/
def differs (change : SpecChange) : Attribute → Bool
  | .name => change.prior.name != change.desired.name
  | .owner => change.prior.owner != change.desired.owner
  | .tablespace => change.prior.tablespace != change.desired.tablespace
  | .connectionLimit => change.prior.connectionLimit != change.desired.connectionLimit
  | .allowConnections => change.prior.allowConnections != change.desired.allowConnections
  | .isTemplate => change.prior.isTemplate != change.desired.isTemplate

/-- Whether an attribute that is fixed at creation is requested and differs. -/
def replaces (prior desired : Option String) : Bool := desired.isSome && prior != desired

/-- The attributes fixed at creation in which the specs differ. -/
def fixedChanges (change : SpecChange) : List String :=
  let p := change.prior
  let d := change.desired
  (if replaces p.template d.template then ["template"] else []) ++
  (if replaces p.encoding d.encoding then ["encoding"] else []) ++
  (if replaces p.lcCollate d.lcCollate then ["lc_collate"] else []) ++
  (if replaces p.lcCtype d.lcCtype then ["lc_ctype"] else []) ++
  (if p.colocation != d.colocation then ["colocation"] else [])

/-- Succeeds if the desired spec is valid and keeps what is fixed at creation. -/
def check (change : SpecChange) : Except Error Unit := do
  change.desired.check
  if !change.fixedChanges.isEmpty then
    throw (.validation
      (String.intercalate ", " change.fixedChanges ++ " cannot change once the database exists"))

end SpecChange

end PgConverge
