import PgConverge.Text.Quoted

/-!
# Errors

What can go wrong while a database is converged, in kinds that tell a caller whether another
attempt may help, and the rule that joins the outcome of an operation with the outcome of its
cleanup.

## Main definitions

* `Error`, `Error.message` — the kinds of failure and the text of each.
* `Category`, `Error.category`, `Category.isRetriable` — which failures are worth another attempt.
* `Error.inContext` — names the operation that sent a rejected statement.
* `withCleanup` — the first failure wins; a cleanup failure shows only after a success.
-/

namespace PgConverge

/-- The kinds of failure. -/
inductive Category where
  | connection
  | statement
  | transaction
  | lock
  | notFound
  | unsupportedFeature
  | constraint
  | validation
  | configuration
  | other
deriving DecidableEq, Repr

namespace Category

/-- Every category, each once. -/
def all : List Category :=
  [.connection, .statement, .transaction, .lock, .notFound, .unsupportedFeature, .constraint,
    .validation, .configuration, .other]

/-- The name of a category. -/
def name : Category → String
  | connection => "connection"
  | statement => "statement"
  | transaction => "transaction"
  | lock => "lock"
  | notFound => "not_found"
  | unsupportedFeature => "unsupported_feature"
  | constraint => "constraint"
  | validation => "validation"
  | configuration => "configuration"
  | other => "other"

/-- Failures that may pass: a lost connection, an aborted transaction, a role lock not obtained. -/
def isRetriable : Category → Bool
  | connection | transaction | lock => true
  | _ => false

end Category

/-- A failure with what is known about it. -/
inductive Error where
  /-- A session could not be opened or was lost, perhaps for a reason reported from below. -/
  | connection (message : String) (reason : Option String)
  /-- The server rejected a statement sent for the operation named by `context`. -/
  | statement (context message : String) (sql : Option String)
  | transaction (message : String)
  /-- The lock on a role was not obtained. -/
  | lock (role message : String)
  | notFound (database : String)
  /-- A server of this version lacks the feature. -/
  | unsupportedFeature (feature version : String)
  | constraint (message : String)
  /-- The declared state is invalid. -/
  | validation (message : String)
  | configuration (message : String)
  /-- An answer of the server that makes no sense. -/
  | internal (message : String)
deriving DecidableEq, Repr

namespace Error

/-- The context of a rejected statement until an operation gives its own. -/
def unnamedContext : String := "statement failed"

/-- A rejected statement with no operation named yet. -/
def rejected (message : String) (sql : Option String) : Error :=
  .statement unnamedContext message sql

/-- The kind of a failure. -/
def category : Error → Category
  | connection .. => .connection
  | statement .. => .statement
  | transaction .. => .transaction
  | lock .. => .lock
  | notFound .. => .notFound
  | unsupportedFeature .. => .unsupportedFeature
  | constraint .. => .constraint
  | validation .. => .validation
  | configuration .. => .configuration
  | internal .. => .other

/-- Whether another attempt may succeed. -/
def isRetriable (e : Error) : Bool := e.category.isRetriable

/-- The text of a failure. -/
def message : Error → String
  | connection message _ => "connection error: " ++ message
  | statement context message _ => context ++ ": " ++ message
  | transaction message => "transaction error: " ++ message
  | lock role message => "could not lock role " ++ Text.quoted role ++ ": " ++ message
  | notFound database => "database " ++ Text.quoted database ++ " not found"
  | unsupportedFeature feature version =>
    "PostgreSQL server " ++ version ++ " does not support " ++ feature
  | constraint message => "constraint violation: " ++ message
  | validation message => "validation error: " ++ message
  | configuration message => "configuration error: " ++ message
  | internal message => "internal error: " ++ message

/-- The rejected statement, where one is known. -/
def sql? : Error → Option String
  | statement _ _ sql => sql
  | _ => none

/-- The failure below this one, where one is known. -/
def reason? : Error → Option String
  | connection _ reason => reason
  | _ => none

/-- Names the operation that sent a rejected statement; other failures stay as they are. -/
def inContext (context : String) : Error → Error
  | statement _ message sql => .statement context message sql
  | e => e

@[simp] theorem category_inContext (context : String) (e : Error) :
    (e.inContext context).category = e.category := by
  cases e <;> rfl

@[simp] theorem sql?_inContext (context : String) (e : Error) :
    (e.inContext context).sql? = e.sql? := by
  cases e <;> rfl

end Error

/-- Joins the outcome of an operation with the outcome of its cleanup: a failed operation stays
failed with its own error, and a failed cleanup is reported only after a success. -/
def withCleanup {α : Type} (primary : Except Error α) (cleanup : Except Error Unit) :
    Except Error α :=
  match primary, cleanup with
  | .ok a, .ok () => .ok a
  | .ok _, .error e => .error e
  | .error e, _ => .error e

@[simp] theorem withCleanup_error {α : Type} (e : Error) (cleanup : Except Error Unit) :
    withCleanup (.error e : Except Error α) cleanup = .error e := by
  cases cleanup <;> rfl

@[simp] theorem withCleanup_ok_unit {α : Type} (primary : Except Error α) :
    withCleanup primary (.ok ()) = primary := by
  cases primary <;> rfl

end PgConverge
