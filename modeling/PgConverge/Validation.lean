import PgConverge.Error

/-!
# Problems with fields

A description is checked field by field, and one error tells all that is wrong with it.

## Main definitions

* `FieldError`, `FieldError.check` — a problem with a field, and the outcome of a check.
* `Error.arranged` — a validation error with its problems in order.
-/

namespace PgConverge

/-- A problem with one field: a code, and a message that stands for the code where there is one. -/
structure FieldError where
  field : String
  code : String
  message : Option String
deriving DecidableEq, Repr

namespace FieldError

/-- What stands between two problems. -/
def separator : String := "; "

/-- The field and what is wrong with it. -/
def text (e : FieldError) : String := e.field ++ ": " ++ e.message.getD e.code

/-- One validation error for all problems. -/
def toError (problems : List FieldError) : Error :=
  .validation (String.intercalate separator (problems.map text))

/-- Succeeds if there are no problems. -/
def check (problems : List FieldError) : Except Error Unit :=
  if problems.isEmpty then .ok () else .error (toError problems)

end FieldError

/-- A validation error with its problems in the order of their texts; other errors stay as they
are. -/
def Error.arranged : Error → Error
  | .validation message =>
    .validation (String.intercalate FieldError.separator
      ((message.splitOn FieldError.separator).mergeSort fun a b => !(b < a)))
  | e => e

end PgConverge
