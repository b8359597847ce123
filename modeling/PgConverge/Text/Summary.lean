import PgConverge.Text.Quoted

/-!
# Summaries of records

The one-line printed form of a record: its name, then its fields in order between braces. A record
may leave some fields out, which two dots say.

## Main definitions

* `Text.optional` — a value that may be missing.
* `Text.summary`, `Text.partialSummary` — a record with all or with only some of its fields.
* `Text.dictionary` — quoted keys with quoted values.
-/

namespace PgConverge.Text

/-- A printed value that may be missing. -/
def optional (printed : Option String) : String :=
  match printed with
  | none => "None"
  | some text => "Some(" ++ text ++ ")"

/-- Fields in order, each with its name. -/
def fieldList (fields : List (String × String)) : String :=
  String.intercalate ", " (fields.map fun f => f.1 ++ ": " ++ f.2)

/-- A record with all of its fields. -/
def summary (name : String) (fields : List (String × String)) : String :=
  name ++ " \x7b " ++ fieldList fields ++ " \x7d"

/-- A record with some of its fields left out. -/
def partialSummary (name : String) (fields : List (String × String)) : String :=
  name ++ " \x7b " ++ fieldList fields ++ ", .. \x7d"

/-- Quoted keys with quoted values between braces. -/
def dictionary (entries : List (String × String)) : String :=
  "\x7b" ++ fieldList (entries.map fun e => (quoted e.1, quoted e.2)) ++ "\x7d"

end PgConverge.Text
