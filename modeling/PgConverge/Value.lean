import PgConverge.Error
import PgConverge.Text.Blank
import PgConverge.Text.Numeral
import PgConverge.Text.Summary

/-!
# Values and rows

The values that statements take and catalog rows hold, and the typed reading of one column of a row.

## Main definitions

* `Value` — a missing value, a boolean, an integer of 32 or 64 bits, or a text.
* `Value.bool?`, `Value.int?`, `Value.text?` — a value as a boolean, an integer, a text.
* `Row`, `Row.text`, `Row.boolean`, `Row.integer` — a column of a row, or an error that names it.
-/

namespace PgConverge

/-- A parameter of a statement or a column of a row. -/
inductive Value where
  | null
  | bool (b : Bool)
  | int32 (n : Int32)
  | int64 (n : Int64)
  | text (s : String)
deriving DecidableEq, Repr

namespace Value

/-- Whether a value is missing. -/
def isNull : Value → Bool
  | null => true
  | _ => false

/-- A value as a boolean; of texts, the words for true and false in any case of ASCII letters. No
other letter has one of these words' letters as its lowercase form. -/
def bool? : Value → Option Bool
  | bool b => some b
  | text s =>
    let word := String.ofList (s.toList.map Char.toLower)
    if word == "true" || word == "t" || word == "on" then some true
    else if word == "false" || word == "f" || word == "off" then some false
    else none
  | _ => none

/-- A value as an integer; of texts, a numeral between blanks. -/
def int? : Value → Option Int64
  | int32 n => some n.toInt64
  | int64 n => some n
  | text s => Text.int64? (Text.trim s.toList)
  | _ => none

/-- A value as a text. -/
def text? : Value → Option String
  | text s => some s
  | _ => none

/-- The printed form of a value inside an error message. -/
def summary : Value → String
  | null => "Null"
  | bool b => "Bool(" ++ (if b then "true" else "false") ++ ")"
  | int32 n => "Int32(" ++ toString n.toInt ++ ")"
  | int64 n => "Int64(" ++ toString n.toInt ++ ")"
  | text s => "String(" ++ Text.quoted s ++ ")"

end Value

/-- A column of a row: its name and its value. -/
structure Cell where
  column : String
  value : Value
deriving DecidableEq, Repr

/-- A row: its columns in order. -/
structure Row where
  cells : List Cell
deriving DecidableEq, Repr

namespace Row

/-- A row whose columns are named by their positions. -/
def ofValues (values : List Value) : Row :=
  ⟨values.mapIdx fun i value => ⟨"column" ++ toString i, value⟩⟩

/-- A row with the given column names. -/
def ofColumns (columns : List String) (values : List Value) : Row :=
  ⟨List.zipWith Cell.mk columns values⟩

/-- The values of a row in order. -/
def values (r : Row) : List Value := r.cells.map Cell.value

/-- The value in a column. -/
def get? (r : Row) (i : Nat) : Option Value := r.cells[i]?.map Cell.value

/-- The error for a column that is missing or holds another type. -/
def mismatch (r : Row) (i : Nat) (expected : String) : Error :=
  .internal <| "expected " ++ expected ++ " in column " ++ toString i ++ " (" ++
    (r.cells[i]?.map Cell.column).getD "?" ++ "), got " ++
    Text.optional ((r.get? i).map Value.summary)

/-- Reads a column with a conversion, or fails with the name of the expected type. -/
def read {α : Type} (r : Row) (i : Nat) (expected : String) (convert : Value → Option α) :
    Except Error α :=
  match (r.get? i).bind convert with
  | some a => .ok a
  | none => .error (r.mismatch i expected)

/-- Reads a text. -/
def text (r : Row) (i : Nat) : Except Error String := r.read i "text" Value.text?

/-- Reads a boolean. -/
def boolean (r : Row) (i : Nat) : Except Error Bool := r.read i "boolean" Value.bool?

/-- Reads an integer. -/
def integer (r : Row) (i : Nat) : Except Error Int64 := r.read i "integer" Value.int?

end Row

end PgConverge
