import PgConverge.Text.Blank
import PgConverge.Text.Numeral
import PgConverge.Text.Split

/-!
# Tables of characters

What is known about single characters is written in tables of text. A row gives the number of a
character in hexadecimal, or the first and the last one of a range with a hyphen between them;
behind an equals sign may stand other numbers that go with it, with points between them. Blanks part
the rows. The rows are in increasing order, so one is found by halving the table again and again.

## Main definitions

* `Text.Table` — rows in increasing order.
* `Text.Table.ofText` — reads a table.
* `Text.Table.find?` — the row of a character.
* `Text.Table.contains` — whether a character has a row.
-/

namespace PgConverge.Text

/-- A range of characters and the numbers that go with it. -/
structure Row where
  first : Nat
  last : Nat
  values : List Nat
deriving DecidableEq, Repr

/-- Rows in increasing order. -/
structure Table where
  rows : Array Row
deriving DecidableEq, Repr

/-- Reads a row. -/
def Row.ofText? (s : List Char) : Option Row := do
  let (range, values) := splitFirst (· == '=') s
  let (first, last) := splitFirst (· == '-') range
  let first ← hexadecimal? first
  let last ← last.elim (some first) hexadecimal?
  let values ← (values.elim [] (splitWhere (· == '.'))).mapM hexadecimal?
  return ⟨first, last, values⟩

namespace Table

/-- Reads a table. -/
def ofText (s : String) : Table :=
  ⟨((splitWhere isBlank s.toList).filterMap Row.ofText?).toArray⟩

/-- The rows of two tables, with those of the second one behind those of the first. -/
def append (t u : Table) : Table := ⟨t.rows ++ u.rows⟩

/-- The row of a number among those from place `low` up to place `high`. -/
def findBetween? (t : Table) (n low high : Nat) : Option Row :=
  if low < high then
    let middle := (low + high) / 2
    match t.rows[middle]? with
    | none => none
    | some row =>
      if n < row.first then findBetween? t n low middle
      else if row.last < n then findBetween? t n (middle + 1) high
      else some row
  else none
termination_by high - low

/-- The row of a character. -/
def find? (t : Table) (c : Char) : Option Row := t.findBetween? c.toNat 0 t.rows.size

/-- Whether a character has a row. -/
def contains (t : Table) (c : Char) : Bool := (t.find? c).isSome

end Table

end PgConverge.Text
