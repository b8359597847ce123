/-!
# Numerals

Readers of integers written in ASCII digits, decimal ones but for the last definition. A reader
accepts a whole text or nothing: a text with blanks, separators or other digits is no numeral.

## Main definitions

* `Text.ofDigits` — the value of a run of digits.
* `Text.natural?` — digits only, at least one.
* `Text.integer?` — the same with an optional sign in front.
* `Text.bounded?` — a signed numeral whose value lies in a range.
* `Text.hexadecimal?` — hexadecimal digits only, at least one.
-/

namespace PgConverge.Text

/-- The value of a decimal digit. -/
def digitValue (c : Char) : Nat := c.toNat - '0'.toNat

/-- The value of a run of decimal digits; leading zeros count for nothing. -/
def ofDigits (digits : List Char) : Nat :=
  digits.foldl (fun n c => 10 * n + digitValue c) 0

/-- Reads digits, at least one and nothing else. -/
def natural? (s : List Char) : Option Nat :=
  if s.isEmpty || !s.all Char.isDigit then none else some (ofDigits s)

/-- Reads digits behind an optional sign. -/
def integer? : List Char → Option Int
  | '-' :: digits => (natural? digits).map fun n => -(n : Int)
  | '+' :: digits => (natural? digits).map Int.ofNat
  | digits => (natural? digits).map Int.ofNat

/-- Reads an optional plus sign and digits; a minus sign is refused, even before zero. -/
def unsigned? : List Char → Option Nat
  | '+' :: digits => natural? digits
  | digits => natural? digits

/-- Reads a signed numeral with a value from `low` to `high`. -/
def bounded? (low high : Int) (s : List Char) : Option Int :=
  (integer? s).filter fun n => low ≤ n && n ≤ high

/-- Reads an unsigned numeral with a value below `limit`. -/
def below? (limit : Nat) (s : List Char) : Option Nat :=
  (unsigned? s).filter (· < limit)

/-- Reads a numeral that fits in 64 bits with sign. -/
def int64? (s : List Char) : Option Int64 :=
  (bounded? Int64.minValue.toInt Int64.maxValue.toInt s).map Int64.ofInt

/-- The value of a hexadecimal digit. -/
def hexValue? (c : Char) : Option Nat :=
  if c.isDigit then some (digitValue c)
  else if 'a' ≤ c && c ≤ 'f' then some (c.toNat - 'a'.toNat + 10)
  else if 'A' ≤ c && c ≤ 'F' then some (c.toNat - 'A'.toNat + 10)
  else none

/-- The value of a run of hexadecimal digits. -/
def ofHexDigits? (digits : List Char) : Option Nat :=
  digits.foldlM (fun n c => (hexValue? c).map (16 * n + ·)) 0

/-- Reads hexadecimal digits, at least one and nothing else. -/
def hexadecimal? (s : List Char) : Option Nat := if s.isEmpty then none else ofHexDigits? s

end PgConverge.Text
