import PgConverge.Text.Extending
import PgConverge.Text.Printable

/-!
# Quoted text

The printed form of a text inside an error message or a summary: double quotes around it, a
backslash before quotes and backslashes, short escapes for the common controls, and the code point
in hexadecimal for every other character that prints nothing or extends the one before.

## Main definitions

* `Text.escaped` — what one character becomes.
* `Text.quoted` — a whole text in quotes.
-/

namespace PgConverge.Text

/-- The code point of a character in lowercase hexadecimal between braces. -/
def codePoint (c : Char) : List Char :=
  ['\\', 'u', '{'] ++ Nat.toDigits 16 c.toNat ++ ['}']

/-- What a character becomes inside quotes. -/
def escaped (c : Char) : List Char :=
  if c == '\x00' then ['\\', '0']
  else if c == '\t' then ['\\', 't']
  else if c == '\r' then ['\\', 'r']
  else if c == '\n' then ['\\', 'n']
  else if c == '"' || c == '\\' then ['\\', c]
  else if isExtending c || !isPrintable c then codePoint c
  else [c]

/-- A text in double quotes with every character escaped that needs it. -/
def quoted (s : String) : String :=
  String.ofList ('"' :: s.toList.flatMap escaped ++ ['"'])

end PgConverge.Text
