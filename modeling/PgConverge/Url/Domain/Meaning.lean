import PgConverge.Url.Domain.Form
import PgConverge.Url.Domain.Letter
import PgConverge.Url.Domain.Plain
import PgConverge.Url.Domain.Sign
import PgConverge.Url.Domain.Styled

/-!
# What characters stand for in domain names

A name may be written with capitals, wide or styled letters, and the points of other scripts. Each
such character stands for other ones; some count for nothing, and some may not be used at all.

## Main definitions

* `Url.meaning?` — what a character stands for.
-/

namespace PgConverge.Url

open Text (Table)

/-- The characters that count for nothing: the soft hyphen, selectors, fillers and other marks in a
text that are not shown. -/
def unwritten : Table := .ofText
  "AD 34F 115F-1160 17B4-17B5 180B-180F 200B 2060-2064 206A-206F 3164 FE00-FE0F FEFF FFA0
   1BCA0-1BCA3 1D173-1D17A E0100-E01EF"

/-- The characters that stand for others. -/
def standIns : Table :=
  ((lettersTo1FFF.append signsTo32FF).append formsToFFFF).append styledFrom10000

/-- What a character stands for by its row. Only the characters of a range that stand for one
character each differ. -/
def meaningIn (row : Text.Row) (c : Char) : List Char :=
  match row.values with
  | [first] => [Char.ofNat (if row.first == row.last then first else first + (c.toNat - row.first))]
  | values => values.map Char.ofNat

/-- What a character stands for in a domain name. -/
def meaning? (c : Char) : Option (List Char) :=
  if c.toNat < 0x80 then some [c.toLower]
  else if isPlain c then some [c]
  else if unwritten.contains c then some []
  else (standIns.find? c).map (meaningIn · c)

end PgConverge.Url
