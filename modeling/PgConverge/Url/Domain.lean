import PgConverge.Text.Composition
import PgConverge.Text.Split
import PgConverge.Url.Domain.Label
import PgConverge.Url.Domain.Meaning
import PgConverge.Url.Punycode

/-!
# Domain names

A domain name is brought to one form in ASCII. Characters that stand for others are replaced, the
name is composed, and each label with characters beyond ASCII is encoded. A label that is encoded
already has to be one that could have been encoded here.

## Main definitions

* `Url.Label` — a label as it is read and as it is sent.
* `Url.label?` — a label in both of its forms.
* `Url.asciiDomain?` — a domain name in ASCII.
-/

namespace PgConverge.Url

/-- A label as it is read, and in ASCII as it is sent. -/
structure Label where
  shown : List Char
  sent : List Char
deriving DecidableEq, Repr

/-- What stands in front of an encoded label. -/
def encodedMark : List Char := ['x', 'n', '-', '-']

/-- How many characters a label may have to be encoded. -/
def maxShown : Nat := 1000

/-- How many characters an encoded label may have behind its mark. -/
def maxEncoded : Nat := 2000

/-- Whether all characters are ASCII characters. -/
def isAscii (s : List Char) : Bool := s.all (·.toNat < 0x80)

/-- Whether a label is in the form that labels are encoded in. -/
def isFinal (label : List Char) : Bool :=
  label.all (fun c => meaning? c == some [c]) && Text.composed label == label

/-- A label that is encoded, with what is encoded. -/
def encodedLabel? (encoded : List Char) : Option Label := do
  if !isAscii encoded || maxEncoded < encoded.length then none
  let shown ← Punycode.decode? encoded
  if isAscii shown || !isFinal shown || !isReadable shown then none
  return ⟨shown, encodedMark ++ encoded⟩

/-- A label with characters beyond ASCII. -/
def encodingLabel? (shown : List Char) : Option Label :=
  if maxShown < shown.length || !isReadable shown then none
  else some ⟨shown, encodedMark ++ Punycode.encode shown⟩

/-- A label in both of its forms. -/
def label? (s : List Char) : Option Label :=
  match Text.behind? encodedMark s with
  | some encoded => encodedLabel? encoded
  | none => if isAscii s then some ⟨s, s⟩ else encodingLabel? s

/-- A domain name in ASCII. -/
def asciiDomain? (s : List Char) : Option (List Char) := do
  let name := Text.composed (← s.mapM meaning?).flatten
  let labels ← (Text.splitWhere (· == '.') name).mapM label?
  if areOrdered (labels.map Label.shown) then return List.intercalate ['.'] (labels.map Label.sent)
  else none

end PgConverge.Url
