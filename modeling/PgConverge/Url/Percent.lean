/-!
# Percent encoding

Characters that may not stand in a part of a URL are written as the bytes of their UTF-8 form, each
as a percent sign with two hexadecimal digits.

## Main definitions

* `Url.percentEncode` — writes a text with some characters encoded.
* `Url.percentDecode` — the bytes that a text stands for.
* `Url.inUserinfo`, `Url.inPath`, `Url.inQuery`, … — the characters encoded in each part.
-/

namespace PgConverge.Url

/-- A hexadecimal digit in uppercase. -/
def hexDigit (n : Nat) : Char :=
  if n < 10 then Char.ofNat ('0'.toNat + n) else Char.ofNat ('A'.toNat + (n - 10))

/-- A byte as a percent sign with two digits. -/
def encodeByte (b : UInt8) : List Char := ['%', hexDigit (b.toNat / 16), hexDigit (b.toNat % 16)]

/-- Controls and characters beyond ASCII, which are encoded everywhere. -/
def isAlwaysEncoded (c : Char) : Bool := c.toNat < 0x20 || 0x7E < c.toNat

/-- Encodes the characters of a set and those that are encoded everywhere. -/
def percentEncode (set : Char → Bool) (s : List Char) : List Char :=
  s.flatMap fun c =>
    if isAlwaysEncoded c || set c then (String.utf8EncodeChar c).flatMap encodeByte else [c]

/-- No characters but those that are encoded everywhere are encoded in the host of a scheme that is
not special, and in a path that is no list of segments. -/
def inPlain (_ : Char) : Bool := false

/-- The characters encoded in a fragment. -/
def inFragment (c : Char) : Bool := c == ' ' || c == '"' || c == '<' || c == '>' || c == '\x60'

/-- The characters encoded in a query. -/
def inQuery (c : Char) : Bool := c == ' ' || c == '"' || c == '#' || c == '<' || c == '>'

/-- The characters encoded in the query of a URL with a special scheme. -/
def inSpecialQuery (c : Char) : Bool := inQuery c || c == '\''

/-- The characters encoded in a path. -/
def inPath (c : Char) : Bool := inFragment c || c == '#' || c == '?' || c == '{' || c == '}'

/-- The characters encoded in a user name and in a password. -/
def inUserinfo (c : Char) : Bool :=
  inPath c || c == '/' || c == ':' || c == ';' || c == '=' || c == '@' || c == '[' || c == '\\' ||
    c == ']' || c == '^' || c == '|'

/-- The value of a byte that is a hexadecimal digit. -/
def hexByte? (b : UInt8) : Option UInt8 :=
  if 48 ≤ b && b ≤ 57 then some (b - 48)
  else if 97 ≤ b && b ≤ 102 then some (b - 87)
  else if 65 ≤ b && b ≤ 70 then some (b - 55)
  else none

/-- Replaces each percent sign with two digits by the byte that they stand for; other percent signs
stay. -/
def decodeBytes : List UInt8 → List UInt8
  | [] => []
  | b :: rest =>
    match b == 37, rest with
    | true, high :: low :: more =>
      match hexByte? high, hexByte? low with
      | some high, some low => (16 * high + low) :: decodeBytes more
      | _, _ => b :: decodeBytes (high :: low :: more)
    | _, rest => b :: decodeBytes rest

/-- The bytes of a text in UTF-8. -/
def utf8 (s : List Char) : List UInt8 := s.flatMap String.utf8EncodeChar

/-- The bytes that a text stands for. -/
def percentDecode (s : List Char) : List UInt8 := decodeBytes (utf8 s)

/-- The text that a text stands for, if its bytes are UTF-8. -/
def percentDecodeText? (s : List Char) : Option (List Char) :=
  (String.fromUTF8? ⟨(percentDecode s).toArray⟩).map String.toList

end PgConverge.Url
