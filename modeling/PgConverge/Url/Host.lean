import PgConverge.Net.Address
import PgConverge.Url.Domain
import PgConverge.Url.Percent

/-!
# Hosts in URLs

Under a special scheme a host is a domain name or an address, and is brought to one written form.
Under every other scheme it is an address in brackets, or any text without separators.

## Main definitions

* `Url.specialHost?` — reads the host of a URL with a special scheme.
* `Url.otherHost?` — reads the host of any other URL.
-/

namespace PgConverge.Url

/-- A number of an IPv4 address in a URL: hexadecimal behind `0x`, octal behind `0`, else
decimal. -/
def number? (s : List Char) : Option Nat :=
  match s with
  | [] => none
  | '0' :: 'x' :: digits | '0' :: 'X' :: digits => Text.ofHexDigits? digits
  | '0' :: digits@(_ :: _) =>
    if digits.all fun c => '0' ≤ c && c ≤ '7' then
      some (digits.foldl (fun n c => 8 * n + Text.digitValue c) 0)
    else none
  | digits => Text.natural? digits

/-- The labels of a domain name, without the empty one behind a point at the end. -/
def labels (domain : List Char) : List (List Char) :=
  let parts := Text.splitWhere (· == '.') domain
  if parts.getLast? == some [] && 1 < parts.length then parts.dropLast else parts

/-- Whether a domain name has to be read as an IPv4 address: its last label is a number. -/
def endsInNumber (domain : List Char) : Bool :=
  match (labels domain).getLast? with
  | some last => (!last.isEmpty && last.all Char.isDigit) || (number? last).isSome
  | none => false

/-- How many values so many bytes have. -/
def byteValues (bytes : Nat) : Nat := 1 <<< (8 * bytes)

/-- The value of up to four numbers of an IPv4 address. Each but the last one is a byte, and the
last one fills the bytes that are left. -/
def addressOf? : (bytes : Nat) → List Nat → Option Nat
  | 0, _ | _, [] => none
  | bytes + 1, [last] => if last < byteValues (bytes + 1) then some last else none
  | bytes + 1, n :: numbers =>
    if n < 256 then (addressOf? bytes numbers).map (n * byteValues bytes + ·) else none

/-- Reads an IPv4 address in any of the forms that URLs allow. -/
def ipv4Host? (domain : List Char) : Option (List Char) := do
  let numbers ← (labels domain).mapM number?
  let address ← addressOf? 4 numbers
  return Net.ipv4Text
    [address >>> 24, (address >>> 16) % 256, (address >>> 8) % 256, address % 256]

/-- Reads an IPv6 address between brackets. -/
def ipv6Host? (s : List Char) : Option (List Char) :=
  match s with
  | '[' :: rest =>
    if rest.getLast? == some ']' then
      (Net.ipv6? rest.dropLast).map fun groups => '[' :: Net.ipv6Text groups ++ [']']
    else none
  | _ => none

/-- The characters that may not stand in a host: blanks, NUL and separators. -/
def isForbiddenInHost (c : Char) : Bool :=
  c == '\x00' || c == '\t' || c == '\n' || c == '\r' || c == ' ' || c == '#' || c == '/' ||
    c == ':' || c == '<' || c == '>' || c == '?' || c == '@' || c == '[' || c == '\\' ||
    c == ']' || c == '^' || c == '|'

/-- The characters that may not stand in a domain name: those, all other controls, and percent
signs. -/
def isForbiddenInDomain (c : Char) : Bool :=
  isForbiddenInHost c || c.toNat < 0x20 || c == '%' || c.toNat == 0x7F

/-- Reads the host of a URL whose scheme is not special. -/
def otherHost? (s : List Char) : Option (List Char) :=
  if s.head? == some '[' then ipv6Host? s
  else if s.any isForbiddenInHost then none
  else some (percentEncode inPlain s)

/-- The form of a domain name in ASCII. -/
def domain? (s : List Char) : Option (List Char) :=
  (asciiDomain? s).filter fun domain => !domain.any isForbiddenInDomain

/-- Reads the host of a URL with a special scheme. -/
def specialHost? (s : List Char) : Option (List Char) :=
  if s.head? == some '[' then ipv6Host? s
  else do
    let domain ← domain? (← percentDecodeText? s)
    if domain.isEmpty then none
    else if endsInNumber domain then ipv4Host? domain
    else return domain

end PgConverge.Url
