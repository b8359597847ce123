import PgConverge.Text.Numeral
import PgConverge.Text.Split

/-!
# Network addresses

The texts of IPv4 and IPv6 addresses.

## Main definitions

* `Net.ipv4?` — reads four decimal numbers with points between them.
* `Net.ipv6?` — reads eight groups of hexadecimal digits, some of which `::` may stand for.
* `Net.ipv4Text`, `Net.ipv6Text` — writes an address; the longest run of zero groups becomes `::`.
* `Net.Address` — an address of either kind.
-/

namespace PgConverge.Net

/-- A number of an IPv4 address: up to 255, without zeros in front. -/
def octet? (s : List Char) : Option Nat :=
  match s with
  | '0' :: _ :: _ => none
  | _ => if 3 < s.length then none else (Text.natural? s).filter (· ≤ 255)

/-- The four numbers of an IPv4 address. -/
def ipv4? (s : List Char) : Option (List Nat) :=
  let parts := Text.splitWhere (· == '.') s
  if parts.length == 4 then parts.mapM octet? else none

/-- A group of an IPv6 address: one to four hexadecimal digits. -/
def group? (s : List Char) : Option Nat :=
  if 4 < s.length then none else Text.hexadecimal? s

/-- The groups that stand between colons; an IPv4 address may stand in place of the last two. -/
def groupList? : List (List Char) → Option (List Nat)
  | [] => some []
  | [last] =>
    match ipv4? last with
    | some [a, b, c, d] => some [256 * a + b, 256 * c + d]
    | _ => (group? last).map ([·])
  | part :: parts => do
    let group ← group? part
    let groups ← groupList? parts
    return group :: groups

/-- The groups of a text; the empty text has none. -/
def groups? (s : List Char) : Option (List Nat) :=
  if s.isEmpty then some [] else groupList? (Text.splitWhere (· == ':') s)

/-- The texts before and behind the first double colon, if there is one. -/
def splitDoubleColon : List Char → Option (List Char × List Char)
  | ':' :: ':' :: rest => some ([], rest)
  | c :: rest => (splitDoubleColon rest).map fun r => (c :: r.1, r.2)
  | [] => none

/-- The eight groups of an IPv6 address. A double colon stands for at least one group, and an IPv4
address may stand only at the end. -/
def ipv6? (s : List Char) : Option (List Nat) := do
  match splitDoubleColon s with
  | none =>
    let groups ← groups? s
    if groups.length == 8 then return groups else none
  | some (left, right) =>
    if left.contains '.' then none
    let left ← groups? left
    let right ← groups? right
    let given := left.length + right.length
    if given ≤ 7 then return left ++ List.replicate (8 - given) 0 ++ right else none

/-- Four numbers with points between them. -/
def ipv4Text (octets : List Nat) : List Char :=
  List.intercalate ['.'] (octets.map fun n => Nat.toDigits 10 n)

/-- How many zeros a list of groups starts with. -/
def leadingZeros (groups : List Nat) : Nat := (groups.takeWhile (· == 0)).length

/-- The place and the length of the first of the longest runs of zero groups. -/
def longestZeros : List Nat → Nat × Nat
  | [] => (0, 0)
  | group :: groups =>
    let here := leadingZeros (group :: groups)
    let (place, length) := longestZeros groups
    if here ≥ length then (0, here) else (place + 1, length)

/-- Groups in hexadecimal with colons between them. -/
def groupsText (groups : List Nat) : List Char :=
  List.intercalate [':'] (groups.map fun n => Nat.toDigits 16 n)

/-- The text of eight groups; a double colon stands for the first of the longest runs of two or more
zero groups. -/
def ipv6Text (groups : List Nat) : List Char :=
  let (place, length) := longestZeros groups
  if length < 2 then groupsText groups
  else groupsText (groups.take place) ++ [':', ':'] ++ groupsText (groups.drop (place + length))

/-- An address of a host. -/
inductive Address where
  | ipv4 (octets : List Nat)
  | ipv6 (groups : List Nat)
deriving DecidableEq, Repr

/-- Reads an address of either kind. -/
def Address.parse? (s : List Char) : Option Address :=
  (ipv4? s).map ipv4 <|> (ipv6? s).map ipv6

end PgConverge.Net
