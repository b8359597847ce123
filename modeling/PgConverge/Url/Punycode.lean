import PgConverge.Text.Split

/-!
# Punycode

A label of a domain name in ASCII letters, digits and hyphens. The ASCII characters of the label
come first; behind a hyphen, numbers say which other characters go where. A number says how many
pairs of a character and a place lie between one insertion and the next, in digits whose weights
follow the numbers before.

## Main definitions

* `Url.Punycode.encode` — writes a label.
* `Url.Punycode.decode?` — reads a label.
-/

namespace PgConverge.Url.Punycode

/-- The number of digits: letters stand for 0 to 25 and digits for 26 to 35. -/
def base : Nat := 36

/-- The bias before the first number. -/
def initialBias : Nat := 72

/-- The first character that is no ASCII character. -/
def initialPoint : Nat := 0x80

/-- The digit of a value. -/
def digit (n : Nat) : Char :=
  if n < 26 then Char.ofNat ('a'.toNat + n) else Char.ofNat ('0'.toNat + (n - 26))

/-- The value of a digit. -/
def digitValue? (c : Char) : Option Nat :=
  if c.isLower then some (c.toNat - 'a'.toNat)
  else if c.isUpper then some (c.toNat - 'A'.toNat)
  else if c.isDigit then some (c.toNat - '0'.toNat + 26)
  else none

/-- The value below which a digit is the last one of its number. The places count in steps of
`base`. -/
def threshold (place bias : Nat) : Nat := max 1 (min 26 (place - bias))

/-- The bias for numbers of about the size of `delta`. -/
def biasOf (bias delta : Nat) : Nat :=
  if 455 < delta then biasOf (bias + base) (delta / 35) else bias + base * delta / (delta + 38)
termination_by delta
decreasing_by omega

/-- The bias behind a number, with the label `length` characters long by now. -/
def adapt (delta length : Nat) (isFirst : Bool) : Nat :=
  let delta := if isFirst then delta / 700 else delta / 2
  biasOf 0 (delta + delta / length)

/-- The digits of a number from a place on. -/
def digitsFrom (place bias n : Nat) : List Char :=
  let t := threshold place bias
  if n < t then [digit n]
  else digit (t + (n - t) % (base - t)) :: digitsFrom (place + base) bias ((n - t) / (base - t))
termination_by n
decreasing_by
  have : 1 ≤ threshold place bias := by unfold threshold; omega
  have := Nat.div_le_self (n - threshold place bias) (base - threshold place bias)
  omega

/-- Where the writer or the reader of numbers stands. -/
structure Progress where
  /-- The character to be inserted next, or a later one. -/
  point : Nat
  delta : Nat
  bias : Nat
  /-- How many characters the label has by now. -/
  length : Nat
  isFirst : Bool
deriving DecidableEq, Repr

namespace Progress

/-- The place behind the ASCII characters. -/
def start (length : Nat) : Progress := ⟨initialPoint, 0, initialBias, length, true⟩

/-- The place behind a number. -/
def next (p : Progress) (delta : Nat) : Progress :=
  { p with
    delta := 0
    bias := adapt delta (p.length + 1) p.isFirst
    length := p.length + 1
    isFirst := false }

end Progress

/-- Writes the numbers for the insertions of one character into a label. -/
def insertions (label : List Nat) (point : Nat) (p : Progress) : List Char × Progress :=
  let delta := p.delta + (point - p.point) * (p.length + 1)
  let (digits, p) := label.foldl (fun (digits, p) n =>
    if n < point then (digits, { p with delta := p.delta + 1 })
    else if n == point then (digits ++ digitsFrom base p.bias p.delta, p.next p.delta)
    else (digits, p)) (([] : List Char), { p with delta })
  (digits, { p with point := point + 1, delta := p.delta + 1 })

/-- Writes a label. -/
def encode (label : List Char) : List Char :=
  let basic := label.filter (·.toNat < initialPoint)
  let points := label.map Char.toNat
  let others := ((points.filter (initialPoint ≤ ·)).mergeSort (· ≤ ·)).eraseDups
  let (digits, _) := others.foldl (fun (digits, p) point =>
    let (more, p) := insertions points point p
    (digits ++ more, p)) (([] : List Char), Progress.start basic.length)
  (if basic.isEmpty then [] else basic ++ ['-']) ++ digits

/-- Reads a number with its first digit at a place. -/
def takeNumber? (bias : Nat) : (place weight value : Nat) → List Char → Option (Nat × List Char)
  | place, weight, value, c :: rest => do
    let d ← digitValue? c
    let t := threshold place bias
    let value := value + d * weight
    if d < t then return (value, rest)
    else takeNumber? bias (place + base) (weight * (base - t)) value rest
  | _, _, _, [] => none

/-- The character with a number. -/
def charOf? (n : Nat) : Option Char := if n.isValidChar then some (Char.ofNat n) else none

/-- Reads at most `count` numbers and inserts their characters into a label. The first number counts
from the place in `p.delta`. -/
def decodeWithin? : (count : Nat) → Progress → List Char → List Char → Option (List Char)
  | _, _, label, [] => some label
  | 0, _, _, _ => none
  | count + 1, p, label, s => do
    let (delta, rest) ← takeNumber? p.bias base 1 0 s
    let pairs := p.delta + delta
    let point := p.point + pairs / (p.length + 1)
    let place := pairs % (p.length + 1)
    let c ← charOf? point
    let p := { p.next delta with point, delta := place + 1 }
    decodeWithin? count p (label.insertIdx place c) rest

/-- The texts before and behind the last hyphen. If nothing is before it, all is behind it. -/
def splitBasic (s : List Char) : List Char × List Char :=
  match Text.splitLast (· == '-') s with
  | (some (c :: basic), digits) => (c :: basic, digits)
  | _ => ([], s)

/-- Reads a label. -/
def decode? (s : List Char) : Option (List Char) :=
  let (basic, digits) := splitBasic s
  if basic.all (·.toNat < initialPoint) then
    decodeWithin? digits.length (.start basic.length) basic digits
  else none

end PgConverge.Url.Punycode
