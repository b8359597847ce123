import PgConverge.Text.Numeral

/-!
# Numbers in JSON text

A number is kept as it is written. An integer is a number with neither a fraction nor an exponent
that fits in 64 bits; every other number stands for the nearest double and has to have one.

## Main definitions

* `Json.Number`, `Json.Number.take?` — a written number, and reading one off the front of a text.
* `Json.Number.integer?` — the value of an integer.
* `Json.Number.isFinite` — whether the nearest double is finite.
-/

namespace PgConverge.Json

/-- A number as written. -/
structure Number where
  negative : Bool
  /-- The digits before the point; no zero in front of other digits. -/
  whole : List Char
  /-- The digits behind the point, if there is one. -/
  fraction : List Char
  exponent : Option Int
deriving DecidableEq, Repr

namespace Number

/-- Splits off the digits at the front of a text. -/
def takeDigits (s : List Char) : List Char × List Char :=
  (s.takeWhile Char.isDigit, s.dropWhile Char.isDigit)

/-- Reads the digits before the point: a lone zero, or digits that start with another one. -/
def takeWhole? (s : List Char) : Option (List Char × List Char) :=
  match takeDigits s with
  | ([], _) => none
  | ('0' :: _ :: _, _) => none
  | r => some r

/-- Reads a point with the digits behind it, at least one, where there is a point. -/
def takeFraction? : List Char → Option (List Char × List Char)
  | '.' :: s =>
    match takeDigits s with
    | ([], _) => none
    | r => some r
  | s => some ([], s)

/-- Reads the sign and the digits of an exponent, at least one. -/
def takeExponentDigits? (s : List Char) : Option (Option Int × List Char) :=
  let (sign, s) : Int × List Char :=
    match s with
    | '-' :: r => (-1, r)
    | '+' :: r => (1, r)
    | r => (1, r)
  match takeDigits s with
  | ([], _) => none
  | (digits, rest) => some (some (sign * (Text.ofDigits digits : Int)), rest)

/-- Reads an exponent where there is one. -/
def takeExponent? : List Char → Option (Option Int × List Char)
  | 'e' :: s => takeExponentDigits? s
  | 'E' :: s => takeExponentDigits? s
  | s => some (none, s)

/-- Reads the number at the front of a text. -/
def take? (s : List Char) : Option (Number × List Char) := do
  let (negative, s) :=
    match s with
    | '-' :: r => (true, r)
    | r => (false, r)
  let (whole, s) ← takeWhole? s
  let (fraction, s) ← takeFraction? s
  let (exponent, s) ← takeExponent? s
  return (⟨negative, whole, fraction, exponent⟩, s)

/-- The number with the value of an integer. -/
def ofInt (n : Int) : Number := ⟨n < 0, Nat.toDigits 10 n.natAbs, [], none⟩

/-- The value of an integer that fits in 64 bits, signed if it is negative and unsigned if not. A
zero with a minus sign is no integer. -/
def integer? (n : Number) : Option Int :=
  if !n.fraction.isEmpty || n.exponent.isSome then none
  else
    let value := Text.ofDigits n.whole
    if n.negative then
      if 0 < value && Int64.minValue.toInt ≤ -(value : Int) then some (-(value : Int)) else none
    else if value < UInt64.size then some value
    else none

/-- Reads digits for as long as the value fits in 64 bits; gives the value and the digits left. -/
def accumulate (value : Nat) : List Char → Nat × List Char
  | [] => (value, [])
  | c :: rest =>
    let next := 10 * value + Text.digitValue c
    if next < UInt64.size then accumulate next rest else (value, c :: rest)

/-- The leading digits as one integer, with the power of ten that goes with it. Digits that do not
fit in 64 bits count only for their place. -/
def scaled (n : Number) : Nat × Int :=
  let (significand, left) := accumulate 0 n.whole
  let (significand, used) : Nat × Nat :=
    let (value, rest) := accumulate significand n.fraction
    (value, n.fraction.length - rest.length)
  (significand, (left.length : Int) - used + n.exponent.getD 0)

/-- The nearest number with 53 significant bits; a tie goes to the even one. -/
def round53 (n : Nat) : Nat :=
  let unit := 1 <<< (n.log2 - 52)
  let quotient := n / unit
  let rest := n % unit
  if 2 * rest < unit then quotient * unit
  else if 2 * rest > unit then (quotient + 1) * unit
  else if rest == 0 || quotient % 2 == 0 then quotient * unit
  else (quotient + 1) * unit

/-- Whether the double computed for a number is finite: the leading digits and the power of ten are
rounded to doubles, and their product stays below the middle between the largest double and the next
power of two. -/
def isFinite (n : Number) : Bool :=
  let (significand, exponent) := n.scaled
  if significand == 0 || exponent < 0 then true
  else if 308 < exponent then false
  else round53 significand * round53 (Nat.pow 10 exponent.toNat) < (1 <<< 54 - 1) <<< 970

end Number

end PgConverge.Json
