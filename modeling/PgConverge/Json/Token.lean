import PgConverge.Json.Number
import PgConverge.Text.Numeral

/-!
# Tokens of JSON text

A text is cut into tokens from the left, up to the first place where it is no JSON; a last token
marks that place.

## Main definitions

* `Json.Token` — brackets, separators, literals.
* `Json.tokens` — the tokens of a text.
-/

namespace PgConverge.Json

/-- A token of JSON text. -/
inductive Token where
  | beginObject
  | endObject
  | beginArray
  | endArray
  | colon
  | comma
  | null
  | bool (b : Bool)
  | number (n : Number)
  | text (s : String)
  /-- A quoted text with half of a surrogate pair in it, which stands for no text. -/
  | brokenText
  /-- No token: the text is no JSON from here on. -/
  | invalid
deriving DecidableEq, Repr

/-- A piece of a quoted text: a character, or a code unit written in hexadecimal. -/
inductive Piece where
  | char (c : Char)
  | codeUnit (n : Nat)
deriving DecidableEq, Repr

/-- The value of four hexadecimal digits. -/
def codeUnit? (a b c d : Char) : Option Nat := Text.ofHexDigits? [a, b, c, d]

/-- The character for a letter behind a backslash. -/
def shortEscape? : Char → Option Char
  | '"' => some '"'
  | '\\' => some '\\'
  | '/' => some '/'
  | 'b' => some '\x08'
  | 'f' => some '\x0c'
  | 'n' => some '\n'
  | 'r' => some '\r'
  | 't' => some '\t'
  | _ => none

/-- Reads the pieces of a quoted text up to the closing quote, with the opening one already read.
Control characters have to be escaped. -/
def takePieces? : List Char → Option (List Piece × List Char)
  | '"' :: rest => some ([], rest)
  | '\\' :: 'u' :: a :: b :: c :: d :: rest => do
    let n ← codeUnit? a b c d
    let (pieces, rest) ← takePieces? rest
    return (.codeUnit n :: pieces, rest)
  | '\\' :: c :: rest => do
    let c ← shortEscape? c
    let (pieces, rest) ← takePieces? rest
    return (.char c :: pieces, rest)
  | c :: rest =>
    if c.toNat < 0x20 || c == '\\' then none
    else do
      let (pieces, rest) ← takePieces? rest
      return (.char c :: pieces, rest)
  | [] => none

/-- The first units of surrogate pairs. -/
def isHighSurrogate (n : Nat) : Bool := 0xD800 ≤ n && n ≤ 0xDBFF

/-- The second units of surrogate pairs. -/
def isLowSurrogate (n : Nat) : Bool := 0xDC00 ≤ n && n ≤ 0xDFFF

/-- The text that pieces stand for; half a surrogate pair stands for none. -/
def joinPieces? : List Piece → Option (List Char)
  | [] => some []
  | .char c :: rest => (joinPieces? rest).map (c :: ·)
  | [.codeUnit n] =>
    if isHighSurrogate n || isLowSurrogate n then none else some [Char.ofNat n]
  | .codeUnit n :: next :: rest =>
    if isHighSurrogate n then
      match next with
      | .codeUnit m =>
        if isLowSurrogate m then
          (joinPieces? rest).map
            (Char.ofNat (0x10000 + (n - 0xD800) * 0x400 + (m - 0xDC00)) :: ·)
        else none
      | .char _ => none
    else if isLowSurrogate n then none
    else (joinPieces? (next :: rest)).map (Char.ofNat n :: ·)

/-- The token for a quoted text. -/
def textToken (pieces : List Piece) : Token :=
  match joinPieces? pieces with
  | some s => .text (String.ofList s)
  | none => .brokenText

/-- Reads the token that starts with the given character. -/
def takeToken? (c : Char) (rest : List Char) : Option (Token × List Char) :=
  match c, rest with
  | '\x7b', _ => some (.beginObject, rest)
  | '\x7d', _ => some (.endObject, rest)
  | '[', _ => some (.beginArray, rest)
  | ']', _ => some (.endArray, rest)
  | ':', _ => some (.colon, rest)
  | ',', _ => some (.comma, rest)
  | 'n', 'u' :: 'l' :: 'l' :: rest => some (.null, rest)
  | 't', 'r' :: 'u' :: 'e' :: rest => some (.bool true, rest)
  | 'f', 'a' :: 'l' :: 's' :: 'e' :: rest => some (.bool false, rest)
  | '"', _ => (takePieces? rest).map fun r => (textToken r.1, r.2)
  | _, _ => (Number.take? (c :: rest)).map fun r => (.number r.1, r.2)

/-- The characters that may stand between tokens. -/
def isSpace (c : Char) : Bool := c == ' ' || c == '\n' || c == '\r' || c == '\t'

/-- The tokens of a text of at most `size` characters. -/
def tokensWithin : (size : Nat) → List Char → List Token
  | _, [] => []
  | 0, _ => [.invalid]
  | size + 1, c :: rest =>
    if isSpace c then tokensWithin size rest
    else
      match takeToken? c rest with
      | some (token, rest) => token :: tokensWithin size rest
      | none => [.invalid]

/-- The tokens of a text. -/
def tokens (s : String) : List Token := tokensWithin s.toList.length s.toList

end PgConverge.Json
