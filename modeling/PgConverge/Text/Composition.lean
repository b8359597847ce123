import PgConverge.Text.CombiningClass
import PgConverge.Text.Composite

/-!
# Composed texts

One text can be written in several ways, since marks may have different orders and may be part of
the character before them or not. Its composed form puts marks into canonical order and makes as
many characters one as it can.

## Main definitions

* `Text.composed` — the composed form of a text.
-/

namespace PgConverge.Text

/-- Composes a text behind a character and the marks, in reverse order, that have been left behind
it. A character may be joined with `start` if nothing of its class or a higher one stands
between. -/
def composeBehind (start : Char) (left : List Char) : List Char → List Char
  | [] => start :: left.reverse
  | c :: rest =>
    let isFree := left.head?.all fun last => combiningClass last < combiningClass c
    match if isFree then whole? start c else none with
    | some whole => composeBehind whole left rest
    | none =>
      if combiningClass c == 0 then start :: left.reverse ++ composeBehind c [] rest
      else composeBehind start (c :: left) rest

/-- The composed form of a text. A text without characters from U+0300 on is its own. -/
def composed (s : List Char) : List Char :=
  if s.all (·.toNat < 0x300) then s
  else
    match inCanonicalOrder (s.flatMap parts) with
    | [] => []
    | c :: rest => composeBehind c [] rest

end PgConverge.Text
