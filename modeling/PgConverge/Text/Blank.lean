/-!
# Blank characters

The characters with the Unicode property `White_Space`, and trimming them off both ends of a text.

## Main definitions

* `Text.isBlank` — membership in the property.
* `Text.trim` — the text between its first and its last character that is not blank.
-/

namespace PgConverge.Text

/-- The Unicode property `White_Space`: controls, spaces and separators that print nothing. -/
def isBlank (c : Char) : Bool :=
  let n := c.toNat
  (0x09 ≤ n && n ≤ 0x0D) || n == 0x20 || n == 0x85 || n == 0xA0 || n == 0x1680 ||
    (0x2000 ≤ n && n ≤ 0x200A) || n == 0x2028 || n == 0x2029 || n == 0x202F || n == 0x205F ||
    n == 0x3000

/-- Drops blank characters at the end. -/
def trimEnd (s : List Char) : List Char := (s.reverse.dropWhile isBlank).reverse

/-- Drops blank characters at both ends. -/
def trim (s : List Char) : List Char := trimEnd (s.dropWhile isBlank)

end PgConverge.Text
