import PgConverge.Text.CombiningClass
import PgConverge.Text.Direction
import PgConverge.Text.Joining

/-!
# Labels of domain names

A domain name is a list of labels with points between them. A label with characters beyond ASCII has
to be readable: it does not start with a mark, the joiners in it have an effect, and in a name with
labels that are written from right to left the order of characters is clear.

## Main definitions

* `Url.isReadable` — the rules on marks and joiners.
* `Url.isOrdered` — the rule on directions for one label.
* `Url.areOrdered` — the rule on directions for the labels of a name.
-/

namespace PgConverge.Url

open Text (Direction)

/-! ## Marks and joiners -/

/-- The character that keeps letters from being joined. -/
def nonJoiner : Char := '\u200c'

/-- The character that has letters joined. -/
def joiner : Char := '\u200d'

/-- Whether a text, in reverse order, ends in a consonant without its vowel. -/
def endsInVirama (before : List Char) : Bool :=
  before.head?.any fun c => Text.combiningClass c == Text.virama

/-- Whether a joiner or a character that keeps from joining has an effect between two texts, the
first of them in reverse order: behind a consonant without its vowel either has, and between letters
that could be joined only the latter. -/
def hasEffect (c : Char) (before behind : List Char) : Bool :=
  endsInVirama before ||
    (c == nonJoiner && (before.dropWhile Text.isTransparent).head?.any Text.joinsNext &&
      (behind.dropWhile Text.isTransparent).head?.any Text.joinsPrevious)

/-- Whether the joiners in a text have an effect; before it stands another one, in reverse order. -/
def joinersHaveEffect (before : List Char) : List Char → Bool
  | [] => true
  | c :: rest =>
    ((c != nonJoiner && c != joiner) || hasEffect c before rest) &&
      joinersHaveEffect (c :: before) rest

/-- Whether a label does not start with a mark and has no joiners without effect. -/
def isReadable (label : List Char) : Bool :=
  !label.head?.any Text.isMark && joinersHaveEffect [] label

/-! ## Directions -/

/-- The kind of the last character that is no mark. -/
def lastDirection? (directions : List Direction) : Option Direction :=
  (directions.reverse.dropWhile (· == .nonspacingMark)).head?

/-- Whether a label may stand beside labels that are written from right to left. It has one
direction, starts with a letter, and ends in a letter or a number, with marks behind it. A label
from right to left has only one kind of numbers, and one from left to right no Arabic ones. -/
def isOrdered (label : List Char) : Bool :=
  let directions := label.map Text.direction
  let last := lastDirection? directions
  match directions with
  | [] => true
  | .leftToRight :: _ =>
    !directions.contains .rightToLeft && !directions.contains .arabicNumber &&
      (last == some .leftToRight || last == some .europeanNumber)
  | .rightToLeft :: _ =>
    !directions.contains .leftToRight &&
      !(directions.contains .europeanNumber && directions.contains .arabicNumber) &&
      last != some .neutral
  | _ => false

/-- Whether a label has characters that are written from right to left, or Arabic numbers. -/
def hasRightToLeft (label : List Char) : Bool :=
  label.any fun c => Text.direction c == .rightToLeft || Text.direction c == .arabicNumber

/-- Whether the order of characters is clear in each label of a name. -/
def areOrdered (labels : List (List Char)) : Bool :=
  !labels.any hasRightToLeft || labels.all isOrdered

end PgConverge.Url
