/-!
# Splitting texts

## Main definitions

* `Text.splitWhere` — the pieces between separators.
* `Text.splitFirst` — the pieces before and behind the first separator.
* `Text.splitLast` — the pieces before and behind the last separator.
* `Text.behind?` — what follows a given beginning.
-/

namespace PgConverge.Text

/-- The pieces of a text between the characters that separate; there is one more than separators. -/
def splitWhere (separates : Char → Bool) : List Char → List (List Char)
  | [] => [[]]
  | c :: rest =>
    match separates c, splitWhere separates rest with
    | true, pieces => [] :: pieces
    | false, [] => [[c]]
    | false, piece :: pieces => (c :: piece) :: pieces

/-- The text before the first separator, and the text behind it if there is one. -/
def splitFirst (separates : Char → Bool) : List Char → List Char × Option (List Char)
  | [] => ([], none)
  | c :: rest =>
    if separates c then ([], some rest)
    else
      let (before, behind) := splitFirst separates rest
      (c :: before, behind)

/-- The text before the last separator if there is one, and the text behind it. -/
def splitLast (separates : Char → Bool) : List Char → Option (List Char) × List Char
  | [] => (none, [])
  | c :: rest =>
    match splitLast separates rest with
    | (some before, behind) => (some (c :: before), behind)
    | (none, behind) => if separates c then (some [], behind) else (none, c :: behind)

/-- The text before the first character that ends it, and the rest from that character on. -/
def splitBefore (ends : Char → Bool) (s : List Char) : List Char × List Char :=
  (s.takeWhile (!ends ·), s.dropWhile (!ends ·))

/-- What follows the given beginning, if the text starts with it. -/
def behind? : (beginning : List Char) → List Char → Option (List Char)
  | [], s => some s
  | c :: beginning, d :: s => if c == d then behind? beginning s else none
  | _ :: _, [] => none

end PgConverge.Text
