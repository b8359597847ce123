import PgConverge.Text.Split
import PgConverge.Url.Percent

/-!
# Paths in URLs

A path that starts with a slash is a list of segments. Writing it removes the segments `.` and `..`;
the latter takes the segment before it along, unless that is a drive letter or a path behind one. A
drive letter at the root of a file takes the place of a host.

## Main definitions

* `Url.hierarchicalPath` — the path of a URL with a list of segments.
* `Url.filePath` — the same for a file, with the rules for drive letters.
* `Url.plainPath` — a path that is no list of segments.
-/

namespace PgConverge.Url

/-- Tabs and line ends, which are dropped everywhere in a URL. -/
def isIgnored (c : Char) : Bool := c == '\t' || c == '\n' || c == '\r'

/-- What a segment means for the one before it. -/
inductive Step where
  | stay
  | up
  | into (segment : List Char)
deriving DecidableEq, Repr

/-- A text with every encoded point written plainly. -/
def plainPoints : List Char → List Char
  | '%' :: '2' :: 'e' :: rest => '.' :: plainPoints rest
  | '%' :: '2' :: 'E' :: rest => '.' :: plainPoints rest
  | c :: rest => c :: plainPoints rest
  | [] => []

/-- One point stays, two points go up, everything else goes into a segment. -/
def Step.of (segment : List Char) : Step :=
  match plainPoints segment with
  | ['.'] => stay
  | ['.', '.'] => up
  | _ => into segment

/-- A letter with a colon or a bar behind it. -/
def isDriveLetter : List Char → Bool
  | [letter, mark] => letter.isAlpha && (mark == ':' || mark == '|')
  | _ => false

/-- Whether a segment is a drive letter, or one with a backslash behind it. -/
def startsWithDrive (segment : List Char) : Bool :=
  isDriveLetter (segment.take 2) && (segment.drop 2).head?.all (· == '\\')

/-- Leaves the last of the segments gone through, which are in reverse order; a drive is not
left. -/
def goUp : List (List Char) → List (List Char)
  | [] => []
  | last :: gone => if startsWithDrive last then last :: gone else gone

/-- Goes through segments and gives those of the path in reverse order; a path that ends in points
ends in an empty segment. -/
def walk (gone : List (List Char)) : List (List Char) → List (List Char)
  | [] => gone
  | segment :: rest =>
    match Step.of segment with
    | .stay => if rest.isEmpty then [] :: gone else walk gone rest
    | .up => if rest.isEmpty then [] :: goUp gone else walk (goUp gone) rest
    | .into segment => walk (segment :: gone) rest

/-- Segments with slashes in front of them. -/
def joinSegments (segments : List (List Char)) : List Char := segments.flatMap ('/' :: ·)

/-- The encoded segments of a path behind its first slash. -/
def segments (isSlash : Char → Bool) (s : List Char) : List (List Char) :=
  (Text.splitWhere isSlash s).map (percentEncode inPath)

/-- The written form of a path, given behind its first slash. -/
def hierarchicalPath (isSlash : Char → Bool) (s : List Char) : List Char :=
  joinSegments (walk [] (segments isSlash s)).reverse

/-- The written form of a path that is no list of segments. -/
def plainPath (s : List Char) : List Char := percentEncode inPlain s

/-- A drive letter with a colon. -/
def driveLetter? : List Char → Option (List Char)
  | segment@(letter :: _) => if isDriveLetter segment then some [letter, ':'] else none
  | [] => none

/-- The encoded segment for a piece of a path between slashes. -/
def segmentOf (piece : List Char) : List Char :=
  percentEncode inPath (piece.filter (!isIgnored ·))

/-- A drive letter and what follows it in the same piece, if an ignored character parts them. -/
def partedDrive? (piece : List Char) : Option (List Char × List Char) :=
  match piece.dropWhile isIgnored with
  | letter :: more =>
    match more.dropWhile isIgnored with
    | ':' :: gap :: more =>
      if letter.isAlpha && isIgnored gap && more.any (!isIgnored ·) then some ([letter, ':'], more)
      else none
    | _ => none
  | [] => none

/-- Goes through the pieces of a file's path; also tells whether a drive letter was found at the
root. A drive letter at the root that is parted from what follows it is a segment, and so is what
follows it, whatever it means. -/
def walkFile (hasDrive : Bool) (gone : List (List Char)) :
    List (List Char) → List (List Char) × Bool
  | [] => (gone, hasDrive)
  | piece :: rest =>
    let segment := segmentOf piece
    match gone, partedDrive? piece, Step.of segment, driveLetter? segment with
    | [], some (drive, more), _, _ => walkFile hasDrive [segmentOf more, drive] rest
    | _, _, .stay, _ =>
      if rest.isEmpty then ([] :: gone, hasDrive) else walkFile hasDrive gone rest
    | _, _, .up, _ =>
      if rest.isEmpty then ([] :: goUp gone, hasDrive) else walkFile hasDrive (goUp gone) rest
    | [], _, .into _, some drive => walkFile true [drive] rest
    | _, _, .into segment, _ => walkFile hasDrive (segment :: gone) rest

/-- The written form of a file's path, given behind its first slash and with the ignored characters,
without empty segments in front; also whether it starts with a drive letter, which leaves no room
for a host. -/
def filePath (isSlash : Char → Bool) (s : List Char) : List Char × Bool :=
  let (gone, hasDrive) := walkFile false [] (Text.splitWhere isSlash s)
  match gone.reverse.dropWhile List.isEmpty with
  | [] => (['/'], hasDrive)
  | segments => (joinSegments segments, hasDrive)

end PgConverge.Url
