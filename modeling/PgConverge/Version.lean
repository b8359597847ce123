import PgConverge.Error
import PgConverge.Text.Blank
import PgConverge.Text.Numeral
import PgConverge.Text.Summary

/-!
# Server versions and their features

A server version is three numbers, compared from the left. It is read from a text such as `9.6.5`,
`13` or `14beta1`, or decoded from the number that a server reports for itself.

## Main definitions

* `ServerVersion`, `ServerVersion.parse`, `ServerVersion.ofNumber` — a version and its two sources.
* `Feature`, `ServerVersion.supports`, `ServerVersion.require` — what a server of a version can do.
* `ServerVersion.pidColumn` — the name of the process column in the server's list of sessions.
-/

namespace PgConverge

/-- A server version; from version 10 on the third number is 0. -/
structure ServerVersion where
  major : UInt32
  minor : UInt32
  patch : UInt32
deriving DecidableEq, Repr

namespace ServerVersion

/-- Versions are ordered by the first number in which they differ. -/
instance : Ord ServerVersion where
  compare v w :=
    (compare v.major w.major).then ((compare v.minor w.minor).then (compare v.patch w.patch))

/-- The three numbers with points between them. -/
def text (v : ServerVersion) : String :=
  toString v.major ++ "." ++ toString v.minor ++ "." ++ toString v.patch

/-- The printed form of a version with its fields. -/
def summary (v : ServerVersion) : String :=
  Text.summary "ServerVersion"
    [("major", toString v.major), ("minor", toString v.minor), ("patch", toString v.patch)]

/-- Decodes the number that a server reports for its version. It has two digits for each of the
second and third numbers below 100000, and from there on four digits for the second number. -/
def ofNumber (n : UInt32) : ServerVersion :=
  if 100000 ≤ n then ⟨n / 10000, n % 10000, 0⟩
  else ⟨n / 10000, n / 100 % 100, n % 100⟩

/-- The numbers that begin a text: up to `count` runs of digits with points between them, ending
where a run is empty or something else follows it. No result if a run exceeds 32 bits. -/
def components : (count : Nat) → List Char → Option (List UInt32)
  | 0, _ => some []
  | count + 1, s =>
    let digits := s.takeWhile Char.isDigit
    if digits.isEmpty then some []
    else do
      let n := Text.ofDigits digits
      guard (n < UInt32.size)
      match s.dropWhile Char.isDigit with
      | '.' :: rest => return n.toUInt32 :: (← components count rest)
      | _ => return [n.toUInt32]

/-- The version whose leading numbers are given; at least one is needed. -/
def ofComponents : List UInt32 → Option ServerVersion
  | [] => none
  | [major] => some ⟨major, 0, 0⟩
  | [major, minor] => some ⟨major, minor, 0⟩
  | major :: minor :: patch :: _ => some ⟨major, minor, patch⟩

/-- Reads a version from the numbers that begin a text after blanks; what follows them does not
count. -/
def parse (s : String) : Except Error ServerVersion :=
  match (components 3 (Text.trim s.toList)).bind ofComponents with
  | some v => .ok v
  | none => .error (.configuration ("invalid server version " ++ Text.quoted s))

end ServerVersion

/-- Abilities that only some servers have. -/
inductive Feature where
  | allowConnections
  | isTemplate
  /-- Dropping a database while sessions are connected to it. -/
  | forcedDrop
  /-- The process column of the list of sessions has its newer name. -/
  | pidColumn
deriving DecidableEq, Repr

namespace Feature

/-- Every feature, each once. -/
def all : List Feature := [.allowConnections, .isTemplate, .forcedDrop, .pidColumn]

/-- The name of a feature in messages. -/
def name : Feature → String
  | allowConnections => "database ALLOW_CONNECTIONS"
  | isTemplate => "database IS_TEMPLATE"
  | forcedDrop => "DROP DATABASE WITH (FORCE)"
  | pidColumn => "pg_stat_activity.pid"

/-- The first version with the feature. -/
def since : Feature → ServerVersion
  | allowConnections | isTemplate => ⟨9, 5, 0⟩
  | forcedDrop => ⟨13, 0, 0⟩
  | pidColumn => ⟨9, 2, 0⟩

end Feature

/-- The process column of the list of sessions. -/
inductive PidColumn where
  | pid
  | procpid
deriving DecidableEq, Repr

/-- The name of the column. -/
def PidColumn.name : PidColumn → String
  | pid => "pid"
  | procpid => "procpid"

namespace ServerVersion

/-- Whether a server of this version has the feature. -/
def supports (v : ServerVersion) (feature : Feature) : Bool :=
  (compare v feature.since).isGE

/-- Fails unless a server of this version has the feature. -/
def require (v : ServerVersion) (feature : Feature) : Except Error Unit :=
  if v.supports feature then .ok () else .error (.unsupportedFeature feature.name v.text)

/-- The process column on a server of this version. -/
def pidColumn (v : ServerVersion) : PidColumn :=
  if v.supports .pidColumn then .pid else .procpid

end ServerVersion

end PgConverge
