import PgConverge.Url.Host
import PgConverge.Url.Path

/-!
# URLs

A URL is read into its parts, each in its written form. The special schemes have hosts that are
domain names, default ports and a second kind of slash.

## Main definitions

* `Url`, `Url.Authority` — the parts of a URL.
* `Url.parse?` — reads a URL from a text.
* `Url.text` — writes a URL.
* `Url.redacted` — a URL without its password.
* `redactUrl` — the text of a URL that may be shown.
-/

namespace PgConverge

namespace Url

/-- Who is to be asked: credentials, a host and a port, each in written form. -/
structure Authority where
  username : List Char
  /-- A password that is not empty. -/
  password : Option (List Char)
  host : List Char
  /-- A port other than the default one of the scheme. -/
  port : Option Nat
deriving DecidableEq, Repr

/-- The kinds of schemes. -/
inductive SchemeKind where
  | file
  | special
  | other
deriving DecidableEq, Repr

end Url

/-- A URL by its parts, each in written form. -/
structure Url where
  scheme : List Char
  authority : Option Url.Authority
  path : List Char
  query : Option (List Char)
  fragment : Option (List Char)
deriving DecidableEq, Repr

namespace Url

/-- The kind of a scheme. -/
def SchemeKind.of (scheme : List Char) : SchemeKind :=
  let name := String.ofList scheme
  if name == "file" then file
  else if name == "http" || name == "https" || name == "ws" || name == "wss" || name == "ftp" then
    special
  else other

/-- The port that a scheme stands for. -/
def defaultPort? (scheme : List Char) : Option Nat :=
  let name := String.ofList scheme
  if name == "http" || name == "ws" then some 80
  else if name == "https" || name == "wss" then some 443
  else if name == "ftp" then some 21
  else none

namespace SchemeKind

/-- Only a slash separates segments, and under special schemes and for files a backslash too. -/
def isSlash (kind : SchemeKind) (c : Char) : Bool := c == '/' || (kind != other && c == '\\')

/-- The characters that end the authority. -/
def endsAuthority (kind : SchemeKind) (c : Char) : Bool :=
  kind.isSlash c || c == '?' || c == '#'

end SchemeKind

/-! ## Reading -/

/-- The characters that may stand in a scheme behind its first letter. -/
def isSchemeChar (c : Char) : Bool := c.isAlphanum || c == '+' || c == '-' || c == '.'

/-- Reads a scheme in lowercase, up to its colon. -/
def takeScheme? (s : List Char) : Option (List Char × List Char) :=
  match Text.splitBefore (fun c => !isSchemeChar c) s with
  | (letter :: more, ':' :: rest) =>
    if letter.isAlpha then some ((letter :: more).map Char.toLower, rest) else none
  | _ => none

/-- A user name and a password, encoded; an empty password is none. -/
def credentials (s : List Char) : List Char × Option (List Char) :=
  match Text.splitFirst (· == ':') s with
  | (username, some password@(_ :: _)) =>
    (percentEncode inUserinfo username, some (percentEncode inUserinfo password))
  | (username, _) => (percentEncode inUserinfo username, none)

/-- Splits a host from the port behind it; a colon between brackets belongs to the host. -/
def takeHost (inBrackets : Bool) : List Char → List Char × List Char
  | [] => ([], [])
  | c :: rest =>
    if c == ':' && !inBrackets then ([], c :: rest)
    else
      let inBrackets := if c == '[' then true else if c == ']' then false else inBrackets
      let (host, rest) := takeHost inBrackets rest
      (c :: host, rest)

/-- Digits at the front of a text as a port, if there are any. -/
def portOf? (s : List Char) : Option (Option Nat) :=
  if s.isEmpty then some none
  else (Text.natural? s).filter (· < UInt16.size) |>.map some

/-- Reads the port behind a host up to the path, and drops the default one. A backslash ends a port
under every scheme. -/
def takePort? (scheme : List Char) : List Char → Option (Option Nat × List Char)
  | ':' :: s =>
    let (digits, rest) := Text.splitBefore (fun c => c == '\\') s
    (portOf? digits).map fun port => (if port == defaultPort? scheme then none else port, rest)
  | rest => some (none, rest)

/-- Reads the host of a URL with an authority. -/
def hostOf? : SchemeKind → List Char → Option (List Char)
  | .other, s => otherHost? s
  | _, s => specialHost? s

/-- Reads an authority, and tells by `isLast` that nothing follows it. Behind the port may be a
backslash, which is given with what follows it. Credentials and ports need a host, and so does a
lone at sign in front of a path; special schemes have to have one. -/
def takeAuthority? (scheme : List Char) (kind : SchemeKind) (isLast : Bool) (s : List Char) :
    Option (Authority × List Char) := do
  let (userinfo, s) := Text.splitLast (· == '@') s
  let (username, password) := credentials (userinfo.getD [])
  let (host, s) := takeHost false s
  if userinfo == some [] && host.isEmpty && s.isEmpty && !isLast then none
  if host.isEmpty && (kind == .special || !s.isEmpty || !username.isEmpty || password.isSome) then
    none
  let host ← hostOf? kind host
  let (port, s) ← takePort? scheme s
  return (⟨username, password, host, port⟩, s)

/-- Splits off the query and the fragment, encoded. -/
def takeQuery (kind : SchemeKind) (s : List Char) :
    List Char × Option (List Char) × Option (List Char) :=
  let (s, fragment) := Text.splitFirst (· == '#') s
  let (s, query) := Text.splitFirst (· == '?') s
  let set := if kind == .other then inQuery else inSpecialQuery
  (s, query.map (percentEncode set), fragment.map (percentEncode inFragment))

/-- The path behind an authority. Special schemes always have one. -/
def pathBehindAuthority (kind : SchemeKind) : List Char → List Char
  | [] => if kind == .other then [] else ['/']
  | c :: rest => hierarchicalPath kind.isSlash (if kind.isSlash c then rest else c :: rest)

/-- The path of a URL without authority. A slash and a point in front keep an empty first segment
from looking like an authority. -/
def pathAlone : List Char → List Char
  | '/' :: rest =>
    match hierarchicalPath (· == '/') rest with
    | '/' :: '/' :: more => ['/', '.', '/', '/'] ++ more
    | path => path
  | s => plainPath s

/-- Reads what follows two slashes. -/
def parseAuthority? (scheme : List Char) (kind : SchemeKind) (s : List Char) : Option Url := do
  let (front, rest) := Text.splitBefore kind.endsAuthority s
  let (authority, more) ← takeAuthority? scheme kind rest.isEmpty front
  let (path, query, fragment) := takeQuery kind (more ++ rest)
  return ⟨scheme, some authority, pathBehindAuthority kind path, query, fragment⟩

/-- Reads the host of a file; a drive letter is none, and the local host is not written. -/
def fileHost? (s : List Char) : Option (List Char) :=
  if s.isEmpty then some []
  else (specialHost? s).map fun host => if host == "localhost".toList then [] else host

/-- The URL of a file on a host; a path that starts with a drive letter leaves no host. -/
def ofFile (host s : List Char) : Url :=
  let (s, behind) := Text.splitBefore (fun c => c == '?' || c == '#') s
  let (_, query, fragment) := takeQuery .file (behind.filter (!isIgnored ·))
  let (path, hasDrive) := filePath SchemeKind.file.isSlash s
  ⟨"file".toList, some ⟨[], none, if hasDrive then [] else host, none⟩, path, query, fragment⟩

/-- What follows a slash at the front of what follows a file's scheme. -/
def behindSlash? (s : List Char) : Option (List Char) :=
  match s.dropWhile isIgnored with
  | c :: rest => if SchemeKind.file.isSlash c then some rest else none
  | [] => none

/-- Reads what follows the scheme of a file. The characters that are ignored elsewhere count, since
they may part a drive letter from the rest. The slash behind a host belongs to it; without a host it
makes an empty segment, and a drive letter behind it is not at the root. -/
def parseFile? (s : List Char) : Option Url :=
  match behindSlash? s with
  | none => some (ofFile [] s)
  | some one =>
    match behindSlash? one with
    | none => some (ofFile [] one)
    | some two => do
      let (host, path) := Text.splitBefore SchemeKind.file.endsAuthority two
      let host := host.filter (!isIgnored ·)
      if isDriveLetter host then return ofFile [] two
      let host ← fileHost? host
      return ofFile host (if host.isEmpty then path else (behindSlash? path).getD path)

/-- Whether a text starts with two slashes; gives what follows them. -/
def behindTwoSlashes? : List Char → Option (List Char)
  | '/' :: '/' :: rest => some rest
  | _ => none

/-- Reads what follows a scheme that is not that of files. -/
def parseBehindScheme? (scheme s : List Char) : Option Url :=
  match SchemeKind.of scheme with
  | .special => parseAuthority? scheme .special (s.dropWhile SchemeKind.special.isSlash)
  | _ =>
    match behindTwoSlashes? s with
    | some rest => parseAuthority? scheme .other rest
    | none =>
      let (path, query, fragment) := takeQuery .other s
      some ⟨scheme, none, pathAlone path, query, fragment⟩

/-- Controls and spaces, which are dropped at both ends of a URL. -/
def isOuter (c : Char) : Bool := c.toNat ≤ 0x20

/-- A text without controls and spaces at its ends. -/
def trimmed (s : List Char) : List Char :=
  ((s.dropWhile isOuter).reverse.dropWhile isOuter).reverse

/-- Reads a URL, which has to start with a scheme. -/
def parse? (s : String) : Option Url := do
  let s := trimmed s.toList
  let (scheme, rest) ← takeScheme? (s.filter (!isIgnored ·))
  if SchemeKind.of scheme == .file then parseFile? ((Text.splitFirst (· == ':') s).2.getD [])
  else parseBehindScheme? scheme rest

/-! ## Writing -/

/-- Credentials in front of a host. -/
def Authority.userinfo (a : Authority) : List Char :=
  if a.username.isEmpty && a.password.isNone then []
  else a.username ++ (a.password.elim [] fun password => ':' :: password) ++ ['@']

/-- An authority with the slashes in front of it. -/
def Authority.text (a : Authority) : List Char :=
  ['/', '/'] ++ a.userinfo ++ a.host ++ a.port.elim [] fun port => ':' :: Nat.toDigits 10 port

/-- The text of a URL. -/
def text (u : Url) : String :=
  String.ofList <| u.scheme ++ [':'] ++ u.authority.elim [] Authority.text ++ u.path ++
    u.query.elim [] (fun query => '?' :: query) ++
    u.fragment.elim [] fun fragment => '#' :: fragment

/-! ## Hiding the password -/

/-- What stands for a password that is hidden. -/
def mask : List Char := ['*', '*', '*']

/-- An authority with its password hidden. -/
def Authority.redacted (a : Authority) : Authority :=
  { a with password := a.password.map fun _ => mask }

/-- A URL with its password hidden. -/
def redacted (u : Url) : Url := { u with authority := u.authority.map Authority.redacted }

end Url

/-- The text of a URL without its password; nothing is shown of a text that is no URL. -/
def redactUrl (s : String) : String :=
  match Url.parse? s with
  | some u => u.redacted.text
  | none => String.ofList Url.mask

end PgConverge
