import PgConverge.Client.Settings
import PgConverge.Connection.Config
import PgConverge.Error
import PgConverge.Text.Blank

/-!
# Connection strings

A connection string is a URL under the scheme `postgres` or `postgresql`, or a list of keywords with
values. These URLs follow rules of their own, which are laxer than those for URLs in general.

## Main definitions

* `Client.Settings.ofPairs?` — reads a list of keywords with values.
* `Client.Settings.ofUrl?` — reads what follows the scheme of a URL.
* `Client.Settings.parse?` — reads a connection string.
* `Client.optionsText` — the text in which properties of a session are sent.
* `Client.Settings.ofConfig` — the settings that a connection asks for.
-/

namespace PgConverge.Client

/-! ## Keywords with values -/

/-- Reads a value up to a character that ends it. A backslash stands for the character behind it. -/
def takeValue (ends : Char → Bool) : List Char → List Char × List Char
  | [] => ([], [])
  | ['\\'] => ([], [])
  | '\\' :: c :: rest =>
    let (value, rest) := takeValue ends rest
    (c :: value, rest)
  | c :: rest =>
    if ends c then ([], c :: rest)
    else
      let (value, rest) := takeValue ends rest
      (c :: value, rest)

/-- Reads a value: between single quotes, or at least one character up to a blank. -/
def takeValue? : List Char → Option (List Char × List Char)
  | '\'' :: s =>
    match takeValue (· == '\'') s with
    | (value, _ :: rest) => some (value, rest)
    | (_, []) => none
  | s =>
    match takeValue Text.isBlank s with
    | ([], _) => none
    | r => some r

/-- Reads the value behind a keyword, with an equals sign in front of it. -/
def takeAssigned? (s : List Char) : Option (List Char × List Char) :=
  match s.dropWhile Text.isBlank with
  | '=' :: rest => takeValue? (rest.dropWhile Text.isBlank)
  | _ => none

/-- Reads at most `count` keywords with their values. The list ends where no keyword follows, and
what is left of the text does not count. -/
def pairsWithin? : (count : Nat) → List Char → Option (List (String × String))
  | 0, _ => some []
  | count + 1, s =>
    match Text.splitBefore (fun c => Text.isBlank c || c == '=') (s.dropWhile Text.isBlank) with
    | ([], _) => some []
    | (keyword, rest) => do
      let (value, rest) ← takeAssigned? rest
      let pairs ← pairsWithin? count rest
      return (String.ofList keyword, String.ofList value) :: pairs

namespace Settings

/-- Reads a list of keywords with values; blanks may stand around each. -/
def ofPairs? (s : List Char) : Option Settings := do
  (← pairsWithin? s.length s).foldlM (fun settings pair => settings.set? pair.1 pair.2) initial

/-! ## URLs -/

/-- The text that a part of a URL stands for. -/
def decode? (s : List Char) : Option String := (Url.percentDecodeText? s).map String.ofList

/-- Reads the user and the password, which is any bytes. -/
def withCredentials? (settings : Settings) (s : List Char) : Option Settings :=
  let (user, password) := Text.splitFirst (· == ':') s
  (decode? user).map fun user =>
    { settings with
      user := some user
      password := (password.map Url.percentDecode) <|> settings.password }

/-- Reads a host: a directory if it starts with a slash once it is decoded, else a name. -/
def withHost? (settings : Settings) (s : List Char) : Option Settings :=
  let bytes := Url.percentDecode s
  if bytes.head? == some '/'.toUInt8 then some (settings.addHost (.directory bytes))
  else (decode? s).map fun name => settings.addHost (.name name)

/-- Splits a host from its port. A host in brackets may hold colons. -/
def splitPort? : List Char → Option (List Char × Option (List Char))
  | '[' :: s =>
    match Text.splitFirst (· == ']') s with
    | (host, some []) => some (host, none)
    | (host, some (':' :: port)) => some (host, some port)
    | _ => none
  | s => some (Text.splitFirst (· == ':') s)

/-- Reads a host with its port. -/
def withHostPort? (settings : Settings) (s : List Char) : Option Settings := do
  let (host, port) ← splitPort? s
  let settings ← settings.withHost? host
  match port with
  | none => return { settings with ports := settings.ports ++ [defaultPort] }
  | some port => settings.set? "port" (← decode? port)

/-- Reads hosts with their ports; there may be none. -/
def withHosts? (settings : Settings) (s : List Char) : Option Settings :=
  if s.isEmpty then some settings else (Text.splitWhere (· == ',') s).foldlM withHostPort? settings

/-- Reads the path, which names the database. -/
def withPath? (settings : Settings) : List Char → Option Settings
  | '/' :: name@(_ :: _) => (decode? name).map fun name => { settings with database := some name }
  | _ => some settings

/-- Reads a setting of the query. -/
def withParameter? (settings : Settings) (keyword value : List Char) : Option Settings := do
  let keyword ← decode? keyword
  if keyword == "host" then settings.withHost? value else settings.set? keyword (← decode? value)

/-- Reads at most `count` settings of the query. A keyword ends at an equals sign, which has to be
there, and a value at an ampersand. -/
def withQueryWithin? : (count : Nat) → Settings → List Char → Option Settings
  | _, settings, [] => some settings
  | 0, settings, _ => some settings
  | count + 1, settings, s =>
    match Text.splitFirst (· == '=') s with
    | (keyword, some rest) => do
      let (value, rest) := Text.splitFirst (· == '&') rest
      withQueryWithin? count (← settings.withParameter? keyword value) (rest.getD [])
    | (_, none) => none

/-- Reads what follows the scheme of a URL. Whatever stands before the first at sign are the
credentials. -/
def ofUrl? (s : List Char) : Option Settings := do
  let (settings, s) ←
    match Text.splitFirst (· == '@') s with
    | (credentials, some rest) => do pure (← initial.withCredentials? credentials, rest)
    | (_, none) => pure (initial, s)
  let (hosts, s) := Text.splitBefore (fun c => c == '/' || c == '?') s
  let settings ← settings.withHosts? hosts
  let (path, query) := Text.splitFirst (· == '?') s
  let settings ← settings.withPath? path
  withQueryWithin? s.length settings (query.getD [])

/-- What follows the scheme and the slashes of a URL for a server. -/
def behindScheme? (s : List Char) : Option (List Char) :=
  Text.behind? "postgres://".toList s <|> Text.behind? "postgresql://".toList s

/-- Reads a connection string. -/
def parse? (s : String) : Option Settings :=
  match behindScheme? s.toList with
  | some rest => ofUrl? rest
  | none => ofPairs? s.toList

end Settings

/-! ## Connection settings -/

/-- A property of a session as an option of the server. -/
def optionText (property : String × String) : String :=
  "-c " ++ property.1 ++ "=" ++ property.2

/-- Properties of a session as options of the server, in the order of their texts. -/
def optionsText (properties : List (String × String)) : String :=
  String.intercalate " " ((properties.map optionText).mergeSort fun a b => !(b < a))

namespace Settings

/-- The settings of a connection: those of its connection string, and over them the time to wait,
the application name and the properties. -/
def ofConfig (config : ConnectionConfig) : Except Error Settings :=
  match parse? config.url with
  | none => .error (.configuration "invalid connection URL: invalid connection string")
  | some settings => .ok
    { settings with
      connectTimeout := some config.connectTimeout.toNat
      applicationName := config.applicationName <|> settings.applicationName
      options :=
        if config.properties.isEmpty then settings.options
        else some (optionsText config.properties) }

end Settings

end PgConverge.Client
