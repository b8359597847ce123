import PgConverge.Connection.Config
import PgConverge.Json.Record
import PgConverge.Validation
import PgConverge.Version

/-!
# Provider configuration

What an operator writes down about a cluster: where it is, who connects, and optionally which
version to assume.

## Main definitions

* `ProviderConfig`, `ProviderConfig.parse` — the configuration, and reading it from JSON text.
* `ProviderConfig.databaseUsername`, `ProviderConfig.expectedServerVersion` — who connects, and the
  version to assume.
* `ProviderConfig.connectionConfig` — the settings of the connection, if the configuration is valid.
-/

namespace PgConverge

/-- A provider configuration. -/
structure ProviderConfig where
  url : String
  /-- The login of the connecting role; the server is asked for the role if there is none. -/
  username : Option String
  /-- The version to assume; the server is asked for it if there is none. -/
  expectedVersion : Option String
  applicationName : String
  /-- How long to wait for a session to open, in milliseconds. -/
  connectTimeout : UInt64
deriving DecidableEq, Repr

namespace ProviderConfig

/-- A configuration with nothing chosen but the URL. -/
def ofUrl (url : String) : ProviderConfig where
  url := url
  username := none
  expectedVersion := none
  applicationName := ConnectionConfig.defaultApplicationName
  connectTimeout := ConnectionConfig.defaultConnectTimeout

/-! ## JSON -/

open Json in
/-- The members of a configuration. Only the URL has to be given. -/
abbrev fields : List Field :=
  [.required "url" .text,
    .withDefault "username" .optionalText none,
    .withDefault "expectedVersion" .optionalText none,
    .withDefault "applicationName" .text ConnectionConfig.defaultApplicationName,
    .withDefault "connectTimeoutMs" .uint64 ConnectionConfig.defaultConnectTimeout]

/-- The configuration with the values of a record. -/
def ofRecord : Json.Record fields → ProviderConfig
  | (url, username, expectedVersion, applicationName, connectTimeout, ()) =>
    { url, username, expectedVersion, applicationName, connectTimeout }

/-- The record of a configuration. -/
def toRecord (config : ProviderConfig) : Json.Record fields :=
  (config.url, config.username, config.expectedVersion, config.applicationName,
    config.connectTimeout, ())

/-- Reads a configuration from JSON text. -/
def parse (s : String) : Except Json.Defect ProviderConfig :=
  (Json.Record.parse fields s).map ofRecord

@[simp] theorem ofRecord_toRecord (config : ProviderConfig) : ofRecord config.toRecord = config :=
  rfl

/-! ## What it says -/

/-- The printed form of a configuration, without the password in the URL. -/
def summary (config : ProviderConfig) : String :=
  Text.summary "ProviderConfig"
    [("url", Text.quoted (redactUrl config.url)),
      ("username", Text.optional (config.username.map Text.quoted)),
      ("expected_version", Text.optional (config.expectedVersion.map Text.quoted)),
      ("application_name", Text.quoted config.applicationName),
      ("connect_timeout_ms", toString config.connectTimeout)]

/-- The role of a login: logins of hosted servers have the name of the server behind an at sign. An
empty role is none. -/
def databaseUsername (config : ProviderConfig) : Option String :=
  (config.username.map fun login =>
    String.ofList (Text.splitFirst (· == '@') login.toList).1).filter fun role => !role.isEmpty

/-- The version to assume, if one is given that is not blank. -/
def expectedServerVersion (config : ProviderConfig) : Except Error (Option ServerVersion) :=
  match config.expectedVersion with
  | none => .ok none
  | some version =>
    if version.toList.all Text.isBlank then .ok none else (ServerVersion.parse version).map some

/-! ## Checking -/

/-- The most characters that the server keeps of an application name. -/
def maxApplicationName : Nat := 63

/-- What is wrong with an application name: it is empty or too long. -/
def applicationNameErrors (name : String) : List FieldError :=
  if name.isEmpty || maxApplicationName < name.length then [⟨"application_name", "length", none⟩]
  else []

/-- What is wrong with a time to wait: it is zero. -/
def connectTimeoutErrors (timeout : UInt64) : List FieldError :=
  if timeout == 0 then [⟨"connect_timeout_ms", "range", none⟩] else []

/-- What is wrong with a URL: it is none. -/
def urlErrors (url : String) : List FieldError :=
  if (Url.parse? url).isSome then []
  else [⟨"url", "url", some "url must be a valid connection URL"⟩]

/-- Everything that is wrong with a configuration, in the order of the field names. -/
def fieldErrors (config : ProviderConfig) : List FieldError :=
  applicationNameErrors config.applicationName ++ connectTimeoutErrors config.connectTimeout ++
    urlErrors config.url

/-- Succeeds if a configuration is valid. -/
def check (config : ProviderConfig) : Except Error Unit := FieldError.check config.fieldErrors

/-- The settings of the connection that a valid configuration asks for. -/
def connectionConfig (config : ProviderConfig) : Except Error ConnectionConfig := do
  config.check
  return ⟨config.url, config.connectTimeout, some config.applicationName, []⟩

end ProviderConfig

end PgConverge
