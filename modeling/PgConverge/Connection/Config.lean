import PgConverge.Text.Summary
import PgConverge.Url.Basic

/-!
# How to reach a cluster

Where the cluster is, how long to wait for it, and what to tell it about the client.

## Main definitions

* `ConnectionConfig` — the settings of a connection.
* `ConnectionConfig.withProperty` — sets a property of the session.
* `ConnectionConfig.summary` — the printed form, which does not show the password.
-/

namespace PgConverge

/-- The settings of a connection. -/
structure ConnectionConfig where
  /-- A URL or another connection string of a maintenance database. -/
  url : String
  /-- How long to wait for a session to open, in milliseconds. -/
  connectTimeout : UInt64
  applicationName : Option String
  /-- Settings of the session, each key once, in the order of the keys. -/
  properties : List (String × String)
deriving DecidableEq, Repr

namespace ConnectionConfig

/-- The application name that is reported where none is chosen. -/
def defaultApplicationName : String := "rivven-provision"

/-- How long to wait for a session where nothing is chosen, in milliseconds. -/
def defaultConnectTimeout : UInt64 := 10000

/-- The settings with nothing chosen but the URL. -/
def ofUrl (url : String) : ConnectionConfig :=
  ⟨url, defaultConnectTimeout, some defaultApplicationName, []⟩

/-- Puts a value for a key in its place in the order of the keys; it replaces the one before. -/
def put (key value : String) : List (String × String) → List (String × String)
  | [] => [(key, value)]
  | entry :: entries =>
    if key < entry.1 then (key, value) :: entry :: entries
    else if key = entry.1 then (key, value) :: entries
    else entry :: put key value entries

/-- Sets a property of the session. -/
def withProperty (config : ConnectionConfig) (key value : String) : ConnectionConfig :=
  { config with properties := put key value config.properties }

/-- The printed form of the settings, without the password in the URL. -/
def summary (config : ConnectionConfig) : String :=
  Text.summary "ConnectionConfig"
    [("url", Text.quoted (redactUrl config.url)),
      ("connect_timeout_ms", toString config.connectTimeout),
      ("application_name", Text.optional (config.applicationName.map Text.quoted)),
      ("properties", Text.dictionary config.properties)]

end ConnectionConfig

end PgConverge
