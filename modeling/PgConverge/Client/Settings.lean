import PgConverge.Net.Address
import PgConverge.Text.Numeral
import PgConverge.Text.Split
import PgConverge.Url.Percent

/-!
# Settings of a client

What a client of the server can be told: who connects, to which hosts, and how. Each setting is
given by a keyword and a text.

## Main definitions

* `Client.Settings` — the settings.
* `Client.Settings.set?` — gives a value to the setting of a keyword.
* `Client.Settings.endpoints?` — the places to try in turn.
-/

namespace PgConverge.Client

/-- Whether the session is encrypted. -/
inductive Encryption where
  | disable
  | prefer
  | require
deriving DecidableEq, Repr

/-- How encryption starts: after a question to the server, or at once. -/
inductive EncryptionStart where
  | negotiated
  | direct
deriving DecidableEq, Repr

/-- Whether authentication is bound to the encrypted channel. -/
inductive ChannelBinding where
  | disable
  | prefer
  | require
deriving DecidableEq, Repr

/-- Which servers a session may be opened on. -/
inductive ServerRole where
  | any
  | readWrite
  | readOnly
deriving DecidableEq, Repr

/-- In which order hosts are tried. -/
inductive HostOrder where
  | listed
  | random
deriving DecidableEq, Repr

/-- Where a server listens: at a name, or at a socket in a directory. -/
inductive Host where
  | name (name : String)
  | directory (path : List UInt8)
deriving DecidableEq, Repr

/-- What a client is told. Times are in milliseconds. -/
structure Settings where
  user : Option String
  password : Option (List UInt8)
  database : Option String
  options : Option String
  applicationName : Option String
  encryption : Encryption
  encryptionStart : EncryptionStart
  hosts : List Host
  addresses : List Net.Address
  ports : List UInt16
  connectTimeout : Option Nat
  /-- How long sent data may stay unacknowledged. -/
  acknowledgementTimeout : Option Nat
  /-- Whether idle sessions are probed. -/
  keepalives : Bool
  keepaliveIdle : Nat
  keepaliveInterval : Option Nat
  keepaliveRetries : Option UInt32
  serverRole : ServerRole
  channelBinding : ChannelBinding
  hostOrder : HostOrder
deriving DecidableEq, Repr

/-- The port that servers listen on by default. -/
def defaultPort : UInt16 := 5432

/-- A number of seconds in milliseconds. -/
def seconds (n : Nat) : Nat := 1000 * n

/-- The meaning of a value among those that a keyword takes. -/
def choice? {α : Type} (meanings : List (String × α)) (value : String) : Option α :=
  meanings.lookup value

/-- Reads a number of seconds; without a positive one there is no limit. -/
def seconds? (value : String) : Option (Option Nat) :=
  (Text.int64? value.toList).map fun n =>
    if 0 < n.toInt then some (seconds n.toInt.toNat) else none

/-- Reads a port; the empty text stands for the default one. -/
def port? (s : List Char) : Option UInt16 :=
  if s.isEmpty then some defaultPort else (Text.below? UInt16.size s).map UInt16.ofNat

/-- The texts between commas. -/
def commaList (value : String) : List (List Char) := Text.splitWhere (· == ',') value.toList

/-- A host as a setting gives it: a text that starts with a slash is a directory. -/
def Host.ofText (s : List Char) : Host :=
  if s.head? == some '/' then directory (Url.utf8 s) else name (String.ofList s)

namespace Settings

/-- The settings with nothing chosen. -/
def initial : Settings where
  user := none
  password := none
  database := none
  options := none
  applicationName := none
  encryption := .prefer
  encryptionStart := .negotiated
  hosts := []
  addresses := []
  ports := []
  connectTimeout := none
  acknowledgementTimeout := none
  keepalives := true
  keepaliveIdle := seconds (2 * 60 * 60)
  keepaliveInterval := none
  keepaliveRetries := none
  serverRole := .any
  channelBinding := .prefer
  hostOrder := .listed

/-- Adds a host behind those given before. -/
def addHost (settings : Settings) (host : Host) : Settings :=
  { settings with hosts := settings.hosts ++ [host] }

/-- Gives a value to the setting of a keyword. Hosts, addresses and ports are added to those given
before; of every other setting the last value counts. -/
def set? (settings : Settings) (keyword value : String) : Option Settings :=
  match keyword with
  | "user" => some { settings with user := some value }
  | "password" => some { settings with password := some (Url.utf8 value.toList) }
  | "dbname" => some { settings with database := some value }
  | "options" => some { settings with options := some value }
  | "application_name" => some { settings with applicationName := some value }
  | "sslmode" =>
    (choice? [("disable", .disable), ("prefer", .prefer), ("require", .require)] value).map
      fun encryption => { settings with encryption }
  | "sslnegotiation" =>
    (choice? [("postgres", .negotiated), ("direct", .direct)] value).map
      fun encryptionStart => { settings with encryptionStart }
  | "host" => some ((commaList value).foldl (fun s host => s.addHost (.ofText host)) settings)
  | "hostaddr" =>
    ((commaList value).mapM Net.Address.parse?).map
      fun addresses => { settings with addresses := settings.addresses ++ addresses }
  | "port" =>
    ((commaList value).mapM port?).map
      fun ports => { settings with ports := settings.ports ++ ports }
  | "connect_timeout" =>
    (seconds? value).map
      fun time => { settings with connectTimeout := time <|> settings.connectTimeout }
  | "tcp_user_timeout" =>
    (seconds? value).map fun time =>
      { settings with acknowledgementTimeout := time <|> settings.acknowledgementTimeout }
  | "keepalives" =>
    (Text.below? UInt64.size value.toList).map fun n => { settings with keepalives := n != 0 }
  | "keepalives_idle" =>
    (seconds? value).map
      fun time => { settings with keepaliveIdle := time.getD settings.keepaliveIdle }
  | "keepalives_interval" =>
    (seconds? value).map
      fun time => { settings with keepaliveInterval := time <|> settings.keepaliveInterval }
  | "keepalives_retries" =>
    (Text.below? UInt32.size value.toList).map
      fun n => { settings with keepaliveRetries := some (UInt32.ofNat n) }
  | "target_session_attrs" =>
    (choice? [("any", .any), ("read-write", .readWrite), ("read-only", .readOnly)] value).map
      fun serverRole => { settings with serverRole }
  | "channel_binding" =>
    (choice? [("disable", .disable), ("prefer", .prefer), ("require", .require)] value).map
      fun channelBinding => { settings with channelBinding }
  | "load_balance_hosts" =>
    (choice? [("disable", .listed), ("random", .random)] value).map
      fun hostOrder => { settings with hostOrder }
  | _ => none

end Settings

/-- A place where a server may be: a host, its address if that is known, or only an address. -/
structure Endpoint where
  host : Option Host
  address : Option Net.Address
  port : UInt16
deriving DecidableEq, Repr

namespace Settings

/-- How many places the settings name: one for each host, or without hosts one for each address. -/
def endpointCount (settings : Settings) : Nat :=
  if settings.hosts.isEmpty then settings.addresses.length else settings.hosts.length

/-- Whether hosts, addresses and ports go together: there is a place, hosts and addresses that are
both given are equally many, and several ports are as many as the places. -/
def isConsistent (settings : Settings) : Bool :=
  settings.endpointCount != 0 &&
    (settings.hosts.isEmpty || settings.addresses.isEmpty ||
      settings.hosts.length == settings.addresses.length) &&
    (settings.ports.length ≤ 1 || settings.ports.length == settings.endpointCount)

/-- The place with a number. A single port is that of every place. -/
def endpoint (settings : Settings) (i : Nat) : Endpoint where
  host := settings.hosts[i]?
  address := settings.addresses[i]?
  port := (settings.ports[i]? <|> settings.ports.head?).getD defaultPort

/-- The places to try in turn, if the settings name them consistently. -/
def endpoints? (settings : Settings) : Option (List Endpoint) :=
  if settings.isConsistent then some ((List.range settings.endpointCount).map settings.endpoint)
  else none

end Settings

end PgConverge.Client
