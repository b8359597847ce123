import PgConverge.Client.Settings
import PgConverge.Value

/-!
# Networks

What a client and a server say to each other. A network is any rule that answers a client's messages
from a state of its own.

## Main definitions

* `Client.Message`, `Client.Message.Reply` — a message to a server, and what a good answer to it
  carries.
* `Client.Refusal` — a bad answer.
* `Client.Network` — a behaviour of the network; `Client.Network.silent` has no server on it.
* `Client.WireValue.value`, `Client.WireType.accepts` — how values are read from and written for a
  server.
-/

namespace PgConverge.Client

/-! ## Values on the wire -/

/-- The types of the values that a server takes and gives. All text types are one. -/
inductive WireType where
  | bool
  | int2
  | int4
  | int8
  | oid
  | text
  | other
deriving DecidableEq, Repr

/-- Whether a value can be written for a parameter of a type. A missing value counts as a text. -/
def WireType.accepts : WireType → Value → Bool
  | bool, .bool _ | int4, .int32 _ | int8, .int64 _ | text, .text _ | text, .null => true
  | _, _ => false

/-- A field of a row that a server sends. -/
inductive WireValue where
  | null
  | bool (b : Bool)
  | int2 (n : Int16)
  | int4 (n : Int32)
  | int8 (n : Int64)
  | oid (n : UInt32)
  | text (s : String)
  /-- A value of any other type. -/
  | other
deriving DecidableEq, Repr

/-- A field as a value; what is of no known type reads as missing. -/
def WireValue.value : WireValue → Value
  | null | other => .null
  | bool b => .bool b
  | int2 n => .int32 n.toInt32
  | int4 n => .int32 n
  | int8 n => .int64 n
  | oid n => .int64 n.toUInt64.toInt64
  | text s => .text s

/-! ## Messages -/

/-- What a client says about itself when it opens a session. -/
structure Startup where
  /-- The role that connects; without one, the user of the client's own system. -/
  user : Option String
  database : Option String
  applicationName : Option String
  options : Option String
deriving DecidableEq, Repr

/-- The number by which the two sides know a session. -/
abbrev Line := Nat

/-- A message from a client. -/
inductive Message where
  | connect (endpoint : Endpoint) (startup : Startup)
  /-- Has a statement with parameters read, but not run. -/
  | prepare (line : Line) (sql : String)
  /-- Runs a statement that was read. -/
  | execute (line : Line) (sql : String) (parameters : List Value)
  /-- Runs a statement without parameters. -/
  | simple (line : Line) (sql : String)
  | close (line : Line)
deriving DecidableEq, Repr

/-- What a server sends when it has run a statement. -/
structure Completion where
  columns : List String
  rows : List (List WireValue)
  /-- What kind of statement it was, often with a number of rows at the end. -/
  tag : String
deriving DecidableEq, Repr

namespace Completion

/-- The number at the end of the tag; without one no row counts as affected. -/
def affected (c : Completion) : UInt64 :=
  UInt64.ofNat ((Text.below? UInt64.size (Text.splitLast (· == ' ') c.tag.toList).2).getD 0)

/-- The first row. -/
def firstRow (c : Completion) : Option Row :=
  c.rows.head?.map fun cells => Row.ofColumns c.columns (cells.map WireValue.value)

end Completion

/-- What a good answer to a message carries. -/
abbrev Message.Reply : Message → Type
  | connect .. => Line
  | prepare .. => List WireType
  | execute .. => Completion
  | simple .. | close _ => Unit

/-- A bad answer. -/
inductive Refusal where
  /-- The server reports an error. -/
  | rejected
  /-- The session is closed, or there is no server. -/
  | closed
deriving DecidableEq, Repr

/-- The text of a bad answer, which tells nothing of what the server reports. -/
def Refusal.text : Refusal → String
  | rejected => "db error"
  | closed => "connection closed"

/-- A behaviour of the network. -/
structure Network (σ : Type) where
  respond : σ → (message : Message) → Except Refusal message.Reply × σ

/-- A network on which no server listens. -/
def Network.silent : Network Unit where
  respond _ _ := (.error .closed, ())

end PgConverge.Client
