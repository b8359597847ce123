import PgConverge.Client.ConnectionString
import PgConverge.Client.Network
import PgConverge.Connection.Run
import PgConverge.Provider
import PgConverge.Reconciler

/-!
# Connections over a network

Answers the requests of programs by messages to a server. The main session and each transaction have
a line of their own; the line of a transaction is closed when the transaction ends.

## Main definitions

* `Client.Connection`, `Client.backend` — the lines that are open, and the server made of them.
* `Client.connect` — opens the main session that connection settings ask for.
* `Client.connectProvider` — opens it for a provider configuration and makes a reconciler.
-/

namespace PgConverge.Client

/-- A conversation with the network. -/
abbrev Talk (σ : Type) := StateM σ

/-- A conversation that can fail. -/
abbrev Attempt (ε σ α : Type) := ExceptT ε (StateM σ) α

variable {σ : Type}

namespace Network

/-- Sends a message; a bad answer is a failure. -/
def send (network : Network σ) (message : Message) : Attempt Refusal σ message.Reply :=
  ExceptT.mk fun state => network.respond state message

/-- Tries places in turn until a session opens. -/
def open? (network : Network σ) (startup : Startup) : List Endpoint → Talk σ (Option Line)
  | [] => return none
  | endpoint :: endpoints => do
    match ← (network.send (.connect endpoint startup)).run with
    | .ok line => return some line
    | .error _ => network.open? startup endpoints

/-- Whether a text holds a NUL character, which ends texts on the wire. -/
def hasNul (s : String) : Bool := s.toList.contains '\x00'

/-- Why a statement does not get the parameters it takes. -/
def parameterProblem? (types : List WireType) (parameters : List Value) : Option String :=
  if types.length != parameters.length then
    some ("expected " ++ toString types.length ++ " parameters but got " ++
      toString parameters.length)
  else
    ((types.zip parameters).findIdx? fun p => !p.1.accepts p.2).map fun i =>
      "error serializing parameter " ++ toString i

/-- Has a statement read and then run, unless it does not get the parameters it takes. A text with
a NUL character cannot be sent. -/
def perform (network : Network σ) (line : Line) (sql : String) (parameters : List Value) :
    Attempt String σ Completion := do
  if hasNul sql then throw "error encoding message to server"
  let types ← (network.send (.prepare line sql)).adapt Refusal.text
  match parameterProblem? types parameters with
  | some problem => throw problem
  | none => (network.send (.execute line sql parameters)).adapt Refusal.text

end Network

/-- What a client says about itself under its settings. -/
def Settings.startup (settings : Settings) : Startup :=
  ⟨settings.user, settings.database, settings.applicationName, settings.options⟩

/-- The error for a session that does not open. -/
def notConnected : Error := .connection "failed to connect" none

/-- Whether what a client says about itself can be sent. -/
def Startup.isSendable (startup : Startup) : Bool :=
  [startup.user, startup.database, startup.applicationName, startup.options].all fun text =>
    !text.any Network.hasNul

/-- Opens a session at the first of the places that the settings name and where one opens. -/
def openLine (network : Network σ) (settings : Settings) : Attempt Error σ Line := do
  if !settings.startup.isSendable then throw notConnected
  let some endpoints := settings.endpoints? | throw notConnected
  let some line ← ExceptT.lift (network.open? settings.startup endpoints) | throw notConnected
  return line

/-- A connection: the state of the network, the settings for more sessions, and the lines of the
sessions in the order in which they opened, that of the main session first. -/
structure Connection (σ : Type) where
  network : σ
  settings : Settings
  lines : List Line

namespace Connection

/-- Goes on with what a conversation leaves of the network. -/
def talk {ε α : Type} (connection : Connection σ) (attempt : Attempt ε σ α) :
    Except ε α × Connection σ :=
  let (result, network) := attempt.run connection.network
  (result, { connection with network })

/-- Runs a statement on the line of a session. -/
def perform (network : Network σ) (connection : Connection σ) (session : SessionId) (sql : String)
    (parameters : List Value) : Except Error Completion × Connection σ :=
  match connection.lines[session]? with
  | none => (.error (.rejected Refusal.closed.text (some sql)), connection)
  | some line =>
    connection.talk <|
      (network.perform line sql parameters).adapt fun problem => .rejected problem (some sql)

/-- Opens a session in a database, or in that of the main session, and starts a transaction. The
session of a transaction that does not start is closed. -/
def begin (network : Network σ) (connection : Connection σ) (database : Option String)
    (sql : String) : Except Error Unit × Connection σ :=
  let settings :=
    { connection.settings with database := database <|> connection.settings.database }
  let started : Attempt Error σ Line := do
    let line ← openLine network settings
    match ← ExceptT.lift (network.send (.simple line sql)).run with
    | .ok () => return line
    | .error refusal => do
      let _ ← ExceptT.lift (network.send (.close line)).run
      throw (.transaction refusal.text)
  match connection.talk started with
  | (.ok line, connection) => (.ok (), { connection with lines := connection.lines ++ [line] })
  | (.error e, connection) => (.error e, connection)

/-- Ends a transaction and closes its session, whether the transaction ends as asked or not. -/
def finish (network : Network σ) (connection : Connection σ) (session : SessionId)
    (sql : Option String) : Except Error Unit × Connection σ :=
  match connection.lines[session]? with
  | none => (.error (.transaction Refusal.closed.text), connection)
  | some line => connection.talk do
    let ended : Except Refusal Unit ←
      match sql with
      | some sql => ExceptT.lift (network.send (.simple line sql)).run
      | none => pure (.ok ())
    let _ ← ExceptT.lift (network.send (.close line)).run
    MonadExcept.ofExcept (ended.mapError fun refusal => Error.transaction refusal.text)

end Connection

/-- The server that answers requests over a network. -/
def backend (network : Network σ) : Server (Connection σ) where
  respond connection request :=
    match request with
    | .execute session statement =>
      let (result, connection) :=
        connection.perform network session statement.sql statement.parameters
      (result.map Completion.affected, connection)
    | .query session question =>
      let (result, connection) :=
        connection.perform network session question.sql question.parameters
      (result.map Completion.firstRow, connection)
    | .begin database => connection.begin network database (Request.begin database).sql
    | .beginReadOnly => connection.begin network none Request.beginReadOnly.sql
    | .commit session => connection.finish network session (some (Request.commit session).sql)
    | .rollback session => connection.finish network session (some (Request.rollback session).sql)
    | .discard session => connection.finish network session none

/-- Opens the main session that connection settings ask for. -/
def connect (network : Network σ) (config : ConnectionConfig) (state : σ) :
    Except Error (Connection σ) × σ :=
  match Settings.ofConfig config with
  | .error e => (.error e, state)
  | .ok settings =>
    match (openLine network settings).run state with
    | (.ok line, state) => (.ok ⟨state, settings, [line]⟩, state)
    | (.error e, state) => (.error e, state)

/-- Opens the main session for a provider configuration and makes a reconciler for it. What the
configuration does not tell is asked of the server. -/
def connectProvider (network : Network σ) (config : ProviderConfig) (state : σ) :
    Except Error (Reconciler × Link (Connection σ)) × σ :=
  match config.connectionConfig with
  | .error e => (.error e, state)
  | .ok connectionConfig =>
    match connect network connectionConfig state with
    | (.error e, state) => (.error e, state)
    | (.ok connection, state) =>
      match config.expectedServerVersion with
      | .error e => (.error e, state)
      | .ok version =>
        let transcript :=
          (Reconciler.ofConnection config.databaseUsername version).attempt.run (backend network)
            (.start connection)
        (transcript.result.map fun reconciler => (reconciler, transcript.link),
          transcript.link.state.network)

end PgConverge.Client
