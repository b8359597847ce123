import PgConverge.Sql.Query
import PgConverge.Sql.Statement

/-!
# Requests

What a program asks of its connection to a cluster. The connection has a main session, on which
every statement takes effect at once, and opens a dedicated session for each transaction.

## Main definitions

* `SessionId` — the main session is 0, the others are numbered in the order in which they open.
* `Request`, `Request.Answer` — a request and what a successful answer to it carries.
* `Exchange` — a request with its answer.
-/

namespace PgConverge

/-- The number of a session. -/
abbrev SessionId := Nat

/-- The main session. -/
def mainSession : SessionId := 0

/-- A request to the connection. -/
inductive Request where
  | execute (session : SessionId) (statement : Statement)
  | query (session : SessionId) (question : Query)
  /-- Opens a session with a transaction, in the given database or in that of the main session. -/
  | begin (database : Option String)
  /-- Opens a session with a transaction that cannot change anything. -/
  | beginReadOnly
  | commit (session : SessionId)
  | rollback (session : SessionId)
  /-- Closes a session whose transaction is neither committed nor rolled back. -/
  | discard (session : SessionId)
deriving DecidableEq, Repr

namespace Request

/-- What a server sends back for a request that succeeds. -/
abbrev Reply : Request → Type
  | execute .. => UInt64
  | query .. => Option Row
  | begin _ | beginReadOnly | commit _ | rollback _ | discard _ => Unit

/-- What a program learns from a request that succeeds: the number of rows affected, the first row
of an answer, the number of a session that was opened. -/
abbrev Answer : Request → Type
  | execute .. => UInt64
  | query .. => Option Row
  | begin _ | beginReadOnly => SessionId
  | commit _ | rollback _ | discard _ => Unit

/-- Whether a request opens a session when it succeeds. -/
def opens : Request → Bool
  | begin _ | beginReadOnly => true
  | _ => false

/-- The answer made of a reply; a session that opens gets the number `fresh`. -/
def answer (fresh : SessionId) : (request : Request) → request.Reply → request.Answer
  | execute .., affected => affected
  | query .., row => row
  | begin _, _ => fresh
  | beginReadOnly, _ => fresh
  | commit _, _ => ()
  | rollback _, _ => ()
  | discard _, _ => ()

/-- The session that a request runs on; sessions are opened from the main one. -/
def session : Request → SessionId
  | execute session _ | query session _ | commit session | rollback session | discard session =>
    session
  | begin _ | beginReadOnly => mainSession

/-- The text of a request. -/
def sql : Request → String
  | execute _ statement => statement.sql
  | query _ question => question.sql
  | begin _ => "BEGIN"
  | beginReadOnly => "BEGIN READ ONLY"
  | commit _ => "COMMIT"
  | rollback _ => "ROLLBACK"
  | discard _ => ""

end Request

/-- A request and how it ended. -/
structure Exchange where
  request : Request
  outcome : Except Error request.Answer

end PgConverge
