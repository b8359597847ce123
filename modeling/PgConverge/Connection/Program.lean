import PgConverge.Connection.Request

/-!
# Programs over a connection

A program is either done, or it makes a request and goes on with whatever the answer is, a failure
included. Programs hold no server: they can be run against any.

## Main definitions

* `Program` — the type, with its monad.
* `Action` — a program that can fail.
* `Session.execute`, `Session.query`, … — the actions that make one request.
* `Action.inContext` — names the operation in the error of a rejected statement.
-/

namespace PgConverge

/-- A computation that makes requests to a connection. -/
inductive Program (α : Type) : Type where
  | done (result : α)
  | ask (request : Request) (next : Except Error request.Answer → Program α)

namespace Program

variable {α β γ : Type}

/-- Runs a program and then another one made from its result. -/
def bind (p : Program α) (f : α → Program β) : Program β :=
  match p with
  | done a => f a
  | ask request next => ask request fun answer => (next answer).bind f

instance : Monad Program where
  pure := done
  bind := bind

@[simp] theorem pure_eq (a : α) : (pure a : Program α) = done a := rfl

@[simp] theorem done_bind (a : α) (f : α → Program β) : (done a >>= f) = f a := rfl

@[simp] theorem ask_bind (request : Request) (next : Except Error request.Answer → Program α)
    (f : α → Program β) :
    (ask request next >>= f) = ask request fun answer => next answer >>= f := rfl

theorem bind_done (p : Program α) : (p >>= done) = p := by
  induction p with
  | done a => rfl
  | ask request next ih => simp only [ask_bind, ih]

theorem bind_assoc (p : Program α) (f : α → Program β) (g : β → Program γ) :
    (p >>= f >>= g) = p >>= fun a => f a >>= g := by
  induction p with
  | done a => rfl
  | ask request next ih => simp only [ask_bind, ih]

instance : LawfulMonad Program :=
  LawfulMonad.mk' Program bind_done (fun _ _ => rfl) bind_assoc

/-- Makes one request. -/
def request (r : Request) : Program (Except Error r.Answer) := ask r done

end Program

/-- A program that can fail: a failure ends it, and is its result. -/
structure Action (α : Type) : Type where
  /-- The program whose result is a value or a failure. -/
  attempt : Program (Except Error α)

namespace Action

variable {α β γ : Type}

/-- Goes on with the value of an outcome; a failure ends there. -/
def proceed (f : α → Action β) : Except Error α → Program (Except Error β)
  | .ok a => (f a).attempt
  | .error e => .done (.error e)

instance : Monad Action where
  pure a := ⟨.done (.ok a)⟩
  bind action f := ⟨action.attempt >>= proceed f⟩

instance : MonadExceptOf Error Action where
  throw e := ⟨.done (.error e)⟩
  tryCatch action handle := ⟨do
    match ← action.attempt with
    | .ok a => return .ok a
    | .error e => (handle e).attempt⟩

instance : MonadLift (Except Error) Action where
  monadLift outcome := ⟨.done outcome⟩

instance : MonadLift Program Action where
  monadLift p := ⟨do return .ok (← p)⟩

@[simp] theorem attempt_pure (a : α) : (pure a : Action α).attempt = .done (.ok a) := rfl

@[simp] theorem attempt_throw (e : Error) : (throw e : Action α).attempt = .done (.error e) := rfl

@[simp] theorem attempt_bind (action : Action α) (f : α → Action β) :
    (action >>= f).attempt = action.attempt >>= proceed f := rfl

@[simp] theorem attempt_monadLift (outcome : Except Error α) :
    (liftM outcome : Action α).attempt = .done outcome := rfl

theorem bind_pure' (action : Action α) : (action >>= pure) = action := by
  have h : (proceed pure : Except Error α → Program (Except Error α)) = .done := by
    funext outcome; cases outcome <;> rfl
  rcases action with ⟨p⟩
  exact congrArg Action.mk ((congrArg (p >>= ·) h).trans (Program.bind_done p))

theorem bind_assoc (action : Action α) (f : α → Action β) (g : β → Action γ) :
    (action >>= f >>= g) = action >>= fun a => f a >>= g := by
  refine congrArg Action.mk ((Program.bind_assoc _ _ _).trans ?_)
  refine congrArg (action.attempt >>= ·) (funext fun outcome => ?_)
  cases outcome <;> rfl

instance : LawfulMonad Action :=
  LawfulMonad.mk' Action bind_pure' (fun _ _ => rfl) bind_assoc

/-- Makes one request and fails with its error. -/
def request (r : Request) : Action r.Answer := ⟨Program.request r⟩

/-- Changes the error of an action that fails. -/
def mapError (f : Error → Error) (action : Action α) : Action α :=
  ⟨do return (← action.attempt).mapError f⟩

/-- Names the operation in the error of a rejected statement. -/
def inContext (context : String) (action : Action α) : Action α :=
  action.mapError (Error.inContext context)

/-- Runs an action only under a condition. -/
def onlyIf (condition : Bool) (action : Action Unit) : Action Unit :=
  if condition then action else pure ()

end Action

namespace Session

/-- Runs a statement and gives the number of rows affected. -/
def execute (session : SessionId) (statement : Statement) : Action UInt64 :=
  Action.request (.execute session statement)

/-- Asks a question and gives the first row of the answer. -/
def query (session : SessionId) (question : Query) : Action (Option Row) :=
  Action.request (.query session question)

/-- Opens a session with a transaction. -/
def begin (database : Option String) : Action SessionId := Action.request (.begin database)

/-- Opens a session with a transaction that cannot change anything. -/
def beginReadOnly : Action SessionId := Action.request .beginReadOnly

/-- Commits a transaction and closes its session. -/
def commit (session : SessionId) : Action Unit := Action.request (.commit session)

/-- Rolls a transaction back and closes its session. -/
def rollback (session : SessionId) : Action Unit := Action.request (.rollback session)

/-- Closes a session whose transaction is neither committed nor rolled back. -/
def discard (session : SessionId) : Action Unit := Action.request (.discard session)

end Session

end PgConverge
