import PgConverge.Connection.Run

/-!
# Scripted servers

A script answers requests from a list of rules: the first rule that matches a request and has uses
left says how the request ends. A request that no rule matches succeeds and finds nothing.

## Main definitions

* `Script.Rule`, `Script.Rule.matchesRequest` — a rule and the requests that it is for.
* `Script.server` — the server that follows a script.
-/

namespace PgConverge.Script

/-- A parameter of a request as a rule sees it. -/
inductive Argument where
  | null
  | value (v : Value)
  /-- The database that a transaction is opened in. -/
  | database (name : String)
deriving DecidableEq, Repr

/-- How a request ends that a rule matches. -/
inductive Ending where
  /-- The statement is rejected with a message. -/
  | rejection (message : String)
  | failure (error : Error)
  /-- The request succeeds; a statement affects so many rows, and a row answers a question. -/
  | success (affected : UInt64) (row : Option Row)
deriving DecidableEq, Repr

/-- A rule: which requests it is for, how often it may be used, and how they end. -/
structure Rule where
  /-- What the text of the request starts with. -/
  textStart : String
  session : Option SessionId
  arguments : Option (List Argument)
  /-- How many uses are left, if not any number. -/
  uses : Option Nat
  ending : Ending
deriving DecidableEq, Repr

/-- The argument for a value. -/
def Argument.ofValue : Value → Argument
  | .null => null
  | v => value v

/-- The arguments of a request. -/
def argumentsOf : Request → List Argument
  | .execute _ statement => statement.parameters.map .ofValue
  | .query _ question => question.parameters.map .ofValue
  | .begin (some name) => [.database name]
  | .begin none | .beginReadOnly => [.null]
  | .commit _ | .rollback _ | .discard _ => []

namespace Rule

/-- Whether a rule is for a request and may still be used. -/
def matchesRequest (rule : Rule) (request : Request) : Bool :=
  rule.uses != some 0 &&
    rule.textStart.toList.isPrefixOf request.sql.toList &&
    rule.session.all (· == request.session) &&
    rule.arguments.all (· == argumentsOf request)

/-- The rule with one use less. -/
def used (rule : Rule) : Rule := { rule with uses := rule.uses.map (· - 1) }

end Rule

/-- How a request ends that no rule matches. -/
def Ending.default : Ending := success 0 none

/-- The reply that an ending means for a request. -/
def Ending.reply (ending : Ending) (request : Request) : Except Error request.Reply :=
  match ending with
  | rejection message => .error (.rejected message (some request.sql))
  | failure e => .error e
  | success affected row =>
    match request with
    | .execute .. => .ok affected
    | .query .. => .ok row
    | .begin _ | .beginReadOnly | .commit _ | .rollback _ | .discard _ => .ok ()

/-- The first matching rule's ending, and the rules with that rule used once. -/
def consult (request : Request) : List Rule → Ending × List Rule
  | [] => (.default, [])
  | rule :: rules =>
    if rule.matchesRequest request then (rule.ending, rule.used :: rules)
    else
      let (ending, rules) := consult request rules
      (ending, rule :: rules)

/-- The server that follows a list of rules. Closing a session asks no rule. -/
def server : Server (List Rule) where
  respond rules request :=
    match request with
    | .discard _ => (.ok (), rules)
    | request =>
      let (ending, rules) := consult request rules
      (ending.reply request, rules)

end PgConverge.Script
