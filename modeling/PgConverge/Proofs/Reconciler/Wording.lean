import PgConverge.Proofs.Reconciler.Scope
import PgConverge.Proofs.Sql.Lexeme

/-!
# Names and the wording of a request

A name is never more than a name to the server: it stands in the parameters of a question whose text
is fixed, or in quotes in a statement that is read back from its text with exactly the names that a
call puts into it.

## Main definitions

* `Request.Legible` — what can be read from the text of a request, whatever its names are.

## Main statements

* `Reconciler.legible_call` — every request in the scope of a call is legible.
-/

namespace PgConverge

/-- Whether the text of a request tells what it asks for, and nothing else. -/
structure Request.Legible (request : Request) : Prop where
  tokens : Sql.lex request.sql.toList = some request.lexemes
  /-- The text of a question is one of a few, and its parameters are names. -/
  question : ∀ session question, request = .query session question →
    question.sql ∈ Query.catalogTexts ∧ ∀ v ∈ question.parameters, ∃ name, v = .text name
  /-- Except for the one that ends sessions, a statement with all of its names is what the whole
  text says. -/
  statement : ∀ session statement, request = .execute session statement →
    (∀ column name, statement ≠ .terminateSessions column name) →
    Statement.ofText statement.sql = some statement
  /-- The statement that ends sessions has its name in a parameter. -/
  terminate : ∀ session column name, request = .execute session (.terminateSessions column name) →
    (Statement.terminateSessions column name).parameters = [.text name] ∧
      ∀ other, request.sql = (Statement.terminateSessions column other).sql

theorem Request.legible_of_isWorded {request : Request} (h : request.IsWorded) :
    request.Legible where
  tokens := lex_sql h
  question := by
    rintro session question rfl
    exact ⟨Query.sql_mem_catalogTexts h, Query.text_of_mem_parameters h⟩
  statement := by
    rintro session statement rfl hnames
    exact Statement.ofText_sql h hnames
  terminate := by
    rintro session column name rfl
    exact ⟨rfl, fun _ => rfl⟩

theorem Elevation.Makes.isWorded {principal group : String} {database : Option String}
    {request : Request} (h : Elevation.Makes principal group database request) :
    request.IsWorded := by
  cases h with
  | _ => trivial

theorem ServerVersion.Reads.isWorded {version : ServerVersion} {name : String} {request : Request}
    (h : version.Reads name request) : request.IsWorded := by
  cases h with
  | _ => trivial

/-- A call never sends a request that is given by its text. -/
theorem Call.Makes.isWorded {r : Reconciler} {state : DatabaseState} {call : Call}
    {past : List Exchange} {request : Request} (h : call.Makes r state past request) :
    request.IsWorded := by
  cases h with
  | elevated _ hmakes => exact hmakes.isWorded
  | handingOver _ _ hmakes => exact hmakes.isWorded
  | reads _ hreads => exact hreads.isWorded
  | @moveTablespace change =>
    unfold Statement.moveTablespace
    cases Setting.of change.desired.tablespace with
    | _ => trivial
  | _ => trivial

/-- Whatever the names are, and whatever the connection answers, each request of a call is one of
those in its scope, with the names that it has there, and its text says just that. -/
theorem Reconciler.legible_call {σ : Type} (r : Reconciler) (call : Call) (state : DatabaseState)
    (server : Server σ) (link : Link σ) :
    Orderly (fun past request => call.Makes r state past request ∧ request.Legible) []
      ((r.call state call).run server link).exchanges :=
  (r.orderly_call state (Program.yields_run server _ link)).mono
    fun _ _ h => ⟨h, Request.legible_of_isWorded h.isWorded⟩

end PgConverge
