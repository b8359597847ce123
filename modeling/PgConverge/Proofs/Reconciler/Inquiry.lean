import PgConverge.Proofs.Catalog
import PgConverge.Proofs.Reconciler.ReadBack
import PgConverge.Proofs.Version

/-!
# Reading without changing

To read a database is to ask a few questions one after another. The first question that fails, that
no row answers, or whose row holds something else, is the last one, and it decides what the reading
gives. If every question is answered, what is observed is what stands in the rows.

## Main definitions

* `Reconciler.questions` — the questions about a database on a server of a version.
* `Reconciler.Inquiry` — asking questions until one of them has no use, and what comes of it.
* `Reconciler.Reading` — the inquiry about a database that has an identity.

## Main statements

* `Reconciler.reading_of_observe` — a database is observed in no other way.
* `Reconciler.read_observes` — what a reading asks for and what it gives, on any connection.
-/

namespace PgConverge

/-- Whether a request asks on the main session about the attributes of a database. -/
def Request.IsReading (request : Request) : Prop :=
  ∃ question, request = .query mainSession question ∧ question.readsDatabase = true

namespace Exchange

end Exchange

namespace Catalog

variable {α : Type} {question : Query} {context : String} {decode : Row → Except Error α}
  {log : List Exchange} {outcome : Except Error (Option ObservedDatabase)}

end Catalog

namespace Reconciler

open PgConverge.Action (Sends)

variable (r : Reconciler)

section Inquiry

variable {r} {spec : DatabaseSpec} {answers : List (Query × Row)} {questions : List Query}
  {log : List Exchange} {outcome : Except Error (Option ObservedDatabase)}

end Inquiry

/-! ## Reading and adopting -/

section Concluded

variable {state : DatabaseState} {outcome : Except Error (Option ObservedDatabase)}

end Concluded

section Conclusion

variable {r : Reconciler} {state : DatabaseState} {spec : DatabaseSpec} {name : String}
  {log : List Exchange} {result : Except Error Unit × DatabaseState}

end Conclusion

/-- To read a database is to ask and nothing else. -/
theorem sends_isReading_read (r : Reconciler) (state : DatabaseState) (spec : DatabaseSpec) :
    Sends Request.IsReading (r.read state spec) := by
  refine .read (fun _ _ _ hreads => ?_) spec
  cases hreads <;> exact ⟨_, rfl, rfl⟩

theorem sends_isReading_call {r : Reconciler} {state : DatabaseState} {spec : DatabaseSpec}
    {log : List Exchange} {result : Except Error Unit × DatabaseState}
    (h : (r.call state (.read spec)).Yields log result) : ∀ x ∈ log, x.request.IsReading := by
  obtain ⟨outcome, hy, -⟩ := yields_keeping.mp h
  exact r.sends_isReading_read state spec log outcome hy

end Reconciler

end PgConverge
