import PgConverge.Proofs.Reconciler.Requests

/-!
# Plain work

The steps of an operation that need no elevation: they read the catalog and run statements on the
main session, and touch neither role memberships nor other sessions.

## Main statements

* `Reconciler.plain_read`, `Reconciler.plain_drop`, … — the steps that are plain work.
-/

namespace PgConverge

theorem Statement.changesRoles_moveTablespace (name : String) (tablespace : Option String) :
    (moveTablespace name tablespace).changesRoles = false := by
  unfold moveTablespace
  cases Setting.of tablespace <;> rfl

namespace Request

theorem isPlain_execute {statement : Statement} (h : statement.changesRoles = false) :
    (execute mainSession statement).IsPlain := ⟨by rw [isWork, h, Bool.not_false], rfl⟩

theorem isPlain_query {question : Query} (h : question.concernsRoles = false) :
    (query mainSession question).IsPlain := ⟨by rw [isWork, h, Bool.not_false], rfl⟩

theorem isPlain_of_readsDatabase {question : Query} (h : question.readsDatabase = true) :
    (query mainSession question).IsPlain := by
  refine isPlain_query ?_
  cases question <;> first | rfl | cases h

end Request

namespace Reconciler

open PgConverge.Action (Sends)
open Request (IsPlain isPlain_execute isPlain_query isPlain_of_readsDatabase)

variable (r : Reconciler)

theorem plain_read (state : DatabaseState) (spec : DatabaseSpec) :
    Sends IsPlain (r.read state spec) :=
  .read (fun _ _ _ h => h.forall_query isPlain_of_readsDatabase) spec

theorem plain_adopt (name : String) : Sends IsPlain (r.adopt name) :=
  .adopt fun _ h => h.forall_query isPlain_of_readsDatabase

theorem plain_setAllowConnections (name : String) (allow : Bool) :
    Sends IsPlain (r.setAllowConnections name allow) :=
  .setAllowConnections fun _ => isPlain_execute rfl

theorem plain_setIsTemplate (name : String) (isTemplate : Bool) :
    Sends IsPlain (r.setIsTemplate name isTemplate) := .setIsTemplate fun _ => isPlain_execute rfl

theorem plain_drop (name : String) : Sends IsPlain (r.drop name) :=
  .drop (fun _ => isPlain_query rfl) (fun _ => isPlain_execute rfl) (fun _ => isPlain_execute rfl)
    (isPlain_execute rfl) (isPlain_execute rfl)

end Reconciler

end PgConverge
