import PgConverge.Proofs.Database.Spec
import PgConverge.Proofs.Reconciler.Compatibility

/-!
# Invalid requests

What is asked of an operation is checked before anything is sent. A call that fails the check asks
nothing of the connection, and so nothing invalid can stand in the text of any statement.

## Main definitions

* `Call.check`, `Call.IsSound` — how a call checks what it asks for, and the calls that pass.
* `Statement.IsSound` — the statements that such a call may send.
* `Reconciler.updateUnguarded` — an update that renames without a look at the new name.

## Main statements

* `Reconciler.call_of_check` — a call that fails its check does nothing.
* `Reconciler.rejects_invalid` — what is invalid is rejected at first, and never sent.
-/

namespace PgConverge

namespace Call

/-- Whether what a call asks for is valid: the spec that it creates, or the one that it converges
to, without a change of what is fixed at creation. -/
def IsSound : Call → Prop
  | create spec => spec.IsValid
  | update change => change.desired.IsValid ∧ change.fixedChanges = []
  | read _ | adopt _ | delete _ | exists? _ => True

/-- How a call that changes a database checks what it asks for. -/
def check : Call → Except Error Unit
  | create spec => spec.check
  | update change => change.check
  | read _ | adopt _ | delete _ | exists? _ => .ok ()

theorem check_eq_ok_iff {call : Call} : call.check = .ok () ↔ call.IsSound := by
  cases call with
  | create spec => exact DatabaseSpec.check_eq_ok_iff
  | update change => exact SpecChange.check_eq_ok_iff
  | read | adopt | delete | exists? => exact iff_of_true rfl trivial

theorem category_of_check {call : Call} {e : Error} (h : call.check = .error e) :
    e.category = .validation := by
  cases call with
  | create spec => exact Reconciler.category_of_check h
  | update change => exact Reconciler.category_of_changeCheck h
  | read | adopt | delete | exists? => cases h

end Call

/-! ## What is sent -/

/-- Whether a statement asks for nothing invalid: a database gets a name that it may have, and a
limit of at least -1. -/
def Statement.IsSound : Statement → Prop
  | createDatabase definition =>
    DatabaseSpec.IsName definition.name ∧ -1 ≤ definition.connectionLimit.toInt
  | renameDatabase _ newName => DatabaseSpec.IsName newName
  | setConnectionLimit _ limit => -1 ≤ limit.toInt
  | _ => True

theorem Call.Makes.isSound {r : Reconciler} {state : DatabaseState} {call : Call}
    {past : List Exchange} {session : SessionId} {statement : Statement}
    (h : call.Makes r state past (.execute session statement)) (hsound : call.IsSound) :
    statement.IsSound := by
  cases h with
  | create spec => exact ⟨hsound.name, hsound.connectionLimit⟩
  | rename => exact hsound.1.name
  | setConnectionLimit => exact hsound.1.connectionLimit
  | @moveTablespace change =>
    unfold Statement.moveTablespace
    split <;> trivial
  | elevated _ hmakes | handingOver _ _ hmakes =>
    cases hmakes with
    | _ => trivial
  | reads _ hreads => cases hreads
  | _ => trivial

namespace Reconciler

variable {r : Reconciler} {state : DatabaseState} {log : List Exchange}

/-- A call that fails its check does nothing. -/
theorem call_of_check {call : Call} {e : Error} (h : call.check = .error e) :
    r.call state call = .done (.error e, state) := by
  cases call with
  | create spec =>
    have hcreate : r.create spec = throw e := by
      have hcheck : spec.check = .error e := h
      rw [create, hcheck]
      rfl
    rw [call, hcreate]
    rfl
  | update change =>
    have hprepare : prepare state change = throw e := by
      have hcheck : change.check = .error e := h
      rw [prepare, hcheck]
      rfl
    rw [call, update_eq, hprepare]
    rfl
  | read | adopt | delete | exists? => cases h

theorem run_of_check {σ : Type} {call : Call} {e : Error} (h : call.check = .error e)
    (server : Server σ) (link : Link σ) :
    (r.call state call).run server link = ⟨(.error e, state), [], link⟩ := by
  rw [call_of_check h]
  rfl

/-- A call sends something only if it has passed its check. -/
theorem isSound_of_call {call : Call} {result : Except Error Unit × DatabaseState}
    (h : (r.call state call).Yields log result) (hlog : log ≠ []) : call.IsSound := by
  refine Call.check_eq_ok_iff.mp ?_
  cases hcheck : call.check with
  | ok _ => rfl
  | error e =>
    rw [call_of_check hcheck] at h
    exact absurd h.1 hlog

theorem isSound_of_callAll {calls : List (DatabaseState × Call)}
    {results : List (Except Error Unit × DatabaseState)}
    (h : (r.callAll calls).Yields log results) :
    ∀ x ∈ log, ∀ statement, (∃ session, x.request = .execute session statement) ∨
      Statement.ofText x.request.sql = some statement → statement.IsSound := by
  refine forall_of_callAll (fun state call log result _ hcall x hx statement htext => ?_) h
  obtain ⟨before, after, rfl⟩ := List.append_of_mem hx
  have hmakes := (r.orderly_call state hcall).of_split
  have hsound := isSound_of_call hcall (by simp)
  obtain ⟨session, hexecute⟩ : ∃ session, x.request = .execute session statement :=
    htext.elim id (Request.eq_execute_of_ofText hmakes.isWorded)
  rw [hexecute] at hmakes
  exact hmakes.isSound hsound

/-! ## The second look at a new name -/

/-- An update that renames its database without a look at the new name. -/
def updateUnguarded (r : Reconciler) (state : DatabaseState) (change : SpecChange) :
    Program (Except Error Unit × DatabaseState) := do
  let renamed : Action Unit := do
    change.check
    .onlyIf (change.differs .name) <|
      run "error updating database name"
        (.renameDatabase (currentName state change) change.desired.name)
  match ← renamed.attempt with
  | .error e => return (.error e, state)
  | .ok () => keeping (renamedState state change) (r.converge state change)

/-- When a database is renamed, its new name has been checked already. -/
theorem update_eq_updateUnguarded (r : Reconciler) (state : DatabaseState) (change : SpecChange) :
    r.update state change = r.updateUnguarded state change := by
  rw [update_eq, updateUnguarded]
  cases hcheck : change.check with
  | error e =>
    rw [prepare, hcheck]
    rfl
  | ok _ =>
    obtain ⟨⟨⟨⟨c, hc, -⟩, -⟩, -⟩, -⟩ := SpecChange.check_eq_ok_iff.mp hcheck
    have hname : change.desired.name.isEmpty = false := by
      refine Bool.eq_false_iff.mpr fun hempty => ?_
      rw [String.isEmpty_iff.mp hempty] at hc
      cases hc
    rw [prepare, hcheck, rename, hname]
    refine congrArg (_ >>= ·) (funext fun outcome => ?_)
    cases outcome <;> rfl

/-- What is invalid is rejected with all that is wrong with it before anything is sent, so that
nothing invalid stands in any text that is sent, and nothing is left for the second look at a new
name to find. -/
theorem rejects_invalid (r : Reconciler) :
    (∀ spec : DatabaseSpec, (spec.check = .ok () ↔ spec.IsValid) ∧
      (¬spec.IsValid → ∃ problems : List FieldError,
        spec.check = .error (.validation (String.intercalate "; " (problems.map FieldError.text))) ∧
        ∀ problem, problem ∈ problems ↔ spec.HasProblem problem)) ∧
    (∀ {σ : Type} (call : Call) (state : DatabaseState) (server : Server σ) (link : Link σ),
      ¬call.IsSound →
      let transcript := (r.call state call).run server link
      transcript.exchanges = [] ∧
        ∃ e, transcript.result = (.error e, state) ∧ e.category = .validation) ∧
    (∀ {σ : Type} (calls : List (DatabaseState × Call)) (server : Server σ) (link : Link σ),
      ∀ x ∈ ((r.callAll calls).run server link).exchanges, ∀ statement,
        (∃ session, x.request = .execute session statement) ∨
          Statement.ofText x.request.sql = some statement → statement.IsSound) ∧
    ∀ (state : DatabaseState) (change : SpecChange),
      r.call state (.update change) = r.updateUnguarded state change := by
  refine ⟨fun spec => ⟨DatabaseSpec.check_eq_ok_iff, fun hinvalid => ?_⟩, ?_, ?_, ?_⟩
  · exact ⟨_, DatabaseSpec.check_of_not_isValid hinvalid, fun _ => DatabaseSpec.mem_fieldErrors⟩
  · intro σ call state server link hunsound transcript
    cases hcheck : call.check with
    | ok _ => exact absurd (Call.check_eq_ok_iff.mp hcheck) hunsound
    | error e =>
      have hrun : transcript = _ := run_of_check hcheck server link
      rw [hrun]
      exact ⟨rfl, e, rfl, Call.category_of_check hcheck⟩
  · intro σ calls server link
    exact isSound_of_callAll (Program.yields_run server (r.callAll calls) link)
  · exact r.update_eq_updateUnguarded

/-- A name of one wide space with a limit too low; and a database that is renamed. -/
theorem rejects_invalid_blank_name :
    let r : Reconciler := ⟨⟨16, 0, 0⟩, "app"⟩
    let blank := { DatabaseSpec.ofName "\u2003" with connectionLimit := -5 }
    let refused := (r.call .empty (.create blank)).run Script.server (.start [])
    let renamed := (r.callAll [(.ofId "a", .update ⟨.ofName "a", .ofName "b"⟩)]).run
      Script.server (.start [])
    (∃ problems : List FieldError,
        blank.check =
            .error (.validation (String.intercalate "; " (problems.map FieldError.text))) ∧
          ∀ problem, problem ∈ problems ↔ blank.HasProblem problem) ∧
      refused.exchanges = [] ∧
      ⟨.execute mainSession (.renameDatabase "a" "b"), .ok (0 : UInt64)⟩ ∈ renamed.exchanges ∧
      (Statement.renameDatabase "a" "b").IsSound := by
  intro r blank refused renamed
  have hinvalid : ¬blank.IsValid := by
    rintro ⟨-, hlimit⟩
    exact absurd hlimit (by decide)
  have hsent : ⟨.execute mainSession (.renameDatabase "a" "b"), .ok (0 : UInt64)⟩ ∈
      renamed.exchanges := by
    subst renamed
    exact .head _
  obtain ⟨hspecs, hcalls, hsound, -⟩ := r.rejects_invalid
  exact ⟨(hspecs blank).2 hinvalid,
    (hcalls (.create blank) .empty Script.server (.start []) hinvalid).1, hsent,
    hsound _ _ _ _ hsent _ (.inl ⟨mainSession, rfl⟩)⟩

end Reconciler

end PgConverge
