import PgConverge.Proofs.Reconciler.Reporting
import PgConverge.Proofs.Reconciler.Retry

/-!
# The state after a call

The state that is kept after a call is true to what the call has done. A call that fails leaves it
as it was, except for a new name that the database has got; what is kept after a success was done
or seen without any failure.

## Main definitions

* `Call.KeepsTruth` — what the state after a call has to do with the log of the call.

## Main statements

* `Reconciler.keepsTruth_call` — every call keeps to that, on any connection.
-/

namespace PgConverge

/-- Whether the state after a call is true to how the call ended and to what its log shows. -/
def Call.KeepsTruth (version : ServerVersion) (state : DatabaseState) (log : List Exchange)
    (result : Except Error Unit × DatabaseState) : Call → Prop
  | read _ => ∀ e, result.1 = .error e → result.2 = state
  | delete spec =>
    (∀ e, result.1 = .error e → result.2 = state) ∧
      (result.1 = .ok () → result.2 = .empty ∧ ∃ affected,
        (⟨.execute mainSession (.drop (state.id.getD spec.name) version), .ok affected⟩ :
          Exchange) ∈ log)
  | update change => ∀ e, result.1 = .error e →
    result.2.observed = state.observed ∧
      ((∃ x ∈ log, x.renames = true) → result.2.id = some change.desired.name) ∧
      ((∀ x ∈ log, x.renames = false) → result.2.id = state.id)
  | create _ | adopt _ =>
    (∃ x ∈ log, x.outcome.isOk = false) → (∃ e, result.1 = .error e) ∧ result.2 = state
  | exists? _ => result.2 = state

namespace Reconciler

variable {r : Reconciler} {state : DatabaseState} {log : List Exchange}

theorem error_of_failure {call : Call} {outcome : Except Error DatabaseState}
    (h : (r.steps state call).Yields log outcome) (hfailed : ∃ x ∈ log, x.outcome.isOk = false) :
    ∃ e, outcome = .error e := by
  obtain ⟨x, hx, hfailed⟩ := hfailed
  rcases r.stops_steps call state log outcome h with ⟨hsmooth, -⟩ | ⟨e, he, -⟩
  · cases hfailed.symm.trans (hsmooth.isOk hx)
  · exact ⟨e, he⟩

/-- A deletion succeeds only if the database was dropped. -/
theorem dropped_of_delete {spec : DatabaseSpec} {state' : DatabaseState}
    (h : (r.delete state spec).Yields log (.ok state')) :
    state' = .empty ∧ ∃ affected,
      (⟨.execute mainSession (.drop (state.id.getD spec.name) r.version), .ok affected⟩ :
        Exchange) ∈ log := by
  obtain ⟨log, rest, _, rfl, hdelete, rfl, hempty⟩ := Action.of_yields_bind_ok h
  cases hempty
  refine ⟨rfl, ?_⟩
  rcases course_of_asOwner hdelete with
    ⟨-, e, he⟩ | ⟨entering, working, leaving, o, rfl, -, -, hwork, hfails⟩
  · cases he
  cases o with
  | error e => cases hfails e rfl
  | ok _ =>
    obtain ⟨clearing, rest, _, rfl, -, hrest⟩ := Action.of_yields_bind_ok hwork
    obtain ⟨draining, last, _, rfl, -, hlast⟩ := Action.of_yields_bind_ok hrest
    obtain ⟨e | affected, rfl, he⟩ := (Action.yields_executeInContext ..).mp hlast
    · cases he
    · exact ⟨affected, by simp⟩

/-- A call that fails, other than an update, leaves the state as it was. -/
theorem kept_of_keeping {action : Action DatabaseState} {result : Except Error Unit × DatabaseState}
    (h : (keeping state action).Yields log result) {e : Error} (hfailed : result.1 = .error e) :
    result.2 = state := by
  obtain ⟨outcome, -, rfl⟩ := yields_keeping.mp h
  cases outcome with
  | error => rfl
  | ok => cases hfailed

theorem failed_of_failure {call : Call} {result : Except Error Unit × DatabaseState}
    (h : (r.call state call).Yields log result) (hfailed : ∃ x ∈ log, x.outcome.isOk = false) :
    ∃ e, result.1 = .error e := by
  obtain ⟨outcome, hy, hresult⟩ := yields_steps h
  obtain ⟨e, rfl⟩ := error_of_failure hy hfailed
  exact ⟨e, hresult⟩

theorem keepsTruth_update {change : SpecChange} {result : Except Error Unit × DatabaseState}
    (h : (r.update state change).Yields log result) :
    (Call.update change).KeepsTruth r.version state log result := by
  intro e hfailed
  rcases kept_of_attempt h with ⟨⟨y, hy, hrenames⟩, hchange, hkept⟩ | ⟨hnone, hsame⟩
  · have hstate : result.2 = { state with id := some change.desired.name } := by
      rw [hkept e hfailed, renamedState, hchange.differs, if_pos rfl]
    rw [hstate]
    refine ⟨rfl, fun _ => rfl, fun hnone => ?_⟩
    cases (hnone y hy).symm.trans hrenames
  · rw [hsame e hfailed]
    refine ⟨rfl, ?_, fun _ => rfl⟩
    rintro ⟨y, hy, hrenames⟩
    cases (hnone y hy).symm.trans hrenames

/-- To ask whether a database exists changes nothing. -/
theorem kept_of_exists? {name : String} {result : Except Error Unit × DatabaseState}
    (h : (r.call state (.exists? name)).Yields log result) : result.2 = state := by
  obtain ⟨outcome, hasked, rfl⟩ := yields_keeping.mp h
  obtain ⟨found, -, rfl⟩ := (Action.yields_map _ _ _).mp hasked
  cases found with
  | error e => rfl
  | ok found => rfl

/-- Whatever the connection answers, the state that is kept after a call is true to it. -/
theorem keepsTruth_call {σ : Type} (r : Reconciler) (call : Call) (state : DatabaseState)
    (server : Server σ) (link : Link σ) :
    let transcript := (r.call state call).run server link
    call.KeepsTruth r.version state transcript.exchanges transcript.result := by
  intro transcript
  have hy : (r.call state call).Yields transcript.exchanges transcript.result :=
    Program.yields_run server (r.call state call) link
  cases call with
  | create spec =>
    intro hfailed
    obtain ⟨e, he⟩ := failed_of_failure hy hfailed
    exact ⟨⟨e, he⟩, kept_of_keeping hy he⟩
  | adopt name =>
    intro hfailed
    obtain ⟨e, he⟩ := failed_of_failure hy hfailed
    exact ⟨⟨e, he⟩, kept_of_keeping hy he⟩
  | read spec => exact fun e he => kept_of_keeping hy he
  | update change => exact keepsTruth_update hy
  | delete spec =>
    refine ⟨fun e he => kept_of_keeping hy he, fun hok => ?_⟩
    obtain ⟨outcome, hdelete, hresult⟩ := yields_keeping.mp hy
    rw [hresult] at hok ⊢
    cases outcome with
    | error e => cases hok
    | ok state' => exact dropped_of_delete hdelete
  | exists? name => exact kept_of_exists? hy

end Reconciler

end PgConverge
