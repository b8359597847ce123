import PgConverge.Proofs.Reconciler.Keeping
import PgConverge.Proofs.Reconciler.ReadBack
import PgConverge.Proofs.Version

/-!
# The state over many calls

What can be said about the state that is kept after any number of calls, whatever they were asked to
do and however each of them ended. What was observed is complete for the version of the server, and
it is what the identity stands for, except after an update that has failed under a new name.

## Main definitions

* `Episode`, `Reconciler.history` — a call that was made, and the calls of a lifecycle in a row.
* `ObservedDatabase.IsComplete` — an observation with all that a version of the server knows.
* `DatabaseState.Coherent` — what the state has to do with the calls made so far.

## Main statements

* `Reconciler.Coherent.call`, `Reconciler.Coherent.history` — each call preserves that, and so does
  every sequence of calls.
* `Reconciler.lifecycle_coherent` — it holds after every lifecycle, on any connection.
-/

namespace PgConverge

/-- Whether an observation has a template, and the flags exactly where the server has them. -/
structure ObservedDatabase.IsComplete (observed : ObservedDatabase) (version : ServerVersion) :
    Prop where
  template : observed.template ≠ ""
  allowConnections : observed.allowConnections.isSome = version.atLeast 9 5
  isTemplate : observed.isTemplate.isSome = version.atLeast 9 5

/-- Whether a call only asks a question and has nothing to do with the state that is kept. -/
def Call.isQuestion : Call → Bool
  | exists? _ => true
  | _ => false

/-- A call that was made: its exchanges and how it ended. -/
structure Episode where
  call : Call
  log : List Exchange
  outcome : Except Error Unit

namespace Episode

/-- Whether the state was set anew: the call has succeeded and was no mere question. -/
def refreshes (episode : Episode) : Bool := episode.outcome.isOk && !episode.call.isQuestion

/-- Whether an update has failed after it had renamed its database. -/
def StopsRenamed (episode : Episode) : Prop :=
  (∃ change, episode.call = .update change) ∧ episode.outcome.isOk = false ∧
    ∃ x ∈ episode.log, x.renames = true

theorem StopsRenamed.refreshes {episode : Episode} (h : episode.StopsRenamed) :
    episode.refreshes = false := by
  rw [Episode.refreshes, h.2.1, Bool.false_and]

end Episode

/-- What the state that is kept has to do with the calls made so far. -/
structure DatabaseState.Coherent (version : ServerVersion) (past : List Episode)
    (state : DatabaseState) : Prop where
  /-- Without an identity nothing is known. -/
  unidentified : state.id = none → state.observed = none
  complete : ∀ observed, state.observed = some observed → observed.IsComplete version
  /-- After a success the identity is what was observed. -/
  refreshed : ∀ earlier last, past = earlier ++ [last] → last.refreshes = true →
    state.id = state.observed.map ObservedDatabase.name
  /-- Later they differ only if an update has failed after it had renamed the database, and nothing
  has succeeded since. -/
  renamed : state.id ≠ state.observed.map ObservedDatabase.name →
    ∃ earlier episode later, past = earlier ++ episode :: later ∧ episode.StopsRenamed ∧
      ∀ next ∈ later, next.refreshes = false

namespace Reconciler

variable {σ : Type}

/-- Makes calls one after another, each with the state and on the connection that the one before has
left: what has happened, and the state that is kept in the end. -/
def history (r : Reconciler) (server : Server σ) :
    List Call → DatabaseState → Link σ → List Episode × DatabaseState
  | [], state, _ => ([], state)
  | call :: calls, state, link =>
    let transcript := (r.call state call).run server link
    let (later, last) := r.history server calls transcript.result.2 transcript.link
    (⟨call, transcript.exchanges, transcript.result.1⟩ :: later, last)

variable {r : Reconciler} {name : String} {spec : DatabaseSpec} {state : DatabaseState}
  {log : List Exchange}

/-! ## What one call leaves -/

theorem FlagRead.isSome {feature : Feature} {question : Query} {flag : Option Bool}
    (h : r.FlagRead feature question log (some flag)) :
    flag.isSome = r.version.supports feature := by
  generalize hfound : some flag = found at h
  cases h with
  | unsupported hsupports =>
    cases hfound
    exact hsupports.symm
  | @asked _ found hsupports =>
    cases found with
    | none => cases hfound
    | some b =>
      cases hfound
      exact hsupports.symm

theorem reportedTemplate_ne_empty (spec : DatabaseSpec) : reportedTemplate spec ≠ "" := by
  unfold reportedTemplate
  cases htemplate : spec.template.filter fun template => !template.isEmpty with
  | none => decide
  | some template =>
    have hnonempty := (Option.filter_eq_some_iff.mp htemplate).2
    simpa using hnonempty

theorem ReadBack.isComplete {observed : ObservedDatabase}
    (h : r.ReadBack name spec log (some observed)) : observed.IsComplete r.version := by
  cases h with
  | seen _ _ hallowing hmarking =>
    have hallow : r.version.supports .allowConnections = r.version.atLeast 9 5 :=
      r.version.supports_eq_atLeast .allowConnections
    have hmark : r.version.supports .isTemplate = r.version.atLeast 9 5 :=
      r.version.supports_eq_atLeast .isTemplate
    exact ⟨reportedTemplate_ne_empty spec, hallowing.isSome.trans hallow,
      hmarking.isSome.trans hmark⟩

/-- A state as a success leaves it: the database is gone, or it has just been observed. -/
def Refreshed (r : Reconciler) (state : DatabaseState) : Prop :=
  state = .empty ∨ ∃ observed, state = .ofObserved observed ∧ observed.IsComplete r.version

theorem refreshed_of_read {state' : DatabaseState}
    (h : (r.read state spec).Yields log (.ok state')) : r.Refreshed state' := by
  rcases readBack_of_read h with ⟨-, -, rfl⟩ | ⟨name, found, -, hread, rfl⟩
  · exact .inl rfl
  · cases found with
    | none => exact .inl rfl
    | some observed => exact .inr ⟨observed, rfl, hread.isComplete⟩

theorem refreshed_of_call {call : Call} {state' : DatabaseState}
    (h : (r.call state call).Yields log (.ok (), state')) (hcall : call.isQuestion = false) :
    r.Refreshed state' := by
  have h := steps_of_success h
  cases call with
  | create spec =>
    obtain ⟨_, _, _, rfl, -, h⟩ := Action.of_yields_bind_ok h
    obtain ⟨_, _, _, rfl, -, h⟩ := Action.of_yields_bind_ok h
    obtain ⟨_, _, _, rfl, -, h⟩ := Action.of_yields_bind_ok h
    exact refreshed_of_read h
  | read spec => exact refreshed_of_read h
  | adopt name =>
    obtain ⟨_, rest, found, rfl, hread, h⟩ := Action.of_yields_bind_ok h
    split at h
    · obtain ⟨-, hstate⟩ := (Action.yields_pure _ _).mp h
      cases hstate
      exact refreshed_of_read hread
    · cases h.2
  | update change =>
    obtain ⟨_, _, _, rfl, -, h⟩ := Action.of_yields_bind_ok h
    obtain ⟨_, _, _, rfl, -, h⟩ := Action.of_yields_bind_ok h
    exact refreshed_of_read h
  | delete spec =>
    obtain ⟨_, _, _, rfl, -, h⟩ := Action.of_yields_bind_ok h
    obtain ⟨-, hstate⟩ := (Action.yields_pure _ _).mp h
    exact .inl (Except.ok.inj hstate)
  | exists? name => cases hcall

/-- A failure leaves the state as it was, except for the new name that an update has given to its
database before it has failed. -/
theorem kept_of_failure {call : Call} {e : Error} {state' : DatabaseState}
    (h : (r.call state call).Yields log (.error e, state')) :
    state' = state ∨ Episode.StopsRenamed ⟨call, log, .error e⟩ ∧
      ∃ name, state' = { state with id := some name } := by
  cases call with
  | update change =>
    rcases kept_of_attempt h with ⟨hrenames, hchange, hkept⟩ | ⟨-, hsame⟩
    · refine .inr ⟨⟨⟨change, rfl⟩, rfl, hrenames⟩, change.desired.name, ?_⟩
      rw [← renamedState_of_renames hchange]
      exact hkept e rfl
    · exact .inl (hsame e rfl)
  | create | read | adopt | delete | exists? => exact .inl (kept_of_keeping h rfl)

/-- A mere question leaves the state as it was. -/
theorem kept_of_question {call : Call} {outcome : Except Error Unit} {state' : DatabaseState}
    (h : (r.call state call).Yields log (outcome, state')) (hcall : call.isQuestion = true) :
    state' = state := by
  cases call with
  | exists? name => exact kept_of_exists? h
  | create | read | adopt | update | delete => cases hcall

end Reconciler

/-! ## What a call preserves -/

namespace DatabaseState.Coherent

variable {version : ServerVersion} {past : List Episode} {state : DatabaseState}

theorem empty : Coherent version [] .empty where
  unidentified _ := rfl
  complete _ hobserved := nomatch hobserved
  refreshed earlier last hpast := by simp at hpast
  renamed hne := absurd rfl hne

/-- Any state that a success may leave is coherent, whatever was there before. -/
theorem of_refreshed {r : Reconciler} (h : r.Refreshed state) : Coherent r.version past state := by
  rcases h with rfl | ⟨observed, rfl, hcomplete⟩
  · exact ⟨fun _ => rfl, nofun, fun _ _ _ _ => rfl, fun hne => absurd rfl hne⟩
  · refine ⟨nofun, ?_, fun _ _ _ _ => rfl, fun hne => absurd rfl hne⟩
    rintro _ ⟨⟩
    exact hcomplete

/-- An episode that leaves the state alone does not refresh it. -/
theorem append_of_kept {episode : Episode} (h : Coherent version past state)
    (hepisode : episode.refreshes = false) : Coherent version (past ++ [episode]) state where
  unidentified := h.unidentified
  complete := h.complete
  refreshed earlier last hpast hlast := by
    obtain ⟨-, hlast'⟩ := List.append_inj' hpast rfl
    cases hlast'
    cases hepisode.symm.trans hlast
  renamed hne := by
    obtain ⟨earlier, cause, later, rfl, hcause, hlater⟩ := h.renamed hne
    refine ⟨earlier, cause, later ++ [episode], by simp, hcause, ?_⟩
    exact List.forall_mem_append.mpr ⟨hlater, List.forall_mem_singleton.mpr hepisode⟩

/-- An update that stops after a renaming explains why the identity is not what was observed. -/
theorem append_of_stopsRenamed {episode : Episode} (h : Coherent version past state)
    (hepisode : episode.StopsRenamed) (name : String) :
    Coherent version (past ++ [episode]) { state with id := some name } where
  unidentified hid := nomatch hid
  complete := h.complete
  refreshed earlier last hpast hlast := by
    obtain ⟨-, hlast'⟩ := List.append_inj' hpast rfl
    cases hlast'
    cases hepisode.refreshes.symm.trans hlast
  renamed _ := ⟨past, episode, [], rfl, hepisode, List.forall_mem_nil _⟩

/-- Every call leaves a coherent state if it starts with one. -/
theorem call {r : Reconciler} {call : Call} {log : List Exchange}
    {result : Except Error Unit × DatabaseState} (h : Coherent r.version past state)
    (hy : (r.call state call).Yields log result) :
    Coherent r.version (past ++ [⟨call, log, result.1⟩]) result.2 := by
  obtain ⟨outcome, state'⟩ := result
  cases hcall : call.isQuestion with
  | true =>
    obtain rfl := Reconciler.kept_of_question hy hcall
    exact h.append_of_kept (by simp [Episode.refreshes, hcall])
  | false =>
    cases outcome with
    | ok _ => exact of_refreshed (Reconciler.refreshed_of_call hy hcall)
    | error e =>
      rcases Reconciler.kept_of_failure hy with rfl | ⟨hstops, name, rfl⟩
      · exact h.append_of_kept rfl
      · exact h.append_of_stopsRenamed hstops name

/-- The state stays coherent over any number of calls. -/
theorem history {σ : Type} {r : Reconciler} (server : Server σ) (calls : List Call) (link : Link σ)
    (h : Coherent r.version past state) :
    Coherent r.version (past ++ (r.history server calls state link).1)
      (r.history server calls state link).2 := by
  induction calls generalizing past state link with
  | nil => simpa [Reconciler.history] using h
  | cons call calls ih =>
    have hcall := h.call (Program.yields_run server (r.call state call) link)
    simpa [Reconciler.history] using ih ((r.call state call).run server link).link hcall

end DatabaseState.Coherent

/-- Whatever calls are made from the beginning on, whatever is asked of them, and however the
connection behaves, the state that is kept is coherent with what has happened. -/
theorem Reconciler.lifecycle_coherent {σ : Type} (r : Reconciler) (calls : List Call)
    (server : Server σ) (link : Link σ) :
    let (past, state) := r.history server calls .empty link
    state.Coherent r.version past := by
  exact DatabaseState.Coherent.empty.history server calls link

end PgConverge
