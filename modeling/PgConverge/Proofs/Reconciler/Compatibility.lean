import PgConverge.Connection.Script
import PgConverge.Proofs.Reconciler.Reporting
import PgConverge.Proofs.Reconciler.Wording
import PgConverge.Proofs.Sql.Vocabulary

/-!
# Calls and the version of a server

All that a call sends suits the version of the server. What a spec asks for beyond it is refused and
not left out.

## Main definitions

* `Reconciler.callAll` — several calls one after another.
* `Reconciler.RefusesFlags` — what a server lacks is refused.

## Main statements

* `Reconciler.fits_version` — all that is sent suits the server, and the flags that a server lacks
  are refused.
-/

namespace PgConverge

open Sql (Fits)

/-! ## What is sent -/

section Sent

variable {version : ServerVersion}

theorem ServerVersion.Reads.fits {name : String} {request : Request}
    (h : version.Reads name request) : Fits version request.lexemes := by
  cases h with
  | owner => exact Query.fits_words (Query.databaseOwner "").wordsOf (by decide)
  | settings => exact Query.fits_words (Query.databaseSettings "").wordsOf (by decide)
  | allowConnections shown hsupports =>
    rw [version.supports_eq_atLeast] at hsupports
    exact Query.fits_flag hsupports (Query.databaseAllowConnections "").wordsOf (by decide)
  | isTemplate shown hsupports =>
    rw [version.supports_eq_atLeast] at hsupports
    exact Query.fits_flag hsupports (Query.databaseIsTemplate "").wordsOf (by decide)

theorem Elevation.Makes.fits {principal group : String} {database : Option String}
    {request : Request} (h : Elevation.Makes principal group database request) :
    Fits version request.lexemes := by
  cases h with
  | grant => exact Statement.fits_pair _ _ (by decide) (by decide)
  | revoke => exact Statement.fits_pair _ _ (by decide) (by decide)
  | begin => exact Query.fits_words _ (by decide)
  | lock => exact Query.fits_words (Query.lockRole "").wordsOf (by decide)
  | membership => exact Query.fits_words (Query.roleMembership "" "").wordsOf (by decide)
  | commit => exact Query.fits_words _ (by decide)
  | rollback => exact Query.fits_words _ (by decide)

end Sent

theorem Call.Makes.fits {r : Reconciler} {state : DatabaseState} {call : Call}
    {past : List Exchange} {request : Request} (h : call.Makes r state past request) :
    Fits r.version request.lexemes := by
  have hversion {feature : Feature} (hsupports : r.version.supports feature = true) :
      r.version.atLeast feature.since.major feature.since.minor = true := by
    rwa [r.version.supports_eq_atLeast] at hsupports
  cases h with
  | elevated _ hmakes => exact hmakes.fits
  | handingOver _ _ hmakes => exact hmakes.fits
  | reads _ hreads => exact hreads.fits
  | create spec => exact DatabaseDefinition.fits_ofSpec spec r.principal r.version
  | rename => exact Statement.fits_alteration _ (by decide) (Sql.avoids_name _)
  | setOwner => exact Statement.fits_alteration _ (by decide) (Sql.avoids_name _)
  | handOver => exact Statement.fits_pair _ _ (by decide) (by decide)
  | moveTablespace => exact Statement.fits_moveTablespace _ _
  | setConnectionLimit => exact Statement.fits_alteration _ (by decide) (Sql.avoids_ofInt32 _)
  | setAllowConnections _ _ hsupports =>
    exact Statement.fits_flag (hversion hsupports) _ (by decide) _
  | setIsTemplate _ _ hsupports => exact Statement.fits_flag (hversion hsupports) _ (by decide) _
  | clearTemplate _ _ hsupports => exact Statement.fits_flag (hversion hsupports) _ (by decide) _
  | block _ _ hsupports => exact Statement.fits_flag (hversion hsupports) _ (by decide) _
  | askTemplate _ _ hsupports =>
    exact Query.fits_flag (hversion hsupports) (Query.databaseIsTemplate "").wordsOf (by decide)
  | terminate spec => exact Statement.fits_terminateSessions (state.id.getD spec.name)
  | drop => exact Statement.fits_drop _
  | askOwner => exact Query.fits_words (Query.databaseOwner "").wordsOf (by decide)
  | askExists => exact Query.fits_words (Query.databaseExists "").wordsOf (by decide)
  | beginReadOnly => exact Query.fits_words _ (by decide)
  | rollback => exact Query.fits_words _ (by decide)

/-! ## What is refused -/

namespace Reconciler

variable {r : Reconciler} {state : DatabaseState} {log : List Exchange}

/-- Makes calls one after another, each on a state of its own. -/
def callAll (r : Reconciler) (calls : List (DatabaseState × Call)) :
    Program (List (Except Error Unit × DatabaseState)) :=
  calls.mapM fun (state, call) => r.call state call

/-- What holds of all exchanges of each call holds of all exchanges. -/
theorem forall_of_callAll {P : Exchange → Prop} {calls : List (DatabaseState × Call)}
    {results : List (Except Error Unit × DatabaseState)}
    (hP : ∀ state call log result, (state, call) ∈ calls → (r.call state call).Yields log result →
      ∀ x ∈ log, P x)
    (h : (r.callAll calls).Yields log results) : ∀ x ∈ log, P x := by
  induction calls generalizing log results with
  | nil =>
    obtain ⟨rfl, -⟩ := h
    exact List.forall_mem_nil _
  | cons first calls ih =>
    rw [callAll, List.mapM_cons] at h
    obtain ⟨called, rest, result, rfl, hcall, h⟩ := (Program.yields_bind _ _ _ _).mp h
    obtain ⟨others, hothers, -⟩ := (Program.yields_bind_done _ _ _ _).mp h
    refine List.forall_mem_append.mpr ⟨hP _ _ _ _ List.mem_cons_self hcall, ?_⟩
    exact ih (fun state call log result hmem => hP state call log result
      (List.mem_cons_of_mem first hmem)) hothers

theorem makes_of_callAll {calls : List (DatabaseState × Call)}
    {results : List (Except Error Unit × DatabaseState)}
    (h : (r.callAll calls).Yields log results) :
    ∀ x ∈ log, ∃ state call past, (state, call) ∈ calls ∧ call.Makes r state past x.request := by
  refine forall_of_callAll (fun state call log result hmem hcall x hx => ?_) h
  obtain ⟨before, after, rfl⟩ := List.append_of_mem hx
  exact ⟨state, call, _, hmem, (r.orderly_call state hcall).of_split⟩

theorem requireSupport_of_lacking {spec : DatabaseSpec}
    (hallow : r.version.supports .allowConnections = false)
    (htemplate : r.version.supports .isTemplate = false)
    (h : spec.allowConnections = false ∨ spec.isTemplate = true) :
    ∃ e, r.requireSupport spec = .error e := by
  unfold requireSupport ServerVersion.require
  rw [hallow, htemplate]
  cases hflag : spec.allowConnections with
  | false => exact ⟨_, rfl⟩
  | true =>
    have hflag' : spec.isTemplate = true := h.resolve_left (by simp [hflag])
    rw [hflag']
    exact ⟨_, rfl⟩

/-- A database that the server cannot create is refused before anything is sent. -/
theorem create_of_unsupported {spec : DatabaseSpec} {e : Error} (hcheck : spec.check = .ok ())
    (h : r.requireSupport spec = .error e) :
    r.call state (.create spec) = .done (.error e, state) := by
  have hcreate : r.create spec = throw e := by
    rw [create, hcheck, h]
    rfl
  rw [call, hcreate]
  rfl

/-- A flag changes only where the server has it. -/
theorem supports_of_changeAttributes {name : String} {change : SpecChange}
    (h : (r.changeAttributes name change).Yields log (.ok ())) :
    (change.differs .allowConnections = true → r.version.supports .allowConnections = true) ∧
      (change.differs .isTemplate = true → r.version.supports .isTemplate = true) := by
  obtain ⟨_, _, _, -, -, h⟩ := Action.of_yields_bind_ok h
  obtain ⟨_, _, _, -, -, h⟩ := Action.of_yields_bind_ok h
  obtain ⟨_, _, _, -, -, h⟩ := Action.of_yields_bind_ok h
  obtain ⟨_, _, _, -, hallow, htemplate⟩ := Action.of_yields_bind_ok h
  constructor
  · intro hdiffers
    rw [hdiffers] at hallow
    obtain ⟨_, _, _, -, hrequire, -⟩ := Action.of_yields_bind_ok hallow
    exact ServerVersion.supports_of_require hrequire.2.symm
  · intro hdiffers
    rw [hdiffers] at htemplate
    obtain ⟨_, _, _, -, hrequire, -⟩ := Action.of_yields_bind_ok htemplate
    exact ServerVersion.supports_of_require hrequire.2.symm

theorem supports_of_update {change : SpecChange} {result : Except Error Unit × DatabaseState}
    (h : (r.update state change).Yields log result) (hok : result.1 = .ok ()) :
    (change.differs .allowConnections = true → r.version.supports .allowConnections = true) ∧
      (change.differs .isTemplate = true → r.version.supports .isTemplate = true) := by
  rcases yields_update.mp h with ⟨e, -, rfl⟩ | ⟨_, _, outcome, -, -, hconverge, rfl⟩
  · cases hok
  · cases outcome with
    | error e => cases hok
    | ok _ =>
      obtain ⟨_, _, _, -, hchange, -⟩ := Action.of_yields_bind_ok hconverge
      exact supports_of_changeAttributes hchange

/-- Whether what a server before 9.5 lacks is refused and not left out. -/
structure RefusesFlags (r : Reconciler) : Prop where
  /-- A database with a flag that is not the default is not created, and nothing is sent for it. -/
  create : ∀ {σ : Type} (spec : DatabaseSpec) (state : DatabaseState) (server : Server σ)
      (link : Link σ), spec.check = .ok () →
    spec.allowConnections = false ∨ spec.isTemplate = true →
    ((r.call state (.create spec)).run server link).exchanges = [] ∧
      ∃ e, ((r.call state (.create spec)).run server link).result = (.error e, state) ∧
        e.category = .unsupportedFeature
  /-- An update that changes a flag does not succeed. -/
  update : ∀ {σ : Type} (change : SpecChange) (state : DatabaseState) (server : Server σ)
      (link : Link σ), change.prior.allowConnections ≠ change.desired.allowConnections ∨
        change.prior.isTemplate ≠ change.desired.isTemplate →
    ((r.call state (.update change)).run server link).result.1 ≠ .ok ()

theorem refusesFlags (hversion : r.version.atLeast 9 5 = false) : r.RefusesFlags where
  create := by
    intro σ spec state server link hcheck hflags
    have hallow : r.version.supports .allowConnections = false :=
      (r.version.supports_eq_atLeast .allowConnections).trans hversion
    have htemplate : r.version.supports .isTemplate = false :=
      (r.version.supports_eq_atLeast .isTemplate).trans hversion
    obtain ⟨e, he⟩ := requireSupport_of_lacking hallow htemplate hflags
    rw [create_of_unsupported hcheck he]
    exact ⟨rfl, e, rfl, category_of_requireSupport he⟩
  update := by
    intro σ change state server link hflags hok
    have hy := Program.yields_run server (r.update state change) link
    obtain ⟨hallow, htemplate⟩ := supports_of_update hy hok
    rw [r.version.supports_eq_atLeast] at hallow htemplate
    rcases hflags with hne | hne
    · cases hversion.symm.trans (hallow (bne_iff_ne.mpr hne))
    · cases hversion.symm.trans (htemplate (bne_iff_ne.mpr hne))

/-- Whatever calls are made and whatever the connection answers, all that is sent suits the version
of the server, and the flags that it lacks are refused. -/
theorem fits_version (r : Reconciler) :
    (∀ {σ : Type} (calls : List (DatabaseState × Call)) (server : Server σ) (link : Link σ),
      ∀ x ∈ ((r.callAll calls).run server link).exchanges,
        ∃ tokens, Sql.lex x.request.sql.toList = some tokens ∧ Fits r.version tokens) ∧
    (r.version.atLeast 9 5 = false → r.RefusesFlags) := by
  refine ⟨fun calls server link x hx => ?_, refusesFlags⟩
  obtain ⟨state, call, past, -, hmakes⟩ :=
    makes_of_callAll (Program.yields_run server (r.callAll calls) link) x hx
  exact ⟨x.request.lexemes, Request.lex_sql hmakes.isWorded, hmakes.fits⟩

/-- A template is not created on a server that cannot mark one. -/
theorem fits_version_before_flags :
    let spec := { DatabaseSpec.ofName "a" with isTemplate := true }
    let transcript := (call ⟨⟨9, 4, 0⟩, "app"⟩ .empty (.create spec)).run Script.server (.start [])
    spec.check = .ok () ∧ transcript.exchanges = [] ∧
      ∃ e, transcript.result = (.error e, .empty) ∧ e.category = .unsupportedFeature := by
  intro spec transcript
  have hcheck : spec.check = .ok () := by
    subst spec
    rfl
  have hrefuses := (fits_version ⟨⟨9, 4, 0⟩, "app"⟩).2 rfl
  exact ⟨hcheck, hrefuses.create spec .empty Script.server (.start []) hcheck (.inr rfl)⟩

end Reconciler

end PgConverge
