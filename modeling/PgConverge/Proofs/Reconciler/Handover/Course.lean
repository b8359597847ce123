import PgConverge.Proofs.Elevation.Privilege
import PgConverge.Proofs.Reconciler.Problem
import PgConverge.Proofs.Reconciler.ReadBack
import PgConverge.Proofs.Reconciler.Scope

/-!
# The course of a handover

Every log that handing over objects can produce, with the outcome that it means, and the place of the
handover in an update: it comes right after the renaming, and the rest only follows if it succeeds.

## Main definitions

* `Reconciler.Reassigned`, `Reconciler.Concluded` — the ways in which a handover can go and end.
* `Action.StartsWith` — an action starts with another one and goes on only if that succeeds.

## Main statements

* `Reconciler.reassigned_of_yields` — there are no other ways.
* `Reconciler.course_of_handingOver` — an update that is to hand objects over starts with that.
-/

namespace PgConverge

namespace Request

/-- Whether a request hands over what a role owns. -/
def reassigns : Request → Bool
  | execute _ (.reassignOwned ..) => true
  | _ => false

/-- Whether a request hands over what a role owns, or opens a session in a named database for it. -/
def handsOver : Request → Bool
  | execute _ (.reassignOwned ..) | begin (some _) => true
  | _ => false

theorem reassigns_of_handsOver {request : Request} (h : request.handsOver = false) :
    request.reassigns = false := by
  cases request with
  | execute _ statement => cases statement <;> first | rfl | cases h
  | _ => rfl

end Request

theorem Elevation.Entered.reassigns_eq_false {principal group : String} {database : Option String}
    {log : List Exchange} {outcome : Except Error Elevation}
    (h : Entered principal group database log outcome) :
    ∀ x ∈ log, x.request.reassigns = false :=
  h.forall_request (P := (Request.reassigns · = false)) rfl (fun _ => rfl) rfl rfl fun _ => rfl

/-! ## The ways of a handover -/

namespace Reconciler

variable {r : Reconciler} {principal name newOwner : String} {log : List Exchange}

/-- The ways in which a handover is concluded after the answer to its statement. -/
inductive Concluded (elevation : Elevation) :
    Except Error UInt64 → List Exchange → Except Error Unit → Prop where
  | rolledBack {revoking : List Exchange} {revoked : Except Error Unit} (e : Error)
      (closed : Except Error Unit) : elevation.grant.Revoked revoking revoked →
      Concluded elevation (.error e) (revoking ++ [⟨.rollback elevation.session, closed⟩])
        (.error (e.inContext "error reassigning objects to new owner"))
  | committed {revoking : List Exchange} {revoked : Except Error Unit} (affected : UInt64)
      (committed : Except Error Unit) : elevation.grant.Revoked revoking revoked →
      Concluded elevation (.ok affected) (⟨.commit elevation.session, committed⟩ :: revoking)
        (withCleanup (withCleanup (.ok ()) (committed.mapError
          (Error.inContext "error committing role lock transaction"))) revoked)

theorem concluded_of_yields {elevation : Elevation} {answer : Except Error UInt64}
    {outcome : Except Error Unit}
    (h : (elevation.exitCommitting ((answer.mapError
      (Error.inContext "error reassigning objects to new owner")).map fun _ => ())).Yields log
        outcome) : Concluded elevation answer log outcome := by
  cases answer with
  | error e =>
    obtain ⟨revoking, revoked, closed, hr, rfl, rfl⟩ := Elevation.left_of_yields h
    simpa only [Except.mapError, Except.map, withCleanup_error] using
      Concluded.rolledBack e closed hr
  | ok affected =>
    obtain ⟨committed, revoking, revoked, hr, rfl, rfl⟩ := Elevation.committed_of_yields h
    exact .committed affected committed hr

theorem Concluded.forall_request {P : Request → Prop} {elevation : Elevation}
    {answer : Except Error UInt64} {outcome : Except Error Unit}
    (h : Concluded elevation answer log outcome)
    (hrevoke :
      P (.execute mainSession (.revokeRole elevation.grant.group elevation.grant.member)))
    (hcommit : P (.commit elevation.session)) (hrollback : P (.rollback elevation.session)) :
    ∀ x ∈ log, P x.request := by
  cases h with
  | rolledBack e closed hr =>
    exact List.forall_mem_append.mpr
      ⟨hr.forall_request hrevoke, List.forall_mem_singleton.mpr hrollback⟩
  | committed affected committed hr =>
    exact List.forall_mem_cons.mpr ⟨hcommit, hr.forall_request hrevoke⟩

/-- A handover succeeds only if its statement, the commit and the revocation do. -/
theorem Concluded.of_ok {elevation : Elevation} {answer : Except Error UInt64}
    (h : Concluded elevation answer log (.ok ())) :
    ∃ affected revoking, answer = .ok affected ∧
      log = ⟨.commit elevation.session, .ok ()⟩ :: revoking ∧
      elevation.grant.Revoked revoking (.ok ()) := by
  generalize hok : (Except.ok () : Except Error Unit) = outcome at h
  cases h with
  | rolledBack => cases hok
  | @committed revoking revoked affected committed hr =>
    match committed, revoked with
    | .error e, _ => simp [Except.mapError, withCleanup] at hok
    | .ok _, .error e => simp [Except.mapError, withCleanup] at hok
    | .ok _, .ok _ => exact ⟨affected, revoking, rfl, rfl, hr⟩

/-- The ways in which what the current owner of a database owns in it is handed over to a new
owner. -/
inductive Reassigned (principal name newOwner : String) :
    List Exchange → Except Error Unit → Prop where
  | unknown {answer : Except Error (Option Row)} {e : Error} :
      Catalog.decoded "error reading database" Row.databaseOwner answer = .error e →
      Reassigned principal name newOwner [⟨.query mainSession (.databaseOwner name), answer⟩]
        (.error e)
  | missing :
      Reassigned principal name newOwner [⟨.query mainSession (.databaseOwner name), .ok none⟩]
        (.error (.notFound name))
  | kept {row : Row} {shown : String} : row.databaseOwner = .ok (shown, newOwner) →
      Reassigned principal name newOwner
        [⟨.query mainSession (.databaseOwner name), .ok (some row)⟩] (.ok ())
  | unentered {row : Row} {shown owner : String} {entering : List Exchange} {e : Error} :
      row.databaseOwner = .ok (shown, owner) → owner ≠ newOwner →
      Elevation.Entered principal owner (some name) entering (.error e) →
      Reassigned principal name newOwner
        (⟨.query mainSession (.databaseOwner name), .ok (some row)⟩ :: entering) (.error e)
  | handed {row : Row} {shown owner : String} {entering leaving : List Exchange}
      {elevation : Elevation} {answer : Except Error UInt64} {outcome : Except Error Unit} :
      row.databaseOwner = .ok (shown, owner) → owner ≠ newOwner →
      Elevation.Entered principal owner (some name) entering (.ok elevation) →
      Concluded elevation answer leaving outcome →
      Reassigned principal name newOwner
        (⟨.query mainSession (.databaseOwner name), .ok (some row)⟩ :: (entering ++
          ⟨.execute elevation.session (.reassignOwned owner newOwner), answer⟩ :: leaving)) outcome

theorem reassigned_of_yields {outcome : Except Error Unit}
    (h : (r.reassignOwned name newOwner).Yields log outcome) :
    Reassigned r.principal name newOwner log outcome := by
  rcases (Action.yields_bind _ _ _).mp h with ⟨e, hask, rfl⟩ | ⟨asked, rest, found, rfl, hask, h⟩
  · obtain ⟨answer, rfl, he⟩ := Catalog.yields_lookup.mp hask
    exact .unknown he.symm
  rcases Catalog.found_of_lookup hask with _ | ⟨row, ⟨shown, owner⟩, hrow⟩
  · obtain ⟨rfl, rfl⟩ := h
    exact .missing
  dsimp only at h
  split at h
  · rename_i hsame
    obtain ⟨rfl, rfl⟩ := (Action.yields_pure _ _).mp h
    exact .kept (hrow.trans (by rw [beq_iff_eq.mp hsame]))
  rename_i hsame
  have hne : owner ≠ newOwner := fun heq => hsame (beq_iff_eq.mpr heq)
  rcases (Action.yields_bind _ _ _).mp h with
    ⟨e, he, rfl⟩ | ⟨entering, rest, elevation, rfl, he, h⟩
  · exact .unentered hrow hne (Elevation.entered_of_yields he)
  obtain ⟨working, leaving, o, rfl, hw, hl⟩ := (Action.yields_attempt_bind _ _ _).mp h
  obtain ⟨answer, ha, rfl⟩ := (Action.yields_inContext _ _ _).mp hw
  obtain rfl := (Session.yields_execute _ _ _).mp ha
  exact .handed hrow hne (Elevation.entered_of_yields he) (concluded_of_yields hl)

/-- Whatever comes of it, a handover begins with the question for the owner. -/
theorem Reassigned.exists_asked {outcome : Except Error Unit}
    (h : Reassigned principal name newOwner log outcome) :
    ∃ answer rest, log = ⟨.query mainSession (.databaseOwner name), answer⟩ :: rest := by
  cases h with
  | _ => exact ⟨_, _, rfl⟩

/-- A handover succeeds if the new owner is the one that is shown, or else only if its statement, the
commit and the revocation of a grant do. -/
theorem Reassigned.of_ok (h : Reassigned principal name newOwner log (.ok ())) :
    (ShowsOwner log name newOwner ∧ ∀ x ∈ log, x.request.reassigns = false) ∨
      ∃ owner own begun affected revoking, log = begun ++
          ⟨.execute own (.reassignOwned owner newOwner), .ok affected⟩ ::
          ⟨.commit own, .ok ()⟩ :: revoking ∧
        ∀ n, (⟨.execute mainSession (.grantRole owner principal), .ok n⟩ : Exchange) ∈ begun →
          ∃ m, revoking = [⟨.execute mainSession (.revokeRole owner principal), .ok m⟩] := by
  generalize hok : (Except.ok () : Except Error Unit) = outcome at h
  cases h with
  | @kept row shown hrow =>
    exact .inl ⟨⟨row, shown, List.mem_singleton_self _, hrow⟩, List.forall_mem_singleton.mpr rfl⟩
  | @handed row shown owner entering leaving elevation answer _ hrow _ hentered hconcluded =>
    subst hok
    obtain ⟨affected, revoking, rfl, rfl, hrevoked⟩ := hconcluded.of_ok
    refine .inr ⟨owner, elevation.session, ⟨.query mainSession (.databaseOwner name),
      .ok (some row)⟩ :: entering, affected, revoking, rfl, fun n hmem => ?_⟩
    obtain ⟨answer, rfl, hanswer⟩ := hentered.exists_revocation
      ((List.mem_cons.mp hmem).resolve_left fun hasked => by cases hasked) hrevoked
    obtain ⟨m, rfl⟩ := hanswer rfl
    exact ⟨m, rfl⟩
  | _ => cases hok

end Reconciler

/-! ## The course of an update -/

/-- Whether nothing but names of databases is changed in a log. -/
def OnlyRenames (log : List Exchange) : Prop :=
  ∀ x ∈ log, ∃ name newName, x.request = .execute mainSession (.renameDatabase name newName)

theorem OnlyRenames.forall_request {log : List Exchange} {P : Request → Prop} (h : OnlyRenames log)
    (hrename : ∀ name newName, P (.execute mainSession (.renameDatabase name newName))) :
    ∀ x ∈ log, P x.request := by
  intro x hx
  obtain ⟨name, newName, hrequest⟩ := h x hx
  exact hrequest ▸ hrename name newName

theorem OnlyRenames.handsOver_eq_false {log : List Exchange} (h : OnlyRenames log) :
    ∀ x ∈ log, x.request.handsOver = false :=
  h.forall_request (P := (Request.handsOver · = false)) fun _ _ => rfl

theorem OnlyRenames.isWork {log : List Exchange} (h : OnlyRenames log) :
    ∀ x ∈ log, x.request.isWork = true :=
  h.forall_request (P := (Request.isWork · = true)) fun _ _ => rfl

theorem OnlyRenames.isWork_concat {log : List Exchange} (h : OnlyRenames log) {name : String}
    (answer : Except Error (Option Row)) :
    ∀ x ∈ log ++ [⟨.query mainSession (.databaseOwner name), answer⟩], x.request.isWork = true :=
  List.forall_mem_append.mpr ⟨h.isWork, List.forall_mem_singleton.mpr rfl⟩

namespace Action

variable {α β γ : Type}

/-- Whether an action starts with another one, fails with it and does nothing more then, and else
makes only requests with a property. -/
def StartsWith (P : Request → Prop) (first : Action α) (action : Action β) : Prop :=
  ∀ log outcome, action.Yields log outcome →
    ∃ opening o rest, log = opening ++ rest ∧ first.Yields opening o ∧
      (∀ e, o = .error e → rest = [] ∧ outcome = .error e) ∧ ∀ x ∈ rest, P x.request

namespace StartsWith

variable {P : Request → Prop}

theorem self (action : Action α) : StartsWith P action action := by
  intro log outcome hy
  exact ⟨log, outcome, [], (List.append_nil log).symm, hy, fun e he => ⟨rfl, he⟩,
    List.forall_mem_nil _⟩

theorem bind {first : Action α} {action : Action β} {f : β → Action γ}
    (h : StartsWith P first action) (hf : ∀ b, Sends P (f b)) :
    StartsWith P first (action >>= f) := by
  intro log outcome hy
  rcases (yields_bind action f outcome).mp hy with ⟨e, ha, rfl⟩ | ⟨front, back, b, rfl, ha, hb⟩
  · obtain ⟨opening, o, rest, rfl, ho, he, hrest⟩ := h log _ ha
    refine ⟨opening, o, rest, rfl, ho, fun e' he' => ?_, hrest⟩
    obtain ⟨hnil, herror⟩ := he e' he'
    cases herror
    exact ⟨hnil, rfl⟩
  · obtain ⟨opening, o, rest, rfl, ho, he, hrest⟩ := h front _ ha
    refine ⟨opening, o, rest ++ back, List.append_assoc .., ho, fun e he' => ?_, ?_⟩
    · cases (he e he').2
    · exact List.forall_mem_append.mpr ⟨hrest, hf b back outcome hb⟩

end StartsWith

end Action

namespace Reconciler

open PgConverge.Action (Sends StartsWith)

variable {r : Reconciler} {state : DatabaseState} {change : SpecChange} {name newOwner : String}

/-- An elevation in the database of the main session hands nothing over. -/
theorem sends_setOwner (owner : String) :
    Sends (fun request => request.handsOver = false) (r.setOwner name owner) := by
  refine .elevated (fun request hmakes => ?_) (.run (by rfl) _)
  cases hmakes with
  | _ => rfl

/-- Changes the attributes in which two specs differ, except the name and the owner. -/
def changeSettings (r : Reconciler) (name : String) (change : SpecChange) : Action Unit := do
  .onlyIf (change.differs .tablespace) <|
    run "error updating database tablespace" (.moveTablespace name change.desired.tablespace)
  .onlyIf (change.differs .connectionLimit) <|
    run "error updating database connection limit"
      (.setConnectionLimit name change.desired.connectionLimit)
  .onlyIf (change.differs .allowConnections)
    (r.setAllowConnections name change.desired.allowConnections)
  .onlyIf (change.differs .isTemplate) (r.setIsTemplate name change.desired.isTemplate)

theorem changeAttributes_eq (r : Reconciler) (name : String) (change : SpecChange) :
    r.changeAttributes name change = (do
      .onlyIf (change.differs .owner) (r.changeOwner name change.desired)
      r.changeSettings name change) := rfl

theorem sends_changeSettings :
    Sends (fun request => request.handsOver = false) (r.changeSettings name change) := by
  refine .bind (.onlyIf fun _ => .run ?_ _) fun _ => .bind (.onlyIf fun _ => .run (by rfl) _)
    fun _ => .bind (.onlyIf fun _ => .setAllowConnections fun _ => by rfl) fun _ =>
    .onlyIf fun _ => .setIsTemplate fun _ => by rfl
  unfold Statement.moveTablespace
  split <;> rfl

theorem sends_read (state : DatabaseState) (spec : DatabaseSpec) :
    Sends (fun request => request.handsOver = false) (r.read state spec) :=
  .read (fun _ _ request hreads => by cases hreads <;> rfl) spec

/-- An update that hands objects over begins with that, once its database has its name. -/
theorem startsWith_converge (hover : change.handsOver = true)
    (howner : change.desired.requestedOwner = some newOwner) :
    StartsWith (fun request => request.handsOver = false)
      (r.reassignOwned (finalName state change) newOwner) (r.converge state change) := by
  simp only [SpecChange.handsOver, Bool.and_eq_true] at hover
  obtain ⟨⟨hdiffers, hobjects⟩, -⟩ := hover
  unfold converge
  rw [changeAttributes_eq, hdiffers]
  refine StartsWith.bind (StartsWith.bind ?_ fun _ => sends_changeSettings) fun _ => sends_read _ _
  unfold changeOwner
  rw [howner]
  dsimp only
  rw [hobjects]
  exact (StartsWith.self _).bind fun _ => sends_setOwner newOwner

/-- An update that hands nothing over sends nothing of it. -/
theorem sends_of_not_handsOver (hover : change.handsOver = false) :
    Sends (fun request => request.handsOver = false) (r.steps state (.update change)) := by
  refine Sends.bind (.prepare fun _ => rfl) fun _ =>
    .bind (.bind ?_ fun _ => sends_changeSettings) fun _ => sends_read _ _
  refine .onlyIf fun hdiffers => ?_
  unfold changeOwner
  split
  · exact .pure ()
  · rename_i owner howner
    have hobjects : change.desired.reassignObjects = false := by
      simpa [SpecChange.handsOver, hdiffers, howner] using hover
    rw [hobjects]
    exact .bind (.onlyIf fun htrue => by cases htrue) fun _ => sends_setOwner owner

/-- An update that is to hand objects over fails before it does anything but rename its database, or
it goes on with the handover, and with the rest if that succeeds. -/
theorem course_of_handingOver {log : List Exchange} {outcome : Except Error DatabaseState}
    (hover : change.handsOver = true) (howner : change.desired.requestedOwner = some newOwner)
    (h : (r.steps state (.update change)).Yields log outcome) :
    ∃ first later, log = first ++ later ∧ OnlyRenames first ∧
      ((later = [] ∧ ∃ e, outcome = .error e) ∨ ∃ reassigning o rest,
        later = reassigning ++ rest ∧
        (r.reassignOwned (finalName state change) newOwner).Yields reassigning o ∧
        (∀ e, o = .error e → rest = [] ∧ outcome = .error e) ∧
        ∀ x ∈ rest, x.request.handsOver = false) := by
  have hprepare : Sends (fun request => ∃ name newName, request = .execute mainSession
      (.renameDatabase name newName)) (prepare state change) := .prepare fun _ => ⟨_, _, rfl⟩
  rcases (Action.yields_bind _ _ _).mp h with ⟨e, hp, rfl⟩ | ⟨first, later, _, rfl, hp, hc⟩
  · exact ⟨log, [], (List.append_nil log).symm, hprepare _ _ hp, .inl ⟨rfl, e, rfl⟩⟩
  · exact ⟨first, later, rfl, hprepare _ _ hp,
      .inr (startsWith_converge hover howner later outcome hc)⟩

end Reconciler

end PgConverge
