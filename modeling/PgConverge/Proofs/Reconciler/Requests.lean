import PgConverge.Proofs.Elevation.Protocol
import PgConverge.Reconciler

/-!
# The requests of an operation

Rules for what the steps of an operation may ask of the connection: a property of requests holds of
all that a step sends if it holds of the few kinds of requests that the step is made of.

## Main definitions

* `Query.readsDatabase` — the questions that read a database.
* `ServerVersion.Reads` — the requests that read the database of a name on a server of a version.
* `Elevation.Makes` — the requests for an elevation of one role to one group.
* `Elevation.Requests` — a property of every request that is made for the sake of an elevation.
* `Reconciler.Elevates` — the requests that are made to act with the privileges of an owner.

## Main statements

* `Catalog.yields_lookup` — a question that is asked and the row that is decoded.
* `Action.Sends.read`, `Action.Sends.elevated`, … — the requests of the steps.
* `Reconciler.course_of_asOwner` — what stands around privileged work.
-/

namespace PgConverge

/-- Whether a question is asked to read the attributes of a database. -/
def Query.readsDatabase : Query → Bool
  | databaseOwner _ | databaseSettings _ | databaseAllowConnections _ | databaseIsTemplate _ => true
  | _ => false

/-- The requests that read the database of a name on a server of a version. Only the first one is
made under that name, and the others under the name that the catalog shows. -/
inductive ServerVersion.Reads (version : ServerVersion) (name : String) : Request → Prop where
  | owner : Reads version name (.query mainSession (.databaseOwner name))
  | settings (shown : String) : Reads version name (.query mainSession (.databaseSettings shown))
  | allowConnections (shown : String) : version.supports .allowConnections = true →
      Reads version name (.query mainSession (.databaseAllowConnections shown))
  | isTemplate (shown : String) : version.supports .isTemplate = true →
      Reads version name (.query mainSession (.databaseIsTemplate shown))

theorem ServerVersion.Reads.forall_query {version : ServerVersion} {name : String}
    {P : Request → Prop} {request : Request} (h : version.Reads name request)
    (hP : ∀ {question : Query}, question.readsDatabase = true → P (.query mainSession question)) :
    P request := by
  cases h with
  | _ => exact hP rfl

/-- The requests with which a role enters and leaves an elevation to a group. -/
inductive Elevation.Makes (principal group : String) (database : Option String) :
    Request → Prop where
  | begin : Makes principal group database (.begin database)
  | lock (session : SessionId) :
      Makes principal group database (.query session (.lockRole principal))
  | membership :
      Makes principal group database (.query mainSession (.roleMembership principal group))
  | grant : Makes principal group database (.execute mainSession (.grantRole group principal))
  | revoke : Makes principal group database (.execute mainSession (.revokeRole group principal))
  | commit (session : SessionId) : Makes principal group database (.commit session)
  | rollback (session : SessionId) : Makes principal group database (.rollback session)

/-- What is asked for the sake of an elevation is no work of its own. -/
theorem Elevation.Makes.isWork {principal group : String} {database : Option String}
    {request : Request} (h : Elevation.Makes principal group database request) :
    request.isWork = false := by
  cases h with
  | _ => rfl

/-- Whether a property holds of the requests for elevations. -/
structure Elevation.Requests (P : Request → Prop) : Prop where
  begin : ∀ database, P (.begin database)
  lock : ∀ session role, P (.query session (.lockRole role))
  membership : ∀ member group, P (.query mainSession (.roleMembership member group))
  grant : ∀ group member, P (.execute mainSession (.grantRole group member))
  revoke : ∀ group member, P (.execute mainSession (.revokeRole group member))
  commit : ∀ session, P (.commit session)
  rollback : ∀ session, P (.rollback session)

theorem Elevation.Requests.of_makes {P : Request → Prop} {principal group : String}
    {database : Option String} {request : Request} (h : Elevation.Requests P)
    (hmakes : Elevation.Makes principal group database request) : P request := by
  cases hmakes with
  | begin => exact h.begin database
  | lock session => exact h.lock session principal
  | membership => exact h.membership principal group
  | grant => exact h.grant group principal
  | revoke => exact h.revoke group principal
  | commit session => exact h.commit session
  | rollback session => exact h.rollback session

/-- What is wrong if a database is still marked as a template. -/
def Error.stillMarked (name : String) : Error :=
  .constraint ("database " ++ Text.quoted name ++
    " is still marked as a template and cannot be dropped")

/-- Fails if a database is still marked as a template. -/
def Reconciler.refuseMarked (name : String) : Action Unit := do
  if ← isMarkedTemplate name then throw (.stillMarked name)

theorem Reconciler.clearTemplate_eq (r : Reconciler) (name : String) :
    r.clearTemplate name = (do
      if ← isMarkedTemplate name then
        r.setIsTemplate name false
        if ← isMarkedTemplate name then r.setIsTemplate name false
        refuseMarked name) := rfl

/-- The template that is reported is the one asked for, or the default one. -/
theorem Reconciler.reportedTemplate_eq (spec : DatabaseSpec) :
    reportedTemplate spec = (spec.template.filter (· ≠ "")).getD "template0" := by
  simp only [reportedTemplate, Text.not_isEmpty, DatabaseDefinition.defaultTemplate]

namespace Catalog

variable {α : Type}

/-- What the answer to a question means. -/
def decoded (context : String) (decode : Row → Except Error α) :
    Except Error (Option Row) → Except Error (Option α)
  | .error e => .error (e.inContext context)
  | .ok none => .ok none
  | .ok (some row) => (decode row).map some

/-- What was found is what a row says. -/
theorem decoded_eq_ok_some {context : String} {decode : Row → Except Error α} {a : α}
    {answer : Except Error (Option Row)} (h : decoded context decode answer = .ok (some a)) :
    ∃ row, answer = .ok (some row) ∧ decode row = .ok a := by
  match answer with
  | .error e => cases h
  | .ok none => cases h
  | .ok (some row) =>
    refine ⟨row, rfl, ?_⟩
    rw [decoded] at h
    cases hrow : decode row with
    | error e =>
      rw [hrow] at h
      cases h
    | ok b =>
      rw [hrow] at h
      cases h
      rfl

theorem yields_lookup {session : SessionId} {question : Query} {context : String}
    {decode : Row → Except Error α} {log : List Exchange} {outcome : Except Error (Option α)} :
    (lookup session question context decode).Yields log outcome ↔
      ∃ answer, log = [⟨.query session question, answer⟩] ∧
        outcome = decoded context decode answer := by
  rw [lookup, Action.yields_bind]
  constructor
  · rintro (⟨e, hq, rfl⟩ | ⟨first, rest, row, rfl, hq, hd⟩)
    · obtain ⟨o, ho, he⟩ := (Action.yields_inContext _ _ _).mp hq
      obtain rfl := (Session.yields_query _ _ _).mp ho
      rcases o with e | row
      · cases he
        exact ⟨.error e, rfl, rfl⟩
      · cases he
    · obtain ⟨o, ho, hrow⟩ := (Action.yields_inContext _ _ _).mp hq
      obtain rfl := (Session.yields_query _ _ _).mp ho
      rcases o with e | row
      · cases hrow
      · cases hrow
        cases row with
        | none =>
          obtain ⟨rfl, rfl⟩ := (Action.yields_pure _ _).mp hd
          exact ⟨.ok none, rfl, rfl⟩
        | some row =>
          obtain ⟨o, ho, rfl⟩ := (Action.yields_map _ _ _).mp hd
          obtain ⟨rfl, rfl⟩ := (Action.yields_liftExcept _ _).mp ho
          exact ⟨.ok (some row), rfl, rfl⟩
  · rintro ⟨e | row, rfl, rfl⟩
    · exact .inl ⟨_, (Action.yields_inContext _ _ _).mpr
        ⟨.error e, (Session.yields_query _ _ _).mpr rfl, rfl⟩, rfl⟩
    · refine .inr ⟨_, [], row, (List.append_nil _).symm, (Action.yields_inContext _ _ _).mpr
        ⟨.ok row, (Session.yields_query _ _ _).mpr rfl, rfl⟩, ?_⟩
      cases row with
      | none => exact (Action.yields_pure _ _).mpr ⟨rfl, rfl⟩
      | some row =>
        exact (Action.yields_map _ _ _).mpr
          ⟨decode row, (Action.yields_liftExcept _ _).mpr ⟨rfl, rfl⟩, rfl⟩

end Catalog

namespace Action.Sends

variable {P : Request → Prop} {α : Type}

theorem lookup {session : SessionId} {question : Query} (h : P (.query session question))
    (context : String) (decode : Row → Except Error α) :
    Sends P (Catalog.lookup session question context decode) := by
  refine ((request h).inContext context).bind fun row => ?_
  cases row with
  | none => exact pure _
  | some row => exact (liftExcept (decode row)).bind fun a => pure _

theorem run {statement : Statement} (h : P (.execute mainSession statement)) (context : String) :
    Sends P (Reconciler.run context statement) :=
  ((request h).inContext context).bind fun _ => pure ()

/-- What a version requires is asked for only where the server has it. -/
theorem require_bind {version : ServerVersion} {feature : Feature} {f : Unit → Action α}
    (h : version.supports feature = true → Sends P (f ())) :
    Sends P ((liftM (version.require feature) : Action Unit) >>= f) := by
  cases hsupports : version.supports feature with
  | true =>
    rw [ServerVersion.require, if_pos hsupports]
    exact h hsupports
  | false =>
    rw [ServerVersion.require, if_neg (Bool.eq_false_iff.mp hsupports)]
    exact throw _

theorem rename {name newName : String}
    (h : P (.execute mainSession (.renameDatabase name newName))) :
    Sends P (Reconciler.rename name newName) := by
  unfold Reconciler.rename
  split
  · exact (throw _).bind fun _ => run h _
  · exact run h _

theorem observeFlag {r : Reconciler} {feature : Feature} {ask : Action (Option Bool)}
    (h : r.version.supports feature = true → Sends P ask) :
    Sends P (r.observeFlag feature ask) := by
  unfold Reconciler.observeFlag
  split
  · exact (h ‹_›).bind fun _ => pure _
  · exact pure _

/-- Reading a database asks only for the attributes that the server has. -/
theorem observe {r : Reconciler} {name : String}
    (h : ∀ request, r.version.Reads name request → P request) (spec : DatabaseSpec) :
    Sends P (r.observe name spec) := by
  refine (lookup (h _ .owner) _ _).bind fun found => ?_
  rcases found with _ | ⟨shown, owner⟩
  · exact pure _
  refine (lookup (h _ (.settings _)) _ _).bind fun settings => ?_
  cases settings with
  | none => exact pure _
  | some settings =>
  refine (observeFlag fun hallow => lookup (h _ (.allowConnections _ hallow)) _ _).bind
    fun allow => ?_
  cases allow with
  | none => exact pure _
  | some allow =>
  refine (observeFlag fun hflag => lookup (h _ (.isTemplate _ hflag)) _ _).bind fun flag => ?_
  cases flag with
  | none => exact pure _
  | some flag => exact pure _

theorem read {r : Reconciler} {state : DatabaseState}
    (h : ∀ id, state.id = some id → ∀ request, r.version.Reads id request → P request)
    (spec : DatabaseSpec) : Sends P (r.read state spec) := by
  unfold Reconciler.read
  cases hid : state.id with
  | none => exact pure _
  | some id =>
    refine (observe (h id hid) spec).bind fun observed => ?_
    cases observed with
    | none => exact pure _
    | some observed => exact pure _

theorem adopt {r : Reconciler} {name : String}
    (h : ∀ request, r.version.Reads name request → P request) : Sends P (r.adopt name) := by
  refine (read (fun id hid => Option.some.inj hid ▸ h) _).bind fun state => ?_
  split
  · exact pure _
  · exact throw _

/-! ### Flags and dropping -/

theorem setAllowConnections {r : Reconciler} {name : String} {allow : Bool}
    (h : r.version.supports .allowConnections = true →
      P (.execute mainSession (.setAllowConnections name allow))) :
    Sends P (r.setAllowConnections name allow) :=
  require_bind fun hsupports => run (h hsupports) _

theorem setIsTemplate {r : Reconciler} {name : String} {isTemplate : Bool}
    (h : r.version.supports .isTemplate = true →
      P (.execute mainSession (.setIsTemplate name isTemplate))) :
    Sends P (r.setIsTemplate name isTemplate) :=
  require_bind fun hsupports => run (h hsupports) _

theorem isMarkedTemplate {name : String} (h : P (.query mainSession (.databaseIsTemplate name))) :
    Sends P (Reconciler.isMarkedTemplate name) := (lookup h _ _).bind fun _ => pure _

theorem refuseMarked {name : String} (h : P (.query mainSession (.databaseIsTemplate name))) :
    Sends P (Reconciler.refuseMarked name) :=
  (isMarkedTemplate h).bind fun marked => by
    cases marked with
    | false => exact pure _
    | true => exact throw _

theorem clearTemplate {r : Reconciler} {name : String}
    (hask : P (.query mainSession (.databaseIsTemplate name)))
    (hclear : P (.execute mainSession (.setIsTemplate name false))) :
    Sends P (r.clearTemplate name) := by
  have hset : Sends P (r.setIsTemplate name false) := setIsTemplate fun _ => hclear
  rw [Reconciler.clearTemplate_eq]
  refine (isMarkedTemplate hask).bind fun marked => ?_
  cases marked with
  | false => exact pure _
  | true =>
    refine hset.bind fun _ => (isMarkedTemplate hask).bind fun again => ?_
    cases again with
    | false => exact refuseMarked hask
    | true => exact hset.bind fun _ => refuseMarked hask

theorem drain {session : SessionId} {name : String} {version : ServerVersion}
    (hblock : version.supports .allowConnections = true →
      P (.execute session (.setAllowConnections name false)))
    (hterminate : P (.execute session (.terminateSessions version.pidColumn name))) :
    Sends P (Reconciler.drain session name version) :=
  (onlyIf fun hsupports => ((request (hblock hsupports)).inContext _).bind fun _ => pure _).bind
    fun _ => ((request hterminate).inContext _).bind fun _ => pure _

theorem drop {r : Reconciler} {name : String}
    (hask : r.version.supports .isTemplate = true →
      P (.query mainSession (.databaseIsTemplate name)))
    (hclear : r.version.supports .isTemplate = true →
      P (.execute mainSession (.setIsTemplate name false)))
    (hblock : r.version.supports .allowConnections = true →
      P (.execute mainSession (.setAllowConnections name false)))
    (hterminate : P (.execute mainSession (.terminateSessions r.version.pidColumn name)))
    (hdrop : P (.execute mainSession (.drop name r.version))) : Sends P (r.drop name) :=
  (onlyIf fun hsupports => clearTemplate (hask hsupports) (hclear hsupports)).bind
    fun _ => (drain hblock hterminate).bind fun _ => run hdrop _

/-! ### Elevations -/

variable {principal group : String} {database : Option String}

theorem enter : Sends (Elevation.Makes principal group database)
    (Elevation.enter principal group database) :=
  fun _ _ hy => (Elevation.entered_of_yields hy).forall_request .begin .lock .membership .grant
    .rollback

/-- What is done in an elevation is done by the role for the group. -/
theorem enter_bind {f : Elevation → Action α}
    (h : ∀ request, Elevation.Makes principal group database request → P request)
    (hf : ∀ elevation, elevation.grant.member = principal → elevation.grant.group = group →
      Sends P (f elevation)) :
    Sends P (Elevation.enter principal group database >>= f) := by
  intro log outcome hy
  rcases (yields_bind _ f outcome).mp hy with ⟨e, he, rfl⟩ | ⟨first, rest, elevation, rfl, he, hr⟩
  · exact enter.mono h log _ he
  · obtain ⟨hmember, hgroup, -⟩ := Elevation.path_of_entered (Elevation.entered_of_yields he)
    exact List.forall_mem_append.mpr
      ⟨enter.mono h first _ he, hf elevation hmember hgroup rest outcome hr⟩

theorem exit {elevation : Elevation} (outcome : Except Error α)
    (h : ∀ request, Elevation.Makes elevation.grant.member elevation.grant.group database request →
      P request) :
    Sends P (elevation.exit outcome) := by
  intro log left hy
  obtain ⟨revoking, revoked, closed, hr, rfl, -⟩ := Elevation.left_of_yields hy
  exact List.forall_mem_append.mpr ⟨hr.forall_request (h _ .revoke),
    List.forall_mem_singleton.mpr (h _ (.rollback _))⟩

theorem exitCommitting {elevation : Elevation} (outcome : Except Error α)
    (h : ∀ request, Elevation.Makes elevation.grant.member elevation.grant.group database request →
      P request) :
    Sends P (elevation.exitCommitting outcome) := by
  cases outcome with
  | error e => exact exit (.error e) h
  | ok a =>
    intro log left hy
    obtain ⟨committed, revoking, revoked, hr, rfl, -⟩ := Elevation.committed_of_yields hy
    exact List.forall_mem_cons.mpr ⟨h _ (.commit _), hr.forall_request (h _ .revoke)⟩

/-- What comes after an attempt is done whatever the outcome is. -/
theorem attempt_bind {β : Type} {action : Action α} {f : Except Error α → Action β}
    (h : Sends P action) (hf : ∀ outcome, Sends P (f outcome)) :
    Sends P ((liftM action.attempt : Action (Except Error α)) >>= f) := by
  intro log outcome hy
  obtain ⟨first, rest, o, rfl, ha, hr⟩ := (yields_attempt_bind _ _ _).mp hy
  exact List.forall_mem_append.mpr ⟨h first o ha, hf o rest outcome hr⟩

theorem elevated {r : Reconciler} {action : Action Unit}
    (h : ∀ request, Elevation.Makes r.principal group none request → P request)
    (hwork : Sends P action) : Sends P (r.elevated group action) := by
  refine enter_bind h fun elevation hmember hgroup => ?_
  exact hwork.attempt_bind fun outcome => exit outcome (hmember ▸ hgroup ▸ h)

theorem asOwner {r : Reconciler} {spec : DatabaseSpec} {action : Action Unit}
    (h : ∀ owner, spec.requestedOwner = some owner →
      ∀ request, Elevation.Makes r.principal owner none request → P request)
    (hwork : Sends P action) : Sends P (r.asOwner spec action) := by
  unfold Reconciler.asOwner
  split
  · exact elevated (h _ ‹_›) hwork
  · exact hwork

/-- What is done once an owner is known to hand the objects over. -/
theorem handOver {r : Reconciler} {name owner newOwner : String}
    (h : ∀ request, Elevation.Makes r.principal owner (some name) request → P request)
    (hwork : ∀ session, P (.execute session (.reassignOwned owner newOwner))) :
    Sends P (do
      let elevation ← Elevation.enter r.principal owner (some name)
      let reassigned ← ((Session.execute elevation.session
        (.reassignOwned owner newOwner)).inContext "error reassigning objects to new owner").attempt
      elevation.exitCommitting (reassigned.map fun _ => ())) := by
  refine enter_bind h fun elevation hmember hgroup => ?_
  exact ((request (hwork _)).inContext _).attempt_bind
    fun outcome => exitCommitting _ (hmember ▸ hgroup ▸ h)

theorem reassignOwned {r : Reconciler} {name newOwner : String} (h : Elevation.Requests P)
    (hask : P (.query mainSession (.databaseOwner name)))
    (hwork : ∀ session owner, P (.execute session (.reassignOwned owner newOwner))) :
    Sends P (r.reassignOwned name newOwner) := by
  refine (lookup hask _ _).bind fun found => ?_
  rcases found with _ | ⟨-, owner⟩
  · exact throw _
  dsimp only
  split
  · exact pure _
  · exact handOver (fun _ => h.of_makes) fun session => hwork session owner

end Action.Sends

/-- Whether a request is made to act with the privileges of the owner that a spec asks for. -/
def Reconciler.Elevates (r : Reconciler) (spec : DatabaseSpec) (request : Request) : Prop :=
  ∃ owner, spec.requestedOwner = some owner ∧ Elevation.Makes r.principal owner none request

theorem Reconciler.Elevates.isWork {r : Reconciler} {spec : DatabaseSpec} {request : Request}
    (h : r.Elevates spec request) : request.isWork = false := by
  obtain ⟨owner, -, hmakes⟩ := h
  exact hmakes.isWork

/-- Privileged work is not begun, or it is done between the requests for its elevation. Its failure
is the outcome, whatever comes after it. -/
theorem Reconciler.course_of_asOwner {r : Reconciler} {spec : DatabaseSpec} {action : Action Unit}
    {log : List Exchange} {outcome : Except Error Unit}
    (h : (r.asOwner spec action).Yields log outcome) :
    (∀ x ∈ log, r.Elevates spec x.request) ∧ (∃ e, outcome = .error e) ∨
      ∃ entering working leaving o, log = entering ++ (working ++ leaving) ∧
        (∀ x ∈ entering, r.Elevates spec x.request) ∧
        (∀ x ∈ leaving, r.Elevates spec x.request) ∧ action.Yields working o ∧
        ∀ e, o = .error e → outcome = .error e := by
  unfold asOwner at h
  split at h
  · rename_i owner howner
    have henter {log : List Exchange} {outcome : Except Error Elevation}
        (h : (Elevation.enter r.principal owner none).Yields log outcome) :
        ∀ x ∈ log, r.Elevates spec x.request :=
      fun x hx => ⟨owner, howner, Action.Sends.enter log outcome h x hx⟩
    rcases (Action.yields_bind _ _ _).mp h with ⟨e, he, rfl⟩ | ⟨first, rest, elevation, rfl, he, hr⟩
    · exact .inl ⟨henter he, e, rfl⟩
    · obtain ⟨working, leaving, o, rfl, hw, hl⟩ := (Action.yields_attempt_bind _ _ _).mp hr
      obtain ⟨hmember, hgroup, -⟩ := Elevation.path_of_entered (Elevation.entered_of_yields he)
      obtain ⟨revoking, revoked, closed, hrevoked, rfl, rfl⟩ := Elevation.left_of_yields hl
      have hrevoke : r.Elevates spec (.execute mainSession
          (.revokeRole elevation.grant.group elevation.grant.member)) := by
        rw [hmember, hgroup]
        exact ⟨owner, howner, .revoke⟩
      refine .inr ⟨first, working, _, o, rfl, henter he, ?_, hw, ?_⟩
      · exact List.forall_mem_append.mpr ⟨hrevoked.forall_request hrevoke,
          List.forall_mem_singleton.mpr ⟨owner, howner, .rollback _⟩⟩
      · rintro e rfl
        rw [withCleanup_error, withCleanup_error]
  · exact .inr ⟨[], log, [], outcome, by simp, List.forall_mem_nil _, List.forall_mem_nil _, h,
      fun _ he => he⟩

end PgConverge
