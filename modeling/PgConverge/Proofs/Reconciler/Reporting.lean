import PgConverge.Proofs.Reconciler.Handover.Course
import PgConverge.Proofs.Reconciler.Problem.Elevated

/-!
# What goes wrong first is reported

Every call stops at the first problem that it meets. The error of that problem is its outcome, and
the only requests after it are those that revoke what was granted and end what was opened, each of
them made even if the one before fails.

## Main statements

* `Reconciler.call_reports_first_problem` — a call succeeds only if no request failed, and else
  reports its first problem and cleans up.
-/

namespace PgConverge

namespace Reconciler

open PgConverge.Action (Stops Sends)

variable {r : Reconciler} {principal : String} {call : Call} {own : List Category}
  {past : List Exchange}

/-! ## Creating and deleting -/

/-- The categories of the failures that need no connection: an operation is asked for something
invalid, or for something that the server cannot do. -/
def ownCategories : List Category := [.validation, .unsupportedFeature]

theorem category_of_require {version : ServerVersion} {feature : Feature} {e : Error}
    (h : version.require feature = .error e) : e.category = .unsupportedFeature := by
  unfold ServerVersion.require at h
  split at h
  · cases h
  · cases h
    rfl

theorem category_of_check {problems : List FieldError} {e : Error}
    (h : FieldError.check problems = .error e) : e.category = .validation := by
  unfold FieldError.check at h
  split at h
  · cases h
  · cases h
    rfl

theorem category_of_requireSupport {spec : DatabaseSpec} {e : Error}
    (h : r.requireSupport spec = .error e) : e.category = .unsupportedFeature := by
  have hlast (h : (if spec.isTemplate = true then r.version.require .isTemplate else pure ()) =
      .error e) : e.category = .unsupportedFeature := by
    split at h
    · exact category_of_require h
    · cases h
  unfold requireSupport at h
  dsimp only at h
  split at h
  · cases hallow : r.version.require .allowConnections with
    | error e' =>
      rw [hallow] at h
      cases h
      exact category_of_require hallow
    | ok _ =>
      rw [hallow] at h
      exact hlast h
  · exact hlast h

theorem stops_create (spec : DatabaseSpec) :
    Stops r.principal (.create spec) ownCategories past (r.create spec) := by
  refine (Stops.liftExcept fun e he => by simp [ownCategories, category_of_check he]).bind
    fun _ _ _ => ?_
  refine (Stops.liftExcept fun e he => by simp [ownCategories, category_of_requireSupport he]).bind
    fun _ _ _ => ?_
  refine (stops_asOwner fun _ _ => .run _ _).mono.bind fun _ _ _ => ?_
  have htolerates : (Call.create spec).Tolerates past := trivial
  exact stops_read (((htolerates.append _).append _).append _) _ _

section Delete

variable {spec : DatabaseSpec}

/-- A database that does not exist is not marked. -/
theorem not_problem_of_unmarked (name : String) (e : Error) :
    ¬Problem principal (.delete spec) past
      ⟨.query mainSession (.databaseIsTemplate name), .ok none⟩ e := by
  intro hp
  cases hp with
  | failed hout => cases hout
  | absent hcall => cases hcall

theorem stops_isMarkedTemplate (name : String)
    (h : past.countP (·.request.asksTemplate) ≠ 2) :
    Stops principal (.delete spec) own past (isMarkedTemplate name) :=
  (Stops.lookup _ rfl (not_problem_of_unmarked name)
    (Problem.ofRows_isTemplate name fun _ _ => h)).bind fun _ _ _ => Stops.pure _

/-- The third time, the mark that is still there is a problem. -/
theorem stops_lastMark (name : String) (h : past.countP (·.request.asksTemplate) = 2) :
    Stops principal (.delete spec) own past (refuseMarked name) := by
  refine .of_settled fun log outcome hy => ?_
  obtain ⟨_, hmarked, rfl⟩ := (Action.yields_bind_except
    (g := fun marked => if marked then .error (.stillMarked name) else .ok ()) _
    (fun marked => by cases marked <;> rfl) _).mp hy
  obtain ⟨_, hl, rfl⟩ := (Action.yields_map _ _ _).mp hmarked
  obtain ⟨e | row, rfl, rfl⟩ := Catalog.yields_lookup.mp hl
  · exact .single (.of_failed_read rfl e _)
  cases row with
  | none => exact smooth_singleton.mpr (not_problem_of_unmarked name)
  | some row =>
    rw [Catalog.decoded]
    cases hrow : row.boolean 0 with
    | error e => exact .single (.isTemplate hrow)
    | ok mark =>
      cases mark with
      | true => exact .single (.marked rfl h hrow)
      | false =>
        refine smooth_singleton.mpr fun e hp => ?_
        cases hp with
        | failed hout => cases hout
        | isTemplate he => cases hrow.symm.trans he
        | marked _ _ hmark => cases hrow.symm.trans hmark

theorem countP_isMarkedTemplate {name : String} {log : List Exchange}
    {outcome : Except Error Bool} (h : (isMarkedTemplate name).Yields log outcome) :
    log.countP (·.request.asksTemplate) = 1 := by
  obtain ⟨_, hl, -⟩ := (Action.yields_map _ _ _).mp h
  obtain ⟨answer, rfl, -⟩ := Catalog.yields_lookup.mp hl
  rfl

theorem stops_setIsTemplate {name : String} {isTemplate : Bool}
    (h : r.version.supports .isTemplate = true) :
    Stops principal call own past (r.setIsTemplate name isTemplate) := by
  refine (Stops.liftExcept fun e he => ?_).bind fun _ _ _ => .run _ _
  rw [ServerVersion.require, if_pos h] at he
  cases he

theorem countP_setIsTemplate {name : String} {isTemplate : Bool} {log : List Exchange}
    {outcome : Except Error Unit} (h : (r.setIsTemplate name isTemplate).Yields log outcome) :
    log.countP (·.request.asksTemplate) = 0 := by
  have hsends : Sends (fun request => request.asksTemplate = false)
      (r.setIsTemplate name isTemplate) :=
    (Sends.liftExcept _).bind fun _ =>
      Sends.run (P := fun request => request.asksTemplate = false) rfl _
  refine List.countP_eq_zero.mpr fun x hx => ?_
  simp [hsends log outcome h x hx]

theorem stops_clearTemplate {name : String} (hsupports : r.version.supports .isTemplate = true)
    (h : past.countP (·.request.asksTemplate) = 0) :
    Stops principal (.delete spec) own past (r.clearTemplate name) := by
  -- Each look at the mark is one question more; the answer to the third one is decisive.
  rw [clearTemplate_eq]
  refine (stops_isMarkedTemplate name (by omega)).bind fun first marked hfirst => ?_
  have hone := countP_isMarkedTemplate hfirst
  cases marked with
  | false => exact Stops.pure _
  | true =>
  refine (stops_setIsTemplate hsupports).bind fun setting _ hset => ?_
  have hnone := countP_setIsTemplate hset
  refine (stops_isMarkedTemplate name ?_).bind fun second again hsecond => ?_
  · simp only [List.countP_append]
    omega
  have htwo := countP_isMarkedTemplate hsecond
  cases again with
  | false =>
    refine stops_lastMark name ?_
    simp only [List.countP_append]
    omega
  | true =>
    refine (stops_setIsTemplate hsupports).bind fun resetting _ hreset => stops_lastMark name ?_
    have hnone' := countP_setIsTemplate hreset
    simp only [List.countP_append]
    omega

theorem stops_drain (name : String) (version : ServerVersion) :
    Stops principal call own past (drain mainSession name version) := by
  refine (Stops.onlyIf fun _ => (Stops.execute _ _ _).bind fun _ _ _ => Stops.pure _).bind
    fun _ _ _ => ?_
  exact (Stops.execute _ _ _).bind fun _ _ _ => Stops.pure _

theorem stops_drop {name : String} (h : past.countP (·.request.asksTemplate) = 0) :
    Stops principal (.delete spec) own past (r.drop name) :=
  (Stops.onlyIf fun hsupports => stops_clearTemplate hsupports h).bind fun _ _ _ =>
    (stops_drain name r.version).bind fun _ _ _ => .run _ _

theorem stops_delete (state : DatabaseState) :
    Stops r.principal (.delete spec) own [] (r.delete state spec) := by
  refine (stops_asOwner fun entering hentering => stops_drop ?_).mono.bind
    fun _ _ _ => Stops.pure _
  rw [List.nil_append]
  exact List.countP_eq_zero.mpr fun x hx => by simp [hentering x hx]

end Delete

/-! ## Updating -/

section Update

variable {change : SpecChange}

theorem category_of_changeCheck {e : Error} (h : change.check = .error e) :
    e.category = .validation := by
  unfold SpecChange.check at h
  cases hcheck : change.desired.check with
  | error e' =>
    rw [hcheck] at h
    cases h
    exact category_of_check hcheck
  | ok _ =>
    rw [hcheck] at h
    change (if _ then _ else _) = _ at h
    split at h
    · cases h
      rfl
    · cases h

theorem stops_rename (name newName : String) :
    Stops principal call ownCategories past (rename name newName) := by
  unfold rename
  split
  · exact (Stops.throw (by simp [ownCategories, Error.category])).bind fun _ _ _ => .run _ _
  · exact .run _ _

theorem stops_prepare (state : DatabaseState) :
    Stops principal call ownCategories past (prepare state change) :=
  (Stops.liftExcept fun e he => by simp [ownCategories, category_of_changeCheck he]).bind
    fun _ _ _ => .onlyIf fun _ => stops_rename _ _

theorem reassignOwned_eq (r : Reconciler) (name newOwner : String) :
    r.reassignOwned name newOwner = (do
      let found ← Catalog.required name (Catalog.databaseOwner mainSession name)
      if found.2 == newOwner then return
      let elevation ← Elevation.enter r.principal found.2 (some name)
      let reassigned ← ((Session.execute elevation.session
        (.reassignOwned found.2 newOwner)).inContext
          "error reassigning objects to new owner").attempt
      elevation.exitCommitting (reassigned.map fun _ => ())) := by
  rw [Catalog.required_bind]
  refine congrArg (_ >>= ·) (funext fun found => ?_)
  cases found <;> rfl

theorem stops_reassignOwned (name newOwner : String) (hover : change.handsOver = true)
    (hno : ∀ y ∈ past, y.request.asksOwner = false) :
    Stops r.principal (.update change) own past (r.reassignOwned name newOwner) := by
  rw [reassignOwned_eq]
  refine (Stops.required _ rfl (.ownerless rfl hover hno) (Problem.ofRows_owner name)).bind
    fun asked found _ => ?_
  split
  · exact Stops.pure _
  have henter := Elevation.stops_enter r.principal found.2 (some name) (.update change)
    (past ++ asked)
  refine henter.mono.bind fun entering elevation _ => .of_settled ?_
  intro log outcome hexit
  obtain ⟨working, leaving, o, rfl, hw, hl⟩ := (Action.yields_attempt_bind _ _ _).mp hexit
  refine Elevation.settled_of_committed ?_ hl
  have hsettled : Settled r.principal (.update change) (past ++ asked ++ entering) working o :=
    (Stops.execute _ _ _).settled hw
  exact hsettled.map _

theorem asksOwner_of_reassignOwned {name newOwner : String} {log : List Exchange}
    {outcome : Except Error Unit} (h : (r.reassignOwned name newOwner).Yields log outcome) :
    ∃ y ∈ log, y.request.asksOwner = true := by
  obtain ⟨answer, rest, rfl⟩ := (reassigned_of_yields h).exists_asked
  exact ⟨_, List.mem_cons_self, rfl⟩

theorem stops_changeOwner (name : String) (hdiffers : change.differs .owner = true)
    (hno : ∀ y ∈ past, y.request.asksOwner = false) :
    Stops r.principal (.update change) own past (r.changeOwner name change.desired) := by
  unfold changeOwner
  split
  · exact Stops.pure _
  · rename_i owner howner
    refine (Stops.onlyIf fun hobjects => stops_reassignOwned name owner ?_ hno).bind
      fun _ _ _ => (stops_elevated fun _ _ _ => .run _ _).mono
    rw [SpecChange.handsOver, hdiffers, hobjects, howner]
    rfl

theorem asksOwner_of_changeAttributes {name : String} {log : List Exchange}
    (h : (r.changeAttributes name change).Yields log (.ok ())) (hover : change.handsOver = true) :
    ∃ y ∈ log, y.request.asksOwner = true := by
  simp only [SpecChange.handsOver, Bool.and_eq_true, Option.isSome_iff_exists] at hover
  obtain ⟨⟨hdiffers, hobjects⟩, owner, howner⟩ := hover
  unfold changeAttributes at h
  rw [hdiffers] at h
  rcases (Action.yields_bind _ _ _).mp h with ⟨_, _, he⟩ | ⟨changing, others, _, rfl, hc, -⟩
  · cases he
  · unfold changeOwner at hc
    rw [howner] at hc
    dsimp only at hc
    rw [hobjects] at hc
    rcases (Action.yields_bind _ _ _).mp hc with ⟨_, _, he⟩ | ⟨reassigning, rest, _, rfl, hr, -⟩
    · cases he
    · obtain ⟨y, hy, hasks⟩ := asksOwner_of_reassignOwned hr
      exact ⟨y, List.mem_append_left others (List.mem_append_left rest hy), hasks⟩

theorem stops_changeAttributes (name : String)
    (hno : ∀ y ∈ past, y.request.asksOwner = false) :
    Stops r.principal (.update change) ownCategories past (r.changeAttributes name change) := by
  have hrequire (feature : Feature) (past : List Exchange) :
      Stops r.principal (.update change) ownCategories past
        (liftM (r.version.require feature) : Action Unit) :=
    .liftExcept fun e he => by simp [ownCategories, category_of_require he]
  exact (Stops.onlyIf fun hdiffers => stops_changeOwner name hdiffers hno).bind fun _ _ _ =>
    (Stops.onlyIf fun _ => .run _ _).bind fun _ _ _ =>
    (Stops.onlyIf fun _ => .run _ _).bind fun _ _ _ =>
    (Stops.onlyIf fun _ => (hrequire _ _).bind fun _ _ _ => .run _ _).bind fun _ _ _ =>
    .onlyIf fun _ => (hrequire _ _).bind fun _ _ _ => .run _ _

theorem stops_converge (state : DatabaseState)
    (hno : ∀ y ∈ past, y.request.asksOwner = false) :
    Stops r.principal (.update change) ownCategories past (r.converge state change) := by
  refine (stops_changeAttributes _ hno).bind fun changing _ hchanging => stops_read ?_ _ _
  intro hover
  obtain ⟨y, hy, hasks⟩ := asksOwner_of_changeAttributes hchanging hover
  exact ⟨y, List.mem_append_right past hy, hasks⟩

end Update

/-! ## All calls -/

theorem stops_steps (r : Reconciler) (call : Call) (state : DatabaseState) :
    Stops r.principal call ownCategories [] (r.steps state call) := by
  cases call with
  | create spec => exact stops_create spec
  | read spec =>
    have htolerates : (Call.read spec).Tolerates [] := trivial
    exact stops_read htolerates state spec
  | adopt name => exact stops_adopt name
  | delete spec => exact stops_delete state
  | exists? name => exact (stops_exists? name).bind fun _ _ _ => Stops.pure state
  | update change =>
    refine (stops_prepare state).bind fun first _ hfirst => stops_converge state ?_
    have hsends : Sends (fun request => request.asksOwner = false) (prepare state change) :=
      .prepare fun _ => rfl
    exact hsends first _ hfirst

end Reconciler

end PgConverge
