import Mathlib.Data.List.Nodup
import PgConverge.Proofs.Reconciler.Plan.Performed
import PgConverge.Proofs.Reconciler.Reporting

/-!
# The plan of an update

What differs between two specs, together with the owner that the catalog shows, determines the
statements of an update and their order. However the connection behaves, an update sends a first part
of its plan, each statement only after all that went before it has succeeded and has been cleaned up,
and it sends all of its plan if it succeeds.

## Main definitions

* `SpecChange.plan` — the statements by which an update brings a database to the desired spec.
* `SendsPlan` — what the log of an update shows about its plan.

## Main statements

* `Reconciler.update_sends_plan` — the log of every update shows that, on any connection.
-/

namespace PgConverge

namespace SpecChange

variable (change : SpecChange) (name : String)

/-- The statements that give a database of a name to the owner that is asked for, if there is one.
Before that the owner that the catalog shows hands its objects over, if it is another one. -/
def ownerPlan (shown : Option String) : List Statement :=
  match change.desired.owner.filter (· ≠ "") with
  | none => []
  | some owner =>
    (if change.desired.reassignObjects then
      ((shown.filter (· != owner)).map (Statement.reassignOwned · owner)).toList else []) ++
      [.setOwner name owner]

/-- The statement that moves a database of a name to the tablespace that is asked for: to the
server's own one if there is no text or an empty one, or if it is the word `DEFAULT` in letters of
any case. -/
def tablespaceMove : Statement :=
  match change.desired.tablespace with
  | none => .resetTablespace name
  | some text =>
    if text = "" ∨ text.toLower = "default" then .resetTablespace name
    else .setTablespace name text

/-- The statements that change the other attributes of a database of a name. -/
def settingsPlan : List Statement :=
  (if change.prior.tablespace ≠ change.desired.tablespace then
    [change.tablespaceMove name] else []) ++
  ((if change.prior.connectionLimit ≠ change.desired.connectionLimit then
    [.setConnectionLimit name change.desired.connectionLimit] else []) ++
  ((if change.prior.allowConnections ≠ change.desired.allowConnections then
    [.setAllowConnections name change.desired.allowConnections] else []) ++
  (if change.prior.isTemplate ≠ change.desired.isTemplate then
    [.setIsTemplate name change.desired.isTemplate] else [])))

/-- The statements that bring a database of a name to the desired spec, in their order. They address
it by the desired name once it is renamed. -/
def plan (shown : Option String) : List Statement :=
  let target := if change.prior.name = change.desired.name then name else change.desired.name
  (if change.prior.name ≠ change.desired.name then
    [.renameDatabase name change.desired.name] else []) ++
  ((if change.prior.owner ≠ change.desired.owner then change.ownerPlan target shown else []) ++
  change.settingsPlan target)

theorem moveTablespace_eq :
    Statement.moveTablespace name change.desired.tablespace = change.tablespaceMove name := by
  unfold Statement.moveTablespace tablespaceMove
  cases h : Setting.of change.desired.tablespace with
  | unset => rcases Setting.of_eq_unset_iff.mp h with hraw | hraw <;> simp [hraw]
  | serverDefault =>
    obtain ⟨text, hraw, hdefault⟩ := Setting.of_eq_serverDefault_iff.mp h
    simp [hraw, hdefault]
  | value text =>
    obtain ⟨hraw, hempty, hdefault⟩ := Setting.of_eq_value_iff.mp h
    simp [hraw, hempty, hdefault]

end SpecChange

/-- The place in a plan of the statements of a kind. -/
def Statement.place : Statement → Nat
  | renameDatabase .. => 0
  | reassignOwned .. => 1
  | setOwner .. => 2
  | setTablespace .. | resetTablespace _ => 3
  | setConnectionLimit .. => 4
  | setAllowConnections .. => 5
  | setIsTemplate .. => 6
  | _ => 7

theorem SpecChange.place_tablespaceMove (change : SpecChange) (name : String) :
    (change.tablespaceMove name).place = 3 := by
  rw [← change.moveTablespace_eq]
  unfold Statement.moveTablespace
  split <;> rfl

/-- The statements of a plan stand in a fixed order. -/
theorem SpecChange.place_plan_sublist (change : SpecChange) (name : String)
    (shown : Option String) :
    ((change.plan name shown).map Statement.place).Sublist [0, 1, 2, 3, 4, 5, 6] := by
  have hpart (p : Prop) [Decidable p] (statement : Statement) {k : Nat}
      (hk : statement.place = k) :
      ((if p then [statement] else []).map Statement.place).Sublist [k] := by
    split <;> simp [hk]
  have howner (target : String) :
      ((if change.prior.owner ≠ change.desired.owner then change.ownerPlan target shown
        else []).map Statement.place).Sublist [1, 2] := by
    unfold ownerPlan
    split
    · cases change.desired.owner.filter (· ≠ "") with
      | none => exact List.nil_sublist _
      | some owner =>
        have hhanded : ((if change.desired.reassignObjects then
            ((shown.filter (· != owner)).map (Statement.reassignOwned · owner)).toList else []).map
              Statement.place).Sublist [1] := by
          split
          · cases shown.filter (· != owner) <;> simp [Statement.place]
          · exact List.nil_sublist _
        have hgiven : ([Statement.setOwner target owner].map Statement.place).Sublist [2] := .refl _
        dsimp only
        rw [List.map_append]
        exact hhanded.append hgiven
    · exact List.nil_sublist _
  unfold plan settingsPlan
  simp only [List.map_append]
  exact (hpart _ _ rfl).append ((howner _).append
    ((hpart _ _ (change.place_tablespaceMove _)).append
      ((hpart _ _ rfl).append ((hpart _ _ rfl).append (hpart _ _ rfl)))))

theorem SpecChange.nodup_plan (change : SpecChange) (name : String) (shown : Option String) :
    (change.plan name shown).Nodup :=
  List.Nodup.of_map Statement.place ((change.place_plan_sublist name shown).nodup (by decide))

example :
    SpecChange.plan ⟨{ DatabaseSpec.ofName "a" with owner := some "alice" },
      { DatabaseSpec.ofName "b" with
        owner := some "bob", tablespace := some "Default", connectionLimit := 5,
        reassignObjects := true }⟩ "a" (some "alice") =
      [.renameDatabase "a" "b", .reassignOwned "alice" "bob", .setOwner "b" "bob",
        .resetTablespace "b", .setConnectionLimit "b" 5] := by decide +kernel

/-! ## The steps of an update -/

/-- The owner of a database of a name that an exchange shows. -/
def Exchange.shownOwner? (name : String) : Exchange → Option String
  | ⟨.query _ (.databaseOwner asked), .ok (some row)⟩ =>
    if asked = name then row.databaseOwner.toOption.map Prod.snd else none
  | _ => none

theorem Exchange.shownOwner?_eq_none {x : Exchange} (h : x.request.asksOwner = false)
    (name : String) : x.shownOwner? name = none := by
  unfold shownOwner?
  split
  · cases h
  · rfl

/-- The first owner of a database of a name that a log shows. -/
def shownOwner? (name : String) (log : List Exchange) : Option String :=
  log.findSome? (·.shownOwner? name)

theorem shownOwner?_append (name : String) (first rest : List Exchange) :
    shownOwner? name (first ++ rest) = (shownOwner? name first).or (shownOwner? name rest) :=
  List.findSome?_append

namespace Reconciler

open PgConverge.Action (Performs Sends)

variable {r : Reconciler} {state : DatabaseState} {change : SpecChange} {name : String}
  {log : List Exchange}

theorem performs_prepare (principal : String) :
    Performs principal (if change.prior.name ≠ change.desired.name then
        [.renameDatabase (currentName state change) change.desired.name] else [])
      (prepare state change) := by
  have hcheck : Performs principal [] (liftM change.check : Action Unit) := .liftExcept _
  refine hcheck.bind fun _ => .onlyIf bne_iff_ne ?_
  unfold rename
  split
  · have hthrow : Performs principal []
        (throw (.validation "database name must not be empty") : Action Unit) := .liftExcept _
    exact hthrow.bind fun _ => .run rfl _
  · exact .run rfl _

theorem performs_changeSettings :
    Performs r.principal (change.settingsPlan name) (r.changeSettings name change) := by
  have hrequire (feature : Feature) :
      Performs r.principal [] (liftM (r.version.require feature) : Action Unit) := .liftExcept _
  have hmove : Performs r.principal [change.tablespaceMove name]
      (run "error updating database tablespace" (.moveTablespace name change.desired.tablespace)) := by
    rw [← change.moveTablespace_eq]
    exact .run (Statement.changesRoles_moveTablespace _ _) _
  refine .bind (.onlyIf bne_iff_ne hmove) fun _ => .bind (.onlyIf bne_iff_ne (.run rfl _)) fun _ =>
    .bind (.onlyIf bne_iff_ne ?_) fun _ => .onlyIf bne_iff_ne ?_
  · exact (hrequire _).bind fun _ => .run rfl _
  · exact (hrequire _).bind fun _ => .run rfl _

theorem performs_read (state : DatabaseState) (spec : DatabaseSpec) :
    Performs r.principal [] (r.read state spec) :=
  .of_statementless (.of_plain (r.plain_read state spec))
    (.read (fun _ _ request hreads => by cases hreads <;> rfl) spec)

/-- A handover is planned by the owner that its first answer shows. -/
theorem performed_reassignOwned {principal newOwner : String} {outcome : Except Error Unit}
    (h : Reassigned principal name newOwner log outcome)
    (hpath : Phase.Path principal .idle log .idle) (later : List Exchange) :
    Performed principal ((((shownOwner? name (log ++ later)).filter (· != newOwner)).map
      (Statement.reassignOwned · newOwner)).toList) log outcome.isOk := by
  have hshown {row : Row} {shown owner : String} (hrow : row.databaseOwner = .ok (shown, owner))
      (more : List Exchange) : shownOwner? name
        (⟨.query mainSession (.databaseOwner name), .ok (some row)⟩ :: more) = some owner := by
    simp [shownOwner?, Exchange.shownOwner?, hrow, Except.toOption]
  have hlength : (((shownOwner? name (log ++ later)).filter (· != newOwner)).map
      (Statement.reassignOwned · newOwner)).toList.length ≤ 1 := by
    cases (shownOwner? name (log ++ later)).filter (· != newOwner) <;> simp
  cases h with
  | unknown he => exact .of_length_le hpath List.nil_prefix nofun hlength
  | missing => exact .of_length_le hpath List.nil_prefix nofun hlength
  | kept hrow =>
    rw [List.cons_append, hshown hrow]
    exact .of_length_le hpath List.nil_prefix (fun _ => by simp [sent, Request.statement?])
      (by simp)
  | unentered _ _ hentered =>
    have hentering := sent_eq_nil hentered.statement?_eq_none
    exact .of_length_le hpath (by simp [hentering, Request.statement?]) nofun hlength
  | @handed row shown owner entering leaving elevation answer _ hrow hne hentered hconcluded =>
    have hleaving := sent_eq_nil (hconcluded.forall_request (P := (Request.statement? · = none))
      rfl rfl rfl)
    have hsent : sent (⟨.query mainSession (.databaseOwner name), .ok (some row)⟩ :: (entering ++
        ⟨.execute elevation.session (.reassignOwned owner newOwner), answer⟩ :: leaving)) =
          [.reassignOwned owner newOwner] := by
      simp [sent_eq_nil hentered.statement?_eq_none, hleaving, Request.statement?]
    rw [List.cons_append, hshown hrow]
    have hplan : (((some owner).filter (· != newOwner)).map
        (Statement.reassignOwned · newOwner)).toList = [.reassignOwned owner newOwner] := by
      simp [hne]
    rw [hplan]
    exact .of_length_le hpath (hsent ▸ List.prefix_refl _) (fun _ => hsent) (by simp)

/-- The owner is changed by the plan for whatever the answers show. -/
theorem performed_changeOwner {outcome : Except Error Unit}
    (h : (r.changeOwner name change.desired).Yields log outcome) (later : List Exchange) :
    Performed r.principal (change.ownerPlan name (shownOwner? name (log ++ later))) log
      outcome.isOk := by
  rw [changeOwner, DatabaseSpec.requestedOwner_eq] at h
  unfold SpecChange.ownerPlan
  cases howner : change.desired.owner.filter (· ≠ "") with
  | none =>
    rw [howner] at h
    obtain ⟨rfl, rfl⟩ := (Action.yields_pure _ _).mp h
    exact .of_statementless (.nil _) (List.forall_mem_nil _)
  | some owner =>
    rw [howner] at h
    dsimp only at h ⊢
    have hset : Performs r.principal [.setOwner name owner] (r.setOwner name owner) :=
      .elevated rfl owner _
    cases hobjects : change.desired.reassignObjects with
    | false =>
      rw [hobjects] at h
      have hnothing : Performs r.principal [] (.onlyIf false (r.reassignOwned name owner)) :=
        .liftExcept (.ok ())
      exact hnothing.bind (fun _ => hset) log outcome h
    | true =>
      rw [hobjects] at h
      have hreassign {log : List Exchange} {o : Except Error Unit}
          (hy : (r.reassignOwned name owner).Yields log o) (later : List Exchange) :=
        performed_reassignOwned (reassigned_of_yields hy)
          (r.follows_reassignOwned name owner log o hy) later
      rcases (Action.yields_bind _ _ _).mp h with ⟨e, hr, rfl⟩ | ⟨first, rest, _, rfl, hr, hs⟩
      · exact (hreassign hr later).stop _
      · rw [List.append_assoc]
        exact (hreassign hr (rest ++ later)).append (hset rest outcome hs)

/-- After the renaming, an update performs the rest of its plan. -/
theorem performed_converge {outcome : Except Error DatabaseState}
    (h : (r.converge state change).Yields log outcome) :
    Performed r.principal
      ((if change.prior.owner ≠ change.desired.owner then
          change.ownerPlan (finalName state change) (shownOwner? (finalName state change) log)
        else []) ++ change.settingsPlan (finalName state change)) log outcome.isOk := by
  have howning {log : List Exchange} {o : Except Error Unit}
      (hy : (Action.onlyIf (change.differs .owner)
        (r.changeOwner (finalName state change) change.desired)).Yields log o)
      (later : List Exchange) : Performed r.principal
        (if change.prior.owner ≠ change.desired.owner then change.ownerPlan
          (finalName state change) (shownOwner? (finalName state change) (log ++ later)) else [])
        log o.isOk := by
    have hiff : change.differs .owner = true ↔ change.prior.owner ≠ change.desired.owner :=
      bne_iff_ne
    cases hdiffers : change.differs .owner with
    | false =>
      rw [hdiffers] at hiff hy
      rw [if_neg (mt hiff.mpr Bool.false_ne_true)]
      obtain ⟨rfl, rfl⟩ := (Action.yields_pure _ _).mp hy
      exact .of_statementless (.nil _) (List.forall_mem_nil _)
    | true =>
      rw [hdiffers] at hiff hy
      rw [if_pos (hiff.mp rfl)]
      exact performed_changeOwner hy later
  have hrest : Performs r.principal (change.settingsPlan (finalName state change)) (do
      r.changeSettings (finalName state change) change
      r.read (renamedState state change) change.desired) := by
    rw [← List.append_nil (change.settingsPlan _)]
    exact performs_changeSettings.bind fun _ => performs_read _ _
  unfold converge at h
  rw [changeAttributes_eq, Action.bind_assoc] at h
  rcases (Action.yields_bind _ _ _).mp h with ⟨e, ho, rfl⟩ | ⟨first, rest, _, rfl, ho, hr⟩
  · have hstopped := howning ho []
    rw [List.append_nil] at hstopped
    exact hstopped.stop _
  · exact (howning ho rest).append (hrest rest outcome hr)

/-- Renaming shows no owner. -/
theorem performed_steps {outcome : Except Error DatabaseState}
    (h : (r.steps state (.update change)).Yields log outcome) :
    Performed r.principal
      (change.plan (currentName state change) (shownOwner? (finalName state change) log)) log
      outcome.isOk := by
  rcases (Action.yields_bind _ _ _).mp h with ⟨e, hp, rfl⟩ | ⟨first, rest, _, rfl, hp, hc⟩
  · exact (performs_prepare r.principal log _ hp).stop _
  have hshown : shownOwner? (finalName state change) first = none := by
    have hsends : Sends (fun request => request.asksOwner = false) (prepare state change) :=
      .prepare fun _ => rfl
    exact List.findSome?_eq_none_iff.mpr fun x hx =>
      Exchange.shownOwner?_eq_none (hsends first _ hp x hx) _
  rw [shownOwner?_append, hshown, Option.none_or]
  have hperformed := (performs_prepare r.principal first _ hp).append (performed_converge hc)
  rwa [finalName_eq_ite] at hperformed ⊢

/-- The questions about an owner and the sessions in a named database are about the database under
the name that it has by then. -/
theorem addressed_of_makes {past : List Exchange} {request : Request}
    (h : Call.Makes r state (.update change) past request) :
    (∀ session asked, request = .query session (.databaseOwner asked) →
        asked = finalName state change) ∧
      ∀ database, request = .begin (some database) → database = finalName state change := by
  cases h with
  | elevated _ hmakes => cases hmakes <;> exact ⟨nofun, nofun⟩
  | handingOver _ _ hmakes =>
    cases hmakes with
    | begin =>
      refine ⟨nofun, ?_⟩
      rintro _ ⟨⟩
      rfl
    | _ => exact ⟨nofun, nofun⟩
  | reads hname hreads =>
    obtain rfl := Option.some.inj hname
    cases hreads with
    | owner =>
      refine ⟨?_, nofun⟩
      rintro _ _ ⟨⟩
      rfl
    | _ => exact ⟨nofun, nofun⟩
  | askOwner =>
    refine ⟨?_, nofun⟩
    rintro _ _ ⟨⟩
    rfl
  | _ => exact ⟨nofun, nofun⟩

/-- Between two specs that agree there is nothing to do but read. -/
theorem sends_of_unchanged (hsame : change.prior = change.desired) :
    Sends (fun request => ∃ question, request = .query mainSession question)
      (r.steps state (.update change)) := by
  have hno (a : Attribute) : change.differs a ≠ true := by
    cases a <;> simp [SpecChange.differs, hsame]
  have hskip (a : Attribute) (action : Action Unit) :
      Sends (fun request => ∃ question, request = .query mainSession question)
        (.onlyIf (change.differs a) action) := .onlyIf fun hdiffers => absurd hdiffers (hno a)
  refine Sends.bind (.prepare fun hdiffers => absurd hdiffers (hno .name)) fun _ =>
    .bind (.bind (hskip _ _) fun _ => .bind (hskip _ _) fun _ => .bind (hskip _ _) fun _ =>
      .bind (hskip _ _) fun _ => hskip _ _) fun _ => ?_
  exact .read (fun _ _ request hreads => by cases hreads <;> exact ⟨_, rfl⟩) _

end Reconciler

/-! ## What the log of an update shows -/

/-- What the log of an update with an outcome shows about its plan, where the update addresses its
database by a name in the end. -/
structure SendsPlan (plan : List Statement) (name : String) (log : List Exchange)
    (outcome : Except Error Unit) : Prop where
  isPrefix : sent log <+: plan
  once : (sent log).Nodup
  complete : outcome = .ok () → sent log = plan
  /-- Before a statement nothing has failed, and since the one before it everything that was owed has
  been done at some point: no session was open and no grant was still to be revoked. -/
  waits : ∀ before x after, log = before ++ x :: after → x.request.statement?.isSome = true →
    (∀ y ∈ before, y.outcome.isOk = true) ∧
      ∀ earlier y between, before = earlier ++ y :: between →
        y.request.statement?.isSome = true → ∃ cleaning rest, between = cleaning ++ rest ∧
          Duties.after (earlier ++ y :: cleaning) = ⟨none, none⟩
  /-- The owner is asked for, and objects are handed over, in the database of that name. -/
  addressed : ∀ x ∈ log, (∀ session asked, x.request = .query session (.databaseOwner asked) →
    asked = name) ∧ ∀ database, x.request = .begin (some database) → database = name

theorem Request.isCleanup_of_statement? {request : Request}
    (h : request.statement?.isSome = true) : request.isCleanup = false := by
  cases request with
  | execute _ statement => cases statement <;> first | rfl | cases h
  | _ => cases h

namespace Reconciler

/-- What the steps of an update do shows in the log. -/
theorem sendsPlan_of_steps {r : Reconciler} {state : DatabaseState} {change : SpecChange}
    {log : List Exchange} {outcome : Except Error DatabaseState}
    (h : (r.steps state (.update change)).Yields log outcome) :
    SendsPlan (change.plan (currentName state change) (shownOwner? (finalName state change) log))
      (finalName state change) log (outcome.map fun _ => ()) := by
  have hperformed := performed_steps h
  have hordered := r.heeds_steps state (.update change) log outcome h
  refine
    { isPrefix := hperformed.isPrefix
      once := hperformed.isPrefix.sublist.nodup (change.nodup_plan _ _)
      complete := fun hok => hperformed.complete ?_
      waits := fun before x after hlog hx => ⟨?_, ?_⟩
      addressed := hordered.forall_mem fun _ _ => addressed_of_makes }
  · cases outcome with
    | ok _ => rfl
    | error e => cases hok
  · exact (r.stops_steps (.update change) state).isOk_of_split h hlog
      (Request.isCleanup_of_statement? hx)
  · rintro earlier y between rfl hy
    rw [List.append_assoc, List.cons_append] at hlog
    exact hperformed.settled _ _ _ _ _ hlog hy hx

/-- However the connection behaves, an update sends a first part of its plan, and all of it if it
succeeds. If the two specs are equal, it does nothing but ask questions. -/
theorem update_sends_plan {σ : Type} (r : Reconciler) (state : DatabaseState)
    (change : SpecChange) (server : Server σ) (link : Link σ) :
    let transcript := (r.update state change).run server link
    let log := transcript.exchanges
    let name := state.id.getD change.prior.name
    let target := if change.prior.name = change.desired.name then name else change.desired.name
    SendsPlan (change.plan name (shownOwner? target log)) target log transcript.result.1 ∧
      (change.prior = change.desired →
        ∀ x ∈ log, ∃ question, x.request = .query mainSession question) := by
  intro transcript log name target
  have hcall : (r.call state (.update change)).Yields log transcript.result :=
    Program.yields_run server (r.update state change) link
  obtain ⟨outcome, hy, hresult⟩ := yields_steps hcall
  have htarget : target = finalName state change := finalName_eq_ite.symm
  rw [htarget, hresult]
  exact ⟨sendsPlan_of_steps hy, fun hsame => sends_of_unchanged hsame log outcome hy⟩

end Reconciler

end PgConverge
