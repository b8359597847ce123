import PgConverge.Connection.Script
import PgConverge.Proofs.Reconciler.Dropping.Mark
import PgConverge.Proofs.Reconciler.Call

/-!
# Dropping a database

A database is dropped in a fixed order: the template mark is looked for and taken off, new sessions
are kept out, those that are there are ended, and then it is dropped. Nothing is done that the
answer before does not call for, so that a database that is still marked is left alone.

## Main statements

* `Reconciler.heeds_drop`, `Reconciler.dropsLast_drop` — dropping a database keeps to the order.
* `Reconciler.safelyDropped_call` — every call that deletes a database keeps it safe, on any
  connection, and fails without harm if the mark stays.
-/

namespace PgConverge

namespace Reconciler

open PgConverge.Action (Sends Heeds)

variable {r : Reconciler} {spec : DatabaseSpec} {name : String} {past log : List Exchange}

/-! ## The steps keep to the order -/

theorem heeds_setIsTemplate (h : Drops r spec name past
      (.execute mainSession (.setIsTemplate name false))) :
    Heeds (Drops r spec name) past (r.setIsTemplate name false) :=
  .liftExcept_bind fun _ _ => (Heeds.inContext _ (.request h)).bind fun _ _ _ => .pure _

theorem heeds_isMarkedTemplate : Heeds (Drops r spec name) past (isMarkedTemplate name) :=
  .of_sends (.isMarkedTemplate fun _ => .look _)

theorem heeds_refuseMarked : Heeds (Drops r spec name) past (refuseMarked name) :=
  heeds_isMarkedTemplate.bind fun _ marked _ => by
    cases marked with
    | false => exact .pure _
    | true => exact .throw _

theorem countP_setIsTemplate_le {isTemplate : Bool} {outcome : Except Error Unit}
    (hsupports : r.version.supports .isTemplate = true)
    (h : (r.setIsTemplate name isTemplate).Yields log outcome) :
    log.countP (·.request.marks) ≤ 1 := by
  obtain ⟨answer, rfl⟩ := setIsTemplate_answer hsupports h
  exact List.countP_le_length

theorem countP_look {look : Exchange} (h : look.ShowsMark name) :
    [look].countP (·.request.marks) = 0 := by
  obtain ⟨row, rfl, -⟩ := h
  rfl

/-- The mark is taken off after the first look if it is there, and again after the second one. -/
theorem heeds_clearTemplate (hsupports : r.version.supports .isTemplate = true)
    (hpast : past.countP (·.request.marks) = 0) :
    Heeds (Drops r spec name) past (r.clearTemplate name) := by
  rw [clearTemplate_eq]
  refine heeds_isMarkedTemplate.bind fun first marked hfirst => ?_
  cases marked with
  | false => exact .pure _
  | true =>
  obtain ⟨look, rfl, hshows, -⟩ := shown_of_isMarkedTemplate hfirst
  have hlook := countP_look (hshows rfl)
  refine Heeds.bind (heeds_setIsTemplate (.clear (hshows rfl) ?_)) fun setting _ hset => ?_
  · rw [List.countP_append]
    omega
  have hone := countP_setIsTemplate_le hsupports hset
  refine heeds_isMarkedTemplate.bind fun second again hsecond => ?_
  cases again with
  | false => exact heeds_refuseMarked
  | true =>
    obtain ⟨look', rfl, hshows', -⟩ := shown_of_isMarkedTemplate hsecond
    have hlook' := countP_look (hshows' rfl)
    refine Heeds.bind (heeds_setIsTemplate (.clear (hshows' rfl) ?_))
      fun _ _ _ => heeds_refuseMarked
    simp only [List.countP_append]
    omega

theorem shown_of_refuseMarked (h : (refuseMarked name).Yields log (.ok ())) :
    ∃ look : Exchange, log = [look] ∧ look.ShowsNoMark name := by
  obtain ⟨first, rest, marked, rfl, hmarked, hrest⟩ := Action.of_yields_bind_ok h
  obtain ⟨look, rfl, -, hshows⟩ := shown_of_isMarkedTemplate hmarked
  cases marked with
  | true => cases hrest.2
  | false =>
    obtain ⟨rfl, -⟩ := hrest
    exact ⟨look, rfl, hshows rfl⟩

/-- The last look shows that the mark is gone, or the mark has not been taken off. -/
theorem shown_of_clearTemplate (h : (r.clearTemplate name).Yields log (.ok ())) :
    ∃ earlier look, log = earlier ++ [look] ∧ look.ShowsNoMark name := by
  rw [clearTemplate_eq] at h
  obtain ⟨first, rest, marked, rfl, hmarked, hrest⟩ := Action.of_yields_bind_ok h
  cases marked with
  | false =>
    obtain ⟨look, rfl, -, hshows⟩ := shown_of_isMarkedTemplate hmarked
    obtain ⟨rfl, -⟩ := hrest
    exact ⟨[], look, rfl, hshows rfl⟩
  | true =>
    obtain ⟨setting, rest, _, rfl, -, hrest⟩ := Action.of_yields_bind_ok hrest
    obtain ⟨second, rest, again, rfl, -, hrest⟩ := Action.of_yields_bind_ok hrest
    cases again with
    | false =>
      obtain ⟨look, rfl, hshows⟩ := shown_of_refuseMarked hrest
      exact ⟨first ++ (setting ++ second), look, by simp, hshows⟩
    | true =>
      obtain ⟨resetting, rest, _, rfl, -, hrest⟩ := Action.of_yields_bind_ok hrest
      obtain ⟨look, rfl, hshows⟩ := shown_of_refuseMarked hrest
      exact ⟨first ++ (setting ++ (second ++ resetting)), look, by simp, hshows⟩

theorem heeds_drain (hpast : r.version.supports .allowConnections = true →
      ∃ earlier look, past = earlier ++ [look] ∧ look.ShowsNoMark name) :
    Heeds (Drops r spec name) past (drain mainSession name r.version) := by
  have hexecute {past : List Exchange} {statement : Statement} (context : String)
      (h : Drops r spec name past (.execute mainSession statement)) :
      Heeds (Drops r spec name) past
        (do let _ ← (Session.execute mainSession statement).inContext context : Action Unit) :=
    (Heeds.inContext _ (.request h)).bind fun _ _ _ => .pure _
  refine (Heeds.onlyIf fun hsupports => hexecute _ ?_).bind
    fun blocking _ hblock => hexecute _ (.terminate fun hsupports => ?_)
  · obtain ⟨earlier, look, rfl, hshows⟩ := hpast hsupports
    exact .block hshows
  · rw [hsupports] at hblock
    obtain ⟨e | affected, rfl, he⟩ := (Action.yields_executeInContext ..).mp hblock
    · cases he
    · exact ⟨past, affected, rfl⟩

theorem ended_of_drain {version : ServerVersion}
    (h : (drain mainSession name version).Yields log (.ok ())) :
    ∃ earlier affected, log = earlier ++
      [⟨.execute mainSession (.terminateSessions version.pidColumn name), .ok affected⟩] := by
  obtain ⟨first, rest, _, rfl, -, hrest⟩ := Action.of_yields_bind_ok h
  obtain ⟨e | affected, rfl, he⟩ := (Action.yields_executeInContext ..).mp hrest
  · cases he
  · exact ⟨first, affected, rfl⟩

theorem heeds_drop (hmarks : past.countP (·.request.marks) = 0) :
    Heeds (Drops r spec name) past (r.drop name) := by
  refine (Heeds.onlyIf fun hsupports => heeds_clearTemplate hsupports hmarks).bind
    fun clearing _ hclear => ?_
  refine (heeds_drain fun hsupports => ?_).bind fun draining _ hdrain => ?_
  · -- The flags came with the same version, so that the mark has been looked for.
    rw [show r.version.supports .isTemplate = true from hsupports] at hclear
    obtain ⟨earlier, look, rfl, hshows⟩ := shown_of_clearTemplate hclear
    exact ⟨past ++ earlier, look, (List.append_assoc ..).symm, hshows⟩
  · obtain ⟨earlier, affected, rfl⟩ := ended_of_drain hdrain
    rw [← List.append_assoc]
    exact (Heeds.inContext _ (.request (.drop _ affected))).bind fun _ _ _ => .pure _

theorem heeds_dropsLast {α : Type} {action : Action α} (hpast : past.countP (·.request.drops) = 0)
    (h : Sends (fun request => request.drops = false) action) : Heeds DropsLast past action :=
  fun log outcome hy => dropsLast_of_dropless hpast (h log outcome hy)

/-- The database is dropped by the last request. -/
theorem dropsLast_drop (hpast : past.countP (·.request.drops) = 0) :
    Heeds DropsLast past (r.drop name) := by
  have hclear : Sends (fun request => request.drops = false)
      (.onlyIf (r.version.supports .isTemplate) (r.clearTemplate name)) :=
    .onlyIf fun _ => .clearTemplate rfl rfl
  have hdrain : Sends (fun request => request.drops = false)
      (drain mainSession name r.version) := .drain (fun _ => rfl) rfl
  refine (heeds_dropsLast hpast hclear).bind fun clearing _ hcleared => ?_
  have hnone : (past ++ clearing).countP (·.request.drops) = 0 := by
    rw [List.countP_append, hpast, hclear.countP_eq_zero hcleared]
  refine (heeds_dropsLast hnone hdrain).bind fun draining _ hdrained => ?_
  refine (Heeds.inContext _ (.request fun _ => ?_)).bind fun _ _ _ => .pure _
  rw [List.countP_append, hnone, hdrain.countP_eq_zero hdrained]

/-! ## Deleting -/

/-- Privileged work is in order if the requests for its elevation are in order anywhere. -/
theorem orderly_of_asOwner {allowed : List Exchange → Request → Prop} {action : Action Unit}
    {outcome : Except Error Unit}
    (helevates : ∀ past request, r.Elevates spec request → allowed past request)
    (hwork : ∀ entering, (∀ x ∈ entering, r.Elevates spec x.request) →
      Heeds allowed entering action)
    (h : (r.asOwner spec action).Yields log outcome) : Orderly allowed [] log := by
  have haround {past log : List Exchange} (h : ∀ x ∈ log, r.Elevates spec x.request) :
      Orderly allowed past log := .of_forall fun x hx _ => helevates _ _ (h x hx)
  rcases course_of_asOwner h with
    ⟨hlog, -⟩ | ⟨entering, working, leaving, o, rfl, hentering, hleaving, hw, -⟩
  · exact haround hlog
  · exact (haround hentering).append
      ((hwork entering hentering working o hw).append (haround hleaving))

/-- What only work does is not done by the requests for an elevation. -/
theorem eq_false_of_elevates {p : Request → Bool}
    (hp : ∀ {request : Request}, p request = true → request.isWork = true)
    (h : ∀ x ∈ log, r.Elevates spec x.request) : ∀ x ∈ log, p x.request = false :=
  fun x hx => Request.eq_false_of_idle hp (h x hx).isWork

theorem safelyDropped_of_delete {state : DatabaseState} {outcome : Except Error DatabaseState}
    (h : (r.delete state spec).Yields log outcome) :
    SafelyDropped r spec (state.id.getD spec.name) log := by
  have hnone {p : Request → Bool} {entering : List Exchange}
      (hp : ∀ {request : Request}, p request = true → request.isWork = true)
      (hentering : ∀ x ∈ entering, r.Elevates spec x.request) :
      entering.countP (p ·.request) = 0 :=
    List.countP_eq_zero.mpr fun x hx => by simp [eq_false_of_elevates hp hentering x hx]
  obtain ⟨_, h, -⟩ := (Action.yields_map _ _ _).mp h
  refine safelyDropped_of_orderly (orderly_of_asOwner (fun past _ => .elevated past) ?_ h)
    (orderly_of_asOwner ?_ ?_ h)
  · exact fun entering hentering => heeds_drop (hnone Request.isWork_of_marks hentering)
  · exact fun past request helevates hwork => (nomatch helevates.isWork.symm.trans hwork)
  · exact fun entering hentering => dropsLast_drop (hnone Request.isWork_of_drops hentering)

/-- Unless the mark is gone, dropping a database does nothing but look at it and try to take it
off. -/
theorem concludes_drop {outcome : Except Error Unit} (h : (r.drop name).Yields log outcome)
    (hleft : LeftMarked name log) :
    outcome = .error (.stillMarked name) ∧ ∀ y ∈ log, y.request.disrupts = false := by
  have hclear : Concludes name
      (.onlyIf (r.version.supports .isTemplate) (r.clearTemplate name)) := by
    cases hsupports : r.version.supports .isTemplate with
    | false => exact .of_unasked (.pure ())
    | true => exact concludes_clearTemplate hsupports
  have hcalm : Sends (fun request => request.disrupts = false)
      (.onlyIf (r.version.supports .isTemplate) (r.clearTemplate name)) :=
    .onlyIf fun _ => .clearTemplate rfl rfl
  have hunasked (a : Unit) : Sends (fun request => request.asksTemplate = false) (do
      drain mainSession name r.version
      run "error dropping database" (.drop name r.version)) :=
    Sends.bind (.drain (fun _ => rfl) rfl) fun _ => .run (by rfl) _
  rcases (Action.yields_bind _ _ _).mp h with ⟨e, hc, rfl⟩ | ⟨first, rest, a, rfl, hc, hr⟩
  · cases hclear log _ hc hleft
    exact ⟨rfl, hcalm log _ hc⟩
  · rcases hleft.of_append with hrest | ⟨hfirst, -⟩
    · exact absurd hrest (not_leftMarked (hunasked a rest outcome hr))
    · cases hclear first _ hc hfirst

theorem concludes_delete {state : DatabaseState} {outcome : Except Error DatabaseState}
    (h : (r.delete state spec).Yields log outcome)
    (hleft : LeftMarked (state.id.getD spec.name) log) :
    outcome = .error (.stillMarked (state.id.getD spec.name)) ∧
      ∀ y ∈ log, y.request.disrupts = false := by
  have hunasked {log : List Exchange} (h : ∀ x ∈ log, r.Elevates spec x.request) :
      ¬LeftMarked (state.id.getD spec.name) log :=
    not_leftMarked (eq_false_of_elevates Request.isWork_of_asksTemplate h)
  have hcalm {log : List Exchange} (h : ∀ x ∈ log, r.Elevates spec x.request) :
      ∀ x ∈ log, x.request.disrupts = false :=
    eq_false_of_elevates Request.isWork_of_disrupts h
  obtain ⟨dropped, hdrop, rfl⟩ := (Action.yields_map _ _ _).mp h
  rcases course_of_asOwner hdrop with
    ⟨hlog, -⟩ | ⟨entering, working, leaving, o, rfl, hentering, hleaving, hwork, hfails⟩
  · exact absurd hleft (hunasked hlog)
  · have hmiddle := hleft.of_append.resolve_right fun h => hunasked hentering h.1
    obtain ⟨hworking, -⟩ := hmiddle.of_append.resolve_left (hunasked hleaving)
    obtain ⟨rfl, hdropped⟩ := concludes_drop hwork hworking
    rw [hfails _ rfl]
    exact ⟨rfl, List.forall_mem_append.mpr ⟨hcalm hentering,
      List.forall_mem_append.mpr ⟨hdropped, hcalm hleaving⟩⟩⟩

/-- Whatever the connection answers, a call that deletes a database keeps to the order in which that
is safe. If the mark stays it fails, and no session is kept out or ended and nothing is dropped. -/
theorem safelyDropped_call {σ : Type} (r : Reconciler) (spec : DatabaseSpec)
    (state : DatabaseState) (server : Server σ) (link : Link σ) :
    let transcript := (r.call state (.delete spec)).run server link
    let name := state.id.getD spec.name
    SafelyDropped r spec name transcript.exchanges ∧
      (LeftMarked name transcript.exchanges →
        transcript.result.1 = .error (.stillMarked name) ∧
          ∀ y ∈ transcript.exchanges, y.request.disrupts = false) := by
  intro transcript name
  obtain ⟨outcome, hy, hresult⟩ :=
    yields_steps (Program.yields_run server (r.call state (.delete spec)) link)
  refine ⟨safelyDropped_of_delete hy, fun hleft => ?_⟩
  obtain ⟨rfl, hcalm⟩ := concludes_delete hy hleft
  exact ⟨hresult, hcalm⟩

/-- A server that does not give up the mark: it is taken off twice, in vain. -/
theorem safelyDropped_call_marked :
    let transcript := (call ⟨⟨16, 0, 0⟩, "app"⟩ .empty (.delete (.ofName "a"))).run Script.server
      (.start [⟨"", none, none, none, .success 0 (some (.ofValues [.bool true]))⟩])
    LeftMarked "a" transcript.exchanges ∧
      transcript.exchanges.countP (·.request.marks) = 2 ∧
      transcript.result.1 = .error (.stillMarked "a") ∧
      ∀ y ∈ transcript.exchanges, y.request.disrupts = false := by
  intro transcript
  have hleft : LeftMarked "a" transcript.exchanges :=
    ⟨[_, _, _, _], _, [], rfl, ⟨_, rfl, rfl⟩, List.forall_mem_nil _⟩
  have hsafe := safelyDropped_call ⟨⟨16, 0, 0⟩, "app"⟩ (.ofName "a") .empty Script.server
    (.start [⟨"", none, none, none, .success 0 (some (.ofValues [.bool true]))⟩])
  exact ⟨hleft, rfl, hsafe.2 hleft⟩

end Reconciler

end PgConverge
