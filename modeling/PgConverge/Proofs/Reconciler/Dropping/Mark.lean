import PgConverge.Proofs.Reconciler.Dropping.Order

/-!
# Looking for the mark of a template

What is found out about the template mark is what the catalog shows. If the last thing that it shows
is the mark, nothing is done any more but to fail.

## Main definitions

* `LeftMarked` — the mark was there and has not been taken off since.
* `Reconciler.Concludes` — an action fails for a mark that stays.

## Main statements

* `Reconciler.concludes_clearTemplate` — taking off the mark fails for a mark that stays.
-/

namespace PgConverge

/-- Whether the last that a log shows of the mark is that it is there, and it has not been taken off
since. -/
def LeftMarked (name : String) (log : List Exchange) : Prop :=
  ∃ before look after, log = before ++ look :: after ∧ look.ShowsMark name ∧
    ∀ y ∈ after, y.request.marks = false

theorem LeftMarked.of_append {name : String} {first rest : List Exchange}
    (h : LeftMarked name (first ++ rest)) :
    LeftMarked name rest ∨ LeftMarked name first ∧ ∀ y ∈ rest, y.request.marks = false := by
  obtain ⟨before, look, after, hlog, hshows, hafter⟩ := h
  rcases List.append_eq_append_iff.mp hlog with ⟨more, rfl, rfl⟩ | ⟨more, rfl, hmore⟩
  · exact .inl ⟨more, look, after, rfl, hshows, hafter⟩
  · cases more with
    | nil => exact .inl ⟨[], look, after, hmore.symm, hshows, hafter⟩
    | cons x more =>
      obtain ⟨rfl, rfl⟩ := List.cons.inj hmore
      obtain ⟨hmore, hrest⟩ := List.forall_mem_append.mp hafter
      exact .inr ⟨⟨before, look, more, rfl, hshows, hmore⟩, hrest⟩

theorem not_leftMarked {name : String} {log : List Exchange}
    (h : ∀ x ∈ log, x.request.asksTemplate = false) : ¬LeftMarked name log := by
  rintro ⟨before, look, after, rfl, ⟨row, rfl, -⟩, -⟩
  cases h _ (List.mem_append_right before List.mem_cons_self)

namespace Reconciler

open PgConverge.Action (Sends)

variable {r : Reconciler} {name : String} {log : List Exchange} {α : Type}

theorem isMarkedTemplate_answer {outcome : Except Error Bool}
    (h : (isMarkedTemplate name).Yields log outcome) :
    ∃ answer, log = [⟨.query mainSession (.databaseIsTemplate name), answer⟩] ∧
      outcome = (Catalog.decoded "error reading IS_TEMPLATE property for database"
        (Row.boolean · 0) answer).map (· == some true) := by
  obtain ⟨o, ho, rfl⟩ := (Action.yields_map _ _ _).mp h
  obtain ⟨answer, rfl, rfl⟩ := Catalog.yields_lookup.mp ho
  exact ⟨answer, rfl, rfl⟩

/-- What is found out about the mark is what the catalog shows. -/
theorem shown_of_isMarkedTemplate {marked : Bool}
    (h : (isMarkedTemplate name).Yields log (.ok marked)) :
    ∃ look : Exchange, log = [look] ∧ (marked = true → look.ShowsMark name) ∧
      (marked = false → look.ShowsNoMark name) := by
  obtain ⟨answer, rfl, hmarked⟩ := isMarkedTemplate_answer h
  refine ⟨_, rfl, ?_⟩
  rcases answer with e | _ | row
  · cases hmarked
  · cases hmarked
    simp [Exchange.ShowsNoMark]
  · rw [Catalog.decoded] at hmarked
    cases hrow : row.boolean 0 with
    | error e =>
      rw [hrow] at hmarked
      cases hmarked
    | ok flag =>
      rw [hrow] at hmarked
      cases flag with
      | true =>
        cases hmarked
        exact ⟨fun _ => ⟨row, rfl, hrow⟩, fun hfalse => by cases hfalse⟩
      | false =>
        cases hmarked
        refine ⟨fun htrue => (by cases htrue), fun _ => ⟨some row, rfl, fun _ hr => ?_⟩⟩
        cases hr
        exact hrow

theorem setIsTemplate_answer {isTemplate : Bool} {outcome : Except Error Unit}
    (hsupports : r.version.supports .isTemplate = true)
    (h : (r.setIsTemplate name isTemplate).Yields log outcome) :
    ∃ answer, log = [⟨.execute mainSession (.setIsTemplate name isTemplate), answer⟩] := by
  rw [setIsTemplate, ServerVersion.require, if_pos hsupports] at h
  obtain ⟨answer, rfl, -⟩ := (Action.yields_executeInContext ..).mp h
  exact ⟨answer, rfl⟩

/-- Whether an action fails for a mark that stays. -/
def Concludes (name : String) (action : Action α) : Prop :=
  ∀ log outcome, action.Yields log outcome → LeftMarked name log →
    outcome = .error (.stillMarked name)

namespace Concludes

theorem of_unasked {action : Action α}
    (h : Sends (fun request => request.asksTemplate = false) action) : Concludes name action :=
  fun log outcome hy hleft => absurd hleft (not_leftMarked (h log outcome hy))

theorem bind {β : Type} {action : Action α} {f : α → Action β} (h : Concludes name action)
    (hf : ∀ a, Concludes name (f a)) : Concludes name (action >>= f) := by
  intro log outcome hy hleft
  rcases (Action.yields_bind _ _ _).mp hy with ⟨e, ha, rfl⟩ | ⟨first, rest, a, rfl, ha, hr⟩
  · cases h log _ ha hleft
    rfl
  · rcases hleft.of_append with hrest | ⟨hfirst, -⟩
    · exact hf a rest outcome hr hrest
    · cases h first _ ha hfirst

/-- A look that shows the mark has to be followed by taking it off, or by the failure. -/
theorem look_bind {f : Bool → Action α} (hf : ∀ marked, Concludes name (f marked))
    (hnext : ∀ log outcome, (f true).Yields log outcome →
      (∀ y ∈ log, y.request.marks = false) → outcome = .error (.stillMarked name)) :
    Concludes name (isMarkedTemplate name >>= f) := by
  have hmarked {log : List Exchange} {outcome : Except Error Bool}
      (h : (isMarkedTemplate name).Yields log outcome) (hleft : LeftMarked name log) :
      outcome = .ok true := by
    obtain ⟨answer, rfl, rfl⟩ := isMarkedTemplate_answer h
    obtain ⟨before, look, after, hlog, ⟨row, rfl, hrow⟩, -⟩ := hleft
    obtain ⟨rfl, heq⟩ | ⟨_, heq, hnil⟩ := List.cons_eq_append_iff.mp hlog
    · cases heq
      rw [Catalog.decoded, hrow]
      rfl
    · simp at hnil
  intro log outcome hy hleft
  rcases (Action.yields_bind _ _ _).mp hy with ⟨e, ha, rfl⟩ | ⟨first, rest, marked, rfl, ha, hr⟩
  · cases hmarked ha hleft
  · rcases hleft.of_append with hrest | ⟨hfirst, hunmarked⟩
    · exact hf marked rest outcome hr hrest
    · cases hmarked ha hfirst
      exact hnext rest outcome hr hunmarked

end Concludes

theorem concludes_refuseMarked : Concludes name (refuseMarked name) := by
  refine .look_bind (fun marked => ?_) fun log outcome hy _ => hy.2
  cases marked with
  | false => exact .of_unasked (.pure _)
  | true => exact .of_unasked (.throw _)

theorem concludes_clearTemplate (hsupports : r.version.supports .isTemplate = true) :
    Concludes name (r.clearTemplate name) := by
  have hset : Concludes name (r.setIsTemplate name false) :=
    .of_unasked (.setIsTemplate fun _ => rfl)
  -- What follows a look at the mark starts with taking it off.
  have hclears {f : Unit → Action Unit} {log : List Exchange} {outcome : Except Error Unit}
      (hy : (r.setIsTemplate name false >>= f).Yields log outcome) :
      ¬∀ y ∈ log, y.request.marks = false := by
    intro hnone
    rcases (Action.yields_bind _ _ _).mp hy with ⟨e, ha, -⟩ | ⟨first, rest, _, rfl, ha, -⟩
    · obtain ⟨answer, rfl⟩ := setIsTemplate_answer hsupports ha
      cases hnone _ (List.mem_singleton_self _)
    · obtain ⟨answer, rfl⟩ := setIsTemplate_answer hsupports ha
      cases hnone _ List.mem_cons_self
  rw [clearTemplate_eq]
  refine .look_bind (fun marked => ?_) fun log outcome hy hnone => absurd hnone (hclears hy)
  cases marked with
  | false => exact .of_unasked (.pure _)
  | true =>
    refine hset.bind fun _ => .look_bind (fun again => ?_)
      fun log outcome hy hnone => absurd hnone (hclears hy)
    cases again with
    | false => exact concludes_refuseMarked
    | true => exact hset.bind fun _ => concludes_refuseMarked

end Reconciler

end PgConverge
