import PgConverge.Proofs.Connection.Order
import PgConverge.Proofs.Elevation.Cleanup
import PgConverge.Proofs.Reconciler.Call

/-!
# Performing a plan

A plan is a list of statements. A log performs it if it sends a first part of the plan and nothing
else, with all that is owed for one statement done before the next one, and an action performs it if
all its logs do and those that succeed send all of it.

## Main definitions

* `sent` — the statements in a log, except those for memberships.
* `Performed`, `Action.Performs` — a log, and every log of an action, performs a plan.

## Main statements

* `Performed.append`, `Action.Performs.bind` — what comes after another performs both plans, the one
  after the other.
-/

namespace PgConverge

/-! ## Logs that perform a plan -/

/-- The statement of a request, unless it only concerns a membership. -/
def Request.statement? : Request → Option Statement
  | execute _ (.grantRole ..) | execute _ (.revokeRole ..) => none
  | execute _ statement => some statement
  | _ => none

theorem Request.statement?_execute {statement : Statement} (h : statement.changesRoles = false)
    (session : SessionId) : (execute session statement).statement? = some statement := by
  cases statement <;> first | rfl | cases h

theorem Elevation.Makes.statement?_eq_none {principal group : String} {database : Option String}
    {request : Request} (h : Elevation.Makes principal group database request) :
    request.statement? = none := by
  cases h with
  | _ => rfl

theorem Elevation.Entered.statement?_eq_none {principal group : String}
    {database : Option String} {log : List Exchange} {outcome : Except Error Elevation}
    (h : Entered principal group database log outcome) :
    ∀ x ∈ log, x.request.statement? = none :=
  h.forall_request (P := (Request.statement? · = none)) rfl (fun _ => rfl) rfl rfl fun _ => rfl

/-- The statements in a log, except those for memberships. -/
def sent (log : List Exchange) : List Statement := log.filterMap (·.request.statement?)

@[simp] theorem sent_cons (x : Exchange) (log : List Exchange) :
    sent (x :: log) = x.request.statement?.toList ++ sent log := by
  cases hx : x.request.statement? <;> simp [sent, hx]

@[simp] theorem sent_append (first rest : List Exchange) :
    sent (first ++ rest) = sent first ++ sent rest := List.filterMap_append

theorem sent_eq_nil {log : List Exchange} (h : ∀ x ∈ log, x.request.statement? = none) :
    sent log = [] := List.filterMap_eq_nil_iff.mpr h

/-- Whether a log leads from the start of the protocol back to it and sends a first part of a plan,
or all of it if it is done, with nothing left to clean up at some point between any two of its
statements. -/
structure Performed (principal : String) (plan : List Statement) (log : List Exchange)
    (done : Bool) : Prop where
  path : Phase.Path principal .idle log .idle
  isPrefix : sent log <+: plan
  complete : done = true → sent log = plan
  settled : ∀ before x middle y after, log = before ++ x :: (middle ++ y :: after) →
    x.request.statement?.isSome = true → y.request.statement?.isSome = true →
    ∃ cleaning rest, middle = cleaning ++ rest ∧
      Duties.after (before ++ x :: cleaning) = ⟨none, none⟩

/-- After a log that owes nothing, only what comes next matters. -/
theorem Duties.after_append {first : List Exchange} (h : after first = ⟨none, none⟩)
    (rest : List Exchange) : after (first ++ rest) = after rest := by
  rw [after, List.foldl_append]
  exact congrArg (rest.foldl next) h

namespace Performed

variable {principal : String} {plan plan' : List Statement} {first rest log : List Exchange}
  {done : Bool}

/-- A single statement has none before it. -/
theorem of_length_le (hpath : Phase.Path principal .idle log .idle) (hsent : sent log <+: plan)
    (hcomplete : done = true → sent log = plan) (hplan : plan.length ≤ 1) :
    Performed principal plan log done where
  path := hpath
  isPrefix := hsent
  complete := hcomplete
  settled := by
    rintro before x middle y after rfl hx hy
    obtain ⟨s, hs⟩ := Option.isSome_iff_exists.mp hx
    obtain ⟨t, ht⟩ := Option.isSome_iff_exists.mp hy
    have hlength := hsent.length_le
    simp [sent, hs, ht] at hlength
    omega

theorem of_statementless (hpath : Phase.Path principal .idle log .idle)
    (hlog : ∀ x ∈ log, x.request.statement? = none) : Performed principal [] log done :=
  .of_length_le hpath (by simp [sent_eq_nil hlog]) (fun _ => sent_eq_nil hlog) (by simp)

/-- Where a plan is given up, it does not matter what would have come. -/
theorem stop (h : Performed principal plan log done) (plan' : List Statement) :
    Performed principal (plan ++ plan') log false where
  path := h.path
  isPrefix := h.isPrefix.trans (List.prefix_append plan plan')
  complete := nofun
  settled := h.settled

theorem append (h : Performed principal plan first true)
    (h' : Performed principal plan' rest done) :
    Performed principal (plan ++ plan') (first ++ rest) done where
  path := h.path.append h'.path
  isPrefix := by
    rw [sent_append, h.complete rfl]
    exact List.prefix_append_right_inj plan |>.mpr h'.isPrefix
  complete hdone := by rw [sent_append, h.complete rfl, h'.complete hdone]
  settled := by
    intro before x middle y after hlog hx hy
    have hidle : Duties.after first = ⟨none, none⟩ := h.path.duties_after
    rcases cut_of_append_eq hlog with ⟨between, rfl, hrest⟩ | ⟨between, hfirst, hbetween⟩
    · obtain ⟨cleaning, more, rfl, hclean⟩ := h'.settled _ _ _ _ _ hrest hx hy
      refine ⟨cleaning, more, rfl, ?_⟩
      rw [List.append_assoc, Duties.after_append hidle, hclean]
    rcases cut_of_append_eq hbetween.symm with ⟨more, rfl, -⟩ | ⟨more, rfl, -⟩
    · exact ⟨between, more, rfl, hfirst ▸ hidle⟩
    · exact h.settled _ _ _ _ _ hfirst hx hy

end Performed

/-! ## Actions that perform a plan -/

namespace Action

variable {α β : Type} {principal : String} {plan plan' : List Statement}

/-- Whether an action performs a plan, all of it if it succeeds. -/
def Performs (principal : String) (plan : List Statement) (action : Action α) : Prop :=
  ∀ log outcome, action.Yields log outcome → Performed principal plan log outcome.isOk

namespace Performs

theorem of_statementless {action : Action α} (hpath : Follows principal action)
    (hsends : Sends (fun request => request.statement? = none) action) :
    Performs principal [] action :=
  fun log outcome hy => .of_statementless (hpath log outcome hy) (hsends log outcome hy)

theorem liftExcept (o : Except Error α) : Performs principal [] (liftM o : Action α) :=
  of_statementless (.of_plain (.liftExcept o)) (.liftExcept o)

theorem bind {action : Action α} {f : α → Action β} (h : Performs principal plan action)
    (hf : ∀ a, Performs principal plan' (f a)) :
    Performs principal (plan ++ plan') (action >>= f) := by
  intro log outcome hy
  rcases (yields_bind action f outcome).mp hy with ⟨e, ha, rfl⟩ | ⟨first, rest, a, rfl, ha, hr⟩
  · exact (h log _ ha).stop plan'
  · exact (h first _ ha).append (hf a rest outcome hr)

/-- A step that is left out performs nothing. -/
theorem onlyIf {p : Prop} [Decidable p] {condition : Bool} {action : Action Unit}
    (hcondition : condition = true ↔ p) (h : Performs principal plan action) :
    Performs principal (if p then plan else []) (Action.onlyIf condition action) := by
  cases condition with
  | false =>
    rw [if_neg (mt hcondition.mpr Bool.false_ne_true)]
    exact of_statementless (.of_plain (.pure ())) (.pure ())
  | true =>
    rw [if_pos (hcondition.mp rfl)]
    exact h

/-- A statement is a plan of its own. -/
theorem run {statement : Statement} (h : statement.changesRoles = false) (context : String) :
    Performs principal [statement] (Reconciler.run context statement) := by
  intro log outcome hy
  obtain ⟨answer, rfl, -⟩ := (yields_executeInContext ..).mp hy
  have hsent : sent [⟨.execute mainSession statement, answer⟩] = [statement] := by
    simp [sent, Request.statement?_execute h]
  have hplain := Request.isPlain_execute h
  exact .of_length_le (.single (.work hplain.1 hplain.2)) (by simp [hsent]) (fun _ => hsent)
    (by simp)

/-- What is done for an elevation adds no statement. -/
theorem elevated {r : Reconciler} {statement : Statement} (h : statement.changesRoles = false)
    (group context : String) :
    Performs r.principal [statement] (r.elevated group (Reconciler.run context statement)) := by
  intro log outcome hy
  have hpath := r.follows_elevated group (.run (Request.isPlain_execute h) context) log outcome hy
  rcases (yields_bind _ _ _).mp hy with ⟨e, he, rfl⟩ | ⟨entering, rest, elevation, rfl, he, hr⟩
  · have hsent := sent_eq_nil (Elevation.entered_of_yields he).statement?_eq_none
    exact .of_length_le hpath (by simp [hsent]) nofun (by simp)
  · obtain ⟨working, leaving, o, rfl, hw, hl⟩ := (yields_attempt_bind _ _ _).mp hr
    obtain ⟨answer, rfl, -⟩ := (yields_executeInContext ..).mp hw
    have hentering := sent_eq_nil (Elevation.entered_of_yields he).statement?_eq_none
    have hexit : Sends (fun request => request.statement? = none) (elevation.exit o) := .exit o
      fun _ (hmakes : Elevation.Makes _ _ none _) => hmakes.statement?_eq_none
    have hleaving := sent_eq_nil (hexit leaving _ hl)
    have hsent : sent (entering ++ ([⟨.execute mainSession statement, answer⟩] ++ leaving)) =
        [statement] := by
      rw [sent_append, sent_append, hentering, hleaving]
      simp [sent, Request.statement?_execute h]
    exact .of_length_le hpath (hsent ▸ List.prefix_refl _) (fun _ => hsent) (by simp)

end Performs

end Action

end PgConverge
