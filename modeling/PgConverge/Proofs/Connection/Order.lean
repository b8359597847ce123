import PgConverge.Proofs.Connection.Yield

/-!
# What may follow what

Whether a request is in place can depend on the exchanges before it. A rule says which requests are
allowed after which exchanges, and an action heeds the rule if each of its requests is allowed where
it is made, whatever is answered.

## Main definitions

* `Orderly` — each request of a log is allowed after the exchanges before it.
* `Action.Heeds` — every log of an action is orderly.

## Main statements

* `Orderly.of_split` — a request anywhere in an orderly log is allowed there.
* `Orderly.countP_le` — requests that are allowed only as long as there are few stay few.
* `Action.Heeds.bind` — one action after another heeds a rule if both do.
-/

namespace PgConverge

/-- An exchange in one log after another stands in the second one or in the first one. -/
theorem cut_of_append_eq {first rest before after : List Exchange} {x : Exchange}
    (h : first ++ rest = before ++ x :: after) :
    (∃ between, before = first ++ between ∧ rest = between ++ x :: after) ∨
      ∃ between, first = before ++ x :: between ∧ after = between ++ rest := by
  rcases List.append_eq_append_iff.mp h with ⟨between, rfl, rfl⟩ | ⟨between, rfl, hrest⟩
  · exact .inl ⟨between, rfl, rfl⟩
  · cases between with
    | nil => exact .inl ⟨[], by simp, hrest.symm⟩
    | cons y between =>
      obtain ⟨rfl, rfl⟩ := List.cons.inj hrest
      exact .inr ⟨between, rfl, rfl⟩

/-- Whether each request of a log is allowed after the past and the exchanges before it. -/
def Orderly (allowed : List Exchange → Request → Prop) : List Exchange → List Exchange → Prop
  | _, [] => True
  | past, x :: log => allowed past x.request ∧ Orderly allowed (past ++ [x]) log

namespace Orderly

variable {allowed : List Exchange → Request → Prop} {past first rest log : List Exchange}

theorem append (h : Orderly allowed past first) (h' : Orderly allowed (past ++ first) rest) :
    Orderly allowed past (first ++ rest) := by
  induction first generalizing past with
  | nil => simpa using h'
  | cons x first ih =>
    obtain ⟨hx, hfirst⟩ := h
    refine ⟨hx, ih hfirst ?_⟩
    simpa using h'

theorem of_forall (h : ∀ x ∈ log, ∀ more, allowed (past ++ more) x.request) :
    Orderly allowed past log := by
  induction log generalizing past with
  | nil => trivial
  | cons x log ih =>
    obtain ⟨hx, hlog⟩ := List.forall_mem_cons.mp h
    refine ⟨by simpa using hx [], ih fun y hy more => ?_⟩
    simpa using hlog y hy ([x] ++ more)

theorem mono {allowed' : List Exchange → Request → Prop} (h : Orderly allowed past log)
    (hmono : ∀ past request, allowed past request → allowed' past request) :
    Orderly allowed' past log := by
  induction log generalizing past with
  | nil => trivial
  | cons x log ih => exact ⟨hmono _ _ h.1, ih h.2⟩

theorem of_split {before after : List Exchange} {x : Exchange}
    (h : Orderly allowed past (before ++ x :: after)) : allowed (past ++ before) x.request := by
  induction before generalizing past with
  | nil => simpa using h.1
  | cons y before ih => simpa using ih h.2

theorem forall_mem {P : Request → Prop} (h : Orderly allowed past log)
    (hP : ∀ past request, allowed past request → P request) : ∀ x ∈ log, P x.request := by
  intro x hx
  obtain ⟨before, after, rfl⟩ := List.append_of_mem hx
  exact hP _ _ h.of_split

/-- A kind of request that is allowed only after fewer than `n` of its kind is made at most `n`
times. -/
theorem countP_le {p : Request → Bool} {n : Nat}
    (hp : ∀ past request, allowed past request → p request = true →
      past.countP (p ·.request) < n)
    (h : Orderly allowed past log) (hpast : past.countP (p ·.request) ≤ n) :
    (past ++ log).countP (p ·.request) ≤ n := by
  induction log generalizing past with
  | nil => simpa using hpast
  | cons x log ih =>
    obtain ⟨hx, hlog⟩ := h
    have hnext : (past ++ [x]).countP (p ·.request) ≤ n := by
      by_cases hpx : p x.request = true
      · have := hp past x.request hx hpx
        simp [hpx]
        omega
      · simpa [hpx] using hpast
    simpa using ih hlog hnext

end Orderly

namespace Action

variable {α β : Type}

/-- Whether each request of an action is allowed after the past and what the action has done
before. -/
def Heeds (allowed : List Exchange → Request → Prop) (past : List Exchange)
    (action : Action α) : Prop :=
  ∀ log outcome, action.Yields log outcome → Orderly allowed past log

namespace Heeds

variable {allowed : List Exchange → Request → Prop} {past : List Exchange}

theorem of_sends {action : Action α}
    (h : Sends (fun request => ∀ more, allowed (past ++ more) request) action) :
    Heeds allowed past action :=
  fun log outcome hy => .of_forall (h log outcome hy)

theorem pure (a : α) : Heeds allowed past (Pure.pure a : Action α) := by
  rintro log outcome ⟨rfl, rfl⟩
  trivial

theorem throw (e : Error) : Heeds allowed past (MonadExcept.throw e : Action α) := by
  rintro log outcome ⟨rfl, rfl⟩
  trivial

theorem request {r : Request} (h : allowed past r) : Heeds allowed past (Action.request r) := by
  intro log outcome hy
  obtain rfl := (yields_request r outcome).mp hy
  exact ⟨h, trivial⟩

theorem inContext {action : Action α} (context : String) (h : Heeds allowed past action) :
    Heeds allowed past (action.inContext context) := by
  intro log outcome hy
  obtain ⟨o, ho, rfl⟩ := (yields_inContext context action outcome).mp hy
  exact h log o ho

theorem bind {action : Action α} {f : α → Action β} (h : Heeds allowed past action)
    (hf : ∀ first a, action.Yields first (.ok a) → Heeds allowed (past ++ first) (f a)) :
    Heeds allowed past (action >>= f) := by
  intro log outcome hy
  rcases (yields_bind action f outcome).mp hy with ⟨e, ha, rfl⟩ | ⟨first, rest, a, rfl, ha, hr⟩
  · exact h log _ ha
  · exact (h first _ ha).append (hf first a ha rest outcome hr)

/-- A check that fails makes no request. -/
theorem liftExcept_bind {o : Except Error α} {f : α → Action β}
    (h : ∀ a, o = .ok a → Heeds allowed past (f a)) :
    Heeds allowed past ((liftM o : Action α) >>= f) := by
  intro log outcome hy
  rcases (yields_bind _ f outcome).mp hy with ⟨e, ⟨rfl, -⟩, rfl⟩ | ⟨_, rest, a, rfl, ⟨rfl, ha⟩, hr⟩
  · trivial
  · exact h a ha.symm rest outcome hr

theorem onlyIf {condition : Bool} {action : Action Unit}
    (h : condition = true → Heeds allowed past action) :
    Heeds allowed past (Action.onlyIf condition action) := by
  cases condition with
  | false => exact pure ()
  | true => exact h rfl

end Heeds

end Action

end PgConverge
