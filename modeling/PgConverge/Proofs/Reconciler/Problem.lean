import PgConverge.Proofs.Connection.Order
import PgConverge.Proofs.Elevation.Cleanup
import PgConverge.Proofs.Reconciler.Call

/-!
# Problems during a call

A request that fails is a problem, and so is an answer with which a call cannot go on. An action
stops at the first problem if it fails with the error that the problem means and makes no request
after it but cleanup.

## Main definitions

* `Reports` — what is reported of a request that fails.
* `Problem` — the problems that a call can meet, with the errors that they mean.
* `Smooth`, `Stopped`, `Settled` — logs without a problem, logs that stop at the first one, and logs
  that do the one or the other with an outcome.
* `Action.Stops` — an action stops at the first problem.

## Main statements

* `Action.Stops.bind` — one action after another stops at the first problem if both do.
-/

namespace PgConverge

namespace Request

/-- Whether a request asks for the owner of a database. -/
def asksOwner : Request → Bool
  | query _ (.databaseOwner _) => true
  | _ => false

/-- Whether a request asks whether a database is a template. -/
def asksTemplate : Request → Bool
  | query _ (.databaseIsTemplate _) => true
  | _ => false

end Request

/-- Whether an update hands over objects. -/
def SpecChange.handsOver (change : SpecChange) : Bool :=
  change.differs .owner && change.desired.reassignObjects && change.desired.requestedOwner.isSome

/-- What is reported of a request that failed: a lock error if it was to obtain the lock on the
role, else the error itself, perhaps with another context. -/
def Reports (principal : String) : Request → Error → Error → Prop
  | .begin _, e, e' => e' = .lock principal ("could not open lock transaction: " ++ e.message)
  | .query _ (.lockRole _), e, e' => e' = .lock principal e.message
  | _, e, e' => e' = e ∨ ∃ context, e' = e.inContext context

/-- The exchanges that are a problem for a call after those before, with the error that each
means. -/
inductive Problem (principal : String) (call : Call) : List Exchange → Exchange → Error → Prop where
  | failed {past : List Exchange} {x : Exchange} {e e' : Error} : x.outcome = .error e →
      Reports principal x.request e e' → Problem principal call past x e'
  | unlocked {past : List Exchange} {session : SessionId} {role : String} :
      Problem principal call past ⟨.query session (.lockRole role), .ok none⟩
        (.lock role "role does not exist")
  | owner {past : List Exchange} {session : SessionId} {name : String} {row : Row} {e : Error} :
      row.databaseOwner = .error e →
      Problem principal call past ⟨.query session (.databaseOwner name), .ok (some row)⟩ e
  | settings {past : List Exchange} {session : SessionId} {name : String} {row : Row} {e : Error} :
      row.databaseSettings = .error e →
      Problem principal call past ⟨.query session (.databaseSettings name), .ok (some row)⟩ e
  | allowConnections {past : List Exchange} {session : SessionId} {name : String} {row : Row}
      {e : Error} : row.boolean 0 = .error e →
      Problem principal call past
        ⟨.query session (.databaseAllowConnections name), .ok (some row)⟩ e
  | isTemplate {past : List Exchange} {session : SessionId} {name : String} {row : Row}
      {e : Error} : row.boolean 0 = .error e →
      Problem principal call past ⟨.query session (.databaseIsTemplate name), .ok (some row)⟩ e
  /-- The database that is to be adopted does not exist. -/
  | absent {past : List Exchange} {session : SessionId} {question : Query} {name : String} :
      call = .adopt name → question.readsDatabase = true →
      Problem principal call past ⟨.query session question, .ok none⟩ (.notFound name)
  /-- The database whose objects are to be handed over does not exist. -/
  | ownerless {past : List Exchange} {session : SessionId} {name : String} {change : SpecChange} :
      call = .update change → change.handsOver = true →
      (∀ y ∈ past, y.request.asksOwner = false) →
      Problem principal call past ⟨.query session (.databaseOwner name), .ok none⟩ (.notFound name)
  /-- The template mark is still there when it is looked for the third time. -/
  | marked {past : List Exchange} {session : SessionId} {name : String} {spec : DatabaseSpec}
      {row : Row} : call = .delete spec → past.countP (·.request.asksTemplate) = 2 →
      row.boolean 0 = .ok true →
      Problem principal call past ⟨.query session (.databaseIsTemplate name), .ok (some row)⟩
        (.stillMarked name)

/-- Whether no exchange of a log is a problem, after those that are past. -/
def Smooth (principal : String) (call : Call) : List Exchange → List Exchange → Prop
  | _, [] => True
  | past, x :: log =>
    (∀ e, ¬Problem principal call past x e) ∧ Smooth principal call (past ++ [x]) log

/-- Whether a log comes to a problem that means an error, and has nothing but cleanup after the
first problem. -/
def Stopped (principal : String) (call : Call) (past log : List Exchange) (e : Error) : Prop :=
  ∃ before x after, log = before ++ x :: after ∧ Smooth principal call past before ∧
    Problem principal call (past ++ before) x e ∧ ∀ y ∈ after, y.request.isCleanup = true

/-- Whether a log has no problem if it means a value, and stops at the first one if it means an
error, which is that of the problem. -/
def Settled {α : Type} (principal : String) (call : Call) (past log : List Exchange) :
    Except Error α → Prop
  | .ok _ => Smooth principal call past log
  | .error e => Stopped principal call past log e

theorem Settled.map {α β : Type} {principal : String} {call : Call} {past log : List Exchange}
    {outcome : Except Error α} (h : Settled principal call past log outcome) (f : α → β) :
    Settled principal call past log (outcome.map f) := by
  cases outcome with
  | ok a => exact h
  | error e => exact h

theorem Reports.of_inContext {principal : String} {request : Request} (e : Error) (context : String)
    (h : ∀ database, request ≠ .begin database)
    (h' : ∀ session role, request ≠ .query session (.lockRole role)) :
    Reports principal request e (e.inContext context) := by
  unfold Reports
  split
  · exact absurd rfl (h _)
  · exact absurd rfl (h' _ _)
  · exact .inr ⟨context, rfl⟩

section Logs

variable {principal : String} {call : Call} {past first rest : List Exchange} {x : Exchange}
  {e : Error}

theorem Smooth.append (h : Smooth principal call past first)
    (h' : Smooth principal call (past ++ first) rest) :
    Smooth principal call past (first ++ rest) := by
  induction first generalizing past with
  | nil => rwa [List.append_nil] at h'
  | cons x first ih => exact ⟨h.1, ih h.2 (by rwa [List.append_assoc])⟩

theorem smooth_singleton :
    Smooth principal call past [x] ↔ ∀ e, ¬Problem principal call past x e :=
  and_iff_left trivial

/-- What is done on a connection is a problem only if it fails. -/
theorem smooth_of_command {request : Request} {answer : request.Answer}
    (h : ∀ session question, request ≠ .query session question) :
    Smooth principal call past [⟨request, .ok answer⟩] := by
  refine smooth_singleton.mpr fun e hp => ?_
  cases hp with
  | failed hout => cases hout
  | _ => exact h _ _ rfl

theorem Smooth.isOk (h : Smooth principal call past rest) (hx : x ∈ rest) :
    x.outcome.isOk = true := by
  induction rest generalizing past with
  | nil => cases hx
  | cons y rest ih =>
    rcases List.mem_cons.mp hx with rfl | hx
    · cases hout : x.outcome with
      | ok a => rfl
      | error e =>
        exfalso
        have hno := h.1
        rcases x with ⟨request, outcome⟩
        by_cases hbegin : ∃ database, request = .begin database
        · obtain ⟨database, rfl⟩ := hbegin
          exact hno _ (.failed hout rfl)
        by_cases hlock : ∃ session role, request = .query session (.lockRole role)
        · obtain ⟨session, role, rfl⟩ := hlock
          exact hno _ (.failed hout rfl)
        exact hno _ (.failed hout (.of_inContext e "" (fun d h => hbegin ⟨d, h⟩)
          fun s role h => hlock ⟨s, role, h⟩))
    · exact ih h.2 hx

theorem Stopped.prepend (h : Smooth principal call past first)
    (h' : Stopped principal call (past ++ first) rest e) :
    Stopped principal call past (first ++ rest) e := by
  obtain ⟨before, x, after, rfl, hs, hp, hc⟩ := h'
  exact ⟨first ++ before, x, after, (List.append_assoc ..).symm, h.append hs,
    by rwa [← List.append_assoc], hc⟩

/-- Cleanup may follow. -/
theorem Stopped.append (h : Stopped principal call past first e)
    (h' : ∀ y ∈ rest, y.request.isCleanup = true) :
    Stopped principal call past (first ++ rest) e := by
  obtain ⟨before, x, after, rfl, hs, hp, hc⟩ := h
  exact ⟨before, x, after ++ rest, by simp, hs, hp, List.forall_mem_append.mpr ⟨hc, h'⟩⟩

theorem Stopped.single (h : Problem principal call past x e) :
    Stopped principal call past [x] e :=
  ⟨[], x, [], rfl, trivial, by rwa [List.append_nil], List.forall_mem_nil _⟩

end Logs

/-! ## Actions that stop -/

namespace Action

variable {α β : Type}

/-- Whether an action stops at the first problem. Without one it fails only with an error of its
own, of one of the given categories. -/
def Stops (principal : String) (call : Call) (own : List Category) (past : List Exchange)
    (action : Action α) : Prop :=
  ∀ log outcome, action.Yields log outcome →
    (Smooth principal call past log ∧ ∀ e, outcome = .error e → e.category ∈ own) ∨
      ∃ e, outcome = .error e ∧ Stopped principal call past log e

namespace Stops

variable {principal : String} {call : Call} {own : List Category} {past : List Exchange}

theorem pure (a : α) : Stops principal call own past (Pure.pure a : Action α) := by
  rintro log outcome ⟨rfl, rfl⟩
  exact .inl ⟨trivial, nofun⟩

theorem liftExcept {o : Except Error α} (h : ∀ e, o = .error e → e.category ∈ own) :
    Stops principal call own past (liftM o : Action α) := by
  rintro log outcome ⟨rfl, rfl⟩
  exact .inl ⟨trivial, h⟩

theorem throw {e : Error} (h : e.category ∈ own) :
    Stops principal call own past (MonadExcept.throw e : Action α) := by
  rintro log outcome ⟨rfl, rfl⟩
  refine .inl ⟨trivial, ?_⟩
  rintro _ ⟨⟩
  exact h

theorem mono {action : Action α} (h : Stops principal call [] past action) :
    Stops principal call own past action := fun log outcome hy =>
  (h log outcome hy).imp_left fun ⟨hs, he⟩ => ⟨hs, fun e ho => nomatch he e ho⟩

theorem settled {action : Action α} (h : Stops principal call [] past action)
    {log : List Exchange} {outcome : Except Error α} (hy : action.Yields log outcome) :
    Settled principal call past log outcome := by
  rcases h log outcome hy with ⟨hs, he⟩ | ⟨e, rfl, hstop⟩
  · cases outcome with
    | ok a => exact hs
    | error e => exact nomatch he e rfl
  · exact hstop

theorem of_settled {action : Action α} (h : ∀ log outcome, action.Yields log outcome →
      Settled principal call past log outcome) : Stops principal call own past action := by
  intro log outcome hy
  have hsettled := h log outcome hy
  cases outcome with
  | ok a => exact .inl ⟨hsettled, nofun⟩
  | error e => exact .inr ⟨e, rfl, hsettled⟩

theorem bind {action : Action α} {f : α → Action β} (h : Stops principal call own past action)
    (hf : ∀ first a, action.Yields first (.ok a) →
      Stops principal call own (past ++ first) (f a)) :
    Stops principal call own past (action >>= f) := by
  intro log outcome hy
  rcases (yields_bind action f outcome).mp hy with ⟨e, ha, rfl⟩ | ⟨first, rest, a, rfl, ha, hr⟩
  · rcases h log _ ha with ⟨hs, he⟩ | ⟨e', he, hstop⟩
    · refine .inl ⟨hs, ?_⟩
      rintro _ ⟨⟩
      exact he e rfl
    · cases he
      exact .inr ⟨e, rfl, hstop⟩
  · rcases h first _ ha with ⟨hs, -⟩ | ⟨_, he, -⟩
    · rcases hf first a ha rest outcome hr with ⟨hs', he⟩ | ⟨e, he, hstop⟩
      · exact .inl ⟨hs.append hs', he⟩
      · exact .inr ⟨e, he, .prepend hs hstop⟩
    · cases he

theorem onlyIf {condition : Bool} {action : Action Unit}
    (h : condition = true → Stops principal call own past action) :
    Stops principal call own past (Action.onlyIf condition action) := by
  cases condition with
  | false => exact pure ()
  | true => exact h rfl

/-- A statement is a problem only if it fails. -/
theorem execute (session : SessionId) (statement : Statement) (context : String) :
    Stops principal call own past ((Session.execute session statement).inContext context) := by
  intro log outcome hy
  obtain ⟨e | affected, ho, rfl⟩ := (yields_inContext _ _ _).mp hy
  · obtain rfl := (Session.yields_execute session statement _).mp ho
    exact .inr ⟨_, rfl, .single (.failed rfl (.inr ⟨context, rfl⟩))⟩
  · obtain rfl := (Session.yields_execute session statement _).mp ho
    exact .inl ⟨smooth_of_command nofun, nofun⟩

theorem run (statement : Statement) (context : String) :
    Stops principal call own past (Reconciler.run context statement) :=
  (execute mainSession statement context).bind fun _ _ _ => pure ()

/-- A request that is no cleanup is made only if nothing has failed before. -/
theorem isOk_of_split {action : Action α} {log before after : List Exchange} {x : Exchange}
    {outcome : Except Error α} (h : Stops principal call own past action)
    (hy : action.Yields log outcome) (hlog : log = before ++ x :: after)
    (hx : x.request.isCleanup = false) : ∀ y ∈ before, y.outcome.isOk = true := by
  intro y hmem
  rcases h log outcome hy with ⟨hsmooth, -⟩ | ⟨e, -, smooth, p, cleaning, hcut, hsmooth, -, hclean⟩
  · exact hsmooth.isOk (by simp [hlog, hmem])
  rcases cut_of_append_eq (hcut.symm.trans hlog) with ⟨between, rfl, hrest⟩ | ⟨between, rfl, -⟩
  · cases between with
    | nil => exact hsmooth.isOk (by simpa using hmem)
    | cons z between =>
      obtain ⟨-, rfl⟩ := List.cons.inj hrest
      cases (hclean x (by simp)).symm.trans hx
  · exact hsmooth.isOk (by simp [hmem])

end Stops

end Action

end PgConverge
