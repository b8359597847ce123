import PgConverge.Connection.Run

/-!
# What a program can log

A program yields a log with a result if some answers to its requests lead there. What holds of
everything that a program yields holds of each of its runs, on any connection.

## Main definitions

* `Program.Yields`, `Action.Yields` — the logs of a program with their results.
* `Action.Sends` — an action makes only requests with a property.

## Main statements

* `Program.yields_run` — a program yields what each of its runs gives.
* `Program.yields_bind`, `Action.yields_bind` — the logs of two programs in a row.
-/

namespace PgConverge

namespace Program

variable {σ α β : Type}

/-- Whether some answers lead a program through a log to a result. -/
def Yields : Program α → List Exchange → α → Prop
  | done a, log, result => log = [] ∧ result = a
  | ask request next, log, result =>
    ∃ outcome rest, log = ⟨request, outcome⟩ :: rest ∧ (next outcome).Yields rest result

@[simp] theorem yields_done (a : α) (log : List Exchange) (result : α) :
    (done a).Yields log result ↔ log = [] ∧ result = a := Iff.rfl

/-- The log of two programs in a row is cut where the first one is done. -/
theorem yields_bind (p : Program α) (f : α → Program β) (log : List Exchange) (result : β) :
    (p >>= f).Yields log result ↔
      ∃ first rest a, log = first ++ rest ∧ p.Yields first a ∧ (f a).Yields rest result := by
  induction p generalizing log with
  | done a =>
    constructor
    · intro h
      exact ⟨[], log, a, rfl, ⟨rfl, rfl⟩, h⟩
    · rintro ⟨_, rest, _, rfl, ⟨rfl, rfl⟩, h⟩
      exact h
  | ask request next ih =>
    constructor
    · rintro ⟨outcome, log, rfl, h⟩
      obtain ⟨first, rest, a, rfl, hp, hf⟩ := (ih outcome log).mp h
      exact ⟨_, rest, a, rfl, ⟨outcome, first, rfl, hp⟩, hf⟩
    · rintro ⟨_, rest, a, rfl, ⟨outcome, first, rfl, hp⟩, hf⟩
      exact ⟨outcome, _, rfl, (ih outcome _).mpr ⟨first, rest, a, rfl, hp, hf⟩⟩

theorem yields_bind_done (p : Program α) (f : α → β) (log : List Exchange) (result : β) :
    (p >>= fun a => done (f a)).Yields log result ↔ ∃ a, p.Yields log a ∧ result = f a := by
  simp only [yields_bind, yields_done]
  constructor
  · rintro ⟨first, rest, a, rfl, hp, rfl, rfl⟩
    exact ⟨a, by rwa [List.append_nil], rfl⟩
  · rintro ⟨a, hp, rfl⟩
    exact ⟨log, [], a, by rw [List.append_nil], hp, rfl, rfl⟩

theorem yields_run (server : Server σ) (p : Program α) (link : Link σ) :
    p.Yields (p.run server link).exchanges (p.run server link).result := by
  induction p generalizing link with
  | done a => exact ⟨rfl, rfl⟩
  | ask request next ih => exact ⟨_, _, rfl, ih _ _⟩

/-- Every program can come to an end: the answers may all be failures. -/
theorem exists_yields (p : Program α) : ∃ log result, p.Yields log result := by
  induction p with
  | done a => exact ⟨[], a, rfl, rfl⟩
  | ask request next ih =>
    obtain ⟨log, result, h⟩ := ih (.error (.internal ""))
    exact ⟨_, result, _, log, rfl, h⟩

end Program

namespace Action

variable {α β : Type} {log : List Exchange}

/-- Whether some answers lead an action through a log to a value or a failure. -/
def Yields (action : Action α) (log : List Exchange) (outcome : Except Error α) : Prop :=
  action.attempt.Yields log outcome

theorem yields_mk (p : Program (Except Error α)) (outcome : Except Error α) :
    (Action.mk p).Yields log outcome ↔ p.Yields log outcome := Iff.rfl

@[simp] theorem yields_pure (a : α) (outcome : Except Error α) :
    (pure a : Action α).Yields log outcome ↔ log = [] ∧ outcome = .ok a := Iff.rfl

@[simp] theorem yields_liftExcept (o outcome : Except Error α) :
    (liftM o : Action α).Yields log outcome ↔ log = [] ∧ outcome = o := Iff.rfl

theorem yields_request (r : Request) (outcome : Except Error r.Answer) :
    (Action.request r).Yields log outcome ↔ log = [⟨r, outcome⟩] := by
  constructor
  · rintro ⟨o, rest, rfl, rfl, rfl⟩
    rfl
  · rintro rfl
    exact ⟨outcome, [], rfl, rfl, rfl⟩

@[simp] theorem yields_liftProgram (p : Program α) (outcome : Except Error α) :
    (liftM p : Action α).Yields log outcome ↔ ∃ a, p.Yields log a ∧ outcome = .ok a :=
  Program.yields_bind_done p _ log outcome

theorem yields_mapError (f : Error → Error) (action : Action α) (outcome : Except Error α) :
    (action.mapError f).Yields log outcome ↔
      ∃ o, action.Yields log o ∧ outcome = o.mapError f :=
  Program.yields_bind_done action.attempt _ log outcome

@[simp] theorem yields_inContext (context : String) (action : Action α)
    (outcome : Except Error α) :
    (action.inContext context).Yields log outcome ↔
      ∃ o, action.Yields log o ∧ outcome = o.mapError (Error.inContext context) :=
  yields_mapError _ action outcome

/-- An action followed by another one fails at once, or goes on with the value. -/
theorem yields_bind (action : Action α) (f : α → Action β) (outcome : Except Error β) :
    (action >>= f).Yields log outcome ↔
      (∃ e, action.Yields log (.error e) ∧ outcome = .error e) ∨
        ∃ first rest a, log = first ++ rest ∧ action.Yields first (.ok a) ∧
          (f a).Yields rest outcome := by
  simp only [Yields, attempt_bind, Program.yields_bind]
  constructor
  · rintro ⟨first, rest, e | a, rfl, hp, hf⟩
    · obtain ⟨rfl, rfl⟩ := hf
      exact .inl ⟨e, by rwa [List.append_nil], rfl⟩
    · exact .inr ⟨first, rest, a, rfl, hp, hf⟩
  · rintro (⟨e, hp, rfl⟩ | ⟨first, rest, a, rfl, hp, hf⟩)
    · exact ⟨log, [], .error e, by rw [List.append_nil], hp, rfl, rfl⟩
    · exact ⟨first, rest, .ok a, rfl, hp, hf⟩

/-- Two actions in a row succeed only if both do. -/
theorem of_yields_bind_ok {action : Action α} {f : α → Action β} {b : β}
    (h : (action >>= f).Yields log (.ok b)) :
    ∃ first rest a, log = first ++ rest ∧ action.Yields first (.ok a) ∧
      (f a).Yields rest (.ok b) := by
  rcases (yields_bind action f _).mp h with ⟨e, -, he⟩ | hr
  · cases he
  · exact hr

theorem yields_map (action : Action α) (f : α → β) (outcome : Except Error β) :
    (action >>= fun a => pure (f a)).Yields log outcome ↔
      ∃ o, action.Yields log o ∧ outcome = o.map f := by
  rw [yields_bind]
  constructor
  · rintro (⟨e, h, rfl⟩ | ⟨first, rest, a, rfl, h, rfl, rfl⟩)
    · exact ⟨.error e, h, rfl⟩
    · exact ⟨.ok a, by rwa [List.append_nil], rfl⟩
  · rintro ⟨e | a, h, rfl⟩
    · exact .inl ⟨e, h, rfl⟩
    · exact .inr ⟨log, [], a, by rw [List.append_nil], h, rfl, rfl⟩

/-- What comes after an action may only look at its value and fail or not. -/
theorem yields_bind_except (action : Action α) {f : α → Action β} {g : α → Except Error β}
    (h : ∀ a, f a = liftM (g a)) (outcome : Except Error β) :
    (action >>= f).Yields log outcome ↔ ∃ o, action.Yields log o ∧ outcome = o.bind g := by
  rw [yields_bind]
  constructor
  · rintro (⟨e, ha, rfl⟩ | ⟨first, rest, a, rfl, ha, hf⟩)
    · exact ⟨.error e, ha, rfl⟩
    · rw [h a] at hf
      obtain ⟨rfl, rfl⟩ := (yields_liftExcept _ _).mp hf
      exact ⟨.ok a, by rwa [List.append_nil], rfl⟩
  · rintro ⟨e | a, ha, rfl⟩
    · exact .inl ⟨e, ha, rfl⟩
    · refine .inr ⟨log, [], a, (List.append_nil log).symm, ha, ?_⟩
      rw [h a]
      exact (yields_liftExcept _ _).mpr ⟨rfl, rfl⟩

theorem yields_inContext_map (context : String) (action : Action α) (f : α → β)
    (outcome : Except Error β) :
    (action.inContext context >>= fun a => pure (f a)).Yields log outcome ↔
      ∃ o, action.Yields log o ∧ outcome = (o.mapError (Error.inContext context)).map f := by
  rw [yields_map]
  constructor
  · rintro ⟨_, h, rfl⟩
    obtain ⟨o, ho, rfl⟩ := (yields_inContext _ _ _).mp h
    exact ⟨o, ho, rfl⟩
  · rintro ⟨o, ho, rfl⟩
    exact ⟨_, (yields_inContext _ _ _).mpr ⟨o, ho, rfl⟩, rfl⟩

/-- After an attempt the next action has the outcome, whether it is a failure or not. -/
theorem yields_attempt_bind (action : Action α) (f : Except Error α → Action β)
    (outcome : Except Error β) :
    ((liftM action.attempt : Action (Except Error α)) >>= f).Yields log outcome ↔
      ∃ first rest o, log = first ++ rest ∧ action.Yields first o ∧ (f o).Yields rest outcome := by
  rw [yields_bind]
  constructor
  · rintro (⟨e, h, rfl⟩ | ⟨first, rest, o, rfl, h, hf⟩)
    · obtain ⟨_, _, he⟩ := (yields_liftProgram _ _).mp h
      cases he
    · obtain ⟨_, hp, ho⟩ := (yields_liftProgram _ _).mp h
      cases ho
      exact ⟨first, rest, o, rfl, hp, hf⟩
  · rintro ⟨first, rest, o, rfl, hp, hf⟩
    exact .inr ⟨first, rest, o, rfl, (yields_liftProgram _ _).mpr ⟨o, hp, rfl⟩, hf⟩

/-! ## The requests of an action -/

/-- Every request that an action may make has a property. -/
def Sends (P : Request → Prop) (action : Action α) : Prop :=
  ∀ log outcome, action.Yields log outcome → ∀ x ∈ log, P x.request

namespace Sends

variable {P : Request → Prop}

theorem mono {Q : Request → Prop} {action : Action α} (h : Sends P action)
    (hPQ : ∀ request, P request → Q request) : Sends Q action :=
  fun log outcome hy x hx => hPQ x.request (h log outcome hy x hx)

theorem countP_eq_zero {p : Request → Bool} {action : Action α} {outcome : Except Error α}
    (h : Sends (fun request => p request = false) action) (hy : action.Yields log outcome) :
    log.countP (p ·.request) = 0 := by
  refine List.countP_eq_zero.mpr fun x hx => ?_
  simp [h log outcome hy x hx]

theorem pure (a : α) : Sends P (Pure.pure a : Action α) := by
  rintro log outcome ⟨rfl, rfl⟩ x hx
  cases hx

theorem throw (e : Error) : Sends P (MonadExcept.throw e : Action α) := by
  rintro log outcome ⟨rfl, rfl⟩ x hx
  cases hx

theorem liftExcept (o : Except Error α) : Sends P (liftM o : Action α) := by
  rintro log outcome ⟨rfl, rfl⟩ x hx
  cases hx

theorem request {r : Request} (h : P r) : Sends P (Action.request r) := by
  intro log outcome hy x hx
  obtain rfl := (yields_request r outcome).mp hy
  obtain rfl := List.mem_singleton.mp hx
  exact h

theorem inContext {action : Action α} (context : String) (h : Sends P action) :
    Sends P (action.inContext context) := by
  intro log outcome hy
  obtain ⟨o, ho, rfl⟩ := (yields_mapError _ action outcome).mp hy
  exact h log o ho

theorem bind {action : Action α} {f : α → Action β} (h : Sends P action)
    (hf : ∀ a, Sends P (f a)) : Sends P (action >>= f) := by
  intro log outcome hy x hx
  rcases (yields_bind action f outcome).mp hy with ⟨e, ha, rfl⟩ | ⟨first, rest, a, rfl, ha, hr⟩
  · exact h log _ ha x hx
  · rcases List.mem_append.mp hx with hx | hx
    · exact h first _ ha x hx
    · exact hf a rest _ hr x hx

theorem onlyIf {condition : Bool} {action : Action Unit} (h : condition → Sends P action) :
    Sends P (Action.onlyIf condition action) := by
  cases condition with
  | false => exact pure ()
  | true => exact h rfl

end Sends

end Action

/-! ## Single requests -/

namespace Session

variable {log : List Exchange} (session : SessionId)

@[simp] theorem yields_execute (statement : Statement) (outcome : Except Error UInt64) :
    (execute session statement).Yields log outcome ↔
      log = [⟨.execute session statement, outcome⟩] :=
  Action.yields_request (.execute session statement) outcome

@[simp] theorem yields_query (question : Query) (outcome : Except Error (Option Row)) :
    (query session question).Yields log outcome ↔
      log = [⟨.query session question, outcome⟩] :=
  Action.yields_request (.query session question) outcome

@[simp] theorem yields_begin (database : Option String) (outcome : Except Error SessionId) :
    (begin database).Yields log outcome ↔ log = [⟨.begin database, outcome⟩] :=
  Action.yields_request (.begin database) outcome

@[simp] theorem yields_beginReadOnly (outcome : Except Error SessionId) :
    beginReadOnly.Yields log outcome ↔ log = [⟨.beginReadOnly, outcome⟩] :=
  Action.yields_request .beginReadOnly outcome

@[simp] theorem yields_commit (outcome : Except Error Unit) :
    (commit session).Yields log outcome ↔ log = [⟨.commit session, outcome⟩] :=
  Action.yields_request (.commit session) outcome

@[simp] theorem yields_rollback (outcome : Except Error Unit) :
    (rollback session).Yields log outcome ↔ log = [⟨.rollback session, outcome⟩] :=
  Action.yields_request (.rollback session) outcome

end Session

end PgConverge
