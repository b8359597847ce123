import PgConverge.Proofs.Reconciler.Problem

/-!
# Problems while reading

Reading a database stops at the first problem. A missing row is a problem only for some calls: for
the one that adopts the database, and for the one that hands over its objects and has not found its
owner before.

## Main definitions

* `Call.Tolerates` — a call reads a database without a problem in any row that can be decoded.
* `Problem.OfRows` — the rows that answer a question are problems exactly if they are ill-formed.
* `Catalog.required` — a question that has to be answered.

## Main statements

* `Reconciler.stops_read`, `Reconciler.stops_adopt`, `Reconciler.stops_exists?` — the operations
  that only read stop at the first problem.
* `Reconciler.adopt_eq` — adopting a database is observing it where every answer is required.
-/

namespace PgConverge

/-- Whether a call goes on without a row, and with any flag, when it reads a database: it neither
adopts nor deletes it, and if it hands over objects it has asked for their owner before. -/
def Call.Tolerates (past : List Exchange) : Call → Prop
  | .adopt _ | .delete _ => False
  | .update change => change.handsOver = true → ∃ y ∈ past, y.request.asksOwner = true
  | .create _ | .read _ | .exists? _ => True

theorem Call.Tolerates.append {past : List Exchange} {call : Call} (h : call.Tolerates past)
    (log : List Exchange) : call.Tolerates (past ++ log) := by
  cases call with
  | update change =>
    intro hover
    obtain ⟨y, hy, hasks⟩ := h hover
    exact ⟨y, List.mem_append_left log hy, hasks⟩
  | adopt | delete => exact h
  | create | read | exists? => exact h

namespace Problem

variable {principal : String} {call : Call} {past : List Exchange} {session : SessionId}
  {question : Query} {e : Error}

theorem not_of_tolerates (h : call.Tolerates past) (hq : question.readsDatabase = true) :
    ¬Problem principal call past ⟨.query session question, .ok none⟩ e := by
  intro hp
  cases hp with
  | failed hout => cases hout
  | unlocked => cases hq
  | absent hcall =>
    subst hcall
    exact h
  | ownerless hcall hover hno =>
    subst hcall
    obtain ⟨y, hy, hasks⟩ := h hover
    exact Bool.noConfusion ((hno y hy).symm.trans hasks)

theorem not_of_question {row : Option Row} (hreads : question.readsDatabase = false)
    (hlock : ∀ role, question ≠ .lockRole role) :
    ¬Problem principal call past ⟨.query session question, .ok row⟩ e := by
  intro hp
  cases hp with
  | failed hout => cases hout
  | unlocked => exact hlock _ rfl
  | absent _ hq => cases hreads.symm.trans hq
  | _ => cases hreads

theorem not_of_lock {role : String} {row : Row} :
    ¬Problem principal call past ⟨.query session (.lockRole role), .ok (some row)⟩ e := by
  intro hp
  cases hp with
  | failed hout => cases hout

/-- Whether a row that answers a question is a problem exactly if it cannot be decoded. -/
structure OfRows {α : Type} (principal : String) (call : Call) (past : List Exchange)
    (question : Query) (decode : Row → Except Error α) : Prop where
  not_of_ok : ∀ row a e, decode row = .ok a →
    ¬Problem principal call past ⟨.query mainSession question, .ok (some row)⟩ e
  of_error : ∀ row e, decode row = .error e →
    Problem principal call past ⟨.query mainSession question, .ok (some row)⟩ e

/-- A read that fails is reported in its context. -/
theorem of_failed_read (h : question.readsDatabase = true) (e : Error) (context : String) :
    Problem principal call past ⟨.query session question, .error e⟩ (e.inContext context) := by
  refine .failed rfl (.of_inContext e context nofun ?_)
  rintro session role ⟨⟩
  cases h

theorem OfRows.settled {α : Type} {decode : Row → Except Error α}
    (h : OfRows principal call past question decode) (row : Row) :
    Settled principal call past [⟨.query mainSession question, .ok (some row)⟩] (decode row) := by
  cases hrow : decode row with
  | ok a => exact smooth_singleton.mpr fun e => h.not_of_ok row a e hrow
  | error e => exact .single (h.of_error row e hrow)

theorem ofRows_owner (name : String) :
    OfRows principal call past (.databaseOwner name) Row.databaseOwner where
  not_of_ok row a e ha hp := by
    cases hp with
    | failed hout => cases hout
    | owner he => cases ha.symm.trans he
  of_error _ _ := .owner

theorem ofRows_settings (name : String) :
    OfRows principal call past (.databaseSettings name) Row.databaseSettings where
  not_of_ok row a e ha hp := by
    cases hp with
    | failed hout => cases hout
    | settings he => cases ha.symm.trans he
  of_error _ _ := .settings

theorem ofRows_allowConnections (name : String) :
    OfRows principal call past (.databaseAllowConnections name) (Row.boolean · 0) where
  not_of_ok row a e ha hp := by
    cases hp with
    | failed hout => cases hout
    | allowConnections he => cases ha.symm.trans he
  of_error _ _ := .allowConnections

theorem ofRows_isTemplate (name : String) (h : ∀ spec, call = .delete spec →
      past.countP (·.request.asksTemplate) ≠ 2) :
    OfRows principal call past (.databaseIsTemplate name) (Row.boolean · 0) where
  not_of_ok row a e ha hp := by
    cases hp with
    | failed hout => cases hout
    | isTemplate he => cases ha.symm.trans he
    | marked hcall hcount => exact h _ hcall hcount
  of_error _ _ := .isTemplate

end Problem

/-! ## Reading -/

namespace Catalog

variable {α : Type}

/-- Asks for something without which a call cannot go on with a database. -/
def required (name : String) (ask : Action (Option α)) : Action α := do
  match ← ask with
  | some a => return a
  | none => throw (.notFound name)

theorem required_bind {β : Type} (name : String) (ask : Action (Option α)) (f : α → Action β) :
    (required name ask >>= f) = ask >>= fun
      | some a => f a
      | none => throw (.notFound name) := by
  rw [required, bind_assoc]
  refine congrArg (ask >>= ·) (funext fun found => ?_)
  cases found <;> rfl

/-- What was found, or that nothing was. -/
def demanded (name : String) : Option α → Except Error α
  | some a => .ok a
  | none => .error (.notFound name)

theorem bind_demanded (name : String) (o : Except Error α) :
    (o.map some).bind (demanded name) = o := by
  cases o with
  | ok a => rfl
  | error e => rfl

theorem yields_required {name : String} {ask : Action (Option α)} {log : List Exchange}
    {outcome : Except Error α} :
    (required name ask).Yields log outcome ↔
      ∃ found, ask.Yields log found ∧ outcome = found.bind (demanded name) :=
  Action.yields_bind_except ask (fun found => by cases found <;> rfl) outcome

end Catalog

namespace Action.Stops

variable {principal : String} {call : Call} {own : List Category} {past : List Exchange} {α : Type}

theorem lookup {question : Query} {decode : Row → Except Error α} (context : String)
    (hquestion : question.readsDatabase = true)
    (hnone : ∀ e, ¬Problem principal call past ⟨.query mainSession question, .ok none⟩ e)
    (hrows : Problem.OfRows principal call past question decode) :
    Stops principal call own past (Catalog.lookup mainSession question context decode) := by
  refine .of_settled fun log outcome hy => ?_
  obtain ⟨e | row, rfl, rfl⟩ := Catalog.yields_lookup.mp hy
  · exact .single (.of_failed_read hquestion e context)
  · cases row with
    | none => exact smooth_singleton.mpr hnone
    | some row => exact (hrows.settled row).map some

/-- A question that has to be answered. -/
theorem required {question : Query} {decode : Row → Except Error α} {name : String}
    (context : String) (hquestion : question.readsDatabase = true)
    (hnone : Problem principal call past ⟨.query mainSession question, .ok none⟩ (.notFound name))
    (hrows : Problem.OfRows principal call past question decode) :
    Stops principal call own past
      (Catalog.required name (Catalog.lookup mainSession question context decode)) := by
  refine .of_settled fun log outcome hy => ?_
  obtain ⟨found, hl, rfl⟩ := Catalog.yields_required.mp hy
  obtain ⟨e | row, rfl, rfl⟩ := Catalog.yields_lookup.mp hl
  · exact .single (.of_failed_read hquestion e context)
  · cases row with
    | none => exact .single hnone
    | some row =>
      rw [Catalog.decoded, Catalog.bind_demanded]
      exact hrows.settled row

end Action.Stops

namespace Reconciler

open PgConverge.Action (Stops)

variable {r : Reconciler} {principal : String} {call : Call} {own : List Category}
  {past : List Exchange}

theorem stops_observeFlag {feature : Feature} {ask : Action (Option Bool)}
    (h : Stops principal call own past ask) :
    Stops principal call own past (r.observeFlag feature ask) := by
  unfold observeFlag
  split
  · exact h.bind fun _ _ _ => Stops.pure _
  · exact Stops.pure _

theorem stops_observe (h : call.Tolerates past) (name : String) (spec : DatabaseSpec) :
    Stops principal call own past (r.observe name spec) := by
  have hdelete (spec : DatabaseSpec) : call ≠ .delete spec := by
    rintro rfl
    exact h
  refine (Stops.lookup _ rfl (fun _ => Problem.not_of_tolerates h rfl)
    (Problem.ofRows_owner name)).bind fun asked found _ => ?_
  rcases found with _ | ⟨name, owner⟩
  · exact Stops.pure _
  refine (Stops.lookup _ rfl (fun _ => Problem.not_of_tolerates (h.append _) rfl)
    (Problem.ofRows_settings name)).bind fun _ settings _ => ?_
  cases settings with
  | none => exact Stops.pure _
  | some settings =>
  refine (stops_observeFlag (Stops.lookup _ rfl
    (fun _ => Problem.not_of_tolerates ((h.append _).append _) rfl)
    (Problem.ofRows_allowConnections name))).bind fun _ allow _ => ?_
  cases allow with
  | none => exact Stops.pure _
  | some allow =>
  refine (stops_observeFlag (Stops.lookup _ rfl
    (fun _ => Problem.not_of_tolerates (((h.append _).append _).append _) rfl)
    (Problem.ofRows_isTemplate name fun spec hcall => absurd hcall (hdelete spec)))).bind
    fun _ flag _ => ?_
  cases flag with
  | none => exact Stops.pure _
  | some flag => exact Stops.pure _

theorem stops_read (h : call.Tolerates past) (state : DatabaseState) (spec : DatabaseSpec) :
    Stops principal call own past (r.read state spec) := by
  unfold read
  cases state.id with
  | none => exact Stops.pure _
  | some id =>
    refine (stops_observe h id spec).bind fun _ observed _ => ?_
    cases observed with
    | none => exact Stops.pure _
    | some observed => exact Stops.pure _

/-- A flag that has to be known where the server has it. -/
def requiredFlag (r : Reconciler) (name : String) (feature : Feature)
    (ask : Action (Option Bool)) : Action (Option Bool) := do
  if r.version.supports feature then
    return some (← Catalog.required name ask)
  else
    return none

theorem requiredFlag_bind {β : Type} (r : Reconciler) (name : String) (feature : Feature)
    (ask : Action (Option Bool)) (f : Option Bool → Action β) :
    (r.requiredFlag name feature ask >>= f) = r.observeFlag feature ask >>= fun
      | some flag => f flag
      | none => throw (.notFound name) := by
  unfold requiredFlag observeFlag
  split
  · rw [bind_assoc, bind_assoc, Catalog.required_bind]
    refine congrArg (ask >>= ·) (funext fun flag => ?_)
    cases flag <;> rfl
  · rfl

/-- Adopting a database is observing it where every question has to be answered. -/
theorem adopt_eq (r : Reconciler) (name : String) :
    r.adopt name = do
      let found ← Catalog.required name (Catalog.databaseOwner mainSession name)
      let settings ← Catalog.required name (Catalog.databaseSettings mainSession found.1)
      let allowConnections ← r.requiredFlag name .allowConnections
        (Catalog.databaseAllowConnections mainSession found.1)
      let isTemplate ← r.requiredFlag name .isTemplate
        (Catalog.databaseIsTemplate mainSession found.1)
      return .ofObserved
        { name := found.1, owner := found.2, template := reportedTemplate (.ofName name),
          encoding := settings.encoding, lcCollate := settings.lcCollate,
          lcCtype := settings.lcCtype, tablespace := settings.tablespace,
          connectionLimit := settings.connectionLimit, allowConnections, isTemplate } := by
  unfold adopt read observe
  simp only [DatabaseState.ofId, bind_assoc, Catalog.required_bind, requiredFlag_bind]
  refine congrArg (_ >>= ·) (funext fun found => ?_)
  cases found with
  | none => rfl
  | some found =>
  simp only [bind_assoc]
  refine congrArg (_ >>= ·) (funext fun settings => ?_)
  cases settings with
  | none => rfl
  | some settings =>
  simp only [bind_assoc]
  refine congrArg (_ >>= ·) (funext fun allow => ?_)
  cases allow with
  | none => rfl
  | some allow =>
  simp only [bind_assoc]
  refine congrArg (_ >>= ·) (funext fun flag => ?_)
  cases flag with
  | none => rfl
  | some flag => rfl

theorem stops_requiredFlag {name : String} {feature : Feature} {ask : Action (Option Bool)}
    (h : Stops principal call own past (Catalog.required name ask)) :
    Stops principal call own past (r.requiredFlag name feature ask) := by
  unfold requiredFlag
  split
  · exact h.bind fun _ _ _ => Stops.pure _
  · exact Stops.pure _

theorem stops_adopt (name : String) :
    Stops principal (.adopt name) own past (r.adopt name) := by
  rw [adopt_eq]
  refine (Stops.required _ rfl (.absent rfl rfl) (Problem.ofRows_owner name)).bind
    fun _ found _ => ?_
  refine (Stops.required _ rfl (.absent rfl rfl) (Problem.ofRows_settings found.1)).bind
    fun _ settings _ => ?_
  refine (stops_requiredFlag (Stops.required _ rfl (.absent rfl rfl)
    (Problem.ofRows_allowConnections found.1))).bind fun _ allow _ => ?_
  refine (stops_requiredFlag (Stops.required _ rfl (.absent rfl rfl)
    (Problem.ofRows_isTemplate found.1 nofun))).bind fun _ flag _ => ?_
  exact Stops.pure _

theorem stops_exists? (name : String) : Stops principal call own past (r.exists? name) := by
  refine .of_settled fun log outcome hy => ?_
  rcases asked_of_exists? hy with ⟨e, rfl, rfl⟩ | ⟨session, answer, closed, rfl, rfl⟩
  · exact .single (.failed rfl (.inl rfl))
  have hopened : Smooth principal call past [⟨.beginReadOnly, .ok session⟩] :=
    smooth_of_command nofun
  cases answer with
  | error e =>
    have hasked := Stopped.single (.failed rfl (.inr ⟨"error checking database existence", rfl⟩) :
      Problem principal call (past ++ [⟨.beginReadOnly, .ok session⟩])
        ⟨.query session (.databaseExists name), .error e⟩ _)
    exact .prepend hopened (hasked.append (List.forall_mem_singleton.mpr rfl))
  | ok row =>
    have hasked : Smooth principal call (past ++ [⟨.beginReadOnly, .ok session⟩])
        [⟨.query session (.databaseExists name), .ok row⟩] :=
      smooth_singleton.mpr fun e => Problem.not_of_question rfl nofun
    cases closed with
    | error e => exact .prepend hopened (.prepend hasked (.single (.failed rfl (.inl rfl))))
    | ok _ => exact hopened.append (hasked.append (smooth_of_command nofun))

end Reconciler

end PgConverge
