import PgConverge.Proofs.Reconciler.Plain

/-!
# The calls of a reconciler

One call of any of the operations, on the state that is kept between them, and the protocol that
each call follows: a call starts with no session open and no grant owed, and ends so.

## Main definitions

* `Call`, `Reconciler.call` — the operations with their arguments, and running one.
* `Reconciler.steps` — what a call does on the connection.
* `Action.Follows` — an action keeps to the protocol of elevations from the start to the end.

## Main statements

* `Reconciler.path_of_call` — every call follows the protocol, whatever is answered.
-/

namespace PgConverge

/-- A call of an operation. -/
inductive Call where
  | create (spec : DatabaseSpec)
  | read (spec : DatabaseSpec)
  | adopt (name : String)
  | update (change : SpecChange)
  | delete (spec : DatabaseSpec)
  | exists? (name : String)
deriving DecidableEq, Repr

namespace Reconciler

/-- Runs an action and keeps the state that it gives; a failure leaves the state as it was. -/
def keeping (state : DatabaseState) (action : Action DatabaseState) :
    Program (Except Error Unit × DatabaseState) := do
  match ← action.attempt with
  | .ok state' => return (.ok (), state')
  | .error e => return (.error e, state)

/-- Runs a call on the state that is kept: its outcome and the state that is kept from then on. -/
def call (r : Reconciler) (state : DatabaseState) :
    Call → Program (Except Error Unit × DatabaseState)
  | .create spec => keeping state (r.create spec)
  | .read spec => keeping state (r.read state spec)
  | .adopt name => keeping state (r.adopt name)
  | .update change => r.update state change
  | .delete spec => keeping state (r.delete state spec)
  | .exists? name => keeping state do
    let _ ← r.exists? name
    return state

/-- What an update does after it has renamed its database. -/
def converge (r : Reconciler) (state : DatabaseState) (change : SpecChange) :
    Action DatabaseState := do
  r.changeAttributes (finalName state change) change
  r.read (renamedState state change) change.desired

/-- How an update starts: it checks the change and renames its database. -/
def prepare (state : DatabaseState) (change : SpecChange) : Action Unit := do
  change.check
  .onlyIf (change.differs .name) (rename (currentName state change) change.desired.name)

theorem update_eq (r : Reconciler) (state : DatabaseState) (change : SpecChange) :
    r.update state change = (prepare state change).attempt >>= fun
      | .error e => pure (.error e, state)
      | .ok () => keeping (renamedState state change) (r.converge state change) := by
  unfold update
  refine congrArg (_ >>= ·) (funext fun outcome => ?_)
  cases outcome with
  | error e => rfl
  | ok _ =>
    refine congrArg (_ >>= ·) (funext fun outcome => ?_)
    cases outcome <;> rfl

section Names

variable {state : DatabaseState} {change : SpecChange}

/-- An update addresses its database by the desired name if the specs differ in it. -/
theorem finalName_eq_ite : finalName state change =
    if change.prior.name = change.desired.name then state.id.getD change.prior.name
    else change.desired.name := by
  by_cases h : change.prior.name = change.desired.name
  · simp [finalName, currentName, SpecChange.differs, h]
  · simp [finalName, SpecChange.differs, h]

/-- The name that the state has after a renaming is the one that an update addresses from then
on. -/
theorem finalName_of_renamedState {id : String} (h : (renamedState state change).id = some id) :
    finalName state change = id := by
  rw [finalName]
  rw [renamedState] at h
  cases hdiffers : change.differs .name with
  | true =>
    rw [hdiffers] at h
    exact Option.some.inj h
  | false =>
    rw [hdiffers] at h
    exact congrArg (Option.getD · change.prior.name) h

/-- Only a renaming gives an identity to a state without one. -/
theorem id_renamedState_eq_none_iff :
    (renamedState state change).id = none ↔
      state.id = none ∧ change.prior.name = change.desired.name := by
  by_cases h : change.prior.name = change.desired.name
  · simp [renamedState, SpecChange.differs, h]
  · simp [renamedState, SpecChange.differs, h]

end Names

variable {log : List Exchange} {result : Except Error Unit × DatabaseState}

theorem yields_keeping {state : DatabaseState} {action : Action DatabaseState} :
    (keeping state action).Yields log result ↔
      ∃ outcome, action.Yields log outcome ∧
        result = (outcome.map fun _ => (), outcome.toOption.getD state) := by
  rw [keeping, Program.yields_bind]
  constructor
  · rintro ⟨first, rest, e | state', rfl, hp, hf⟩
    · obtain ⟨rfl, rfl⟩ := hf
      exact ⟨.error e, by rwa [List.append_nil], rfl⟩
    · obtain ⟨rfl, rfl⟩ := hf
      exact ⟨.ok state', by rwa [List.append_nil], rfl⟩
  · rintro ⟨e | state', hp, rfl⟩
    · exact ⟨log, [], .error e, by rw [List.append_nil], hp, rfl, rfl⟩
    · exact ⟨log, [], .ok state', by rw [List.append_nil], hp, rfl, rfl⟩

/-- An update fails as it starts, or it goes on under the new name. -/
theorem yields_update {r : Reconciler} {state : DatabaseState} {change : SpecChange} :
    (r.update state change).Yields log result ↔
      (∃ e, (prepare state change).Yields log (.error e) ∧ result = (.error e, state)) ∨
        ∃ first rest outcome, log = first ++ rest ∧ (prepare state change).Yields first (.ok ()) ∧
          (r.converge state change).Yields rest outcome ∧
          result =
            (outcome.map fun _ => (), outcome.toOption.getD (renamedState state change)) := by
  rw [update_eq, Program.yields_bind]
  constructor
  · rintro ⟨first, rest, e | a, rfl, hp, hf⟩
    · obtain ⟨rfl, rfl⟩ := hf
      exact .inl ⟨e, by rwa [List.append_nil], rfl⟩
    · obtain ⟨outcome, ho, rfl⟩ := yields_keeping.mp hf
      exact .inr ⟨first, rest, outcome, rfl, hp, ho, rfl⟩
  · rintro (⟨e, hp, rfl⟩ | ⟨first, rest, outcome, rfl, hp, ho, rfl⟩)
    · exact ⟨log, [], .error e, by rw [List.append_nil], hp, rfl, rfl⟩
    · exact ⟨first, rest, .ok (), rfl, hp, yields_keeping.mpr ⟨outcome, ho, rfl⟩⟩

/-- What a call does on the connection, whatever state is kept after it. -/
def steps (r : Reconciler) (state : DatabaseState) : Call → Action DatabaseState
  | .create spec => r.create spec
  | .read spec => r.read state spec
  | .adopt name => r.adopt name
  | .update change => do
    prepare state change
    r.converge state change
  | .delete spec => r.delete state spec
  | .exists? name => do
    let _ ← r.exists? name
    return state

theorem yields_steps {r : Reconciler} {state : DatabaseState} {call : Call}
    (h : (r.call state call).Yields log result) :
    ∃ outcome, (r.steps state call).Yields log outcome ∧ result.1 = outcome.map fun _ => () := by
  cases call with
  | update change =>
    rcases yields_update.mp h with ⟨e, hp, rfl⟩ | ⟨first, rest, outcome, rfl, hp, hc, rfl⟩
    · exact ⟨.error e, (Action.yields_bind _ _ _).mpr (.inl ⟨e, hp, rfl⟩), rfl⟩
    · exact ⟨outcome, (Action.yields_bind _ _ _).mpr (.inr ⟨first, rest, (), rfl, hp, hc⟩), rfl⟩
  | create | read | adopt | delete | exists? =>
    obtain ⟨outcome, hy, rfl⟩ := yields_keeping.mp h
    exact ⟨outcome, hy, rfl⟩

/-- The state that is kept after a success is what the steps of the call have given. -/
theorem steps_of_success {r : Reconciler} {state state' : DatabaseState} {call : Call}
    (h : (r.call state call).Yields log (.ok (), state')) :
    (r.steps state call).Yields log (.ok state') := by
  cases call with
  | update change =>
    rcases yields_update.mp h with
      ⟨e, -, hresult⟩ | ⟨first, rest, e | last, rfl, hp, hc, hresult⟩
    · cases hresult
    · cases hresult
    · cases hresult
      exact (Action.yields_bind _ _ _).mpr (.inr ⟨first, rest, (), rfl, hp, hc⟩)
  | create | read | adopt | delete | exists? =>
    obtain ⟨e | last, hy, hresult⟩ := yields_keeping.mp h
    · cases hresult
    · cases hresult
      exact hy

end Reconciler

/-- An update starts with a renaming or with nothing. -/
theorem Action.Sends.prepare {P : Request → Prop} {state : DatabaseState} {change : SpecChange}
    (h : change.differs .name = true → P (.execute mainSession
      (.renameDatabase (Reconciler.currentName state change) change.desired.name))) :
    Sends P (Reconciler.prepare state change) :=
  (Sends.liftExcept _).bind fun _ => Sends.onlyIf fun hdiffers => Sends.rename (h hdiffers)

/-! ## The protocol -/

namespace Action

open Phase

variable {α β : Type} {principal : String}

/-- Whether an action starts and ends with no session open and no grant owed, and keeps to the
protocol of elevations in between. -/
def Follows (principal : String) (action : Action α) : Prop :=
  ∀ log outcome, action.Yields log outcome → Path principal .idle log .idle

namespace Follows

theorem of_plain {action : Action α} (h : Sends Request.IsPlain action) :
    Follows principal action :=
  fun log outcome hy => Path.of_work fun x hx => h log outcome hy x hx

theorem bind {action : Action α} {f : α → Action β} (h : Follows principal action)
    (hf : ∀ a, Follows principal (f a)) : Follows principal (action >>= f) := by
  intro log outcome hy
  rcases (yields_bind action f outcome).mp hy with ⟨e, ha, rfl⟩ | ⟨first, rest, a, rfl, ha, hr⟩
  · exact h log _ ha
  · exact (h first _ ha).append (hf a rest _ hr)

theorem onlyIf {condition : Bool} {action : Action Unit} (h : Follows principal action) :
    Follows principal (Action.onlyIf condition action) := by
  cases condition with
  | false => exact of_plain (Sends.pure ())
  | true => exact h

/-- An elevation that is entered has to be left from the phase that it has reached. -/
theorem enter {group : String} {database : Option String} {f : Elevation → Action α}
    (h : ∀ elevation, elevation.grant.member = principal → ∀ log outcome,
      (f elevation).Yields log outcome → Path principal elevation.phase log .idle) :
    Follows principal (Elevation.enter principal group database >>= f) := by
  intro log outcome hy
  rcases (yields_bind _ f outcome).mp hy with ⟨e, he, rfl⟩ | ⟨first, rest, elevation, rfl, he, hf⟩
  · exact Elevation.path_of_unentered (Elevation.entered_of_yields he)
  · obtain ⟨hmember, -, hp⟩ := Elevation.path_of_entered (Elevation.entered_of_yields he)
    exact hp.append (h elevation hmember rest outcome hf)

end Follows

end Action

namespace Reconciler

open PgConverge.Action (Sends Follows)
open Request (IsPlain isPlain_execute)
open Phase

variable (r : Reconciler)

/-- The privileged work is done in the phase that the elevation has reached. -/
theorem follows_elevated (group : String) {action : Action Unit} (h : Sends IsPlain action) :
    Follows r.principal (r.elevated group action) := by
  refine Follows.enter fun elevation hmember log outcome hy => ?_
  obtain ⟨working, leaving, o, rfl, hw, hl⟩ := (Action.yields_attempt_bind _ _ _).mp hy
  have hwork : Path r.principal elevation.phase working elevation.phase :=
    Path.of_work fun x hx => by
      obtain ⟨hx, hsession⟩ := h working o hw x hx
      exact ⟨hx, elevation.admits_phase _ (.inl hsession)⟩
  exact hwork.append (hmember ▸ Elevation.path_of_left hl)

theorem follows_asOwner (spec : DatabaseSpec) {action : Action Unit} (h : Sends IsPlain action) :
    Follows r.principal (r.asOwner spec action) := by
  unfold asOwner
  split
  · exact r.follows_elevated _ h
  · exact .of_plain h

theorem follows_reassignOwned (name newOwner : String) :
    Follows r.principal (r.reassignOwned name newOwner) := by
  refine Follows.bind (.of_plain (Sends.lookup (Request.isPlain_query rfl) _ _)) fun found => ?_
  rcases found with _ | ⟨-, owner⟩
  · exact .of_plain (Sends.throw _)
  dsimp only
  split
  · exact .of_plain (Sends.pure _)
  refine Follows.enter fun elevation hmember log outcome hy => ?_
  obtain ⟨working, leaving, o, rfl, hw, hl⟩ := (Action.yields_attempt_bind _ _ _).mp hy
  obtain ⟨answer, ha, rfl⟩ := (Action.yields_inContext _ _ _).mp hw
  obtain rfl := (Session.yields_execute _ _ _).mp ha
  have hwork : Step r.principal elevation.phase
      ⟨.execute elevation.session (.reassignOwned owner newOwner), answer⟩ elevation.phase :=
    .work rfl (elevation.admits_phase _ (.inr rfl))
  exact .cons hwork (hmember ▸ Elevation.path_of_committed hl)

theorem follows_changeOwner (name : String) (desired : DatabaseSpec) :
    Follows r.principal (r.changeOwner name desired) := by
  unfold changeOwner
  split
  · exact .of_plain (Sends.pure _)
  · exact (Follows.onlyIf (r.follows_reassignOwned _ _)).bind
      fun _ => r.follows_elevated _ (Sends.run (isPlain_execute rfl) _)

theorem follows_changeAttributes (name : String) (change : SpecChange) :
    Follows r.principal (r.changeAttributes name change) :=
  (Follows.onlyIf (r.follows_changeOwner _ _)).bind fun _ =>
    (Follows.of_plain (.onlyIf fun _ =>
      Sends.run (isPlain_execute (Statement.changesRoles_moveTablespace _ _)) _)).bind fun _ =>
    (Follows.of_plain (.onlyIf fun _ => Sends.run (isPlain_execute rfl) _)).bind fun _ =>
    (Follows.of_plain (.onlyIf fun _ => r.plain_setAllowConnections _ _)).bind fun _ =>
    .of_plain (.onlyIf fun _ => r.plain_setIsTemplate _ _)

theorem follows_create (spec : DatabaseSpec) : Follows r.principal (r.create spec) :=
  (Follows.of_plain (Sends.liftExcept _)).bind fun _ =>
    (Follows.of_plain (Sends.liftExcept _)).bind fun _ =>
    (r.follows_asOwner spec (Sends.run (isPlain_execute rfl) _)).bind fun _ =>
    .of_plain (r.plain_read _ _)

theorem follows_delete (state : DatabaseState) (spec : DatabaseSpec) :
    Follows r.principal (r.delete state spec) :=
  (r.follows_asOwner spec (r.plain_drop _)).bind fun _ => .of_plain (Sends.pure _)

/-- Whether a database exists is asked in a transaction that is always rolled back. -/
theorem asked_of_exists? {r : Reconciler} {name : String} {log : List Exchange}
    {outcome : Except Error Bool} (h : (r.exists? name).Yields log outcome) :
    (∃ e, log = [⟨.beginReadOnly, .error e⟩] ∧ outcome = .error e) ∨
      ∃ session answer closed,
        log = [⟨.beginReadOnly, .ok session⟩, ⟨.query session (.databaseExists name), answer⟩,
          ⟨.rollback session, closed⟩] ∧
        outcome = withCleanup ((answer.mapError (Error.inContext
          "error checking database existence")).map Option.isSome) closed := by
  rcases (Action.yields_bind _ _ _).mp h with ⟨e, hb, rfl⟩ | ⟨first, rest, session, rfl, hb, hf⟩
  · obtain rfl := (Session.yields_beginReadOnly _).mp hb
    exact .inl ⟨e, rfl, rfl⟩
  · obtain rfl := (Session.yields_beginReadOnly _).mp hb
    obtain ⟨asking, closing, found, rfl, ha, hc⟩ := (Action.yields_attempt_bind _ _ _).mp hf
    obtain ⟨answer, hq, rfl⟩ := (Action.yields_inContext_map _ _ _ _).mp ha
    obtain rfl := (Session.yields_query _ _ _).mp hq
    obtain ⟨closed, hr, rfl⟩ := (Program.yields_bind_done _ _ _ _).mp hc
    obtain rfl := (Session.yields_rollback _ _).mp hr
    exact .inr ⟨session, answer, closed, rfl, rfl⟩

theorem follows_exists? (name : String) : Follows r.principal (r.exists? name) := by
  intro log outcome hy
  rcases asked_of_exists? hy with ⟨e, rfl, -⟩ | ⟨session, answer, closed, rfl, -⟩
  · exact .single (.unbegunReadOnly e)
  · exact .cons (.begunReadOnly session)
      (.cons (.work rfl rfl) (.single (.rolledBack session closed rfl rfl)))

theorem follows_prepare (state : DatabaseState) (change : SpecChange) :
    Follows r.principal (prepare state change) :=
  .of_plain (.prepare fun _ => isPlain_execute rfl)

theorem follows_converge (state : DatabaseState) (change : SpecChange) :
    Follows r.principal (r.converge state change) :=
  (r.follows_changeAttributes _ _).bind fun _ => .of_plain (r.plain_read _ _)

theorem follows_steps (call : Call) (state : DatabaseState) :
    Follows r.principal (r.steps state call) := by
  cases call with
  | create spec => exact r.follows_create spec
  | read spec => exact .of_plain (r.plain_read state spec)
  | adopt name => exact .of_plain (r.plain_adopt name)
  | update change => exact (r.follows_prepare state change).bind fun _ => r.follows_converge _ _
  | delete spec => exact r.follows_delete state spec
  | exists? name => exact (r.follows_exists? name).bind fun _ => .of_plain (Sends.pure _)

/-- The requests of every call are in the order of the protocol, whatever is answered. -/
theorem path_of_call {call : Call} {state : DatabaseState} {log : List Exchange}
    {result : Except Error Unit × DatabaseState} (h : (r.call state call).Yields log result) :
    Path r.principal .idle log .idle := by
  obtain ⟨outcome, hy, -⟩ := yields_steps h
  exact r.follows_steps call state log outcome hy

end Reconciler

end PgConverge
