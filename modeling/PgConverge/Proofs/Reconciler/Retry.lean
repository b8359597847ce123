import PgConverge.Connection.Script
import PgConverge.Proofs.Reconciler.Call

/-!
# Updates that are tried again

An update that fails is run again with the same change, on the state that it left behind. Once an
attempt has renamed the database, that state holds the new name, but the two specs still differ in
it: every later attempt renames the database to the name that it bears already.

## Main definitions

* `Reconciler.attempts` — the logs of an update that is tried again until it succeeds.
* `Exchange.renames`, `Exchange.renamesToItself` — a RENAME that succeeded, and one to the name that
  the database bears already.

## Main statements

* `Reconciler.renames_to_itself_iff` — an attempt renames a database to its own name exactly if one
  before has renamed it.
-/

namespace PgConverge

/-- Whether a request leaves the names of databases as they are. -/
def Request.KeepsNames : Request → Prop
  | execute _ (.renameDatabase ..) => False
  | _ => True

namespace Exchange

/-- Whether an exchange has renamed a database. -/
def renames : Exchange → Bool
  | ⟨.execute _ (.renameDatabase ..), .ok _⟩ => true
  | _ => false

/-- Whether an exchange was to rename a database to the name that it bears. -/
def renamesToItself : Exchange → Bool
  | ⟨.execute _ (.renameDatabase name newName), _⟩ => name == newName
  | _ => false

theorem renames_of_keepsNames {x : Exchange} (h : x.request.KeepsNames) :
    x.renames = false ∧ x.renamesToItself = false := by
  rcases x with ⟨request, outcome⟩
  cases request with
  | execute session statement =>
    cases statement with
    | renameDatabase => exact h.elim
    | _ => cases outcome <;> exact ⟨rfl, rfl⟩
  | _ => cases outcome <;> exact ⟨rfl, rfl⟩

end Exchange

/-- Whether an update renames its database: the change is valid and there is a new name. -/
structure SpecChange.Renames (change : SpecChange) : Prop where
  check : change.check = .ok ()
  differs : change.differs .name = true
  nonempty : change.desired.name.isEmpty = false

namespace Reconciler

variable {σ : Type} {r : Reconciler} {state : DatabaseState} {change : SpecChange}

/-- The logs of at most `n` attempts at an update, up to the first one that succeeds. Each attempt
goes on with the state and on the connection that the one before has left. -/
def attempts (r : Reconciler) (change : SpecChange) (server : Server σ) :
    Nat → DatabaseState → Link σ → List (List Exchange)
  | 0, _, _ => []
  | n + 1, state, link =>
    let attempt := (r.update state change).run server link
    attempt.exchanges ::
      match attempt.result with
      | (.ok _, _) => []
      | (.error _, state) => attempts r change server n state attempt.link

theorem prepare_of_renames (h : change.Renames) :
    prepare state change = run "error updating database name"
      (.renameDatabase (currentName state change) change.desired.name) := by
  rw [prepare, h.check, h.differs, rename, h.nonempty]
  rfl

theorem prepare_of_not_renames (state : DatabaseState) (h : ¬change.Renames) :
    ∃ outcome : Except Error Unit, prepare state change = liftM outcome ∧
      (outcome = .ok () → change.differs .name = false) := by
  unfold prepare
  cases hcheck : change.check with
  | error e => exact ⟨.error e, rfl, nofun⟩
  | ok _ =>
    cases hdiffers : change.differs .name with
    | false => exact ⟨.ok (), rfl, fun _ => rfl⟩
    | true =>
      cases hempty : change.desired.name.isEmpty with
      | true =>
        refine ⟨.error (.validation "database name must not be empty"), ?_, nofun⟩
        rw [rename, hempty]
        rfl
      | false => exact absurd ⟨hcheck, hdiffers, hempty⟩ h

/-! ## One attempt -/

section KeepsNames

open PgConverge.Action (Sends)
open Request (KeepsNames)

theorem requests_keepNames : Elevation.Requests KeepsNames :=
  ⟨fun _ => trivial, fun _ _ => trivial, fun _ _ => trivial, fun _ _ => trivial,
    fun _ _ => trivial, fun _ => trivial, fun _ => trivial⟩

theorem keepsNames_changeOwner (name : String) (desired : DatabaseSpec) :
    Sends KeepsNames (r.changeOwner name desired) := by
  unfold changeOwner
  split
  · exact .pure _
  · refine (Sends.onlyIf fun _ => ?_).bind fun _ => ?_
    · exact .reassignOwned requests_keepNames trivial fun _ _ => trivial
    · exact .elevated (fun _ => requests_keepNames.of_makes) (.run (by trivial) _)

theorem keepsNames_converge : Sends KeepsNames (r.converge state change) := by
  have htablespace : (Request.execute mainSession
      (.moveTablespace (finalName state change) change.desired.tablespace)).KeepsNames := by
    unfold Statement.moveTablespace
    split <;> trivial
  have hrequire (feature : Feature) :
      Sends KeepsNames (liftM (r.version.require feature) : Action Unit) := .liftExcept _
  refine Sends.bind ?_ fun _ => .read (fun _ _ _ h => h.forall_query fun _ => trivial) _
  exact (Sends.onlyIf fun _ => keepsNames_changeOwner _ _).bind fun _ =>
    (Sends.onlyIf fun _ => .run htablespace _).bind fun _ =>
    (Sends.onlyIf fun _ => .run (by trivial) _).bind fun _ =>
    (Sends.onlyIf fun _ => (hrequire _).bind fun _ => .run (by trivial) _).bind fun _ =>
    Sends.onlyIf fun _ => (hrequire _).bind fun _ => .run (by trivial) _

end KeepsNames

variable {log : List Exchange} {result : Except Error Unit × DatabaseState}

/-- An attempt that renames does so first, and it keeps the new name from then on. -/
theorem attempt_of_renames (h : change.Renames) (hy : (r.update state change).Yields log result) :
    ∃ answer rest,
      log = ⟨.execute mainSession (.renameDatabase (currentName state change) change.desired.name),
        answer⟩ :: rest ∧
      (∀ x ∈ rest, x.request.KeepsNames) ∧
      (∀ e, answer = .error e → result.2 = state) ∧
      ∀ affected e, answer = .ok affected → result.1 = .error e →
        result.2 = renamedState state change := by
  rcases yields_update.mp hy with ⟨e, hp, rfl⟩ | ⟨first, rest, outcome, rfl, hp, hc, rfl⟩
  · rw [prepare_of_renames h] at hp
    obtain ⟨e' | affected, rfl, he⟩ := (Action.yields_executeInContext ..).mp hp
    · exact ⟨.error e', [], rfl, List.forall_mem_nil _, fun _ _ => rfl, nofun⟩
    · cases he
  · rw [prepare_of_renames h] at hp
    obtain ⟨e' | affected, rfl, he⟩ := (Action.yields_executeInContext ..).mp hp
    · cases he
    · refine ⟨.ok affected, rest, rfl, keepsNames_converge rest outcome hc, nofun, ?_⟩
      intro _ e _ hfailed
      cases outcome with
      | error => rfl
      | ok => cases hfailed

theorem attempt_of_not_renames (h : ¬change.Renames)
    (hy : (r.update state change).Yields log result) :
    (∀ x ∈ log, x.request.KeepsNames) ∧ ∀ e, result.1 = .error e → result.2 = state := by
  obtain ⟨prepared, hprepare, hdiffers⟩ := prepare_of_not_renames state h
  rcases yields_update.mp hy with ⟨e, hp, rfl⟩ | ⟨first, rest, outcome, rfl, hp, hc, rfl⟩
  · rw [hprepare] at hp
    obtain ⟨rfl, -⟩ := (Action.yields_liftExcept _ _).mp hp
    exact ⟨List.forall_mem_nil _, fun _ _ => rfl⟩
  · rw [hprepare] at hp
    obtain ⟨rfl, hok⟩ := (Action.yields_liftExcept _ _).mp hp
    refine ⟨keepsNames_converge rest outcome hc, fun e hfailed => ?_⟩
    cases outcome with
    | error => simp [renamedState, hdiffers hok.symm, Except.toOption]
    | ok => cases hfailed

/-- An attempt has renamed the database and keeps the new name, or it leaves the state as it was,
unless it succeeds. -/
theorem kept_of_attempt (hy : (r.update state change).Yields log result) :
    (∃ y ∈ log, y.renames = true) ∧ change.Renames ∧
        (∀ e, result.1 = .error e → result.2 = renamedState state change) ∨
      (∀ y ∈ log, y.renames = false) ∧ ∀ e, result.1 = .error e → result.2 = state := by
  by_cases h : change.Renames
  · obtain ⟨answer, rest, rfl, hrest, herror, hok⟩ := attempt_of_renames h hy
    cases answer with
    | error e =>
      exact .inr ⟨List.forall_mem_cons.mpr ⟨rfl,
        fun y hy => (Exchange.renames_of_keepsNames (hrest y hy)).1⟩, fun _ _ => herror e rfl⟩
    | ok affected =>
      exact .inl ⟨⟨_, List.mem_cons_self, rfl⟩, h, fun e hfailed => hok affected e rfl hfailed⟩
  · obtain ⟨hkeeps, hsame⟩ := attempt_of_not_renames h hy
    exact .inr ⟨fun y hy => (Exchange.renames_of_keepsNames (hkeeps y hy)).1, hsame⟩

theorem renamedState_of_renames (h : change.Renames) :
    renamedState state change = { state with id := some change.desired.name } := by
  rw [renamedState, h.differs, if_pos rfl]

theorem currentName_renamedState (h : change.Renames) :
    currentName (renamedState state change) change = change.desired.name := by
  rw [currentName, renamedState_of_renames h]
  rfl

/-! ## All attempts -/

variable {server : Server σ} {n : Nat} {link : Link σ}

/-- Once the database is kept under its new name, every attempt renames it to that name. -/
theorem renamesToItself_of_renamed (h : change.Renames)
    (hstate : currentName state change = change.desired.name) :
    ∀ log ∈ r.attempts change server n state link, ∃ x ∈ log, x.renamesToItself = true := by
  induction n generalizing state link with
  | zero => exact List.forall_mem_nil _
  | succ n ih =>
    obtain ⟨answer, rest, hlog, -, herror, hok⟩ :=
      attempt_of_renames h (Program.yields_run server (r.update state change) link)
    rw [attempts]
    refine List.forall_mem_cons.mpr ⟨⟨_, hlog ▸ List.mem_cons_self, ?_⟩, ?_⟩
    · simp [Exchange.renamesToItself, hstate]
    · split
      · exact List.forall_mem_nil _
      · rename_i e state' hresult
        refine ih ?_
        cases answer with
        | error e' =>
          obtain rfl : state' = state := by simpa [hresult] using herror e' rfl
          exact hstate
        | ok affected =>
          obtain rfl : state' = renamedState state change := by
            simpa [hresult] using hok affected e rfl (congrArg Prod.fst hresult)
          exact currentName_renamedState h

/-- An attempt under the old name does not rename the database to its own name. It has renamed it,
and the new name is kept, or nothing has changed, unless it has succeeded. -/
theorem attempt_of_prior (hid : state.id = some change.prior.name)
    (hy : (r.update state change).Yields log result) :
    (∀ x ∈ log, x.renamesToItself = false) ∧
      ((∃ y ∈ log, y.renames = true) ∧ change.Renames ∧
          (∀ e, result.1 = .error e → result.2 = renamedState state change) ∨
        (∀ y ∈ log, y.renames = false) ∧ ∀ e, result.1 = .error e → result.2 = state) := by
  refine ⟨?_, kept_of_attempt hy⟩
  by_cases h : change.Renames
  · obtain ⟨answer, rest, rfl, hrest, -, -⟩ := attempt_of_renames h hy
    have hdiffers : (currentName state change == change.desired.name) = false := by
      have hne := h.differs
      rw [currentName, hid]
      simpa [SpecChange.differs] using hne
    exact List.forall_mem_cons.mpr
      ⟨hdiffers, fun x hx => (Exchange.renames_of_keepsNames (hrest x hx)).2⟩
  · obtain ⟨hkeeps, -⟩ := attempt_of_not_renames h hy
    exact fun x hx => (Exchange.renames_of_keepsNames (hkeeps x hx)).2

/-- An attempt renames the database to the name that it bears exactly if an earlier attempt has
renamed it. -/
theorem renames_to_itself_iff (hid : state.id = some change.prior.name)
    {earlier later : List (List Exchange)} {log : List Exchange}
    (hlogs : r.attempts change server n state link = earlier ++ log :: later) :
    (∃ x ∈ log, x.renamesToItself = true) ↔ ∃ y ∈ earlier.flatten, y.renames = true := by
  induction n generalizing state link earlier with
  | zero => cases earlier <;> cases hlogs
  | succ n ih =>
    obtain ⟨hnone, hfirst⟩ :=
      attempt_of_prior hid (Program.yields_run server (r.update state change) link)
    rw [attempts] at hlogs
    cases earlier with
    | nil =>
      obtain ⟨rfl, -⟩ := List.cons.inj hlogs
      constructor
      · rintro ⟨x, hx, hself⟩
        cases (hnone x hx).symm.trans hself
      · rintro ⟨y, hy, -⟩
        cases hy
    | cons first earlier =>
      obtain ⟨rfl, hrest⟩ := List.cons.inj hlogs
      split at hrest
      · cases earlier <;> cases hrest
      · rename_i e state' hresult
        -- Once the first attempt has renamed, all others repeat it; else they start as it did.
        rcases hfirst with ⟨⟨y, hy, hrenames⟩, h, hrenamed⟩ | ⟨hkept, hsame⟩
        · have hname : currentName state' change = change.desired.name := by
            obtain rfl : state' = renamedState state change := by
              simpa [hresult] using hrenamed e (congrArg Prod.fst hresult)
            exact currentName_renamedState h
          have hlog : log ∈ earlier.append (log :: later) :=
            List.mem_append_right earlier List.mem_cons_self
          rw [← hrest] at hlog
          exact iff_of_true (renamesToItself_of_renamed h hname log hlog)
            ⟨y, List.mem_append_left earlier.flatten hy, hrenames⟩
        · obtain rfl : state' = state := by
            simpa [hresult] using hsame e (congrArg Prod.fst hresult)
          refine (ih hid hrest).trans ?_
          constructor
          · rintro ⟨y, hy, hrenames⟩
            exact ⟨y, List.mem_append_right _ hy, hrenames⟩
          · rintro ⟨y, hy, hrenames⟩
            rcases List.mem_append.mp hy with hy | hy
            · cases (hkept y hy).symm.trans hrenames
            · exact ⟨y, hy, hrenames⟩

/-- A database is renamed from `a` to `b`, then nothing succeeds any more: the second attempt is to
rename `b` to `b`. -/
theorem renames_to_itself_again :
    ∃ first second, attempts ⟨⟨16, 0, 0⟩, "app"⟩ ⟨.ofName "a", .ofName "b"⟩ Script.server 2
        (.ofId "a") (.start [⟨"", none, none, some 1, .success 0 none⟩,
          ⟨"", none, none, none, .rejection "busy"⟩]) = [first, second] ∧
      ∃ x ∈ second, x.renamesToItself = true := by
  refine ⟨_, _, rfl, ?_⟩
  have hiff := @renames_to_itself_iff _ ⟨⟨16, 0, 0⟩, "app"⟩ (.ofId "a")
    ⟨.ofName "a", .ofName "b"⟩ Script.server 2 (.start [⟨"", none, none, some 1, .success 0 none⟩,
      ⟨"", none, none, none, .rejection "busy"⟩]) rfl [_] [] _ rfl
  exact hiff.mpr ⟨⟨.execute mainSession (.renameDatabase "a" "b"), .ok 0⟩,
    List.mem_append_left [] List.mem_cons_self, rfl⟩

end Reconciler

end PgConverge
