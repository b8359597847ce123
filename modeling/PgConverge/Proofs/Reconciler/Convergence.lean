import PgConverge.Proofs.Reconciler.Call
import PgConverge.Proofs.Server.Achievement

/-!
# What an update makes of a server

An update that succeeds on a server that does what statements say has given its database the new
name and the desired value of every attribute in which the specs differ. All else is as it was,
except that objects may be handed over, which gives the other databases of the old owner to the new
one as well.

## Main definitions

* `SpecChange.newOwner?`, `SpecChange.heir?` — the new owner, and who inherits from the old one.
* `tablespaceFor` — the tablespace that a text asks for.
* `StoredDatabase.changed` — a database as a change wants it.

## Main statements

* `Reconciler.update_changes_what_differs` — what is there, and what is reported, after an update.
-/

namespace PgConverge

namespace SpecChange

/-- The owner that an update gives to its database, if it changes the owner. -/
def newOwner? (change : SpecChange) : Option String :=
  if change.prior.owner = change.desired.owner then none
  else change.desired.owner.filter (· ≠ "")

/-- The role to which an update hands over everything that the old owner owns, if it does so. -/
def heir? (change : SpecChange) : Option String :=
  if change.desired.reassignObjects then change.newOwner? else none

theorem newOwner?_eq (change : SpecChange) :
    change.newOwner? = if change.differs .owner then change.desired.requestedOwner else none := by
  rw [newOwner?, DatabaseSpec.requestedOwner_eq]
  by_cases h : change.prior.owner = change.desired.owner
  · simp [differs, h]
  · simp [differs, h]

end SpecChange

/-- The tablespace that a text asks for: the server's own one if there is no text or an empty one,
or if it is the word `DEFAULT` in letters of any case. -/
def tablespaceFor (defaultTablespace : String) : Option String → String
  | none => defaultTablespace
  | some text => if text = "" ∨ text.toLower = "default" then defaultTablespace else text

theorem Setting.getD_of_eq_tablespaceFor (raw : Option String) (defaultTablespace : String) :
    (of raw).getD defaultTablespace = tablespaceFor defaultTablespace raw := by
  cases h : of raw with
  | unset => rcases of_eq_unset_iff.mp h with rfl | rfl <;> rfl
  | serverDefault =>
    obtain ⟨text, rfl, hdefault⟩ := of_eq_serverDefault_iff.mp h
    rw [tablespaceFor, if_pos (.inr hdefault)]
    rfl
  | value text =>
    obtain ⟨rfl, hempty, hdefault⟩ := of_eq_value_iff.mp h
    rw [tablespaceFor, if_neg (not_or.mpr ⟨hempty, hdefault⟩)]
    rfl

/-- A database with the desired value of every attribute in which the specs differ. -/
def StoredDatabase.changed (d : StoredDatabase) (change : SpecChange)
    (defaultTablespace : String) : StoredDatabase :=
  { d with
    owner := change.newOwner?.getD d.owner
    tablespace :=
      if change.prior.tablespace = change.desired.tablespace then d.tablespace
      else tablespaceFor defaultTablespace change.desired.tablespace
    connectionLimit :=
      if change.prior.connectionLimit = change.desired.connectionLimit then d.connectionLimit
      else change.desired.connectionLimit
    allowConnections :=
      if change.prior.allowConnections = change.desired.allowConnections then d.allowConnections
      else change.desired.allowConnections
    isTemplate :=
      if change.prior.isTemplate = change.desired.isTemplate then d.isTemplate
      else change.desired.isTemplate }

namespace Holdings

/-- Hands over every database of the old owner, if there is an heir. -/
def handOver? (w : Holdings) (oldOwner : String) (heir? : Option String) : Holdings :=
  { w with databases := fun name => (w.databases name).map fun d =>
    if d.owner = oldOwner then { d with owner := heir?.getD d.owner } else d }

@[simp] theorem handOver?_none (w : Holdings) (oldOwner : String) :
    w.handOver? oldOwner none = w := by
  simp [handOver?]

@[simp] theorem handOver?_some (w : Holdings) (oldOwner heir : String) :
    w.handOver? oldOwner (some heir) = w.handOver oldOwner heir := rfl

theorem handOver_self (w : Holdings) (owner : String) : w.handOver owner owner = w := by
  have hself : StoredDatabase.handOver owner owner = id := funext fun d => by
    unfold StoredDatabase.handOver
    split
    · rename_i h
      rw [← h]
      rfl
    · rfl
  simp [handOver, hself]

end Holdings

namespace Reconciler

open PgConverge.Action (Achieves)

variable {defaultTablespace : String} {w : Holdings} {name : String} {d : StoredDatabase}

/-! ## The steps -/

/-- A statement that alters a database. -/
theorem achieves_alter {statement : Statement} (context : String)
    (f : StoredDatabase → StoredDatabase) (hread : statement.IsReadable)
    (hexecute : ∀ chosen (w : Holdings),
      w.execute? defaultTablespace chosen statement = w.alter? name f) :
    Achieves defaultTablespace (w.put name d) (run context statement) fun _ w' =>
      w' = w.put name (f d) := by
  refine .run context hread fun chosen w' hw' => ?_
  rw [hexecute, Holdings.alter?, Holdings.databases_put, Option.map_some, Holdings.put_put] at hw'
  exact (Option.some.inj hw').symm

theorem achieves_moveTablespace (context : String) (tablespace : Option String) :
    Achieves defaultTablespace (w.put name d) (run context (.moveTablespace name tablespace))
      fun _ w' => w' = w.put name
        { d with tablespace := tablespaceFor defaultTablespace tablespace } := by
  rw [← Setting.getD_of_eq_tablespaceFor]
  unfold Statement.moveTablespace
  cases Setting.of tablespace with
  | unset | serverDefault =>
    exact achieves_alter context (fun d => { d with tablespace := defaultTablespace }) trivial
      fun _ _ => rfl
  | value tablespace =>
    exact achieves_alter context (fun d => { d with tablespace }) trivial fun _ _ => rfl

theorem achieves_setOwner (r : Reconciler) (owner : String) :
    Achieves defaultTablespace (w.put name d) (r.setOwner name owner) fun _ w' =>
      w' = w.put name { d with owner } := by
  refine (Achieves.elevated (P := (· = (w.put name { d with owner }).databases)) ?_).mono ?_
  · intro members
    have hset : Achieves defaultTablespace (Holdings.put { w with members } name d)
        (run "error updating database owner" (.setOwner name owner))
        fun _ w' => w' = Holdings.put { w with members } name { d with owner } :=
      achieves_alter _ (fun d => { d with owner }) trivial fun _ _ => rfl
    refine hset.mono ?_
    rintro _ _ rfl
    exact ⟨rfl, rfl⟩
  · rintro _ ⟨_, _⟩ ⟨rfl, rfl⟩
    rfl

/-- Objects are handed over from whoever owns the database. -/
theorem achieves_reassignOwned (r : Reconciler) (newOwner : String)
    (hd : w.databases name = some d) :
    Achieves defaultTablespace w (r.reassignOwned name newOwner) fun _ w' =>
      w' = w.handOver d.owner newOwner := by
  refine (Achieves.databaseOwner name).bind ?_
  rintro _ v ⟨rfl, rfl⟩
  simp only [hd, Option.map_some]
  split
  · rename_i hsame
    rw [← beq_iff_eq.mp hsame]
    exact .pure (v.handOver_self _).symm
  · refine (Achieves.enter r.principal d.owner (some name)).bind ?_
    rintro elevation ⟨databases, members⟩ ⟨rfl, hadds⟩
    have hreassigned : Achieves defaultTablespace ⟨v.databases, members⟩
        ((Session.execute elevation.session (.reassignOwned d.owner newOwner)).inContext
          "error reassigning objects to new owner")
        fun _ w' => w' = Holdings.handOver ⟨v.databases, members⟩ d.owner newOwner := by
      refine .inContext _ (.execute trivial fun _ chosen w' hexecute => ?_)
      exact (Option.some.inj hexecute).symm
    refine hreassigned.attempt_bind ?_ fun e _ => .exit_error elevation e
    rintro _ _ rfl
    have hadds' : elevation.grant.Adds v.members
      (Holdings.handOver ⟨v.databases, members⟩ d.owner newOwner).members := hadds
    refine (Achieves.exitCommitting hadds' _).mono ?_
    rintro _ _ ⟨-, rfl⟩
    rfl

/-- A change of owner hands over objects first, if it is to do so. -/
theorem achieves_changeOwner (r : Reconciler) (change : SpecChange) :
    Achieves defaultTablespace (w.put name d)
      (.onlyIf (change.differs .owner) (r.changeOwner name change.desired)) fun _ w' =>
      w' = (w.handOver? d.owner change.heir?).put name
        { d with owner := change.newOwner?.getD d.owner } := by
  rw [SpecChange.heir?, SpecChange.newOwner?_eq]
  cases change.differs .owner with
  | false =>
    refine .pure ?_
    simp
  | true =>
    unfold Action.onlyIf changeOwner
    cases change.desired.requestedOwner with
    | none =>
      refine .pure ?_
      simp
    | some owner =>
      have hset (w : Holdings) (d : StoredDatabase) :
          Achieves defaultTablespace (w.put name d) (r.setOwner name owner) fun _ w' =>
            w' = w.put name { d with owner } := achieves_setOwner r owner
      cases change.desired.reassignObjects with
      | false => simpa [Action.onlyIf] using hset w d
      | true =>
        refine (achieves_reassignOwned r owner (w.databases_put name d)).bind ?_
        rintro _ _ rfl
        rw [Holdings.handOver_put]
        refine (hset _ _).mono ?_
        rintro _ _ rfl
        rw [StoredDatabase.handOver, if_pos rfl]
        rfl

theorem achieves_setConnectionLimit (limit : Int32) :
    Achieves defaultTablespace (w.put name d)
      (run "error updating database connection limit" (.setConnectionLimit name limit))
      fun _ w' => w' = w.put name { d with connectionLimit := limit } :=
  achieves_alter _ (fun d => { d with connectionLimit := limit }) trivial fun _ _ => rfl

theorem achieves_setAllowConnections (r : Reconciler) (allow : Bool) :
    Achieves defaultTablespace (w.put name d) (r.setAllowConnections name allow) fun _ w' =>
      w' = w.put name { d with allowConnections := allow } :=
  .liftExcept_bind fun _ _ =>
    achieves_alter _ (fun d => { d with allowConnections := allow }) trivial fun _ _ => rfl

theorem achieves_setIsTemplate (r : Reconciler) (isTemplate : Bool) :
    Achieves defaultTablespace (w.put name d) (r.setIsTemplate name isTemplate) fun _ w' =>
      w' = w.put name { d with isTemplate } :=
  .liftExcept_bind fun _ _ =>
    achieves_alter _ (fun d => { d with isTemplate }) trivial fun _ _ => rfl

/-- A step that is left out leaves the database as it was. -/
theorem achieves_onlyIf {p : Prop} [Decidable p] {condition : Bool} {action : Action Unit}
    {d' : StoredDatabase} (hcondition : condition = true ↔ ¬p)
    (h : Achieves defaultTablespace (w.put name d) action fun _ w' => w' = w.put name d') :
    Achieves defaultTablespace (w.put name d) (.onlyIf condition action) fun _ w' =>
      w' = w.put name (if p then d else d') := by
  refine .onlyIf (fun htrue => ?_) fun hfalse => ?_
  · rwa [if_neg (hcondition.mp htrue)]
  · rw [if_pos (by simpa [hfalse] using hcondition)]

/-- The attributes change one after another, and no step touches what another one changes. -/
theorem achieves_changeAttributes (r : Reconciler) (change : SpecChange) :
    Achieves defaultTablespace (w.put name d) (r.changeAttributes name change) fun _ w' =>
      w' = (w.handOver? d.owner change.heir?).put name (d.changed change defaultTablespace) := by
  refine (achieves_changeOwner r change).bind ?_
  rintro _ _ rfl
  refine (achieves_onlyIf bne_iff_ne (achieves_moveTablespace _ _)).bind ?_
  rintro _ _ rfl
  refine (achieves_onlyIf bne_iff_ne (achieves_setConnectionLimit _)).bind ?_
  rintro _ _ rfl
  refine (achieves_onlyIf bne_iff_ne (achieves_setAllowConnections r _)).bind ?_
  rintro _ _ rfl
  refine (achieves_onlyIf bne_iff_ne (achieves_setIsTemplate r _)).mono ?_
  rintro _ _ rfl
  refine congrArg (Holdings.put _ name) ?_
  unfold StoredDatabase.changed
  split_ifs <;> rfl

/-! ## The update -/

variable {state : DatabaseState} {change : SpecChange}

theorem finalName_eq (hid : state.id = some name) : finalName state change =
    if change.prior.name = change.desired.name then name else change.desired.name := by
  rw [finalName_eq_ite, hid, Option.getD_some]

theorem id_renamedState (hid : state.id = some name) :
    (renamedState state change).id = some (finalName state change) := by
  rw [renamedState, finalName, currentName, hid]
  split
  · rfl
  · exact hid

/-- A database gets a new name only if no other one has it. -/
theorem achieves_rename (newName : String) (hd : w.databases name = some d) :
    Achieves defaultTablespace w (rename name newName) fun _ w' =>
      w.databases newName = none ∧ w' = { w with
        databases :=
          Function.update (Function.update w.databases name none) newName (some d) } := by
  have hrun : Achieves defaultTablespace w
      (run "error updating database name" (.renameDatabase name newName)) fun _ w' =>
        w.databases newName = none ∧ w' = { w with
          databases :=
            Function.update (Function.update w.databases name none) newName (some d) } := by
    refine .run _ trivial fun chosen w' hexecute => ?_
    rw [Holdings.execute?, Holdings.rename?, hd] at hexecute
    cases hfree : w.databases newName with
    | some other =>
      rw [hfree] at hexecute
      cases hexecute
    | none =>
      rw [hfree] at hexecute
      exact ⟨rfl, (Option.some.inj hexecute).symm⟩
  unfold rename
  split
  · exact (Achieves.throw _).bind fun _ _ (h : False) => h.elim
  · exact hrun

/-- The database has its new name before anything else changes. -/
theorem achieves_prepare (hid : state.id = some name) (hd : w.databases name = some d) :
    Achieves defaultTablespace w (prepare state change) fun _ w' =>
      w'.members = w.members ∧ w'.databases (finalName state change) = some d ∧
        (finalName state change ≠ name → w'.databases name = none) ∧
        ∀ other, other ≠ name → other ≠ finalName state change →
          w'.databases other = w.databases other := by
  have hcurrent : currentName state change = name := by rw [currentName, hid]; rfl
  refine .liftExcept_bind fun _ _ => .onlyIf (fun hdiffers => ?_) fun hsame => ?_
  · rw [finalName, hdiffers, if_pos rfl, hcurrent]
    refine (achieves_rename change.desired.name hd).mono ?_
    rintro _ _ ⟨hfree, rfl⟩
    refine ⟨rfl, Function.update_self .., fun hne => ?_, fun other hname hnew => ?_⟩
    · exact (Function.update_of_ne hne.symm _ _).trans (Function.update_self ..)
    · exact (Function.update_of_ne hnew _ _).trans (Function.update_of_ne hname _ _)
  · rw [finalName, hsame, if_neg Bool.false_ne_true, hcurrent]
    exact ⟨rfl, hd, fun hne => absurd rfl hne, fun _ _ _ => rfl⟩

theorem achieves_converge (r : Reconciler) (hid : state.id = some name)
    (hd : w.databases (finalName state change) = some d) :
    Achieves defaultTablespace w (r.converge state change) fun result w' =>
      w' = (w.handOver? d.owner change.heir?).put (finalName state change)
          (d.changed change defaultTablespace) ∧
        result = .ofObserved ((d.changed change defaultTablespace).observed
          (finalName state change) change.desired r.version) := by
  have hchanged : Achieves defaultTablespace (w.put (finalName state change) d)
      (r.changeAttributes (finalName state change) change) _ := achieves_changeAttributes r change
  rw [Holdings.put_eq_self hd] at hchanged
  refine hchanged.bind ?_
  rintro _ _ rfl
  refine (Achieves.read r change.desired (id_renamedState hid) (Holdings.databases_put ..)).mono ?_
  rintro _ _ ⟨rfl, rfl⟩
  exact ⟨rfl, rfl⟩

/-- An update that succeeds has given its database the new name, and the desired value of every
attribute in which the specs differ. Another database may only have a new owner, if the update hands
over what the old one owned, and the memberships are those before. What is reported is what is
there. -/
theorem update_changes_what_differs {σ : Type} {server : Server σ} {view : σ → Holdings}
    (hserver : server.Keeps defaultTablespace view) (r : Reconciler) (link : Link σ)
    (change : SpecChange) {stored : StoredDatabase} (hid : state.id = some name)
    (hstored : (view link.state).databases name = some stored)
    (hok : ((r.update state change).run server link).result.1 = .ok ()) :
    let newName :=
      if change.prior.name = change.desired.name then name else change.desired.name
    let before := view link.state
    let after := view ((r.update state change).run server link).link.state
    after.databases newName = some (stored.changed change defaultTablespace) ∧
      (newName ≠ name → after.databases name = none) ∧
      (∀ other, other ≠ name → other ≠ newName → after.databases other =
        (before.databases other).map fun d =>
          if d.owner = stored.owner then { d with owner := change.heir?.getD d.owner } else d) ∧
      after.members = before.members ∧
      ((r.update state change).run server link).result.2 = ⟨some newName, some
        ((stored.changed change defaultTablespace).observed newName change.desired r.version)⟩ := by
  intro newName before after
  have hname : newName = finalName state change := (finalName_eq hid).symm
  rcases yields_update.mp (Program.yields_run server (r.update state change) link) with
    ⟨e, -, hresult⟩ | ⟨first, rest, outcome, hlog, hprepare, hconverge, hresult⟩
  · rw [hresult] at hok
    cases hok
  have hleads := hserver.leads (r.update state change) link
  rw [hlog] at hleads
  obtain ⟨v, hfirst, hrest⟩ := hleads.split
  obtain ⟨hmembers, hrenamed, hvacated, hothers⟩ :=
    achieves_prepare hid hstored first v () hprepare hfirst
  cases outcome with
  | error e =>
    rw [hresult] at hok
    cases hok
  | ok result =>
    obtain ⟨hafter, rfl⟩ := achieves_converge r hid hrenamed rest after result hconverge hrest
    rw [hafter, hresult, hname]
    refine ⟨Holdings.databases_put .., fun hne => ?_, fun other hother hnew => ?_, hmembers, rfl⟩
    · rw [Holdings.databases_put_of_ne _ _ hne.symm]
      exact congrArg (Option.map _) (hvacated hne)
    · rw [Holdings.databases_put_of_ne _ _ hnew]
      exact congrArg (Option.map _) (hothers other hother hnew)

/-- A database of `alice` is renamed and given to `bob` with all that `alice` owns, which is another
database too; its limit changes and it goes back to the server's own tablespace. A second update
moves it to a tablespace by name and does nothing else. -/
theorem update_changes_what_differs_shop :
    let server := Holdings.server "pg_default"
      ⟨"app", "UTF8", "en_US", "en_US", "pg_default", -1, true, false⟩
    let r : Reconciler := ⟨⟨16, 0, 0⟩, "app"⟩
    let stored : StoredDatabase := ⟨"alice", "UTF8", "C", "C", "fast", -1, true, false⟩
    let shop := { DatabaseSpec.ofName "shop" with owner := some "alice", tablespace := some "fast" }
    let store := { DatabaseSpec.ofName "store" with
      owner := some "bob", tablespace := some "Default", connectionLimit := 5,
      reassignObjects := true }
    let moved := { store with tablespace := some "archive" }
    let before := Holdings.put (.put ⟨fun _ => none, ∅⟩ "notes" stored) "shop" stored
    let first := (r.update (.ofId "shop") ⟨shop, store⟩).run server (.start before)
    let second := (r.update first.result.2 ⟨store, moved⟩).run server first.link
    (first.result.1 = .ok () ∧
      first.link.state.databases "store" =
        some ⟨"bob", "UTF8", "C", "C", "pg_default", 5, true, false⟩ ∧
      first.link.state.databases "shop" = none ∧
      first.link.state.databases "notes" =
        some ⟨"bob", "UTF8", "C", "C", "fast", -1, true, false⟩ ∧
      first.link.state.members = ∅) ∧
    second.result.1 = .ok () ∧
      second.link.state.databases "store" =
        some ⟨"bob", "UTF8", "C", "C", "archive", 5, true, false⟩ ∧
      second.link.state.databases "notes" =
        some ⟨"bob", "UTF8", "C", "C", "fast", -1, true, false⟩ ∧
      second.link.state.members = ∅ := by
  intro server r stored shop store moved before first second
  have hkeeps := Holdings.keeps_server "pg_default"
    ⟨"app", "UTF8", "en_US", "en_US", "pg_default", -1, true, false⟩
  have hshop : before.databases "shop" = some stored := Holdings.databases_put ..
  have hfirst : first.result.1 = .ok () := by
    subst server r stored shop store before first
    rfl
  have hsecond : second.result.1 = .ok () := by
    subst server r second first stored moved shop store before
    rfl
  have hchanged : stored.changed ⟨shop, store⟩ "pg_default" =
      ⟨"bob", "UTF8", "C", "C", "pg_default", 5, true, false⟩ := by decide +kernel
  have hchanged' : (stored.changed ⟨shop, store⟩ "pg_default").changed ⟨store, moved⟩ "pg_default" =
      ⟨"bob", "UTF8", "C", "C", "archive", 5, true, false⟩ := by decide +kernel
  obtain ⟨hstored, hnone, hothers, hmembers, hreported⟩ :=
    update_changes_what_differs hkeeps r (.start before) ⟨shop, store⟩ rfl hshop hfirst
  have hid : first.result.2.id = some "store" := congrArg DatabaseState.id hreported
  obtain ⟨hstored', -, hunmoved, hmembers', -⟩ :=
    update_changes_what_differs hkeeps r first.link ⟨store, moved⟩ hid hstored hsecond
  have hstore : first.link.state.databases "store" =
      some ⟨"bob", "UTF8", "C", "C", "pg_default", 5, true, false⟩ :=
    hstored.trans (congrArg some hchanged)
  have hgone : first.link.state.databases "shop" = none := hnone (by decide)
  have hnotes : first.link.state.databases "notes" =
      some ⟨"bob", "UTF8", "C", "C", "fast", -1, true, false⟩ :=
    hothers "notes" (by decide) (by decide)
  have hstore' : second.link.state.databases "store" =
      some ⟨"bob", "UTF8", "C", "C", "archive", 5, true, false⟩ :=
    hstored'.trans (congrArg some hchanged')
  have hnotes' : second.link.state.databases "notes" =
      some ⟨"bob", "UTF8", "C", "C", "fast", -1, true, false⟩ :=
    (hunmoved "notes" (by decide) (by decide)).trans (congrArg (Option.map _) hnotes)
  exact ⟨⟨hfirst, hstore, hgone, hnotes, hmembers⟩, hsecond, hstore', hnotes',
    hmembers'.trans hmembers⟩

end Reconciler

end PgConverge
