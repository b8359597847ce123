import PgConverge.Proofs.Server.Achievement

/-!
# Creating a database and reading it back

A database that is created on a server that does what statements say is read back with all the
attributes that were requested, and the memberships of roles are what they were.

## Main definitions

* `ObservedDatabase.Meets` — what is observed is what a spec requests.

## Main statements

* `Reconciler.create_reads_back` — a database is read back as it was requested.
-/

namespace PgConverge

/-- Whether an observed database is what a spec requests of a server of the given version, for the
role that connects. Every text but the empty one and the word `DEFAULT`, in letters of any case, is
a value that is requested. Where there is no such text the server may have chosen any value, except
that the encoding has a default of its own if there is no text or an empty one. -/
structure ObservedDatabase.Meets (observed : ObservedDatabase) (spec : DatabaseSpec)
    (principal : String) (version : ServerVersion) : Prop where
  name : observed.name = spec.name
  owner : observed.owner = (spec.owner.filter (· ≠ "")).getD principal
  template : observed.template = (spec.template.filter (· ≠ "")).getD "template0"
  encoding : ∀ text, spec.encoding = some text → text ≠ "" → text.toLower ≠ "default" →
    observed.encoding = text
  unsetEncoding : spec.encoding = none ∨ spec.encoding = some "" → observed.encoding = "UTF8"
  lcCollate : ∀ text, spec.lcCollate = some text → text ≠ "" → text.toLower ≠ "default" →
    observed.lcCollate = text
  lcCtype : ∀ text, spec.lcCtype = some text → text ≠ "" → text.toLower ≠ "default" →
    observed.lcCtype = text
  tablespace : ∀ text, spec.tablespace = some text → text ≠ "" → text.toLower ≠ "default" →
    observed.tablespace = text
  connectionLimit : observed.connectionLimit = spec.connectionLimit
  allowConnections : observed.allowConnections =
    if version.atLeast 9 5 then some spec.allowConnections else none
  isTemplate : observed.isTemplate = if version.atLeast 9 5 then some spec.isTemplate else none

theorem requestedFlag_eq (supported flag chosen : Bool) :
    (if supported then some ((if supported then some flag else none).getD chosen) else none) =
      if supported then some flag else none := by
  cases supported <;> rfl

/-- What a definition made of a spec asks for is observed of the database that is stored for it. -/
theorem StoredDatabase.meets_ofDefinition (spec : DatabaseSpec) (principal : String)
    (version : ServerVersion) (chosen : StoredDatabase) :
    ((ofDefinition (.ofSpec spec principal version) chosen).observed spec.name spec version).Meets
      spec principal version := by
  have hvalue {raw : Option String} {text : String} (absent : Setting) (hraw : raw = some text)
      (hempty : text ≠ "") (hdefault : text.toLower ≠ "default") (chosen : String) :
      (Setting.asked absent raw).getD chosen = text :=
    Setting.getD_of_eq_value (Setting.asked_of_value absent hraw hempty hdefault) chosen
  rw [DatabaseDefinition.ofSpec_eq_asked]
  exact
    { name := rfl
      owner := rfl
      template := rfl
      encoding := fun _ htext hempty hdefault => hvalue _ htext hempty hdefault _
      unsetEncoding := fun hunset => Setting.getD_of_eq_value (Setting.asked_of_unset _ hunset) _
      lcCollate := fun _ htext hempty hdefault => hvalue _ htext hempty hdefault _
      lcCtype := fun _ htext hempty hdefault => hvalue _ htext hempty hdefault _
      tablespace := fun _ htext hempty hdefault => hvalue _ htext hempty hdefault _
      connectionLimit := rfl
      allowConnections := requestedFlag_eq _ _ _
      isTemplate := requestedFlag_eq _ _ _ }

namespace Reconciler

open PgConverge.Action (Achieves)

variable {σ : Type} {server : Server σ} {defaultTablespace : String} {view : σ → Holdings}

/-- A statement that creates a database stores what it asks for. -/
theorem achieves_create {w : Holdings} (r : Reconciler) (spec : DatabaseSpec) :
    Achieves defaultTablespace w (r.create spec) fun state w' =>
      w'.members = w.members ∧ ∃ stored, w'.databases = (w.put spec.name stored).databases ∧
        state = .ofObserved (stored.observed spec.name spec r.version) ∧
        (stored.observed spec.name spec r.version).Meets spec r.principal r.version := by
  have hcreated (members : Finset (String × String)) :
      Achieves defaultTablespace ⟨w.databases, members⟩
        (run "error creating database" (.createDatabase (.ofSpec spec r.principal r.version)))
        fun _ w' => w'.members = members ∧ ∃ chosen, w'.databases = (w.put spec.name
          (.ofDefinition (.ofSpec spec r.principal r.version) chosen)).databases := by
    refine .run _ trivial fun chosen w' happly => ?_
    cases happly
    exact ⟨rfl, chosen, rfl⟩
  refine .liftExcept_bind fun _ _ => .liftExcept_bind fun _ _ => ?_
  refine (Achieves.asOwner (P := fun databases => ∃ chosen, databases = (w.put spec.name
    (.ofDefinition (.ofSpec spec r.principal r.version) chosen)).databases) hcreated).bind ?_
  rintro _ w' ⟨hmembers, chosen, hdatabases⟩
  refine (Achieves.read r spec rfl (by rw [hdatabases]; exact w.databases_put _ _)).mono ?_
  rintro _ _ ⟨rfl, rfl⟩
  exact ⟨hmembers, _, hdatabases, rfl, StoredDatabase.meets_ofDefinition ..⟩

/-- A database that is created is read back as it was requested, under the name that was requested,
and the memberships are those before. -/
theorem create_reads_back (hserver : server.Keeps defaultTablespace view) (r : Reconciler)
    (spec : DatabaseSpec) (link : Link σ) {state : DatabaseState}
    (hok : ((r.create spec).attempt.run server link).result = .ok state) :
    (∃ observed, state = ⟨some spec.name, some observed⟩ ∧
        observed.Meets spec r.principal r.version) ∧
      (view ((r.create spec).attempt.run server link).link.state).members =
        (view link.state).members := by
  have hyields := Program.yields_run server (r.create spec).attempt link
  rw [hok] at hyields
  obtain ⟨hmembers, _, -, hstate, hmeets⟩ :=
    achieves_create r spec _ _ state hyields (hserver.leads (r.create spec).attempt link)
  exact ⟨⟨_, hstate, hmeets⟩, hmembers⟩

/-- A database whose texts are empty or ask for the server's defaults, and after it one with values,
for another role. -/
theorem create_reads_back_sales :
    let server := Holdings.server "pg_default"
      ⟨"app", "SQL_ASCII", "en_US", "en_US", "pg_default", -1, true, false⟩
    let r : Reconciler := ⟨⟨16, 0, 0⟩, "app"⟩
    let drafts := { DatabaseSpec.ofName "drafts" with
      owner := some "", encoding := some "", lcCollate := some "Default",
      tablespace := some "default" }
    let sales := { DatabaseSpec.ofName "sales" with
      owner := some "alice", template := some "template1", encoding := some "LATIN1",
      lcCollate := some "C", tablespace := some "fast", connectionLimit := 5 }
    let first := (r.create drafts).attempt.run server (.start ⟨fun _ => none, ∅⟩)
    let second := (r.create sales).attempt.run server first.link
    let defaults : ObservedDatabase := ⟨"drafts", "app", "template0", "UTF8", "en_US", "en_US",
      "pg_default", -1, some true, some false⟩
    let values : ObservedDatabase := ⟨"sales", "alice", "template1", "LATIN1", "C", "en_US", "fast",
      5, some true, some false⟩
    first.result = .ok ⟨some "drafts", some defaults⟩ ∧ defaults.Meets drafts "app" r.version ∧
      second.result = .ok ⟨some "sales", some values⟩ ∧ values.Meets sales "app" r.version ∧
      second.link.state.members = ∅ := by
  intro server r drafts sales first second defaults values
  have hkeeps := Holdings.keeps_server "pg_default"
    ⟨"app", "SQL_ASCII", "en_US", "en_US", "pg_default", -1, true, false⟩
  have hfirst : first.result = .ok ⟨some "drafts", some defaults⟩ := by
    subst server r drafts first defaults
    rfl
  have hsecond : second.result = .ok ⟨some "sales", some values⟩ := by
    subst server r sales second first drafts values
    rfl
  obtain ⟨⟨_, hdrafts, hdefaults⟩, hmembers⟩ := create_reads_back hkeeps r drafts _ hfirst
  obtain ⟨⟨_, hsales, hvalues⟩, hmembers'⟩ := create_reads_back hkeeps r sales _ hsecond
  cases hdrafts
  cases hsales
  exact ⟨hfirst, hdefaults, hsecond, hvalues, hmembers'.trans hmembers⟩

end Reconciler

end PgConverge
