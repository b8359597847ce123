import PgConverge.Proofs.Reconciler.Inquiry
import PgConverge.Proofs.Reconciler.Preflight

/-!
# Specs that ask for the same

Two specs may spell what they ask for in different ways: an empty text requests no more than no text
does, and the word `DEFAULT` may be written in any case. A database is created from both with the
same statement. An update compares the texts, so that another spelling of what is fixed at creation
is refused, and another spelling of the tablespace resets it.

## Main definitions

* `DatabaseSpec.AsksLike` — two specs ask for the same, however they spell it.
* `SpecChange.KeepsSpelling` — what is fixed at creation is left alone or spelled as before.

## Main statements

* `DatabaseSpec.AsksLike.ofSpec_eq` — both specs are created with the same statement.
* `Reconciler.update_of_asksLike` — what an update from one to the other does.
-/

namespace PgConverge

/-- Texts that differ and ask for the same tablespace ask for the default one. -/
theorem Statement.moveTablespace_of_respelled {prior desired : Option String}
    (h : Setting.of prior = Setting.of desired) (hne : prior ≠ desired) (name : String) :
    moveTablespace name desired = resetTablespace name := by
  rw [moveTablespace]
  split
  · rename_i text hdesired
    have hprior := (Setting.of_eq_value_iff.mp (h.trans hdesired)).1
    exact absurd (hprior.trans (Setting.of_eq_value_iff.mp hdesired).1.symm) hne
  · rfl
  · rfl

namespace DatabaseSpec

/-- Whether two specs ask for the same, however their attributes are spelled. -/
structure AsksLike (spec other : DatabaseSpec) : Prop where
  name : spec.name = other.name
  owner : spec.requestedOwner = other.requestedOwner
  template : Setting.of spec.template = Setting.of other.template
  encoding : Setting.of spec.encoding = Setting.of other.encoding
  lcCollate : Setting.of spec.lcCollate = Setting.of other.lcCollate
  lcCtype : Setting.of spec.lcCtype = Setting.of other.lcCtype
  tablespace : Setting.of spec.tablespace = Setting.of other.tablespace
  connectionLimit : spec.connectionLimit = other.connectionLimit
  allowConnections : spec.allowConnections = other.allowConnections
  isTemplate : spec.isTemplate = other.isTemplate
  colocation : spec.colocation = other.colocation

variable {spec other : DatabaseSpec}

/-- Specs that ask for the same are created with the same statement. -/
theorem AsksLike.ofSpec_eq (h : spec.AsksLike other) (principal : String)
    (version : ServerVersion) :
    DatabaseDefinition.ofSpec spec principal version = .ofSpec other principal version := by
  simp only [DatabaseDefinition.ofSpec, h.name, h.owner, h.template, h.encoding, h.lcCollate,
    h.lcCtype, h.tablespace, h.connectionLimit, h.allowConnections, h.isTemplate, h.colocation]

/-- An owner that is asked for by name is spelled in one way only. -/
theorem AsksLike.owner_eq_or (h : spec.AsksLike other) :
    spec.owner = other.owner ∨ other.requestedOwner = none := by
  cases hother : other.requestedOwner with
  | none => exact .inr rfl
  | some owner =>
    have hspec := requestedOwner_eq_some_iff.mp (h.owner.trans hother)
    exact .inl (hspec.1.trans (requestedOwner_eq_some_iff.mp hother).1.symm)

end DatabaseSpec

namespace SpecChange

/-- Whether each text that is fixed at creation is left out or spelled as before. -/
structure KeepsSpelling (change : SpecChange) : Prop where
  template : change.desired.template = none ∨ change.prior.template = change.desired.template
  encoding : change.desired.encoding = none ∨ change.prior.encoding = change.desired.encoding
  lcCollate : change.desired.lcCollate = none ∨ change.prior.lcCollate = change.desired.lcCollate
  lcCtype : change.desired.lcCtype = none ∨ change.prior.lcCtype = change.desired.lcCtype

variable {change : SpecChange}

theorem replaces_eq_false_iff {prior desired : Option String} :
    replaces prior desired = false ↔ desired = none ∨ prior = desired := by
  cases desired <;> simp [replaces]

theorem fixedChanges_eq_nil_iff (h : change.prior.colocation = change.desired.colocation) :
    change.fixedChanges = [] ↔ change.KeepsSpelling := by
  have hnil (condition : Bool) (name : String) :
      (if condition then [name] else []) = [] ↔ condition = false := by cases condition <;> simp
  have hcolocation : (change.prior.colocation != change.desired.colocation) = false := by
    rw [h, bne_self_eq_false]
  simp only [fixedChanges, List.append_eq_nil_iff, hnil, hcolocation, replaces_eq_false_iff,
    and_true]
  constructor
  · rintro ⟨⟨⟨htemplate, hencoding⟩, hcollate⟩, hctype⟩
    exact ⟨htemplate, hencoding, hcollate, hctype⟩
  · rintro ⟨htemplate, hencoding, hcollate, hctype⟩
    exact ⟨⟨⟨htemplate, hencoding⟩, hcollate⟩, hctype⟩

end SpecChange

namespace Reconciler

variable (r : Reconciler) {state : DatabaseState} {change : SpecChange}

theorem onlyIf_changeOwner (h : change.prior.AsksLike change.desired) (name : String) :
    Action.onlyIf (change.differs .owner) (r.changeOwner name change.desired) = pure () := by
  rcases h.owner_eq_or with heq | hnone
  · have hdiffers : change.differs .owner = false := by simp [SpecChange.differs, heq]
    rw [hdiffers]
    rfl
  · have hnothing : r.changeOwner name change.desired = pure () := by
      rw [changeOwner, hnone]
    rw [hnothing]
    cases change.differs .owner <;> rfl

/-- The tablespace is all that an update may change. -/
theorem changeAttributes_of_asksLike (h : change.prior.AsksLike change.desired) (name : String) :
    r.changeAttributes name change = .onlyIf (change.differs .tablespace)
      (run "error updating database tablespace" (.resetTablespace name)) := by
  have hlimit : change.differs .connectionLimit = false := by
    simp [SpecChange.differs, h.connectionLimit]
  have hallow : change.differs .allowConnections = false := by
    simp [SpecChange.differs, h.allowConnections]
  have hmark : change.differs .isTemplate = false := by simp [SpecChange.differs, h.isTemplate]
  rw [changeAttributes, r.onlyIf_changeOwner h, hlimit, hallow, hmark]
  cases hdiffers : change.differs .tablespace with
  | false => rfl
  | true =>
    have hne : change.prior.tablespace ≠ change.desired.tablespace := by
      simpa [SpecChange.differs] using hdiffers
    rw [Statement.moveTablespace_of_respelled h.tablespace hne]
    exact bind_pure _

/-- An update to a spec that asks for the same resets the tablespace if it is spelled in another
way, and reads the database back. -/
theorem update_eq_of_asksLike (h : change.prior.AsksLike change.desired)
    (hcheck : change.check = .ok ()) :
    r.call state (.update change) = keeping state (do
      .onlyIf (change.differs .tablespace) <| run "error updating database tablespace"
        (.resetTablespace (state.id.getD change.prior.name))
      r.read state change.desired) := by
  have hname : change.differs .name = false := by simp [SpecChange.differs, h.name]
  have hprepare : prepare state change = pure () := by
    rw [prepare, hcheck, hname]
    rfl
  have hstate : renamedState state change = state := by
    rw [renamedState, hname]
    rfl
  have hfinal : finalName state change = state.id.getD change.prior.name := by
    rw [finalName, hname]
    rfl
  rw [call, update_eq, hprepare, hstate, converge, hstate, hfinal,
    r.changeAttributes_of_asksLike h]
  rfl

/-- Specs that ask for the same are created with the same text. An update from one to the other does
nothing but read the database back if the texts in them are the same; but if what is fixed at
creation is spelled in another way it is refused, and if the tablespace is it is reset first. -/
theorem update_of_asksLike (r : Reconciler) {change : SpecChange}
    (h : change.prior.AsksLike change.desired) :
    (∀ principal version,
      (Statement.createDatabase (.ofSpec change.prior principal version)).sql =
        (Statement.createDatabase (.ofSpec change.desired principal version)).sql) ∧
    ∀ {σ : Type} (state : DatabaseState) (server : Server σ) (link : Link σ),
      let transcript := (r.call state (.update change)).run server link
      (¬change.desired.IsValid → transcript.exchanges = [] ∧
        ∃ e, change.desired.check = .error e ∧ transcript.result = (.error e, state)) ∧
      (change.desired.IsValid → ¬change.KeepsSpelling → transcript.exchanges = [] ∧
        transcript.result = (.error (.validation (String.intercalate ", " change.fixedChanges ++
          " cannot change once the database exists")), state)) ∧
      (change.desired.IsValid → change.KeepsSpelling →
        change.prior.tablespace = change.desired.tablespace →
        transcript = (r.call state (.read change.desired)).run server link ∧
          ∀ x ∈ transcript.exchanges, x.request.IsReading) ∧
      (change.desired.IsValid → change.KeepsSpelling →
        change.prior.tablespace ≠ change.desired.tablespace →
        ∃ answer after, transcript.exchanges = ⟨.execute mainSession
            (.resetTablespace (state.id.getD change.prior.name)), answer⟩ :: after ∧
          ∀ x ∈ after, x.request.IsReading) := by
  refine ⟨fun principal version => by rw [h.ofSpec_eq], fun state server link => ?_⟩
  intro transcript
  have hfixed := SpecChange.fixedChanges_eq_nil_iff h.colocation
  have hpasses (hvalid : change.desired.IsValid) (hkeeps : change.KeepsSpelling) :
      change.check = .ok () := SpecChange.check_eq_ok_iff.mpr ⟨hvalid, hfixed.mpr hkeeps⟩
  refine ⟨fun hinvalid => ?_, fun hvalid hspelling => ?_, fun hvalid hkeeps hsame => ?_,
    fun hvalid hkeeps hother => ?_⟩
  · have hspec := DatabaseSpec.check_of_not_isValid hinvalid
    have hcheck : (Call.update change).check = _ := SpecChange.check_of_invalid hspec
    have hrun : transcript = _ := run_of_check hcheck server link
    rw [hrun]
    exact ⟨rfl, _, hspec, rfl⟩
  · have hcheck : (Call.update change).check = _ := SpecChange.check_of_fixedChanges
      (DatabaseSpec.check_eq_ok_iff.mpr hvalid) (mt hfixed.mp hspelling)
    have hrun : transcript = _ := run_of_check hcheck server link
    rw [hrun]
    exact ⟨rfl, rfl⟩
  · have hdiffers : change.differs .tablespace = false := by simp [SpecChange.differs, hsame]
    have hread : r.call state (.update change) = r.call state (.read change.desired) := by
      rw [r.update_eq_of_asksLike h (hpasses hvalid hkeeps), hdiffers]
      rfl
    have hrun : transcript = (r.call state (.read change.desired)).run server link := by
      subst transcript
      rw [hread]
    rw [hrun]
    exact ⟨rfl, sends_isReading_call (Program.yields_run server _ link)⟩
  · have hdiffers : change.differs .tablespace = true := by simpa [SpecChange.differs] using hother
    have hy : (r.call state (.update change)).Yields transcript.exchanges transcript.result :=
      Program.yields_run server (r.call state (.update change)) link
    rw [r.update_eq_of_asksLike h (hpasses hvalid hkeeps), hdiffers] at hy
    obtain ⟨outcome, hy, -⟩ := yields_keeping.mp hy
    rcases (Action.yields_bind _ _ _).mp hy with
      ⟨e, hreset, -⟩ | ⟨resetting, reading, _, hlog, hreset, hread⟩
    · obtain ⟨answer, hlog, -⟩ := (Action.yields_executeInContext ..).mp hreset
      exact ⟨answer, [], hlog, List.forall_mem_nil _⟩
    · obtain ⟨answer, rfl, -⟩ := (Action.yields_executeInContext ..).mp hreset
      exact ⟨answer, reading, hlog, r.sends_isReading_read _ _ reading _ hread⟩

/-- An empty text for the tablespace, and the word for the default encoding in small letters. -/
theorem update_of_asksLike_spellings :
    let r : Reconciler := ⟨⟨16, 0, 0⟩, "app"⟩
    let tablespace : SpecChange :=
      ⟨.ofName "a", { DatabaseSpec.ofName "a" with tablespace := some "" }⟩
    let encoding : SpecChange := ⟨{ DatabaseSpec.ofName "a" with encoding := some "DEFAULT" },
      { DatabaseSpec.ofName "a" with encoding := some "default" }⟩
    let resetting := (r.call (.ofId "a") (.update tablespace)).run Script.server (.start [])
    let refusing := (r.call (.ofId "a") (.update encoding)).run Script.server (.start [])
    tablespace.prior.AsksLike tablespace.desired ∧ encoding.prior.AsksLike encoding.desired ∧
      (∃ answer after, resetting.exchanges =
        ⟨.execute mainSession (.resetTablespace "a"), answer⟩ :: after) ∧
      refusing.exchanges = [] ∧ refusing.result =
        (.error (.validation "encoding cannot change once the database exists"), .ofId "a") := by
  intro r tablespace encoding resetting refusing
  have hvalid : tablespace.desired.IsValid ∧ encoding.desired.IsValid := by
    subst tablespace encoding
    exact ⟨DatabaseSpec.check_eq_ok_iff.mp rfl, DatabaseSpec.check_eq_ok_iff.mp rfl⟩
  have htablespace : tablespace.prior.AsksLike tablespace.desired :=
    ⟨rfl, rfl, rfl, rfl, rfl, rfl, rfl, rfl, rfl, rfl, rfl⟩
  have hencoding : encoding.prior.AsksLike encoding.desired :=
    ⟨rfl, rfl, rfl, by decide, rfl, rfl, rfl, rfl, rfl, rfl, rfl⟩
  have hkeeps : tablespace.KeepsSpelling := ⟨.inl rfl, .inl rfl, .inl rfl, .inl rfl⟩
  have hrespelled : ¬encoding.KeepsSpelling := fun h => absurd h.encoding (by decide)
  obtain ⟨-, -, -, hreset⟩ :=
    (r.update_of_asksLike htablespace).2 (.ofId "a") Script.server (.start [])
  obtain ⟨-, hrefuse, -, -⟩ :=
    (r.update_of_asksLike hencoding).2 (.ofId "a") Script.server (.start [])
  obtain ⟨answer, after, hexchanges, -⟩ := hreset hvalid.1 hkeeps nofun
  obtain ⟨hnothing, hresult⟩ := hrefuse hvalid.2 hrespelled
  exact ⟨htablespace, hencoding, ⟨answer, after, hexchanges⟩, hnothing, hresult⟩

end Reconciler

end PgConverge
