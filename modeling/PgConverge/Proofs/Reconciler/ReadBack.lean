import PgConverge.Connection.Script
import PgConverge.Proofs.Reconciler.Call

/-!
# Reading back

What the catalog answers when a database is read back, and the state that this gives. An update ends
with such a reading wherever the state that is kept has an identity once the database has been
renamed. Where it has none, the update has still found a name to address its database by, that of
the previous spec, but it reads nothing and leaves the empty state.

## Main definitions

* `Catalog.Found` — a question, and what the row that answers it says.
* `Reconciler.ReadBack` — the answers from which a database is read back, and what they show.
* `DatabaseState.ofFound` — the state that a reading gives.

## Main statements

* `Reconciler.readBack_of_observe`, `Reconciler.readBack_of_read` — there are no other ways to read a
  database back.
* `Reconciler.update_reads_back_iff` — the updates that read their database back.
-/

namespace PgConverge

/-- A question on the main session, and what the row that answers it says, if there is one. -/
inductive Catalog.Found {α : Type} (question : Query) (decode : Row → Except Error α) :
    List Exchange → Option α → Prop where
  | missing : Found question decode [⟨.query mainSession question, .ok none⟩] none
  | row (row : Row) (a : α) : decode row = .ok a →
      Found question decode [⟨.query mainSession question, .ok (some row)⟩] (some a)

theorem Catalog.found_of_lookup {α : Type} {question : Query} {context : String}
    {decode : Row → Except Error α} {log : List Exchange} {found : Option α}
    (h : (lookup mainSession question context decode).Yields log (.ok found)) :
    Found question decode log found := by
  obtain ⟨answer, rfl, hfound⟩ := yields_lookup.mp h
  match answer with
  | .error e => cases hfound
  | .ok none =>
    cases hfound
    exact .missing
  | .ok (some row) =>
    cases found with
    | none =>
      rw [decoded] at hfound
      cases hrow : decode row <;> simp [hrow, Except.map] at hfound
    | some a =>
      obtain ⟨row', hanswer, hrow⟩ := decoded_eq_ok_some hfound.symm
      cases hanswer
      exact .row row a hrow

/-- The state that a reading gives: a database that is gone leaves the empty state. -/
def DatabaseState.ofFound : Option ObservedDatabase → DatabaseState
  | some observed => ofObserved observed
  | none => empty

namespace Reconciler

variable (r : Reconciler)

/-- A flag and how it is learned: it is not asked for where the server does not have it. -/
inductive FlagRead (feature : Feature) (question : Query) :
    List Exchange → Option (Option Bool) → Prop where
  | unsupported : r.version.supports feature = false → FlagRead feature question [] (some none)
  | asked {log : List Exchange} {found : Option Bool} : r.version.supports feature = true →
      Catalog.Found question (·.boolean 0) log found →
      FlagRead feature question log (found.map some)

/-- The answers from which a database is read back, and what they show. The first question is about
the name of the database, and the others are about the name that the catalog shows for it. A question
that no row answers is the last one: the database is gone. -/
inductive ReadBack (name : String) (spec : DatabaseSpec) :
    List Exchange → Option ObservedDatabase → Prop where
  | unknown {asked : List Exchange} :
      Catalog.Found (.databaseOwner name) Row.databaseOwner asked none →
      ReadBack name spec asked none
  | unsettled {asked settling : List Exchange} {shown owner : String} :
      Catalog.Found (.databaseOwner name) Row.databaseOwner asked (some (shown, owner)) →
      Catalog.Found (.databaseSettings shown) Row.databaseSettings settling none →
      ReadBack name spec (asked ++ settling) none
  | closed {asked settling allowing : List Exchange} {shown owner : String}
      {settings : DatabaseSettings} :
      Catalog.Found (.databaseOwner name) Row.databaseOwner asked (some (shown, owner)) →
      Catalog.Found (.databaseSettings shown) Row.databaseSettings settling (some settings) →
      r.FlagRead .allowConnections (.databaseAllowConnections shown) allowing none →
      ReadBack name spec (asked ++ (settling ++ allowing)) none
  | unmarked {asked settling allowing marking : List Exchange} {shown owner : String}
      {settings : DatabaseSettings} {allowConnections : Option Bool} :
      Catalog.Found (.databaseOwner name) Row.databaseOwner asked (some (shown, owner)) →
      Catalog.Found (.databaseSettings shown) Row.databaseSettings settling (some settings) →
      r.FlagRead .allowConnections (.databaseAllowConnections shown) allowing
        (some allowConnections) →
      r.FlagRead .isTemplate (.databaseIsTemplate shown) marking none →
      ReadBack name spec (asked ++ (settling ++ (allowing ++ marking))) none
  | seen {asked settling allowing marking : List Exchange} {shown owner : String}
      {settings : DatabaseSettings} {allowConnections isTemplate : Option Bool} :
      Catalog.Found (.databaseOwner name) Row.databaseOwner asked (some (shown, owner)) →
      Catalog.Found (.databaseSettings shown) Row.databaseSettings settling (some settings) →
      r.FlagRead .allowConnections (.databaseAllowConnections shown) allowing
        (some allowConnections) →
      r.FlagRead .isTemplate (.databaseIsTemplate shown) marking (some isTemplate) →
      ReadBack name spec (asked ++ (settling ++ (allowing ++ marking)))
        (some { name := shown, owner, template := reportedTemplate spec,
                encoding := settings.encoding, lcCollate := settings.lcCollate,
                lcCtype := settings.lcCtype, tablespace := settings.tablespace,
                connectionLimit := settings.connectionLimit, allowConnections, isTemplate })

variable {r} {name : String} {spec : DatabaseSpec} {log : List Exchange}

theorem flagRead_of_observeFlag {feature : Feature} {question : Query} {context : String}
    {found : Option (Option Bool)}
    (h : (r.observeFlag feature (Catalog.lookup mainSession question context
      (·.boolean 0))).Yields log (.ok found)) :
    r.FlagRead feature question log found := by
  unfold observeFlag at h
  split at h
  · obtain ⟨e | flag, hl, hfound⟩ := (Action.yields_map _ _ _).mp h
    · cases hfound
    · cases hfound
      exact .asked ‹_› (Catalog.found_of_lookup hl)
  · obtain ⟨rfl, hfound⟩ := (Action.yields_pure _ _).mp h
    cases hfound
    exact .unsupported (Bool.eq_false_iff.mpr ‹_›)

theorem readBack_of_observe {found : Option ObservedDatabase}
    (h : (r.observe name spec).Yields log (.ok found)) : r.ReadBack name spec log found := by
  obtain ⟨asked, rest, owner?, rfl, hasked, h⟩ := Action.of_yields_bind_ok h
  have hasked := Catalog.found_of_lookup hasked
  rcases owner? with _ | ⟨shown, owner⟩
  · obtain ⟨rfl, hfound⟩ := (Action.yields_pure _ _).mp h
    cases hfound
    rw [List.append_nil]
    exact .unknown hasked
  obtain ⟨settling, rest, settings?, rfl, hsettling, h⟩ := Action.of_yields_bind_ok h
  have hsettling := Catalog.found_of_lookup hsettling
  cases settings? with
  | none =>
    obtain ⟨rfl, hfound⟩ := (Action.yields_pure _ _).mp h
    cases hfound
    rw [List.append_nil]
    exact .unsettled hasked hsettling
  | some settings =>
  obtain ⟨allowing, rest, allow?, rfl, hallowing, h⟩ := Action.of_yields_bind_ok h
  have hallowing := flagRead_of_observeFlag hallowing
  cases allow? with
  | none =>
    obtain ⟨rfl, hfound⟩ := (Action.yields_pure _ _).mp h
    cases hfound
    rw [List.append_nil]
    exact .closed hasked hsettling hallowing
  | some allow =>
  obtain ⟨marking, rest, template?, rfl, hmarking, h⟩ := Action.of_yields_bind_ok h
  have hmarking := flagRead_of_observeFlag hmarking
  cases template? with
  | none =>
    obtain ⟨rfl, hfound⟩ := (Action.yields_pure _ _).mp h
    cases hfound
    rw [List.append_nil]
    exact .unmarked hasked hsettling hallowing hmarking
  | some template =>
    obtain ⟨rfl, hfound⟩ := (Action.yields_pure _ _).mp h
    cases hfound
    rw [List.append_nil]
    exact .seen hasked hsettling hallowing hmarking

/-- A database without an identity is not looked for. -/
theorem readBack_of_read {state state' : DatabaseState}
    (h : (r.read state spec).Yields log (.ok state')) :
    (state.id = none ∧ log = [] ∧ state' = .empty) ∨
      ∃ name found, state.id = some name ∧ r.ReadBack name spec log found ∧
        state' = .ofFound found := by
  unfold read at h
  cases hid : state.id with
  | none =>
    rw [hid] at h
    obtain ⟨rfl, hstate⟩ := (Action.yields_pure _ _).mp h
    exact .inl ⟨rfl, rfl, Except.ok.inj hstate⟩
  | some name =>
    rw [hid] at h
    obtain ⟨reading, rest, found, rfl, hreading, h⟩ := Action.of_yields_bind_ok h
    refine .inr ⟨name, found, rfl, ?_⟩
    cases found with
    | none =>
      obtain ⟨rfl, hstate⟩ := (Action.yields_pure _ _).mp h
      rw [List.append_nil]
      exact ⟨readBack_of_observe hreading, Except.ok.inj hstate⟩
    | some observed =>
      obtain ⟨rfl, hstate⟩ := (Action.yields_pure _ _).mp h
      rw [List.append_nil]
      exact ⟨readBack_of_observe hreading, Except.ok.inj hstate⟩

/-! ## The end of an update -/

end Reconciler

/-- Whether a request asks about the attributes of a database. -/
def Request.readsDatabase : Request → Bool
  | query _ question => question.readsDatabase
  | _ => false

/-- Whether a log ends with anything but a question about the attributes of a database. -/
def EndsElsewhere (log : List Exchange) : Prop :=
  ∀ x ∈ log.getLast?, x.request.readsDatabase = false

namespace EndsElsewhere

variable {first rest : List Exchange}

theorem append (h : rest = [] → EndsElsewhere first) (h' : EndsElsewhere rest) :
    EndsElsewhere (first ++ rest) := by
  intro x hx
  cases rest with
  | nil => exact h rfl x (by simpa using hx)
  | cons y rest => exact h' x (by simpa [List.getLast?_append] using hx)

theorem of_forall (h : ∀ x ∈ first, x.request.readsDatabase = false) : EndsElsewhere first :=
  fun x hx => h x (List.mem_of_getLast? hx)

end EndsElsewhere

theorem Catalog.Found.forall_request {α : Type} {question : Query} {decode : Row → Except Error α}
    {log : List Exchange} {found : Option α} (h : Found question decode log found)
    (hreads : question.readsDatabase = true) : ∀ x ∈ log, x.request.readsDatabase = true := by
  cases h with
  | missing => exact List.forall_mem_singleton.mpr hreads
  | row => exact List.forall_mem_singleton.mpr hreads

namespace Reconciler

open PgConverge.Action (Sends)

variable {r : Reconciler} {name : String} {spec : DatabaseSpec} {log : List Exchange}
  {state : DatabaseState} {change : SpecChange}

theorem FlagRead.forall_request {feature : Feature} {question : Query}
    {found : Option (Option Bool)} (h : r.FlagRead feature question log found)
    (hreads : question.readsDatabase = true) : ∀ x ∈ log, x.request.readsDatabase = true := by
  cases h with
  | unsupported => exact List.forall_mem_nil _
  | asked _ hfound => exact hfound.forall_request hreads

/-- Reading back begins with the question for the owner, and does nothing but ask. -/
theorem ReadBack.forall_request {found : Option ObservedDatabase}
    (h : r.ReadBack name spec log found) :
    (∃ answer rest, log = ⟨.query mainSession (.databaseOwner name), answer⟩ :: rest) ∧
      ∀ x ∈ log, x.request.readsDatabase = true := by
  have hfirst {asked : List Exchange} {owner : Option (String × String)}
      (hasked : Catalog.Found (.databaseOwner name) Row.databaseOwner asked owner)
      (rest : List Exchange) :
      ∃ answer more,
        asked ++ rest = ⟨.query mainSession (.databaseOwner name), answer⟩ :: more := by
    cases hasked with
    | missing => exact ⟨_, rest, rfl⟩
    | row => exact ⟨_, rest, rfl⟩
  cases h with
  | unknown hasked =>
    exact ⟨by simpa using hfirst hasked [], hasked.forall_request rfl⟩
  | unsettled hasked hsettling =>
    exact ⟨hfirst hasked _, List.forall_mem_append.mpr
      ⟨hasked.forall_request rfl, hsettling.forall_request rfl⟩⟩
  | closed hasked hsettling hallowing =>
    exact ⟨hfirst hasked _, List.forall_mem_append.mpr ⟨hasked.forall_request rfl,
      List.forall_mem_append.mpr ⟨hsettling.forall_request rfl, hallowing.forall_request rfl⟩⟩⟩
  | unmarked hasked hsettling hallowing hmarking | seen hasked hsettling hallowing hmarking =>
    exact ⟨hfirst hasked _, List.forall_mem_append.mpr ⟨hasked.forall_request rfl,
      List.forall_mem_append.mpr ⟨hsettling.forall_request rfl, List.forall_mem_append.mpr
        ⟨hallowing.forall_request rfl, hmarking.forall_request rfl⟩⟩⟩⟩

theorem ReadBack.not_endsElsewhere {found : Option ObservedDatabase}
    (h : r.ReadBack name spec log found) (working : List Exchange) :
    ¬EndsElsewhere (working ++ log) := by
  obtain ⟨⟨answer, rest, rfl⟩, hreads⟩ := h.forall_request
  intro hends
  obtain ⟨x, hx⟩ : ∃ x, (⟨.query mainSession (.databaseOwner name), answer⟩ ::
      rest : List Exchange).getLast? = some x := Option.isSome_iff_exists.mp (by simp)
  have hlast : x ∈ (working ++ ⟨.query mainSession (.databaseOwner name), answer⟩ ::
      rest).getLast? := by simp [List.getLast?_append, hx]
  cases (hends x hlast).symm.trans (hreads x (List.mem_of_getLast? hx))

/-! ### What comes before the reading -/

theorem endsElsewhere_of_sends {α : Type} {action : Action α} {outcome : Except Error α}
    (h : Sends (fun request => request.readsDatabase = false) action)
    (hy : action.Yields log outcome) : EndsElsewhere log :=
  .of_forall (h log outcome hy)

theorem requests_readNothing : Elevation.Requests fun request => request.readsDatabase = false :=
  ⟨fun _ => rfl, fun _ _ => rfl, fun _ _ => rfl, fun _ _ => rfl, fun _ _ => rfl, fun _ => rfl,
    fun _ => rfl⟩

/-- The owner may be asked for, but then the session on which it is changed comes after that. -/
theorem endsElsewhere_of_changeOwner {desired : DatabaseSpec}
    (h : (r.changeOwner name desired).Yields log (.ok ())) : EndsElsewhere log := by
  unfold changeOwner at h
  split at h
  · obtain ⟨rfl, -⟩ := (Action.yields_pure _ _).mp h
    exact .of_forall (List.forall_mem_nil _)
  · rename_i owner howner
    obtain ⟨reassigning, giving, _, rfl, -, hgiving⟩ := Action.of_yields_bind_ok h
    have hsends : Sends (fun request => request.readsDatabase = false) (r.setOwner name owner) :=
      .elevated (fun _ => requests_readNothing.of_makes) (.run (by rfl) _)
    refine .append (fun hnil => ?_) (endsElsewhere_of_sends hsends hgiving)
    obtain ⟨entering, rest, elevation, rfl, hentering, -⟩ := Action.of_yields_bind_ok hgiving
    obtain ⟨answer, more, rfl⟩ := (Elevation.entered_of_yields hentering).exists_begin
    cases hnil

theorem endsElsewhere_of_changeAttributes
    (h : (r.changeAttributes name change).Yields log (.ok ())) : EndsElsewhere log := by
  obtain ⟨owning, altering, _, rfl, howning, haltering⟩ := Action.of_yields_bind_ok h
  have hsends : Sends (fun request => request.readsDatabase = false) (do
      .onlyIf (change.differs .tablespace) <| run "error updating database tablespace"
        (.moveTablespace name change.desired.tablespace)
      .onlyIf (change.differs .connectionLimit) <| run "error updating database connection limit"
        (.setConnectionLimit name change.desired.connectionLimit)
      .onlyIf (change.differs .allowConnections)
        (r.setAllowConnections name change.desired.allowConnections)
      .onlyIf (change.differs .isTemplate) (r.setIsTemplate name change.desired.isTemplate)) :=
    (Sends.onlyIf fun _ => .run (by rfl) _).bind fun _ =>
    (Sends.onlyIf fun _ => .run (by rfl) _).bind fun _ =>
    (Sends.onlyIf fun _ => .setAllowConnections fun _ => by rfl).bind fun _ =>
    .onlyIf fun _ => .setIsTemplate fun _ => by rfl
  refine .append (fun _ => ?_) (endsElsewhere_of_sends hsends haltering)
  cases hdiffers : change.differs .owner with
  | false =>
    rw [hdiffers] at howning
    obtain ⟨rfl, -⟩ := (Action.yields_pure _ _).mp howning
    exact .of_forall (List.forall_mem_nil _)
  | true =>
    rw [hdiffers] at howning
    exact endsElsewhere_of_changeOwner howning

/-- An update that succeeds ends with reading its database back under the name by which it addresses
it, and keeps what that shows, exactly if the state had an identity before or the database has got a
new name. Otherwise it forgets the database that it has changed. -/
theorem update_reads_back_iff {σ : Type} (r : Reconciler) (state : DatabaseState)
    (change : SpecChange) (server : Server σ) (link : Link σ)
    (hok : ((r.update state change).run server link).result.1 = .ok ()) :
    let transcript := (r.update state change).run server link
    let name := if change.prior.name = change.desired.name then state.id.getD change.prior.name
      else change.desired.name
    ((∃ working reading found, transcript.exchanges = working ++ reading ∧
        r.ReadBack name change.desired reading found ∧
        transcript.result.2 = .ofFound found) ↔
      (state.id ≠ none ∨ change.prior.name ≠ change.desired.name)) ∧
      (state.id = none → change.prior.name = change.desired.name →
        transcript.result.2 = .empty) := by
  intro transcript name
  rcases yields_update.mp (Program.yields_run server (r.update state change) link) with
    ⟨e, -, hresult⟩ | ⟨first, rest, outcome, hlog, hprepare, hconverge, hresult⟩
  · rw [hresult] at hok
    cases hok
  cases outcome with
  | error e =>
    rw [hresult] at hok
    cases hok
  | ok state' =>
  obtain ⟨working, reading, _, rfl, hworking, hreading⟩ := Action.of_yields_bind_ok hconverge
  have hstate : transcript.result.2 = state' := congrArg Prod.snd hresult
  have hends : EndsElsewhere (first ++ working) :=
    .append (fun _ => endsElsewhere_of_sends (.prepare fun _ => rfl) hprepare)
      (endsElsewhere_of_changeAttributes hworking)
  rcases readBack_of_read hreading with ⟨hid, rfl, rfl⟩ | ⟨id, found, hid, hread, rfl⟩
  · -- Nothing is read, so that the log ends with what was done before.
    obtain ⟨hnone, hsame⟩ := id_renamedState_eq_none_iff.mp hid
    refine ⟨iff_of_false ?_ (by simp [hnone, hsame]), fun _ _ => hstate⟩
    rintro ⟨working', reading, found, hlog', hread, -⟩
    refine hread.not_endsElsewhere working' ?_
    rw [← hlog', hlog, List.append_nil]
    exact hends
  · have hname : name = id := finalName_eq_ite.symm.trans (finalName_of_renamedState hid)
    have hsome : ¬(state.id = none ∧ change.prior.name = change.desired.name) := by
      rw [← id_renamedState_eq_none_iff, hid]
      exact nofun
    refine ⟨iff_of_true ?_ (by grind), fun hnone hsame => absurd ⟨hnone, hsame⟩ hsome⟩
    exact ⟨first ++ working, reading, found, by rw [hlog, List.append_assoc], hname ▸ hread, hstate⟩

/-- A state without an identity and a database that keeps its name: the limit is set, but the
database is not read back. -/
theorem update_reads_back_iff_unidentified :
    let change : SpecChange := ⟨.ofName "a", { DatabaseSpec.ofName "a" with connectionLimit := 5 }⟩
    let transcript := (update ⟨⟨16, 0, 0⟩, "app"⟩ .empty change).run Script.server (.start [])
    transcript.result.1 = .ok () ∧
      transcript.exchanges = [⟨.execute mainSession (.setConnectionLimit "a" 5), .ok 0⟩] ∧
      (¬∃ working reading found, transcript.exchanges = working ++ reading ∧
        ReadBack ⟨⟨16, 0, 0⟩, "app"⟩ "a" change.desired reading found ∧
        transcript.result.2 = .ofFound found) ∧
      transcript.result.2 = .empty := by
  intro change transcript
  have hrun : transcript.result.1 = .ok () ∧ transcript.exchanges =
      [⟨.execute mainSession (.setConnectionLimit "a" 5), .ok 0⟩] := by
    subst change transcript
    exact ⟨rfl, rfl⟩
  obtain ⟨hiff, hempty⟩ := update_reads_back_iff _ .empty change Script.server (.start [])
    hrun.1
  refine ⟨hrun.1, hrun.2, mt hiff.mp ?_, hempty rfl rfl⟩
  simp [DatabaseState.empty, change, DatabaseSpec.ofName]

end Reconciler

end PgConverge
