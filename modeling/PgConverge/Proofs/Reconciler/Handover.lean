import Mathlib.Data.List.Basic
import PgConverge.Connection.Script
import PgConverge.Proofs.Reconciler.Handover.Course

/-!
# Handing objects over

An update may hand over to the new owner of its database what the current owner owns in it. The
current owner is whoever the catalog names, and the objects are handed over with the privileges of
that role, in the database itself, on the session that holds the lock. The session is committed
exactly if the objects were handed over, and the database goes to the new owner only after that.

## Main definitions

* `Handover` — what stands before and after the statement that hands the objects over.
* `HandsOver` — what the log of an update shows about its handover.

## Main statements

* `Reconciler.update_hands_over` — the log of every update shows that, on any connection.
-/

namespace PgConverge

/-- Whether a request looks up or grants a membership. -/
def Request.concernsMembership : Request → Bool
  | query _ (.roleMembership ..) | execute _ (.grantRole ..) => true
  | _ => false

/-- What stands before and after the statement, with the answer to it, that hands over to a new owner
on a session what an owner owns in the database of a name. -/
structure Handover (principal name owner newOwner : String) (session : SessionId)
    (before : List Exchange) (answer : Except Error UInt64) (after : List Exchange) : Prop where
  /-- The catalog has named the owner. -/
  shown : ShowsOwner before name owner
  ne : owner ≠ newOwner
  dedicated : session ≠ mainSession
  elevated : ShowsElevation principal owner name session before
  /-- The only membership looked up or granted is that in the current owner, on the main session. -/
  membership : ∀ y ∈ before, y.request.concernsMembership = true →
    y.request = .query mainSession (.roleMembership principal owner) ∨
      y.request = .execute mainSession (.grantRole owner principal)
  unended : ∀ y ∈ before, y.request.ends session = false
  once : ∀ y ∈ before ++ after, y.request.reassigns = false
  /-- Once the objects are handed over, the session is committed and then no more used, and a
  membership that was granted is revoked next. -/
  committed : ∀ affected, answer = .ok affected → ∃ closed later,
    after = ⟨.commit session, closed⟩ :: later ∧ (∀ y ∈ later, y.request.session ≠ session) ∧
      ∀ n, (⟨.execute mainSession (.grantRole owner principal), .ok n⟩ : Exchange) ∈ before →
        ∃ revoked rest,
          later = ⟨.execute mainSession (.revokeRole owner principal), revoked⟩ :: rest
  /-- If they are not, the session is rolled back, and that is the end. -/
  rolledBack : ∀ e, answer = .error e → ∃ revoking closed,
    after = revoking ++ [⟨.rollback session, closed⟩] ∧
      ∀ y ∈ revoking, y.request = .execute mainSession (.revokeRole owner principal)

/-- What the log of an update with an outcome shows about the handover in the database of a name. -/
structure HandsOver (principal : String) (change : SpecChange) (name : String)
    (log : List Exchange) (outcome : Except Error Unit) : Prop where
  /-- Objects are handed over exactly if the update is to do so, the catalog shows an owner other
  than the new one, and the privileges of that owner are there. -/
  sent_iff : (∃ x ∈ log, x.request.reassigns = true) ↔
    change.prior.owner ≠ change.desired.owner ∧ change.desired.reassignObjects = true ∧
      ∃ owner newOwner session, change.desired.owner = some newOwner ∧ newOwner ≠ "" ∧
        owner ≠ newOwner ∧ ShowsOwner log name owner ∧
        ShowsElevation principal owner name session log
  handover : ∀ before x after, log = before ++ x :: after → x.request.reassigns = true →
    ∃ owner newOwner session answer,
      x = ⟨.execute session (.reassignOwned owner newOwner), answer⟩ ∧
      change.desired.owner = some newOwner ∧ newOwner ≠ "" ∧
      Handover principal name owner newOwner session before answer after
  /-- An update that is to hand objects over gives the database to the new owner only if that owns it
  already, or after the statement, the commit and the revocation of a grant have succeeded. -/
  given : change.desired.reassignObjects = true →
    ∀ before x after session asked newOwner, log = before ++ x :: after →
    x.request = .execute session (.setOwner asked newOwner) →
      (ShowsOwner before name newOwner ∧ ∀ y ∈ log, y.request.reassigns = false) ∨
        ∃ owner own earlier affected later, before = earlier ++
            ⟨.execute own (.reassignOwned owner newOwner), .ok affected⟩ ::
            ⟨.commit own, .ok ()⟩ :: later ∧
          ∀ n, (⟨.execute mainSession (.grantRole owner principal), .ok n⟩ : Exchange) ∈ earlier →
            ∃ m rest,
              later = ⟨.execute mainSession (.revokeRole owner principal), .ok m⟩ :: rest
  /-- If the catalog does not know the database, an update that is to hand objects over ends there. -/
  missing : change.prior.owner ≠ change.desired.owner → change.desired.reassignObjects = true →
    (∃ newOwner, change.desired.owner = some newOwner ∧ newOwner ≠ "") → ∀ session asked,
    log.find? (·.request.asksOwner) = some ⟨.query session (.databaseOwner asked), .ok none⟩ →
    asked = name ∧ outcome = .error (.notFound name) ∧
      (∃ before, log = before ++ [⟨.query session (.databaseOwner asked), .ok none⟩]) ∧
      ∀ y ∈ log, y.request.opens = false

theorem SpecChange.handsOver_iff {change : SpecChange} {newOwner : String}
    (howner : change.desired.requestedOwner = some newOwner) :
    change.handsOver = true ↔
      change.prior.owner ≠ change.desired.owner ∧ change.desired.reassignObjects = true := by
  simp [handsOver, differs, howner]

/-- Entering an elevation concerns no membership but that in its group. -/
theorem Elevation.Makes.eq_of_concernsMembership {principal group : String}
    {database : Option String} {request : Request}
    (h : Elevation.Makes principal group database request)
    (hconcerns : request.concernsMembership = true) :
    request = .query mainSession (.roleMembership principal group) ∨
      request = .execute mainSession (.grantRole group principal) := by
  cases h with
  | membership => exact .inl rfl
  | grant => exact .inr rfl
  | _ => cases hconcerns

namespace Reconciler

variable {r : Reconciler} {state : DatabaseState} {change : SpecChange} {log : List Exchange}

/-- A handover that is made shows itself: its elevation stands before the statement, and its
conclusion after it. -/
theorem Concluded.handover {principal name shown owner newOwner : String} {n : Nat} {row : Row}
    {first entering leaving rest before : List Exchange} {elevation : Elevation}
    {answer : Except Error UInt64} {o : Except Error Unit}
    (hconcluded : Concluded elevation answer leaving o)
    (hfirst : OnlyRenames first) (hrow : row.databaseOwner = .ok (shown, owner))
    (hne : owner ≠ newOwner)
    (hentered : Elevation.Entered principal owner (some name) entering (.ok elevation))
    (hstop : ∀ e, o = .error e → rest = []) (hrest : ∀ x ∈ rest, x.request.handsOver = false)
    (hbefore : before =
      first ++ ⟨.query mainSession (.databaseOwner name), .ok (some row)⟩ :: entering)
    (hlog : log = before ++ ⟨.execute elevation.session (.reassignOwned owner newOwner), answer⟩ ::
      (leaving ++ rest))
    (hpath : Phase.Path principal .idle log .idle) (hn : Numbered n log) :
    Handover principal name owner newOwner elevation.session before answer (leaving ++ rest) := by
  obtain ⟨hmember, hgroup, -⟩ := Elevation.path_of_entered hentered
  have hsub : entering ⊆ before := by
    rw [hbefore]
    exact fun x hx => List.mem_append_right first (List.mem_cons_of_mem _ hx)
  have helevated := hentered.showsElevation.mono hsub
  have hforall (P : Request → Prop)
      (hrename : ∀ name newName, P (.execute mainSession (.renameDatabase name newName)))
      (hasked : P (.query mainSession (.databaseOwner name)))
      (hentering : ∀ x ∈ entering, P x.request) : ∀ x ∈ before, P x.request := by
    rw [hbefore]
    exact List.forall_mem_append.mpr
      ⟨hfirst.forall_request hrename, List.forall_mem_cons.mpr ⟨hasked, hentering⟩⟩
  refine
    { shown := ⟨row, shown, by simp [hbefore], hrow⟩
      ne := hne
      dedicated := hn.ne_mainSession (hlog ▸ List.mem_append_left _ helevated.opened) rfl
      elevated := helevated
      membership := hforall (fun request => request.concernsMembership = true →
        request = .query mainSession (.roleMembership principal owner) ∨
          request = .execute mainSession (.grantRole owner principal)) (fun _ _ => nofun) nofun ?_
      unended := hforall (Request.ends elevation.session · = false) (fun _ _ => rfl) rfl
        (hentered.ends_eq_false elevation.session)
      once := List.forall_mem_append.mpr ⟨hforall (Request.reassigns · = false) (fun _ _ => rfl) rfl
        hentered.reassigns_eq_false, List.forall_mem_append.mpr
        ⟨hconcluded.forall_request (P := (Request.reassigns · = false)) rfl rfl rfl,
          fun x hx => Request.reassigns_of_handsOver (hrest x hx)⟩⟩
      committed := ?_
      rolledBack := ?_ }
  · intro x hx
    have hmakes : Elevation.Makes principal owner (some name) x.request :=
      hentered.forall_request .begin .lock .membership .grant .rollback x hx
    exact hmakes.eq_of_concernsMembership
  · rintro affected rfl
    cases hconcluded with
    | committed _ closed hrevoked =>
      refine ⟨closed, _, rfl, ?_, fun m hmem => ?_⟩
      · rw [hlog, List.append_cons] at hpath hn
        exact hpath.session_ne_of_ends hn
          ⟨_, List.mem_append_left _ helevated.opened, rfl⟩ (beq_self_eq_true elevation.session)
      · rw [hbefore, List.append_cons] at hmem
        obtain ⟨revoked, rfl, -⟩ := hentered.exists_revocation
          (mem_of_mem_append hmem (hfirst.isWork_concat _) rfl) hrevoked
        exact ⟨revoked, rest, rfl⟩
  · rintro e rfl
    cases hconcluded with
    | rolledBack _ closed hrevoked =>
      obtain rfl := hstop _ rfl
      refine ⟨_, closed, List.append_nil _, ?_⟩
      rw [← hmember, ← hgroup]
      exact hrevoked.forall_request (P := (· = _)) rfl

theorem handsOver_of_reassigns {outcome : Except Error DatabaseState}
    (h : (r.steps state (.update change)).Yields log outcome)
    (hx : ∃ x ∈ log, x.request.reassigns = true) : change.handsOver = true := by
  obtain ⟨x, hx, hreassigns⟩ := hx
  by_contra hover
  have hno := sends_of_not_handsOver (Bool.eq_false_iff.mpr hover) log outcome h x hx
  cases (Request.reassigns_of_handsOver hno).symm.trans hreassigns

theorem requestedOwner_of_handsOver (hover : change.handsOver = true) :
    ∃ newOwner, change.desired.requestedOwner = some newOwner := by
  simp only [SpecChange.handsOver, Bool.and_eq_true] at hover
  exact Option.isSome_iff_exists.mp hover.2

theorem setOwner_of_makes {past : List Exchange} {session : SessionId} {asked newOwner : String}
    (h : Call.Makes r state (.update change) past (.execute session (.setOwner asked newOwner))) :
    change.differs .owner = true ∧ change.desired.requestedOwner = some newOwner := by
  generalize hrequest : Request.execute session (.setOwner asked newOwner) = request at h
  cases h with
  | setOwner _ hdiffers howner =>
    cases hrequest
    exact ⟨hdiffers, howner⟩
  | elevated _ hmakes | handingOver _ _ hmakes => cases hmakes <;> cases hrequest
  | reads _ hreads => cases hreads <;> cases hrequest
  | moveTablespace =>
    unfold Statement.moveTablespace at hrequest
    split at hrequest <;> cases hrequest
  | _ => cases hrequest

section Update

variable {outcome : Except Error DatabaseState} {n : Nat}
  (h : (r.steps state (.update change)).Yields log outcome)

include h

theorem path_of_update : Phase.Path r.principal .idle log .idle :=
  r.follows_steps (.update change) state log outcome h

/-- Before and after the statement stands what a handover shows. -/
theorem handover_of_split (hn : Numbered n log) {before after : List Exchange} {x : Exchange}
    (hlog : log = before ++ x :: after) (hx : x.request.reassigns = true) :
    ∃ owner newOwner session answer,
      x = ⟨.execute session (.reassignOwned owner newOwner), answer⟩ ∧
      change.desired.requestedOwner = some newOwner ∧
      Handover r.principal (finalName state change) owner newOwner session before answer after := by
  have hxmem : x ∈ log := by simp [hlog]
  have hover := handsOver_of_reassigns h ⟨x, hxmem, hx⟩
  have hyes {y : Exchange} (hy : y.request.reassigns = false) : y ≠ x := by
    rintro rfl
    cases hy.symm.trans hx
  obtain ⟨newOwner, howner⟩ := requestedOwner_of_handsOver hover
  obtain ⟨first, later, hcut, hfirst, hlater⟩ := course_of_handingOver hover howner h
  have hxlater : x ∈ later := (List.mem_append.mp (hcut ▸ hxmem)).resolve_left fun hmem =>
    hyes (Request.reassigns_of_handsOver (hfirst.handsOver_eq_false x hmem)) rfl
  obtain ⟨rfl, -⟩ | ⟨reassigning, o, rest, rfl, hr, hstop, hrest⟩ := hlater
  · cases hxlater
  have hmem : x ∈ reassigning := (List.mem_append.mp hxlater).resolve_right fun hmem =>
    hyes (Request.reassigns_of_handsOver (hrest x hmem)) rfl
  cases reassigned_of_yields hr with
  | @handed row shown owner entering leaving elevation answer _ hrow hne hentered hconcluded =>
    have hcut' : log = (first ++ ⟨.query mainSession (.databaseOwner (finalName state change)),
        .ok (some row)⟩ :: entering) ++ ⟨.execute elevation.session
          (.reassignOwned owner newOwner), answer⟩ :: (leaving ++ rest) := by simp [hcut]
    have hhandover := hconcluded.handover hfirst hrow hne hentered (fun e he => (hstop e he).1)
      hrest rfl hcut' (path_of_update h) hn
    -- The statement is sent only once, so that both ways of cutting the log there are the same.
    obtain ⟨rfl, rfl, rfl⟩ := (List.append_cons_inj_of_notMem
      (fun hmem => hyes (hhandover.once x (List.mem_append_left _ hmem)) rfl)
      (fun hmem => hyes (hhandover.once x (List.mem_append_right _ hmem)) rfl)).mp
        (hcut'.symm.trans hlog)
    exact ⟨owner, newOwner, elevation.session, answer, rfl, howner, hhandover⟩
  | unentered _ _ hentered =>
    rcases List.mem_cons.mp hmem with rfl | hmem
    · cases hx
    · cases hyes (hentered.reassigns_eq_false x hmem) rfl
  | unknown | missing | kept =>
    obtain rfl := List.mem_singleton.mp hmem
    cases hx

theorem exists_reassigns {owner newOwner : String} {session : SessionId}
    (hover : change.handsOver = true) (howner : change.desired.requestedOwner = some newOwner)
    (hshows : ShowsOwner log (finalName state change) owner)
    (helevated : ShowsElevation r.principal owner (finalName state change) session log) :
    ∃ x ∈ log, x.request.reassigns = true := by
  obtain ⟨first, later, rfl, hfirst, hlater⟩ := course_of_handingOver hover howner h
  obtain ⟨rfl, -⟩ | ⟨reassigning, o, rest, rfl, hr, hstop, hrest⟩ := hlater
  · cases hfirst.handsOver_eq_false _ (List.append_nil first ▸ helevated.opened)
  cases reassigned_of_yields hr with
  | @handed _ _ owner _ _ elevation answer =>
    exact ⟨⟨.execute elevation.session (.reassignOwned owner newOwner), answer⟩, by simp, rfl⟩
  | @unentered row shown current entering e hrow _ hentered =>
    obtain ⟨rfl, -⟩ := hstop e rfl
    rw [List.append_nil] at hshows helevated
    rw [List.append_cons] at helevated
    -- Only one row has been answered, so that the owner it shows is the one that was tried.
    obtain rfl : current = owner := by
      obtain ⟨row', shown', hmem, hrow'⟩ := hshows
      rcases List.mem_append.mp hmem with hmem | hmem
      · obtain ⟨_, _, hrename⟩ := hfirst _ hmem
        cases hrename
      rcases List.mem_cons.mp hmem with hsame | hmem
      · cases hsame
        exact (Prod.mk.inj (Except.ok.inj (hrow.symm.trans hrow'))).2
      · cases hentered.forall_request (P := (Request.asksOwner · = false)) rfl (fun _ => rfl) rfl rfl
          (fun _ => rfl) _ hmem
    exact absurd (helevated.of_append (hfirst.isWork_concat _)) hentered.not_showsElevation
  | unknown | missing | kept =>
    rcases List.mem_append.mp helevated.opened with hmem | hmem
    · cases hfirst.handsOver_eq_false _ hmem
    rcases List.mem_cons.mp hmem with hsame | hmem
    · cases hsame
    · cases hrest _ hmem

/-- The database goes to a new owner that owns it already, or after a handover that has succeeded. -/
theorem given_of_split (hobjects : change.desired.reassignObjects = true)
    {before after : List Exchange} {x : Exchange} {session : SessionId} {asked newOwner : String}
    (hlog : log = before ++ x :: after)
    (hx : x.request = .execute session (.setOwner asked newOwner)) :
    (ShowsOwner before (finalName state change) newOwner ∧
        ∀ y ∈ log, y.request.reassigns = false) ∨
      ∃ owner own earlier affected later, before = earlier ++
          ⟨.execute own (.reassignOwned owner newOwner), .ok affected⟩ ::
          ⟨.commit own, .ok ()⟩ :: later ∧
        ∀ n, (⟨.execute mainSession (.grantRole owner r.principal), .ok n⟩ : Exchange) ∈ earlier →
          ∃ m rest,
            later = ⟨.execute mainSession (.revokeRole owner r.principal), .ok m⟩ :: rest := by
  have horderly := r.heeds_steps state (.update change) log outcome h
  rw [hlog] at horderly
  obtain ⟨hdiffers, howner⟩ := setOwner_of_makes (hx ▸ horderly.of_split)
  have hover : change.handsOver = true :=
    (SpecChange.handsOver_iff howner).mpr ⟨bne_iff_ne.mp hdiffers, hobjects⟩
  obtain ⟨first, later, hcut, hfirst, hlater⟩ := course_of_handingOver hover howner h
  have hxfirst : x ∉ first := by
    intro hmem
    obtain ⟨_, _, hrename⟩ := hfirst x hmem
    cases hx.symm.trans hrename
  obtain ⟨rfl, -⟩ | ⟨reassigning, o, rest, rfl, hr, hstop, hrest⟩ := hlater
  · rw [List.append_nil] at hcut
    exact absurd (by simp [← hcut, hlog]) hxfirst
  have hxreassigning : x ∉ reassigning := by
    intro hmem
    have hsends : Action.Sends (fun request => ∀ session asked newOwner,
        request ≠ .execute session (.setOwner asked newOwner))
        (r.reassignOwned (finalName state change) newOwner) :=
      .reassignOwned ⟨nofun, nofun, nofun, nofun, nofun, nofun, nofun⟩ nofun nofun
    exact hsends _ _ hr x hmem _ _ _ hx
  rw [← List.append_assoc] at hcut
  have hxnot : x ∉ first ++ reassigning := by simp [hxfirst, hxreassigning]
  obtain ⟨between, rfl, hxrest⟩ := (cut_of_append_eq (hcut.symm.trans hlog)).resolve_right
    fun ⟨between, hbegun, _⟩ => hxnot (by simp [hbegun])
  cases o with
  | error e =>
    rw [(hstop e rfl).1] at hxrest
    cases between <;> cases hxrest
  | ok _ =>
    rcases (reassigned_of_yields hr).of_ok with
      ⟨⟨row, shown, hasked, hrow⟩, hno⟩ | ⟨owner, own, begun, affected, revoking, rfl, hrevoked⟩
    · refine .inl ⟨⟨row, shown, by simp [hasked], hrow⟩, ?_⟩
      rw [hcut]
      exact List.forall_mem_append.mpr ⟨List.forall_mem_append.mpr
        ⟨fun y hy => Request.reassigns_of_handsOver (hfirst.handsOver_eq_false y hy), hno⟩,
        fun y hy => Request.reassigns_of_handsOver (hrest y hy)⟩
    · refine .inr ⟨owner, own, first ++ begun, affected, revoking ++ between, by simp, ?_⟩
      intro n hmem
      obtain ⟨m, rfl⟩ := hrevoked n (mem_of_mem_append hmem hfirst.isWork rfl)
      exact ⟨m, between, rfl⟩

/-- The first question for an owner is the one for the handover. -/
theorem missing_of_find? (hover : change.handsOver = true) {session : SessionId} {asked : String}
    (hfind : log.find? (·.request.asksOwner) =
      some ⟨.query session (.databaseOwner asked), .ok none⟩) :
    asked = finalName state change ∧ outcome = .error (.notFound (finalName state change)) ∧
      (∃ before, log = before ++ [⟨.query session (.databaseOwner asked), .ok none⟩]) ∧
      ∀ y ∈ log, y.request.opens = false := by
  obtain ⟨newOwner, howner⟩ := requestedOwner_of_handsOver hover
  obtain ⟨first, later, rfl, hfirst, hlater⟩ := course_of_handingOver hover howner h
  have hnone : first.find? (·.request.asksOwner) = none := by
    refine List.find?_eq_none.mpr fun x hx => ?_
    simp [hfirst.forall_request (P := (Request.asksOwner · = false)) (fun _ _ => rfl) x hx]
  rw [List.find?_append, hnone, Option.none_or] at hfind
  obtain ⟨rfl, -⟩ | ⟨reassigning, o, rest, rfl, hr, hstop, hrest⟩ := hlater
  · cases hfind
  have hreassigned := reassigned_of_yields hr
  obtain ⟨answer, more, rfl⟩ := hreassigned.exists_asked
  rw [List.cons_append, List.find?_cons_of_pos rfl] at hfind
  cases hfind
  cases hreassigned with
  | unknown he => cases he
  | missing =>
    obtain ⟨rfl, rfl⟩ := hstop _ rfl
    refine ⟨rfl, rfl, ⟨first, rfl⟩, List.forall_mem_append.mpr ⟨?_, List.forall_mem_singleton.mpr rfl⟩⟩
    exact hfirst.forall_request (P := (Request.opens · = false)) fun _ _ => rfl

/-- What the steps of an update do shows in the log. -/
theorem handsOver_of_steps (hn : Numbered n log) :
    HandsOver r.principal change (finalName state change) log (outcome.map fun _ => ()) where
  sent_iff := by
    constructor
    · rintro ⟨x, hx, hreassigns⟩
      have hover := handsOver_of_reassigns h ⟨x, hx, hreassigns⟩
      obtain ⟨before, after, hlog⟩ := List.append_of_mem hx
      obtain ⟨owner, newOwner, session, answer, rfl, howner, hhandover⟩ :=
        handover_of_split h hn hlog hreassigns
      obtain ⟨hdiffers, hobjects⟩ := (SpecChange.handsOver_iff howner).mp hover
      obtain ⟨howner, hnamed⟩ := DatabaseSpec.requestedOwner_eq_some_iff.mp howner
      refine ⟨hdiffers, hobjects, owner, newOwner, session, howner, hnamed, hhandover.ne, ?_, ?_⟩
      · exact hlog ▸ hhandover.shown.append _
      · exact hlog ▸ hhandover.elevated.mono (List.subset_append_left _ _)
    · rintro ⟨hdiffers, hobjects, owner, newOwner, session, howner, hnamed, -, hshows, helevated⟩
      have hrequested := DatabaseSpec.requestedOwner_eq_some_iff.mpr ⟨howner, hnamed⟩
      exact exists_reassigns h ((SpecChange.handsOver_iff hrequested).mpr ⟨hdiffers, hobjects⟩)
        hrequested hshows helevated
  handover _ _ _ hlog hx := by
    obtain ⟨owner, newOwner, session, answer, hstatement, howner, hhandover⟩ :=
      handover_of_split h hn hlog hx
    obtain ⟨howner, hnamed⟩ := DatabaseSpec.requestedOwner_eq_some_iff.mp howner
    exact ⟨owner, newOwner, session, answer, hstatement, howner, hnamed, hhandover⟩
  given hobjects _ _ _ _ _ _ hlog hx := given_of_split h hobjects hlog hx
  missing hdiffers hobjects hnamed _ _ hfind := by
    obtain ⟨newOwner, howner⟩ := hnamed
    have hrequested := DatabaseSpec.requestedOwner_eq_some_iff.mpr howner
    obtain ⟨hname, rfl, hlast, hopens⟩ := missing_of_find? h
      ((SpecChange.handsOver_iff hrequested).mpr ⟨hdiffers, hobjects⟩) hfind
    exact ⟨hname, rfl, hlast, hopens⟩

end Update

/-- An update hands objects over only from the owner that the catalog shows, in the database itself
and with the privileges of that owner. It keeps what it has done exactly if the statement succeeds,
and gives the database to the new owner only after that. -/
theorem update_hands_over {σ : Type} (r : Reconciler) (state : DatabaseState) (change : SpecChange)
    (server : Server σ) (link : Link σ) :
    let transcript := (r.update state change).run server link
    let name := state.id.getD change.prior.name
    let target := if change.prior.name = change.desired.name then name else change.desired.name
    HandsOver r.principal change target transcript.exchanges transcript.result.1 := by
  intro transcript name target
  have htarget : target = finalName state change := finalName_eq_ite.symm
  have hcall : (r.call state (.update change)).Yields transcript.exchanges transcript.result :=
    Program.yields_run server (r.update state change) link
  obtain ⟨outcome, hy, hresult⟩ := yields_steps hcall
  rw [htarget, hresult]
  exact handsOver_of_steps hy (Program.numbered_run server (r.update state change) link)

/-- A role that owns a database itself needs no membership to hand its objects over: none is looked
up, granted or revoked before the database goes to the new owner. -/
theorem hands_over_without_membership :
    let change : SpecChange := ⟨{ DatabaseSpec.ofName "db" with owner := some "app" },
      { DatabaseSpec.ofName "db" with owner := some "heir", reassignObjects := true }⟩
    let transcript := (update ⟨⟨16, 0, 0⟩, "app"⟩ (.ofId "db") change).run Script.server (.start
      [⟨"", none, some [.value (.text "db")], some 1,
          .success 0 (some (.ofValues [.text "db", .text "app"]))⟩,
        ⟨"", none, some [.value (.text "app")], none, .success 0 (some (.ofValues []))⟩])
    let requests := transcript.exchanges.map Exchange.request
    transcript.result.1 = .ok () ∧
      ShowsOwner transcript.exchanges "db" "app" ∧
      .execute 1 (.reassignOwned "app" "heir") ∈ requests ∧
      .execute mainSession (.setOwner "db" "heir") ∈ requests ∧
      (∀ session member, .query session (.roleMembership member "app") ∉ requests) ∧
      (∀ session member, .execute session (.grantRole "app" member) ∉ requests) ∧
      ∀ session member, .execute session (.revokeRole "app" member) ∉ requests := by
  intro change transcript requests
  have hrun : transcript.result.1 = .ok () ∧ requests =
      [.query mainSession (.databaseOwner "db"), .begin (some "db"), .query 1 (.lockRole "app"),
        .execute 1 (.reassignOwned "app" "heir"), .commit 1, .begin none,
        .query 2 (.lockRole "app"), .query mainSession (.roleMembership "app" "heir"),
        .execute mainSession (.grantRole "heir" "app"),
        .execute mainSession (.setOwner "db" "heir"),
        .execute mainSession (.revokeRole "heir" "app"), .rollback 2,
        .query mainSession (.databaseOwner "db")] ∧ ∃ rest, transcript.exchanges =
      ⟨.query mainSession (.databaseOwner "db"),
        .ok (some (.ofValues [.text "db", .text "app"]))⟩ :: rest := by
    subst change transcript requests
    exact ⟨rfl, rfl, _, rfl⟩
  obtain ⟨hok, hrequests, rest, hasked⟩ := hrun
  refine ⟨hok, ⟨.ofValues [.text "db", .text "app"], "db", ?_, rfl⟩, ?_⟩
  · simp [hasked]
  · rw [hrequests]
    simp

end Reconciler

end PgConverge
