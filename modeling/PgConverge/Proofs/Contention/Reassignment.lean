import PgConverge.Proofs.Contention.Protocol
import PgConverge.Reconciler

/-!
# Reassignments in one database

What a reassignment does lives in the transaction of its lock, so that the lock ends with a commit
before the membership is revoked. Between the two another party of the same role may find the
membership, grant nothing itself and then lose what it has found: the lock alone does not keep
reassignments in one database from taking memberships from each other.

## Main definitions

* `Manner.within` — the manner of elevations that take their locks in a database and commit.
* `Reconciler.reassignment` — the work of a reassignment.
* `GrantOutlivesLock` — a log in which a lock was ended while the grant was still to be revoked.
* `Committing` — the invariant: what the phases of the parties say about the cluster.

## Main statements

* `Reconciler.reassignOwned_eq_elevated` — a reassignment is an elevation in this manner.
* `Committing.turn`, `Committing.exchange` — every step preserves the invariant.
* `System.lacks_membership_iff` — when exactly a party at work is without the membership it needs.
-/

namespace PgConverge

open Phase

/-- Requests of parties that write in one database only. -/
def Request.staysWithin (name : String) : Request → Bool
  | begin database => database == some name
  | beginReadOnly => false
  | _ => true

theorem Request.eq_begin_of_opens {name : String} {request : Request}
    (h : request.staysWithin name = true) (hopens : request.opens = true) :
    request = .begin (some name) := by
  cases request with
  | begin database => exact congrArg Request.begin (beq_iff_eq.mp h)
  | beginReadOnly => cases h
  | _ => cases hopens

/-- The manner of elevations that take their locks in a database and keep what is done there. -/
def Manner.within (name : String) : Manner :=
  ⟨some name, fun elevation outcome => elevation.exitCommitting outcome⟩

theorem Manner.guides_within (name : String) :
    (within name).Guides (Request.staysWithin name) where
  enter _ _ := Elevation.guided_enter (beq_self_eq_true _) (fun _ _ => rfl) (fun _ _ => rfl)
    (fun _ _ => rfl) fun _ => rfl
  leave elevation outcome := elevation.guided_exitCommitting outcome (fun _ _ => rfl)
    (fun _ => rfl) fun _ => rfl
  work request hwork := by
    cases request with
    | begin | beginReadOnly => cases hwork
    | _ => rfl

/-! ## The reassignment of an owner's objects -/

/-- A value may be dropped within an attempt or after it. -/
theorem Action.attempt_map_bind {α β γ : Type} (action : Action α) (g : α → β)
    (f : Except Error β → Action γ) :
    ((liftM (do return g (← action) : Action β).attempt : Action (Except Error β)) >>= f) =
      (liftM action.attempt : Action (Except Error α)) >>= fun outcome => f (outcome.map g) := by
  refine congrArg Action.mk ?_
  show (((action.attempt >>= _) >>= _) >>= _) = ((action.attempt >>= _) >>= _)
  simp only [Program.bind_assoc]
  refine congrArg (action.attempt >>= ·) (funext fun outcome => ?_)
  cases outcome <;> rfl

namespace Reconciler

/-- What a reassignment does once it has the privileges of the current owner. -/
def reassignment (owner newOwner : String) (elevation : Elevation) : Action Unit := do
  let _ ← (Session.execute elevation.session (.reassignOwned owner newOwner)).inContext
    "error reassigning objects to new owner"

theorem sends_reassignment (owner newOwner : String) (elevation : Elevation) :
    (reassignment owner newOwner elevation).Sends elevation.Permits :=
  ((Action.Sends.request ⟨rfl, .inr rfl⟩).inContext _).bind fun _ => .pure ()

/-- A reassignment looks the owner up and, if there is another one, is an elevation to it. -/
theorem reassignOwned_eq_elevated (r : Reconciler) (name newOwner : String) :
    r.reassignOwned name newOwner = (do
      let some (_, owner) ← Catalog.databaseOwner mainSession name | throw (.notFound name)
      if owner == newOwner then return
      (Manner.within name).elevated r.principal owner (reassignment owner newOwner)) := by
  unfold reassignOwned
  refine congrArg (Catalog.databaseOwner mainSession name >>= ·) (funext fun row => ?_)
  match row with
  | none => rfl
  | some (_, owner) =>
    by_cases h : owner = newOwner
    · simp only [beq_iff_eq, h, if_true]
    · simp only [beq_iff_eq, h, if_false]
      refine congrArg (Elevation.enter r.principal owner (some name) >>= ·) (funext fun _ => ?_)
      exact (Action.attempt_map_bind _ (fun _ => ()) _).symm

end Reconciler

/-! ## Grants that outlive their lock -/

/-- Whether a log has ended a transaction while a grant was still to be revoked. -/
def GrantOutlivesLock (group member : String) (log : List Exchange) : Prop :=
  ∃ before session answer after, log = before ++ ⟨.commit session, answer⟩ :: after ∧
    (Duties.after before).grant = some (group, member)

theorem GrantOutlivesLock.append {group member : String} {log : List Exchange}
    (h : GrantOutlivesLock group member log) (more : List Exchange) :
    GrantOutlivesLock group member (log ++ more) := by
  obtain ⟨before, session, answer, after, rfl, hgrant⟩ := h
  exact ⟨before, session, answer, after ++ more, by simp, hgrant⟩

theorem GrantOutlivesLock.update {ι : Type} [DecidableEq ι] {group member : String}
    {log : ι → List Exchange} {j : ι} (i : ι) (x : Exchange)
    (h : GrantOutlivesLock group member (log j)) :
    GrantOutlivesLock group member (Function.update log i (log i ++ [x]) j) := by
  by_cases hj : j = i
  · subst hj
    rw [Function.update_self]
    exact h.append [x]
  · rwa [Function.update_of_ne hj]

/-- A grant that is owed with no session open has outlived its lock. -/
theorem Phase.Path.grantOutlivesLock {principal group : String} {log : List Exchange}
    (h : Path principal .idle log (.owing group)) : GrantOutlivesLock group principal log := by
  rcases List.eq_nil_or_concat log with rfl | ⟨before, x, rfl⟩
  · cases h
  · rw [List.concat_eq_append] at h ⊢
    obtain ⟨phase, hbefore, hlast⟩ := h.split_last
    cases hlast with
    | work hwork hadmits => exact hadmits.elim
    | committedOwing session _ answer =>
      exact ⟨before, session, answer, [], rfl, congrArg Duties.grant hbefore.duties_after⟩

/-- A role that is about to be granted a membership does not have it. -/
theorem Cluster.Answers.notMem_of_vacant {ι : Type} [DecidableEq ι] {c c' : Cluster ι} {i : ι}
    {x : Exchange} {principal group : String} {phase : Phase} {session : SessionId}
    (hx : c.Answers i x c') (hs : Step principal phase x (.vacant session group))
    (h : phase = .vacant session group → (principal, group) ∉ c.members) :
    (principal, group) ∉ c'.members := by
  cases hs with
  | work hwork =>
    rw [hx.members_of_not_changesRoles (Request.changesRoles_of_isWork hwork)]
    exact h rfl
  | absent =>
    rw [hx.members_of_not_changesRoles rfl]
    exact hx.notMem_of_absent

/-! ## All parties -/

/-- The invariant: every party has gone through the protocol in the database, the memberships are
the initial ones with those that some party owes, and each of these is owed by one party. -/
structure Committing {ι : Type} (name : String) (principal : ι → String)
    (initial : Finset (String × String)) (σ : System ι) (phase : ι → Phase) : Prop
    extends Following (Request.staysWithin name) principal σ phase where
  seated : ∀ i, Seated (some name) σ.cluster i (principal i) (phase i)
  members : ∀ role group, (role, group) ∈ σ.cluster.members ↔
    (role, group) ∈ initial ∨ ∃ i, principal i = role ∧ (phase i).owed? = some group
  vacant : ∀ i session group, phase i = .vacant session group →
    (principal i, group) ∉ σ.cluster.members
  once : ∀ i group, (phase i).owed? = some group → (principal i, group) ∉ initial ∧
    ¬∃ j, j ≠ i ∧ principal j = principal i ∧ (phase j).owed? = some group
  /-- What a party has found is there from the start or comes from a grant without a lock. -/
  found : ∀ i session group, phase i = .member session group → (principal i, group) ∈ initial ∨
    ∃ j, j ≠ i ∧ principal j = principal i ∧ GrantOutlivesLock group (principal i) (σ.log j)

namespace Committing

variable {ι : Type} {name : String} {principal : ι → String} {initial : Finset (String × String)}
  {σ : System ι} {phase : ι → Phase} {i j : ι}

/-- Two parties of one role do not both hold the lock. -/
theorem eq_of_lock (h : Committing name principal initial σ phase) {own other : SessionId}
    (hij : principal i = principal j) (hi : (phase i).lock? = some own)
    (hj : (phase j).lock? = some other) : i = j := by
  have hseated := h.seated j
  rw [← hij] at hseated
  exact (h.seated i).eq_of_lock hseated hi hj

/-- While a party holds the lock, what others owe has outlived their locks. -/
theorem outlives_of_lock (h : Committing name principal initial σ phase) {session : SessionId}
    {group : String} (hi : (phase i).lock? = some session) (hne : j ≠ i)
    (hj : principal j = principal i) (howed : (phase j).owed? = some group) :
    GrantOutlivesLock group (principal i) (σ.log j) := by
  have hpath := h.path j
  cases hp : phase j with
  | granted own granted => exact absurd (h.eq_of_lock hj (congrArg lock? hp) hi) hne
  | owing owed =>
    rw [hp] at howed hpath
    cases howed
    exact hj ▸ hpath.grantOutlivesLock
  | _ =>
    rw [hp] at howed
    cases howed

/-- What is owed can be read off the logs. -/
theorem mem_iff_grant (h : Committing name principal initial σ phase) (role group : String) :
    (role, group) ∈ σ.cluster.members ↔
      (role, group) ∈ initial ∨ ∃ j, (Duties.after (σ.log j)).grant = some (group, role) := by
  refine (h.members role group).trans (or_congr_right (exists_congr fun j => ?_))
  rw [(h.path j).duties_after]
  simp [duties, and_comm]

variable [DecidableEq ι]

theorem turn (h : Committing name principal initial σ phase) {next : Stage}
    (ht : (σ.stage i).Turns (.within name) (principal i) next) :
    Committing name principal initial { σ with stage := Function.update σ.stage i next } phase :=
  { h with toFollowing := h.toFollowing.turn (Manner.guides_within name) ht }

section Exchange

variable {x : Exchange} {next : Phase} {c : Cluster ι}

/-- Nobody else makes a role a member while a party is about to. -/
theorem vacant_frame (h : Committing name principal initial σ phase)
    (hx : σ.cluster.Answers i x c) (hs : Step (principal i) (phase i) x next) (hne : j ≠ i)
    {session : SessionId} {group : String} (hj : phase j = .vacant session group) :
    (principal j, group) ∉ c.members := by
  have hmem := h.vacant j session group hj
  rcases hx.members_eq hs with ⟨-, hm⟩ | ⟨own, granted, hbefore, -, hm⟩ | ⟨revoked, -, -, hm⟩
  · rwa [hm]
  · rw [hm, Finset.mem_insert, not_or]
    refine ⟨fun heq => hne ?_, hmem⟩
    exact h.eq_of_lock (congrArg Prod.fst heq) (congrArg lock? hj) (congrArg lock? hbefore)
  · rw [hm]
    exact mt Finset.mem_of_mem_erase hmem

/-- What a party comes to owe is no initial membership, and nobody else owes it. -/
theorem once_step (h : Committing name principal initial σ phase)
    (hx : σ.cluster.Answers i x c) (hs : Step (principal i) (phase i) x next) {group : String}
    (hnext : next.owed? = some group) : (principal i, group) ∉ initial ∧
      ¬∃ j, j ≠ i ∧ principal j = principal i ∧ (phase j).owed? = some group := by
  rcases hx.members_eq hs with
    ⟨hsame, -⟩ | ⟨session, granted, hbefore, hafter, -⟩ | ⟨revoked, -, hafter, -⟩
  · exact h.once i group (hsame ▸ hnext)
  · obtain rfl : granted = group := Option.some.inj (hafter.symm.trans hnext)
    have hvacant := h.vacant i session granted hbefore
    rw [h.members, not_or] at hvacant
    obtain ⟨hinitial, hnobody⟩ := hvacant
    exact ⟨hinitial, fun ⟨j, _, hj⟩ => hnobody ⟨j, hj⟩⟩
  · cases hafter.symm.trans hnext

theorem once_exchange (h : Committing name principal initial σ phase)
    (hx : σ.cluster.Answers i x c) (hs : Step (principal i) (phase i) x next) (k : ι)
    (group : String) (hk : (Function.update phase i next k).owed? = some group) :
    (principal k, group) ∉ initial ∧ ¬∃ j, j ≠ k ∧ principal j = principal k ∧
      (Function.update phase i next j).owed? = some group := by
  by_cases hki : k = i
  · subst hki
    rw [Function.update_self] at hk
    refine (h.once_step hx hs hk).imp_right fun hnobody => ?_
    rintro ⟨j, hne, hj, howed⟩
    rw [Function.update_of_ne hne] at howed
    exact hnobody ⟨j, hne, hj, howed⟩
  · rw [Function.update_of_ne hki] at hk
    obtain ⟨hinitial, hnobody⟩ := h.once k group hk
    refine ⟨hinitial, ?_⟩
    rintro ⟨j, hne, hj, howed⟩
    by_cases hji : j = i
    · subst hji
      rw [Function.update_self] at howed
      exact (h.once_step hx hs howed).2 ⟨k, hki, hj.symm, hk⟩
    · rw [Function.update_of_ne hji] at howed
      exact hnobody ⟨j, hne, hj, howed⟩

/-- What a party finds is there from the start, or another party has been granted it and has ended
its lock. -/
theorem found_step (h : Committing name principal initial σ phase)
    (hx : σ.cluster.Answers i x c) {before : Phase} (hbefore : phase i = before)
    {session : SessionId} {group : String}
    (hs : Step (principal i) before x (.member session group)) : (principal i, group) ∈ initial ∨
      ∃ j, j ≠ i ∧ principal j = principal i ∧ GrantOutlivesLock group (principal i) (σ.log j) := by
  cases hs with
  | work => exact h.found i session group hbefore
  | present =>
    have hlock : (phase i).lock? = some session := congrArg lock? hbefore
    refine ((h.members _ _).mp hx.mem_of_present).imp_right fun ⟨j, hj, howed⟩ => ?_
    have hne : j ≠ i := by
      rintro rfl
      rw [hbefore] at howed
      cases howed
    exact ⟨j, hne, hj, h.outlives_of_lock hlock hne hj howed⟩

theorem found_exchange (h : Committing name principal initial σ phase)
    (hx : σ.cluster.Answers i x c) (hs : Step (principal i) (phase i) x next) (k : ι)
    (session : SessionId) (group : String)
    (hk : Function.update phase i next k = .member session group) :
    (principal k, group) ∈ initial ∨ ∃ j, j ≠ k ∧ principal j = principal k ∧
      GrantOutlivesLock group (principal k) (Function.update σ.log i (σ.log i ++ [x]) j) := by
  have hfound : (principal k, group) ∈ initial ∨ ∃ j, j ≠ k ∧ principal j = principal k ∧
      GrantOutlivesLock group (principal k) (σ.log j) := by
    by_cases hki : k = i
    · subst hki
      rw [Function.update_self] at hk
      exact h.found_step hx rfl (hk ▸ hs)
    · rw [Function.update_of_ne hki] at hk
      exact h.found k session group hk
  refine hfound.imp_right ?_
  rintro ⟨j, hne, hj, houtlives⟩
  exact ⟨j, hne, hj, houtlives.update i x⟩

theorem exchange (h : Committing name principal initial σ phase) {stage : Stage}
    (ht : (σ.stage i).Exchanges x stage) (hx : σ.cluster.Answers i x c) :
    ∃ phase', Committing name principal initial
      { cluster := c
        stage := Function.update σ.stage i stage
        log := Function.update σ.log i (σ.log i ++ [x]) } phase' := by
  obtain ⟨hwithin, next, hs, hfollowing⟩ :=
    h.toFollowing.exchange (Manner.guides_within name) ht c
  refine ⟨Function.update phase i next, hfollowing, ?_,
    hx.members_iff h.members (h.once i) hs, ?_, ?_, ?_⟩
  · refine (Function.forall_update_iff phase fun j phase =>
      Seated (some name) c j (principal j) phase).mpr
        ⟨(h.seated i).step hs hx fun session hopened => ?_, fun j hj => (h.seated j).frame hx hj⟩
    exact hx.database_of_begun hopened
      (Request.eq_begin_of_opens hwithin (Exchange.opens_of_opened? hopened))
  · refine (Function.forall_update_iff phase fun j phase => ∀ session group,
      phase = .vacant session group → (principal j, group) ∉ c.members).mpr
        ⟨?_, fun j hj session group hp => h.vacant_frame hx hs hj hp⟩
    rintro session group rfl
    exact hx.notMem_of_vacant hs (h.vacant i session group)
  · exact h.once_exchange hx hs
  · exact h.found_exchange hx hs

end Exchange

end Committing

namespace System

variable {ι : Type} [DecidableEq ι] {name : String} {principal : ι → String}
  {initial : Finset (String × String)} {σ : System ι}

theorem Reachable.committing (h : Reachable (.within name) principal initial σ) :
    ∃ phase, Committing name principal initial σ phase := by
  induction h with
  | start c hmembers hfree =>
    refine ⟨fun _ => .idle, ⟨fun i => .nil _, fun i => rfl⟩, fun i => ⟨nofun, nofun⟩,
      fun role group => ?_, nofun, nofun, nofun⟩
    simp [hmembers, owed?]
  | step _ hstep ih =>
    obtain ⟨phase, hphase⟩ := ih
    cases hstep with
    | turn i ht => exact ⟨phase, hphase.turn ht⟩
    | exchange i ht hx => exact hphase.exchange ht hx

/-- One party of a role at most is between the answer to its lock query and the end of its session.
Still a party at work may lack the membership that it needs: that is the case exactly if it has
found a membership that another party of the role had been granted and that this party, having ended
its lock, has revoked since. -/
theorem lacks_membership_iff (h : Reachable (.within name) principal initial σ) :
    (∀ i j, principal i = principal j → HoldsLock (principal i) (σ.log i) →
        HoldsLock (principal j) (σ.log j) → i = j) ∧
      ∀ i group elevation rest, σ.stage i = .acting group elevation rest →
        (¬(principal i = group ∨ (principal i, group) ∈ σ.cluster.members) ↔
          principal i ≠ group ∧ elevation.grant.isNew = false ∧ (principal i, group) ∉ initial ∧
            (∃ j, j ≠ i ∧ principal j = principal i ∧
              GrantOutlivesLock group (principal i) (σ.log j)) ∧
            ∀ j, (Duties.after (σ.log j)).grant ≠ some (group, principal i)) := by
  obtain ⟨phase, hphase⟩ := h.committing
  refine ⟨fun i j hij hi hj => ?_, fun i group elevation rest hi => ?_⟩
  · obtain ⟨own, hown⟩ := lock?_of_holdsLock (hphase.path i) hi
    obtain ⟨other, hother⟩ := lock?_of_holdsLock (hphase.path j) hj
    exact hphase.eq_of_lock hij hown hother
  · have hmem := hphase.mem_iff_grant (principal i) group
    constructor
    · intro hlacks
      rw [not_or, hmem, not_or, not_exists] at hlacks
      obtain ⟨hself, hinitial, hnobody⟩ := hlacks
      rcases hphase.phase_of_acting hi with ⟨-, hgranted⟩ | ⟨hnew, hp | hfound⟩
      · refine absurd ?_ (hnobody i)
        rw [(hphase.path i).duties_after, hgranted]
        rfl
      · exact absurd hp hself
      · have houtlives := (hphase.found i elevation.session group hfound).resolve_left hinitial
        exact ⟨hself, hnew, hinitial, houtlives, hnobody⟩
    · rintro ⟨hself, -, hinitial, -, hnobody⟩
      rw [not_or, hmem, not_or, not_exists]
      exact ⟨hself, hinitial, hnobody⟩

/-- Two parties of one role, none of whose requests fails: the second one finds the membership of
the first one after the commit and is without it once the first one has revoked it. -/
theorem second_reassignment_lacks_membership : ∃ σ : System Bool,
    Reachable (.within "db") (fun _ => "app") ∅ σ ∧
      (∀ i, (σ.log i).all (·.outcome.isOk) = true) ∧
      (∃ elevation, σ.stage false = .acting "owner" elevation
        (Reconciler.reassignment "owner" "heir" elevation).attempt) ∧
      ¬("app" = "owner" ∨ ("app", "owner") ∈ σ.cluster.members) ∧
      ∃ j, j ≠ false ∧ GrantOutlivesLock "owner" "app" (σ.log j) := by
  have sends := Reconciler.sends_reassignment "owner" "heir"
  have h0 : Reachable (.within "db") (fun _ : Bool => "app") ∅ _ :=
    .start ⟨∅, fun _ => none, fun _ => none, fun _ => 0⟩ rfl fun _ => rfl
  -- The first party is granted the membership, reassigns and commits.
  have h1 := h0.step (.turn true (.enter "owner" _ sends))
  have h2 := h1.step (.exchange true (.entering _ _ _) (.begun (some "db")))
  have h3 := h2.step (.exchange true (.entering _ _ _) (.locked 1 "app" ⟨[]⟩ nofun))
  have h4 := h3.step (.exchange true (.entering _ _ _) (.absent 0 "app" "owner"
    (Finset.notMem_empty _)))
  have h5 := h4.step (.exchange true (.entering _ _ _) (.granted 0 "owner" "app" 0))
  have h6 := h5.step (.turn true (.act _ _ _))
  have h7 := h6.step (.exchange true (.acting _ _ _)
    (.worked (.execute 1 (.reassignOwned "owner" "heir")) (.ok 0) rfl))
  have h8 := h7.step (.turn true (.leave _ _ _))
  have h9 := h8.step (.exchange true (.leaving _) (.committed 1))
  -- The second party gets the lock and finds the membership, which the first one then revokes.
  have h10 := h9.step (.turn false (.enter "owner" _ sends))
  have h11 := h10.step (.exchange false (.entering _ _ _) (.begun (some "db")))
  have h12 := h11.step (.exchange false (.entering _ _ _) (.locked 1 "app" ⟨[]⟩
    fun _ hholder => nomatch (show none = some _ from hholder)))
  have h13 := h12.step (.exchange false (.entering _ _ _) (.present 0 "app" "owner" ⟨[]⟩
    (Finset.mem_insert_self _ _)))
  have h14 := h13.step (.turn false (.act _ _ _))
  have h15 := h14.step (.exchange true (.leaving _) (.revoked 0 "owner" "app" (.ok 0)))
  have hlacks : ¬("app" = "owner" ∨
      ("app", "owner") ∈ (insert ("app", "owner") (∅ : Finset _)).erase ("app", "owner")) := by
    decide
  have hcause := (((lacks_membership_iff h15).2 false "owner" _ _ rfl).mp hlacks).2.2.2.1
  refine ⟨_, h15, fun i => ?_, ⟨_, rfl⟩, hlacks, hcause.imp fun j hj => ⟨hj.1, hj.2.2⟩⟩
  cases i <;> rfl

end System

end PgConverge
