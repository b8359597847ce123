import PgConverge.Proofs.Contention.Parties

/-!
# Parties that follow the protocol

Parties that elevate themselves in the same manner each go through the phases of the protocol,
however their requests are interleaved. What a phase says about the cluster is only changed by the
party itself, and every membership that is not there from the start is owed by some party.

## Main definitions

* `Guided`, `Manner.Guides` — a program, a manner, that follows the protocol of elevations.
* `Stage.Awaits`, `Following` — a party, all parties, that have followed it up to a phase.
* `Seated` — a party's session is in a database, and holds the lock there once it is obtained.

## Main statements

* `Following.turn`, `Following.exchange` — every step keeps the parties to the protocol.
* `Seated.frame`, `Seated.step` — what other parties do to a lock, and what its holder does.
* `Cluster.Answers.members_iff` — the members are the initial ones and those that somebody owes.
-/

namespace PgConverge

open Phase

/-- Whether a program follows the protocol from a phase to one that its result tells, by requests
with a property. -/
def Guided {α : Type} (P : Request → Bool) (principal : String) (phase : Phase) (p : Program α)
    (last : α → Phase) : Prop :=
  ∀ log a, p.Yields log a →
    Path principal phase log (last a) ∧ ∀ x ∈ log, P x.request = true

namespace Guided

variable {α : Type} {P : Request → Bool} {principal : String} {phase : Phase} {last : α → Phase}

theorem done {a : α} (h : Guided P principal phase (.done a) last) : last a = phase := by
  obtain ⟨hpath, -⟩ := h [] a ⟨rfl, rfl⟩
  cases hpath
  rfl

/-- The answer to the next request is a step of the protocol, from which the program goes on. -/
theorem ask {request : Request} {next : Except Error request.Answer → Program α}
    (h : Guided P principal phase (.ask request next) last)
    (outcome : Except Error request.Answer) :
    P request = true ∧ ∃ phase', Step principal phase ⟨request, outcome⟩ phase' ∧
      Guided P principal phase' (next outcome) last := by
  -- One log gives the step of the answer; the step is the same in every other log.
  obtain ⟨log, a, hy⟩ := (next outcome).exists_yields
  obtain ⟨hpath, hrequests⟩ := h (⟨request, outcome⟩ :: log) a ⟨outcome, log, rfl, hy⟩
  refine ⟨(List.forall_mem_cons.mp hrequests).1, ?_⟩
  cases hpath with
  | @cons _ phase' _ _ _ hstep _ =>
    refine ⟨phase', hstep, fun log' a' hy' => ?_⟩
    obtain ⟨hpath', hrequests'⟩ := h (⟨request, outcome⟩ :: log') a' ⟨outcome, log', rfl, hy'⟩
    refine ⟨?_, (List.forall_mem_cons.mp hrequests').2⟩
    cases hpath' with
    | cons hstep' hrest => rwa [hstep.unique hstep']

end Guided

/-! ## Stages and phases -/

/-- The phase that an attempt to enter an elevation leads to. -/
def Elevation.reached : Except Error Elevation → Phase
  | .ok elevation => elevation.phase
  | .error _ => .idle

/-- Whether elevations in a manner follow the protocol by requests with a property. -/
structure Manner.Guides (manner : Manner) (P : Request → Bool) : Prop where
  enter : ∀ principal group, Guided P principal .idle
    (Elevation.enter principal group manner.database).attempt Elevation.reached
  leave : ∀ elevation outcome, Guided P elevation.grant.member elevation.phase
    (manner.leave elevation outcome).attempt fun _ => .idle
  work : ∀ request, request.isWork = true → P request = true

/-- Entering an elevation follows the protocol in every database. -/
theorem Elevation.guided_enter {P : Request → Bool} {principal group : String}
    {database : Option String} (hbegin : P (.begin database) = true)
    (hlock : ∀ session role, P (.query session (.lockRole role)) = true)
    (hmembership : ∀ member group, P (.query mainSession (.roleMembership member group)) = true)
    (hgrant : ∀ group member, P (.execute mainSession (.grantRole group member)) = true)
    (hrollback : ∀ session, P (.rollback session) = true) :
    Guided P principal .idle (enter principal group database).attempt reached := by
  intro log outcome hy
  have hentered := entered_of_yields hy
  refine ⟨?_, hentered.forall_request (P := fun request => P request = true) hbegin
    (hlock · principal) (hmembership _ _) (hgrant _ _) hrollback⟩
  cases outcome with
  | ok elevation => exact (path_of_entered hentered).2.2
  | error e => exact path_of_unentered hentered

/-- Leaving an elevation follows the protocol. -/
theorem Elevation.guided_exit {P : Request → Bool} (elevation : Elevation)
    (outcome : Except Error Unit)
    (hrevoke : ∀ group member, P (.execute mainSession (.revokeRole group member)) = true)
    (hrollback : ∀ session, P (.rollback session) = true) :
    Guided P elevation.grant.member elevation.phase (elevation.exit outcome).attempt
      fun _ => .idle := by
  intro log left hy
  refine ⟨path_of_left hy, ?_⟩
  obtain ⟨revoking, revoked, closed, hr, rfl, -⟩ := left_of_yields hy
  have hrevoking := hr.forall_request (P := fun request => P request = true) (hrevoke _ _)
  exact List.forall_mem_append.mpr ⟨hrevoking, List.forall_mem_singleton.mpr (hrollback _)⟩

/-- Leaving an elevation with a commit follows the protocol as well. -/
theorem Elevation.guided_exitCommitting {P : Request → Bool} (elevation : Elevation)
    (outcome : Except Error Unit)
    (hrevoke : ∀ group member, P (.execute mainSession (.revokeRole group member)) = true)
    (hrollback : ∀ session, P (.rollback session) = true)
    (hcommit : ∀ session, P (.commit session) = true) :
    Guided P elevation.grant.member elevation.phase (elevation.exitCommitting outcome).attempt
      fun _ => .idle := by
  cases outcome with
  | error e => exact elevation.guided_exit (.error e) hrevoke hrollback
  | ok value =>
    intro log left hy
    refine ⟨path_of_committed hy, ?_⟩
    obtain ⟨committed, revoking, revoked, hr, rfl, -⟩ := committed_of_yields hy
    have hrevoking := hr.forall_request (P := fun request => P request = true) (hrevoke _ _)
    exact List.forall_mem_cons.mpr ⟨hcommit _, hrevoking⟩

namespace Stage

variable {P : Request → Bool} {manner : Manner} {principal : String} {phase : Phase}
  {stage next : Stage}

/-- Whether a party in a stage has gone through the protocol to a phase and goes on from there. -/
def Awaits (P : Request → Bool) (principal : String) (phase : Phase) : Stage → Prop
  | idle => phase = .idle
  | entering group work rest =>
    (∀ elevation, (work elevation).Sends elevation.Permits) ∧
      Guided P principal phase rest Elevation.reached ∧
      ∀ log elevation, rest.Yields log (.ok elevation) →
        elevation.grant.member = principal ∧ elevation.grant.group = group
  | acting group elevation rest =>
    elevation.grant.member = principal ∧ elevation.grant.group = group ∧
      phase = elevation.phase ∧
      ∀ log outcome, rest.Yields log outcome → ∀ x ∈ log, elevation.Permits x.request
  | leaving rest => Guided P principal phase rest fun _ => .idle

theorem awaits_turn (hmanner : manner.Guides P) (h : stage.Awaits P principal phase)
    (ht : stage.Turns manner principal next) : next.Awaits P principal phase := by
  cases ht with
  | enter group work hwork =>
    obtain rfl : phase = .idle := h
    refine ⟨hwork, hmanner.enter principal group, fun log elevation hy => ?_⟩
    obtain ⟨hmember, hgroup, -⟩ := Elevation.path_of_entered (Elevation.entered_of_yields hy)
    exact ⟨hmember, hgroup⟩
  | giveUp group work e =>
    obtain ⟨-, hguided, -⟩ := h
    exact hguided.done.symm
  | act group work elevation =>
    obtain ⟨hwork, hguided, hgrant⟩ := h
    obtain ⟨hmember, hgroup⟩ := hgrant [] elevation ⟨rfl, rfl⟩
    exact ⟨hmember, hgroup, hguided.done.symm, hwork elevation⟩
  | leave group elevation outcome =>
    obtain ⟨rfl, -, rfl, -⟩ := h
    exact hmanner.leave elevation outcome
  | finish outcome => exact (Guided.done h).symm

theorem awaits_exchange {x : Exchange} (hmanner : manner.Guides P)
    (h : stage.Awaits P principal phase) (hx : stage.Exchanges x next) :
    P x.request = true ∧ ∃ phase', Step principal phase x phase' ∧
      next.Awaits P principal phase' := by
  cases hx with
  | entering group work outcome =>
    obtain ⟨hwork, hguided, hgrant⟩ := h
    obtain ⟨hrequest, phase', hstep, hguided'⟩ := hguided.ask outcome
    exact ⟨hrequest, phase', hstep, hwork, hguided',
      fun log elevation hy => hgrant _ elevation ⟨outcome, log, rfl, hy⟩⟩
  | @acting request rest group elevation outcome =>
    obtain ⟨hmember, hgroup, rfl, hpermits⟩ := h
    have hrest (log : List Exchange) (result : Except Error Unit)
        (hy : (rest outcome).Yields log result) :
        elevation.Permits request ∧ ∀ x ∈ log, elevation.Permits x.request :=
      List.forall_mem_cons.mp (hpermits (⟨request, outcome⟩ :: log) result ⟨outcome, log, rfl, hy⟩)
    obtain ⟨log, result, hy⟩ := (rest outcome).exists_yields
    obtain ⟨hwork, hsession⟩ := (hrest log result hy).1
    exact ⟨hmanner.work request hwork, elevation.phase,
      .work hwork (elevation.admits_phase _ hsession), hmember, hgroup, rfl,
      fun log result hy => (hrest log result hy).2⟩
  | leaving outcome =>
    obtain ⟨hrequest, phase', hstep, hguided⟩ := Guided.ask h outcome
    exact ⟨hrequest, phase', hstep, hguided⟩

end Stage

/-- Whether every party has gone through the protocol to a phase and goes on from there. -/
structure Following {ι : Type} (P : Request → Bool) (principal : ι → String) (σ : System ι)
    (phase : ι → Phase) : Prop where
  path : ∀ i, Path (principal i) .idle (σ.log i) (phase i)
  awaits : ∀ i, (σ.stage i).Awaits P (principal i) (phase i)

namespace Following

variable {ι : Type} {P : Request → Bool} {manner : Manner} {principal : ι → String}
  {σ : System ι} {phase : ι → Phase} {i : ι} {next : Stage}

/-- A party at work has been granted a membership, or it needs none, or it has found one. -/
theorem phase_of_acting {group : String} {elevation : Elevation}
    {rest : Program (Except Error Unit)} (h : Following P principal σ phase)
    (hi : σ.stage i = .acting group elevation rest) :
    (elevation.grant.isNew = true ∧ phase i = .granted elevation.session group) ∨
      elevation.grant.isNew = false ∧
        (principal i = group ∨ phase i = .member elevation.session group) := by
  have hawaits := h.awaits i
  rw [hi] at hawaits
  obtain ⟨hmember, rfl, hp, -⟩ := hawaits
  rw [hp, Elevation.phase]
  cases elevation.grant.isNew with
  | true => exact .inl ⟨rfl, rfl⟩
  | false =>
    refine .inr ⟨rfl, ?_⟩
    by_cases hself : elevation.grant.member = elevation.grant.group
    · exact .inl (hmember.symm.trans hself)
    · simp [hself]

variable [DecidableEq ι]

theorem turn (hmanner : manner.Guides P) (h : Following P principal σ phase)
    (ht : (σ.stage i).Turns manner (principal i) next) :
    Following P principal { σ with stage := Function.update σ.stage i next } phase where
  path := h.path
  awaits := (Function.forall_update_iff σ.stage fun j stage =>
    stage.Awaits P (principal j) (phase j)).mpr
      ⟨Stage.awaits_turn hmanner (h.awaits i) ht, fun j _ => h.awaits j⟩

/-- An exchange is a step of the protocol for the party that makes it. -/
theorem exchange (hmanner : manner.Guides P) (h : Following P principal σ phase) {x : Exchange}
    (ht : (σ.stage i).Exchanges x next) (c : Cluster ι) :
    P x.request = true ∧ ∃ after, Step (principal i) (phase i) x after ∧
      Following P principal
        { cluster := c
          stage := Function.update σ.stage i next
          log := Function.update σ.log i (σ.log i ++ [x]) }
        (Function.update phase i after) := by
  obtain ⟨hrequest, after, hs, hawaits⟩ := Stage.awaits_exchange hmanner (h.awaits i) ht
  refine ⟨hrequest, after, hs, fun j => ?_, fun j => ?_⟩
  · by_cases hj : j = i
    · subst hj
      simp only [Function.update_self]
      exact (h.path j).snoc hs
    · simp only [Function.update_of_ne hj]
      exact h.path j
  · by_cases hj : j = i
    · subst hj
      simp only [Function.update_self]
      exact hawaits
    · simp only [Function.update_of_ne hj]
      exact h.awaits j

end Following

theorem System.lock?_of_holdsLock {role : String} {log : List Exchange} {phase : Phase}
    (h : Path role .idle log phase) (hlock : HoldsLock role log) :
    ∃ session, phase.lock? = some session := by
  obtain ⟨before, session, row, after, rfl, hafter⟩ := hlock
  obtain ⟨p, q, -, hs, hq⟩ := h.split_at
  refine ⟨session, hq.lock?_keeps ?_ hafter⟩
  cases hs with
  | locked => rfl
  | work hwork => cases hwork

/-! ## Phases and the cluster -/

/-- Whether the session of a party is in a database, and holds the lock there once it has it. -/
structure Seated {ι : Type} (database : Option String) (c : Cluster ι) (i : ι)
    (principal : String) (phase : Phase) : Prop where
  home : ∀ session, phase.session? = some session → c.database (i, session) = database
  holds : ∀ session, phase.lock? = some session →
    c.holder (database, principal) = some (i, session)

namespace Seated

variable {ι : Type} [DecidableEq ι] {database : Option String} {c c' : Cluster ι} {i j : ι}
  {x : Exchange} {principal : String} {phase next : Phase}

/-- What another party does changes nothing. -/
theorem frame (h : Seated database c j principal phase) (hx : c.Answers i x c') (hne : j ≠ i) :
    Seated database c' j principal phase where
  home session hs := (hx.database_of_ne hne).trans (h.home session hs)
  holds session hs := hx.holder_of_ne hne (h.holds session hs)

omit [DecidableEq ι] in
theorem eq_of_lock {own other : SessionId} {phase' : Phase}
    (h : Seated database c i principal phase) (h' : Seated database c j principal phase')
    (hi : phase.lock? = some own) (hj : phase'.lock? = some other) : i = j := by
  have heq := (h.holds own hi).symm.trans (h'.holds other hj)
  exact congrArg Prod.fst (Option.some.inj heq)

/-- A step of the party keeps it in the database, if it opens its sessions there. -/
theorem step (h : Seated database c i principal phase) (hs : Step principal phase x next)
    (hx : c.Answers i x c')
    (hopen : ∀ session, x.opened? = some session → c'.database (i, session) = database) :
    Seated database c' i principal next where
  home session hnext := by
    rcases hs.session?_eq hnext with hp | hopened
    · rcases hs.ends_or_keeps hp with ⟨-, hnone⟩ | ⟨-, hopens, -⟩
      · cases hnone.symm.trans hnext
      · exact (hx.database_of_not_opens hopens).trans (h.home session hp)
    · exact hopen session hopened
  holds session hnext := by
    rcases hs.lock?_eq hnext with ⟨hp, hends⟩ | ⟨hp, row, rfl⟩
    · exact hx.holder_of_keeps hends (h.holds session hp)
    · rw [← h.home session hp]
      exact hx.holder_of_locked

end Seated

namespace Cluster.Answers

variable {ι : Type} [DecidableEq ι] {c c' : Cluster ι} {i : ι} {x : Exchange}

/-- The members that a step of a party leaves: those before, one more, or one less. -/
theorem members_eq {principal : String} {phase next : Phase} (hx : c.Answers i x c')
    (hs : Step principal phase x next) :
    (next.owed? = phase.owed? ∧ c'.members = c.members) ∨
      (∃ session group, phase = .vacant session group ∧ next.owed? = some group ∧
        c'.members = insert (principal, group) c.members) ∨
      ∃ group, phase.owed? = some group ∧ next.owed? = none ∧
        c'.members = c.members.erase (principal, group) := by
  have hsame := hx.members_of_not_changesRoles
  cases hs with
  | granted session group affected =>
    exact .inr (.inl ⟨session, group, rfl, rfl, hx.members_of_granted⟩)
  | refused session group e => exact .inl ⟨rfl, hx.members_of_refused⟩
  | revoked session group answer => exact .inr (.inr ⟨group, rfl, rfl, hx.members_of_revoked⟩)
  | revokedLate group answer => exact .inr (.inr ⟨group, rfl, rfl, hx.members_of_revoked⟩)
  | work hwork => exact .inl ⟨rfl, hsame (Request.changesRoles_of_isWork hwork)⟩
  | rolledBack session answer _ ho => exact .inl ⟨ho.symm, hsame rfl⟩
  | committed session answer _ ho => exact .inl ⟨ho.symm, hsame rfl⟩
  | committedOwing => exact .inl ⟨rfl, hsame rfl⟩
  | _ => exact .inl ⟨rfl, hsame rfl⟩

/-- The members stay the initial ones and those that somebody owes, as long as what a party revokes
is neither. -/
theorem members_iff {principal : ι → String} {initial : Finset (String × String)}
    {phase : ι → Phase} {next : Phase}
    (hmembers : ∀ role group, (role, group) ∈ c.members ↔
      (role, group) ∈ initial ∨ ∃ j, principal j = role ∧ (phase j).owed? = some group)
    (howed : ∀ group, (phase i).owed? = some group → (principal i, group) ∉ initial ∧
      ¬∃ j, j ≠ i ∧ principal j = principal i ∧ (phase j).owed? = some group)
    (hx : c.Answers i x c') (hs : Step (principal i) (phase i) x next) (role group : String) :
    (role, group) ∈ c'.members ↔ (role, group) ∈ initial ∨
      ∃ j, principal j = role ∧ (Function.update phase i next j).owed? = some group := by
  have hmembers := hmembers role group
  rw [← Function.update_eq_self i phase] at hmembers
  rw [Function.exists_update_iff phase fun j phase => principal j = role ∧ phase.owed? = some group]
    at hmembers ⊢
  rcases hx.members_eq hs with
    ⟨hsame, hm⟩ | ⟨session, granted, hbefore, hafter, hm⟩ | ⟨revoked, hbefore, hafter, hm⟩
  · rwa [hm, hsame]
  · have hnone : (phase i).owed? = none := congrArg owed? hbefore
    rw [hm, Finset.mem_insert, hmembers, hnone, hafter, Prod.mk.injEq, Option.some.injEq]
    grind
  · have hrevoked := howed revoked hbefore
    rw [hm, Finset.mem_erase, hmembers, hbefore, hafter, Ne, Prod.mk.injEq, Option.some.injEq]
    grind

end Cluster.Answers

end PgConverge
