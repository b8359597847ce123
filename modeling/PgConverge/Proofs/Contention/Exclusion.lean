import PgConverge.Proofs.Contention.Protocol

/-!
# Elevations of one role exclude each other

In the database of the main sessions, parties that connect as one role do not take memberships from
each other: the lock is held from before the membership is looked up until after it is revoked.

## Main definitions

* `Manner.atHome` — the manner of elevations in the database of the main sessions.
* `Exclusive` — the invariant: what the phases of the parties say about the cluster.

## Main statements

* `Exclusive.turn`, `Exclusive.exchange` — every step preserves the invariant.
* `System.elevations_exclude` — in every reachable state one party at most holds the lock of a role,
  a party at work has the privileges that it needs, and memberships are restored in the end.
-/

namespace PgConverge

open Phase

/-- Requests of parties that keep to the database of the main sessions and commit nothing. -/
def Request.staysHome : Request → Bool
  | commit _ | begin (some _) => false
  | _ => true

/-- The manner of elevations that take their locks in the database of the main sessions. -/
def Manner.atHome : Manner := ⟨none, fun elevation outcome => elevation.exit outcome⟩

theorem Manner.guides_atHome : atHome.Guides Request.staysHome where
  enter _ _ := Elevation.guided_enter rfl (fun _ _ => rfl) (fun _ _ => rfl) (fun _ _ => rfl)
    fun _ => rfl
  leave elevation outcome := elevation.guided_exit outcome (fun _ _ => rfl) fun _ => rfl
  work request hwork := by
    cases request with
    | commit => cases hwork
    | begin => cases hwork
    | _ => rfl

/-! ## Phases and the cluster -/

/-- The group that a role is known to be no member of but for its own grant. -/
def Phase.lacks? : Phase → Option String
  | vacant _ group | granted _ group | owing group => some group
  | _ => none

/-- What the phase of a party says about the cluster. -/
structure Tenure {ι : Type} (initial : Finset (String × String)) (c : Cluster ι) (i : ι)
    (principal : String) (phase : Phase) : Prop extends Seated none c i principal phase where
  locked : ∀ group, phase.owed? = some group → ∃ session, phase.lock? = some session
  found : ∀ session group, phase = .member session group → (principal, group) ∈ initial
  lacks : ∀ group, phase.lacks? = some group → (principal, group) ∉ initial

namespace Tenure

variable {ι : Type} [DecidableEq ι] {initial : Finset (String × String)} {c c' : Cluster ι}
  {i j : ι} {x : Exchange} {principal : String} {phase next : Phase}

/-- What another party does changes nothing. -/
theorem frame (h : Tenure initial c j principal phase) (hx : c.Answers i x c') (hne : j ≠ i) :
    Tenure initial c' j principal phase :=
  { h with toSeated := h.toSeated.frame hx hne }

omit [DecidableEq ι] in
theorem eq_of_lock {own other : SessionId} {phase' : Phase}
    (h : Tenure initial c i principal phase) (h' : Tenure initial c j principal phase')
    (hi : phase.lock? = some own) (hj : phase'.lock? = some other) : i = j :=
  h.toSeated.eq_of_lock h'.toSeated hi hj

theorem step (h : Tenure initial c i principal phase)
    (hmembers : ∀ session group, phase = .locked session →
      ((principal, group) ∈ c.members ↔ (principal, group) ∈ initial))
    (hs : Step principal phase x next) (hx : c.Answers i x c')
    (hhome : x.request.staysHome = true) : Tenure initial c' i principal next where
  toSeated := h.toSeated.step hs hx fun session hopened =>
    hx.database_of_opened hopened fun database hbegin => by
      rw [hbegin] at hhome
      cases hhome
  locked group hnext := by
    rcases hs.owed?_eq hnext with ⟨hp, -⟩ | ⟨affected, rfl⟩
    · obtain ⟨session, hlock⟩ := h.locked group hp
      refine ⟨session, hs.lock?_keeps hlock ?_⟩
      cases hs with
      | work hwork => exact Request.ends_of_isWork hwork session
      | rolledBack own answer _ ho => cases hp.symm.trans ho
      | committed => cases hhome
      | committedOwing => cases hhome
      | _ => rfl
    · cases hs with
      | granted session => exact ⟨session, rfl⟩
      | work hwork => cases hwork
  found session group hnext := by
    cases hs with
    | work => exact h.found session group hnext
    | present own asked row =>
      obtain ⟨rfl, rfl⟩ := Phase.member.inj hnext
      exact (hmembers own asked rfl).mp hx.mem_of_present
    | _ => cases hnext
  lacks group hnext := by
    cases hs with
    | work => exact h.lacks group hnext
    | absent own _ hne =>
      cases hnext
      exact mt (hmembers own group rfl).mpr hx.notMem_of_absent
    | granted => exact h.lacks group hnext
    | committedOwing => exact h.lacks group hnext
    | _ => cases hnext

end Tenure

/-! ## All parties -/

/-- The invariant: every party has gone through the protocol, and the memberships are the initial
ones with those that some party has been granted. -/
structure Exclusive {ι : Type} (principal : ι → String) (initial : Finset (String × String))
    (σ : System ι) (phase : ι → Phase) : Prop
    extends Following Request.staysHome principal σ phase where
  tenure : ∀ i, Tenure initial σ.cluster i (principal i) (phase i)
  members : ∀ role group, (role, group) ∈ σ.cluster.members ↔
    (role, group) ∈ initial ∨ ∃ i, principal i = role ∧ (phase i).owed? = some group

namespace Exclusive

variable {ι : Type} [DecidableEq ι] {principal : ι → String} {initial : Finset (String × String)}
  {σ τ : System ι} {phase : ι → Phase}

theorem turn (h : Exclusive principal initial σ phase) {i : ι} {next : Stage}
    (ht : (σ.stage i).Turns .atHome (principal i) next) :
    Exclusive principal initial { σ with stage := Function.update σ.stage i next } phase where
  toFollowing := h.toFollowing.turn Manner.guides_atHome ht
  tenure := h.tenure
  members := h.members

omit [DecidableEq ι] in
/-- While a party holds its lock and has not granted anything, its memberships are the initial
ones. -/
theorem members_of_locked (h : Exclusive principal initial σ phase) {i : ι} {session : SessionId}
    (hi : phase i = .locked session) (group : String) :
    (principal i, group) ∈ σ.cluster.members ↔ (principal i, group) ∈ initial := by
  refine (h.members _ _).trans (or_iff_left ?_)
  rintro ⟨j, hj, howed⟩
  obtain ⟨other, hlock⟩ := (h.tenure j).locked group howed
  have hother := h.tenure j
  rw [hj] at hother
  obtain rfl := hother.eq_of_lock (h.tenure i) hlock (congrArg Phase.lock? hi)
  rw [hi] at howed
  cases howed

omit [DecidableEq ι] in
/-- What is owed was granted where it had been missing, and no other party owes it. -/
theorem owed_once (h : Exclusive principal initial σ phase) {i : ι} {group : String}
    (hi : (phase i).owed? = some group) : (principal i, group) ∉ initial ∧
      ¬∃ j, j ≠ i ∧ principal j = principal i ∧ (phase j).owed? = some group := by
  refine ⟨(h.tenure i).lacks group ?_, ?_⟩
  · cases hp : phase i <;> simp_all [owed?, lacks?]
  · rintro ⟨j, hne, hj, howed⟩
    obtain ⟨own, hown⟩ := (h.tenure i).locked group hi
    obtain ⟨other, hother⟩ := (h.tenure j).locked group howed
    have htenure := h.tenure j
    rw [hj] at htenure
    exact hne (htenure.eq_of_lock (h.tenure i) hother hown)

theorem exchange (h : Exclusive principal initial σ phase) {i : ι} {x : Exchange} {next : Stage}
    {c : Cluster ι} (ht : (σ.stage i).Exchanges x next) (hx : σ.cluster.Answers i x c) :
    ∃ phase', Exclusive principal initial
      { cluster := c
        stage := Function.update σ.stage i next
        log := Function.update σ.log i (σ.log i ++ [x]) } phase' := by
  obtain ⟨hhome, after, hs, hfollowing⟩ := h.toFollowing.exchange Manner.guides_atHome ht c
  refine ⟨Function.update phase i after, hfollowing, ?_,
    hx.members_iff h.members (fun _ => h.owed_once) hs⟩
  refine (Function.forall_update_iff phase fun j phase =>
    Tenure initial c j (principal j) phase).mpr ⟨?_, fun j hj => (h.tenure j).frame hx hj⟩
  exact (h.tenure i).step (fun session group hl => h.members_of_locked hl group) hs hx hhome

end Exclusive

namespace System

variable {ι : Type} [DecidableEq ι] {principal : ι → String} {initial : Finset (String × String)}
  {σ : System ι}

theorem Reachable.exclusive (h : Reachable .atHome principal initial σ) :
    ∃ phase, Exclusive principal initial σ phase := by
  induction h with
  | start c hmembers hfree =>
    refine ⟨fun _ => .idle, ⟨fun i => .nil _, fun i => rfl⟩, fun i => ?_, fun role group => ?_⟩
    · exact ⟨⟨nofun, nofun⟩, nofun, nofun, nofun⟩
    · simp [hmembers, owed?]
  | step _ hstep ih =>
    obtain ⟨phase, hphase⟩ := ih
    cases hstep with
    | turn i ht => exact ⟨phase, hphase.turn ht⟩
    | exchange i ht hx => exact hphase.exchange ht hx

/-- One party of a role at most is between the answer to its lock query and the end of its session;
a party at work is the group of its elevation or a member of it; and where no elevation of a role is
in progress, its memberships are the initial ones. -/
theorem elevations_exclude (h : Reachable .atHome principal initial σ) :
    (∀ i j, principal i = principal j → HoldsLock (principal i) (σ.log i) →
        HoldsLock (principal j) (σ.log j) → i = j) ∧
      (∀ i group elevation rest, σ.stage i = .acting group elevation rest →
        principal i = group ∨ (principal i, group) ∈ σ.cluster.members) ∧
      ∀ role, (∀ i, principal i = role → σ.stage i = .idle) →
        ∀ group, (role, group) ∈ σ.cluster.members ↔ (role, group) ∈ initial := by
  obtain ⟨phase, hphase⟩ := h.exclusive
  refine ⟨fun i j hij hi hj => ?_, fun i group elevation rest hi => ?_, fun role hidle group => ?_⟩
  · obtain ⟨own, hown⟩ := lock?_of_holdsLock (hphase.path i) hi
    obtain ⟨other, hother⟩ := lock?_of_holdsLock (hphase.path j) hj
    have htenure := hphase.tenure j
    rw [← hij] at htenure
    exact (hphase.tenure i).eq_of_lock htenure hown hother
  · have hawaits := hphase.awaits i
    rw [hi] at hawaits
    obtain ⟨hmember, rfl, hp, -⟩ := hawaits
    unfold Elevation.phase at hp
    split at hp
    · refine .inr ((hphase.members _ _).mpr (.inr ⟨i, rfl, ?_⟩))
      rw [hp]
      rfl
    · split at hp
      · rename_i hself
        exact .inl (hmember.symm.trans hself)
      · exact .inr ((hphase.members _ _).mpr (.inl ((hphase.tenure i).found _ _ hp)))
  · refine (hphase.members role group).trans (or_iff_left ?_)
    rintro ⟨i, hi, howed⟩
    have hawaits := hphase.awaits i
    rw [hidle i hi] at hawaits
    have hphase' : phase i = .idle := hawaits
    rw [hphase'] at howed
    cases howed

/-- Two parties of one role: the second one opens its session while the first one is at work, waits
for the lock until that has left, and then is at work itself. In the end the memberships are those
of the start. -/
theorem elevations_exclude_two : ∃ σ τ υ : System Bool,
    (Reachable .atHome (fun _ => "app") ∅ σ ∧
      (∃ elevation rest, σ.stage true = .acting "owner" elevation rest) ∧
      ("app" = "owner" ∨ ("app", "owner") ∈ σ.cluster.members) ∧
      HoldsLock "app" (σ.log true) ∧ ¬HoldsLock "app" (σ.log false) ∧
      σ.log false = [⟨.begin none, .ok 1⟩] ∧
      ∀ row c, ¬σ.cluster.Answers false ⟨.query 1 (.lockRole "app"), .ok (some row)⟩ c) ∧
    (Reachable .atHome (fun _ => "app") ∅ τ ∧
      (∃ elevation rest, τ.stage false = .acting "owner" elevation rest) ∧
      ("app" = "owner" ∨ ("app", "owner") ∈ τ.cluster.members) ∧
      HoldsLock "app" (τ.log false) ∧ ¬HoldsLock "app" (τ.log true)) ∧
    Reachable .atHome (fun _ => "app") ∅ υ ∧ (∀ i, υ.stage i = .idle) ∧
      ∀ group, ("app", group) ∉ υ.cluster.members := by
  have hnobody : ("app", "owner") ∉
      (insert ("app", "owner") (∅ : Finset (String × String))).erase ("app", "owner") := by decide
  have h0 : Reachable .atHome (fun _ : Bool => "app") ∅ _ :=
    .start ⟨∅, fun _ => none, fun _ => none, fun _ => 0⟩ rfl fun _ => rfl
  -- The first party is granted the membership, and the second one opens its session.
  have h1 := h0.step (.turn true (.enter "owner" (fun _ => pure ()) fun _ => .pure ()))
  have h2 := h1.step (.exchange true (.entering _ _ _) (.begun none))
  have h3 := h2.step (.exchange true (.entering _ _ _) (.locked 1 "app" ⟨[]⟩ nofun))
  have h4 := h3.step (.exchange true (.entering _ _ _) (.absent 0 "app" "owner"
    (Finset.notMem_empty _)))
  have h5 := h4.step (.exchange true (.entering _ _ _) (.granted 0 "owner" "app" 0))
  have h6 := h5.step (.turn true (.act _ _ _))
  have h7 := h6.step (.turn false (.enter "owner" (fun _ => pure ()) fun _ => .pure ()))
  have h8 := h7.step (.exchange false (.entering _ _ _) (.begun none))
  -- The first party leaves, and the second one gets the lock and the membership.
  have h9 := h8.step (.turn true (.leave _ _ _))
  have h10 := h9.step (.exchange true (.leaving _) (.revoked 0 "owner" "app" (.ok 0)))
  have h11 := h10.step (.exchange true (.leaving _) (.rolledBack 1 (.ok ())))
  have h12 := h11.step (.turn true (.finish _))
  have h13 := h12.step (.exchange false (.entering _ _ _) (.locked 1 "app" ⟨[]⟩
    fun holder hholder => by cases (show none = some holder from hholder)))
  have h14 := h13.step (.exchange false (.entering _ _ _) (.absent 0 "app" "owner" hnobody))
  have h15 := h14.step (.exchange false (.entering _ _ _) (.granted 0 "owner" "app" 0))
  have h16 := h15.step (.turn false (.act _ _ _))
  -- The second party leaves as well.
  have h17 := h16.step (.turn false (.leave _ _ _))
  have h18 := h17.step (.exchange false (.leaving _) (.revoked 0 "owner" "app" (.ok 0)))
  have h19 := h18.step (.exchange false (.leaving _) (.rolledBack 1 (.ok ())))
  have h20 := h19.step (.turn false (.finish _))
  obtain ⟨hone, hworks, -⟩ := elevations_exclude h8
  obtain ⟨hone', hworks', -⟩ := elevations_exclude h16
  obtain ⟨-, -, hrestored⟩ := elevations_exclude h20
  have hholds : HoldsLock "app" [⟨.begin none, .ok 1⟩,
      ⟨.query 1 (.lockRole "app"), .ok (some ⟨[]⟩)⟩,
      ⟨.query mainSession (.roleMembership "app" "owner"), .ok none⟩,
      ⟨.execute mainSession (.grantRole "owner" "app"), .ok 0⟩] :=
    ⟨[_], 1, _, [_, _], rfl, List.forall_mem_cons.mpr ⟨rfl, List.forall_mem_singleton.mpr rfl⟩⟩
  refine ⟨_, _, _, ⟨h8, ⟨_, _, rfl⟩, hworks true _ _ _ rfl, hholds, ?_, rfl, ?_⟩,
    ⟨h16, ⟨_, _, rfl⟩, hworks' false _ _ _ rfl, hholds, ?_⟩, h20, ?_, ?_⟩
  · exact fun hother => absurd (hone true false rfl hholds hother) (by decide)
  · intro row c hanswer
    have hkept : c.holder (none, "app") = some (true, 1) := hanswer.holder_of_ne (by decide) rfl
    cases hkept.symm.trans hanswer.holder_of_locked
  · exact fun hother => absurd (hone' true false rfl hother hholds) (by decide)
  · intro i
    cases i <;> rfl
  · intro group hmem
    have hinitial := (hrestored "app" (fun i _ => by cases i <;> rfl) group).mp hmem
    exact absurd hinitial (Finset.notMem_empty _)

end System

end PgConverge
