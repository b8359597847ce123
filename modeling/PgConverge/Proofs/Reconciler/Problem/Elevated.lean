import PgConverge.Proofs.Reconciler.Problem.Reading

/-!
# Problems during an elevation

An elevation that cannot be entered is given up at the first problem. Leaving it never hides a
problem of the privileged work, and what is left of the elevation is cleanup.

## Main statements

* `Elevation.stops_enter` — entering an elevation stops at the first problem.
* `Elevation.settled_of_left`, `Elevation.settled_of_committed` — privileged work that stops at the
  first problem does so too with the cleanup after it.
-/

namespace PgConverge

variable {principal : String} {call : Call} {past log : List Exchange}

theorem RoleLock.Acquired.settled {database : Option String} {outcome : Except Error RoleLock}
    (h : Acquired principal database log outcome) : Settled principal call past log outcome := by
  have hbegun (session : SessionId) :
      Smooth principal call past [⟨.begin database, .ok session⟩] := smooth_of_command nofun
  cases h with
  | unopened e => exact .single (.failed rfl rfl)
  | missing session closed =>
    refine .prepend (hbegun session) ?_
    exact ⟨[], _, _, rfl, trivial, .unlocked, List.forall_mem_singleton.mpr rfl⟩
  | failed session e closed =>
    refine .prepend (hbegun session) ?_
    exact ⟨[], _, _, rfl, trivial, .failed rfl rfl, List.forall_mem_singleton.mpr rfl⟩
  | locked session row =>
    exact (hbegun session).append (smooth_singleton.mpr fun e => Problem.not_of_lock)

theorem RoleGrant.Made.settled {group : String} {outcome : Except Error RoleGrant}
    (h : Made principal group log outcome) : Settled principal call past log outcome := by
  have hasked (row : Option Row) : Smooth principal call past
      [⟨.query mainSession (.roleMembership principal group), .ok row⟩] :=
    smooth_singleton.mpr fun e => Problem.not_of_question rfl nofun
  cases h with
  | self => exact trivial
  | unknown e => exact .single (.failed rfl (.inr ⟨_, rfl⟩))
  | present row => exact hasked (some row)
  | refused e => exact .prepend (hasked none) (.single (.failed rfl (.inr ⟨_, rfl⟩)))
  | granted affected => exact (hasked none).append (smooth_of_command nofun)

theorem RoleGrant.Revoked.settled {grant : RoleGrant} {outcome : Except Error Unit}
    (h : grant.Revoked log outcome) : Settled principal call past log outcome := by
  cases h with
  | kept => exact trivial
  | failed e => exact .single (.failed rfl (.inr ⟨_, rfl⟩))
  | revoked affected => exact smooth_of_command nofun

namespace Elevation

theorem Entered.settled {group : String} {database : Option String}
    {outcome : Except Error Elevation} (h : Entered principal group database log outcome) :
    Settled principal call past log outcome := by
  cases h with
  | unlocked hl => exact hl.settled
  | @unmade locking making lock e closed hl hm =>
    have hstop : Stopped principal call (past ++ locking) making e := hm.settled
    exact .prepend hl.settled (hstop.append (List.forall_mem_singleton.mpr rfl))
  | @made locking making lock grant hl hm =>
    have hlocked : Smooth principal call past locking := hl.settled
    exact hlocked.append hm.settled

/-- Nothing that is asked to enter an elevation is about a template. -/
theorem Entered.asksTemplate {group : String} {database : Option String}
    {outcome : Except Error Elevation} (h : Entered principal group database log outcome) :
    ∀ x ∈ log, x.request.asksTemplate = false :=
  h.forall_request (P := fun request => request.asksTemplate = false) rfl (fun _ => rfl) rfl rfl
    fun _ => rfl

theorem stops_enter (principal group : String) (database : Option String) (call : Call)
    (past : List Exchange) :
    (enter principal group database).Stops principal call [] past :=
  .of_settled fun _ _ hy => (entered_of_yields hy).settled

variable {elevation : Elevation} {α : Type}

theorem settled_of_left {first : List Exchange} {primary outcome : Except Error α}
    (h : Settled principal call past first primary)
    (hy : (elevation.exit primary).Yields log outcome) :
    Settled principal call past (first ++ log) outcome := by
  obtain ⟨revoking, revoked, closed, hr, rfl, rfl⟩ := left_of_yields hy
  have hclean := hr.forall_request (P := fun request => request.isCleanup = true) rfl
  cases primary with
  | error e =>
    rw [withCleanup_error, withCleanup_error]
    exact Stopped.append h
      (List.forall_mem_append.mpr ⟨hclean, List.forall_mem_singleton.mpr rfl⟩)
  | ok a =>
    have hs : Settled principal call (past ++ first) revoking revoked := hr.settled
    cases revoked with
    | error e =>
      refine Stopped.prepend h (Stopped.append hs ?_)
      exact List.forall_mem_singleton.mpr rfl
    | ok _ =>
      cases closed with
      | error e =>
        exact Stopped.prepend h (.prepend hs (.single (.failed rfl (.inl rfl))))
      | ok _ => exact Smooth.append h (Smooth.append hs (smooth_of_command nofun))

theorem settled_of_committed {first : List Exchange} {primary outcome : Except Error α}
    (h : Settled principal call past first primary)
    (hy : (elevation.exitCommitting primary).Yields log outcome) :
    Settled principal call past (first ++ log) outcome := by
  cases primary with
  | error e => exact settled_of_left h hy
  | ok a =>
    obtain ⟨committed, revoking, revoked, hr, rfl, rfl⟩ := committed_of_yields hy
    have hclean := hr.forall_request (P := fun request => request.isCleanup = true) rfl
    cases committed with
    | error e =>
      have hfailed : Stopped principal call (past ++ first)
          [⟨.commit elevation.session, .error e⟩]
          (e.inContext "error committing role lock transaction") :=
        .single (.failed rfl (.inr ⟨_, rfl⟩))
      exact Stopped.prepend h (hfailed.append hclean)
    | ok _ =>
      have hcommitted : Smooth principal call (past ++ first)
          [⟨.commit elevation.session, .ok ()⟩] := smooth_of_command nofun
      have hs : Settled principal call (past ++ first ++ [⟨.commit elevation.session, .ok ()⟩])
          revoking revoked := hr.settled
      cases revoked with
      | error e => exact Stopped.prepend h (.prepend hcommitted hs)
      | ok _ => exact Smooth.append h (hcommitted.append hs)

end Elevation

namespace Reconciler

open PgConverge.Action (Stops)

variable {r : Reconciler}

/-- The privileged work starts after whatever was done to enter the elevation. -/
theorem stops_elevated {group : String} {action : Action Unit}
    (h : ∀ entering outcome, Elevation.Entered r.principal group none entering outcome →
      Stops r.principal call [] (past ++ entering) action) :
    Stops r.principal call [] past (r.elevated group action) := by
  have henter := Elevation.stops_enter r.principal group none call past
  refine henter.bind fun entering elevation hy => .of_settled ?_
  intro log outcome hexit
  obtain ⟨working, leaving, o, rfl, hw, hl⟩ := (Action.yields_attempt_bind _ _ _).mp hexit
  exact Elevation.settled_of_left ((h _ _ (Elevation.entered_of_yields hy)).settled hw) hl

theorem stops_asOwner {spec : DatabaseSpec} {action : Action Unit}
    (h : ∀ entering, (∀ x ∈ entering, x.request.asksTemplate = false) →
      Stops r.principal call [] (past ++ entering) action) :
    Stops r.principal call [] past (r.asOwner spec action) := by
  unfold asOwner
  split
  · exact stops_elevated fun entering _ hentered => h entering hentered.asksTemplate
  · have hplain := h [] (List.forall_mem_nil _)
    rwa [List.append_nil] at hplain

end Reconciler

end PgConverge
