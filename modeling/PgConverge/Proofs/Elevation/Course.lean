import PgConverge.Elevation
import PgConverge.Proofs.Connection.Yield

/-!
# The course of an elevation

Every log that entering or leaving an elevation can produce, with the outcome that it means. Each
request may fail on its own, so that there are five ways not to get in and three ways to get in.

## Main definitions

* `RoleLock.Acquired`, `RoleGrant.Made`, `Elevation.Entered` — the ways of getting in.
* `RoleGrant.Revoked` — the ways in which a grant ends.

## Main statements

* `Elevation.entered_of_yields`, `Elevation.left_of_yields`, `Elevation.committed_of_yields` —
  there are no other ways.
* `Elevation.Entered.forall_request` — what is requested on each of the ways in.
-/

namespace PgConverge

variable {log : List Exchange}

theorem Catalog.yields_isMemberOf (session : SessionId) (member group : String)
    (outcome : Except Error Bool) :
    (isMemberOf session member group).Yields log outcome ↔
      ∃ answer, log = [⟨.query session (.roleMembership member group), answer⟩] ∧
        outcome = (answer.mapError (Error.inContext "error checking role membership")).map
          Option.isSome := by
  rw [isMemberOf, Action.yields_inContext_map]
  simp only [Session.yields_query]

theorem Action.yields_executeInContext (session : SessionId) (statement : Statement)
    (context : String) (outcome : Except Error Unit) :
    (do let _ ← (Session.execute session statement).inContext context : Action Unit).Yields
        log outcome ↔
      ∃ answer, log = [⟨.execute session statement, answer⟩] ∧
        outcome = (answer.mapError (Error.inContext context)).map fun _ => () := by
  rw [yields_inContext_map]
  simp only [Session.yields_execute]

namespace RoleGrant

/-- The ways in which a role is made a member of a group. -/
inductive Made (member group : String) : List Exchange → Except Error RoleGrant → Prop where
  | self : member = group → Made member group [] (.ok ⟨member, group, false⟩)
  | unknown (e : Error) : member ≠ group →
      Made member group [⟨.query mainSession (.roleMembership member group), .error e⟩]
        (.error (e.inContext "error checking role membership"))
  | present (row : Row) : member ≠ group →
      Made member group [⟨.query mainSession (.roleMembership member group), .ok (some row)⟩]
        (.ok ⟨member, group, false⟩)
  | refused (e : Error) : member ≠ group →
      Made member group
        [⟨.query mainSession (.roleMembership member group), .ok none⟩,
          ⟨.execute mainSession (.grantRole group member), .error e⟩]
        (.error (e.inContext ("error granting role " ++ group ++ " to " ++ member)))
  | granted (affected : UInt64) : member ≠ group →
      Made member group
        [⟨.query mainSession (.roleMembership member group), .ok none⟩,
          ⟨.execute mainSession (.grantRole group member), .ok affected⟩]
        (.ok ⟨member, group, true⟩)

theorem made_of_yields {member group : String} {outcome : Except Error RoleGrant}
    (h : (make mainSession member group).Yields log outcome) : Made member group log outcome := by
  unfold make at h
  by_cases hself : member = group
  · rw [if_pos (beq_iff_eq.mpr hself)] at h
    obtain ⟨rfl, rfl⟩ := (Action.yields_pure _ _).mp h
    exact .self hself
  · rw [if_neg (mt beq_iff_eq.mp hself)] at h
    rcases (Action.yields_bind _ _ _).mp h with ⟨e, hq, rfl⟩ | ⟨_, rest, found, rfl, hq, h⟩
    · obtain ⟨e | answer, rfl, he⟩ := (Catalog.yields_isMemberOf ..).mp hq
      · cases he
        exact .unknown e hself
      · cases he
    · obtain ⟨e | row, rfl, hfound⟩ := (Catalog.yields_isMemberOf ..).mp hq
      · cases hfound
      · cases hfound
        cases row with
        | some row =>
          obtain ⟨rfl, rfl⟩ := (Action.yields_pure _ _).mp h
          exact .present row hself
        | none =>
          simp only [Option.isSome_none, Bool.false_eq_true, if_false, Action.yields_map,
            Action.yields_inContext, Session.yields_execute] at h
          obtain ⟨_, ⟨e | affected, rfl, rfl⟩, rfl⟩ := h
          · exact .refused e hself
          · exact .granted affected hself

/-- The ways in which a grant ends. -/
inductive Revoked (grant : RoleGrant) : List Exchange → Except Error Unit → Prop where
  | kept : grant.isNew = false → Revoked grant [] (.ok ())
  | failed (e : Error) : grant.isNew = true →
      Revoked grant [⟨.execute mainSession (.revokeRole grant.group grant.member), .error e⟩]
        (.error (e.inContext ("error revoking role " ++ grant.group ++ " from " ++ grant.member)))
  | revoked (affected : UInt64) : grant.isNew = true →
      Revoked grant [⟨.execute mainSession (.revokeRole grant.group grant.member), .ok affected⟩]
        (.ok ())

theorem revoked_of_yields {grant : RoleGrant} {outcome : Except Error Unit}
    (h : (grant.revoke mainSession).Yields log outcome) : Revoked grant log outcome := by
  unfold revoke Action.onlyIf at h
  cases hnew : grant.isNew with
  | false =>
    rw [hnew] at h
    obtain ⟨rfl, rfl⟩ := (Action.yields_pure _ _).mp h
    exact .kept hnew
  | true =>
    rw [hnew, if_pos rfl] at h
    obtain ⟨e | affected, rfl, rfl⟩ := (Action.yields_executeInContext ..).mp h
    · exact .failed e hnew
    · exact .revoked affected hnew

section Requests

variable {P : Request → Prop} {member group : String} {grant : RoleGrant}

theorem Made.forall_request {outcome : Except Error RoleGrant} (h : Made member group log outcome)
    (hmembership : P (.query mainSession (.roleMembership member group)))
    (hgrant : P (.execute mainSession (.grantRole group member))) : ∀ x ∈ log, P x.request := by
  cases h <;> simp [hmembership, hgrant]

theorem Revoked.forall_request {outcome : Except Error Unit} (h : grant.Revoked log outcome)
    (hrevoke : P (.execute mainSession (.revokeRole grant.group grant.member))) :
    ∀ x ∈ log, P x.request := by
  cases h <;> simp [hrevoke]

end Requests

end RoleGrant

namespace RoleLock

/-- The ways in which the lock on a role is obtained or not. -/
inductive Acquired (role : String) (database : Option String) :
    List Exchange → Except Error RoleLock → Prop where
  | unopened (e : Error) :
      Acquired role database [⟨.begin database, .error e⟩]
        (.error (.lock role ("could not open lock transaction: " ++ e.message)))
  | missing (session : SessionId) (closed : Except Error Unit) :
      Acquired role database
        [⟨.begin database, .ok session⟩, ⟨.query session (.lockRole role), .ok none⟩,
          ⟨.rollback session, closed⟩]
        (.error (.lock role "role does not exist"))
  | failed (session : SessionId) (e : Error) (closed : Except Error Unit) :
      Acquired role database
        [⟨.begin database, .ok session⟩, ⟨.query session (.lockRole role), .error e⟩,
          ⟨.rollback session, closed⟩]
        (.error (.lock role e.message))
  | locked (session : SessionId) (row : Row) :
      Acquired role database
        [⟨.begin database, .ok session⟩, ⟨.query session (.lockRole role), .ok (some row)⟩]
        (.ok ⟨role, session⟩)

theorem yields_refuse (session : SessionId) (e : Error) (outcome : Except Error RoleLock) :
    (acquire.refuse session e).Yields log outcome ↔
      ∃ closed, log = [⟨.rollback session, closed⟩] ∧ outcome = .error e := by
  simp only [acquire.refuse, Action.yields_mk, Program.pure_eq, withCleanup_error,
    Program.yields_bind_done]
  exact exists_congr fun closed => and_congr_left fun _ => Session.yields_rollback session closed

theorem acquired_of_yields {role : String} {database : Option String}
    {outcome : Except Error RoleLock} (h : (acquire role database).Yields log outcome) :
    Acquired role database log outcome := by
  rcases (Action.yields_bind _ _ _).mp h with ⟨_, hb, rfl⟩ | ⟨_, rest, session, rfl, hb, hr⟩
  · obtain ⟨e | session, ho, he⟩ := (Action.yields_mapError _ _ _).mp hb
    · obtain rfl := (Session.yields_begin database _).mp ho
      cases he
      exact .unopened e
    · cases he
  · obtain ⟨e | session, ho, hs⟩ := (Action.yields_mapError _ _ _).mp hb
    · cases hs
    · obtain rfl := (Session.yields_begin database _).mp ho
      cases hs
      obtain ⟨_, rest, answer, rfl, hq, ha⟩ := (Action.yields_attempt_bind _ _ _).mp hr
      obtain rfl := (Session.yields_query session _ _).mp hq
      match answer with
      | .ok (some row) =>
        obtain ⟨rfl, rfl⟩ := (Action.yields_pure _ _).mp ha
        exact .locked session row
      | .ok none =>
        obtain ⟨closed, rfl, rfl⟩ := (yields_refuse _ _ _).mp ha
        exact .missing session closed
      | .error e =>
        obtain ⟨closed, rfl, rfl⟩ := (yields_refuse _ _ _).mp ha
        exact .failed session e closed

theorem Acquired.forall_request {P : Request → Prop} {role : String} {database : Option String}
    {outcome : Except Error RoleLock} (h : Acquired role database log outcome)
    (hbegin : P (.begin database)) (hlock : ∀ session, P (.query session (.lockRole role)))
    (hrollback : ∀ session, P (.rollback session)) : ∀ x ∈ log, P x.request := by
  cases h <;> simp [hbegin, hlock, hrollback]

theorem Acquired.exists_begin {role : String} {database : Option String}
    {outcome : Except Error RoleLock} (h : Acquired role database log outcome) :
    ∃ answer rest, log = ⟨.begin database, answer⟩ :: rest := by
  cases h with
  | _ => exact ⟨_, _, rfl⟩

end RoleLock

namespace Elevation

/-- The ways in which entering an elevation can go. -/
inductive Entered (principal group : String) (database : Option String) :
    List Exchange → Except Error Elevation → Prop where
  | unlocked {locking : List Exchange} {e : Error} :
      RoleLock.Acquired principal database locking (.error e) →
      Entered principal group database locking (.error e)
  | unmade {locking making : List Exchange} {lock : RoleLock} {e : Error}
      (closed : Except Error Unit) : RoleLock.Acquired principal database locking (.ok lock) →
      RoleGrant.Made principal group making (.error e) →
      Entered principal group database
        (locking ++ (making ++ [⟨.rollback lock.session, closed⟩])) (.error e)
  | made {locking making : List Exchange} {lock : RoleLock} {grant : RoleGrant} :
      RoleLock.Acquired principal database locking (.ok lock) →
      RoleGrant.Made principal group making (.ok grant) →
      Entered principal group database (locking ++ making) (.ok ⟨lock, grant⟩)

theorem entered_of_yields {principal group : String} {database : Option String}
    {outcome : Except Error Elevation}
    (h : (enter principal group database).Yields log outcome) :
    Entered principal group database log outcome := by
  rcases (Action.yields_bind _ _ _).mp h with ⟨e, hl, rfl⟩ | ⟨locking, rest, lock, rfl, hl, h⟩
  · exact .unlocked (RoleLock.acquired_of_yields hl)
  · have hl := RoleLock.acquired_of_yields hl
    obtain ⟨making, rest, e | grant, rfl, hm, h⟩ := (Action.yields_attempt_bind _ _ _).mp h
    · have hm := RoleGrant.made_of_yields hm
      simp only [Action.yields_mk, Program.pure_eq, withCleanup_error,
        Program.yields_bind_done] at h
      obtain ⟨closed, hc, rfl⟩ := h
      obtain rfl := (Session.yields_rollback lock.session closed).mp hc
      exact .unmade closed hl hm
    · have hm := RoleGrant.made_of_yields hm
      obtain ⟨rfl, rfl⟩ := (Action.yields_pure _ _).mp h
      rw [List.append_nil]
      exact .made hl hm

theorem Entered.forall_request {P : Request → Prop} {principal group : String}
    {database : Option String} {outcome : Except Error Elevation}
    (h : Entered principal group database log outcome) (hbegin : P (.begin database))
    (hlock : ∀ session, P (.query session (.lockRole principal)))
    (hmembership : P (.query mainSession (.roleMembership principal group)))
    (hgrant : P (.execute mainSession (.grantRole group principal)))
    (hrollback : ∀ session, P (.rollback session)) : ∀ x ∈ log, P x.request := by
  cases h with
  | unlocked hl => exact hl.forall_request hbegin hlock hrollback
  | unmade closed hl hm =>
    exact List.forall_mem_append.mpr ⟨hl.forall_request hbegin hlock hrollback,
      List.forall_mem_append.mpr ⟨hm.forall_request hmembership hgrant,
        List.forall_mem_singleton.mpr (hrollback _)⟩⟩
  | made hl hm =>
    exact List.forall_mem_append.mpr
      ⟨hl.forall_request hbegin hlock hrollback, hm.forall_request hmembership hgrant⟩

/-- Whatever comes of it, entering an elevation begins with the session of the lock. -/
theorem Entered.exists_begin {principal group : String} {database : Option String}
    {outcome : Except Error Elevation} (h : Entered principal group database log outcome) :
    ∃ answer rest, log = ⟨.begin database, answer⟩ :: rest := by
  cases h with
  | unlocked hl => exact hl.exists_begin
  | unmade _ hl | made hl =>
    obtain ⟨answer, rest, rfl⟩ := hl.exists_begin
    exact ⟨answer, _, rfl⟩

variable {α : Type}

theorem left_of_yields {elevation : Elevation} {primary outcome : Except Error α}
    (h : (elevation.exit primary).Yields log outcome) :
    ∃ revoking revoked closed, elevation.grant.Revoked revoking revoked ∧
      log = revoking ++ [⟨.rollback elevation.session, closed⟩] ∧
      outcome = withCleanup (withCleanup primary revoked) closed := by
  obtain ⟨revoking, rest, revoked, rfl, hr, hc⟩ := (Program.yields_bind _ _ _ _).mp h
  obtain ⟨closed, hs, rfl⟩ := (Program.yields_bind_done _ _ _ _).mp hc
  obtain rfl := (Session.yields_rollback elevation.session closed).mp hs
  exact ⟨revoking, revoked, closed, RoleGrant.revoked_of_yields hr, rfl, rfl⟩

theorem committed_of_yields {elevation : Elevation} {a : α} {outcome : Except Error α}
    (h : (elevation.exitCommitting (.ok a)).Yields log outcome) :
    ∃ committed revoking revoked, elevation.grant.Revoked revoking revoked ∧
      log = ⟨.commit elevation.session, committed⟩ :: revoking ∧
      outcome = withCleanup (withCleanup (.ok a) (committed.mapError
        (Error.inContext "error committing role lock transaction"))) revoked := by
  obtain ⟨_, revoking, committed, rfl, hc, hr⟩ := (Program.yields_bind _ _ _ _).mp h
  obtain ⟨committed, hs, rfl⟩ := (Action.yields_inContext _ _ _).mp hc
  obtain rfl := (Session.yields_commit elevation.lock.session committed).mp hs
  obtain ⟨revoked, hd, rfl⟩ := (Program.yields_bind_done _ _ _ _).mp hr
  exact ⟨committed, revoking, revoked, RoleGrant.revoked_of_yields hd, rfl, rfl⟩

end Elevation

end PgConverge
