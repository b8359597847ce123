import PgConverge.Proofs.Elevation.Course

/-!
# The protocol of an elevation

The order that an elevation keeps on its connection, as the phases it goes through: a session is
opened, the role locked on it, the membership looked up and granted if there is none, the
privileged work done, the grant revoked and the session ended. A step that is out of order is no
step of the protocol.

## Main definitions

* `Phase`, `Phase.Step`, `Phase.Path` — the phases, one exchange, and a log.
* `Elevation.phase` — the phase in which an elevation does its work.

## Main statements

* `Phase.Step.unique` — the log of an elevation determines its phase.
* `Elevation.path_of_entered`, `Elevation.path_of_left`, `Elevation.path_of_committed` — entering
  and leaving an elevation follow the protocol, whatever fails.
-/

namespace PgConverge

/-- Whether a statement may change who is a member of a role. -/
def Statement.changesRoles : Statement → Bool
  | .grantRole .. | .revokeRole .. | .verbatim .. => true
  | _ => false

/-- Whether a question belongs to the protocol of an elevation. -/
def Query.concernsRoles : Query → Bool
  | .roleMembership .. | .lockRole _ | .verbatim .. => true
  | _ => false

namespace Request

/-- Whether a request changes who is a member of a role. -/
def changesRoles : Request → Bool
  | execute _ statement => statement.changesRoles
  | _ => false

/-- Whether a request is work on a session and no step of an elevation. -/
def isWork : Request → Bool
  | execute _ statement => !statement.changesRoles
  | query _ question => !question.concernsRoles
  | _ => false

/-- Work on the main session. -/
def IsPlain (request : Request) : Prop :=
  request.isWork = true ∧ request.session = mainSession

theorem opens_of_isWork {request : Request} (h : request.isWork = true) :
    request.opens = false := by
  cases request with
  | begin | beginReadOnly => cases h
  | _ => rfl

theorem changesRoles_of_isWork {request : Request} (h : request.isWork = true) :
    request.changesRoles = false := by
  cases request with
  | execute session statement => simpa [isWork, changesRoles] using h
  | _ => rfl

end Request

/-- How far an elevation is. A session may also be opened for reading only. -/
inductive Phase where
  | idle
  | opened (session : SessionId)
  | locked (session : SessionId)
  /-- The role is no member of the group, as the last answer said. -/
  | vacant (session : SessionId) (group : String)
  /-- The role was a member of the group before. -/
  | member (session : SessionId) (group : String)
  | granted (session : SessionId) (group : String)
  /-- The session has ended and the grant is still to be revoked. -/
  | owing (group : String)
deriving DecidableEq

namespace Phase

/-- The session that is open. -/
def session? : Phase → Option SessionId
  | idle | owing _ => none
  | opened session | locked session | vacant session _ | member session _ | granted session _ =>
    some session

/-- The session that holds the lock on the role. -/
def lock? : Phase → Option SessionId
  | idle | opened _ | owing _ => none
  | locked session | vacant session _ | member session _ | granted session _ => some session

theorem session?_of_lock? {phase : Phase} {session : SessionId} (h : phase.lock? = some session) :
    phase.session? = some session := by
  cases phase with
  | idle | opened | owing => cases h
  | locked | vacant | member | granted => exact h

/-- The group whose grant is still to be revoked. -/
def owed? : Phase → Option String
  | granted _ group | owing group => some group
  | _ => none

/-- The sessions on which work may be done. -/
def Admits (session : SessionId) : Phase → Prop
  | idle => session = mainSession
  | opened own => session = own
  | locked own | member own _ | granted own _ => session = mainSession ∨ session = own
  | vacant .. | owing _ => False

/-- The steps of the protocol, for the role that connects. -/
inductive Step (principal : String) : Phase → Exchange → Phase → Prop where
  | begun (database : Option String) (session : SessionId) :
      Step principal idle ⟨.begin database, .ok session⟩ (opened session)
  | begunReadOnly (session : SessionId) :
      Step principal idle ⟨.beginReadOnly, .ok session⟩ (opened session)
  | unbegun (database : Option String) (e : Error) :
      Step principal idle ⟨.begin database, .error e⟩ idle
  | unbegunReadOnly (e : Error) : Step principal idle ⟨.beginReadOnly, .error e⟩ idle
  | locked (session : SessionId) (row : Row) :
      Step principal (opened session) ⟨.query session (.lockRole principal), .ok (some row)⟩
        (locked session)
  | missing (session : SessionId) :
      Step principal (opened session) ⟨.query session (.lockRole principal), .ok none⟩
        (opened session)
  | unlocked (session : SessionId) (e : Error) :
      Step principal (opened session) ⟨.query session (.lockRole principal), .error e⟩
        (opened session)
  | present (session : SessionId) (group : String) (row : Row) :
      Step principal (locked session)
        ⟨.query mainSession (.roleMembership principal group), .ok (some row)⟩
        (member session group)
  | absent (session : SessionId) (group : String) : principal ≠ group →
      Step principal (locked session)
        ⟨.query mainSession (.roleMembership principal group), .ok none⟩ (vacant session group)
  | unknown (session : SessionId) (group : String) (e : Error) :
      Step principal (locked session)
        ⟨.query mainSession (.roleMembership principal group), .error e⟩ (locked session)
  | granted (session : SessionId) (group : String) (affected : UInt64) : principal ≠ group →
      Step principal (vacant session group)
        ⟨.execute mainSession (.grantRole group principal), .ok affected⟩ (granted session group)
  | refused (session : SessionId) (group : String) (e : Error) : principal ≠ group →
      Step principal (vacant session group)
        ⟨.execute mainSession (.grantRole group principal), .error e⟩ (locked session)
  | work {phase : Phase} {x : Exchange} : x.request.isWork = true →
      phase.Admits x.request.session → Step principal phase x phase
  | revoked (session : SessionId) (group : String) (answer : Except Error UInt64) :
      Step principal (granted session group)
        ⟨.execute mainSession (.revokeRole group principal), answer⟩ (locked session)
  | revokedLate (group : String) (answer : Except Error UInt64) :
      Step principal (owing group)
        ⟨.execute mainSession (.revokeRole group principal), answer⟩ idle
  | rolledBack {phase : Phase} (session : SessionId) (answer : Except Error Unit) :
      phase.session? = some session → phase.owed? = none →
      Step principal phase ⟨.rollback session, answer⟩ idle
  | committed {phase : Phase} (session : SessionId) (answer : Except Error Unit) :
      phase.lock? = some session → phase.owed? = none →
      Step principal phase ⟨.commit session, answer⟩ idle
  | committedOwing (session : SessionId) (group : String) (answer : Except Error Unit) :
      Step principal (granted session group) ⟨.commit session, answer⟩ (owing group)

theorem Step.unique {principal : String} {phase a b : Phase} {x : Exchange}
    (ha : Step principal phase x a) (hb : Step principal phase x b) : a = b := by
  cases ha <;> cases hb <;> first
    | rfl
    | simp_all [Request.isWork, Statement.changesRoles, Query.concernsRoles, owed?]

/-- The phases that a log leads through. -/
inductive Path (principal : String) : Phase → List Exchange → Phase → Prop where
  | nil (phase : Phase) : Path principal phase [] phase
  | cons {first next last : Phase} {x : Exchange} {log : List Exchange} :
      Step principal first x next → Path principal next log last →
      Path principal first (x :: log) last

namespace Path

variable {principal : String} {a b c : Phase} {xs ys : List Exchange}

theorem append (h : Path principal a xs b) (h' : Path principal b ys c) :
    Path principal a (xs ++ ys) c := by
  induction h with
  | nil => exact h'
  | cons hs _ ih => exact .cons hs (ih h')

theorem single {x : Exchange} (h : Step principal a x b) : Path principal a [x] b :=
  .cons h (.nil b)

theorem snoc {x : Exchange} (h : Path principal a xs b) (h' : Step principal b x c) :
    Path principal a (xs ++ [x]) c := h.append (single h')

/-- A path is cut wherever its log is. -/
theorem split (h : Path principal a (xs ++ ys) c) :
    ∃ b, Path principal a xs b ∧ Path principal b ys c := by
  induction xs generalizing a with
  | nil => exact ⟨a, .nil a, h⟩
  | cons x xs ih =>
    cases h with
    | cons hs hp =>
      obtain ⟨b, hb, hc⟩ := ih hp
      exact ⟨b, .cons hs hb, hc⟩

theorem split_at {before after : List Exchange} {x : Exchange}
    (h : Path principal a (before ++ x :: after) c) :
    ∃ p q, Path principal a before p ∧ Step principal p x q ∧ Path principal q after c := by
  obtain ⟨p, hp, h⟩ := h.split
  cases h with
  | cons hs hq => exact ⟨p, _, hp, hs, hq⟩

theorem split_last {x : Exchange} (h : Path principal a (xs ++ [x]) c) :
    ∃ p, Path principal a xs p ∧ Step principal p x c := by
  obtain ⟨p, q, hp, hs, hq⟩ := h.split_at
  cases hq
  exact ⟨p, hp, hs⟩

/-- Work leaves the phase as it is. -/
theorem of_work (h : ∀ x ∈ xs, x.request.isWork = true ∧ a.Admits x.request.session) :
    Path principal a xs a := by
  induction xs with
  | nil => exact .nil a
  | cons x xs ih =>
    obtain ⟨hw, hs⟩ := h x List.mem_cons_self
    exact .cons (.work hw hs) (ih fun y hy => h y (List.mem_cons_of_mem x hy))

end Path

end Phase

/-! ## Elevations follow the protocol -/

namespace Elevation

open Phase

/-- The phase in which an elevation does its work. -/
def phase (elevation : Elevation) : Phase :=
  if elevation.grant.isNew then .granted elevation.session elevation.grant.group
  else if elevation.grant.member = elevation.grant.group then .locked elevation.session
  else .member elevation.session elevation.grant.group

variable {principal group : String} {database : Option String} {log : List Exchange}

theorem admits_phase (elevation : Elevation) (session : SessionId)
    (h : session = mainSession ∨ session = elevation.session) :
    elevation.phase.Admits session := by
  unfold phase
  split
  · exact h
  · split
    · exact h
    · exact h

theorem lock?_phase (elevation : Elevation) : elevation.phase.lock? = some elevation.session := by
  unfold phase
  split
  · rfl
  · split
    · rfl
    · rfl

theorem owed?_phase {elevation : Elevation} (h : elevation.grant.isNew = false) :
    elevation.phase.owed? = none := by
  rw [phase, h, if_neg Bool.false_ne_true]
  split
  · rfl
  · rfl

theorem path_of_made (session : SessionId) {grant : RoleGrant}
    (h : RoleGrant.Made principal group log (.ok grant)) :
    grant.member = principal ∧ grant.group = group ∧
      Path principal (.locked session) log (phase ⟨⟨principal, session⟩, grant⟩) := by
  cases h with
  | self hself => exact ⟨rfl, rfl, by simpa [phase, Elevation.session, hself] using Path.nil _⟩
  | present row hself =>
    exact ⟨rfl, rfl, by
      simpa [phase, Elevation.session, hself] using Path.single (.present session group row)⟩
  | granted affected hself =>
    exact ⟨rfl, rfl, .cons (.absent session group hself)
      (.single (.granted session group affected hself))⟩

theorem path_of_unmade (session : SessionId) {e : Error}
    (h : RoleGrant.Made principal group log (.error e)) :
    Path principal (.locked session) log (.locked session) := by
  cases h with
  | unknown e hself => exact .single (.unknown session group e)
  | refused e hself =>
    exact .cons (.absent session group hself) (.single (.refused session group e hself))

theorem path_of_locked {lock : RoleLock} (h : RoleLock.Acquired principal database log (.ok lock)) :
    lock.role = principal ∧ Path principal .idle log (.locked lock.session) := by
  cases h with
  | locked session row =>
    exact ⟨rfl, .cons (.begun database session) (.single (.locked session row))⟩

theorem path_of_unlocked {e : Error} (h : RoleLock.Acquired principal database log (.error e)) :
    Path principal .idle log .idle := by
  cases h with
  | unopened e => exact .single (.unbegun database e)
  | missing session closed =>
    exact .cons (.begun database session) (.cons (.missing session)
      (.single (.rolledBack session closed rfl rfl)))
  | failed session e closed =>
    exact .cons (.begun database session) (.cons (.unlocked session e)
      (.single (.rolledBack session closed rfl rfl)))

theorem path_of_entered {elevation : Elevation}
    (h : Entered principal group database log (.ok elevation)) :
    elevation.grant.member = principal ∧ elevation.grant.group = group ∧
      Path principal .idle log elevation.phase := by
  cases h with
  | made hl hm =>
    obtain ⟨hrole, hp⟩ := path_of_locked hl
    obtain ⟨hmember, hgroup, hq⟩ := path_of_made _ hm
    exact ⟨hmember, hgroup, hp.append (hrole ▸ hq)⟩

theorem path_of_unentered {e : Error} (h : Entered principal group database log (.error e)) :
    Path principal .idle log .idle := by
  cases h with
  | unlocked hl => exact path_of_unlocked hl
  | unmade closed hl hm =>
    obtain ⟨-, hp⟩ := path_of_locked hl
    exact hp.append ((path_of_unmade _ hm).snoc (.rolledBack _ closed rfl rfl))

theorem path_of_revoked {elevation : Elevation} {outcome : Except Error Unit}
    (h : elevation.grant.Revoked log outcome) :
    ∃ phase, Path elevation.grant.member elevation.phase log phase ∧
      phase.session? = some elevation.session ∧ phase.owed? = none := by
  cases h with
  | kept hnew =>
    exact ⟨elevation.phase, .nil _, session?_of_lock? elevation.lock?_phase, owed?_phase hnew⟩
  | failed e hnew =>
    refine ⟨.locked elevation.session, ?_, rfl, rfl⟩
    rw [phase, if_pos hnew]
    exact .single (.revoked elevation.session elevation.grant.group (.error e))
  | revoked affected hnew =>
    refine ⟨.locked elevation.session, ?_, rfl, rfl⟩
    rw [phase, if_pos hnew]
    exact .single (.revoked elevation.session elevation.grant.group (.ok affected))

theorem path_of_left {elevation : Elevation} {α : Type} {primary outcome : Except Error α}
    (h : (elevation.exit primary).Yields log outcome) :
    Path elevation.grant.member elevation.phase log .idle := by
  obtain ⟨revoking, revoked, closed, hr, rfl, -⟩ := left_of_yields h
  obtain ⟨phase, hp, hs, ho⟩ := path_of_revoked hr
  exact hp.snoc (.rolledBack elevation.session closed hs ho)

theorem path_of_committed {elevation : Elevation} {α : Type} {primary outcome : Except Error α}
    (h : (elevation.exitCommitting primary).Yields log outcome) :
    Path elevation.grant.member elevation.phase log .idle := by
  cases primary with
  | error e => exact path_of_left h
  | ok a =>
    obtain ⟨committed, revoking, revoked, hr, rfl, -⟩ := committed_of_yields h
    -- The grant outlives the lock here, so that it is revoked with no session open.
    have hlate (hnew : elevation.grant.isNew = true) (answer : Except Error UInt64) :
        Path elevation.grant.member elevation.phase
          [⟨.commit elevation.session, committed⟩, ⟨.execute mainSession
            (.revokeRole elevation.grant.group elevation.grant.member), answer⟩] .idle := by
      rw [phase, if_pos hnew]
      exact .cons (.committedOwing elevation.session elevation.grant.group committed)
        (.single (.revokedLate elevation.grant.group answer))
    cases hr with
    | kept hnew =>
      exact .single
        (.committed elevation.session committed elevation.lock?_phase (owed?_phase hnew))
    | failed e hnew => exact hlate hnew (.error e)
    | revoked affected hnew => exact hlate hnew (.ok affected)

end Elevation

end PgConverge
