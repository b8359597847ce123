import Mathlib.Data.List.Induction
import PgConverge.Proofs.Connection.Numbering
import PgConverge.Proofs.Elevation.Protocol

/-!
# What a log tells about a phase

A phase other than the first is there for a reason that stands in the log before, and leads to an
obligation that is met in the log after: an open session was opened and will be ended, a lock was
answered, a grant was made and will be revoked. Each fact follows from what one step can change.

## Main statements

* `Phase.Path.exists_end`, `Phase.Path.exists_revocation` — the obligations.
* `Phase.Path.exists_opening`, `Phase.Path.exists_lock`, `Phase.Path.exists_grant` — the reasons.
* `Phase.Path.session_ne` — nothing is sent on a session that is not open.
-/

namespace PgConverge

/-- Whether a request ends a session, keeping or undoing its work. -/
def Request.ends (session : SessionId) : Request → Bool
  | commit own | rollback own => own == session
  | _ => false

theorem Request.ends_of_isWork {request : Request} (h : request.isWork = true)
    (session : SessionId) : request.ends session = false := by
  cases request with
  | commit | rollback => cases h
  | _ => rfl

namespace Phase

variable {principal : String}

/-! ## What one step can change -/

namespace Step

variable {p q : Phase} {x : Exchange} {session : SessionId} {group : String}

/-- Requests are made on the main session and on the one that is open. -/
theorem session_eq (h : Step principal p x q) :
    x.request.session = mainSession ∨ p.session? = some x.request.session := by
  cases h with
  | work _ hs =>
    cases p with
    | idle => exact .inl hs
    | opened own => exact .inr (congrArg some hs.symm)
    | locked own | member own _ | granted own _ =>
      exact hs.imp_right fun hs => congrArg some hs.symm
    | vacant | owing => cases hs
  | rolledBack own answer hs => exact .inr hs
  | committed own answer hl => exact .inr (session?_of_lock? hl)
  | _ => simp [Request.session, session?]

/-- A session is open because it was open before or opens now. -/
theorem session?_eq (h : Step principal p x q) (hq : q.session? = some session) :
    p.session? = some session ∨ x.opened? = some session := by
  cases h <;> simp_all [session?, Exchange.opened?]

/-- A session stays open until it ends, and no other one opens before. -/
theorem ends_or_keeps (h : Step principal p x q) (hp : p.session? = some session) :
    (x.request.ends session = true ∧ q.session? = none) ∨
      (x.request.ends session = false ∧ x.request.opens = false ∧ q.session? = some session) := by
  cases h with
  | work hw _ => exact .inr ⟨Request.ends_of_isWork hw session, Request.opens_of_isWork hw, hp⟩
  | rolledBack own answer hs => simp_all [Request.ends, session?]
  | committed own answer hl =>
    have hown := session?_of_lock? hl
    simp_all [Request.ends, session?]
  | _ => simp_all [Request.ends, Request.opens, session?]

theorem session?_of_ends (h : Step principal p x q) (hx : x.request.ends session = true) :
    q.session? = none := by
  cases h with
  | work hw => cases (Request.ends_of_isWork hw session).symm.trans hx
  | _ => simp_all [Request.ends, session?]

/-- A lock is held since it was answered, on the session that was open, until that session ends. -/
theorem lock?_eq (h : Step principal p x q) (hq : q.lock? = some session) :
    (p.lock? = some session ∧ x.request.ends session = false) ∨
      (p.session? = some session ∧
        ∃ row, x = ⟨.query session (.lockRole principal), .ok (some row)⟩) := by
  cases h with
  | work hw _ => exact .inl ⟨hq, Request.ends_of_isWork hw session⟩
  | _ => simp_all [lock?, session?, Request.ends]

theorem lock?_keeps (h : Step principal p x q) (hp : p.lock? = some session)
    (hx : x.request.ends session = false) : q.lock? = some session := by
  cases h with
  | work => exact hp
  | rolledBack own answer hs => cases p <;> simp_all [lock?, session?, Request.ends]
  | committed own answer hl => simp_all [Request.ends]
  | _ => simp_all [lock?, Request.ends]

/-- A grant is owed since it was made. -/
theorem owed?_eq (h : Step principal p x q) (hq : q.owed? = some group) :
    (p.owed? = some group ∧ x.request.changesRoles = false) ∨
      ∃ affected, x = ⟨.execute mainSession (.grantRole group principal), .ok affected⟩ := by
  cases h with
  | work hw _ => exact .inl ⟨hq, Request.changesRoles_of_isWork hw⟩
  | _ => simp_all [owed?, Request.changesRoles]

/-- A grant is owed until it is revoked. -/
theorem revokes_or_owes (h : Step principal p x q) (hp : p.owed? = some group) :
    x.request = .execute mainSession (.revokeRole group principal) ∨
      (x.request.changesRoles = false ∧ q.owed? = some group) := by
  cases h with
  | work hw _ => exact .inr ⟨Request.changesRoles_of_isWork hw, hp⟩
  | _ => simp_all [owed?, Request.changesRoles]

end Step

/-! ## What a log shows -/

namespace Path

variable {a b : Phase} {log : List Exchange} {session : SessionId} {group : String}

theorem exists_opening (h : Path principal .idle log b) (hb : b.session? = some session) :
    ∃ x ∈ log, x.opened? = some session := by
  induction log using List.reverseRecOn generalizing b with
  | nil =>
    cases h
    cases hb
  | append_singleton log x ih =>
  obtain ⟨p, hpath, hs⟩ := h.split_last
  rcases hs.session?_eq hb with hp | hx
  · obtain ⟨y, hy, hopened⟩ := ih hpath hp
    exact ⟨y, List.mem_append_left _ hy, hopened⟩
  · exact ⟨x, List.mem_append_right _ (List.mem_singleton_self x), hx⟩

/-- The lock was answered on a session opened before, which has not ended since. -/
theorem exists_lock (h : Path principal .idle log b) (hb : b.lock? = some session) :
    ∃ earlier row held,
      log = earlier ++ ⟨.query session (.lockRole principal), .ok (some row)⟩ :: held ∧
      (∃ x ∈ earlier, x.opened? = some session) ∧ ∀ x ∈ held, x.request.ends session = false := by
  induction log using List.reverseRecOn generalizing b with
  | nil =>
    cases h
    cases hb
  | append_singleton log x ih =>
  obtain ⟨p, hpath, hs⟩ := h.split_last
  rcases hs.lock?_eq hb with ⟨hp, hx⟩ | ⟨hp, row, rfl⟩
  · obtain ⟨earlier, row, held, rfl, hopened, hheld⟩ := ih hpath hp
    refine ⟨earlier, row, held ++ [x], by simp, hopened, ?_⟩
    exact List.forall_mem_append.mpr ⟨hheld, List.forall_mem_singleton.mpr hx⟩
  · exact ⟨log, row, [], rfl, hpath.exists_opening hp, List.forall_mem_nil _⟩

theorem lock?_keeps (h : Path principal a log b) (ha : a.lock? = some session)
    (hlog : ∀ x ∈ log, x.request.ends session = false) : b.lock? = some session := by
  induction h with
  | nil => exact ha
  | cons hs _ ih =>
    obtain ⟨hx, hrest⟩ := List.forall_mem_cons.mp hlog
    exact ih (hs.lock?_keeps ha hx) hrest

/-- The grant was made, and no membership has changed since. -/
theorem exists_grant (h : Path principal .idle log b) (hb : b.owed? = some group) :
    ∃ earlier affected held,
      log = earlier ++ ⟨.execute mainSession (.grantRole group principal), .ok affected⟩ :: held ∧
      ∀ x ∈ held, x.request.changesRoles = false := by
  induction log using List.reverseRecOn generalizing b with
  | nil =>
    cases h
    cases hb
  | append_singleton log x ih =>
  obtain ⟨p, hpath, hs⟩ := h.split_last
  rcases hs.owed?_eq hb with ⟨hp, hx⟩ | ⟨affected, rfl⟩
  · obtain ⟨earlier, affected, held, rfl, hheld⟩ := ih hpath hp
    refine ⟨earlier, affected, held ++ [x], by simp, ?_⟩
    exact List.forall_mem_append.mpr ⟨hheld, List.forall_mem_singleton.mpr hx⟩
  · exact ⟨log, affected, [], rfl, List.forall_mem_nil _⟩

/-- Nothing stands between the answer that a membership is missing and what is done about it. -/
theorem exists_vacancy (h : Path principal .idle log (.vacant session group)) :
    ∃ earlier,
      log = earlier ++ [⟨.query mainSession (.roleMembership principal group), .ok none⟩] := by
  cases log using List.reverseRecOn with
  | nil => cases h
  | append_singleton earlier x =>
  obtain ⟨p, hp, hs⟩ := h.split_last
  cases hs with
  | absent => exact ⟨earlier, rfl⟩
  | work _ hadmits => cases hadmits

/-- Nothing is sent on a session whose number is taken and that is not open. -/
theorem session_ne {n : Nat} (h : Path principal a log b) (hn : Numbered n log)
    (hs : session ≤ n) (hmain : session ≠ mainSession) (ha : a.session? ≠ some session) :
    ∀ x ∈ log, x.request.session ≠ session := by
  induction h generalizing n with
  | nil => exact List.forall_mem_nil _
  | @cons first next last x log hstep _ ih =>
    obtain ⟨hx, hrest⟩ := hn
    intro y hy
    rcases List.mem_cons.mp hy with rfl | hy
    · rintro rfl
      rcases hstep.session_eq with hm | hm
      · exact hmain hm
      · exact ha hm
    · refine ih hrest ?_ ?_ y hy
      · split
        · exact Nat.le_succ_of_le hs
        · exact hs
      · intro hnext
        rcases hstep.session?_eq hnext with hf | hopened
        · exact ha hf
        · obtain rfl := hx session hopened
          exact Nat.not_succ_le_self n hs

/-- Nothing is sent on a session that has ended. -/
theorem session_ne_of_ends {n : Nat} {before after : List Exchange} {x : Exchange}
    (h : Path principal a (before ++ x :: after) b) (hn : Numbered n (before ++ x :: after))
    (hopened : ∃ y ∈ before, y.opened? = some session) (hx : x.request.ends session = true) :
    ∀ y ∈ after, y.request.session ≠ session := by
  obtain ⟨y, hy, hopened⟩ := hopened
  obtain ⟨earlier, held, rfl⟩ := List.append_of_mem hy
  rw [List.append_assoc, List.cons_append] at hn
  obtain ⟨hlt, hlater⟩ := hn.after_opening hopened
  rw [List.append_cons] at hlater
  obtain ⟨m, hm, hafter⟩ := Numbered.exists_suffix hlater
  obtain ⟨p, q, -, hs, hq⟩ := h.split_at
  have hended : q.session? = none := hs.session?_of_ends hx
  exact hq.session_ne hafter hm (Nat.ne_of_gt (Nat.zero_lt_of_lt hlt)) (by simp [hended])

/-- A session that is open ends once, no other one opens before, and it is not used after. -/
theorem exists_end {n : Nat} (h : Path principal a log .idle) (hn : Numbered n log)
    (hs : session ≤ n) (hmain : session ≠ mainSession) (ha : a.session? = some session) :
    ∃ held last later, log = held ++ last :: later ∧ last.request.ends session = true ∧
      (∀ x ∈ held, x.request.ends session = false ∧ x.request.opens = false) ∧
      ∀ x ∈ later, x.request.session ≠ session := by
  induction log generalizing a n with
  | nil =>
    cases h
    cases ha
  | cons x log ih =>
    cases h with
    | @cons _ next _ _ _ hstep hpath =>
      -- The number stays taken, so that no session that opens later gets it again.
      have hn' : session ≤ if x.opened?.isSome then n + 1 else n := by
        split
        · exact Nat.le_succ_of_le hs
        · exact hs
      rcases hstep.ends_or_keeps ha with ⟨hends, hnext⟩ | ⟨hends, hopens, hnext⟩
      · refine ⟨[], x, log, rfl, hends, List.forall_mem_nil _, ?_⟩
        exact hpath.session_ne hn.2 hn' hmain (by simp [hnext])
      · obtain ⟨held, last, later, rfl, hlast, hheld, hlater⟩ := ih hpath hn.2 hn' hnext
        exact ⟨x :: held, last, later, rfl, hlast,
          List.forall_mem_cons.mpr ⟨⟨hends, hopens⟩, hheld⟩, hlater⟩

/-- A grant that is owed is revoked before any other membership changes. -/
theorem exists_revocation (h : Path principal a log .idle) (ha : a.owed? = some group) :
    ∃ held last later, log = held ++ last :: later ∧
      last.request = .execute mainSession (.revokeRole group principal) ∧
      ∀ x ∈ held, x.request.changesRoles = false := by
  induction log generalizing a with
  | nil =>
    cases h
    cases ha
  | cons x log ih =>
    cases h with
    | cons hstep hpath =>
      rcases hstep.revokes_or_owes ha with hx | ⟨hx, hnext⟩
      · exact ⟨[], x, log, rfl, hx, List.forall_mem_nil _⟩
      · obtain ⟨held, last, later, rfl, hlast, hheld⟩ := ih hpath hnext
        exact ⟨x :: held, last, later, rfl, hlast, List.forall_mem_cons.mpr ⟨hx, hheld⟩⟩

end Path

end Phase

end PgConverge
