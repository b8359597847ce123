import PgConverge.Proofs.Elevation.History

/-!
# What an entered elevation leaves in the log

An elevation that is entered shows itself: a session was opened, the lock on the role was answered on
it, and the membership was there or was granted. One that could not be entered leaves less.

## Main definitions

* `ShowsElevation` — a log in which a role has got the privileges of a group in a database.

## Main statements

* `Elevation.Entered.showsElevation`, `Elevation.Entered.not_showsElevation` — entering an elevation
  shows that exactly if it succeeds.
* `Elevation.Entered.exists_revocation` — a grant in the log is revoked when the elevation is left.
-/

namespace PgConverge

/-- Whether a log shows that a role has the privileges of a group in a database: a session was
opened there and holds the lock on the role, which is the group itself, or a member of it according
to the main session, or was made one. -/
structure ShowsElevation (principal group name : String) (session : SessionId)
    (log : List Exchange) : Prop where
  opened : (⟨.begin (some name), .ok session⟩ : Exchange) ∈ log
  locked : ∃ row, (⟨.query session (.lockRole principal), .ok (some row)⟩ : Exchange) ∈ log
  member : principal = group ∨
    (∃ row, (⟨.query mainSession (.roleMembership principal group), .ok (some row)⟩ : Exchange) ∈
      log) ∨
    ∃ affected, (⟨.execute mainSession (.grantRole group principal), .ok affected⟩ : Exchange) ∈ log

/-- What is no work on a session stands after the work. -/
theorem mem_of_mem_append {first rest : List Exchange} {x : Exchange} (hx : x ∈ first ++ rest)
    (hwork : ∀ y ∈ first, y.request.isWork = true) (hno : x.request.isWork = false) : x ∈ rest :=
  (List.mem_append.mp hx).resolve_left fun hfirst => nomatch (hwork x hfirst).symm.trans hno

namespace ShowsElevation

variable {principal group name : String} {session : SessionId} {first rest log : List Exchange}

theorem mono (h : ShowsElevation principal group name session log) (hsub : log ⊆ rest) :
    ShowsElevation principal group name session rest where
  opened := hsub h.opened
  locked := h.locked.imp fun _ hmem => hsub hmem
  member := h.member.imp_right <|
    Or.imp (Exists.imp fun _ hmem => hsub hmem) (Exists.imp fun _ hmem => hsub hmem)

/-- Work on a session has no part in it. -/
theorem of_append (h : ShowsElevation principal group name session (first ++ rest))
    (hwork : ∀ x ∈ first, x.request.isWork = true) :
    ShowsElevation principal group name session rest where
  opened := mem_of_mem_append h.opened hwork rfl
  locked := h.locked.imp fun _ hx => mem_of_mem_append hx hwork rfl
  member := h.member.imp_right <| Or.imp (Exists.imp fun _ hx => mem_of_mem_append hx hwork rfl)
    (Exists.imp fun _ hx => mem_of_mem_append hx hwork rfl)

end ShowsElevation

namespace Elevation

variable {principal group name : String} {log : List Exchange}

theorem Entered.showsElevation {elevation : Elevation}
    (h : Entered principal group (some name) log (.ok elevation)) :
    ShowsElevation principal group name elevation.session log := by
  cases h with
  | made hl hm =>
    cases hl with
    | locked session row =>
      refine ⟨by simp [Elevation.session], ⟨row, by simp [Elevation.session]⟩, ?_⟩
      cases hm with
      | self hself => exact .inl hself
      | present row => exact .inr (.inl ⟨row, by simp⟩)
      | granted affected => exact .inr (.inr ⟨affected, by simp⟩)

/-- An elevation that could not be entered has left no trace of privileges. -/
theorem Entered.not_showsElevation {database : Option String} {e : Error} {session : SessionId}
    (h : Entered principal group database log (.error e)) :
    ¬ShowsElevation principal group name session log := by
  rintro ⟨hopened, ⟨row, hlocked⟩, hmember⟩
  cases h with
  | unlocked hl => cases hl <;> simp at hopened hlocked
  | unmade closed hl hm =>
    cases hl with
    | locked own row' => cases hm <;> simp_all

/-- Entering an elevation ends no session, unless it fails. -/
theorem Entered.ends_eq_false {database : Option String} {elevation : Elevation}
    (h : Entered principal group database log (.ok elevation)) (session : SessionId) :
    ∀ x ∈ log, x.request.ends session = false := by
  cases h with
  | made hl hm =>
    cases hl with
    | locked own row => cases hm <;> simp [Request.ends]

theorem Entered.isNew_of_mem {database : Option String} {elevation : Elevation} {affected : UInt64}
    (h : Entered principal group database log (.ok elevation))
    (hmem : (⟨.execute mainSession (.grantRole group principal), .ok affected⟩ : Exchange) ∈ log) :
    elevation.grant.isNew = true := by
  cases h with
  | made hl hm =>
    cases hl with
    | locked session row => cases hm <;> simp_all

/-- A grant that was made for an elevation is revoked when it is left. -/
theorem Entered.exists_revocation {database : Option String} {revoking : List Exchange}
    {elevation : Elevation} {revoked : Except Error Unit} {affected : UInt64}
    (h : Entered principal group database log (.ok elevation))
    (hmem : (⟨.execute mainSession (.grantRole group principal), .ok affected⟩ : Exchange) ∈ log)
    (hrevoked : elevation.grant.Revoked revoking revoked) :
    ∃ answer, revoking = [⟨.execute mainSession (.revokeRole group principal), answer⟩] ∧
      (revoked = .ok () → ∃ n, answer = .ok n) := by
  obtain ⟨hmember, hgroup, -⟩ := path_of_entered h
  have hnew := h.isNew_of_mem hmem
  rw [← hmember, ← hgroup]
  cases hrevoked with
  | kept hkept => cases hkept.symm.trans hnew
  | failed e => exact ⟨_, rfl, nofun⟩
  | revoked n => exact ⟨_, rfl, fun _ => ⟨n, rfl⟩⟩

end Elevation

end PgConverge
