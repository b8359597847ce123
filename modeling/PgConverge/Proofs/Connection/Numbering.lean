import PgConverge.Connection.Run

/-!
# The numbers of sessions

Sessions get their numbers in the order in which they open, so that a number is never used twice and
never that of the main session.

## Main definitions

* `Exchange.opened?` — the session that an exchange opens.
* `Numbered` — the sessions of a log are numbered from a number on.

## Main statements

* `Program.numbered_run` — the log of a run is numbered from the sessions opened before on.
-/

namespace PgConverge

/-- The session that an exchange opens. -/
def Exchange.opened? : Exchange → Option SessionId
  | ⟨.begin _, .ok session⟩ | ⟨.beginReadOnly, .ok session⟩ => some session
  | _ => none

theorem Exchange.opens_of_opened? {x : Exchange} {session : SessionId}
    (h : x.opened? = some session) : x.request.opens = true := by
  unfold opened? at h
  split at h
  · rfl
  · rfl
  · cases h

/-- Whether the sessions that open get the numbers after `n`, each the next one. -/
def Numbered : Nat → List Exchange → Prop
  | _, [] => True
  | n, x :: log => (∀ session, x.opened? = some session → session = n + 1) ∧
      Numbered (if x.opened?.isSome then n + 1 else n) log

theorem Link.send_opened {σ : Type} (server : Server σ) (link : Link σ) (request : Request) :
    let sent := link.send server request
    let x : Exchange := ⟨request, sent.1⟩
    (∀ session, x.opened? = some session → session = link.opened + 1) ∧
      sent.2.opened = if x.opened?.isSome then link.opened + 1 else link.opened := by
  unfold send
  rcases server.respond link.state request with ⟨e | reply, state⟩ <;> cases request <;>
    simp [Exchange.opened?, Request.answer, Request.opens, eq_comm]

theorem Program.numbered_run {σ α : Type} (server : Server σ) (p : Program α) (link : Link σ) :
    Numbered link.opened (p.run server link).exchanges := by
  induction p generalizing link with
  | done a => trivial
  | ask request next ih =>
    obtain ⟨hnext, hopened⟩ := link.send_opened server request
    have hrest := ih (link.send server request).1 (link.send server request).2
    rw [hopened] at hrest
    exact ⟨hnext, hrest⟩

namespace Numbered

variable {n : Nat} {before after : List Exchange} {x : Exchange} {session : SessionId}

/-- What follows an exchange is numbered from its session on, if it opens one. -/
theorem after_opening (h : Numbered n (before ++ x :: after)) (hx : x.opened? = some session) :
    n < session ∧ Numbered session after := by
  induction before generalizing n with
  | nil =>
    obtain ⟨hnext, hrest⟩ := h
    rw [hx, Option.isSome_some, if_pos rfl] at hrest
    obtain rfl := hnext session hx
    exact ⟨Nat.lt_succ_self n, hrest⟩
  | cons y before ih =>
    obtain ⟨hlt, hrest⟩ := ih h.2
    refine ⟨?_, hrest⟩
    split at hlt
    · omega
    · exact hlt

theorem ne_mainSession {log : List Exchange} (h : Numbered n log) (hmem : x ∈ log)
    (hx : x.opened? = some session) : session ≠ mainSession := by
  obtain ⟨before, after, rfl⟩ := List.append_of_mem hmem
  exact Nat.ne_of_gt (Nat.zero_lt_of_lt (h.after_opening hx).1)

/-- The numbers that are taken stay so. -/
theorem exists_suffix (h : Numbered n (before ++ after)) : ∃ m, n ≤ m ∧ Numbered m after := by
  induction before generalizing n with
  | nil => exact ⟨n, Nat.le_refl n, h⟩
  | cons y before ih =>
    obtain ⟨m, hm, hafter⟩ := ih h.2
    refine ⟨m, Nat.le_trans ?_ hm, hafter⟩
    split <;> omega

end Numbered

end PgConverge
