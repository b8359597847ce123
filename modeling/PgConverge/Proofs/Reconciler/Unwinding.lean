import PgConverge.Proofs.Elevation.History
import PgConverge.Proofs.Reconciler.Call

/-!
# Elevations are always unwound

Whatever fails during a call, every session that it opens is ended and every membership that it
grants is revoked, and it grants no membership without the lock on its role.

## Main definitions

* `Unwound` — what the log of a call shows about its sessions and its grants.

## Main statements

* `Reconciler.unwound_call` — the log of every call shows that, on any connection.
-/

namespace PgConverge

/-- Whether a request is given by its text. -/
def Request.isVerbatim : Request → Bool
  | execute _ (.verbatim ..) | query _ (.verbatim ..) => true
  | _ => false

/-- Whether a log unwinds all that it builds up, for the role that connects. -/
structure Unwound (principal : String) (log : List Exchange) : Prop where
  /-- A session that opens ends once, before another one opens, and is not used afterwards. -/
  ended : ∀ before x after session, log = before ++ x :: after → x.opened? = some session →
    ∃ held last later, after = held ++ last :: later ∧ last.request.ends session = true ∧
      (∀ y ∈ held, y.request.ends session = false ∧ y.request.opens = false) ∧
      ∀ y ∈ later, y.request.session ≠ session
  kept : ∀ x ∈ log, ∀ session, x.request ≠ .discard session
  /-- A grant that succeeds is revoked before any other membership changes. -/
  revoked : ∀ before x after group member session affected, log = before ++ x :: after →
    x = ⟨.execute session (.grantRole group member), .ok affected⟩ →
    ∃ held last later, after = held ++ last :: later ∧
      last.request = .execute mainSession (.revokeRole group principal) ∧
      ∀ y ∈ held, y.request.changesRoles = false
  /-- Only a grant that succeeded is revoked, and only once. -/
  owed : ∀ before x after group member session, log = before ++ x :: after →
    x.request = .execute session (.revokeRole group member) →
    session = mainSession ∧ member = principal ∧ ∃ earlier affected held,
      before =
        earlier ++ ⟨.execute mainSession (.grantRole group principal), .ok affected⟩ :: held ∧
      ∀ y ∈ held, y.request.changesRoles = false
  /-- A membership is granted right after it was found missing, while an open session holds the lock
  on the role. -/
  justified : ∀ before x after group member session, log = before ++ x :: after →
    x.request = .execute session (.grantRole group member) →
    session = mainSession ∧ member = principal ∧ group ≠ principal ∧
      (∃ earlier, before =
        earlier ++ [⟨.query mainSession (.roleMembership principal group), .ok none⟩]) ∧
      ∃ lock earlier row held,
        before = earlier ++ ⟨.query lock (.lockRole principal), .ok (some row)⟩ :: held ∧
        (∃ y ∈ earlier, y.opened? = some lock) ∧ ∀ y ∈ held, y.request.ends lock = false
  /-- No membership changes through a request given by its text. -/
  named : ∀ x ∈ log, x.request.isVerbatim = false

namespace Phase

variable {principal : String} {log : List Exchange}

theorem Path.exists_step {a b : Phase} (h : Path principal a log b) {x : Exchange} (hx : x ∈ log) :
    ∃ p q, Step principal p x q := by
  obtain ⟨before, after, rfl⟩ := List.append_of_mem hx
  obtain ⟨p, q, -, hs, -⟩ := h.split_at
  exact ⟨p, q, hs⟩

theorem Step.opened {p q : Phase} {x : Exchange} {session : SessionId} (h : Step principal p x q)
    (hx : x.opened? = some session) : q.session? = some session := by
  cases h with
  | work hw => cases (Request.opens_of_isWork hw).symm.trans (Exchange.opens_of_opened? hx)
  | _ => simp_all [Exchange.opened?, session?]

theorem Path.unwound (h : Path principal .idle log .idle) {n : Nat} (hn : Numbered n log) :
    Unwound principal log where
  ended := by
    rintro before x after session rfl hx
    obtain ⟨p, q, -, hs, hq⟩ := h.split_at
    obtain ⟨hlt, hafter⟩ := hn.after_opening hx
    exact hq.exists_end hafter (Nat.le_refl session) (Nat.ne_of_gt (Nat.zero_lt_of_lt hlt))
      (hs.opened hx)
  kept := by
    intro x hx session hd
    obtain ⟨p, q, hs⟩ := h.exists_step hx
    cases hs with
    | work hw =>
      rw [hd] at hw
      cases hw
    | _ => cases hd
  revoked := by
    rintro before x after group member session affected rfl rfl
    obtain ⟨p, q, -, hs, hq⟩ := h.split_at
    cases hs with
    | granted => exact hq.exists_revocation rfl
    | work hw => cases hw
  owed := by
    rintro before ⟨request, outcome⟩ after group member session rfl rfl
    obtain ⟨p, q, hp, hs, -⟩ := h.split_at
    cases hs with
    | revoked => exact ⟨rfl, rfl, hp.exists_grant rfl⟩
    | revokedLate => exact ⟨rfl, rfl, hp.exists_grant rfl⟩
    | work hw => cases hw
  justified := by
    rintro before ⟨request, outcome⟩ after group member session rfl rfl
    obtain ⟨p, q, hp, hs, -⟩ := h.split_at
    cases hs with
    | granted own _ _ hne =>
      exact ⟨rfl, rfl, hne.symm, hp.exists_vacancy, own, hp.exists_lock rfl⟩
    | refused own _ _ hne =>
      exact ⟨rfl, rfl, hne.symm, hp.exists_vacancy, own, hp.exists_lock rfl⟩
    | work hw => cases hw
  named := by
    intro x hx
    obtain ⟨p, q, hs⟩ := h.exists_step hx
    cases hs with
    | work hw =>
      rcases x with ⟨⟨_, statement⟩ | ⟨_, question⟩ | _ | _ | _ | _ | _, outcome⟩
      · cases statement <;> first | rfl | cases hw
      · cases question <;> first | rfl | cases hw
      all_goals rfl
    | _ => rfl

end Phase

/-- Whatever the connection answers, a call unwinds what it builds up. -/
theorem Reconciler.unwound_call {σ : Type} (r : Reconciler) (call : Call) (state : DatabaseState)
    (server : Server σ) (link : Link σ) :
    Unwound r.principal ((r.call state call).run server link).exchanges :=
  (r.path_of_call (Program.yields_run server _ link)).unwound
    (Program.numbered_run server _ link)

end PgConverge
