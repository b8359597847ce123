import PgConverge.Proofs.Connection.Order
import PgConverge.Proofs.Reconciler.Problem
import PgConverge.Proofs.Version

/-!
# The order in which a database is dropped

What may come after what when a database is dropped, and what a log shows that keeps to that. Each
step is called for by the answer right before it, so that a fact about one exchange leads back to
the one before, as far as the mark that was looked for.

## Main definitions

* `Exchange.ShowsMark`, `Exchange.ShowsNoMark` — what the catalog answers about the template mark.
* `Drops`, `DropsLast` — what is allowed after what.
* `SafelyDropped` — what the log of a call shows that deletes a database.

## Main statements

* `safelyDropped_of_orderly` — a log that keeps to what is allowed shows that.
-/

namespace PgConverge

namespace Request

/-- Whether a request sets the template mark of a database or takes it off. -/
def marks : Request → Bool
  | execute _ (.setIsTemplate ..) => true
  | _ => false

/-- Whether a request drops a database. -/
def drops : Request → Bool
  | execute _ (.dropDatabase ..) => true
  | _ => false

/-- Whether a request changes which sessions a database lets in, ends sessions, or drops a
database. -/
def disrupts : Request → Bool
  | execute _ (.setAllowConnections ..) | execute _ (.terminateSessions ..)
  | execute _ (.dropDatabase ..) => true
  | _ => false

theorem isWork_of_marks {request : Request} (h : request.marks = true) :
    request.isWork = true := by
  cases request with
  | execute session statement => cases statement <;> first | rfl | cases h
  | _ => cases h

theorem isWork_of_disrupts {request : Request} (h : request.disrupts = true) :
    request.isWork = true := by
  cases request with
  | execute session statement => cases statement <;> first | rfl | cases h
  | _ => cases h

theorem isWork_of_drops {request : Request} (h : request.drops = true) :
    request.isWork = true := by
  cases request with
  | execute session statement => cases statement <;> first | rfl | cases h
  | _ => cases h

theorem isWork_of_asksTemplate {request : Request} (h : request.asksTemplate = true) :
    request.isWork = true := by
  cases request with
  | query session question => cases question <;> first | rfl | cases h
  | _ => cases h

/-- What only work does is not done by a request that is no work. -/
theorem eq_false_of_idle {p : Request → Bool} {request : Request}
    (hp : p request = true → request.isWork = true) (h : request.isWork = false) :
    p request = false := by
  cases hpr : p request with
  | false => rfl
  | true => cases h.symm.trans (hp hpr)

end Request

namespace Exchange

/-- Whether the catalog answers that a database is marked as a template. -/
def ShowsMark (name : String) (x : Exchange) : Prop :=
  ∃ row, x = ⟨.query mainSession (.databaseIsTemplate name), .ok (some row)⟩ ∧
    row.boolean 0 = .ok true

/-- Whether the catalog answers that a database is not marked, or that there is none. -/
def ShowsNoMark (name : String) (x : Exchange) : Prop :=
  ∃ answer : Option Row, x = ⟨.query mainSession (.databaseIsTemplate name), .ok answer⟩ ∧
    ∀ row ∈ answer, row.boolean 0 = .ok false

end Exchange

/-- The requests about a database that is dropped. -/
def dropRequests (version : ServerVersion) (name : String) : List Request :=
  [.query mainSession (.databaseIsTemplate name),
    .execute mainSession (.setIsTemplate name false),
    .execute mainSession (.setAllowConnections name false),
    .execute mainSession (.terminateSessions version.pidColumn name),
    .execute mainSession (.drop name version)]

/-- What is allowed after what when a call deletes the database of a name. -/
inductive Drops (r : Reconciler) (spec : DatabaseSpec) (name : String) :
    List Exchange → Request → Prop where
  | elevated (past : List Exchange) {request : Request} : r.Elevates spec request →
      Drops r spec name past request
  | look (past : List Exchange) :
      Drops r spec name past (.query mainSession (.databaseIsTemplate name))
  | clear {earlier : List Exchange} {look : Exchange} : look.ShowsMark name →
      (earlier ++ [look]).countP (·.request.marks) < 2 →
      Drops r spec name (earlier ++ [look]) (.execute mainSession (.setIsTemplate name false))
  | block {earlier : List Exchange} {look : Exchange} : look.ShowsNoMark name →
      Drops r spec name (earlier ++ [look])
        (.execute mainSession (.setAllowConnections name false))
  | terminate {past : List Exchange} :
      (r.version.supports .allowConnections = true → ∃ earlier affected, past = earlier ++
        [⟨.execute mainSession (.setAllowConnections name false), .ok affected⟩]) →
      Drops r spec name past
        (.execute mainSession (.terminateSessions r.version.pidColumn name))
  | drop (earlier : List Exchange) (affected : UInt64) :
      Drops r spec name (earlier ++
          [⟨.execute mainSession (.terminateSessions r.version.pidColumn name), .ok affected⟩])
        (.execute mainSession (.drop name r.version))

/-- Whether no work is done once a database is dropped. -/
def DropsLast (past : List Exchange) (request : Request) : Prop :=
  request.isWork = true → past.countP (·.request.drops) = 0

/-- What the log of a call shows that deletes the database of a name. -/
structure SafelyDropped (r : Reconciler) (spec : DatabaseSpec) (name : String)
    (log : List Exchange) : Prop where
  /-- Besides the requests for an elevation there are only those about the database. -/
  addressed : ∀ x ∈ log, x.request ∈ dropRequests r.version name ∨ r.Elevates spec x.request
  /-- No mark is set, and no database opened. -/
  never : ∀ x ∈ log, ∀ session other,
    x.request ≠ .execute session (.setIsTemplate other true) ∧
      x.request ≠ .execute session (.setAllowConnections other true)
  /-- The mark is taken off only right after it was seen. -/
  seen : ∀ before x after, log = before ++ x :: after → x.request.marks = true →
    ∃ earlier look, before = earlier ++ [look] ∧ look.ShowsMark name
  twice : log.countP (·.request.marks) ≤ 2
  /-- The sessions are ended right before the database is dropped. Where the server has the flags,
  right before that the mark was seen to be gone and new sessions were kept out. -/
  drained : ∀ before x after, log = before ++ x :: after → x.request.drops = true →
    ∃ earlier affected, before = earlier ++
        [⟨.execute mainSession (.terminateSessions r.version.pidColumn name), .ok affected⟩] ∧
      (r.version.atLeast 9 5 = true → ∃ first look blocked, look.ShowsNoMark name ∧
        earlier = first ++
          [look, ⟨.execute mainSession (.setAllowConnections name false), .ok blocked⟩])
  once : log.countP (·.request.drops) ≤ 1
  /-- When the database is dropped, nothing is left to do but to leave the elevation. -/
  last : ∀ before x after, log = before ++ x :: after → x.request.drops = true →
    ∀ y ∈ after, r.Elevates spec y.request

/-! ## What the order tells -/

variable {r : Reconciler} {spec : DatabaseSpec} {name : String} {past log : List Exchange}
  {request : Request}

namespace Drops

theorem mem_or_elevates (h : Drops r spec name past request) :
    request ∈ dropRequests r.version name ∨ r.Elevates spec request := by
  cases h with
  | elevated _ helevates => exact .inr helevates
  | _ => exact .inl (by simp [dropRequests])

theorem of_marks (h : Drops r spec name past request) (hmarks : request.marks = true) :
    past.countP (·.request.marks) < 2 ∧
      ∃ earlier look, past = earlier ++ [look] ∧ look.ShowsMark name := by
  cases h with
  | clear hshows hcount => exact ⟨hcount, _, _, rfl, hshows⟩
  | elevated _ helevates => cases helevates.isWork.symm.trans (Request.isWork_of_marks hmarks)
  | _ => cases hmarks

theorem of_block {allow : Bool}
    (h : Drops r spec name past (.execute mainSession (.setAllowConnections name allow))) :
    ∃ earlier look, past = earlier ++ [look] ∧ look.ShowsNoMark name := by
  cases h with
  | block hshows => exact ⟨_, _, rfl, hshows⟩
  | elevated _ helevates => cases helevates.isWork

theorem of_terminate {column : PidColumn}
    (h : Drops r spec name past (.execute mainSession (.terminateSessions column name)))
    (hsupports : r.version.supports .allowConnections = true) :
    ∃ earlier affected, past = earlier ++
      [⟨.execute mainSession (.setAllowConnections name false), .ok affected⟩] := by
  cases h with
  | terminate hblocked => exact hblocked hsupports
  | elevated _ helevates => cases helevates.isWork

theorem of_drops (h : Drops r spec name past request) (hdrops : request.drops = true) :
    ∃ earlier affected, past = earlier ++
      [⟨.execute mainSession (.terminateSessions r.version.pidColumn name), .ok affected⟩] := by
  cases h with
  | drop earlier affected => exact ⟨earlier, affected, rfl⟩
  | elevated _ helevates => cases helevates.isWork.symm.trans (Request.isWork_of_drops hdrops)
  | _ => cases hdrops

end Drops

/-- The requests about a database that is dropped are work, and set no flag. -/
theorem not_flag_of_mem_dropRequests (h : request ∈ dropRequests r.version name) :
    request.isWork = true ∧ ∀ session other,
      request ≠ .execute session (.setIsTemplate other true) ∧
        request ≠ .execute session (.setAllowConnections other true) := by
  simp only [dropRequests, List.mem_cons, List.not_mem_nil, or_false] at h
  rcases h with rfl | rfl | rfl | rfl | rfl
  · exact ⟨rfl, fun _ _ => ⟨nofun, nofun⟩⟩
  · exact ⟨rfl, fun _ _ => ⟨by simp, nofun⟩⟩
  · exact ⟨rfl, fun _ _ => ⟨nofun, by simp⟩⟩
  · exact ⟨rfl, fun _ _ => ⟨nofun, nofun⟩⟩
  · exact ⟨rfl, fun _ _ => ⟨by simp [Statement.drop], by simp [Statement.drop]⟩⟩

/-- Work that drops nothing may come first. -/
theorem dropsLast_of_dropless (hpast : past.countP (·.request.drops) = 0)
    (hlog : ∀ x ∈ log, x.request.drops = false) : Orderly DropsLast past log := by
  induction log generalizing past with
  | nil => trivial
  | cons x log ih =>
    obtain ⟨hx, hlog⟩ := List.forall_mem_cons.mp hlog
    have hnext : (past ++ [x]).countP (·.request.drops) = 0 := by
      rw [List.countP_append, hpast]
      simp [hx]
    exact ⟨fun _ => hpast, ih hnext hlog⟩

theorem isWork_eq_false_of_dropsLast {before after : List Exchange} {x : Exchange}
    (h : Orderly DropsLast [] (before ++ x :: after)) (hdrops : x.request.drops = true) :
    ∀ y ∈ after, y.request.isWork = false := by
  intro y hy
  obtain ⟨first, rest, rfl⟩ := List.append_of_mem hy
  rw [← List.cons_append, ← List.append_assoc] at h
  cases hwork : y.request.isWork with
  | false => rfl
  | true =>
    have hnone := List.countP_eq_zero.mp (h.of_split hwork) x (by simp)
    exact absurd hdrops hnone

/-- What is allowed after what keeps a database safe. -/
theorem safelyDropped_of_orderly (h : Orderly (Drops r spec name) [] log)
    (hlast : Orderly DropsLast [] log) : SafelyDropped r spec name log where
  addressed := h.forall_mem fun _ _ hdrops => hdrops.mem_or_elevates
  never := by
    intro x hx session other
    rcases h.forall_mem (fun _ _ hdrops => hdrops.mem_or_elevates) x hx with hmem | helevates
    · exact (not_flag_of_mem_dropRequests hmem).2 session other
    · have hidle := helevates.isWork
      exact ⟨fun heq => (nomatch heq ▸ hidle), fun heq => (nomatch heq ▸ hidle)⟩
  seen := by
    rintro before x after rfl hmarks
    exact (h.of_split.of_marks hmarks).2
  twice := by
    have htwice := h.countP_le (p := Request.marks) (n := 2)
      (fun _ _ hdrops hmarks => (hdrops.of_marks hmarks).1) (Nat.zero_le 2)
    exact htwice
  drained := by
    rintro before x after rfl hdrops
    obtain ⟨earlier, affected, hbefore⟩ := h.of_split.of_drops hdrops
    rw [List.nil_append] at hbefore
    subst hbefore
    refine ⟨earlier, affected, rfl, fun hversion => ?_⟩
    have hsupports : r.version.supports .allowConnections = true :=
      (r.version.supports_eq_atLeast .allowConnections).trans hversion
    -- Each step leads back to the one right before it.
    rw [List.append_assoc] at h
    obtain ⟨first, blocked, rfl⟩ := h.of_split.of_terminate hsupports
    rw [List.append_assoc] at h
    obtain ⟨first, look, rfl, hshows⟩ := h.of_split.of_block
    exact ⟨first, look, blocked, hshows, by simp⟩
  once := by
    have honce := hlast.countP_le (p := Request.drops) (n := 1)
      (fun _ _ hnone hdrops => by rw [hnone (Request.isWork_of_drops hdrops)]; exact Nat.one_pos)
      (Nat.zero_le 1)
    exact honce
  last := by
    rintro before x after rfl hdrops y hy
    have hidle := isWork_eq_false_of_dropsLast hlast hdrops y hy
    have hmem := h.forall_mem (fun _ _ hdrops => hdrops.mem_or_elevates) y
      (List.mem_append_right before (List.mem_cons_of_mem x hy))
    refine hmem.resolve_left fun hmem => ?_
    cases hidle.symm.trans (not_flag_of_mem_dropRequests hmem).1

end PgConverge
