import PgConverge.Proofs.Connection.Order
import PgConverge.Proofs.Reconciler.Call

/-!
# The scope of a call

Every request that a call may make, with all the names in it. The names come from the arguments,
from the state that is kept and from the role that connects; only the owner whose objects are handed
over comes from the catalog, as an answer in the same log.

## Main definitions

* `ShowsOwner` — a log holds the answer that a role owns a database.
* `Call.Makes` — the requests that a call may make after a log.

## Main statements

* `Reconciler.orderly_call` — a call makes no others, whatever is answered.
-/

namespace PgConverge

/-- Whether the catalog has answered in a log that a role owns a database. -/
def ShowsOwner (log : List Exchange) (name owner : String) : Prop :=
  ∃ row shown, (⟨.query mainSession (.databaseOwner name), .ok (some row)⟩ : Exchange) ∈ log ∧
    row.databaseOwner = .ok (shown, owner)

theorem ShowsOwner.append {log : List Exchange} {name owner : String}
    (h : ShowsOwner log name owner) (more : List Exchange) :
    ShowsOwner (log ++ more) name owner := by
  obtain ⟨row, shown, hmem, hrow⟩ := h
  exact ⟨row, shown, List.mem_append_left more hmem, hrow⟩

namespace Call

open Reconciler (currentName finalName)

/-- The role with whose privileges a call acts, if it asks for one. -/
def owner? : Call → Option String
  | create spec | delete spec => spec.requestedOwner
  | update change => change.desired.requestedOwner
  | read _ | adopt _ | exists? _ => none

/-- The name under which a call reads its database back, if it does. -/
def readBack? (state : DatabaseState) : Call → Option String
  | create spec => some spec.name
  | read _ => state.id
  | adopt name => some name
  | update change => some (finalName state change)
  | delete _ | exists? _ => none

/-- The requests that a call may make after a log. -/
inductive Makes (r : Reconciler) (state : DatabaseState) :
    Call → List Exchange → Request → Prop where
  | elevated {call : Call} {past : List Exchange} {owner : String} {request : Request} :
      call.owner? = some owner → Elevation.Makes r.principal owner none request →
      Makes r state call past request
  | reads {call : Call} {past : List Exchange} {name : String} {request : Request} :
      call.readBack? state = some name → r.version.Reads name request →
      Makes r state call past request
  | create (spec : DatabaseSpec) (past : List Exchange) :
      Makes r state (.create spec) past
        (.execute mainSession (.createDatabase (.ofSpec spec r.principal r.version)))
  | rename {change : SpecChange} (past : List Exchange) : change.differs .name = true →
      Makes r state (.update change) past
        (.execute mainSession (.renameDatabase (currentName state change) change.desired.name))
  | askOwner {change : SpecChange} (past : List Exchange) :
      change.desired.reassignObjects = true → Makes r state (.update change) past
        (.query mainSession (.databaseOwner (finalName state change)))
  | handingOver {change : SpecChange} {past : List Exchange} {owner : String} {request : Request} :
      change.desired.reassignObjects = true → ShowsOwner past (finalName state change) owner →
      Elevation.Makes r.principal owner (some (finalName state change)) request →
      Makes r state (.update change) past request
  | handOver {change : SpecChange} {past : List Exchange} {owner newOwner : String}
      (session : SessionId) :
      change.desired.reassignObjects = true → ShowsOwner past (finalName state change) owner →
      change.desired.requestedOwner = some newOwner →
      Makes r state (.update change) past (.execute session (.reassignOwned owner newOwner))
  | setOwner {change : SpecChange} {owner : String} (past : List Exchange) :
      change.differs .owner = true → change.desired.requestedOwner = some owner →
      Makes r state (.update change) past
        (.execute mainSession (.setOwner (finalName state change) owner))
  | moveTablespace {change : SpecChange} (past : List Exchange) :
      change.differs .tablespace = true → Makes r state (.update change) past
        (.execute mainSession (.moveTablespace (finalName state change) change.desired.tablespace))
  | setConnectionLimit {change : SpecChange} (past : List Exchange) :
      change.differs .connectionLimit = true → Makes r state (.update change) past
        (.execute mainSession
          (.setConnectionLimit (finalName state change) change.desired.connectionLimit))
  | setAllowConnections {change : SpecChange} (past : List Exchange) :
      change.differs .allowConnections = true → r.version.supports .allowConnections = true →
      Makes r state (.update change) past
        (.execute mainSession
          (.setAllowConnections (finalName state change) change.desired.allowConnections))
  | setIsTemplate {change : SpecChange} (past : List Exchange) :
      change.differs .isTemplate = true → r.version.supports .isTemplate = true →
      Makes r state (.update change) past
        (.execute mainSession (.setIsTemplate (finalName state change) change.desired.isTemplate))
  | askTemplate (spec : DatabaseSpec) (past : List Exchange) :
      r.version.supports .isTemplate = true → Makes r state (.delete spec) past
        (.query mainSession (.databaseIsTemplate (state.id.getD spec.name)))
  | clearTemplate (spec : DatabaseSpec) (past : List Exchange) :
      r.version.supports .isTemplate = true → Makes r state (.delete spec) past
        (.execute mainSession (.setIsTemplate (state.id.getD spec.name) false))
  | block (spec : DatabaseSpec) (past : List Exchange) :
      r.version.supports .allowConnections = true → Makes r state (.delete spec) past
        (.execute mainSession (.setAllowConnections (state.id.getD spec.name) false))
  | terminate (spec : DatabaseSpec) (past : List Exchange) :
      Makes r state (.delete spec) past
        (.execute mainSession
          (.terminateSessions r.version.pidColumn (state.id.getD spec.name)))
  | drop (spec : DatabaseSpec) (past : List Exchange) :
      Makes r state (.delete spec) past
        (.execute mainSession (.drop (state.id.getD spec.name) r.version))
  | beginReadOnly (name : String) (past : List Exchange) :
      Makes r state (.exists? name) past .beginReadOnly
  | askExists (name : String) (past : List Exchange) (session : SessionId) :
      Makes r state (.exists? name) past (.query session (.databaseExists name))
  | rollback (name : String) (past : List Exchange) (session : SessionId) :
      Makes r state (.exists? name) past (.rollback session)

end Call

namespace Reconciler

open PgConverge.Action (Sends Heeds)
open Call (Makes)

variable (r : Reconciler) (state : DatabaseState) {past : List Exchange}

theorem heeds_create (spec : DatabaseSpec) :
    Heeds (Makes r state (.create spec)) past (r.create spec) := by
  refine .of_sends ((Sends.liftExcept _).bind fun _ => (Sends.liftExcept _).bind fun _ => ?_)
  refine Sends.bind (.asOwner (fun owner howner _ hmakes _ => .elevated howner hmakes) ?_)
    fun _ => .read (fun id hid _ hreads _ => .reads (Option.some.inj hid ▸ rfl) hreads) _
  exact .run (fun _ => .create spec _) _

theorem heeds_delete (spec : DatabaseSpec) :
    Heeds (Makes r state (.delete spec)) past (r.delete state spec) := by
  refine .of_sends (Sends.bind ?_ fun _ => .pure _)
  refine .asOwner (fun owner howner _ hmakes _ => .elevated howner hmakes) (.drop ?_ ?_ ?_ ?_ ?_)
  · exact fun hsupports _ => .askTemplate spec _ hsupports
  · exact fun hsupports _ => .clearTemplate spec _ hsupports
  · exact fun hsupports _ => .block spec _ hsupports
  · exact fun _ => .terminate spec _
  · exact fun _ => .drop spec _

theorem heeds_exists? (name : String) :
    Heeds (Makes r state (.exists? name)) past (r.exists? name) := by
  refine .of_sends fun log outcome hy => ?_
  rcases asked_of_exists? hy with ⟨e, rfl, -⟩ | ⟨session, answer, closed, rfl, -⟩
  · exact List.forall_mem_singleton.mpr fun _ => .beginReadOnly name _
  · refine List.forall_mem_cons.mpr ⟨fun _ => .beginReadOnly name _,
      List.forall_mem_cons.mpr ⟨fun _ => .askExists name _ session, ?_⟩⟩
    exact List.forall_mem_singleton.mpr fun _ => .rollback name _ session

section Update

variable (change : SpecChange)

/-- The objects are handed over by the owner that the catalog has answered. -/
theorem heeds_reassignOwned {owner : String} (hobjects : change.desired.reassignObjects = true)
    (howner : change.desired.requestedOwner = some owner) :
    Heeds (Makes r state (.update change)) past
      (r.reassignOwned (finalName state change) owner) := by
  refine Heeds.bind (.of_sends (.lookup (fun _ => .askOwner _ hobjects) _ _)) ?_
  intro asked found hasked
  obtain ⟨answer, rfl, hfound⟩ := Catalog.yields_lookup.mp hasked
  rcases found with _ | ⟨shown, old⟩
  · exact .throw _
  have hshows : ShowsOwner (past ++ [⟨.query mainSession (.databaseOwner (finalName state change)),
      answer⟩]) (finalName state change) old := by
    obtain ⟨row, rfl, hrow⟩ := Catalog.decoded_eq_ok_some hfound.symm
    exact ⟨row, shown, List.mem_append_right past (List.mem_singleton_self _), hrow⟩
  dsimp only
  split
  · exact .pure _
  · exact .of_sends (.handOver
      (fun _ hmakes more => .handingOver hobjects (hshows.append more) hmakes)
      fun session more => .handOver session hobjects (hshows.append more) howner)

theorem heeds_changeOwner (hdiffers : change.differs .owner = true) :
    Heeds (Makes r state (.update change)) past
      (r.changeOwner (finalName state change) change.desired) := by
  unfold changeOwner
  split
  · exact .pure _
  · rename_i owner howner
    refine (Heeds.onlyIf fun hobjects => r.heeds_reassignOwned state change hobjects howner).bind
      fun _ _ _ => .of_sends (.elevated (fun _ hmakes _ => .elevated howner hmakes) ?_)
    exact .run (fun _ => .setOwner _ hdiffers howner) _

theorem heeds_changeAttributes :
    Heeds (Makes r state (.update change)) past
      (r.changeAttributes (finalName state change) change) := by
  refine (Heeds.onlyIf fun hdiffers => r.heeds_changeOwner state change hdiffers).bind
    fun _ _ _ => .of_sends (.bind ?_ fun _ => .bind ?_ fun _ => .bind ?_ fun _ => ?_)
  · exact .onlyIf fun hdiffers => .run (fun _ => .moveTablespace _ hdiffers) _
  · exact .onlyIf fun hdiffers => .run (fun _ => .setConnectionLimit _ hdiffers) _
  · exact .onlyIf fun hdiffers =>
      .setAllowConnections fun hsupports _ => .setAllowConnections _ hdiffers hsupports
  · exact .onlyIf fun hdiffers =>
      .setIsTemplate fun hsupports _ => .setIsTemplate _ hdiffers hsupports

theorem heeds_prepare :
    Heeds (Makes r state (.update change)) past (prepare state change) :=
  .of_sends (.prepare fun hdiffers _ => .rename _ hdiffers)

theorem heeds_converge :
    Heeds (Makes r state (.update change)) past (r.converge state change) := by
  refine (r.heeds_changeAttributes state change).bind fun _ _ _ => .of_sends ?_
  refine .read (fun id hid _ hreads _ => .reads (congrArg some ?_) hreads) _
  exact finalName_of_renamedState hid

end Update

theorem heeds_steps (call : Call) : Heeds (Makes r state call) [] (r.steps state call) := by
  cases call with
  | create spec => exact r.heeds_create state spec
  | read spec => exact .of_sends (.read (fun id hid _ hreads _ => .reads hid hreads) _)
  | adopt name => exact .of_sends (.adopt fun _ hreads _ => .reads rfl hreads)
  | update change =>
    exact (r.heeds_prepare state change).bind fun _ _ _ => r.heeds_converge state change
  | delete spec => exact r.heeds_delete state spec
  | exists? name => exact (r.heeds_exists? state name).bind fun _ _ _ => .pure _

/-- A call makes no requests but those in its scope, whatever is answered. -/
theorem orderly_call {call : Call} {log : List Exchange}
    {result : Except Error Unit × DatabaseState} (h : (r.call state call).Yields log result) :
    Orderly (Makes r state call) [] log := by
  obtain ⟨outcome, hy, -⟩ := yields_steps h
  exact r.heeds_steps state call log outcome hy

end Reconciler

end PgConverge
