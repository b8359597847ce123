import PgConverge.Proofs.Contention.Cluster

/-!
# Parties that elevate themselves at the same time

Any number of parties, each with its own connection to one cluster, enter elevations, do their work
and leave, again and again. Each runs the program of an elevation one request at a time, and their
requests come in any order.

## Main definitions

* `Manner` — in which database the parties take their locks and how they leave.
* `Stage` — where a party is, with the program that it still has to run.
* `System`, `System.Step`, `System.Reachable` — all parties with the cluster, and how they go on.
* `HoldsLock` — a log in which the lock on a role was answered on a session that has not ended.
-/

namespace PgConverge

/-- Requests that may be part of the work in an elevation. -/
def Elevation.Permits (elevation : Elevation) (request : Request) : Prop :=
  request.isWork = true ∧ (request.session = mainSession ∨ request.session = elevation.session)

/-- How parties take their locks and how they leave an elevation. -/
structure Manner where
  database : Option String
  leave : Elevation → Except Error Unit → Action Unit

/-- An elevation in a manner, from its start to its end. -/
def Manner.elevated (manner : Manner) (principal group : String) (work : Elevation → Action Unit) :
    Action Unit := do
  let elevation ← Elevation.enter principal group manner.database
  manner.leave elevation (← (work elevation).attempt)

/-- Where a party is. -/
inductive Stage where
  | idle
  /-- It is entering an elevation to a group, for the sake of some work. -/
  | entering (group : String) (work : Elevation → Action Unit)
      (rest : Program (Except Error Elevation))
  /-- It is at work. -/
  | acting (group : String) (elevation : Elevation) (rest : Program (Except Error Unit))
  | leaving (rest : Program (Except Error Unit))

namespace Stage

/-- How a party goes on from one program to the next. -/
inductive Turns (manner : Manner) (principal : String) : Stage → Stage → Prop where
  | enter (group : String) (work : Elevation → Action Unit) :
      (∀ elevation, (work elevation).Sends elevation.Permits) →
      Turns manner principal idle
        (entering group work (Elevation.enter principal group manner.database).attempt)
  | giveUp (group : String) (work : Elevation → Action Unit) (e : Error) :
      Turns manner principal (entering group work (.done (.error e))) idle
  | act (group : String) (work : Elevation → Action Unit) (elevation : Elevation) :
      Turns manner principal (entering group work (.done (.ok elevation)))
        (acting group elevation (work elevation).attempt)
  | leave (group : String) (elevation : Elevation) (outcome : Except Error Unit) :
      Turns manner principal (acting group elevation (.done outcome))
        (leaving (manner.leave elevation outcome).attempt)
  | finish (outcome : Except Error Unit) : Turns manner principal (leaving (.done outcome)) idle

/-- How a party goes on with the answer to its next request. -/
inductive Exchanges : Stage → Exchange → Stage → Prop where
  | entering {request : Request}
      {next : Except Error request.Answer → Program (Except Error Elevation)} (group : String)
      (work : Elevation → Action Unit) (outcome : Except Error request.Answer) :
      Exchanges (entering group work (.ask request next)) ⟨request, outcome⟩
        (entering group work (next outcome))
  | acting {request : Request} {next : Except Error request.Answer → Program (Except Error Unit)}
      (group : String) (elevation : Elevation) (outcome : Except Error request.Answer) :
      Exchanges (acting group elevation (.ask request next)) ⟨request, outcome⟩
        (acting group elevation (next outcome))
  | leaving {request : Request} {next : Except Error request.Answer → Program (Except Error Unit)}
      (outcome : Except Error request.Answer) :
      Exchanges (leaving (.ask request next)) ⟨request, outcome⟩ (leaving (next outcome))

end Stage

/-- The parties `ι` with the cluster that they share. -/
structure System (ι : Type) where
  cluster : Cluster ι
  stage : ι → Stage
  /-- What each party has exchanged so far. -/
  log : ι → List Exchange

namespace System

variable {ι : Type} [DecidableEq ι]

/-- One party goes on. -/
inductive Step (manner : Manner) (principal : ι → String) (σ : System ι) : System ι → Prop where
  | turn (i : ι) {next : Stage} : (σ.stage i).Turns manner (principal i) next →
      Step manner principal σ { σ with stage := Function.update σ.stage i next }
  | exchange (i : ι) {x : Exchange} {next : Stage} {c : Cluster ι} :
      (σ.stage i).Exchanges x next → σ.cluster.Answers i x c →
      Step manner principal σ
        { cluster := c
          stage := Function.update σ.stage i next
          log := Function.update σ.log i (σ.log i ++ [x]) }

/-- Where the parties can get from a cluster with given memberships and no locks. -/
inductive Reachable (manner : Manner) (principal : ι → String)
    (initial : Finset (String × String)) : System ι → Prop where
  | start (c : Cluster ι) : c.members = initial → (∀ key, c.holder key = none) →
      Reachable manner principal initial ⟨c, fun _ => .idle, fun _ => []⟩
  | step {σ τ : System ι} : Reachable manner principal initial σ → Step manner principal σ τ →
      Reachable manner principal initial τ

end System

/-- Whether a log is between the answer to the lock query for a role and the end of its session. -/
def HoldsLock (principal : String) (log : List Exchange) : Prop :=
  ∃ before session row after,
    log = before ++ ⟨.query session (.lockRole principal), .ok (some row)⟩ :: after ∧
      ∀ x ∈ after, x.request.ends session = false

end PgConverge
