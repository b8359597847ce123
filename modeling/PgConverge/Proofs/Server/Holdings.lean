import Mathlib.Data.Finset.Basic
import PgConverge.Connection.Run
import PgConverge.Proofs.Sql.Command

/-!
# What a server holds

A server keeps databases by name, and who is a member of which role. A statement that succeeds
changes them as its text says, a question about them is answered truthfully, and nobody else changes
them. A server may refuse any request, and then nothing changes.

## Main definitions

* `StoredDatabase`, `Holdings` — a database as a server keeps it, and all that it keeps.
* `Holdings.execute?` — what a statement makes of the holdings.
* `Holdings.Answers`, `Holdings.Leads` — one exchange with a server, and a log.
* `Server.Keeps` — a server that does so.
* `Holdings.server` — the server that refuses only what it cannot do.

## Main statements

* `Server.Keeps.leads` — what a run makes of the holdings.
* `Holdings.keeps_server` — there is such a server.
-/

namespace PgConverge

/-- The value of a setting; what was chosen, if none is given. -/
def Setting.getD (setting : Setting) (chosen : String) : String :=
  match setting with
  | unset | serverDefault => chosen
  | value text => text

theorem Setting.getD_of_eq_value {setting : Setting} {text : String} (h : setting = .value text)
    (chosen : String) : setting.getD chosen = text := by
  rw [h]
  rfl

/-- A database as a server keeps it. -/
structure StoredDatabase where
  owner : String
  encoding : String
  lcCollate : String
  lcCtype : String
  tablespace : String
  connectionLimit : Int32
  allowConnections : Bool
  isTemplate : Bool
deriving DecidableEq, Repr

namespace StoredDatabase

/-- The database that a definition asks for, with what the server chooses where it asks for
nothing. -/
def ofDefinition (definition : DatabaseDefinition) (chosen : StoredDatabase) : StoredDatabase where
  owner := definition.owner
  encoding := definition.encoding.getD chosen.encoding
  lcCollate := definition.lcCollate.getD chosen.lcCollate
  lcCtype := definition.lcCtype.getD chosen.lcCtype
  tablespace := definition.tablespace.getD chosen.tablespace
  connectionLimit := definition.connectionLimit
  allowConnections := definition.allowConnections.getD chosen.allowConnections
  isTemplate := definition.isTemplate.getD chosen.isTemplate

/-- A database that belongs to the new owner if it belonged to the old one. -/
def handOver (oldOwner newOwner : String) (d : StoredDatabase) : StoredDatabase :=
  if d.owner = oldOwner then { d with owner := newOwner } else d

end StoredDatabase

/-- What a server keeps. -/
structure Holdings where
  databases : String → Option StoredDatabase
  /-- The pairs of a member and the role that it is a member of. -/
  members : Finset (String × String)

/-- Whether a question is about databases and memberships. -/
def Query.asksHoldings : Query → Bool
  | lockRole _ | currentUser | serverVersion | verbatim .. => false
  | _ => true

/-- Whether a request is to run a statement. -/
def Request.executes : Request → Bool
  | execute .. => true
  | _ => false

namespace Holdings

/-- Keeps a database under a name. -/
def put (w : Holdings) (name : String) (d : StoredDatabase) : Holdings :=
  { w with databases := Function.update w.databases name (some d) }

@[simp] theorem put_put (w : Holdings) (name : String) (d d' : StoredDatabase) :
    (w.put name d).put name d' = w.put name d' := by
  simp [put]

@[simp] theorem databases_put (w : Holdings) (name : String) (d : StoredDatabase) :
    (w.put name d).databases name = some d := Function.update_self ..

theorem databases_put_of_ne (w : Holdings) {name other : String} (d : StoredDatabase)
    (h : other ≠ name) : (w.put name d).databases other = w.databases other :=
  Function.update_of_ne h _ _

theorem put_eq_self {w : Holdings} {name : String} {d : StoredDatabase}
    (h : w.databases name = some d) : w.put name d = w := by
  simp [put, ← h]

/-- Changes the database of a name, if there is one. -/
def alter? (w : Holdings) (name : String) (f : StoredDatabase → StoredDatabase) :
    Option Holdings :=
  (w.databases name).map fun d => w.put name (f d)

/-- Gives a database a name that is free. -/
def rename? (w : Holdings) (name newName : String) : Option Holdings :=
  match w.databases name, w.databases newName with
  | some d, none => some
    { w with databases := Function.update (Function.update w.databases name none) newName (some d) }
  | _, _ => none

/-- Hands over every database of the old owner. -/
def handOver (w : Holdings) (oldOwner newOwner : String) : Holdings :=
  { w with databases := fun name => (w.databases name).map (.handOver oldOwner newOwner) }

theorem handOver_put (w : Holdings) (oldOwner newOwner name : String) (d : StoredDatabase) :
    (w.put name d).handOver oldOwner newOwner =
      (w.handOver oldOwner newOwner).put name (d.handOver oldOwner newOwner) := by
  refine congrArg (Holdings.mk · w.members) (funext fun other => ?_)
  by_cases hname : other = name
  · subst hname
    simp [put]
  · simp [put, handOver, Function.update_of_ne hname]

/-- What a statement makes of the holdings; nothing if it cannot be carried out. -/
def execute? (defaultTablespace : String) (chosen : StoredDatabase) (w : Holdings) :
    Statement → Option Holdings
  | .createDatabase definition => some (w.put definition.name (.ofDefinition definition chosen))
  | .renameDatabase name newName => w.rename? name newName
  | .setOwner name owner => w.alter? name fun d => { d with owner }
  | .reassignOwned oldOwner newOwner => some (w.handOver oldOwner newOwner)
  | .setTablespace name tablespace => w.alter? name fun d => { d with tablespace }
  | .resetTablespace name => w.alter? name fun d => { d with tablespace := defaultTablespace }
  | .setConnectionLimit name limit => w.alter? name fun d => { d with connectionLimit := limit }
  | .setAllowConnections name allow => w.alter? name fun d => { d with allowConnections := allow }
  | .setIsTemplate name isTemplate => w.alter? name fun d => { d with isTemplate }
  | .grantRole group member => some { w with members := insert (member, group) w.members }
  | .revokeRole group member => some { w with members := w.members.erase (member, group) }
  | .dropDatabase .. | .terminateSessions .. | .verbatim .. => none

/-- The values in the row that answers a question, if there is one. -/
def values? (w : Holdings) : Query → Option (List Value)
  | .databaseOwner name => (w.databases name).map fun d => [.text name, .text d.owner]
  | .databaseSettings name => (w.databases name).map fun d =>
    [.text d.encoding, .text d.lcCollate, .text d.lcCtype, .text d.tablespace,
      .int32 d.connectionLimit]
  | .databaseAllowConnections name => (w.databases name).map fun d => [.bool d.allowConnections]
  | .databaseIsTemplate name => (w.databases name).map fun d => [.bool d.isTemplate]
  | .databaseExists name => (w.databases name).map fun _ => [.text name]
  | .roleMembership member group => if (member, group) ∈ w.members then some [.int32 1] else none
  | .lockRole _ => some [.null]
  | .currentUser | .serverVersion | .verbatim .. => none

variable {defaultTablespace : String} {w w' w'' : Holdings}

/-- The answers that a server can give, with what it holds afterwards. A statement does what its
text says, if it can be read, and whatever it likes if it cannot. -/
inductive Answers (defaultTablespace : String) (w : Holdings) : Exchange → Holdings → Prop where
  | refused (request : Request) (e : Error) : Answers defaultTablespace w ⟨request, .error e⟩ w
  | applied (session : SessionId) {statement command : Statement} (affected : UInt64)
      (chosen : StoredDatabase) {after : Holdings} :
      Statement.ofSql statement.sql = some command →
      w.execute? defaultTablespace chosen command = some after →
      Answers defaultTablespace w ⟨.execute session statement, .ok affected⟩ after
  | unread (session : SessionId) {statement : Statement} (affected : UInt64) (after : Holdings) :
      Statement.ofSql statement.sql = none →
      Answers defaultTablespace w ⟨.execute session statement, .ok affected⟩ after
  | told (session : SessionId) {question : Query} {row : Option Row} :
      (question.asksHoldings = true → row.map Row.values = w.values? question) →
      Answers defaultTablespace w ⟨.query session question, .ok row⟩ w
  | begun (database : Option String) (session : SessionId) :
      Answers defaultTablespace w ⟨.begin database, .ok session⟩ w
  | begunReadOnly (session : SessionId) :
      Answers defaultTablespace w ⟨.beginReadOnly, .ok session⟩ w
  | committed (session : SessionId) : Answers defaultTablespace w ⟨.commit session, .ok ()⟩ w
  | rolledBack (session : SessionId) : Answers defaultTablespace w ⟨.rollback session, .ok ()⟩ w
  | discarded (session : SessionId) : Answers defaultTablespace w ⟨.discard session, .ok ()⟩ w

namespace Answers

theorem execute?_eq {session : SessionId} {statement : Statement} {affected : UInt64}
    (h : Answers defaultTablespace w ⟨.execute session statement, .ok affected⟩ w')
    (hread : statement.IsReadable) :
    ∃ chosen, w.execute? defaultTablespace chosen statement = some w' := by
  have hsql := Statement.ofSql_sql hread
  cases h with
  | applied _ _ chosen hcommand hexecute =>
    obtain rfl := Option.some.inj (hsql.symm.trans hcommand)
    exact ⟨chosen, hexecute⟩
  | unread _ _ _ hnone => cases hsql.symm.trans hnone

theorem told_eq {session : SessionId} {question : Query} {row : Option Row}
    (h : Answers defaultTablespace w ⟨.query session question, .ok row⟩ w') :
    w' = w ∧ (question.asksHoldings = true → row.map Row.values = w.values? question) := by
  cases h with
  | told _ hrow => exact ⟨rfl, hrow⟩

/-- Only statements change anything. -/
theorem eq_of_not_executes {x : Exchange} (h : Answers defaultTablespace w x w')
    (hx : x.request.executes = false) : w' = w := by
  cases h with
  | applied => cases hx
  | unread => cases hx
  | _ => rfl

end Answers

/-- What a server holds after a log. -/
inductive Leads (defaultTablespace : String) : Holdings → List Exchange → Holdings → Prop where
  | nil (w : Holdings) : Leads defaultTablespace w [] w
  | cons {w next last : Holdings} {x : Exchange} {log : List Exchange} :
      Answers defaultTablespace w x next → Leads defaultTablespace next log last →
      Leads defaultTablespace w (x :: log) last

theorem Leads.split {before after : List Exchange}
    (h : Leads defaultTablespace w (before ++ after) w'') :
    ∃ w', Leads defaultTablespace w before w' ∧ Leads defaultTablespace w' after w'' := by
  induction before generalizing w with
  | nil => exact ⟨w, .nil w, h⟩
  | cons x before ih =>
    cases h with
    | cons hx hrest =>
      obtain ⟨w', hbefore, hafter⟩ := ih hrest
      exact ⟨w', .cons hx hbefore, hafter⟩

theorem Leads.answers {x : Exchange} (h : Leads defaultTablespace w [x] w') :
    Answers defaultTablespace w x w' := by
  cases h with
  | cons hx hrest =>
    cases hrest
    exact hx

end Holdings

/-! ## Servers -/

/-- Whether a server answers according to the holdings that its states show. -/
def Server.Keeps {σ : Type} (server : Server σ) (defaultTablespace : String)
    (view : σ → Holdings) : Prop :=
  ∀ s request fresh,
    Holdings.Answers defaultTablespace (view s)
      ⟨request, (server.respond s request).1.map (request.answer fresh)⟩
      (view (server.respond s request).2)

theorem Server.Keeps.answers {σ : Type} {server : Server σ} {defaultTablespace : String}
    {view : σ → Holdings} (h : server.Keeps defaultTablespace view) (link : Link σ)
    (request : Request) :
    Holdings.Answers defaultTablespace (view link.state) ⟨request, (link.send server request).1⟩
      (view (link.send server request).2.state) := by
  have hanswer := h link.state request (link.opened + 1)
  unfold Link.send
  split
  · rename_i reply state hrespond
    rw [hrespond] at hanswer
    exact hanswer
  · rename_i e state hrespond
    rw [hrespond] at hanswer
    exact hanswer

/-- The log of a run leads from what the server holds before it to what it holds after it. -/
theorem Server.Keeps.leads {σ α : Type} {server : Server σ} {defaultTablespace : String}
    {view : σ → Holdings} (h : server.Keeps defaultTablespace view) (p : Program α)
    (link : Link σ) :
    Holdings.Leads defaultTablespace (view link.state) (p.run server link).exchanges
      (view (p.run server link).link.state) := by
  induction p generalizing link with
  | done a => exact .nil _
  | ask request next ih => exact .cons (h.answers link request) (ih _ _)

namespace Holdings

theorem values_ofValues (values : List Value) : (Row.ofValues values).values = values :=
  List.ext_getElem? fun i => by simp [Row.ofValues, Row.values, Function.comp_def]

/-- The server that does what it is told where it can, and chooses the same values for every
database that it creates. -/
def server (defaultTablespace : String) (chosen : StoredDatabase) : Server Holdings where
  respond w
    | .execute _ statement =>
      match w.execute? defaultTablespace chosen statement with
      | some w' => (.ok 0, w')
      | none => (.error (.rejected "not possible" (some statement.sql)), w)
    | .query _ question => (.ok ((w.values? question).map Row.ofValues), w)
    | .begin _ | .beginReadOnly | .commit _ | .rollback _ | .discard _ => (.ok (), w)

theorem isReadable_of_execute?_eq {defaultTablespace : String} {chosen : StoredDatabase}
    {w w' : Holdings} {statement : Statement}
    (h : w.execute? defaultTablespace chosen statement = some w') : statement.IsReadable := by
  cases statement with
  | dropDatabase | terminateSessions | verbatim => cases h
  | _ => trivial

theorem keeps_server (defaultTablespace : String) (chosen : StoredDatabase) :
    (server defaultTablespace chosen).Keeps defaultTablespace id := by
  intro w request fresh
  cases request with
  | execute session statement =>
    cases hexecute : w.execute? defaultTablespace chosen statement with
    | none =>
      simp only [server, hexecute]
      exact .refused _ _
    | some w' =>
      simp only [server, hexecute]
      have hread : statement.IsReadable := isReadable_of_execute?_eq hexecute
      exact .applied session 0 chosen (Statement.ofSql_sql hread) hexecute
  | query session question =>
    refine .told session fun _ => (Option.map_map _ _ _).trans ?_
    simp [Function.comp_def, values_ofValues]
  | «begin» database => exact .begun database fresh
  | beginReadOnly => exact .begunReadOnly fresh
  | commit session => exact .committed session
  | rollback session => exact .rolledBack session
  | discard session => exact .discarded session

end Holdings

end PgConverge
