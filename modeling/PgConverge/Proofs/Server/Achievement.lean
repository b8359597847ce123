import PgConverge.Proofs.Reconciler.Requests
import PgConverge.Proofs.Server.Holdings

/-!
# What an action achieves

An action that ends with a value has come through a log, and the log has led the server from what it
held before to what it holds now. An elevation adds a membership for the time of the work and takes
it back, so that the work alone says what is achieved.

## Main definitions

* `Action.Achieves` — what is the case whenever an action ends with a value.
* `StoredDatabase.observed` — what is observed of a database that a server keeps.

## Main statements

* `Action.Achieves.elevated` — work under an elevation achieves what it does without one.
* `Action.Achieves.observe` — a database is observed as the server keeps it.
-/

namespace PgConverge

open Holdings (Leads Answers)

/-! ## Rows -/

theorem Row.get?_eq (row : Row) (i : Nat) : row.get? i = row.values[i]? := by
  rw [get?, values, List.getElem?_map]

theorem Row.text_of_values {row : Row} {i : Nat} {s : String}
    (h : row.values[i]? = some (.text s)) : row.text i = .ok s := by
  rw [text, read, get?_eq, h]
  rfl

theorem Row.boolean_of_values {row : Row} {i : Nat} {b : Bool}
    (h : row.values[i]? = some (.bool b)) : row.boolean i = .ok b := by
  rw [boolean, read, get?_eq, h]
  rfl

theorem Row.integer_of_values {row : Row} {i : Nat} {n : Int32}
    (h : row.values[i]? = some (.int32 n)) : row.integer i = .ok n.toInt64 := by
  rw [integer, read, get?_eq, h]
  rfl

/-- A number of 32 bits is a connection limit. -/
theorem connectionLimitOf_toInt64 (n : Int32) : connectionLimitOf n.toInt64 = .ok n := by
  have hmin : Int32.minValue.toInt64 ≤ n.toInt64 := by
    rw [Int64.le_iff_toInt_le]
    have := n.le_toInt
    simpa using this
  have hmax : n.toInt64 ≤ Int32.maxValue.toInt64 := by
    rw [Int64.le_iff_toInt_le]
    have := n.toInt_lt
    simp
    omega
  rw [connectionLimitOf, decide_eq_true hmin, decide_eq_true hmax, Bool.true_and, if_pos rfl,
    Int32.toInt32_toInt64]

/-- What is observed of a database: the template that was requested, or the one for databases that
request none, and the flags only where the server has them. -/
def StoredDatabase.observed (d : StoredDatabase) (name : String) (spec : DatabaseSpec)
    (version : ServerVersion) : ObservedDatabase where
  name := name
  owner := d.owner
  template := (spec.template.filter (· ≠ "")).getD "template0"
  encoding := d.encoding
  lcCollate := d.lcCollate
  lcCtype := d.lcCtype
  tablespace := d.tablespace
  connectionLimit := d.connectionLimit
  allowConnections := if version.atLeast 9 5 then some d.allowConnections else none
  isTemplate := if version.atLeast 9 5 then some d.isTemplate else none

namespace RoleGrant

variable {defaultTablespace : String} {w w' : Holdings} {log : List Exchange}

/-- Whether memberships are those before and the one that is granted. -/
def Adds (grant : RoleGrant) (before after : Finset (String × String)) : Prop :=
  if grant.isNew then
    (grant.member, grant.group) ∉ before ∧ after = insert (grant.member, grant.group) before
  else after = before

theorem Made.leads {member group : String} {grant : RoleGrant}
    (h : Made member group log (.ok grant)) (hl : Leads defaultTablespace w log w') :
    w'.databases = w.databases ∧ grant.Adds w.members w'.members := by
  cases h with
  | self =>
    cases hl
    exact ⟨rfl, rfl⟩
  | present row =>
    obtain ⟨rfl, -⟩ := hl.answers.told_eq
    exact ⟨rfl, rfl⟩
  | granted affected hself =>
    cases hl with
    | cons hasked hl =>
      obtain ⟨rfl, hrow⟩ := hasked.told_eq
      obtain ⟨chosen, hexecute⟩ := hl.answers.execute?_eq trivial
      cases hexecute
      refine ⟨rfl, ?_, rfl⟩
      simpa [Holdings.values?, Query.asksHoldings] using hrow

theorem Revoked.leads {grant : RoleGrant} {before : Finset (String × String)}
    (h : grant.Revoked log (.ok ())) (hl : Leads defaultTablespace w log w')
    (hadds : grant.Adds before w.members) : w' = { w with members := before } := by
  cases h with
  | kept hnew =>
    cases hl
    rw [Adds, hnew, if_neg Bool.false_ne_true] at hadds
    rw [← hadds]
  | revoked affected hnew =>
    rw [Adds, hnew, if_pos rfl] at hadds
    obtain ⟨hbefore, hafter⟩ := hadds
    obtain ⟨chosen, hexecute⟩ := hl.answers.execute?_eq trivial
    cases hexecute
    rw [hafter, Finset.erase_insert hbefore]

end RoleGrant

theorem RoleLock.Acquired.leads {defaultTablespace : String} {w w' : Holdings}
    {log : List Exchange} {role : String} {database : Option String} {lock : RoleLock}
    (h : Acquired role database log (.ok lock)) (hl : Leads defaultTablespace w log w') :
    w' = w := by
  cases h with
  | locked session row =>
    cases hl with
    | cons hbegun hl =>
      obtain rfl := hbegun.eq_of_not_executes rfl
      exact hl.answers.eq_of_not_executes rfl

namespace Action

variable {defaultTablespace : String} {w w' : Holdings} {α β : Type}

/-- Whether something is the case of the value and the holdings whenever an action on a server with
the given holdings ends with a value. -/
def Achieves (defaultTablespace : String) (w : Holdings) (action : Action α)
    (post : α → Holdings → Prop) : Prop :=
  ∀ log w' a, action.Yields log (.ok a) → Leads defaultTablespace w log w' → post a w'

namespace Achieves

variable {post mid : α → Holdings → Prop}

theorem mono {action : Action α} (h : Achieves defaultTablespace w action mid)
    (hpost : ∀ a w', mid a w' → post a w') : Achieves defaultTablespace w action post :=
  fun log w' a hy hl => hpost a w' (h log w' a hy hl)

theorem pure {a : α} (h : post a w) :
    Achieves defaultTablespace w (Pure.pure a : Action α) post := by
  rintro log w' _ ⟨rfl, ha⟩ hl
  cases ha
  cases hl
  exact h

theorem throw (e : Error) :
    Achieves defaultTablespace w (MonadExcept.throw e : Action α) post := by
  rintro log w' a ⟨-, ha⟩
  cases ha

theorem bind {action : Action α} {f : α → Action β} {post : β → Holdings → Prop}
    (h : Achieves defaultTablespace w action mid)
    (hf : ∀ a w', mid a w' → Achieves defaultTablespace w' (f a) post) :
    Achieves defaultTablespace w (action >>= f) post := by
  intro log w' b hy hl
  rcases (yields_bind action f _).mp hy with ⟨e, -, he⟩ | ⟨first, rest, a, rfl, ha, hr⟩
  · cases he
  · obtain ⟨v, hfirst, hrest⟩ := hl.split
    exact hf a v (h first v a ha hfirst) rest w' b hr hrest

theorem liftExcept_bind {outcome : Except Error α} {f : α → Action β} {post : β → Holdings → Prop}
    (h : ∀ a, outcome = .ok a → Achieves defaultTablespace w (f a) post) :
    Achieves defaultTablespace w ((liftM outcome : Action α) >>= f) post := by
  intro log w' b hy hl
  rcases (yields_bind _ f _).mp hy with ⟨e, -, he⟩ | ⟨_, rest, a, rfl, ⟨rfl, ha⟩, hr⟩
  · cases he
  · exact h a ha.symm rest w' b hr hl

theorem onlyIf {condition : Bool} {action : Action Unit} {post : Unit → Holdings → Prop}
    (htrue : condition = true → Achieves defaultTablespace w action post)
    (hfalse : condition = false → post () w) :
    Achieves defaultTablespace w (Action.onlyIf condition action) post := by
  cases condition with
  | false => exact pure (hfalse rfl)
  | true => exact htrue rfl

theorem inContext {action : Action α} (context : String)
    (h : Achieves defaultTablespace w action post) :
    Achieves defaultTablespace w (action.inContext context) post := by
  intro log w' a hy hl
  obtain ⟨e | _, ho, ha⟩ := (yields_inContext context action _).mp hy
  · cases ha
  · cases ha
    exact h log w' a ho hl

/-! ### Statements -/

theorem execute {session : SessionId} {statement : Statement} {post : UInt64 → Holdings → Prop}
    (hread : statement.IsReadable)
    (h : ∀ affected chosen w', w.execute? defaultTablespace chosen statement = some w' →
      post affected w') :
    Achieves defaultTablespace w (Session.execute session statement) post := by
  intro log w' affected hy hl
  obtain rfl := (Session.yields_execute session statement _).mp hy
  obtain ⟨chosen, hexecute⟩ := hl.answers.execute?_eq hread
  exact h affected chosen w' hexecute

theorem run {statement : Statement} {post : Unit → Holdings → Prop} (context : String)
    (hread : statement.IsReadable)
    (h : ∀ chosen w', w.execute? defaultTablespace chosen statement = some w' → post () w') :
    Achieves defaultTablespace w (Reconciler.run context statement) post :=
  (inContext context (execute hread fun _ chosen w' hexecute => h chosen w' hexecute)).bind
    fun _ _ hpost => pure hpost

/-! ### Questions -/

theorem lookup {session : SessionId} {question : Query} {context : String}
    {decode : Row → Except Error α} {post : Option α → Holdings → Prop}
    (hasks : question.asksHoldings = true)
    (h : ∀ row found, row.map Row.values = w.values? question →
      Catalog.decoded context decode (.ok row) = .ok found → post found w) :
    Achieves defaultTablespace w (Catalog.lookup session question context decode) post := by
  intro log w' found hy hl
  obtain ⟨e | row, rfl, hdecoded⟩ := Catalog.yields_lookup.mp hy
  · cases hdecoded
  · obtain ⟨rfl, hrow⟩ := hl.answers.told_eq
    exact h row found (hrow hasks) hdecoded.symm

/-- A question about a database is answered with what the server keeps of it. -/
theorem lookup_database {session : SessionId} {question : Query} {context name : String}
    {decode : Row → Except Error α} {columns : StoredDatabase → List Value}
    {attributes : StoredDatabase → α} (hasks : question.asksHoldings = true)
    (hvalues : w.values? question = (w.databases name).map columns)
    (hdecode : ∀ d row, row.values = columns d → decode row = .ok (attributes d)) :
    Achieves defaultTablespace w (Catalog.lookup session question context decode)
      fun found w' => w' = w ∧ found = (w.databases name).map attributes := by
  refine lookup hasks fun row found hrow hfound => ⟨rfl, ?_⟩
  rw [hvalues] at hrow
  cases hd : w.databases name with
  | none =>
    obtain rfl : row = none := by simpa [hd] using hrow
    cases hfound
    rfl
  | some d =>
    obtain ⟨row, rfl, hcolumns⟩ : ∃ r, row = some r ∧ r.values = columns d := by
      simpa [hd] using hrow
    rw [Catalog.decoded, hdecode d row hcolumns] at hfound
    cases hfound
    rfl

theorem databaseOwner (name : String) :
    Achieves defaultTablespace w (Catalog.databaseOwner mainSession name)
      fun found w' => w' = w ∧ found = (w.databases name).map fun d => (name, d.owner) := by
  refine lookup_database rfl rfl fun d row hrow => ?_
  have hname : row.text 0 = .ok name := Row.text_of_values (by rw [hrow]; rfl)
  have howner : row.text 1 = .ok d.owner := Row.text_of_values (by rw [hrow]; rfl)
  rw [Row.databaseOwner, hname, howner]
  rfl

theorem databaseSettings (name : String) :
    Achieves defaultTablespace w (Catalog.databaseSettings mainSession name)
      fun found w' => w' = w ∧ found = (w.databases name).map fun d =>
        ⟨d.encoding, d.lcCollate, d.lcCtype, d.tablespace, d.connectionLimit⟩ := by
  refine lookup_database rfl rfl fun d row hrow => ?_
  have hlimit : row.integer 4 = .ok d.connectionLimit.toInt64 :=
    Row.integer_of_values (by rw [hrow]; rfl)
  have hencoding : row.text 0 = .ok d.encoding := Row.text_of_values (by rw [hrow]; rfl)
  have hcollate : row.text 1 = .ok d.lcCollate := Row.text_of_values (by rw [hrow]; rfl)
  have hctype : row.text 2 = .ok d.lcCtype := Row.text_of_values (by rw [hrow]; rfl)
  have htablespace : row.text 3 = .ok d.tablespace := Row.text_of_values (by rw [hrow]; rfl)
  rw [Row.databaseSettings, hlimit, hencoding, hcollate, hctype, htablespace]
  show (connectionLimitOf d.connectionLimit.toInt64).bind _ = _
  rw [connectionLimitOf_toInt64]
  rfl

theorem databaseAllowConnections (name : String) :
    Achieves defaultTablespace w (Catalog.databaseAllowConnections mainSession name)
      fun found w' => w' = w ∧ found = (w.databases name).map StoredDatabase.allowConnections :=
  lookup_database rfl rfl fun _ _ hrow => Row.boolean_of_values (by rw [hrow]; rfl)

theorem databaseIsTemplate (name : String) :
    Achieves defaultTablespace w (Catalog.databaseIsTemplate mainSession name)
      fun found w' => w' = w ∧ found = (w.databases name).map StoredDatabase.isTemplate :=
  lookup_database rfl rfl fun _ _ hrow => Row.boolean_of_values (by rw [hrow]; rfl)

theorem observeFlag (r : Reconciler) (feature : Feature) {ask : Action (Option Bool)}
    {name : String} {flag : StoredDatabase → Bool}
    (h : Achieves defaultTablespace w ask fun found w' =>
      w' = w ∧ found = (w.databases name).map flag) {d : StoredDatabase}
    (hd : w.databases name = some d) :
    Achieves defaultTablespace w (r.observeFlag feature ask) fun found w' =>
      w' = w ∧ found = some (if r.version.supports feature then some (flag d) else none) := by
  unfold Reconciler.observeFlag
  split
  · refine h.bind ?_
    rintro _ _ ⟨rfl, rfl⟩
    exact pure ⟨rfl, by rw [hd]; rfl⟩
  · exact pure ⟨rfl, rfl⟩

/-- A database is observed as the server keeps it. -/
theorem observe (r : Reconciler) (name : String) (spec : DatabaseSpec) :
    Achieves defaultTablespace w (r.observe name spec) fun found w' =>
      w' = w ∧ found = (w.databases name).map (·.observed name spec r.version) := by
  refine (databaseOwner name).bind ?_
  rintro _ v ⟨rfl, rfl⟩
  cases hd : v.databases name with
  | none => exact pure ⟨rfl, rfl⟩
  | some d =>
    refine (databaseSettings name).bind ?_
    rintro _ _ ⟨rfl, rfl⟩
    simp only [hd, Option.map_some]
    refine (observeFlag r .allowConnections (databaseAllowConnections name) hd).bind ?_
    rintro _ _ ⟨rfl, rfl⟩
    refine (observeFlag r .isTemplate (databaseIsTemplate name) hd).bind ?_
    rintro _ _ ⟨rfl, rfl⟩
    refine pure ⟨rfl, ?_⟩
    rw [Reconciler.reportedTemplate_eq, r.version.supports_eq_atLeast,
      r.version.supports_eq_atLeast]
    rfl

/-- A database that is there is read back as the server keeps it. -/
theorem read (r : Reconciler) {state : DatabaseState} {name : String} (spec : DatabaseSpec)
    {d : StoredDatabase} (hid : state.id = some name) (hd : w.databases name = some d) :
    Achieves defaultTablespace w (r.read state spec) fun result w' =>
      w' = w ∧ result = .ofObserved (d.observed name spec r.version) := by
  unfold Reconciler.read
  rw [hid]
  refine (observe r name spec).bind ?_
  rintro _ _ ⟨rfl, rfl⟩
  rw [hd]
  exact pure ⟨rfl, rfl⟩

/-! ### Elevations -/

/-- After an attempt the action goes on with the value, or with the error if it can do so. -/
theorem attempt_bind {action : Action α} {f : Except Error α → Action β}
    {post : β → Holdings → Prop} (h : Achieves defaultTablespace w action mid)
    (hok : ∀ a w', mid a w' → Achieves defaultTablespace w' (f (.ok a)) post)
    (herror : ∀ e w', Achieves defaultTablespace w' (f (.error e)) post) :
    Achieves defaultTablespace w
      ((liftM action.attempt : Action (Except Error α)) >>= f) post := by
  intro log w' b hy hl
  obtain ⟨first, rest, e | a, rfl, ha, hr⟩ := (yields_attempt_bind _ _ _).mp hy
  · obtain ⟨v, -, hrest⟩ := hl.split
    exact herror e v rest w' b hr hrest
  · obtain ⟨v, hfirst, hrest⟩ := hl.split
    exact hok a v (h first v a ha hfirst) rest w' b hr hrest

/-- Entering an elevation adds what is granted to the memberships. -/
theorem enter (principal group : String) (database : Option String) :
    Achieves defaultTablespace w (Elevation.enter principal group database) fun elevation w' =>
      w'.databases = w.databases ∧ elevation.grant.Adds w.members w'.members := by
  intro log w' elevation hy hl
  cases Elevation.entered_of_yields hy with
  | made hlocked hmade =>
    obtain ⟨v, hlocking, hmaking⟩ := hl.split
    obtain rfl := hlocked.leads hlocking
    exact hmade.leads hmaking

/-- Leaving an elevation takes what was granted from the memberships. -/
theorem exit {elevation : Elevation} {members : Finset (String × String)}
    (h : elevation.grant.Adds members w.members) (outcome : Except Error α) :
    Achieves defaultTablespace w (elevation.exit outcome) fun a w' =>
      outcome = .ok a ∧ w' = { w with members } := by
  intro log w' a hy hl
  obtain ⟨revoking, revoked, closed, hr, rfl, ha⟩ := Elevation.left_of_yields hy
  obtain ⟨v, hrevoking, hclosing⟩ := hl.split
  obtain rfl := hclosing.answers.eq_of_not_executes rfl
  cases outcome with
  | error e => simp at ha
  | ok b =>
    cases revoked with
    | error e => simp [withCleanup] at ha
    | ok _ =>
      cases closed with
      | error e => simp [withCleanup] at ha
      | ok _ =>
        cases ha
        exact ⟨rfl, hr.leads hrevoking h⟩

/-- Work that fails is not turned into a success. -/
theorem exit_error (elevation : Elevation) (e : Error) :
    Achieves defaultTablespace w (elevation.exit (.error e)) post := by
  intro log w' a hy hl
  obtain ⟨revoking, revoked, closed, -, -, ha⟩ := Elevation.left_of_yields hy
  simp at ha

theorem exitCommitting {elevation : Elevation} {members : Finset (String × String)}
    (h : elevation.grant.Adds members w.members) (outcome : Except Error α) :
    Achieves defaultTablespace w (elevation.exitCommitting outcome) fun a w' =>
      outcome = .ok a ∧ w' = { w with members } := by
  cases outcome with
  | error e => exact exit_error elevation e
  | ok b =>
    intro log w' a hy hl
    obtain ⟨committed, revoking, revoked, hr, rfl, ha⟩ := Elevation.committed_of_yields hy
    cases hl with
    | cons hcommitted hrevoking =>
      obtain rfl := hcommitted.eq_of_not_executes rfl
      cases committed with
      | error e => cases revoked <;> cases ha
      | ok _ =>
        cases revoked with
        | error e => cases ha
        | ok _ =>
          cases ha
          exact ⟨rfl, hr.leads hrevoking h⟩

/-- Work under an elevation achieves what it does with any memberships, and the memberships are
those before. -/
theorem elevated {r : Reconciler} {group : String} {action : Action Unit}
    {P : (String → Option StoredDatabase) → Prop}
    (h : ∀ members, Achieves defaultTablespace ⟨w.databases, members⟩ action fun _ w' =>
      w'.members = members ∧ P w'.databases) :
    Achieves defaultTablespace w (r.elevated group action) fun _ w' =>
      w'.members = w.members ∧ P w'.databases := by
  refine (enter r.principal group none).bind ?_
  rintro elevation ⟨databases, members⟩ ⟨rfl, hadds⟩
  refine attempt_bind (h members) ?_ fun e _ => exit_error elevation e
  rintro _ w' ⟨rfl, hP⟩
  have hadds' : elevation.grant.Adds w.members w'.members := hadds
  refine (exit hadds' _).mono ?_
  rintro _ _ ⟨-, rfl⟩
  exact ⟨rfl, hP⟩

theorem asOwner {r : Reconciler} {spec : DatabaseSpec} {action : Action Unit}
    {P : (String → Option StoredDatabase) → Prop}
    (h : ∀ members, Achieves defaultTablespace ⟨w.databases, members⟩ action fun _ w' =>
      w'.members = members ∧ P w'.databases) :
    Achieves defaultTablespace w (r.asOwner spec action) fun _ w' =>
      w'.members = w.members ∧ P w'.databases := by
  unfold Reconciler.asOwner
  split
  · exact elevated h
  · exact h w.members

end Achieves

end Action

end PgConverge
