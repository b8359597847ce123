import PgConverge.Proofs.Json.Draft

/-!
# Records as JSON values

Which record an object stands for depends on the values under each name and not on the order of
its members or on the members that are no field.

## Main definitions

* `Json.Record.form`, `Json.absences` — the members of a record, and those that may be left out.
* `Json.Holds`, `Json.Flawed` — the objects that stand for a form, and those that stand for none.
* `Json.RoundTrips` — a reader that gives back what a form was made of.

## Main statements

* `Json.Record.parse_object_iff` — the objects that are read as a record.
* `Json.Record.parse_array` — the values of a record in their order are read as the record.
* `Json.Record.roundTrips` — records are read back, and flawed objects are mismatches.
-/

namespace PgConverge.Json

/-- Whether each member of a form is given once, or is a default and not given. Their order and
other members do not matter. -/
def Holds (form defaults ms : List (String × Document)) : Prop :=
  ∀ m ∈ form, valuesOf m.1 ms = [m.2] ∨ valuesOf m.1 ms = [] ∧ m ∈ defaults

section RoundTrips

variable {α : Type} (parse : String → Except Defect α) (form : α → List (String × Document))
  (names : List String) (defaults : List (String × Document))

/-- What can be wrong with the members of an object that is to stand for a form. -/
inductive Flawed (ms : List (String × Document)) : Prop where
  /-- A member without a default is not given. -/
  | missing {name : String} : name ∈ names → name ∉ defaults.map (·.1) → valuesOf name ms = [] →
      Flawed ms
  /-- A member is given more than once. -/
  | repeated {name : String} : name ∈ names → 1 < (valuesOf name ms).length → Flawed ms
  /-- A member has a value that it has in no form: one of another type, or out of range. -/
  | mistyped {m : String × Document} : m ∈ ms → m.1 ∈ names → (∀ a, m ∉ form a) → Flawed ms

/-- Whether a reader gives back what a form was made of. Objects are given by their members in any
spelling and with any blanks between the tokens. -/
structure RoundTrips : Prop where
  written : ∀ a, parse (Document.ofMembers (form a)).written = .ok a
  object : ∀ {s ms}, tokens s = (Document.ofMembers ms).tokens →
    ∀ a, parse s = .ok a ↔ Holds (form a) defaults ms
  array : ∀ {s a}, tokens s = (Document.array ((form a).map (·.2))).tokens → parse s = .ok a
  flawed : ∀ {s ms}, tokens s = (Document.ofMembers ms).tokens →
    (∀ m ∈ ms, m.1 ∈ names → m.2.Legible) → Flawed form names defaults ms →
    parse s = .error .mismatched

variable {parse form names defaults}

/-- Nothing stands for a form if something is wrong with it. -/
theorem Flawed.not_holds {ms : List (String × Document)} (h : Flawed form names defaults ms)
    (hnames : ∀ a, (form a).map (·.1) = names) (a : α) : ¬Holds (form a) defaults ms := by
  intro hholds
  have hform {name : String} (hname : name ∈ names) : ∃ m ∈ form a, m.1 = name := by
    rw [← hnames a] at hname
    exact List.mem_map.mp hname
  cases h with
  | missing hname hdefault hnone =>
    obtain ⟨m, hm, rfl⟩ := hform hname
    rcases hholds m hm with hone | ⟨-, hmem⟩
    · rw [hnone] at hone
      cases hone
    · exact hdefault (List.mem_map_of_mem hmem)
  | repeated hname hmore =>
    obtain ⟨m, hm, rfl⟩ := hform hname
    rcases hholds m hm with hvalues | ⟨hvalues, -⟩ <;> rw [hvalues] at hmore <;> simp at hmore
  | @mistyped given hgiven hname hnone =>
    obtain ⟨m, hm, hself⟩ := hform hname
    have hmem : given.2 ∈ valuesOf m.1 ms := mem_valuesOf.mpr (hself ▸ hgiven)
    rcases hholds m hm with hvalues | ⟨hvalues, -⟩ <;> rw [hvalues] at hmem
    · have heq : given = m := Prod.ext hself.symm (List.mem_singleton.mp hmem)
      exact hnone a (heq ▸ hm)
    · cases hmem

/-- A reader of another presentation of the same values. -/
theorem RoundTrips.map {β : Type} (h : RoundTrips parse form names defaults) {f : α → β} {g : β → α}
    (hfg : ∀ b, f (g b) = b) (hgf : ∀ a, g (f a) = a) :
    RoundTrips (fun s => (parse s).map f) (fun b => form (g b)) names defaults where
  written b := by
    rw [h.written]
    exact congrArg Except.ok (hfg b)
  object hs b := by
    rw [← h.object hs]
    cases hparse : parse _ with
    | error defect => simp [Except.map]
    | ok a =>
      simp only [Except.map, Except.ok.injEq]
      exact ⟨fun heq => heq ▸ (hgf a).symm, fun heq => heq ▸ hfg b⟩
  array {s b} hs := by
    rw [h.array hs]
    exact congrArg Except.ok (hfg b)
  flawed hs hlegible hflawed := by
    rw [h.flawed hs hlegible]
    · rfl
    · cases hflawed with
      | missing hname hdefault hnone => exact .missing hname hdefault hnone
      | repeated hname hmore => exact .repeated hname hmore
      | mistyped hgiven hname hnone =>
        refine .mistyped hgiven hname fun a => ?_
        rw [← hgf a]
        exact hnone (f a)

end RoundTrips

/-- The members that may be left out, as their values stand for what is not given. -/
def absences (fields : List Field) : List (String × Document) :=
  fields.filterMap fun field => field.absent.map fun v => (field.name, field.kind.document v)

namespace Record

variable {fields : List Field}

/-- The members of a record with their values. -/
def form : {fields : List Field} → Record fields → List (String × Document)
  | [], _ => []
  | field :: _, (v, rest) => (field.name, field.kind.document v) :: form rest

theorem name_mem_of_mem_form {r : Record fields} {m : String × Document} (h : m ∈ r.form) :
    m.1 ∈ fields.map Field.name := by
  induction fields with
  | nil => cases h
  | cons field fields ih =>
    obtain ⟨v, r⟩ := r
    rcases List.mem_cons.mp h with rfl | h
    · exact List.mem_cons_self
    · exact List.mem_cons_of_mem _ (ih h)

theorem name_mem_of_mem_absences {m : String × Document} (h : m ∈ absences fields) :
    m.1 ∈ fields.map Field.name := by
  obtain ⟨field, hfield, habsent⟩ := List.mem_filterMap.mp h
  obtain ⟨v, -, rfl⟩ := Option.map_eq_some_iff.mp habsent
  exact List.mem_map_of_mem hfield

theorem mem_absences_cons {field : Field} {m : String × Document} :
    m ∈ absences (field :: fields) ↔
      (∃ v, field.absent = some v ∧ (field.name, field.kind.document v) = m) ∨
        m ∈ absences fields := by
  simp [absences]

/-- A draft is completed to the records that the members it was read from stand for. -/
theorem exists_complete_iff (hnames : (fields.map Field.name).Nodup) {r : Record fields}
    {ms : List (String × Document)} :
    (∃ draft : Draft fields, draft.Of ms ∧ draft.complete = .ok r) ↔
      Holds r.form (absences fields) ms := by
  induction fields with
  | nil =>
    constructor
    · intro _ m hm
      cases hm
    · exact fun _ => ⟨(), trivial, rfl⟩
  | cons field fields ih =>
    obtain ⟨v, r⟩ := r
    obtain ⟨hname, hnames⟩ := List.nodup_cons.mp hnames
    have hfirst : (field.name, field.kind.document v) ∈ absences (field :: fields) ↔
        field.absent = some v := by
      rw [mem_absences_cons]
      constructor
      · rintro (⟨w, hw, heq⟩ | hmem)
        · rw [hw, field.kind.document_injective (Prod.mk.inj heq).2]
        · exact absurd (name_mem_of_mem_absences hmem) hname
      · exact fun h => .inl ⟨v, h, rfl⟩
    have hothers : ∀ m ∈ r.form, (m ∈ absences (field :: fields) ↔ m ∈ absences fields) := by
      intro m hm
      rw [mem_absences_cons, or_iff_right]
      rintro ⟨w, -, rfl⟩
      exact hname (name_mem_of_mem_form hm)
    have hrest : Holds r.form (absences (field :: fields)) ms ↔
        Holds r.form (absences fields) ms :=
      forall₂_congr fun m hm => by rw [hothers m hm]
    have hcons : Holds (@form (field :: fields) (v, r)) (absences (field :: fields)) ms ↔
        (valuesOf field.name ms = [field.kind.document v] ∨
          valuesOf field.name ms = [] ∧ field.absent = some v) ∧
        ∃ draft : Draft fields, draft.Of ms ∧ draft.complete = .ok r := by
      rw [ih hnames, ← hrest, ← hfirst]
      exact List.forall_mem_cons
    rw [hcons]
    constructor
    · rintro ⟨⟨value, draft⟩, ⟨hvalues, hdraft⟩, hcomplete⟩
      obtain ⟨hvalue, hcomplete⟩ := Draft.complete_cons_eq_ok_iff.mp hcomplete
      refine ⟨?_, draft, hdraft, hcomplete⟩
      cases value with
      | some w =>
        cases hvalue
        exact .inl hvalues
      | none => exact .inr ⟨hvalues, hvalue⟩
    · rintro ⟨hvalues, draft, hdraft, hcomplete⟩
      rcases hvalues with hvalues | ⟨hvalues, habsent⟩
      · exact ⟨(some v, draft), ⟨hvalues, hdraft⟩,
          Draft.complete_cons_eq_ok_iff.mpr ⟨rfl, hcomplete⟩⟩
      · exact ⟨(none, draft), ⟨hvalues, hdraft⟩,
          Draft.complete_cons_eq_ok_iff.mpr ⟨habsent, hcomplete⟩⟩

theorem isWritten_of_tokens_ofMembers {s : String} {ms : List (String × Document)}
    (hs : tokens s = (Document.ofMembers ms).tokens) :
    ∀ m ∈ ms, ∀ n, m.2 = .number n → n.IsWritten := by
  intro m hm n hn
  have hmem := Document.head_mem_tokens_ofMembers hm
  rw [← hs, hn] at hmem
  exact isWritten_of_mem_tokens hmem

/-- What a text that holds an object is read as. -/
theorem parse_ofMembers {s : String} {ms : List (String × Document)}
    (hs : tokens s = (Document.ofMembers ms).tokens) :
    parse fields s = (ms.foldlM Draft.add Draft.empty).bind Draft.complete := by
  have hms := isWritten_of_tokens_ofMembers hs
  obtain ⟨rest, hrest⟩ := (Document.ofMembers ms).tokens_eq_head_cons
  rw [parse, hs, hrest, Document.ofMembers, Document.head, take,
    Draft.readMembers_ofMembers Draft.empty hms hrest]
  cases ms.foldlM Draft.add (Draft.empty : Draft fields) with
  | error defect => rfl
  | ok draft =>
    cases hcomplete : draft.complete with
    | error defect => simp [hcomplete, Except.map, Except.bind, bind]
    | ok r => simp [hcomplete, Except.map, Except.bind, bind, pure, Except.pure]

/-- An object is read as the record that its members stand for. -/
theorem parse_object_iff (hnames : (fields.map Field.name).Nodup) {s : String}
    {ms : List (String × Document)} (hs : tokens s = (Document.ofMembers ms).tokens)
    {r : Record fields} : parse fields s = .ok r ↔ Holds r.form (absences fields) ms := by
  have hread (draft : Draft fields) : ms.foldlM Draft.add Draft.empty = .ok draft ↔ draft.Of ms :=
    Draft.of_empty.addAll_eq_ok_iff hnames (isWritten_of_tokens_ofMembers hs)
  rw [parse_ofMembers hs, ← exists_complete_iff hnames]
  simp only [← hread]
  cases ms.foldlM Draft.add (Draft.empty : Draft fields) <;> simp [Except.bind]

/-- Any other object with legible values is a mismatch. -/
theorem parse_object_mismatched (hnames : (fields.map Field.name).Nodup) {s : String}
    {ms : List (String × Document)} (hs : tokens s = (Document.ofMembers ms).tokens)
    (hms : ∀ m ∈ ms, m.1 ∈ fields.map Field.name → m.2.Legible)
    (h : ∀ r : Record fields, ¬ Holds r.form (absences fields) ms) :
    parse fields s = .error .mismatched := by
  cases hparse : parse fields s with
  | ok r => exact absurd ((parse_object_iff hnames hs).mp hparse) (h r)
  | error defect =>
    rw [parse_ofMembers hs] at hparse
    cases hread : ms.foldlM Draft.add (Draft.empty : Draft fields) with
    | error other =>
      rw [hread] at hparse
      cases hparse
      rw [Draft.mismatched_of_addAll hms hread]
    | ok draft =>
      rw [hread] at hparse
      rw [Draft.mismatched_of_complete hparse]

theorem readElements_form (r : Record fields) :
    readElements fields false (Document.behindElement (r.form.map (·.2))) = .ok (r, []) := by
  induction fields with
  | nil => rfl
  | cons field fields ih =>
    obtain ⟨v, r⟩ := r
    simp [form, Document.behindElement, readElements, nextElement?, ih, bind, Except.bind, pure,
      Except.pure]

/-- The values of a record in their order are read as the record. -/
theorem parse_array {s : String} {r : Record fields}
    (hs : tokens s = (Document.array (r.form.map (·.2))).tokens) : parse fields s = .ok r := by
  cases fields with
  | nil =>
    rw [parse, hs]
    rfl
  | cons field fields =>
    obtain ⟨v, r⟩ := r
    rw [parse, hs]
    have hne := field.kind.token_ne_endArray v
    simp [form, Document.tokens, take, readElements, nextElement?, hne, readElements_form, bind,
      Except.bind, pure, Except.pure]

theorem isWritten_form (r : Record fields) : ∀ m ∈ r.form, ∀ t ∈ m.2.tokens, t.IsWritten := by
  induction fields with
  | nil => exact List.forall_mem_nil _
  | cons field fields ih =>
    obtain ⟨v, r⟩ := r
    refine List.forall_mem_cons.mpr ⟨?_, ih r⟩
    simpa using field.kind.isWritten_token v

theorem form_map_name (r : Record fields) : r.form.map (·.1) = fields.map Field.name := by
  induction fields with
  | nil => rfl
  | cons field fields ih =>
    obtain ⟨v, r⟩ := r
    exact congrArg (field.name :: ·) (ih r)

theorem holds_form (hnames : (fields.map Field.name).Nodup) (r : Record fields)
    (defaults : List (String × Document)) : Holds r.form defaults r.form :=
  fun _ hm => .inl (valuesOf_of_nodup (r.form_map_name ▸ hnames) hm)

/-- Records are read back, and flawed objects are mismatches. -/
theorem roundTrips (hnames : (fields.map Field.name).Nodup) :
    RoundTrips (parse fields) form (fields.map Field.name) (absences fields) where
  written r := by
    have htokens := Document.tokens_written _ (Document.isWritten_ofMembers r.isWritten_form)
    exact (parse_object_iff hnames htokens).mpr (holds_form hnames r _)
  object hs _ := parse_object_iff hnames hs
  array hs := parse_array hs
  flawed hs hlegible hflawed :=
    parse_object_mismatched hnames hs hlegible (hflawed.not_holds form_map_name)

end Record

end PgConverge.Json
