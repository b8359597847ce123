import PgConverge.Proofs.Json.Kind

/-!
# Reading JSON objects

The reader of an object keeps, for each field, the value under its name in what it has read so far.
Members that are no field change nothing.

## Main definitions

* `Json.valuesOf` — the values under a name.
* `Json.Draft.add`, `Json.Draft.Of` — reads a member, and what a draft holds of the members read.

## Main statements

* `Json.Draft.readMembers_ofMembers` — the members of an object are read one after another.
* `Json.Draft.Of.addAll_eq_ok_iff` — which members are read, and as what.
* `Json.Draft.mismatched_of_addAll` — members with legible values fail as mismatches only.
-/

namespace PgConverge.Json

/-! ## The values under a name -/

/-- The object with the given members. -/
def Document.ofMembers (ms : List (String × Document)) : Document :=
  .object (ms.map fun m => (some m.1, m.2))

namespace Document

section OfMembers

variable {ms : List (String × Document)} {m : String × Document} {t : Token}

theorem mem_tokens_ofMembers (h : t ∈ (ofMembers ms).tokens) :
    t = .beginObject ∨ t ∈ behindMember (ms.map fun m => (some m.1, m.2)) := by
  cases ms with
  | nil => simpa [ofMembers, tokens, behindMember] using h
  | cons first ms => exact (List.mem_cons.mp h).imp_right (List.mem_cons_of_mem _)

theorem head_mem_behindMember (h : m ∈ ms) :
    m.2.head ∈ behindMember (ms.map fun m => (some m.1, m.2)) := by
  induction ms with
  | nil => cases h
  | cons first ms ih =>
    simp only [List.map_cons, behindMember, List.mem_cons, List.mem_append]
    rcases List.mem_cons.mp h with rfl | h
    · obtain ⟨more, htokens⟩ := m.2.tokens_eq_head_cons
      simp [htokens]
    · simp [ih h]

theorem head_mem_tokens_ofMembers (h : m ∈ ms) : m.2.head ∈ (ofMembers ms).tokens := by
  have hmem := head_mem_behindMember h
  cases ms with
  | nil => cases h
  | cons first ms =>
    exact List.mem_cons_of_mem _ ((List.mem_cons.mp hmem).resolve_left m.2.head_ne.1)

theorem isWritten_ofMembers (hms : ∀ m ∈ ms, ∀ t ∈ m.2.tokens, t.IsWritten) :
    ∀ t ∈ (ofMembers ms).tokens, t.IsWritten := by
  have hbehind : ∀ t ∈ behindMember (ms.map fun m => (some m.1, m.2)), t.IsWritten := by
    induction ms with
    | nil => simp [behindMember, Token.IsWritten]
    | cons first ms ih =>
      obtain ⟨hfirst, hms⟩ := List.forall_mem_cons.mp hms
      simp only [List.map_cons, behindMember, List.forall_mem_cons, List.forall_mem_append]
      exact ⟨trivial, trivial, trivial, hfirst, ih hms⟩
  intro t ht
  rcases mem_tokens_ofMembers ht with rfl | ht
  · trivial
  · exact hbehind t ht

end OfMembers

end Document

/-- The values under a name, in their order. -/
def valuesOf (name : String) (ms : List (String × Document)) : List Document :=
  (ms.filter fun m => m.1 = name).map (·.2)

@[simp] theorem valuesOf_append (name : String) (ms more : List (String × Document)) :
    valuesOf name (ms ++ more) = valuesOf name ms ++ valuesOf name more := by
  rw [valuesOf, List.filter_append, List.map_append]
  rfl

theorem valuesOf_self (m : String × Document) : valuesOf m.1 [m] = [m.2] := by
  simp [valuesOf]

theorem valuesOf_of_ne {name : String} {m : String × Document} (h : name ≠ m.1) :
    valuesOf name [m] = [] := by
  simp [valuesOf, h.symm]

/-- A name that stands only once has the value it stands with. -/
theorem valuesOf_of_nodup {ms : List (String × Document)} (hnames : (ms.map (·.1)).Nodup)
    {m : String × Document} (hm : m ∈ ms) : valuesOf m.1 ms = [m.2] := by
  induction ms with
  | nil => cases hm
  | cons first ms ih =>
    obtain ⟨hfirst, hnames⟩ := List.nodup_cons.mp hnames
    rw [← List.singleton_append, valuesOf_append]
    rcases List.mem_cons.mp hm with rfl | hm
    · have hothers : valuesOf m.1 ms = [] := by
        rw [valuesOf, List.map_eq_nil_iff, List.filter_eq_nil_iff]
        intro other hother heq
        exact hfirst (List.mem_map.mpr ⟨other, hother, of_decide_eq_true heq⟩)
      rw [valuesOf_self, hothers, List.append_nil]
    · have hne : m.1 ≠ first.1 := fun heq => hfirst (List.mem_map.mpr ⟨m, hm, heq⟩)
      rw [valuesOf_of_ne hne, ih hnames hm, List.nil_append]

theorem mem_valuesOf {name : String} {d : Document} {ms : List (String × Document)} :
    d ∈ valuesOf name ms ↔ (name, d) ∈ ms := by
  simp [valuesOf]

/-! ## Drafts -/

namespace Draft

variable {fields : List Field}

/-- Reads a member of an object. -/
def add (draft : Draft fields) (m : String × Document) : Except Defect (Draft fields) :=
  match draft.isRead? m.1 with
  | some true => .error .mismatched
  | some false => draft.read m.1 m.2.head
  | none => .ok draft

section Cons

variable {field : Field} {value : Option field.kind.Carrier} {draft : Draft fields}
  {m : String × Document}

theorem add_cons_of_eq (h : field.name = m.1) :
    @add (field :: fields) (value, draft) m =
      match value with
      | some _ => .error .mismatched
      | none => (field.kind.read m.2.head).map fun v => (some v, draft) := by
  cases value with
  | some v => simp [add, isRead?, h]
  | none =>
    simp [add, isRead?, read, h]
    cases field.kind.read m.2.head <;> rfl

theorem add_cons_of_ne (h : field.name ≠ m.1) :
    @add (field :: fields) (value, draft) m = (draft.add m).map fun rest => (value, rest) := by
  simp only [add, isRead?, read, beq_eq_false_iff_ne.mpr h, Bool.false_eq_true, if_false]
  split
  · rfl
  · cases read m.1 m.2.head draft <;> rfl
  · rfl

end Cons

/-- Whether a draft holds, for each field, the value under its name. -/
def Of (ms : List (String × Document)) : {fields : List Field} → Draft fields → Prop
  | [], _ => True
  | field :: _, (value, draft) =>
    valuesOf field.name ms = (value.map field.kind.document).toList ∧ Of ms draft

theorem of_empty : (empty : Draft fields).Of [] := by
  induction fields with
  | nil => trivial
  | cons field fields ih => exact ⟨rfl, ih⟩

theorem Of.unique {draft other : Draft fields} {ms : List (String × Document)} (h : draft.Of ms)
    (hother : other.Of ms) : draft = other := by
  induction fields with
  | nil => rfl
  | cons field fields ih =>
    obtain ⟨value, draft⟩ := draft
    obtain ⟨value', other⟩ := other
    rw [Kind.toList_document_inj.mp (h.1.symm.trans hother.1), ih h.2 hother.2]

/-- What is read first makes a draft on its own. -/
theorem Of.exists_left {draft : Draft fields} {ms more : List (String × Document)}
    (h : draft.Of (ms ++ more)) : ∃ first : Draft fields, first.Of ms := by
  induction fields with
  | nil => exact ⟨(), trivial⟩
  | cons field fields ih =>
    obtain ⟨value, draft⟩ := draft
    obtain ⟨hvalues, hdraft⟩ := h
    obtain ⟨first, hfirst⟩ := ih hdraft
    rw [valuesOf_append] at hvalues
    cases hms : valuesOf field.name ms with
    | nil => exact ⟨(none, first), hms, hfirst⟩
    | cons d ds =>
      cases value with
      | none => simp [hms] at hvalues
      | some v =>
        obtain ⟨rfl, rfl, -⟩ : d = field.kind.document v ∧ ds = [] ∧ _ := by
          simpa [hms] using hvalues
        exact ⟨(some v, first), hms, hfirst⟩

/-- A member that is no field changes nothing. -/
theorem of_append_iff_of_not_mem {draft : Draft fields} {ms : List (String × Document)}
    {m : String × Document} (h : m.1 ∉ fields.map Field.name) :
    draft.Of (ms ++ [m]) ↔ draft.Of ms := by
  induction fields with
  | nil => rfl
  | cons field fields ih =>
    obtain ⟨value, draft⟩ := draft
    simp only [List.map_cons, List.mem_cons, not_or] at h
    simp only [Of, valuesOf_append, valuesOf_of_ne (Ne.symm h.1), List.append_nil, ih h.2]

/-- A member is read if it is no field, or the first under its name and of the kind of its field. -/
theorem Of.add_eq_ok_iff (hnames : (fields.map Field.name).Nodup) {draft next : Draft fields}
    {ms : List (String × Document)} {m : String × Document}
    (hm : ∀ n, m.2 = .number n → n.IsWritten) (h : draft.Of ms) :
    draft.add m = .ok next ↔ next.Of (ms ++ [m]) := by
  induction fields with
  | nil => exact ⟨fun _ => trivial, fun _ => rfl⟩
  | cons field fields ih =>
    obtain ⟨value, draft⟩ := draft
    obtain ⟨value', next⟩ := next
    obtain ⟨hvalues, hdraft⟩ := h
    obtain ⟨hname, hnames⟩ := List.nodup_cons.mp hnames
    by_cases hself : field.name = m.1
    · -- No other field has the name, so the rest of the draft stays.
      have hrest : next.Of (ms ++ [m]) ↔ draft = next := by
        rw [of_append_iff_of_not_mem (hself ▸ hname)]
        exact ⟨hdraft.unique, fun heq => heq ▸ hdraft⟩
      rw [add_cons_of_eq hself, Of, hrest, valuesOf_append, hvalues, hself, valuesOf_self]
      cases value with
      | some v => cases value' <;> simp
      | none =>
        cases value' with
        | none => cases hread : field.kind.read m.2.head <;> simp [Except.map]
        | some v =>
          have hiff := Kind.read_head_eq_ok_iff (v := v) hm
          cases hread : field.kind.read m.2.head <;> simp_all [Except.map]
    · rw [add_cons_of_ne hself, Of, ← ih hnames hdraft, valuesOf_append, valuesOf_of_ne hself,
        List.append_nil, hvalues, Kind.toList_document_inj]
      cases draft.add m <;> simp [Except.map]

/-- Members are read if those that are fields are each given once and of the kind of the field. -/
theorem Of.addAll_eq_ok_iff (hnames : (fields.map Field.name).Nodup) {draft next : Draft fields}
    {seen ms : List (String × Document)}
    (hms : ∀ m ∈ ms, ∀ n, m.2 = .number n → n.IsWritten) (h : draft.Of seen) :
    ms.foldlM add draft = .ok next ↔ next.Of (seen ++ ms) := by
  induction ms generalizing draft seen with
  | nil =>
    rw [List.foldlM_nil, List.append_nil]
    exact ⟨fun heq => Except.ok.inj heq ▸ h, fun hnext => congrArg Except.ok (h.unique hnext)⟩
  | cons m ms ih =>
    obtain ⟨hm, hms⟩ := List.forall_mem_cons.mp hms
    rw [List.foldlM_cons, List.append_cons]
    constructor
    · intro hread
      cases hadd : draft.add m with
      | error defect => rw [hadd] at hread; cases hread
      | ok first =>
        rw [hadd] at hread
        exact (ih hms ((h.add_eq_ok_iff hnames hm).mp hadd)).mp hread
    · intro hnext
      obtain ⟨first, hfirst⟩ := hnext.exists_left
      rw [(h.add_eq_ok_iff hnames hm).mpr hfirst]
      exact (ih hms hfirst).mpr hnext

/-! ## Reading an object -/

/-- What a field is read from has one token only. -/
theorem tokens_of_read_eq_ok {draft next : Draft fields} {m : String × Document} {isRead : Bool}
    (hm : ∀ n, m.2 = .number n → n.IsWritten) (hname : draft.isRead? m.1 = some isRead)
    (h : draft.read m.1 m.2.head = .ok next) : m.2.tokens = [m.2.head] := by
  induction fields with
  | nil => cases hname
  | cons field fields ih =>
    obtain ⟨value, draft⟩ := draft
    simp only [isRead?, read] at hname h
    split at h
    · cases hread : field.kind.read m.2.head with
      | error defect => rw [hread] at h; cases h
      | ok v =>
        rw [(Kind.read_head_eq_ok_iff hm).mp hread, Kind.tokens_document, Kind.head_document]
    · rename_i hne
      rw [if_neg hne] at hname
      cases hread : read m.1 m.2.head draft with
      | error defect => rw [hread] at h; cases h
      | ok rest => exact ih hname hread

/-- Behind its name a member is read, or skipped if it is no field. -/
theorem readMember_eq (draft : Draft fields) {m : String × Document}
    (hm : ∀ n, m.2 = .number n → n.IsWritten) (rest : List Token) :
    readMembers.readMember m.1 draft (.colon :: (m.2.tokens ++ rest)) =
      (draft.add m).bind fun draft => readMembers .next draft rest := by
  unfold readMembers.readMember add
  cases hname : draft.isRead? m.1 with
  | none => exact m.2.readMembers_skip (.inl rfl) [] draft rest
  | some isRead =>
    cases isRead with
    | true => rfl
    | false =>
      obtain ⟨more, htokens⟩ := m.2.tokens_eq_head_cons
      cases hread : draft.read m.1 m.2.head with
      | error defect =>
        rw [htokens]
        simp [hread, Except.bind]
      | ok next =>
        rw [tokens_of_read_eq_ok hm hname hread]
        simp [hread, Except.bind]

theorem readMembers_behindMember (draft : Draft fields) {ms : List (String × Document)}
    (hms : ∀ m ∈ ms, ∀ n, m.2 = .number n → n.IsWritten) (rest : List Token) :
    readMembers .next draft
        (Document.behindMember (ms.map fun m => (some m.1, m.2)) ++ rest) =
      (ms.foldlM add draft).map (·, rest) := by
  induction ms generalizing draft with
  | nil => rfl
  | cons m ms ih =>
    obtain ⟨hm, hms⟩ := List.forall_mem_cons.mp hms
    have hread := readMember_eq draft hm
      (Document.behindMember (ms.map fun m => (some m.1, m.2)) ++ rest)
    rw [List.foldlM_cons, List.map_cons, Document.behindMember, List.cons_append, List.cons_append,
      List.cons_append, List.append_assoc, Token.ofText, readMembers, hread]
    cases draft.add m with
    | error defect => rfl
    | ok next => exact ih next hms

/-- The members of an object are read one after another. -/
theorem readMembers_ofMembers (draft : Draft fields) {ms : List (String × Document)}
    (hms : ∀ m ∈ ms, ∀ n, m.2 = .number n → n.IsWritten) {rest : List Token}
    (hrest : (Document.ofMembers ms).tokens = .beginObject :: rest) :
    readMembers .first draft rest = (ms.foldlM add draft).map (·, []) := by
  cases ms with
  | nil =>
    cases hrest
    rfl
  | cons m ms =>
    obtain ⟨hm, hms⟩ := List.forall_mem_cons.mp hms
    have hread := readMember_eq draft hm (Document.behindMember (ms.map fun m => (some m.1, m.2)))
    cases hrest
    rw [List.foldlM_cons, Token.ofText, readMembers, hread]
    cases draft.add m with
    | error defect => rfl
    | ok next =>
      have hbehind := readMembers_behindMember next hms []
      rw [List.append_nil] at hbehind
      exact hbehind

/-- What is wrong with legible values is a mismatch. -/
theorem mismatched_of_add {draft : Draft fields} {m : String × Document} {defect : Defect}
    (hm : m.1 ∈ fields.map Field.name → m.2.Legible) (h : draft.add m = .error defect) :
    defect = .mismatched := by
  induction fields with
  | nil => cases h
  | cons field fields ih =>
    obtain ⟨value, draft⟩ := draft
    by_cases hself : field.name = m.1
    · rw [add_cons_of_eq hself] at h
      cases value with
      | some v => exact (Except.error.inj h).symm
      | none =>
        cases hread : field.kind.read m.2.head with
        | ok v => rw [hread] at h; cases h
        | error other =>
          rw [hread] at h
          cases h
          exact Kind.mismatched_of_read_head (hm (hself ▸ List.mem_cons_self)) hread
    · rw [add_cons_of_ne hself] at h
      cases hadd : draft.add m with
      | ok next => rw [hadd] at h; cases h
      | error other =>
        rw [hadd] at h
        cases h
        exact ih (fun hmem => hm (List.mem_cons_of_mem _ hmem)) hadd

theorem mismatched_of_addAll {draft : Draft fields} {ms : List (String × Document)}
    {defect : Defect} (hms : ∀ m ∈ ms, m.1 ∈ fields.map Field.name → m.2.Legible)
    (h : ms.foldlM add draft = .error defect) : defect = .mismatched := by
  induction ms generalizing draft with
  | nil => cases h
  | cons m ms ih =>
    obtain ⟨hm, hms⟩ := List.forall_mem_cons.mp hms
    rw [List.foldlM_cons] at h
    cases hadd : draft.add m with
    | error other =>
      rw [hadd] at h
      cases h
      exact mismatched_of_add hm hadd
    | ok next =>
      rw [hadd] at h
      exact ih hms h

theorem complete_cons_eq_ok_iff {field : Field} {value : Option field.kind.Carrier}
    {draft : Draft fields} {v : field.kind.Carrier} {r : Record fields} :
    @complete (field :: fields) (value, draft) = .ok (v, r) ↔
      (value <|> field.absent) = some v ∧ draft.complete = .ok r := by
  rw [complete]
  cases value <|> field.absent with
  | none => simp
  | some w => cases draft.complete <;> simp [bind, Except.bind, pure, Except.pure]

theorem mismatched_of_complete {draft : Draft fields} {defect : Defect}
    (h : draft.complete = .error defect) : defect = .mismatched := by
  induction fields with
  | nil => cases h
  | cons field fields ih =>
    obtain ⟨value, draft⟩ := draft
    rw [complete] at h
    split at h
    · cases hcomplete : draft.complete with
      | ok r => rw [hcomplete] at h; cases h
      | error other =>
        rw [hcomplete] at h
        cases h
        exact ih hcomplete
    · exact (Except.error.inj h).symm

end Draft

end PgConverge.Json
