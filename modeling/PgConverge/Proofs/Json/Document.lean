import PgConverge.Json.Record
import PgConverge.Proofs.Json.Token

/-!
# JSON values

A value is written as tokens, and these are read back from what they are written as. A member that
is no field of a record is skipped whole, however deep its value is.

## Main definitions

* `Json.Document` — a JSON value.
* `Json.Document.tokens`, `Json.Document.written` — the tokens of a value, and what it is written
  as.

## Main statements

* `Json.Document.tokens_written` — a value is read back from what it is written as.
* `Json.Document.readMembers_skip` — a value is skipped.
-/

namespace PgConverge.Json

/-- A JSON value. A text that is missing is a quoted text with half of a surrogate pair in it. -/
inductive Document where
  | null
  | bool (b : Bool)
  | number (n : Number)
  | text (s : Option String)
  | array (elements : List Document)
  | object (members : List (Option String × Document))

/-- The token for a quoted text. -/
def Token.ofText : Option String → Token
  | some s => .text s
  | none => .brokenText

namespace Document

mutual

/-- The tokens of a value. -/
def tokens : Document → List Token
  | null => [.null]
  | bool b => [.bool b]
  | number n => [.number n]
  | text s => [.ofText s]
  | array [] => [.beginArray, .endArray]
  | array (d :: elements) => .beginArray :: (d.tokens ++ behindElement elements)
  | object [] => [.beginObject, .endObject]
  | object ((key, d) :: members) =>
    .beginObject :: .ofText key :: .colon :: (d.tokens ++ behindMember members)

/-- The tokens behind an element of an array with the elements that are left. -/
def behindElement : List Document → List Token
  | [] => [.endArray]
  | d :: elements => .comma :: (d.tokens ++ behindElement elements)

/-- The tokens behind a member of an object with the members that are left. -/
def behindMember : List (Option String × Document) → List Token
  | [] => [.endObject]
  | (key, d) :: members => .comma :: .ofText key :: .colon :: (d.tokens ++ behindMember members)

end

/-! ## Writing -/

/-- What a value is written as. -/
def written (d : Document) : String := String.ofList (spell d.tokens)

theorem isWritten_ofText (s : Option String) : (Token.ofText s).IsWritten := by
  cases s <;> trivial

theorem ends_ofText (s : Option String) (rest : List Char) : (Token.ofText s).Ends rest := by
  cases s <;> trivial

/-- What stands behind an element or a member does not go on with a number in front of it. -/
theorem ends_behindElement (elements : List Document) (rest : List Char) :
    Number.Ends (spell (behindElement elements) ++ rest) := by
  intro c hc
  cases elements <;> cases hc <;> rfl

theorem ends_behindMember (members : List (Option String × Document)) (rest : List Char) :
    Number.Ends (spell (behindMember members) ++ rest) := by
  intro c hc
  rcases members with _ | ⟨⟨key, d⟩, members⟩ <;> cases hc <;> rfl

/-- A member is read back if its value is. -/
theorem readsAs_member (key : Option String) {s : List Char} {ts : List Token} (h : ReadsAs s ts) :
    ReadsAs ((Token.ofText key).spelling ++ (Token.colon.spelling ++ s))
      (.ofText key :: .colon :: ts) :=
  (h.cons (t := .colon) trivial trivial).cons (isWritten_ofText key) (ends_ofText key _)

mutual

theorem readsAs_tokens : (d : Document) → (∀ t ∈ d.tokens, t.IsWritten) → ∀ {rest ts},
    Number.Ends rest → ReadsAs rest ts → ReadsAs (spell d.tokens ++ rest) (d.tokens ++ ts)
  | null, _, _, _, _, h => by
    simpa [tokens] using h.cons (t := .null) trivial trivial
  | bool b, _, _, _, _, h => by
    simpa [tokens] using h.cons (t := .bool b) trivial trivial
  | number n, hd, _, _, hrest, h => by
    simpa [tokens] using h.cons (hd (.number n) (List.mem_singleton_self _)) hrest
  | text s, _, _, _, _, h => by
    simpa [tokens] using h.cons (isWritten_ofText s) (ends_ofText s _)
  | array [], _, _, _, _, h => by
    have hend := h.cons (t := .endArray) trivial trivial
    simpa [tokens] using hend.cons (t := .beginArray) trivial trivial
  | array (d :: elements), hd, rest, ts, _, h => by
    simp only [tokens, List.forall_mem_cons, List.forall_mem_append] at hd
    obtain ⟨-, hd, helements⟩ := hd
    have hbehind := readsAs_behindElement elements helements h
    have hfirst := readsAs_tokens d hd (ends_behindElement elements rest) hbehind
    simpa [tokens, List.append_assoc] using hfirst.cons (t := .beginArray) trivial trivial
  | object [], _, _, _, _, h => by
    have hend := h.cons (t := .endObject) trivial trivial
    simpa [tokens] using hend.cons (t := .beginObject) trivial trivial
  | object ((key, d) :: members), hd, rest, ts, _, h => by
    simp only [tokens, List.forall_mem_cons, List.forall_mem_append] at hd
    obtain ⟨-, -, -, hd, hmembers⟩ := hd
    have hbehind := readsAs_behindMember members hmembers h
    have hfirst := readsAs_tokens d hd (ends_behindMember members rest) hbehind
    simpa [tokens, List.append_assoc] using
      (readsAs_member key hfirst).cons (t := .beginObject) trivial trivial

theorem readsAs_behindElement : (elements : List Document) →
    (∀ t ∈ behindElement elements, t.IsWritten) → ∀ {rest ts}, ReadsAs rest ts →
    ReadsAs (spell (behindElement elements) ++ rest) (behindElement elements ++ ts)
  | [], _, _, _, h => by
    simpa [behindElement] using h.cons (t := .endArray) trivial trivial
  | d :: elements, hd, rest, ts, h => by
    simp only [behindElement, List.forall_mem_cons, List.forall_mem_append] at hd
    obtain ⟨-, hd, helements⟩ := hd
    have hbehind := readsAs_behindElement elements helements h
    have hfirst := readsAs_tokens d hd (ends_behindElement elements rest) hbehind
    simpa [behindElement, List.append_assoc] using hfirst.cons (t := .comma) trivial trivial

theorem readsAs_behindMember : (members : List (Option String × Document)) →
    (∀ t ∈ behindMember members, t.IsWritten) → ∀ {rest ts}, ReadsAs rest ts →
    ReadsAs (spell (behindMember members) ++ rest) (behindMember members ++ ts)
  | [], _, _, _, h => by
    simpa [behindMember] using h.cons (t := .endObject) trivial trivial
  | (key, d) :: members, hd, rest, ts, h => by
    simp only [behindMember, List.forall_mem_cons, List.forall_mem_append] at hd
    obtain ⟨-, -, -, hd, hmembers⟩ := hd
    have hbehind := readsAs_behindMember members hmembers h
    have hfirst := readsAs_tokens d hd (ends_behindMember members rest) hbehind
    simpa [behindMember, List.append_assoc] using
      (readsAs_member key hfirst).cons (t := .comma) trivial trivial

end

/-- A value is read back from what it is written as. -/
theorem tokens_written (d : Document) (hd : ∀ t ∈ d.tokens, t.IsWritten) :
    Json.tokens d.written = d.tokens := by
  have hread : ReadsAs (spell d.tokens ++ []) (d.tokens ++ []) :=
    readsAs_tokens d hd (by intro c hc; cases hc) ReadsAs.nil
  rw [List.append_nil, List.append_nil] at hread
  exact hread.tokens_ofList

/-! ## Skipping -/

end Document

/-- Where the reader of an object stands behind a step over a skipped value. -/
def Place.behind : Option Skip → Place
  | some skip => .inside skip
  | none => .next

namespace Document

section Skipping

variable {fields : List Field}

mutual

/-- A value is skipped, as the only thing left or inside other brackets. -/
theorem readMembers_skip : (d : Document) → ∀ {expected : Expected},
    expected = .value ∨ expected = .valueOrEnd →
    ∀ (frames : List Frame) (draft : Draft fields) (rest : List Token),
    readMembers (.inside ⟨frames, expected⟩) draft (d.tokens ++ rest) =
      readMembers (.behind (Skip.afterValue frames)) draft rest
  | null, _, h, frames, draft, rest => by
    rcases h with rfl | rfl <;> cases frames <;> rfl
  | bool b, _, h, frames, draft, rest => by
    rcases h with rfl | rfl <;> cases frames <;> rfl
  | number n, _, h, frames, draft, rest => by
    rcases h with rfl | rfl <;> cases frames <;> rfl
  | text s, _, h, frames, draft, rest => by
    rcases h with rfl | rfl <;> cases frames <;> cases s <;> rfl
  | array [], _, h, frames, draft, rest => by
    rcases h with rfl | rfl <;> cases frames <;> rfl
  | array (d :: elements), _, h, frames, draft, rest => by
    have hfirst := readMembers_skip d (.inr rfl) (.array :: frames) draft
      (behindElement elements ++ rest)
    have hbehind := readMembers_skipElements elements frames draft rest
    rw [tokens, List.cons_append, List.append_assoc, ← hbehind]
    rcases h with rfl | rfl <;> exact hfirst
  | object [], _, h, frames, draft, rest => by
    rcases h with rfl | rfl <;> cases frames <;> rfl
  | object ((key, d) :: members), _, h, frames, draft, rest => by
    have hfirst := readMembers_skip d (.inl rfl) (.object :: frames) draft
      (behindMember members ++ rest)
    have hbehind := readMembers_skipMembers members frames draft rest
    rw [tokens, List.cons_append, List.cons_append, List.cons_append, List.append_assoc, ← hbehind]
    rcases h with rfl | rfl <;> cases key <;> exact hfirst

theorem readMembers_skipElements : (elements : List Document) →
    ∀ (frames : List Frame) (draft : Draft fields) (rest : List Token),
    readMembers (.inside ⟨.array :: frames, .commaOrEnd⟩) draft (behindElement elements ++ rest) =
      readMembers (.behind (Skip.afterValue frames)) draft rest
  | [], frames, draft, rest => by cases frames <;> rfl
  | d :: elements, frames, draft, rest => by
    have hfirst := readMembers_skip d (.inl rfl) (.array :: frames) draft
      (behindElement elements ++ rest)
    have hbehind := readMembers_skipElements elements frames draft rest
    rw [behindElement, List.cons_append, List.append_assoc, ← hbehind]
    exact hfirst

theorem readMembers_skipMembers : (members : List (Option String × Document)) →
    ∀ (frames : List Frame) (draft : Draft fields) (rest : List Token),
    readMembers (.inside ⟨.object :: frames, .commaOrEnd⟩) draft (behindMember members ++ rest) =
      readMembers (.behind (Skip.afterValue frames)) draft rest
  | [], frames, draft, rest => by cases frames <;> rfl
  | (key, d) :: members, frames, draft, rest => by
    have hfirst := readMembers_skip d (.inl rfl) (.object :: frames) draft
      (behindMember members ++ rest)
    have hbehind := readMembers_skipMembers members frames draft rest
    rw [behindMember, List.cons_append, List.cons_append, List.cons_append, List.append_assoc,
      ← hbehind]
    cases key <;> exact hfirst

end

end Skipping

end Document

end PgConverge.Json
