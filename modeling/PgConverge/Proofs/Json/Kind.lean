import PgConverge.Proofs.Json.Document

/-!
# Values of a kind in JSON

Each value of a kind is read from one JSON value only, and the first token of a value tells whether
it is of a kind.

## Main definitions

* `Json.Document.head`, `Json.Document.Legible` — the first token of a value, and the numbers and
  texts that are values at all.
* `Json.Kind.document` — the JSON value for a value of a kind.

## Main statements

* `Json.Kind.read_head_eq_ok_iff` — the one JSON value that a value is read from.
* `Json.Kind.mismatched_of_read_head` — any other JSON value is a mismatch.
-/

namespace PgConverge.Json

namespace Document

/-- The first token of a value. -/
def head : Document → Token
  | null => .null
  | bool b => .bool b
  | number n => .number n
  | text s => .ofText s
  | array _ => .beginArray
  | object _ => .beginObject

theorem tokens_eq_head_cons (d : Document) : ∃ more, d.tokens = d.head :: more := by
  rcases d with _ | b | n | s | (_ | _) | (_ | ⟨⟨_, _⟩, _⟩) <;> exact ⟨_, rfl⟩

/-- A value starts with no token that separates or ends values. -/
theorem head_ne (d : Document) : d.head ≠ .comma ∧ d.head ≠ .endArray := by
  rcases d with _ | b | n | (_ | s) | elements | members <;> simp [head, Token.ofText]

/-- Whether a number or a text is read as a value at all: the number is not too large for a double,
and the text has no half of a surrogate pair in it. -/
def Legible : Document → Prop
  | number n => n.isFinite = true
  | text s => s.isSome
  | _ => True

theorem Legible.defect_head {d : Document} (hd : d.Legible) : d.head.defect = .mismatched := by
  rcases d with _ | b | n | (_ | s) | elements | members
  case number => exact if_pos hd
  case text.none => cases hd
  all_goals rfl

end Document

namespace Kind

/-- The JSON value for a value of a kind. -/
def document : (kind : Kind) → kind.Carrier → Document
  | .text, s => .text (some s)
  | .optionalText, s => s.elim .null fun s => .text (some s)
  | .flag, b => .bool b
  | .optionalFlag, b => b.elim .null .bool
  | .int32, n => .number (.ofInt n.toInt)
  | .uint64, n => .number (.ofInt n.toNat)

@[simp] theorem head_document (kind : Kind) (v : kind.Carrier) :
    (kind.document v).head = kind.token v := by
  rcases kind with _ | _ | _ | _ | _ | _
  case optionalText => rcases v with _ | _ <;> rfl
  case optionalFlag => rcases v with _ | _ <;> rfl
  all_goals rfl

@[simp] theorem tokens_document (kind : Kind) (v : kind.Carrier) :
    (kind.document v).tokens = [kind.token v] := by
  rcases kind with _ | _ | _ | _ | _ | _
  case optionalText => rcases v with _ | _ <;> rfl
  case optionalFlag => rcases v with _ | _ <;> rfl
  all_goals rfl

theorem isWritten_token (kind : Kind) (v : kind.Carrier) : (kind.token v).IsWritten := by
  rcases kind with _ | _ | _ | _ | _ | _
  case optionalText => rcases v with _ | _ <;> trivial
  case optionalFlag => rcases v with _ | _ <;> trivial
  case int32 => exact Number.isWritten_ofInt _
  case uint64 => exact Number.isWritten_ofInt _
  all_goals trivial

theorem token_ne_endArray (kind : Kind) (v : kind.Carrier) : kind.token v ≠ .endArray := by
  rw [← head_document]
  exact (kind.document v).head_ne.2

/-- Integers within bounds that fit in 64 bits are written in one way only. -/
theorem integerWithin?_eq_some_iff {n : Number} (hn : n.IsWritten) {low high k : Int}
    (hlow : Int64.minValue.toInt ≤ low) (hhigh : high < UInt64.size) :
    (Token.number n).integerWithin? low high = some k ↔ n = .ofInt k ∧ low ≤ k ∧ k ≤ high := by
  simp only [Token.integerWithin?, Option.filter_eq_some_iff, Number.integer?_eq_some_iff hn,
    Bool.and_eq_true, decide_eq_true_eq]
  constructor
  · rintro ⟨⟨hk, -, -⟩, hbounds⟩
    exact ⟨hk, hbounds⟩
  · rintro ⟨hk, hbounds⟩
    exact ⟨⟨hk, by omega, by omega⟩, hbounds⟩

theorem value?_int32_eq_some_iff {n : Number} (hn : n.IsWritten) {v : Int32} :
    Kind.int32.value? (.number n) = some v ↔ n = .ofInt v.toInt := by
  have hmin : Int32.minValue.toInt = -2 ^ 31 := rfl
  have hmax : Int32.maxValue.toInt = 2 ^ 31 - 1 := rfl
  have hlow : Int64.minValue.toInt ≤ Int32.minValue.toInt := by decide
  have hhigh : Int32.maxValue.toInt < UInt64.size := by decide
  have hbounds (k : Int) := integerWithin?_eq_some_iff (k := k) hn hlow hhigh
  simp only [value?, Option.map_eq_some_iff, hbounds]
  constructor
  · rintro ⟨k, ⟨rfl, hlow, hhigh⟩, rfl⟩
    rw [Int32.toInt_ofInt_of_le (by omega) (by omega)]
  · rintro rfl
    exact ⟨v.toInt, ⟨rfl, Int32.minValue_le_toInt v, Int32.toInt_le v⟩, Int32.ofInt_toInt v⟩

theorem value?_uint64_eq_some_iff {n : Number} (hn : n.IsWritten) {v : UInt64} :
    Kind.uint64.value? (.number n) = some v ↔ n = .ofInt v.toNat := by
  have hlow : Int64.minValue.toInt ≤ 0 := by decide
  have hhigh : (UInt64.size : Int) - 1 < UInt64.size := by omega
  have hbounds (k : Int) := integerWithin?_eq_some_iff (k := k) hn hlow hhigh
  simp only [value?, Option.map_eq_some_iff, hbounds]
  constructor
  · rintro ⟨k, ⟨rfl, hlow, hhigh⟩, rfl⟩
    rw [UInt64.toNat_ofNat_of_lt' (by omega), Int.toNat_of_nonneg hlow]
  · rintro rfl
    have hlt := v.toNat_lt_size
    refine ⟨v.toNat, ⟨rfl, by omega, by omega⟩, ?_⟩
    rw [Int.toNat_natCast, UInt64.ofNat_toNat]

/-- The one JSON value that a value is read from. -/
theorem value?_head_eq_some_iff {kind : Kind} {v : kind.Carrier} {d : Document}
    (hd : ∀ n, d = .number n → n.IsWritten) :
    kind.value? d.head = some v ↔ d = kind.document v := by
  rcases kind with _ | _ | _ | _ | _ | _
  case int32 =>
    rcases d with _ | b | n | (_ | s) | elements | members
    case number =>
      exact (value?_int32_eq_some_iff (hd n rfl)).trans (by simp [document])
    all_goals simp [value?, Document.head, document, Token.ofText, Token.integerWithin?]
  case uint64 =>
    rcases d with _ | b | n | (_ | s) | elements | members
    case number =>
      exact (value?_uint64_eq_some_iff (hd n rfl)).trans (by simp [document])
    all_goals simp [value?, Document.head, document, Token.ofText, Token.integerWithin?]
  case text =>
    rcases d with _ | b | n | (_ | s) | elements | members <;>
      simp [value?, Document.head, document, Token.ofText]
  case flag =>
    rcases d with _ | b | n | (_ | s) | elements | members <;>
      simp [value?, Document.head, document, Token.ofText]
  case optionalText =>
    rcases d with _ | b | n | (_ | s) | elements | members <;> rcases v with _ | v <;>
      simp [value?, Document.head, document, Token.ofText]
  case optionalFlag =>
    rcases d with _ | b | n | (_ | s) | elements | members <;> rcases v with _ | v <;>
      simp [value?, Document.head, document, Token.ofText]

theorem isWritten_document {kind : Kind} {v : kind.Carrier} {n : Number}
    (h : kind.document v = .number n) : n.IsWritten := by
  have hwritten := kind.isWritten_token v
  rw [← head_document, h] at hwritten
  exact hwritten

theorem read_head_eq_ok_iff {kind : Kind} {v : kind.Carrier} {d : Document}
    (hd : ∀ n, d = .number n → n.IsWritten) : kind.read d.head = .ok v ↔ d = kind.document v := by
  rw [← value?_head_eq_some_iff hd, read]
  cases kind.value? d.head <;> simp

/-- A value is read back from its token. -/
@[simp] theorem read_token (kind : Kind) (v : kind.Carrier) : kind.read (kind.token v) = .ok v := by
  rw [← head_document]
  exact (read_head_eq_ok_iff fun _ => isWritten_document).mpr rfl

theorem document_injective (kind : Kind) : Function.Injective kind.document := by
  intro v w h
  have htoken : kind.read (kind.token v) = kind.read (kind.token w) := by
    rw [← head_document, ← head_document, h]
  simpa using htoken

theorem toList_document_inj {kind : Kind} {value other : Option kind.Carrier} :
    (value.map kind.document).toList = (other.map kind.document).toList ↔ value = other := by
  cases value <;> cases other <;> simp [kind.document_injective.eq_iff]

/-- A legible value of another kind is a mismatch. -/
theorem mismatched_of_read_head {kind : Kind} {d : Document} (hd : d.Legible) {defect : Defect}
    (h : kind.read d.head = .error defect) : defect = .mismatched := by
  rw [read] at h
  split at h
  · cases h
  · rw [hd.defect_head] at h
    exact (Except.error.inj h).symm

end Kind

end PgConverge.Json
