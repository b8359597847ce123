import Mathlib.Data.List.Forall2
import PgConverge.Proofs.Sql.Token

/-!
# Clauses

Most of a statement is clauses: a few keywords, and a token behind them that is the value. A clause
may be left out, and the first keyword tells whether it is there.

## Main definitions

* `Sql.clause`, `Sql.takeClause` — the tokens of a clause, and reading it off the front of tokens.
* `Sql.Writes` — a text, or none, that stands for tokens.

## Main statements

* `Sql.takeClause_clause` — a clause is read back, whether it is there or not.
* `Sql.toList_intercalate` — texts with a space between every two stand for all of their tokens.
-/

namespace PgConverge.Sql

/-- The tokens of keywords. -/
def words (keywords : List String) : List Token := keywords.map .word

/-- The tokens of a clause: its keywords and its value, or nothing. -/
def clause (keywords : List String) : Option Token → List Token
  | none => []
  | some value => words keywords ++ [value]

theorem spell_clause (keyword : String) (value : Token) :
    spell (clause [keyword] (some value)) = keyword.toList ++ ' ' :: value.spelling :=
  (spell_cons_cons _ _ _).trans (by rw [spell_singleton]; rfl)

theorem spell_clause_cons (keyword next : String) (keywords : List String) (value : Token) :
    spell (clause (keyword :: next :: keywords) (some value)) =
      keyword.toList ++ ' ' :: spell (clause (next :: keywords) (some value)) :=
  spell_cons_cons _ _ _

theorem spell_clause_append (keywords more : List String) (value last : Token) :
    spell (clause keywords (some value) ++ clause more (some last)) =
      spell (clause keywords (some value)) ++ ' ' :: spell (clause more (some last)) :=
  spell_append (by simp [clause]) (by simp [clause])

/-- Reads a clause off the front of tokens, if it begins there, and gives what follows it; no result
if its value is none that `read` knows. -/
def takeClause {α : Type} (keywords : List String) (read : Token → Option α)
    (tokens : List Token) : Option (Option α × List Token) :=
  if (words keywords).isPrefixOf tokens then
    match tokens.drop keywords.length with
    | [] => none
    | value :: rest => (read value).map fun a => (some a, rest)
  else some (none, tokens)

theorem head?_nil_ne (keyword : String) : ([] : List Token).head? ≠ some (.word keyword) := nofun

theorem head?_clause_append_ne {keyword other : String} {keywords : List String}
    {value : Option Token} {tokens : List Token} (hne : keyword ≠ other)
    (h : tokens.head? ≠ some (.word other)) :
    (clause (keyword :: keywords) value ++ tokens).head? ≠ some (.word other) := by
  cases value with
  | none => exact h
  | some value => simpa [clause, words] using hne

theorem takeClause_of_head?_ne {α : Type} {keyword : String} {keywords : List String}
    {read : Token → Option α} {tokens : List Token} (h : tokens.head? ≠ some (.word keyword)) :
    takeClause (keyword :: keywords) read tokens = some (none, tokens) := by
  have hbegins : (words (keyword :: keywords)).isPrefixOf tokens = false := by
    cases tokens with
    | nil => rfl
    | cons t tokens =>
      have ht : Token.word keyword ≠ t := fun heq => h (congrArg some heq.symm)
      simp [words, List.isPrefixOf, ht]
  rw [takeClause, hbegins, if_neg Bool.false_ne_true]

/-- A clause is read back if its value is and what follows it begins with another keyword. -/
theorem takeClause_clause {α : Type} {keyword : String} {keywords : List String}
    {read : Token → Option α} {token : Option Token} {value : Option α} {tokens : List Token}
    (hread : token.map read = value.map some) (h : tokens.head? ≠ some (.word keyword)) :
    takeClause (keyword :: keywords) read (clause (keyword :: keywords) token ++ tokens) =
      some (value, tokens) := by
  cases token with
  | none =>
    obtain rfl : value = none := by simpa using hread.symm
    exact takeClause_of_head?_ne h
  | some token =>
    obtain ⟨a, rfl, ha⟩ : ∃ a, value = some a ∧ read token = some a := by
      simpa [eq_comm] using hread
    have hbegins : (words (keyword :: keywords)).isPrefixOf
        (words (keyword :: keywords) ++ token :: tokens) = true :=
      List.isPrefixOf_iff_prefix.mpr (List.prefix_append _ _)
    have hlength : (keyword :: keywords).length = (words (keyword :: keywords)).length :=
      (List.length_map _).symm
    rw [takeClause, clause, List.append_assoc, List.singleton_append, hbegins, if_pos rfl, hlength,
      List.drop_left]
    simp [ha]

theorem isProper_of_mem_clause {keywords : List String} {value : Option Token}
    (hwords : keywords.all isWord = true) (hvalue : ∀ t ∈ value, t.IsProper) :
    ∀ t ∈ clause keywords value, t.IsProper := by
  cases value with
  | none => exact List.forall_mem_nil _
  | some value =>
    refine List.forall_mem_append.mpr ⟨?_, List.forall_mem_singleton.mpr (hvalue value rfl)⟩
    intro t ht
    obtain ⟨keyword, hkeyword, rfl⟩ := List.mem_map.mp ht
    exact List.all_eq_true.mp hwords keyword hkeyword

/-! ### Texts of clauses -/

/-- Whether a text stands for tokens, and no text for no tokens. -/
inductive Writes : Option String → List Token → Prop where
  | none : Writes none []
  | some {text : String} {t : Token} {tokens : List Token} :
      text.toList = spell (t :: tokens) → Writes (some text) (t :: tokens)

/-- Texts with a space between every two stand for all of their tokens. -/
theorem toList_intercalate {texts : List (Option String)} {tokens : List (List Token)}
    (h : List.Forall₂ Writes texts tokens) :
    (" ".intercalate (texts.filterMap id)).toList = spell tokens.flatten ∧
      (texts.filterMap id = [] ↔ tokens.flatten = []) := by
  induction h with
  | nil => simp
  | @cons first written texts more hfirst _ ih =>
    obtain ⟨htext, hempty⟩ := ih
    cases hfirst with
    | none => exact ⟨htext, hempty⟩
    | @some text t tokens hspell =>
      have hcons : (some text :: texts).filterMap id = text :: texts.filterMap id := rfl
      refine ⟨?_, by simp⟩
      rw [hcons, List.flatten_cons]
      cases hrest : texts.filterMap id with
      | nil => rw [hempty.mp hrest, List.append_nil, String.intercalate_singleton, hspell]
      | cons next rest =>
        have hmore : more.flatten ≠ [] := fun hnil => by
          rw [hempty.mpr hnil] at hrest
          cases hrest
        rw [hrest] at htext
        rw [spell_append (List.cons_ne_nil t tokens) hmore, String.intercalate_cons_cons,
          String.toList_append, String.toList_append, hspell, htext, List.append_assoc]
        rfl

end PgConverge.Sql
