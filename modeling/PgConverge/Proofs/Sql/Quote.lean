import Mathlib.Data.Set.Function
import PgConverge.Proofs.Sql.Token

/-!
# Quoted tokens

Every text has one form in quotes, and every token in quotes is the form of one text. Such a token
ends at its closing quote, whatever it holds and whatever stands behind it, another quote apart.

## Main definitions

* `Sql.Doubles`, `Sql.IsQuotedAs` — what stands in quotes for a text, and the tokens of a text, told
  apart from writing and from reading.
* `Sql.IsQuoting` — a way to write texts as tokens that reading undoes, and that has every token.

## Main statements

* `Sql.lex_eq_quoted_cons_iff` — the statements that begin with a given quoted token.
* `Sql.isQuoting_identifier_and_literal` — names and literals are written in such ways.
-/

namespace PgConverge.Sql

variable {q c : Char} {s text written rest behind : List Char}

/-! ## Tokens in quotes -/

/-- Whether a text stands for another in quotes: two quotes for each of its quotes, and every other
character for itself. -/
inductive Doubles (q : Char) : List Char → List Char → Prop where
  | nil : Doubles q [] []
  | other {c : Char} {s written : List Char} : c ≠ q → Doubles q s written →
      Doubles q (c :: s) (c :: written)
  | quote {s written : List Char} : Doubles q s written → Doubles q (q :: s) (q :: q :: written)

/-- Whether a token is a text in quotes. -/
def IsQuotedAs (q : Char) (s token : String) : Prop :=
  ∃ written, Doubles q s.toList written ∧ token.toList = q :: (written ++ [q])

theorem doubles_iff : Doubles q s written ↔ written = doubled q s := by
  constructor
  · intro h
    induction h with
    | nil => rfl
    | other hc _ ih => simp [doubled_cons, hc, ih]
    | quote _ ih => simp [doubled_cons, ih]
  · rintro rfl
    induction s with
    | nil => exact .nil
    | cons c s ih =>
      by_cases hc : c = q
      · subst hc
        simpa [doubled_cons] using Doubles.quote ih
      · simpa [doubled_cons, hc] using Doubles.other hc ih

theorem isQuotedAs_iff {s token : String} :
    IsQuotedAs q s token ↔ token.toList = quote q s.toList := by
  simp [IsQuotedAs, doubles_iff, quote]

theorem quote_injective (q : Char) : Function.Injective (quote q) := by
  intro s t h
  have hread (s : List Char) : takeQuoted q (quote q s) = some (s, []) := by
    simpa using takeQuoted_quote q s [] nofun
  have hsame := hread s
  rw [h, hread t] at hsame
  cases hsame
  rfl

/-! ## Statements that begin with a quoted token -/

theorem isQuote_iff : isQuote q = true ↔ q = '"' ∨ q = '\'' := by simp [isQuote]

theorem isWhitespace_of_isQuote (hq : isQuote q = true) : q.isWhitespace = false := by
  rcases isQuote_iff.mp hq with rfl | rfl <;> rfl

theorem quoted_ne_word (q : Char) (s : List Char) (word : String) :
    Token.quoted q s ≠ .word word := by
  rw [Token.quoted]
  split <;> intro h <;> cases h

theorem quoted_inj (hc : isQuote c = true) (hq : isQuote q = true) :
    Token.quoted c text = .quoted q s ↔ c = q ∧ text = s := by
  rcases isQuote_iff.mp hc with rfl | rfl <;> rcases isQuote_iff.mp hq with rfl | rfl <;>
    simp [Token.quoted, String.ofList_inj]

/-- A quoted token is read where the text between quotes is. -/
theorem takeToken_eq_quoted_iff (hq : isQuote q = true) :
    takeToken c rest = some (.quoted q s, behind) ↔
      takeQuoted q (c :: rest) = some (s, behind) := by
  constructor
  · intro h
    unfold takeToken at h
    split at h
    · rename_i hc
      obtain ⟨⟨text, behind⟩, hread, heq⟩ := Option.map_eq_some_iff.mp h
      obtain ⟨htoken, rfl⟩ := Prod.mk.inj heq
      obtain ⟨rfl, rfl⟩ := (quoted_inj hc hq).mp htoken
      exact hread
    · split at h
      all_goals
        obtain ⟨htoken, -⟩ := Prod.mk.inj (Option.some.inj h)
        exact absurd htoken.symm (quoted_ne_word q s _)
  · intro h
    obtain ⟨htext, -⟩ := takeQuoted_eq_some_iff.mp h
    obtain rfl : c = q := (List.cons.inj htext).1
    rw [takeToken, if_pos hq, h, Option.map_some]

theorem lex_append_of_isWhitespace {before : List Char}
    (h : ∀ c ∈ before, c.isWhitespace = true) (rest : List Char) :
    lex (before ++ rest) = lex rest := by
  induction before with
  | nil => rfl
  | cons c before ih =>
    obtain ⟨hc, h⟩ := List.forall_mem_cons.mp h
    rw [List.cons_append, lex, if_pos hc, ih h]

/-- The first token stands behind blanks. -/
theorem exists_takeToken_of_lex {t : Token} {tokens : List Token}
    (h : lex text = some (t :: tokens)) :
    ∃ before c rest behind, (∀ c ∈ before, c.isWhitespace = true) ∧ text = before ++ c :: rest ∧
      takeToken c rest = some (t, behind) ∧ lex behind = some tokens := by
  fun_induction lex text with
  | case1 => cases h
  | case2 c text hblank ih =>
    obtain ⟨before, d, rest, behind, hbefore, rfl, hread⟩ := ih h
    exact ⟨c :: before, d, rest, behind, List.forall_mem_cons.mpr ⟨hblank, hbefore⟩, rfl, hread⟩
  | case3 => cases h
  | case4 c text hblank first behind htake ih =>
    obtain ⟨more, hmore, heq⟩ := Option.map_eq_some_iff.mp h
    obtain ⟨rfl, rfl⟩ := List.cons.inj heq
    exact ⟨[], c, text, behind, List.forall_mem_nil _, rfl, htake, hmore⟩

/-- The statements whose first token is a given quoted one are those that begin with the quoted
text and go on with no quote, blanks in front apart. -/
theorem lex_eq_quoted_cons_iff (hq : isQuote q = true) {tokens : List Token} :
    lex text = some (.quoted q s :: tokens) ↔
      ∃ before rest, (∀ c ∈ before, c.isWhitespace = true) ∧ text = before ++ quote q s ++ rest ∧
        rest.head? ≠ some q ∧ lex rest = some tokens := by
  constructor
  · intro h
    obtain ⟨before, c, rest, behind, hbefore, rfl, htake, hrest⟩ := exists_takeToken_of_lex h
    obtain ⟨htext, hbehind⟩ :=
      takeQuoted_eq_some_iff.mp ((takeToken_eq_quoted_iff hq).mp htake)
    exact ⟨before, behind, hbefore, by rw [htext, List.append_assoc], hbehind, hrest⟩
  · rintro ⟨before, rest, hbefore, rfl, hhead, hrest⟩
    have htake : takeToken q (doubled q s ++ [q] ++ rest) = some (.quoted q s, rest) :=
      takeToken_quote hq s hhead
    have hquote : quote q s ++ rest = q :: (doubled q s ++ [q] ++ rest) := rfl
    rw [List.append_assoc, lex_append_of_isWhitespace hbefore, hquote,
      lex_cons (isWhitespace_of_isQuote hq) htake, hrest, Option.map_some]

/-! ## Names and literals -/

/-- Whether texts are written as the tokens between quotes, one to one, and are read back from
them wherever they stand. -/
structure IsQuoting (q : Char) (token : String → Token) (write : String → String) : Prop where
  /-- A text has one token, which is what is written. -/
  isQuotedAs_iff (s text : String) : IsQuotedAs q s text ↔ text = write s
  /-- Writing is a bijection onto the tokens. -/
  bijOn : Set.BijOn write Set.univ {text | ∃ s, IsQuotedAs q s text}
  /-- A token is read off the front of a text exactly if the text begins with what is written and
  goes on with no quote; what is read is the text that was written, and the rest is left. -/
  takeQuoted_iff (text s rest : String) :
    takeQuoted q text.toList = some (s.toList, rest.toList) ↔
      text = write s ++ rest ∧ rest.toList.head? ≠ some q
  /-- In a statement, too, where there may be blanks in front and other tokens behind. -/
  lex_iff (text s : String) (tokens : List Token) :
    lex text.toList = some (token s :: tokens) ↔
      ∃ before rest : String, (∀ c ∈ before.toList, c.isWhitespace = true) ∧
        text = before ++ write s ++ rest ∧ rest.toList.head? ≠ some q ∧
        lex rest.toList = some tokens

theorem isQuoting_of_quote {token : String → Token} {write : String → String}
    (hq : isQuote q = true) (htoken : ∀ s, token s = .quoted q s.toList)
    (hwrite : ∀ s, (write s).toList = quote q s.toList) : IsQuoting q token write := by
  have htokens (s text : String) : IsQuotedAs q s text ↔ text = write s := by
    rw [isQuotedAs_iff, ← hwrite, String.toList_inj]
  have hinjective : Function.Injective write := fun s t h => by
    have hquote : quote q s.toList = quote q t.toList := by rw [← hwrite, ← hwrite, h]
    exact String.toList_inj.mp (quote_injective q hquote)
  have hbijOn : Set.BijOn write Set.univ {text | ∃ s, IsQuotedAs q s text} := by
    refine ⟨fun s _ => ⟨s, (htokens s _).mpr rfl⟩, hinjective.injOn, ?_⟩
    rintro text ⟨s, hs⟩
    exact ⟨s, Set.mem_univ s, ((htokens s text).mp hs).symm⟩
  refine ⟨htokens, hbijOn, fun text s rest => ?_, fun text s tokens => ?_⟩
  · rw [takeQuoted_eq_some_iff, ← hwrite, ← String.toList_append, String.toList_inj]
  · rw [htoken, lex_eq_quoted_cons_iff hq]
    constructor
    · rintro ⟨before, rest, hbefore, htext, hrest⟩
      refine ⟨String.ofList before, String.ofList rest, by simpa using hbefore, ?_,
        by simpa using hrest⟩
      rw [← String.toList_inj]
      simpa [hwrite] using htext
    · rintro ⟨before, rest, hbefore, rfl, hrest⟩
      exact ⟨before.toList, rest.toList, hbefore, by simp [hwrite], hrest⟩

/-- Quoting is a bijection between all texts and the tokens in quotes, for names and for literals,
and reading is its inverse. -/
theorem isQuoting_identifier_and_literal :
    IsQuoting '"' Token.name identifier ∧ IsQuoting '\'' Token.literal literal := by
  constructor
  · exact isQuoting_of_quote rfl (fun s => by simp [Token.quoted]) toList_identifier
  · exact isQuoting_of_quote rfl (fun s => by simp [Token.quoted]) toList_literal

/-- Without the condition on what follows, two names are read as one. -/
example : takeQuoted '"' (identifier "a" ++ identifier "b").toList = some ("a\"b".toList, []) := by
  decide +kernel

end PgConverge.Sql
