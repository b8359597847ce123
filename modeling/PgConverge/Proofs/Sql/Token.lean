import PgConverge.Sql.Quote

/-!
# The tokens of a statement

A statement is read as a server reads it: blanks separate tokens, a quoted name or literal is one
token, a punctuation mark is one, and every other run of characters is a word. Tokens that are
written with a space between every two are read back as they are, whatever the quoted texts hold.

## Main definitions

* `Sql.Token`, `Sql.lex` — a token, and the tokens of a text; no result if a quote is not closed.
* `Sql.spell` — tokens written with a space between every two.

## Main statements

* `Sql.lex_spell` — tokens are read back as they were written.
-/

namespace PgConverge.Sql

/-- A token of a statement. -/
inductive Token where
  /-- A keyword, a number or a punctuation mark. -/
  | word (text : String)
  /-- A name in double quotes. -/
  | name (text : String)
  /-- A literal in single quotes. -/
  | literal (text : String)
deriving DecidableEq, Repr

/-- Whether a character opens a quoted token. -/
def isQuote (c : Char) : Bool := c == '"' || c == '\''

/-- Whether a character is a token of its own. -/
def isPunctuation (c : Char) : Bool := c == '(' || c == ')' || c == '=' || c == ','

/-- Whether a character belongs to a word. -/
def isWordChar (c : Char) : Bool := !(c.isWhitespace || isQuote c || isPunctuation c)

/-- The token of a text in quotes. -/
def Token.quoted (q : Char) (text : List Char) : Token :=
  if q == '"' then .name (String.ofList text) else .literal (String.ofList text)

/-- Reads the token that begins with a character, and gives what follows it. -/
def takeToken (c : Char) (rest : List Char) : Option (Token × List Char) :=
  if isQuote c then (takeQuoted c (c :: rest)).map fun (text, rest) => (.quoted c text, rest)
  else if isPunctuation c then some (.word (String.singleton c), rest)
  else some (.word (String.ofList (c :: rest.takeWhile isWordChar)), rest.dropWhile isWordChar)

/-! ### A token takes up characters -/

theorem length_closeQuoted {q : Char} {s text rest : List Char}
    (h : closeQuoted q s = some (text, rest)) : rest.length < s.length := by
  obtain ⟨rfl, -⟩ := closeQuoted_eq_some_iff.mp h
  simp only [List.length_append, List.length_cons]
  omega

theorem length_takeToken {c : Char} {s rest : List Char} {t : Token}
    (h : takeToken c s = some (t, rest)) : rest.length < (c :: s).length := by
  unfold takeToken at h
  split at h
  · obtain ⟨⟨text, rest⟩, hr, heq⟩ := Option.map_eq_some_iff.mp h
    cases heq
    rw [takeQuoted_cons_self] at hr
    exact Nat.lt_succ_of_lt (length_closeQuoted hr)
  · split at h
    · cases h
      exact Nat.lt_succ_self _
    · cases h
      exact Nat.lt_succ_of_le (List.dropWhile_suffix _).length_le

/-- The tokens of a text. -/
def lex : List Char → Option (List Token)
  | [] => some []
  | c :: rest =>
    if c.isWhitespace then lex rest
    else
      match _h : takeToken c rest with
      | none => none
      | some (t, rest) => (lex rest).map (t :: ·)
termination_by s => s.length
decreasing_by
  · exact Nat.lt_succ_self _
  · exact length_takeToken ‹_›

/-- The first token, if no blank stands in front of it, and then the others. -/
theorem lex_cons {c : Char} {s rest : List Char} {t : Token} (hc : c.isWhitespace = false)
    (h : takeToken c s = some (t, rest)) : lex (c :: s) = (lex rest).map (t :: ·) := by
  rw [lex, hc, if_neg Bool.false_ne_true]
  split
  · next hnone => cases h.symm.trans hnone
  · next hsome =>
    cases h.symm.trans hsome
    rfl

/-! ### Writing tokens -/

/-- The characters of a token. -/
def Token.spelling : Token → List Char
  | word text => text.toList
  | name text => quote '"' text.toList
  | literal text => quote '\'' text.toList

/-- The characters of tokens with a space between every two. -/
def spell (tokens : List Token) : List Char := [' '].intercalate (tokens.map Token.spelling)

/-- Whether a text is one word: characters that belong to words, or a punctuation mark. -/
def isWord (text : String) : Bool :=
  match text.toList with
  | [] => false
  | c :: s => (c :: s).all isWordChar || (isPunctuation c && s.isEmpty)

/-- Whether a token is read back as it is written; quoted texts are free. -/
def Token.IsProper : Token → Prop
  | word text => isWord text = true
  | name _ | literal _ => True

@[simp] theorem spell_nil : spell [] = [] := rfl

@[simp] theorem spell_singleton (t : Token) : spell [t] = t.spelling :=
  List.intercalate_singleton

theorem spell_cons_cons (t u : Token) (tokens : List Token) :
    spell (t :: u :: tokens) = t.spelling ++ ' ' :: spell (u :: tokens) := by
  simp [spell, List.intercalate_cons_cons]

theorem spell_append {tokens more : List Token} (h : tokens ≠ []) (h' : more ≠ []) :
    spell (tokens ++ more) = spell tokens ++ ' ' :: spell more := by
  induction tokens with
  | nil => exact absurd rfl h
  | cons t tokens ih =>
    cases tokens with
    | nil =>
      obtain ⟨u, more, rfl⟩ := List.exists_cons_of_ne_nil h'
      rw [spell_singleton]
      exact spell_cons_cons t u more
    | cons u tokens =>
      rw [List.cons_append, List.cons_append, spell_cons_cons, ← List.cons_append,
        ih (List.cons_ne_nil u tokens), spell_cons_cons, List.append_assoc, List.cons_append]

/-! ### Reading tokens back -/

/-- Whether a text is over or goes on with a space. -/
def Ends (rest : List Char) : Prop := ∀ c ∈ rest.head?, c = ' '

theorem Ends.head?_ne {rest : List Char} (h : Ends rest) {c : Char} (hc : c ≠ ' ') :
    rest.head? ≠ some c := fun hhead => hc (h c hhead)

theorem Ends.takeWhile {rest : List Char} (h : Ends rest) :
    rest.takeWhile isWordChar = [] ∧ rest.dropWhile isWordChar = rest := by
  cases rest with
  | nil => exact ⟨rfl, rfl⟩
  | cons c rest =>
    obtain rfl : c = ' ' := h c rfl
    exact ⟨rfl, rfl⟩

/-- A quoted token ends at its closing quote, whatever follows but another quote. -/
theorem takeToken_quote {q : Char} (hq : isQuote q = true) (text : List Char) {rest : List Char}
    (h : rest.head? ≠ some q) :
    takeToken q (doubled q text ++ [q] ++ rest) = some (.quoted q text, rest) := by
  have hread : takeQuoted q (q :: (doubled q text ++ [q] ++ rest)) = some (text, rest) :=
    takeQuoted_quote q text rest h
  rw [takeToken, if_pos hq, hread]
  rfl

theorem isWordChar_iff {c : Char} :
    isWordChar c = true ↔
      c.isWhitespace = false ∧ isQuote c = false ∧ isPunctuation c = false := by
  simp [isWordChar, and_assoc]

theorem takeToken_word {c : Char} {s rest : List Char} (hc : isWordChar c = true)
    (hs : s.all isWordChar = true) (h : Ends rest) :
    takeToken c (s ++ rest) = some (.word (String.ofList (c :: s)), rest) := by
  obtain ⟨-, hquote, hpunctuation⟩ := isWordChar_iff.mp hc
  obtain ⟨htake, hdrop⟩ := h.takeWhile
  rw [takeToken, hquote, hpunctuation, if_neg Bool.false_ne_true, if_neg Bool.false_ne_true,
    List.takeWhile_append_of_pos (List.all_eq_true.mp hs),
    List.dropWhile_append_of_pos (List.all_eq_true.mp hs), htake, hdrop, List.append_nil]

theorem isWhitespace_of_isPunctuation {c : Char} (h : isPunctuation c = true) :
    c.isWhitespace = false ∧ isQuote c = false := by
  simp only [isPunctuation, Bool.or_eq_true, beq_iff_eq] at h
  rcases h with ((rfl | rfl) | rfl) | rfl <;> exact ⟨rfl, rfl⟩

theorem takeToken_punctuation {c : Char} (h : isPunctuation c = true) (rest : List Char) :
    takeToken c rest = some (.word (String.singleton c), rest) := by
  obtain ⟨-, hquote⟩ := isWhitespace_of_isPunctuation h
  rw [takeToken, hquote, if_neg Bool.false_ne_true, if_pos h]

/-- A proper token begins with a character that is not blank, from which it is read back. -/
theorem Token.IsProper.takeToken_spelling {t : Token} (ht : t.IsProper) :
    ∃ c s, t.spelling = c :: s ∧ c.isWhitespace = false ∧
      ∀ rest, Ends rest → takeToken c (s ++ rest) = some (t, rest) := by
  cases t with
  | name text =>
    refine ⟨'"', _, rfl, rfl, fun rest h => ?_⟩
    have hrest : rest.head? ≠ some '"' := h.head?_ne (by decide)
    exact (takeToken_quote rfl text.toList hrest).trans (by simp [quoted])
  | literal text =>
    refine ⟨'\'', _, rfl, rfl, fun rest h => ?_⟩
    have hrest : rest.head? ≠ some '\'' := h.head?_ne (by decide)
    exact (takeToken_quote rfl text.toList hrest).trans (by simp [quoted])
  | word text =>
    have hword : isWord text = true := ht
    have htext : String.ofList text.toList = text := String.ofList_toList
    rw [isWord] at hword
    rw [spelling]
    cases hchars : text.toList with
    | nil => simp [hchars] at hword
    | cons c s =>
      rw [hchars] at htext hword
      subst htext
      rcases Bool.or_eq_true_iff.mp hword with hall | hmark
      · obtain ⟨hc, hs⟩ := Bool.and_eq_true_iff.mp hall
        exact ⟨c, s, rfl, (isWordChar_iff.mp hc).1, fun rest h => takeToken_word hc hs h⟩
      · obtain ⟨hc, hs⟩ := Bool.and_eq_true_iff.mp hmark
        obtain rfl := List.isEmpty_iff.mp hs
        exact ⟨c, [], rfl, (isWhitespace_of_isPunctuation hc).1,
          fun rest _ => takeToken_punctuation hc rest⟩

theorem lex_spelling {t : Token} (ht : t.IsProper) {rest : List Char} (h : Ends rest) :
    lex (t.spelling ++ rest) = (lex rest).map (t :: ·) := by
  obtain ⟨c, s, hspelling, hblank, hread⟩ := ht.takeToken_spelling
  rw [hspelling, List.cons_append, lex_cons hblank (hread rest h)]

theorem lex_space (s : List Char) : lex (' ' :: s) = lex s := by
  rw [lex]
  rfl

/-- Tokens are read back as they were written. -/
theorem lex_spell {tokens : List Token} (h : ∀ t ∈ tokens, t.IsProper) :
    lex (spell tokens) = some tokens := by
  induction tokens with
  | nil => rw [spell_nil, lex]
  | cons t tokens ih =>
    obtain ⟨ht, hrest⟩ := List.forall_mem_cons.mp h
    cases tokens with
    | nil =>
      have hlast : lex (t.spelling ++ []) = (lex []).map (t :: ·) := lex_spelling ht nofun
      rw [List.append_nil, lex] at hlast
      rw [spell_singleton, hlast]
      rfl
    | cons u tokens =>
      have hends : Ends (' ' :: spell (u :: tokens)) := fun c hc => (Option.some.inj hc).symm
      rw [spell_cons_cons, lex_spelling ht hends, lex_space, ih hrest]
      rfl

/-! ### Reading goes on behind a space -/

theorem closeQuoted_append {q : Char} (hq : q ≠ ' ') {s text rest : List Char}
    (h : closeQuoted q s = some (text, rest)) (more : List Char) :
    closeQuoted q (s ++ ' ' :: more) = some (text, rest ++ ' ' :: more) := by
  obtain ⟨rfl, hrest⟩ := closeQuoted_eq_some_iff.mp h
  refine closeQuoted_eq_some_iff.mpr ⟨by simp, ?_⟩
  cases rest with
  | nil => simpa using hq.symm
  | cons d rest => exact hrest

theorem takeToken_append {c : Char} {s rest : List Char} {t : Token}
    (h : takeToken c s = some (t, rest)) (more : List Char) :
    takeToken c (s ++ ' ' :: more) = some (t, rest ++ ' ' :: more) := by
  unfold takeToken at h ⊢
  by_cases hquote : isQuote c = true
  · have hspace : c ≠ ' ' := by rintro rfl; cases hquote
    rw [if_pos hquote] at h ⊢
    obtain ⟨⟨text, rest⟩, hr, heq⟩ := Option.map_eq_some_iff.mp h
    cases heq
    rw [takeQuoted_cons_self] at hr ⊢
    rw [closeQuoted_append hspace hr]
    rfl
  rw [if_neg hquote] at h ⊢
  by_cases hmark : isPunctuation c = true
  · rw [if_pos hmark] at h ⊢
    cases h
    rfl
  · rw [if_neg hmark] at h ⊢
    cases h
    have hspace : isWordChar ' ' = false := rfl
    induction s with
    | nil => simp [hspace]
    | cons d s ih =>
      by_cases hd : isWordChar d = true
      · simpa [hd] using ih
      · simp [hd]

/-- What is read up to a space does not depend on what follows it. -/
theorem lex_append_space {s : List Char} {tokens : List Token} (h : lex s = some tokens)
    (more : List Char) : lex (s ++ ' ' :: more) = (lex more).map (tokens ++ ·) := by
  fun_induction lex s generalizing tokens with
  | case1 =>
    cases h
    simp [lex_space]
  | case2 c s hblank ih =>
    rw [List.cons_append, lex, if_pos hblank, ih h]
  | case3 c s hblank hnone => cases h
  | case4 c s hblank t rest htake ih =>
    obtain ⟨tokens, htokens, rfl⟩ := Option.map_eq_some_iff.mp h
    rw [List.cons_append, lex_cons (eq_false_of_ne_true hblank) (takeToken_append htake more),
      ih htokens, Option.map_map]
    rfl

end PgConverge.Sql
