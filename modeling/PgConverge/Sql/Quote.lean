/-!
# Quoted names and literals

A name stands in double quotes and a literal in single quotes; inside, the quote itself is written
twice. `takeQuoted` reads such a token back.

## Main definitions

* `Sql.identifier`, `Sql.literal` — the quoted forms.
* `Sql.takeQuoted` — the text of the token at the front, and what follows the token.

## Main statements

* `Sql.takeQuoted_quote` — reading a quoted text gives the text back, unless another quote follows.
* `Sql.takeQuoted_eq_some_iff` — nothing but a quoted text is read.
-/

namespace PgConverge.Sql

/-- Writes a quote character twice wherever it stands. -/
def doubled (q : Char) (s : List Char) : List Char :=
  s.flatMap fun c => if c == q then [q, q] else [c]

/-- A text between quote characters. -/
def quote (q : Char) (s : List Char) : List Char := q :: doubled q s ++ [q]

/-- A name in double quotes. -/
def identifier (name : String) : String := String.ofList (quote '"' name.toList)

/-- A literal in single quotes. -/
def literal (value : String) : String := String.ofList (quote '\'' value.toList)

/-- Reads up to the closing quote, with the opening one already read: two quote characters stand for
one, and a single one closes. -/
def closeQuoted (q : Char) : List Char → Option (List Char × List Char)
  | [] => none
  | c :: rest =>
    if c == q then
      match rest with
      | d :: more =>
        if d == q then (closeQuoted q more).map fun r => (q :: r.1, r.2) else some ([], rest)
      | [] => some ([], [])
    else (closeQuoted q rest).map fun r => (c :: r.1, r.2)

/-- Reads the quoted token at the front of a text. -/
def takeQuoted (q : Char) : List Char → Option (List Char × List Char)
  | c :: rest => if c == q then closeQuoted q rest else none
  | [] => none

@[simp] theorem toList_identifier (name : String) :
    (identifier name).toList = quote '"' name.toList := String.toList_ofList

@[simp] theorem toList_literal (value : String) :
    (literal value).toList = quote '\'' value.toList := String.toList_ofList

@[simp] theorem doubled_nil (q : Char) : doubled q [] = [] := rfl

theorem doubled_cons (q c : Char) (s : List Char) :
    doubled q (c :: s) = (if c == q then [q, q] else [c]) ++ doubled q s := by
  simp [doubled]

theorem closeQuoted_doubled (q : Char) (s rest : List Char) (h : rest.head? ≠ some q) :
    closeQuoted q (doubled q s ++ q :: rest) = some (s, rest) := by
  induction s with
  | nil =>
    cases rest with
    | nil => simp [closeQuoted]
    | cons d more =>
      have hd : d ≠ q := fun e => h (by simp [e])
      simp [closeQuoted, hd]
  | cons c s ih =>
    by_cases hc : c = q
    · subst hc; simp [doubled_cons, closeQuoted, ih]
    · rw [doubled_cons, closeQuoted.eq_def]
      simp [hc, ih]

/-- Reading stops at the closing quote and nowhere else. -/
theorem closeQuoted_eq_some_iff {q : Char} {written s rest : List Char} :
    closeQuoted q written = some (s, rest) ↔
      written = doubled q s ++ q :: rest ∧ rest.head? ≠ some q := by
  refine ⟨fun h => ?_, fun ⟨hwritten, hrest⟩ => hwritten ▸ closeQuoted_doubled q s rest hrest⟩
  fun_induction closeQuoted q written generalizing s rest with
  | case1 => cases h
  | case2 c hc d more hd ih =>
    obtain ⟨r, hr, heq⟩ := Option.map_eq_some_iff.mp h
    cases heq
    obtain ⟨rfl, hrest⟩ := ih hr
    obtain rfl := eq_of_beq hc
    obtain rfl := eq_of_beq hd
    exact ⟨by simp [doubled_cons], hrest⟩
  | case3 c hc d more hd =>
    cases h
    obtain rfl := eq_of_beq hc
    exact ⟨rfl, by simpa using hd⟩
  | case4 c hc =>
    cases h
    obtain rfl := eq_of_beq hc
    exact ⟨rfl, nofun⟩
  | case5 c more hc ih =>
    obtain ⟨r, hr, heq⟩ := Option.map_eq_some_iff.mp h
    cases heq
    obtain ⟨rfl, hrest⟩ := ih hr
    exact ⟨by simp [doubled_cons, hc], hrest⟩

@[simp] theorem takeQuoted_cons_self (q : Char) (written : List Char) :
    takeQuoted q (q :: written) = closeQuoted q written := by
  simp [takeQuoted]

theorem takeQuoted_quote (q : Char) (s rest : List Char) (h : rest.head? ≠ some q) :
    takeQuoted q (quote q s ++ rest) = some (s, rest) := by
  simp [quote, closeQuoted_doubled q s rest h]

/-- What is read is a quoted text and what follows it, which begins with no other quote. -/
theorem takeQuoted_eq_some_iff {q : Char} {text s rest : List Char} :
    takeQuoted q text = some (s, rest) ↔ text = quote q s ++ rest ∧ rest.head? ≠ some q := by
  refine ⟨fun h => ?_, fun ⟨htext, hrest⟩ => htext ▸ takeQuoted_quote q s rest hrest⟩
  cases text with
  | nil => cases h
  | cons c written =>
    by_cases hc : c = q
    · subst hc
      rw [takeQuoted_cons_self] at h
      obtain ⟨rfl, hrest⟩ := closeQuoted_eq_some_iff.mp h
      exact ⟨by simp [quote], hrest⟩
    · simp [takeQuoted, hc] at h

end PgConverge.Sql
