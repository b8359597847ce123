import PgConverge.Json.Token
import PgConverge.Proofs.Json.Number

/-!
# Written JSON tokens

Tokens are written one after another with nothing between them, and are read back from that. Inside
quotes only what has to be escaped is escaped.

## Main definitions

* `Json.Token.spelling`, `Json.spell` — what a token, and what tokens are written as.
* `Json.ReadsAs` — the tokens that a text is cut into.

## Main statements

* `Json.ReadsAs.cons` — a written token is read back in front of any text that does not go on with
  it.
* `Json.isWritten_of_mem_tokens` — the numbers that are read can be written.
-/

namespace PgConverge.Json

/-! ## Quoted texts -/

/-- The letter that stands behind a backslash for a character with a short escape. -/
def escapeLetter? : Char → Option Char
  | '"' => some '"'
  | '\\' => some '\\'
  | '\x08' => some 'b'
  | '\t' => some 't'
  | '\n' => some 'n'
  | '\x0c' => some 'f'
  | '\r' => some 'r'
  | _ => none

/-- What a character is written as inside quotes. -/
def escaped (c : Char) : List Char :=
  match escapeLetter? c with
  | some letter => ['\\', letter]
  | none =>
    if c.toNat < 0x20 then
      ['\\', 'u', '0', '0', Nat.digitChar (c.toNat / 16), Nat.digitChar (c.toNat % 16)]
    else [c]

theorem shortEscape?_escapeLetter? {c letter : Char} (h : escapeLetter? c = some letter) :
    letter ≠ 'u' ∧ shortEscape? letter = some c := by
  unfold escapeLetter? at h
  split at h <;> cases h <;> exact ⟨by decide, rfl⟩

theorem ne_of_escapeLetter?_eq_none {c : Char} (h : escapeLetter? c = none) :
    c ≠ '"' ∧ c ≠ '\\' := by
  constructor
  · rintro rfl
    cases h
  · rintro rfl
    cases h

/-- Whether a piece stands for a character, whatever pieces follow it. -/
def Piece.Means (p : Piece) (c : Char) : Prop :=
  ∀ pieces, joinPieces? (p :: pieces) = (joinPieces? pieces).map (c :: ·)

theorem Piece.means_char (c : Char) : (Piece.char c).Means c := by
  intro pieces
  cases pieces <;> rfl

/-- A code unit that is no half of a surrogate pair stands for a character alone. -/
theorem Piece.means_codeUnit {c : Char} (h : c.toNat < 0xD800) :
    (Piece.codeUnit c.toNat).Means c := by
  have hhigh : isHighSurrogate c.toNat = false := by simp [isHighSurrogate]; omega
  have hlow : isLowSurrogate c.toNat = false := by simp [isLowSurrogate]; omega
  intro pieces
  cases pieces <;> simp [joinPieces?, hhigh, hlow]

theorem codeUnit?_control {n : Nat} (h : n < 0x20) :
    codeUnit? '0' '0' (Nat.digitChar (n / 16)) (Nat.digitChar (n % 16)) = some n := by
  have hall : ∀ k < 0x20,
      codeUnit? '0' '0' (Nat.digitChar (k / 16)) (Nat.digitChar (k % 16)) = some k := by decide
  exact hall n h

theorem takePieces?_escaped (c : Char) (rest : List Char) : ∃ p : Piece, p.Means c ∧
    takePieces? (escaped c ++ rest) = (takePieces? rest).map fun r => (p :: r.1, r.2) := by
  unfold escaped
  split
  · rename_i letter hletter
    obtain ⟨hu, hshort⟩ := shortEscape?_escapeLetter? hletter
    refine ⟨_, Piece.means_char c, ?_⟩
    cases htail : takePieces? rest <;> simp [takePieces?, hu, hshort, htail]
  · rename_i hnone
    obtain ⟨hquote, hbackslash⟩ := ne_of_escapeLetter?_eq_none hnone
    by_cases hcontrol : c.toNat < 0x20
    · refine ⟨_, Piece.means_codeUnit (by omega), ?_⟩
      have hunit := codeUnit?_control hcontrol
      cases htail : takePieces? rest <;> simp [takePieces?, hcontrol, hunit, htail]
    · refine ⟨_, Piece.means_char c, ?_⟩
      cases htail : takePieces? rest <;> simp [takePieces?, hcontrol, hbackslash, htail]

/-- What is written inside quotes is read back as the same text. -/
theorem takePieces?_quoted (s rest : List Char) : ∃ pieces,
    takePieces? (s.flatMap escaped ++ '"' :: rest) = some (pieces, rest) ∧
      joinPieces? pieces = some s := by
  induction s with
  | nil => exact ⟨[], rfl, rfl⟩
  | cons c s ih =>
    obtain ⟨pieces, htake, hjoin⟩ := ih
    obtain ⟨p, hp, hread⟩ := takePieces?_escaped c (s.flatMap escaped ++ '"' :: rest)
    refine ⟨p :: pieces, ?_, ?_⟩
    · rw [List.flatMap_cons, List.append_assoc, hread, htake]
      rfl
    · rw [hp pieces, hjoin]
      rfl

/-! ## Tokens -/

/-- What a token is written as; what stands for no token is not written. -/
def Token.spelling : Token → List Char
  | beginObject => ['\x7b']
  | endObject => ['\x7d']
  | beginArray => ['[']
  | endArray => [']']
  | colon => [':']
  | comma => [',']
  | null => "null".toList
  | bool true => "true".toList
  | bool false => "false".toList
  | number n => n.text
  | text s => '"' :: (s.toList.flatMap escaped ++ ['"'])
  | brokenText => "\"\\ud800\"".toList
  | invalid => []

/-- Whether a token can stand in a text. -/
def Token.IsWritten : Token → Prop
  | number n => n.IsWritten
  | invalid => False
  | _ => True

/-- What may stand behind a token: a number ends only where nothing goes on with it. -/
def Token.Ends : Token → List Char → Prop
  | number _, rest => Number.Ends rest
  | _, _ => True

/-- Digits and minus signs start numbers only. -/
theorem takeToken?_number {c : Char} (hc : c.isDigit = true ∨ c = '-') (s : List Char) :
    isSpace c = false ∧
      takeToken? c s = (Number.take? (c :: s)).map fun r => (.number r.1, r.2) := by
  constructor
  · unfold isSpace
    by_contra h
    simp only [Bool.not_eq_false, Bool.or_eq_true, beq_iff_eq] at h
    rcases h with ((rfl | rfl) | rfl) | rfl <;> exact absurd hc (by decide)
  · unfold takeToken?
    split
    case h_11 => rfl
    all_goals exact absurd hc (by decide)

theorem Number.IsWritten.text_head {n : Number} (hn : n.IsWritten) :
    ∃ c s, n.text = c :: s ∧ (c.isDigit = true ∨ c = '-') := by
  obtain ⟨d, digits, hwhole⟩ := List.exists_cons_of_ne_nil hn.whole_ne_nil
  have hd : d.isDigit = true := hn.whole_digits d (hwhole ▸ List.mem_cons_self)
  rw [Number.text, hwhole]
  cases n.negative with
  | true => exact ⟨'-', _, rfl, .inr rfl⟩
  | false => exact ⟨d, _, rfl, .inl hd⟩

/-- A written token begins with a character that is no space, from which it is read back. -/
theorem Token.IsWritten.takeToken?_spelling {t : Token} (ht : t.IsWritten) :
    ∃ c s, t.spelling = c :: s ∧ isSpace c = false ∧
      ∀ rest, t.Ends rest → takeToken? c (s ++ rest) = some (t, rest) := by
  cases t with
  | invalid => exact ht.elim
  | number n =>
    obtain ⟨c, s, htext, hc⟩ := ht.text_head
    refine ⟨c, s, htext, (takeToken?_number hc []).1, fun rest hrest => ?_⟩
    have htake := Number.take?_text ht hrest
    rw [htext, List.cons_append] at htake
    rw [(takeToken?_number hc _).2, htake]
    rfl
  | text s =>
    refine ⟨'"', _, rfl, rfl, fun rest _ => ?_⟩
    obtain ⟨pieces, htake, hjoin⟩ := takePieces?_quoted s.toList rest
    simp [takeToken?, htake, textToken, hjoin]
  | bool b => cases b <;> exact ⟨_, _, rfl, rfl, fun rest _ => rfl⟩
  | brokenText => exact ⟨_, _, rfl, rfl, fun rest _ => rfl⟩
  | _ => exact ⟨_, _, rfl, rfl, fun rest _ => rfl⟩

theorem isWritten_of_takeToken? {c : Char} {s rest : List Char} {n : Number}
    (h : takeToken? c s = some (.number n, rest)) : n.IsWritten := by
  unfold takeToken? at h
  split at h
  case h_10 =>
    obtain ⟨⟨pieces, _⟩, -, heq⟩ := Option.map_eq_some_iff.mp h
    have htoken : textToken pieces = .number n := (Prod.mk.inj heq).1
    unfold textToken at htoken
    split at htoken <;> cases htoken
  case h_11 =>
    obtain ⟨⟨m, _⟩, htake, heq⟩ := Option.map_eq_some_iff.mp h
    cases heq
    exact Number.isWritten_of_take? htake
  all_goals cases h

/-! ## Texts -/

/-- Whether a text is cut into tokens, whatever bound for its length is given. -/
def ReadsAs (s : List Char) (ts : List Token) : Prop :=
  ∀ size, s.length ≤ size → tokensWithin size s = ts

/-- What tokens are written as, with nothing between them. -/
def spell (ts : List Token) : List Char := ts.flatMap Token.spelling

@[simp] theorem spell_nil : spell [] = [] := rfl

@[simp] theorem spell_cons (t : Token) (ts : List Token) :
    spell (t :: ts) = t.spelling ++ spell ts := List.flatMap_cons

@[simp] theorem spell_append (ts more : List Token) :
    spell (ts ++ more) = spell ts ++ spell more := List.flatMap_append

theorem ReadsAs.nil : ReadsAs [] [] := by
  intro size _
  cases size <;> rfl

/-- A written token is read back in front of any text that does not go on with it. -/
theorem ReadsAs.cons {t : Token} {rest : List Char} {ts : List Token} (ht : t.IsWritten)
    (hends : t.Ends rest) (h : ReadsAs rest ts) : ReadsAs (t.spelling ++ rest) (t :: ts) := by
  obtain ⟨c, s, hspelling, hspace, htake⟩ := ht.takeToken?_spelling
  rw [hspelling, List.cons_append]
  intro size hsize
  cases size with
  | zero => cases hsize
  | succ size =>
    have hrest : rest.length ≤ size := by
      simp only [List.length_cons, List.length_append] at hsize
      omega
    rw [tokensWithin, hspace, if_neg Bool.false_ne_true, htake rest hends]
    exact congrArg (t :: ·) (h size hrest)

theorem ReadsAs.tokens_ofList {s : List Char} {ts : List Token} (h : ReadsAs s ts) :
    tokens (String.ofList s) = ts := by
  rw [tokens, String.toList_ofList]
  exact h _ (Nat.le_refl _)

/-- The numbers that are read can be written. -/
theorem isWritten_of_mem_tokens {s : String} {n : Number} (h : .number n ∈ tokens s) :
    n.IsWritten := by
  have hwithin (size : Nat) (s : List Char) (hmem : .number n ∈ tokensWithin size s) :
      n.IsWritten := by
    induction size generalizing s with
    | zero => cases s <;> simp [tokensWithin] at hmem
    | succ size ih =>
      cases s with
      | nil => cases hmem
      | cons c s =>
        rw [tokensWithin] at hmem
        split at hmem
        · exact ih s hmem
        · split at hmem
          · rename_i token rest htake
            rcases List.mem_cons.mp hmem with rfl | hmem
            · exact isWritten_of_takeToken? htake
            · exact ih rest hmem
          · simp at hmem
  exact hwithin _ _ h

end PgConverge.Json
