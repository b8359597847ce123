import Mathlib.Data.List.TakeWhile
import PgConverge.Json.Number
import PgConverge.Proofs.Text.Numeral

/-!
# Written JSON numbers

A number that is read off a text has a whole part without needless zeros, and each such number is
read back from what it is written as. An integer is written in one way only.

## Main definitions

* `Json.Number.IsWritten` — a number that can stand in a text.
* `Json.Number.text` — what a number is written as.

## Main statements

* `Json.Number.integer?_eq_some_iff` — the one number with the value of an integer.
* `Json.Number.take?_text` — a written number is read back, unless what follows goes on with it.
* `Json.Number.isWritten_of_take?` — what is read can be written.
-/

namespace PgConverge.Json

namespace Number

/-- Whether a number can stand in a text. -/
structure IsWritten (n : Number) : Prop where
  whole_ne_nil : n.whole ≠ []
  whole_digits : ∀ c ∈ n.whole, c.isDigit = true
  no_needless_zero : ∀ rest, n.whole = '0' :: rest → rest = []
  fraction_digits : ∀ c ∈ n.fraction, c.isDigit = true

/-! ## Integers -/

theorem isWritten_ofInt (k : Int) : (ofInt k).IsWritten where
  whole_ne_nil := Nat.toDigits_ne_nil
  whole_digits _ hc := Nat.isDigit_of_mem_toDigits (by decide) (by decide) hc
  no_needless_zero _ := Text.eq_nil_of_toDigits
  fraction_digits _ hc := nomatch hc

theorem integer?_ofInt {k : Int} (hlow : Int64.minValue.toInt ≤ k) (hhigh : k < UInt64.size) :
    (ofInt k).integer? = some k := by
  simp only [integer?, ofInt, List.isEmpty_nil, Bool.not_true, Option.isSome_none, Bool.or_self,
    Bool.false_eq_true, if_false, Text.ofDigits_toDigits, decide_eq_true_eq, Bool.and_eq_true]
  by_cases hneg : k < 0
  · rw [if_pos hneg, if_pos (by omega), Option.some.injEq]
    omega
  · rw [if_neg hneg, if_pos (by omega), Option.some.injEq]
    omega

/-- An integer that fits in 64 bits is written in one way only. -/
theorem integer?_eq_some_iff {n : Number} (hn : n.IsWritten) {k : Int} :
    n.integer? = some k ↔ n = ofInt k ∧ Int64.minValue.toInt ≤ k ∧ k < UInt64.size := by
  constructor
  · intro h
    have hmin : Int64.minValue.toInt = -9223372036854775808 := rfl
    have hwhole := Text.toDigits_ofDigits hn.whole_digits hn.whole_ne_nil hn.no_needless_zero
    obtain ⟨negative, whole, fraction, exponent⟩ := n
    simp only [integer?] at h hwhole
    split at h
    · cases h
    · rename_i hplain
      obtain ⟨rfl, rfl⟩ : fraction = [] ∧ exponent = none := by simpa using hplain
      cases negative with
      | true =>
        simp only [if_true, Bool.and_eq_true, decide_eq_true_eq] at h
        split at h
        · cases h
          have habs : (-(Text.ofDigits whole : Int)).natAbs = Text.ofDigits whole := by omega
          refine ⟨?_, by omega, by omega⟩
          rw [ofInt, habs, hwhole, decide_eq_true (by omega)]
        · cases h
      | false =>
        simp only [Bool.false_eq_true, if_false] at h
        split at h
        · cases h
          refine ⟨?_, by omega, by omega⟩
          rw [ofInt, Int.natAbs_natCast, hwhole, decide_eq_false (by omega)]
        · cases h
  · rintro ⟨rfl, hlow, hhigh⟩
    exact integer?_ofInt hlow hhigh

/-! ## Writing -/

/-- What the part behind the point is written as. -/
def fractionText (fraction : List Char) : List Char :=
  if fraction.isEmpty then [] else '.' :: fraction

/-- A minus sign in front of a negative integer. -/
def signText (e : Int) : List Char := if e < 0 then ['-'] else []

/-- What an exponent is written as. -/
def exponentText : Option Int → List Char
  | none => []
  | some e => 'e' :: (signText e ++ Nat.toDigits 10 e.natAbs)

/-- What a number is written as. -/
def text (n : Number) : List Char :=
  (if n.negative then ['-'] else []) ++
    (n.whole ++ (fractionText n.fraction ++ exponentText n.exponent))

/-- Whether a character would be read as part of the number in front of it. -/
def goesOn (c : Char) : Bool := c.isDigit || c == '.' || c == 'e' || c == 'E'

/-- Whether a text does not go on with the number in front of it. -/
def Ends (rest : List Char) : Prop := ∀ c ∈ rest.head?, goesOn c = false

section Ends

variable {rest : List Char}

theorem Ends.isDigit_eq_false (h : Ends rest) {c : Char} (hc : c ∈ rest.head?) :
    c.isDigit = false := by
  have hgoes := h c hc
  simp only [goesOn, Bool.or_eq_false_iff] at hgoes
  exact hgoes.1.1.1

/-- What stands behind the digits of a fraction. -/
theorem Ends.exponent (h : Ends rest) (exponent : Option Int) :
    ∀ c ∈ (exponentText exponent ++ rest).head?, c.isDigit = false ∧ c ≠ '.' := by
  intro c hc
  cases exponent with
  | none =>
    refine ⟨h.isDigit_eq_false hc, ?_⟩
    rintro rfl
    cases h _ hc
  | some e =>
    cases hc
    decide

/-- What stands behind the digits of a whole part. -/
theorem Ends.fraction (h : Ends rest) (fraction : List Char) (exponent : Option Int) :
    ∀ c ∈ (fractionText fraction ++ (exponentText exponent ++ rest)).head?, c.isDigit = false := by
  intro c hc
  cases fraction with
  | nil => exact (h.exponent exponent c hc).1
  | cons d fraction =>
    cases hc
    decide

end Ends

theorem takeDigits_append {digits rest : List Char} (hdigits : ∀ c ∈ digits, c.isDigit = true)
    (hrest : ∀ c ∈ rest.head?, c.isDigit = false) :
    takeDigits (digits ++ rest) = (digits, rest) := by
  rw [takeDigits, List.takeWhile_append_of_pos hdigits, List.dropWhile_append_of_pos hdigits]
  cases rest with
  | nil => simp
  | cons c rest =>
    have hc : c.isDigit = false := hrest c rfl
    simp [hc]

theorem takeWhole?_append {n : Number} (hn : n.IsWritten) {rest : List Char}
    (hrest : ∀ c ∈ rest.head?, c.isDigit = false) :
    takeWhole? (n.whole ++ rest) = some (n.whole, rest) := by
  rw [takeWhole?, takeDigits_append hn.whole_digits hrest]
  have hne := hn.whole_ne_nil
  have hzero := hn.no_needless_zero
  split
  · rename_i h
    exact absurd (Prod.mk.inj h).1 hne
  · rename_i h
    exact absurd (hzero _ (Prod.mk.inj h).1) (List.cons_ne_nil _ _)
  · rfl

theorem takeFraction?_append {fraction rest : List Char}
    (hfraction : ∀ c ∈ fraction, c.isDigit = true)
    (hrest : ∀ c ∈ rest.head?, c.isDigit = false ∧ c ≠ '.') :
    takeFraction? (fractionText fraction ++ rest) = some (fraction, rest) := by
  cases fraction with
  | nil =>
    cases rest with
    | nil => rfl
    | cons c rest => simp [fractionText, takeFraction?, (hrest c rfl).2]
  | cons d fraction =>
    have hdigits := takeDigits_append hfraction fun c hc => (hrest c hc).1
    rw [List.cons_append] at hdigits
    simp [fractionText, takeFraction?, hdigits]

theorem takeExponentDigits?_append (e : Int) {rest : List Char}
    (hrest : ∀ c ∈ rest.head?, c.isDigit = false) :
    takeExponentDigits? (signText e ++ (Nat.toDigits 10 e.natAbs ++ rest)) =
      some (some e, rest) := by
  have hdigits : ∀ c ∈ Nat.toDigits 10 e.natAbs, c.isDigit = true :=
    fun _ hc => Nat.isDigit_of_mem_toDigits (by decide) (by decide) hc
  have htake := takeDigits_append hdigits hrest
  have hvalue := Text.ofDigits_toDigits e.natAbs
  obtain ⟨d, digits, hwritten⟩ := List.exists_cons_of_ne_nil (Nat.toDigits_ne_nil (n := e.natAbs))
  rw [hwritten] at hdigits htake hvalue ⊢
  rw [List.cons_append] at htake ⊢
  by_cases hneg : e < 0
  · have hvalue' : (Text.ofDigits (d :: digits) : Int) = -e := by omega
    simp [signText, takeExponentDigits?, hneg, htake, hvalue']
  · -- Without a sign the digits come first, and none of them is a sign.
    have hd : d.isDigit = true := hdigits d List.mem_cons_self
    have hminus : d ≠ '-' := by rintro rfl; cases hd
    have hplus : d ≠ '+' := by rintro rfl; cases hd
    have hvalue' : (Text.ofDigits (d :: digits) : Int) = e := by omega
    simp [signText, takeExponentDigits?, hneg, hminus, hplus, htake, hvalue']

theorem takeExponent?_append (exponent : Option Int) {rest : List Char} (hrest : Ends rest) :
    takeExponent? (exponentText exponent ++ rest) = some (exponent, rest) := by
  cases exponent with
  | none =>
    cases rest with
    | nil => rfl
    | cons c rest =>
      have hc : goesOn c = false := hrest c rfl
      have he : c ≠ 'e' := by rintro rfl; cases hc
      have hE : c ≠ 'E' := by rintro rfl; cases hc
      simp [exponentText, takeExponent?, he, hE]
  | some e =>
    rw [exponentText, List.cons_append, List.append_assoc, takeExponent?,
      takeExponentDigits?_append e fun c hc => hrest.isDigit_eq_false hc]

/-- A written number is read back, unless what follows goes on with it. -/
theorem take?_text {n : Number} (hn : n.IsWritten) {rest : List Char} (hrest : Ends rest) :
    take? (n.text ++ rest) = some (n, rest) := by
  obtain ⟨d, digits, hwhole⟩ := List.exists_cons_of_ne_nil hn.whole_ne_nil
  have hd : d.isDigit = true := hn.whole_digits d (hwhole ▸ List.mem_cons_self)
  have hminus : d ≠ '-' := by rintro rfl; cases hd
  have hexponent := takeExponent?_append n.exponent hrest
  have hfraction := takeFraction?_append hn.fraction_digits (hrest.exponent n.exponent)
  have hfront := takeWhole?_append hn (hrest.fraction n.fraction n.exponent)
  obtain ⟨negative, whole, fraction, exponent⟩ := n
  obtain rfl : whole = d :: digits := hwhole
  rw [List.cons_append] at hfront
  cases negative <;> simp [text, take?, hminus, hfront, hfraction, hexponent]

/-! ## Reading -/

theorem takeDigits_isDigit (s : List Char) : ∀ c ∈ (takeDigits s).1, c.isDigit = true :=
  fun _ hc => List.mem_takeWhile_imp hc

theorem isDigit_of_takeFraction? {s fraction rest : List Char}
    (h : takeFraction? s = some (fraction, rest)) : ∀ c ∈ fraction, c.isDigit = true := by
  unfold takeFraction? at h
  split at h
  · rename_i s
    have hdigits := takeDigits_isDigit s
    split at h
    · cases h
    · rwa [Option.some.inj h] at hdigits
  · cases h
    exact List.forall_mem_nil _

theorem of_takeWhole? {s whole rest : List Char} (h : takeWhole? s = some (whole, rest)) :
    whole ≠ [] ∧ (∀ c ∈ whole, c.isDigit = true) ∧ ∀ more, whole = '0' :: more → more = [] := by
  have hdigits := takeDigits_isDigit s
  unfold takeWhole? at h
  split at h
  · cases h
  · cases h
  · rename_i hne hzero
    have htake : takeDigits s = (whole, rest) := Option.some.inj h
    rw [htake] at hdigits
    refine ⟨?_, hdigits, ?_⟩
    · rintro rfl
      exact hne _ htake
    · rintro more rfl
      cases more with
      | nil => rfl
      | cons c more => exact (hzero _ _ _ htake).elim

/-- What is read off a text can be written. -/
theorem isWritten_of_take? {s rest : List Char} {n : Number} (h : take? s = some (n, rest)) :
    n.IsWritten := by
  simp only [take?, Option.bind_eq_bind, Option.bind_eq_some_iff, Option.pure_def,
    Option.some.injEq, Prod.mk.injEq, Prod.exists] at h
  obtain ⟨whole, _, hwhole, fraction, _, hfraction, exponent, _, -, rfl, -⟩ := h
  obtain ⟨hne, hdigits, hzero⟩ := of_takeWhole? hwhole
  exact ⟨hne, hdigits, hzero, isDigit_of_takeFraction? hfraction⟩

end Number

end PgConverge.Json
