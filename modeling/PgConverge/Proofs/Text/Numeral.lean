import Mathlib.Data.List.Induction
import PgConverge.Text.Numeral

/-!
# Written numbers

A number that is written in decimal digits is read back as the same number, and digits without
needless zeros are what their value is written as.

## Main statements

* `Text.natural?_repr`, `Text.integer?_repr` — reading a written natural number, a written integer.
* `Text.toDigits_ofDigits` — writing a number that was read.
* `Text.int32?_toString` — the same for integers of 32 bits.
-/

namespace PgConverge.Text

/-- Reads a numeral that fits in 32 bits with sign. -/
def int32? (s : List Char) : Option Int32 :=
  (bounded? Int32.minValue.toInt Int32.maxValue.toInt s).map Int32.ofInt

theorem ofDigits_eq_ofDigitChars (digits : List Char) :
    ofDigits digits = Nat.ofDigitChars 10 digits 0 := Nat.ofDigitChars_eq_foldl.symm

theorem ofDigits_toDigits (n : Nat) : ofDigits (Nat.toDigits 10 n) = n := by
  rw [ofDigits_eq_ofDigitChars, Nat.ofDigitChars_ten_toDigits]

theorem all_isDigit_toDigits (n : Nat) : (Nat.toDigits 10 n).all Char.isDigit = true :=
  List.all_eq_true.mpr fun _ hc => Nat.isDigit_of_mem_toDigits (by decide) (by decide) hc

theorem natural?_repr (n : Nat) : natural? (Nat.repr n).toList = some n := by
  have hempty : (Nat.toDigits 10 n).isEmpty = false := by simp [Nat.toDigits_ne_nil]
  simp [natural?, all_isDigit_toDigits, hempty, ofDigits_toDigits]

/-- Digits alone have no sign. -/
theorem integer?_of_all_isDigit {s : List Char} (h : s.all Char.isDigit = true) :
    integer? s = (natural? s).map Int.ofNat := by
  cases s with
  | nil => rfl
  | cons c s =>
    have hc : c.isDigit = true := (Bool.and_eq_true_iff.mp h).1
    have hminus : c ≠ '-' := by rintro rfl; cases hc
    have hplus : c ≠ '+' := by rintro rfl; cases hc
    simp [integer?, hminus, hplus]

theorem integer?_repr (n : Int) : integer? (Int.repr n).toList = some n := by
  cases n with
  | ofNat n =>
    have hdigits : (Nat.repr n).toList.all Char.isDigit = true := by
      simpa using all_isDigit_toDigits n
    simp only [Int.repr, integer?_of_all_isDigit hdigits, natural?_repr, Option.map_some]
  | negSucc n =>
    have hread : natural? (Nat.repr (n + 1)).toList = some (n + 1) := natural?_repr (n + 1)
    have hminus : (Int.repr (.negSucc n)).toList = '-' :: (Nat.repr (n + 1)).toList := by
      simp [Int.repr]
    rw [hminus, integer?, hread]
    rfl

theorem int32?_toString (n : Int32) : int32? (toString n.toInt).toList = some n := by
  have hread : integer? (toString n.toInt).toList = some n.toInt := integer?_repr n.toInt
  have hlow : Int32.minValue.toInt ≤ n.toInt := n.minValue_le_toInt
  have hhigh : n.toInt ≤ Int32.maxValue.toInt := n.toInt_le
  have hrange : (Int32.minValue.toInt ≤ n.toInt && n.toInt ≤ Int32.maxValue.toInt) = true := by
    simp only [hlow, hhigh, decide_true, Bool.and_self]
  rw [int32?, bounded?, hread, Option.filter_some, if_pos hrange, Option.map_some,
    Int32.ofInt_toInt]

/-! ## Writing what was read -/

theorem digitValue_lt {c : Char} (h : c.isDigit = true) : digitValue c < 10 := by
  have hrange : 48 ≤ c.toNat ∧ c.toNat ≤ 57 := by
    simpa [Char.isDigit, UInt32.le_iff_toNat_le] using h
  have hzero : '0'.toNat = 48 := rfl
  rw [digitValue]
  omega

theorem digitChar_digitValue {c : Char} (h : c.isDigit = true) :
    Nat.digitChar (digitValue c) = c := by
  have hrange : 48 ≤ c.toNat ∧ c.toNat ≤ 57 := by
    simpa [Char.isDigit, UInt32.le_iff_toNat_le] using h
  have hchar : ∀ k < 10, Nat.digitChar k = Char.ofNat (48 + k) := by decide
  have hzero : '0'.toNat = 48 := rfl
  have hcode : 48 + digitValue c = c.toNat := by
    rw [digitValue]
    omega
  rw [hchar _ (digitValue_lt h), hcode, Char.ofNat_toNat]

theorem ofDigits_concat (digits : List Char) (c : Char) :
    ofDigits (digits ++ [c]) = 10 * ofDigits digits + digitValue c := by
  simp [ofDigits]

/-- Digits that do not start with a zero have a positive value. -/
theorem ofDigits_pos {digits : List Char} (hdigits : ∀ c ∈ digits, c.isDigit = true)
    (hne : digits ≠ []) (hzero : digits.head? ≠ some '0') : 0 < ofDigits digits := by
  induction digits using List.reverseRecOn with
  | nil => exact absurd rfl hne
  | append_singleton digits c ih =>
    obtain ⟨hdigits, hc⟩ := List.forall_mem_append.mp hdigits
    rw [ofDigits_concat]
    cases digits with
    | nil =>
      have hchar := digitChar_digitValue (hc c (List.mem_singleton_self c))
      have hvalue : digitValue c ≠ 0 := by
        intro h0
        rw [h0] at hchar
        exact hzero (congrArg some hchar.symm)
      omega
    | cons d digits =>
      have hpos := ih hdigits (List.cons_ne_nil _ _) hzero
      omega

/-- Digits without needless zeros are what their value is written as. -/
theorem toDigits_ofDigits {digits : List Char} (hdigits : ∀ c ∈ digits, c.isDigit = true)
    (hne : digits ≠ []) (hzero : ∀ rest, digits = '0' :: rest → rest = []) :
    Nat.toDigits 10 (ofDigits digits) = digits := by
  induction digits using List.reverseRecOn with
  | nil => exact absurd rfl hne
  | append_singleton digits c ih =>
    obtain ⟨hdigits, hc⟩ := List.forall_mem_append.mp hdigits
    have hc : c.isDigit = true := hc c (List.mem_singleton_self c)
    have hlast : Nat.toDigits 10 (digitValue c) = [c] := by
      rw [Nat.toDigits_of_lt_base (digitValue_lt hc), digitChar_digitValue hc]
    rw [ofDigits_concat]
    cases digits with
    | nil =>
      have hvalue : 10 * ofDigits [] + digitValue c = digitValue c := by simp [ofDigits]
      rw [hvalue, hlast, List.nil_append]
    | cons d digits =>
      have hd : d ≠ '0' := by
        rintro rfl
        exact List.append_ne_nil_of_right_ne_nil _ (List.cons_ne_nil c []) (hzero _ rfl)
      have hpos : 0 < ofDigits (d :: digits) :=
        ofDigits_pos hdigits (List.cons_ne_nil _ _) fun h => hd (Option.some.inj h)
      have hfront := ih hdigits (List.cons_ne_nil _ _) fun rest h => absurd (List.cons.inj h).1 hd
      rw [← Nat.toDigits_append_toDigits (by decide) hpos (digitValue_lt hc), hfront, hlast]

/-- No number is written with a needless zero. -/
theorem eq_nil_of_toDigits {n : Nat} {rest : List Char} (h : Nat.toDigits 10 n = '0' :: rest) :
    rest = [] := by
  induction n using Nat.strongRecOn generalizing rest with
  | ind n ih =>
    by_cases hn : n < 10
    · rw [Nat.toDigits_of_lt_base hn] at h
      exact (List.cons.inj h).2.symm
    · rw [Nat.toDigits_of_base_le (by decide) (by omega)] at h
      obtain ⟨d, digits, hfront⟩ := List.exists_cons_of_ne_nil (Nat.toDigits_ne_nil (n := n / 10))
      rw [hfront, List.cons_append] at h
      obtain ⟨rfl, -⟩ := List.cons.inj h
      obtain rfl := ih (n / 10) (by omega) hfront
      have hvalue : ofDigits ['0'] = n / 10 := hfront ▸ ofDigits_toDigits (n / 10)
      have hzero : ofDigits ['0'] = 0 := rfl
      omega

end PgConverge.Text
