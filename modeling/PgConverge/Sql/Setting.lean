import PgConverge.Text.Blank

/-!
# Requested settings

An optional attribute is requested in one of three ways: not at all, as the server's own default, or
with a value.

## Main definitions

* `Setting`, `Setting.of` — the three ways, and how an attribute's text says which.
* `Setting.orElse` — a value that stands in for no request.

## Main statements

* `Setting.of_eq_unset_iff`, `Setting.of_eq_serverDefault_iff`, `Setting.of_eq_value_iff` — which
  texts say which.
-/

namespace PgConverge

/-- How an optional attribute is requested. -/
inductive Setting where
  | unset
  | serverDefault
  | value (text : String)
deriving DecidableEq, Repr

namespace Setting

/-- The word that asks for the server's default. -/
def defaultWord : String := "DEFAULT"

/-- Whether a text is the word for the server's default, in any case of ASCII letters. -/
def isDefaultWord (text : String) : Bool :=
  text.toList.map Char.toLower == defaultWord.toList.map Char.toLower

/-- Reads an attribute: nothing or the empty text requests nothing, the word `DEFAULT` the server's
default, and every other text itself. -/
def of : Option String → Setting
  | none => unset
  | some text =>
    if text.isEmpty then unset else if isDefaultWord text then serverDefault else value text

/-- A value in place of no request. -/
def orElse (fallback : String) : Setting → Setting
  | unset => value fallback
  | setting => setting

theorem isDefaultWord_iff {text : String} :
    isDefaultWord text = true ↔ text.toLower = "default" := by
  have hword : defaultWord.toList.map Char.toLower = "default".toList := rfl
  have hlower : text.toLower.toList = text.toList.map Char.toLower := String.toList_map
  rw [isDefaultWord, beq_iff_eq, hword, ← hlower, String.toList_inj]

theorem of_some (text : String) : of (some text) =
    if text = "" then unset else if text.toLower = "default" then serverDefault
    else value text := by
  simp only [of, String.isEmpty_iff, isDefaultWord_iff]

variable {raw : Option String} {text : String}

theorem of_eq_unset_iff : of raw = unset ↔ raw = none ∨ raw = some "" := by
  cases raw with
  | none => simp [of]
  | some text =>
    rw [of_some]
    by_cases hempty : text = ""
    · simp [hempty]
    · by_cases hdefault : text.toLower = "default" <;> simp [hempty, hdefault]

theorem of_eq_serverDefault_iff :
    of raw = serverDefault ↔ ∃ text, raw = some text ∧ text.toLower = "default" := by
  have hlower : "".toLower ≠ "default" := mt isDefaultWord_iff.mpr (by decide)
  cases raw with
  | none => simp [of]
  | some text =>
    rw [of_some]
    by_cases hempty : text = ""
    · simp [hempty, hlower]
    · by_cases hdefault : text.toLower = "default" <;> simp [hempty, hdefault]

theorem of_eq_value_iff :
    of raw = value text ↔ raw = some text ∧ text ≠ "" ∧ text.toLower ≠ "default" := by
  cases raw with
  | none => simp [of]
  | some other =>
    rw [of_some]
    constructor
    · intro h
      split at h
      · cases h
      · split at h
        · cases h
        · cases h
          exact ⟨rfl, ‹_›, ‹_›⟩
    · rintro ⟨⟨⟩, hempty, hdefault⟩
      rw [if_neg hempty, if_neg hdefault]

end Setting

end PgConverge
