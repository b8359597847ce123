import Mathlib.Data.List.TakeWhile
import PgConverge.Text.Split

/-!
# Pieces of a text

Where a text is cut depends on its first part alone if that has a separator, and on its second part
alone if the first has none.

## Main statements

* `Text.splitFirst_append`, `Text.splitFirst_append_of_mem`, `Text.splitFirst_append_of_forall` —
  cuts at a first separator.
* `Text.splitBefore_append_of_mem`, `Text.splitBefore_append_of_forall` — cuts in front of it.
* `Text.splitLast_append` — cuts at a last separator in the second part.
* `Text.of_splitFirst`, `Text.of_splitBefore` — the text that pieces come from.
-/

namespace PgConverge.Text

variable {separates : Char → Bool} {s rest before behind : List Char} {c : Char}

/-! ## The first separator -/

theorem splitFirst_append_of_forall (hs : ∀ c ∈ s, separates c = false) :
    splitFirst separates (s ++ rest) =
      (s ++ (splitFirst separates rest).1, (splitFirst separates rest).2) := by
  induction s with
  | nil => rfl
  | cons d s ih =>
    obtain ⟨hd, hs⟩ := List.forall_mem_cons.mp hs
    simp [splitFirst, hd, ih hs]

theorem splitFirst_append (hs : ∀ c ∈ s, separates c = false) (hc : separates c = true) :
    splitFirst separates (s ++ c :: rest) = (s, some rest) := by
  rw [splitFirst_append_of_forall hs]
  simp [splitFirst, hc]

theorem splitFirst_of_forall (hs : ∀ c ∈ s, separates c = false) :
    splitFirst separates s = (s, none) := by
  have hsplit : splitFirst separates (s ++ []) = _ := splitFirst_append_of_forall hs
  simpa [splitFirst] using hsplit

theorem of_splitFirst (h : splitFirst separates s = (before, some behind)) :
    (∀ c ∈ before, separates c = false) ∧ ∃ c, separates c = true ∧ s = before ++ c :: behind := by
  induction s generalizing before with
  | nil => cases h
  | cons d s ih =>
    rw [splitFirst] at h
    split at h
    · rename_i hd
      cases h
      exact ⟨List.forall_mem_nil _, d, hd, rfl⟩
    · rename_i hd
      obtain ⟨rfl, hbehind⟩ := Prod.mk.inj h
      obtain ⟨hbefore, c, hc, hs⟩ := ih (Prod.ext rfl hbehind)
      refine ⟨List.forall_mem_cons.mpr ⟨eq_false_of_ne_true hd, hbefore⟩, c, hc, ?_⟩
      exact congrArg (d :: ·) hs

/-- A text with a separator is a text without one, a separator, and the rest. -/
theorem exists_splitFirst (hs : ∃ c ∈ s, separates c = true) :
    ∃ before c behind, (∀ c ∈ before, separates c = false) ∧ separates c = true ∧
      s = before ++ c :: behind := by
  induction s with
  | nil => simp at hs
  | cons d s ih =>
    by_cases hd : separates d = true
    · exact ⟨[], d, s, List.forall_mem_nil _, hd, rfl⟩
    · obtain ⟨c, hmem, hc⟩ := hs
      have hrest : c ∈ s := by
        rcases List.mem_cons.mp hmem with rfl | hmem
        · exact absurd hc hd
        · exact hmem
      obtain ⟨before, c, behind, hbefore, hc, rfl⟩ := ih ⟨c, hrest, hc⟩
      exact ⟨d :: before, c, behind,
        List.forall_mem_cons.mpr ⟨eq_false_of_ne_true hd, hbefore⟩, hc, rfl⟩

theorem splitFirst_append_of_mem (separates : Char → Bool) (hs : ∃ c ∈ s, separates c = true) :
    ∃ before behind, ∀ rest,
      splitFirst separates (s ++ rest) = (before, some (behind ++ rest)) := by
  obtain ⟨before, c, behind, hbefore, hc, rfl⟩ := exists_splitFirst hs
  refine ⟨before, behind, fun rest => ?_⟩
  rw [List.append_assoc, List.cons_append, splitFirst_append hbefore hc]

/-! ## In front of the first separator -/

theorem splitBefore_append_of_forall (hs : ∀ c ∈ s, separates c = false) :
    splitBefore separates (s ++ rest) =
      (s ++ (splitBefore separates rest).1, (splitBefore separates rest).2) := by
  induction s with
  | nil => rfl
  | cons d s ih =>
    obtain ⟨hd, hs⟩ := List.forall_mem_cons.mp hs
    have hrest := ih hs
    simp only [splitBefore, Prod.mk.injEq] at hrest ⊢
    simp [hd, hrest]

theorem splitBefore_append_of_mem (separates : Char → Bool) (hs : ∃ c ∈ s, separates c = true) :
    ∃ before c behind, s = before ++ c :: behind ∧ (∀ c ∈ before, separates c = false) ∧
      separates c = true ∧ ∀ rest, splitBefore separates (s ++ rest) =
        (before, c :: (behind ++ rest)) := by
  obtain ⟨before, c, behind, hbefore, hc, rfl⟩ := exists_splitFirst hs
  refine ⟨before, c, behind, rfl, hbefore, hc, fun rest => ?_⟩
  rw [List.append_assoc, List.cons_append, splitBefore_append_of_forall hbefore]
  simp [splitBefore, hc]

theorem of_splitBefore (h : splitBefore separates s = (before, rest)) :
    (∀ c ∈ before, separates c = false) ∧ s = before ++ rest := by
  obtain ⟨rfl, rfl⟩ := Prod.mk.inj h
  refine ⟨fun c hc => ?_, List.takeWhile_append_dropWhile.symm⟩
  simpa using List.mem_takeWhile_imp hc

/-! ## The last separator -/

theorem splitLast_append (h : splitLast separates rest = (some before, behind)) :
    splitLast separates (s ++ rest) = (some (s ++ before), behind) := by
  induction s with
  | nil => exact h
  | cons d s ih => rw [List.cons_append, splitLast, ih]; rfl

/-- A separator in front is the last one, unless there is another. -/
theorem exists_splitLast_cons (separates : Char → Bool) (hc : separates c = true) (s : List Char) :
    ∃ before behind, splitLast separates (c :: s) = (some before, behind) := by
  rw [splitLast]
  split
  · exact ⟨_, _, rfl⟩
  · rw [if_pos hc]
    exact ⟨_, _, rfl⟩

end PgConverge.Text
