import Mathlib.Data.List.TakeWhile
import PgConverge.Text.Blank

/-!
# Trimmed texts

What is left of a text once the blanks at both ends are taken off, without saying how that is done.

## Main definitions

* `Text.IsTrimOf` — a text is another one without the blanks around it.

## Main statements

* `Text.isTrimOf_iff` — there is exactly one such text, and it is the trimmed one.
-/

namespace PgConverge.Text

/-- Whether a text is another one without the blanks around it. -/
structure IsTrimOf (t s : List Char) : Prop where
  /-- Nothing but blanks stands before it and behind it. -/
  cut : ∃ before after, s = before ++ (t ++ after) ∧
    (∀ c ∈ before, isBlank c = true) ∧ ∀ c ∈ after, isBlank c = true
  head : ∀ c ∈ t.head?, isBlank c = false
  last : ∀ c ∈ t.getLast?, isBlank c = false

theorem dropWhile_isBlank_of_head {s : List Char} (h : ∀ c ∈ s.head?, isBlank c = false) :
    s.dropWhile isBlank = s := by
  cases s with
  | nil => rfl
  | cons c s =>
    have hc : isBlank c = false := h c rfl
    simp [hc]

theorem dropWhile_isBlank_head (s : List Char) :
    ∀ c ∈ (s.dropWhile isBlank).head?, isBlank c = false := by
  intro c hc
  have hnot := List.head?_dropWhile_not isBlank s
  rw [Option.mem_def.mp hc] at hnot
  exact hnot

/-- Only blanks are dropped at the end, and no blank is left there. -/
theorem isTrimOf_trimEnd {s : List Char} (h : ∀ c ∈ s.head?, isBlank c = false) :
    IsTrimOf (trimEnd s) s := by
  have hcut : trimEnd s ++ (s.reverse.takeWhile isBlank).reverse = s := by
    rw [trimEnd, ← List.reverse_append, List.takeWhile_append_dropWhile, List.reverse_reverse]
  refine ⟨⟨[], _, hcut.symm, List.forall_mem_nil _, fun c hc => ?_⟩, fun c hc => ?_, fun c hc => ?_⟩
  · exact List.mem_takeWhile_imp (List.mem_reverse.mp hc)
  · have hhead : c ∈ s.head? := by
      rw [← hcut, List.head?_append, Option.mem_def.mp hc]
      rfl
    exact h c hhead
  · rw [trimEnd, List.getLast?_reverse] at hc
    exact dropWhile_isBlank_head _ c hc

theorem isTrimOf_trim (s : List Char) : IsTrimOf (trim s) s := by
  obtain ⟨⟨before, after, hcut, hbefore, hafter⟩, hhead, hlast⟩ :=
    isTrimOf_trimEnd (dropWhile_isBlank_head s)
  refine ⟨⟨s.takeWhile isBlank ++ before, after, ?_, ?_, hafter⟩, hhead, hlast⟩
  · rw [List.append_assoc, trim, ← hcut, List.takeWhile_append_dropWhile]
  · exact List.forall_mem_append.mpr ⟨fun c hc => List.mem_takeWhile_imp hc, hbefore⟩

theorem IsTrimOf.eq_trim {t s : List Char} (h : IsTrimOf t s) : t = trim s := by
  obtain ⟨⟨before, after, rfl, hbefore, hafter⟩, hhead, hlast⟩ := h
  have hreverse : ∀ c ∈ after.reverse, isBlank c = true :=
    fun c hc => hafter c (List.mem_reverse.mp hc)
  rw [trim, List.dropWhile_append_of_pos hbefore]
  cases t with
  | nil =>
    have hnone : after.dropWhile isBlank = [] := List.dropWhile_eq_nil_iff.mpr hafter
    rw [List.nil_append, hnone]
    rfl
  | cons c t =>
    have hstart : ((c :: t) ++ after).dropWhile isBlank = (c :: t) ++ after :=
      dropWhile_isBlank_of_head hhead
    have hend : (c :: t).reverse.dropWhile isBlank = (c :: t).reverse :=
      dropWhile_isBlank_of_head (by rwa [List.head?_reverse])
    rw [hstart, trimEnd, List.reverse_append, List.dropWhile_append_of_pos hreverse, hend,
      List.reverse_reverse]

theorem isTrimOf_iff {t s : List Char} : IsTrimOf t s ↔ t = trim s :=
  ⟨IsTrimOf.eq_trim, fun h => h ▸ isTrimOf_trim s⟩

end PgConverge.Text
