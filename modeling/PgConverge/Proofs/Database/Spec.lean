import PgConverge.Database.Spec

/-!
# Valid specs

What a spec has to keep to, and what its check finds where it does not.

## Main definitions

* `DatabaseSpec.IsName`, `DatabaseSpec.IsValid` — what a database may be called, and valid specs.
* `DatabaseSpec.HasProblem` — what can be wrong with a spec, with the field and the message.

## Main statements

* `DatabaseSpec.mem_fieldErrors` — everything that is wrong with a spec is found, and no more.
* `DatabaseSpec.check_eq_ok_iff`, `SpecChange.check_eq_ok_iff` — what passes the check.
-/

namespace PgConverge

namespace DatabaseSpec

/-- Whether a database may have a name: something of it is visible, and it holds no NUL. -/
structure IsName (name : String) : Prop where
  visible : ∃ c ∈ name.toList, Text.isBlank c = false
  noNul : '\x00' ∉ name.toList

/-- Whether a spec is valid. -/
structure IsValid (spec : DatabaseSpec) : Prop where
  name : IsName spec.name
  connectionLimit : -1 ≤ spec.connectionLimit.toInt

/-- What can be wrong with a spec. -/
inductive HasProblem (spec : DatabaseSpec) : FieldError → Prop where
  | blankName : (∀ c ∈ spec.name.toList, Text.isBlank c = true) →
      HasProblem spec ⟨"name", "empty_name", some "database name must not be empty"⟩
  | nulInName : '\x00' ∈ spec.name.toList →
      HasProblem spec ⟨"name", "invalid_name", some "database name must not contain NUL"⟩
  | connectionLimit : spec.connectionLimit.toInt < -1 →
      HasProblem spec
        ⟨"connection_limit", "range", some "connection limit must be -1 or greater"⟩

variable {spec : DatabaseSpec} {problem : FieldError}

theorem isValid_iff : spec.IsValid ↔ ∀ problem, ¬spec.HasProblem problem := by
  constructor
  · rintro ⟨⟨⟨c, hc, hvisible⟩, hnul⟩, hlimit⟩ problem hproblem
    cases hproblem with
    | blankName hblank =>
      rw [hblank c hc] at hvisible
      cases hvisible
    | nulInName hmem => exact hnul hmem
    | connectionLimit hlt => omega
  · intro h
    have hvisible : ¬∀ c ∈ spec.name.toList, Text.isBlank c = true := fun hblank =>
      h _ (.blankName hblank)
    have hnul : '\x00' ∉ spec.name.toList := fun hmem => h _ (.nulInName hmem)
    have hlimit : ¬spec.connectionLimit.toInt < -1 := fun hlt => h _ (.connectionLimit hlt)
    exact ⟨⟨by simpa using hvisible, hnul⟩, by omega⟩

/-- A NUL is not blank, so that one problem with a name excludes the other. -/
theorem mem_nameErrors : problem ∈ nameErrors spec.name ↔
    spec.HasProblem problem ∧ problem.field = "name" := by
  have hnul : '\x00' ∈ spec.name.toList → ¬∀ c ∈ spec.name.toList, Text.isBlank c = true :=
    fun hmem hblank => absurd (hblank _ hmem) (by decide)
  rw [nameErrors]
  constructor
  · intro hmem
    split at hmem
    · rename_i hblank
      rw [List.mem_singleton.mp hmem]
      exact ⟨.blankName (List.all_eq_true.mp hblank), rfl⟩
    · split at hmem
      · rename_i hcontains
        rw [List.mem_singleton.mp hmem]
        exact ⟨.nulInName (List.contains_iff_mem.mp hcontains), rfl⟩
      · cases hmem
  · rintro ⟨hproblem, hfield⟩
    cases hproblem with
    | blankName hblank => simp [List.all_eq_true.mpr hblank]
    | nulInName hmem =>
      have hvisible : ¬spec.name.toList.all Text.isBlank = true := fun hall =>
        hnul hmem (List.all_eq_true.mp hall)
      simp [hvisible, hmem]
    | connectionLimit => simp at hfield

theorem mem_connectionLimitErrors : problem ∈ connectionLimitErrors spec.connectionLimit ↔
    spec.HasProblem problem ∧ problem.field = "connection_limit" := by
  have hlt : spec.connectionLimit < unlimited ↔ spec.connectionLimit.toInt < -1 :=
    Int32.lt_iff_toInt_lt
  rw [connectionLimitErrors]
  constructor
  · intro hmem
    split at hmem
    · rename_i hbelow
      rw [List.mem_singleton.mp hmem]
      exact ⟨.connectionLimit (hlt.mp hbelow), rfl⟩
    · cases hmem
  · rintro ⟨hproblem, hfield⟩
    cases hproblem with
    | blankName => simp at hfield
    | nulInName => simp at hfield
    | connectionLimit hbelow => simp [hlt.mpr hbelow]

/-- Everything that is wrong with a spec is found, and nothing else. -/
theorem mem_fieldErrors : problem ∈ spec.fieldErrors ↔ spec.HasProblem problem := by
  rw [fieldErrors, List.mem_append, mem_connectionLimitErrors, mem_nameErrors, ← and_or_left]
  refine and_iff_left_of_imp fun hproblem => ?_
  cases hproblem with
  | blankName => exact .inr rfl
  | nulInName => exact .inr rfl
  | connectionLimit => exact .inl rfl

/-- Exactly the valid specs pass the check. -/
theorem check_eq_ok_iff : spec.check = .ok () ↔ spec.IsValid := by
  have hnone : spec.fieldErrors = [] ↔ spec.IsValid := by
    rw [isValid_iff, List.eq_nil_iff_forall_not_mem]
    exact forall_congr' fun _ => not_congr mem_fieldErrors
  rw [← hnone, check, FieldError.check]
  cases spec.fieldErrors with
  | nil => exact iff_of_true rfl rfl
  | cons first more => exact iff_of_false nofun (List.cons_ne_nil _ _)

theorem check_of_not_isValid (h : ¬spec.IsValid) :
    spec.check = .error (FieldError.toError spec.fieldErrors) := by
  rw [check, FieldError.check, if_neg]
  intro hnone
  have hempty : FieldError.check spec.fieldErrors = .ok () := if_pos hnone
  exact h (check_eq_ok_iff.mp hempty)

end DatabaseSpec

namespace SpecChange

variable {change : SpecChange}

theorem check_of_invalid {e : Error} (h : change.desired.check = .error e) :
    change.check = .error e := by
  rw [check, h]
  rfl

theorem check_of_fixedChanges (hcheck : change.desired.check = .ok ())
    (h : change.fixedChanges ≠ []) :
    change.check = .error (.validation (String.intercalate ", " change.fixedChanges ++
      " cannot change once the database exists")) := by
  have hsome : change.fixedChanges.isEmpty = false := by simpa using h
  rw [check, hcheck, hsome]
  rfl

theorem check_eq_ok_iff :
    change.check = .ok () ↔ change.desired.IsValid ∧ change.fixedChanges = [] := by
  rw [← DatabaseSpec.check_eq_ok_iff]
  cases hcheck : change.desired.check with
  | error e =>
    rw [check_of_invalid hcheck]
    exact iff_of_false nofun (fun h => nomatch h.1)
  | ok _ =>
    by_cases hfixed : change.fixedChanges = []
    · refine iff_of_true ?_ ⟨rfl, hfixed⟩
      rw [check, hcheck, hfixed]
      rfl
    · rw [check_of_fixedChanges hcheck hfixed]
      exact iff_of_false nofun (fun h => hfixed h.2)

end SpecChange

end PgConverge
