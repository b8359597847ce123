import PgConverge.Version

/-!
# Versions at least as new as another

The first versions of all features end in 0, so that the first two numbers of a version tell which
features it has.

## Main definitions

* `ServerVersion.atLeast` — whether a version is not older than the first one with two numbers.

## Main statements

* `ServerVersion.supports_eq_atLeast` — a version has the features that are not newer than it.
-/

namespace PgConverge

theorem isGE_then {a b : Ordering} :
    (a.then b).isGE = true ↔ a = .gt ∨ a = .eq ∧ b.isGE = true := by
  cases a <;> simp [Ordering.then]

namespace ServerVersion

/-- Whether a version is not older than the first one with the given two numbers. -/
def atLeast (v : ServerVersion) (major minor : UInt32) : Bool :=
  decide (major < v.major ∨ v.major = major ∧ minor ≤ v.minor)

theorem isGE_compare_iff (v w : ServerVersion) :
    (compare v w).isGE = true ↔
      w.major < v.major ∨ v.major = w.major ∧
        (w.minor < v.minor ∨ v.minor = w.minor ∧ w.patch ≤ v.patch) := by
  have hcompare : compare v w = (compare v.major w.major).then
      ((compare v.minor w.minor).then (compare v.patch w.patch)) := rfl
  rw [hcompare, isGE_then, isGE_then, Std.compare_eq_gt, Std.compare_eq_gt, Std.isGE_compare,
    Std.compare_eq_iff_eq, Std.compare_eq_iff_eq]

theorem supports_eq_atLeast (v : ServerVersion) (feature : Feature) :
    v.supports feature = v.atLeast feature.since.major feature.since.minor := by
  have hpatch : feature.since.patch ≤ v.patch := by
    cases feature <;> exact UInt32.zero_le
  have hminor : feature.since.minor ≤ v.minor ↔
      feature.since.minor < v.minor ∨ v.minor = feature.since.minor :=
    UInt32.le_iff_lt_or_eq.trans (or_congr_right eq_comm)
  rw [Bool.eq_iff_iff, supports, isGE_compare_iff, atLeast, decide_eq_true_iff,
    and_iff_left hpatch, hminor]

theorem supports_of_require {v : ServerVersion} {feature : Feature}
    (h : v.require feature = .ok ()) : v.supports feature = true := by
  unfold require at h
  split at h
  · assumption
  · cases h

end ServerVersion

end PgConverge
