import PgConverge.Proofs.Catalog
import PgConverge.Proofs.Reconciler.Requests
import PgConverge.Proofs.Version
import PgConverge.Proofs.Version.Reading

/-!
# The version that a server reports

A server reports its version as one number. Versions are ordered as these numbers are, also across
the number from which on they have four digits for the second number, and the first version with a
feature has a number of its own, so that a feature is there from that number on.

## Main definitions

* `Feature.sinceNumber` — the first number that servers with a feature report.
* `ServerVersion.ShownBy` — an answer shows a number.

## Main statements

* `ServerVersion.compare_ofNumber_eq_lt_iff` — a smaller number is that of an older version.
* `ServerVersion.supports_ofNumber_iff` — the features of the version with a number.
* `ServerVersion.reported_tells_features` — a version is learned from every answer that shows a
  number, and from no other one, and with it the features of the server.
-/

namespace PgConverge

/-- The first number that servers with a feature report. -/
def Feature.sinceNumber : Feature → UInt32
  | allowConnections | isTemplate => 90500
  | forcedDrop => 130000
  | pidColumn => 90200

namespace ServerVersion

/-! ## The order of numbers -/

/-- The version with a number is not older than that with another one exactly if its number is not
smaller. -/
theorem isGE_compare_ofNumber_iff (n m : UInt32) :
    (compare (ofNumber n) (ofNumber m)).isGE = true ↔ m ≤ n := by
  have hn := numbers_ofNumber n
  have hm := numbers_ofNumber m
  rw [isGE_compare_iff]
  simp only [UInt32.lt_iff_toNat_lt, UInt32.le_iff_toNat_le, ← UInt32.toNat_inj]
  -- Each number may stand on either side of the one from which on the minor number has four digits.
  by_cases hfour : 100000 ≤ n.toNat <;> by_cases hfour' : 100000 ≤ m.toNat <;>
    simp only [numbers, hfour, hfour', if_true, if_false, List.cons.injEq, and_true] at hn hm <;>
    omega

theorem compare_ofNumber_eq_lt_iff (n m : UInt32) :
    compare (ofNumber n) (ofNumber m) = .lt ↔ n < m := by
  have hge := isGE_compare_ofNumber_iff n m
  rw [← UInt32.not_le, ← hge]
  cases compare (ofNumber n) (ofNumber m) <;> decide

theorem ofNumber_injective : Function.Injective ofNumber := by
  intro n m h
  have hnm : n ≤ m := (isGE_compare_ofNumber_iff m n).mp
    (h ▸ (isGE_compare_ofNumber_iff n n).mpr (UInt32.le_refl n))
  have hmn : m ≤ n := (isGE_compare_ofNumber_iff n m).mp
    (h ▸ (isGE_compare_ofNumber_iff m m).mpr (UInt32.le_refl m))
  exact UInt32.le_antisymm hnm hmn

/-! ## Features by number -/

theorem since_eq_ofNumber (feature : Feature) : feature.since = ofNumber feature.sinceNumber := by
  cases feature <;> rfl

theorem supports_ofNumber_iff (n : UInt32) (feature : Feature) :
    (ofNumber n).supports feature = true ↔ feature.sinceNumber ≤ n := by
  rw [supports, since_eq_ofNumber, isGE_compare_ofNumber_iff]

theorem require_eq_ok_iff {v : ServerVersion} {feature : Feature} :
    v.require feature = .ok () ↔ v.supports feature = true := by
  refine ⟨supports_of_require, fun h => ?_⟩
  rw [require, if_pos h]

/-! ## Asking for the number -/

/-- An answer shows a number: its row has the number in the first column, as an integer or as a
numeral between blanks. -/
def ShownBy (n : UInt32) (answer : Except Error (Option Row)) : Prop :=
  ∃ row value, answer = .ok (some row) ∧ row.get? 0 = some value ∧
    value.wholeNumber? = some (n.toNat : Int)

end ServerVersion

/-- A number that is negative or does not fit in 32 bits is no version number. -/
theorem versionNumberOf_eq_ok_iff {k : Int64} {n : UInt32} :
    versionNumberOf k = .ok n ↔ k.toInt = n.toNat := by
  have hlt : n.toNat < 4294967296 := n.toNat_lt_size
  have hsize : (UInt32.size : Int) = 4294967296 := rfl
  rw [versionNumberOf]
  by_cases hrange : 0 ≤ k.toInt ∧ k.toInt < 4294967296
  · rw [if_pos (by simpa [hsize] using hrange), Except.ok.injEq, ← UInt32.toNat_inj,
      UInt32.toNat_ofNat_of_lt' (by rw [UInt32.size]; omega)]
    omega
  · rw [if_neg (by simpa [hsize] using hrange)]
    exact iff_of_false (by rintro ⟨⟩) (by omega)

theorem Row.serverVersion_eq_ok_iff {row : Row} {v : ServerVersion} :
    row.serverVersion = .ok v ↔
      ∃ n value, v = .ofNumber n ∧ row.get? 0 = some value ∧
        value.wholeNumber? = some (n.toNat : Int) := by
  simp only [serverVersion, bind_eq_ok_iff, integer_eq_ok_iff, versionNumberOf_eq_ok_iff, pure,
    Except.pure, Except.ok.injEq]
  constructor
  · rintro ⟨k, ⟨value, hvalue, hk⟩, n, hn, rfl⟩
    exact ⟨n, value, rfl, hvalue, hn ▸ hk⟩
  · rintro ⟨n, value, rfl, hvalue, hn⟩
    have hlt : n.toNat < 4294967296 := n.toNat_lt_size
    have hk : (Int64.ofInt n.toNat).toInt = n.toNat :=
      Int64.toInt_ofInt_of_le (by omega) (by omega)
    exact ⟨_, ⟨value, hvalue, hk.symm ▸ hn⟩, n, hk, rfl⟩

namespace ServerVersion

/-- What is learned from an answer to the question for the version. -/
theorem yields_serverVersion {session : SessionId} {log : List Exchange}
    {outcome : Except Error ServerVersion}
    (h : (Catalog.serverVersion session).Yields log outcome) :
    ∃ answer, log = [⟨.query session .serverVersion, answer⟩] ∧
      ∀ v, outcome = .ok v ↔ ∃ row, answer = .ok (some row) ∧ row.serverVersion = .ok v := by
  rcases (Action.yields_bind _ _ _).mp h with
    ⟨e, hask, rfl⟩ | ⟨asked, rest, found, rfl, hask, hnext⟩
  · obtain ⟨answer, rfl, hanswer⟩ := Catalog.yields_lookup.mp hask
    refine ⟨answer, rfl, fun v => iff_of_false (by rintro ⟨⟩) ?_⟩
    rintro ⟨row, rfl, hrow⟩
    rw [Catalog.decoded, hrow] at hanswer
    cases hanswer
  · obtain ⟨answer, rfl, hanswer⟩ := Catalog.yields_lookup.mp hask
    cases found with
    | none =>
      obtain ⟨rfl, rfl⟩ := hnext
      refine ⟨answer, rfl, fun v => iff_of_false (by rintro ⟨⟩) ?_⟩
      rintro ⟨row, rfl, hrow⟩
      rw [Catalog.decoded, hrow] at hanswer
      cases hanswer
    | some found =>
      obtain ⟨rfl, rfl⟩ := (Action.yields_pure _ _).mp hnext
      obtain ⟨row, rfl, hrow⟩ := Catalog.decoded_eq_ok_some hanswer.symm
      refine ⟨_, rfl, fun v => ⟨fun hv => ⟨row, rfl, hrow.trans hv⟩, ?_⟩⟩
      rintro ⟨_, ⟨⟩, hv⟩
      exact hrow.symm.trans hv

/-- A larger number is that of a newer version, whatever number it is. Whatever a server answers
when it is asked for its number, its version is learned exactly if the answer shows a number, and
then the server has the features from their first numbers on; none is lost with a larger number. -/
theorem reported_tells_features :
    (∀ n m : UInt32, compare (ofNumber n) (ofNumber m) = .lt ↔ n < m) ∧
    Function.Injective ofNumber ∧
    (∀ {σ : Type} (server : Server σ) (link : Link σ) (session : SessionId),
      let transcript := (Catalog.serverVersion session).attempt.run server link
      ∃ answer, transcript.exchanges = [⟨.query session .serverVersion, answer⟩] ∧
        ∀ v, transcript.result = .ok v ↔ ∃ n, ShownBy n answer ∧ v = ofNumber n) ∧
    (∀ n feature, ((ofNumber n).supports feature = true ↔ feature.sinceNumber ≤ n) ∧
      ((ofNumber n).require feature = .ok () ↔ feature.sinceNumber ≤ n)) ∧
    ∀ n m feature, n ≤ m → (ofNumber n).supports feature = true →
      (ofNumber m).supports feature = true := by
  refine ⟨compare_ofNumber_eq_lt_iff, ofNumber_injective, ?_, fun n feature => ?_, ?_⟩
  · intro σ server link session transcript
    obtain ⟨answer, hlog, hresult⟩ := yields_serverVersion
      (Program.yields_run server (Catalog.serverVersion session).attempt link)
    refine ⟨answer, hlog, fun v => (hresult v).trans ?_⟩
    simp only [Row.serverVersion_eq_ok_iff]
    constructor
    · rintro ⟨row, hrow, n, value, rfl, hvalue, hn⟩
      exact ⟨n, ⟨row, value, hrow, hvalue, hn⟩, rfl⟩
    · rintro ⟨n, ⟨row, value, hrow, hvalue, hn⟩, rfl⟩
      exact ⟨row, hrow, n, value, rfl, hvalue, hn⟩
  · exact ⟨supports_ofNumber_iff n feature,
      require_eq_ok_iff.trans (supports_ofNumber_iff n feature)⟩
  · intro n m feature hle h
    rw [supports_ofNumber_iff] at h ⊢
    exact UInt32.le_trans h hle

/-- The last number with two digits for the minor number, in a text, and the number behind it. -/
theorem reported_tells_features_boundary :
    let server : Server Unit :=
      ⟨fun _ request => match request with
        | .query .. => (.ok (some (.ofValues [.text " +99999\t"])), ())
        | _ => (.error (.internal ""), ())⟩
    let transcript := (Catalog.serverVersion mainSession).attempt.run server (.start ())
    transcript.result = .ok ⟨9, 99, 99⟩ ∧ compare (ofNumber 99999) (ofNumber 100000) = .lt ∧
      (99999 : UInt32) ≤ 100000 ∧ (ofNumber 99999).supports .isTemplate = true ∧
      (ofNumber 100000).supports .isTemplate = true := by
  intro server transcript
  obtain ⟨horder, -, hlearned, hfeatures, hkept⟩ := reported_tells_features
  have hresult : transcript.result = .ok ⟨9, 99, 99⟩ := by
    obtain ⟨answer, hlog, hiff⟩ := hlearned server (.start ()) mainSession
    obtain rfl : answer = .ok (some (.ofValues [.text " +99999\t"])) := by
      injection hlog with hfirst
      injection hfirst with _ hanswer
      exact hanswer.symm
    exact (hiff _).mpr ⟨99999, ⟨_, _, rfl, rfl, by decide⟩, rfl⟩
  have hold : (ofNumber 99999).supports .isTemplate = true :=
    (hfeatures 99999 .isTemplate).1.mpr (by decide)
  exact ⟨hresult, (horder _ _).mpr (by decide), by decide, hold,
    hkept 99999 100000 .isTemplate (by decide) hold⟩

end ServerVersion

end PgConverge
