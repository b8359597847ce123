import PgConverge.Proofs.Text.Blank
import PgConverge.Proofs.Text.Numeral
import PgConverge.Provider
import PgConverge.Catalog

/-!
# Reading a version

A version is read from one to three runs of digits with points between them, the longest such
beginning of a text. What a version is written as is read back as the same version, and a release
that is written down by hand is read as the version that a server of that release reports.

## Main definitions

* `ServerVersion.IsNumbering`, `ServerVersion.dotted` — runs of digits, and how they are written.
* `ServerVersion.BeginsWith` — the longest numbering that begins a text.
* `ServerVersion.IsRelease` — the written form of the release that a version number stands for.

## Main statements

* `ServerVersion.beginsWith_iff` — the longest numbering is the one that is read.
* `ServerVersion.parse_eq_ok_iff` — the texts from which a version is read.
* `ServerVersion.reads_numberings` — these texts are read, as what servers report.
-/

namespace PgConverge

namespace ServerVersion

/-! ## Numberings -/

/-- Whether runs make up a version number: there are one to three, and each is made of digits. -/
structure IsNumbering (runs : List (List Char)) : Prop where
  nonempty : runs ≠ []
  length_le : runs.length ≤ 3
  digits : ∀ run ∈ runs, run ≠ [] ∧ ∀ c ∈ run, c.isDigit = true

/-- Runs as they are written, with points between them. -/
def dotted (runs : List (List Char)) : List Char := ['.'].intercalate runs

/-- Whether a text begins with a numbering and with no longer one. -/
structure BeginsWith (t : List Char) (runs : List (List Char)) : Prop where
  numbering : IsNumbering runs
  isPrefix : dotted runs <+: t
  longest : ∀ others, IsNumbering others → dotted others <+: t →
    (dotted others).length ≤ (dotted runs).length

@[simp] theorem dotted_singleton (run : List Char) : dotted [run] = run :=
  List.intercalate_singleton

@[simp] theorem dotted_cons_cons (run next : List Char) (runs : List (List Char)) :
    dotted (run :: next :: runs) = run ++ '.' :: dotted (next :: runs) := by
  rw [dotted, List.intercalate_cons_cons, List.append_assoc]
  rfl

theorem length_le_length_dotted_cons (run : List Char) (runs : List (List Char)) :
    run.length ≤ (dotted (run :: runs)).length := by
  cases runs with
  | nil => simp
  | cons next runs => simp

/-- A text is its own longest numbering if it is one. -/
theorem beginsWith_dotted {runs : List (List Char)} (h : IsNumbering runs) :
    BeginsWith (dotted runs) runs :=
  ⟨h, List.prefix_refl _, fun _ _ hother => hother.length_le⟩

/-! ## The runs that are read -/

/-- The text behind a point; there is none if another text begins. -/
def behindPoint : List Char → List Char
  | '.' :: rest => rest
  | _ => []

/-- The runs of digits that begin a text, at most `count`, whatever their values are. -/
def runs : (count : Nat) → List Char → List (List Char)
  | 0, _ => []
  | count + 1, s =>
    if (s.takeWhile Char.isDigit).isEmpty then []
    else s.takeWhile Char.isDigit :: runs count (behindPoint (s.dropWhile Char.isDigit))

theorem runs_nil (count : Nat) : runs count [] = [] := by
  cases count <;> rfl

theorem components_eq_ite (count : Nat) (s : List Char) :
    components count s = if (runs count s).all (Text.ofDigits · < UInt32.size) then
      some ((runs count s).map fun run => (Text.ofDigits run).toUInt32) else none := by
  induction count generalizing s with
  | zero => rfl
  | succ count ih =>
    show (if (s.takeWhile Char.isDigit).isEmpty then some []
      else (if Text.ofDigits (s.takeWhile Char.isDigit) < UInt32.size then some () else none :
        Option Unit) >>= _) = _
    rw [runs]
    by_cases hempty : (s.takeWhile Char.isDigit).isEmpty = true
    · rw [if_pos hempty, if_pos hempty]
      rfl
    rw [if_neg hempty, if_neg hempty]
    by_cases hbound : Text.ofDigits (s.takeWhile Char.isDigit) < UInt32.size
    · rw [if_pos hbound]
      simp only [List.all_cons, hbound, decide_true, Bool.true_and, List.map_cons]
      split
      · rename_i rest hrest
        rw [ih rest, hrest, behindPoint]
        cases (runs count rest).all (Text.ofDigits · < UInt32.size) <;> rfl
      · rename_i hpoint
        have hnone : behindPoint (s.dropWhile Char.isDigit) = [] := by
          unfold behindPoint
          split
          · exact absurd ‹_› (hpoint _)
          · rfl
        rw [hnone, runs_nil]
        rfl
    · rw [if_neg hbound]
      simp only [List.all_cons, hbound, decide_false, Bool.false_and, Bool.false_eq_true, if_false]
      rfl

/-- A run ends where something else follows it. -/
theorem runs_append {run rest : List Char} (count : Nat)
    (hrun : run ≠ [] ∧ ∀ c ∈ run, c.isDigit = true) (hrest : ∀ c ∈ rest.head?, c.isDigit = false) :
    runs (count + 1) (run ++ rest) = run :: runs count (behindPoint rest) := by
  have htake : rest.takeWhile Char.isDigit = [] := by
    cases rest with
    | nil => rfl
    | cons c rest => simp [hrest c rfl]
  have hdrop : rest.dropWhile Char.isDigit = rest := by
    cases rest with
    | nil => rfl
    | cons c rest => simp [hrest c rfl]
  rw [runs, List.takeWhile_append_of_pos hrun.2, List.dropWhile_append_of_pos hrun.2, htake, hdrop,
    List.append_nil, if_neg (by simp [hrun.1])]

theorem eq_cons_behindPoint {s : List Char} (h : behindPoint s ≠ []) :
    s = '.' :: behindPoint s := by
  unfold behindPoint at h ⊢
  split at h
  · rfl
  · exact absurd rfl h

/-- Every text begins with the runs that are read from it. -/
theorem dotted_runs_isPrefix (count : Nat) (s : List Char) : dotted (runs count s) <+: s := by
  induction count generalizing s with
  | zero => exact List.nil_prefix
  | succ count ih =>
    rw [runs]
    split
    · exact List.nil_prefix
    cases hruns : runs count (behindPoint (s.dropWhile Char.isDigit)) with
    | nil =>
      rw [dotted_singleton]
      exact List.takeWhile_prefix _
    | cons next more =>
      have hrest : dotted (next :: more) <+: behindPoint (s.dropWhile Char.isDigit) :=
        hruns ▸ ih _
      have hpoint : s.dropWhile Char.isDigit = '.' :: behindPoint (s.dropWhile Char.isDigit) := by
        refine eq_cons_behindPoint fun hnil => ?_
        rw [hnil, runs_nil] at hruns
        cases hruns
      have hs : s.takeWhile Char.isDigit ++ '.' :: behindPoint (s.dropWhile Char.isDigit) = s := by
        rw [← hpoint, List.takeWhile_append_dropWhile]
      obtain ⟨tail, htail⟩ := hrest
      exact ⟨tail, by rw [dotted_cons_cons, List.append_assoc, List.cons_append, htail, hs]⟩

theorem isNumbering_runs {count : Nat} {s : List Char} (hcount : count ≤ 3)
    (h : runs count s ≠ []) : IsNumbering (runs count s) := by
  have hlength : (runs count s).length ≤ count := by
    clear h hcount
    induction count generalizing s with
    | zero => exact Nat.le_refl 0
    | succ count ih =>
      rw [runs]
      split
      · exact Nat.zero_le _
      · exact Nat.succ_le_succ ih
  have hdigits : ∀ run ∈ runs count s, run ≠ [] ∧ ∀ c ∈ run, c.isDigit = true := by
    clear h hcount hlength
    induction count generalizing s with
    | zero => exact List.forall_mem_nil _
    | succ count ih =>
      rw [runs]
      split
      · exact List.forall_mem_nil _
      · rename_i hempty
        have hne : s.takeWhile Char.isDigit ≠ [] := by simpa using hempty
        exact List.forall_mem_cons.mpr ⟨⟨hne, fun c hc => List.mem_takeWhile_imp hc⟩, ih⟩
  exact ⟨h, hlength.trans hcount, hdigits⟩

/-- Any numbering that begins a text is the one that is read, or it is shorter. -/
theorem eq_runs_or_length_lt {others : List (List Char)} {count : Nat} {s : List Char}
    (hne : others ≠ []) (hdigits : ∀ run ∈ others, run ≠ [] ∧ ∀ c ∈ run, c.isDigit = true)
    (hcount : others.length ≤ count) (hbegins : dotted others <+: s) :
    others = runs count s ∨ (dotted others).length < (dotted (runs count s)).length := by
  induction others generalizing count s with
  | nil => exact absurd rfl hne
  | cons run others ih =>
    obtain ⟨hrun, hothers⟩ := List.forall_mem_cons.mp hdigits
    rw [List.length_cons] at hcount
    obtain ⟨count, rfl⟩ : ∃ n, count = n + 1 := Nat.exists_eq_add_one.mpr (by omega)
    obtain ⟨rest, rfl⟩ := hbegins
    cases others with
    | nil =>
      rw [dotted_singleton]
      by_cases hends : ∀ c ∈ rest.head?, c.isDigit = false
      · rw [runs_append count hrun hends]
        cases runs count (behindPoint rest) with
        | nil => exact .inl rfl
        | cons next more =>
          right
          rw [dotted_cons_cons, List.length_append, List.length_cons]
          omega
      · -- The run goes on, so that a longer one is read.
        obtain ⟨c, more, rfl, hc⟩ : ∃ c more, rest = c :: more ∧ c.isDigit = true := by
          cases rest with
          | nil => exact absurd nofun hends
          | cons c more => exact ⟨c, more, rfl, by simpa using hends⟩
        have hread : (run ++ c :: more).takeWhile Char.isDigit =
            run ++ c :: more.takeWhile Char.isDigit := by
          rw [List.takeWhile_append_of_pos hrun.2, List.takeWhile_cons_of_pos hc]
        have hlonger := length_le_length_dotted_cons (run ++ c :: more.takeWhile Char.isDigit)
          (runs count (behindPoint ((run ++ c :: more).dropWhile Char.isDigit)))
        right
        rw [runs, hread, if_neg (by simp)]
        rw [List.length_append, List.length_cons] at hlonger
        omega
    | cons next more =>
      have hpoint : ∀ c ∈ ('.' :: (dotted (next :: more) ++ rest)).head?, c.isDigit = false := by
        rintro c ⟨⟩
        rfl
      rw [dotted_cons_cons, List.append_assoc, List.cons_append, runs_append count hrun hpoint,
        behindPoint]
      have hmore : (next :: more).length ≤ count := by omega
      rcases ih (List.cons_ne_nil _ _) hothers hmore (List.prefix_append _ rest) with heq | hlt
      · exact .inl (congrArg (run :: ·) heq)
      · right
        cases hruns : runs count (dotted (next :: more) ++ rest) with
        | nil =>
          rw [hruns] at hlt
          exact absurd hlt (Nat.not_lt_zero _)
        | cons first later =>
          rw [hruns] at hlt
          simp only [dotted_cons_cons, List.length_append, List.length_cons]
          omega

/-- The longest numbering that begins a text is the one that is read. -/
theorem beginsWith_iff {s : List Char} {found : List (List Char)} :
    BeginsWith s found ↔ found = runs 3 s ∧ found ≠ [] := by
  constructor
  · intro h
    refine ⟨?_, h.numbering.nonempty⟩
    rcases eq_runs_or_length_lt h.numbering.nonempty h.numbering.digits h.numbering.length_le
      h.isPrefix with heq | hlt
    · exact heq
    · have hne : runs 3 s ≠ [] := by
        intro hnil
        rw [hnil] at hlt
        exact absurd hlt (Nat.not_lt_zero _)
      have hle := h.longest _ (isNumbering_runs (Nat.le_refl 3) hne) (dotted_runs_isPrefix 3 s)
      omega
  · rintro ⟨rfl, hne⟩
    refine ⟨isNumbering_runs (Nat.le_refl 3) hne, dotted_runs_isPrefix 3 s, ?_⟩
    intro others hothers hbegins
    rcases eq_runs_or_length_lt hothers.nonempty hothers.digits hothers.length_le hbegins with
      heq | hlt
    · exact Nat.le_of_eq (congrArg (List.length ∘ dotted) heq)
    · exact Nat.le_of_lt hlt

/-! ## The version that is read -/

/-- The three numbers of a version. -/
def numbers (v : ServerVersion) : List Nat := [v.major.toNat, v.minor.toNat, v.patch.toNat]

theorem numbers_inj {v w : ServerVersion} : v.numbers = w.numbers ↔ v = w := by
  constructor
  · intro h
    simp only [numbers, List.cons.injEq, UInt32.toNat_inj, and_true] at h
    obtain ⟨hmajor, hminor, hpatch⟩ := h
    cases v
    cases w
    simp_all
  · exact congrArg numbers

/-- One to three numbers make a version, in which 0 stands for each missing one. -/
theorem exists_ofComponents {found : List UInt32} (hne : found ≠ []) (hlength : found.length ≤ 3) :
    ∃ v, ofComponents found = some v ∧
      v.numbers = found.map UInt32.toNat ++ List.replicate (3 - found.length) 0 := by
  match found, hne, hlength with
  | [major], _, _ => exact ⟨⟨major, 0, 0⟩, rfl, rfl⟩
  | [major, minor], _, _ => exact ⟨⟨major, minor, 0⟩, rfl, rfl⟩
  | [major, minor, patch], _, _ => exact ⟨⟨major, minor, patch⟩, rfl, rfl⟩
  | _ :: _ :: _ :: _ :: more, _, hlength =>
    simp only [List.length_cons] at hlength
    omega

/-- Whether a text begins with a numbering whose values fit in 32 bits. -/
structure Accepts (t : List Char) (found : List (List Char)) : Prop extends BeginsWith t found where
  bounded : ∀ run ∈ found, Nat.ofDigitChars 10 run 0 < UInt32.size

/-- The numbers that are written in some runs, with 0 for each missing one. -/
def valuesOf (found : List (List Char)) : List Nat :=
  found.map (Nat.ofDigitChars 10 · 0) ++ List.replicate (3 - found.length) 0

theorem components_of_accepts {t : List Char} {found : List (List Char)} (h : Accepts t found) :
    ∃ v, (components 3 t).bind ofComponents = some v ∧ v.numbers = valuesOf found := by
  obtain ⟨hfound, hne⟩ := beginsWith_iff.mp h.toBeginsWith
  have hall : found.all (Text.ofDigits · < UInt32.size) = true := by
    simpa [Text.ofDigits_eq_ofDigitChars] using h.bounded
  have hread : found.map (fun run => (Text.ofDigits run).toUInt32) ≠ [] := by simpa using hne
  obtain ⟨v, hv, hnumbers⟩ := exists_ofComponents hread (by simpa using h.numbering.length_le)
  refine ⟨v, ?_, ?_⟩
  · rw [components_eq_ite, ← hfound, if_pos hall, Option.bind_some, hv]
  · have hvalues : (found.map fun run => (Text.ofDigits run).toUInt32).map UInt32.toNat =
        found.map (Nat.ofDigitChars 10 · 0) := by
      rw [List.map_map]
      refine List.map_congr_left fun run hrun => ?_
      rw [← Text.ofDigits_eq_ofDigitChars]
      refine UInt32.toNat_ofNat_of_lt' ?_
      rw [Text.ofDigits_eq_ofDigitChars]
      exact h.bounded run hrun
    rw [hnumbers, hvalues, List.length_map, valuesOf]

theorem accepts_of_components {t : List Char} {v : ServerVersion}
    (h : (components 3 t).bind ofComponents = some v) : Accepts t (runs 3 t) := by
  rw [components_eq_ite] at h
  split at h
  · rename_i hall
    have hne : runs 3 t ≠ [] := by
      intro hnil
      rw [hnil] at h
      cases h
    exact ⟨beginsWith_iff.mpr ⟨rfl, hne⟩, by simpa [Text.ofDigits_eq_ofDigitChars] using hall⟩
  · cases h

/-- A version is read from exactly the texts that begin with a numbering of its numbers, after
blanks. -/
theorem parse_eq_ok_iff {s : String} {v : ServerVersion} :
    parse s = .ok v ↔ ∃ found, Accepts (Text.trim s.toList) found ∧ v.numbers = valuesOf found := by
  rw [parse]
  constructor
  · intro h
    split at h
    · rename_i w hw
      cases h
      have haccepts := accepts_of_components hw
      obtain ⟨w', hw', hnumbers⟩ := components_of_accepts haccepts
      obtain rfl : w' = v := Option.some.inj (hw'.symm.trans hw)
      exact ⟨_, haccepts, hnumbers⟩
    · cases h
  · rintro ⟨found, haccepts, hnumbers⟩
    obtain ⟨w, hw, hnumbers'⟩ := components_of_accepts haccepts
    obtain rfl : w = v := numbers_inj.mp (hnumbers'.trans hnumbers.symm)
    rw [hw]

theorem parse_eq_error_iff {s : String} :
    parse s = .error (.configuration ("invalid server version " ++ Text.quoted s)) ↔
      ¬∃ found, Accepts (Text.trim s.toList) found := by
  constructor
  · rintro h ⟨found, haccepts⟩
    obtain ⟨v, hv, -⟩ := components_of_accepts haccepts
    rw [parse, hv] at h
    cases h
  · intro h
    rw [parse]
    split
    · exact absurd ⟨_, accepts_of_components ‹_›⟩ h
    · rfl

/-! ## Written versions -/

/-- A numeral of digits, as a number is written. -/
theorem digits_repr (n : Nat) :
    Nat.toDigits 10 n ≠ [] ∧ ∀ c ∈ Nat.toDigits 10 n, c.isDigit = true :=
  ⟨Nat.toDigits_ne_nil, List.all_eq_true.mp (Text.all_isDigit_toDigits n)⟩

theorem isBlank_of_isDigit {c : Char} (h : c.isDigit = true) : Text.isBlank c = false := by
  have hrange : 48 ≤ c.toNat ∧ c.toNat ≤ 57 := by
    simpa [Char.isDigit, UInt32.le_iff_toNat_le] using h
  simp only [Text.isBlank, Bool.or_eq_false_iff, Bool.and_eq_false_iff, decide_eq_false_iff_not,
    beq_eq_false_iff_ne]
  omega

theorem dotted_ne_nil {run : List Char} (hrun : run ≠ []) (more : List (List Char)) :
    dotted (run :: more) ≠ [] := by
  have hlength := length_le_length_dotted_cons run more
  have hpos := List.length_pos_iff.mpr hrun
  exact List.length_pos_iff.mp (by omega)

/-- What is written begins and ends with a digit. -/
theorem isDigit_ends_dotted {found : List (List Char)}
    (h : ∀ run ∈ found, run ≠ [] ∧ ∀ c ∈ run, c.isDigit = true) :
    (∀ c ∈ (dotted found).head?, c.isDigit = true) ∧
      ∀ c ∈ (dotted found).getLast?, c.isDigit = true := by
  induction found with
  | nil => exact ⟨nofun, nofun⟩
  | cons run more ih =>
    obtain ⟨⟨hne, hrun⟩, hmore⟩ := List.forall_mem_cons.mp h
    obtain ⟨c, run, rfl⟩ := List.exists_cons_of_ne_nil hne
    cases more with
    | nil =>
      rw [dotted_singleton]
      exact ⟨fun d hd => hrun d (List.mem_of_head? hd),
        fun d hd => hrun d (List.mem_of_getLast? hd)⟩
    | cons next more =>
      rw [dotted_cons_cons]
      refine ⟨fun d hd => hrun d (List.mem_of_head? hd), fun d hd => (ih hmore).2 d ?_⟩
      have hnext : dotted (next :: more) ≠ [] :=
        dotted_ne_nil (hmore next List.mem_cons_self).1 more
      simpa [List.getLast?_append, List.getLast?_cons, List.getLast?_eq_some_getLast hnext] using hd

/-- A numbering is written without blanks around it. -/
theorem trim_dotted {found : List (List Char)} (h : IsNumbering found) :
    Text.trim (dotted found) = dotted found := by
  obtain ⟨hhead, hlast⟩ := isDigit_ends_dotted h.digits
  exact (Text.IsTrimOf.eq_trim ⟨⟨[], [], by simp, List.forall_mem_nil _, List.forall_mem_nil _⟩,
    fun c hc => isBlank_of_isDigit (hhead c hc), fun c hc => isBlank_of_isDigit (hlast c hc)⟩).symm

theorem parse_dotted {found : List (List Char)} {v : ServerVersion} (h : IsNumbering found)
    (hbound : ∀ run ∈ found, Nat.ofDigitChars 10 run 0 < UInt32.size) (hv : v.numbers = valuesOf found) :
    parse (String.ofList (dotted found)) = .ok v := by
  refine parse_eq_ok_iff.mpr ⟨found, ?_, hv⟩
  rw [String.toList_ofList, trim_dotted h]
  exact ⟨beginsWith_dotted h, hbound⟩

/-- Numbers that are written with points between them are read as a version. -/
theorem parse_numerals {ns : List Nat} {v : ServerVersion} (hne : ns ≠ []) (hlength : ns.length ≤ 3)
    (hv : v.numbers = ns ++ List.replicate (3 - ns.length) 0) :
    parse (String.ofList (dotted (ns.map (Nat.toDigits 10)))) = .ok v := by
  have hvalues : (ns.map (Nat.toDigits 10)).map (Nat.ofDigitChars 10 · 0) = ns := by
    rw [List.map_map]
    exact List.map_id'' (fun _ => Nat.ofDigitChars_ten_toDigits) ns
  refine parse_dotted ⟨by simpa using hne, by simpa using hlength, ?_⟩ ?_ ?_
  · exact List.forall_mem_map.mpr fun n _ => digits_repr n
  · refine List.forall_mem_map.mpr fun n hn => ?_
    have hmem : n ∈ v.numbers := hv ▸ List.mem_append_left _ hn
    rw [Nat.ofDigitChars_ten_toDigits]
    simp only [numbers, List.mem_cons, List.not_mem_nil, or_false] at hmem
    rcases hmem with rfl | rfl | rfl <;> exact UInt32.toNat_lt _
  · rw [hv, valuesOf, hvalues, List.length_map]

theorem ofList_dotted_two (a b : Nat) :
    String.ofList (dotted ([a, b].map (Nat.toDigits 10))) = toString a ++ "." ++ toString b := by
  refine String.toList_injective ?_
  simp

theorem ofList_dotted_three (a b c : Nat) :
    String.ofList (dotted ([a, b, c].map (Nat.toDigits 10))) =
      toString a ++ "." ++ toString b ++ "." ++ toString c := by
  refine String.toList_injective ?_
  simp

/-- A version is read back from what it is written as. -/
theorem parse_text (v : ServerVersion) : parse v.text = .ok v := by
  have htext : v.text = String.ofList (dotted (v.numbers.map (Nat.toDigits 10))) :=
    (ofList_dotted_three _ _ _).symm
  rw [htext]
  exact parse_numerals (List.cons_ne_nil _ _) (Nat.le_refl 3) (List.append_nil _).symm

/-- The written forms of the release that a version number stands for: from 100000 on, two numbers,
the second one with four digits of the version number; below, three, the last two of them with two
digits each. -/
inductive IsRelease (n : Nat) : String → Prop where
  | two {major minor : Nat} : 100000 ≤ n → n = major * 10000 + minor → minor < 10000 →
      IsRelease n (toString major ++ "." ++ toString minor)
  | three {major minor patch : Nat} : n < 100000 →
      n = major * 10000 + minor * 100 + patch → minor < 100 → patch < 100 →
      IsRelease n (toString major ++ "." ++ toString minor ++ "." ++ toString patch)

theorem exists_isRelease (n : Nat) : ∃ text, IsRelease n text := by
  by_cases h : 100000 ≤ n
  · exact ⟨_, .two h (by omega : n = n / 10000 * 10000 + n % 10000) (by omega)⟩
  · exact ⟨_, .three (by omega)
      (by omega : n = n / 10000 * 10000 + n / 100 % 100 * 100 + n % 100) (by omega) (by omega)⟩

theorem numbers_ofNumber (n : UInt32) : (ofNumber n).numbers =
    if 100000 ≤ n.toNat then [n.toNat / 10000, n.toNat % 10000, 0]
    else [n.toNat / 10000, n.toNat / 100 % 100, n.toNat % 100] := by
  have hle : 100000 ≤ n ↔ 100000 ≤ n.toNat := UInt32.le_iff_toNat_le
  rw [ofNumber]
  by_cases h : 100000 ≤ n.toNat
  · simp [hle, h, numbers]
  · simp [hle, h, numbers]

/-- A release that is written down is read as the version that its number stands for. -/
theorem parse_of_isRelease {n : UInt32} {text : String} (h : IsRelease n.toNat text) :
    parse text = .ok (ofNumber n) := by
  have hnumbers := numbers_ofNumber n
  cases h with
  | @two major minor hn hsum hminor =>
    rw [← ofList_dotted_two]
    refine parse_numerals (List.cons_ne_nil _ _) (by simp) ?_
    have hmajor : n.toNat / 10000 = major := by omega
    have hminor' : n.toNat % 10000 = minor := by omega
    rw [hnumbers, if_pos hn, hmajor, hminor']
    rfl
  | @three major minor patch hn hsum hminor hpatch =>
    rw [← ofList_dotted_three]
    refine parse_numerals (List.cons_ne_nil _ _) (by simp) ?_
    have hmajor : n.toNat / 10000 = major := by omega
    have hminor' : n.toNat / 100 % 100 = minor := by omega
    have hpatch' : n.toNat % 100 = patch := by omega
    rw [hnumbers, if_neg (by omega), hmajor, hminor', hpatch']
    rfl

/-! ## The version to assume -/

/-- A row with the number of a version in it shows that version. -/
theorem serverVersion_of_integer {row : Row} {n : UInt32} {k : Int64} (h : row.integer 0 = .ok k)
    (hk : k.toInt = n.toNat) : row.serverVersion = .ok (ofNumber n) := by
  have hlt : n.toNat < 4294967296 := n.toNat_lt_size
  have hnumber : versionNumberOf k = .ok n := by
    rw [versionNumberOf, hk, if_pos (by simp; omega), Int.toNat_natCast, UInt32.ofNat_toNat]
  rw [Row.serverVersion, h]
  simp only [bind, Except.bind, hnumber]
  rfl

/-- A text from which a version is read is not blank. -/
theorem expectedServerVersion_of_parse {config : ProviderConfig} {text : String} {v : ServerVersion}
    (hconfig : config.expectedVersion = some text) (h : parse text = .ok v) :
    config.expectedServerVersion = .ok (some v) := by
  have hblank : ¬text.toList.all Text.isBlank = true := by
    intro hall
    have hnil : [] = Text.trim text.toList := Text.IsTrimOf.eq_trim
      ⟨⟨text.toList, [], by simp, List.all_eq_true.mp hall, List.forall_mem_nil _⟩, nofun, nofun⟩
    obtain ⟨found, haccepts, -⟩ := parse_eq_ok_iff.mp h
    rw [← hnil] at haccepts
    obtain ⟨hfound, hne⟩ := beginsWith_iff.mp haccepts.toBeginsWith
    exact hne (hfound.trans (runs_nil 3))
  simp only [ProviderConfig.expectedServerVersion, hconfig, if_neg hblank, h]
  rfl

/-- A version is read from the longest numbering that begins a text between blanks, if its values
fit in 32 bits, and from no other text. Whatever is written as a version is read back, and the
release that stands for the number of a server is read as the version of that server, so that a
version that is given and a version that is asked for are the same. -/
theorem reads_numberings :
    (∀ (s : String) (t : List Char), Text.IsTrimOf t s.toList →
      (∀ v, parse s = .ok v ↔ ∃ found, Accepts t found ∧ v.numbers = valuesOf found) ∧
      (parse s = .error (.configuration ("invalid server version " ++ Text.quoted s)) ↔
        ¬∃ found, Accepts t found)) ∧
    (∀ v : ServerVersion, parse v.text = .ok v) ∧
    ∀ n : UInt32, (∃ text, IsRelease n.toNat text) ∧
      ∀ text, IsRelease n.toNat text → parse text = .ok (ofNumber n) ∧
        (∀ config : ProviderConfig, config.expectedVersion = some text →
          config.expectedServerVersion = .ok (some (ofNumber n))) ∧
        ∀ (row : Row) (k : Int64), row.integer 0 = .ok k → k.toInt = n.toNat →
          row.serverVersion = .ok (ofNumber n) := by
  refine ⟨fun s t ht => ?_, parse_text, fun n => ⟨exists_isRelease _, fun text h => ?_⟩⟩
  · obtain rfl := ht.eq_trim
    exact ⟨fun v => parse_eq_ok_iff, parse_eq_error_iff⟩
  · have hparse := parse_of_isRelease h
    exact ⟨hparse, fun config hconfig => expectedServerVersion_of_parse hconfig hparse,
      fun row k => serverVersion_of_integer⟩

/-- What stands behind the third number does not count. -/
theorem reads_numberings_candidate :
    Text.IsTrimOf "9.6.5rc1.2".toList " 9.6.5rc1.2\t".toList ∧
      Accepts "9.6.5rc1.2".toList ["9".toList, "6".toList, "5".toList] ∧
      parse " 9.6.5rc1.2\t" = .ok ⟨9, 6, 5⟩ ∧ IsRelease 90605 "9.6.5" ∧
      parse "9.6.5" = .ok (ofNumber 90605) ∧
      { ProviderConfig.ofUrl "postgres://localhost" with
        expectedVersion := some "9.6.5" }.expectedServerVersion = .ok (some (ofNumber 90605)) ∧
      (Row.ofValues [.text "90605"]).serverVersion = .ok (ofNumber 90605) := by
  have htrim : Text.IsTrimOf "9.6.5rc1.2".toList " 9.6.5rc1.2\t".toList :=
    Text.isTrimOf_iff.mpr (by decide)
  have haccepts : Accepts "9.6.5rc1.2".toList ["9".toList, "6".toList, "5".toList] :=
    ⟨beginsWith_iff.mpr ⟨by decide, by decide⟩, by decide⟩
  have hrelease : IsRelease 90605 "9.6.5" :=
    .three (by decide) (by decide : 90605 = 9 * 10000 + 6 * 100 + 5) (by decide) (by decide)
  obtain ⟨hparse, -, hnumbers⟩ := reads_numberings
  obtain ⟨hwritten, hconfigured, hreported⟩ := (hnumbers 90605).2 _ hrelease
  exact ⟨htrim, haccepts, ((hparse _ _ htrim).1 _).mpr ⟨_, haccepts, by decide⟩, hrelease, hwritten,
    hconfigured _ rfl, hreported _ 90605 (by decide) (by decide)⟩

end ServerVersion

end PgConverge
