import Mathlib.Data.String.Basic
import PgConverge.Client.ConnectionString
import PgConverge.Proofs.Text.Split

/-!
# Properties as options of the server

The server cuts the text of the options into words at blanks, a backslash taking the character
behind it into a word, and takes each word `-c` with the word behind it as one setting. The text
is written without backslashes. So a property is taken as it was set only if it has no blank and no
backslash, and no equals sign in its key.

## Main definitions

* `Client.Options.words`, `Client.Options.settings?` — the words of a text, and the settings in it.
* `Client.Options.IsPlain` — a property that may be written as it is.

## Main statements

* `Client.Options.settings?_optionsText_iff` — the properties that are taken as they were set.
* `Client.Options.optionsText_eq_of_perm` — the text does not depend on the order of the properties.
-/

namespace PgConverge.Client

namespace Options

/-! ## The server's reading -/

/-- The characters that end a word: the blanks of ASCII. -/
def isBlank (c : Char) : Bool :=
  c == ' ' || c == '\t' || c == '\n' || c == '\x0b' || c == '\x0c' || c == '\r'

/-- The words of a text, the first of which has been read in part. -/
def wordsFrom : Option (List Char) → List Char → List (List Char)
  | word, [] => word.toList
  | word, ['\\'] => [word.getD []]
  | word, '\\' :: c :: rest => wordsFrom (some (word.getD [] ++ [c])) rest
  | word, c :: rest =>
    if isBlank c then word.toList ++ wordsFrom none rest
    else wordsFrom (some (word.getD [] ++ [c])) rest

/-- The words of a text. -/
def words (s : String) : List (List Char) := wordsFrom none s.toList

/-- The settings that words make: each is a word `-c` and a word with a key, an equals sign and a
value. -/
def settingsOf? : List (List Char) → Option (List (String × String))
  | [] => some []
  | ['-', 'c'] :: word :: rest =>
    match Text.splitFirst (· == '=') word with
    | (key, some value) =>
      (settingsOf? rest).map ((String.ofList key, String.ofList value) :: ·)
    | (_, none) => none
  | _ => none

/-- The settings in a text of options; none if it holds anything else. -/
def settings? (s : String) : Option (List (String × String)) := settingsOf? (words s)

/-- Whether a property may be written as it is. -/
structure IsPlain (property : String × String) : Prop where
  ordinary : ∀ c ∈ property.1.toList ++ property.2.toList, isBlank c = false ∧ c ≠ '\\'
  noEquals : ∀ c ∈ property.1.toList, c ≠ '='

/-! ## Words -/

section Words

variable {c : Char} {s rest : List Char}

theorem wordsFrom_cons (word : Option (List Char)) (hc : c ≠ '\\') :
    wordsFrom word (c :: rest) =
      if isBlank c then word.toList ++ wordsFrom none rest
      else wordsFrom (some (word.getD [] ++ [c])) rest := by
  rw [wordsFrom]
  · intro h _
    exact hc h
  · intro _ _ h _
    exact hc h

/-- Ordinary characters go into a word. -/
theorem wordsFrom_append (word : List Char) (hs : ∀ c ∈ s, isBlank c = false ∧ c ≠ '\\') :
    wordsFrom (some word) (s ++ rest) = wordsFrom (some (word ++ s)) rest := by
  induction s generalizing word with
  | nil => simp
  | cons c s ih =>
    obtain ⟨⟨hc, hne⟩, hs⟩ := List.forall_mem_cons.mp hs
    rw [List.cons_append, wordsFrom_cons _ hne, hc, if_neg Bool.false_ne_true, ih _ hs,
      Option.getD_some, List.append_assoc, List.singleton_append]

theorem wordsFrom_none_append (hne : s ≠ []) (hs : ∀ c ∈ s, isBlank c = false ∧ c ≠ '\\') :
    wordsFrom none (s ++ rest) = wordsFrom (some s) rest := by
  cases s with
  | nil => exact absurd rfl hne
  | cons c s =>
    obtain ⟨⟨hc, hne⟩, hs⟩ := List.forall_mem_cons.mp hs
    rw [List.cons_append, wordsFrom_cons _ hne, hc, if_neg Bool.false_ne_true,
      wordsFrom_append _ hs]
    rfl

theorem ne_of_not_escape (hlast : c = '\\' → rest = [] → False)
    (hmore : ∀ d more, c = '\\' → rest = d :: more → False) : c ≠ '\\' := by
  intro hc
  cases rest with
  | nil => exact hlast hc rfl
  | cons d more => exact hmore d more hc rfl

/-- The room that words take with a separator behind each. -/
def room (ws : List (List Char)) : Nat := ws.flatten.length + ws.length

@[simp] theorem room_cons (word : List Char) (ws : List (List Char)) :
    room (word :: ws) = word.length + 1 + room ws := by
  simp only [room, List.flatten_cons, List.length_append, List.length_cons]
  omega

theorem room_toList_append (word : Option (List Char)) (ws : List (List Char)) :
    room (word.toList ++ ws) ≤ (word.getD []).length + 1 + room ws := by
  cases word with
  | none => simp
  | some word => simp

/-- There is a separator between two words at least, and each backslash costs one more character. -/
theorem room_wordsFrom_le (word : Option (List Char)) (s : List Char) :
    room (wordsFrom word s) + (if '\\' ∈ s then 1 else 0) ≤
      s.length + (word.getD []).length + 1 := by
  fun_induction wordsFrom word s with
  | case1 word => simpa [room] using room_toList_append word []
  | case2 word =>
    have hnone : room [] = 0 := rfl
    simp only [room_cons, hnone, List.mem_cons_self, if_true, List.length_cons, List.length_nil]
    omega
  | case3 word c rest ih =>
    simp only [Option.getD_some, List.length_append, List.length_cons, List.length_nil,
      List.mem_cons_self, if_true] at ih ⊢
    omega
  | case4 word c rest hlast hmore hblank ih =>
    have hc := ne_of_not_escape hlast hmore
    have hword := room_toList_append word (wordsFrom none rest)
    simp only [Option.getD_none, List.length_cons, List.length_nil, List.mem_cons, Ne.symm hc,
      false_or] at ih ⊢
    omega
  | case5 word c rest hlast hmore hblank ih =>
    have hc := ne_of_not_escape hlast hmore
    simp only [Option.getD_some, List.length_append, List.length_cons, List.length_nil,
      List.mem_cons, Ne.symm hc, false_or] at ih ⊢
    omega

/-- Without backslashes only blanks are no part of a word. -/
theorem length_flatten_wordsFrom (word : Option (List Char)) {s : List Char} (hs : '\\' ∉ s) :
    (wordsFrom word s).flatten.length + s.countP isBlank =
      (word.getD []).length + s.length := by
  induction s generalizing word with
  | nil => cases word <;> simp [wordsFrom]
  | cons c s ih =>
    obtain ⟨hc, hs⟩ : c ≠ '\\' ∧ '\\' ∉ s := by simpa [eq_comm] using hs
    rw [wordsFrom_cons _ hc]
    split
    · rename_i hblank
      have hrest := ih none hs
      rw [List.countP_cons_of_pos hblank]
      cases word <;> simp at hrest ⊢ <;> omega
    · rename_i hblank
      have hrest := ih (some (word.getD [] ++ [c])) hs
      rw [List.countP_cons_of_neg hblank]
      simp at hrest ⊢
      omega

end Words

/-! ## Written properties -/

/-- The characters of a property as an option. -/
def optionChars (property : String × String) : List Char :=
  '-' :: 'c' :: ' ' :: (property.1.toList ++ '=' :: property.2.toList)

theorem toList_optionText (property : String × String) :
    (optionText property).toList = optionChars property := by
  simp [optionText, optionChars]

/-- The word behind `-c` makes a setting. -/
theorem settingsOf?_optionChars {property : String × String} (h : IsPlain property)
    {rest : List Char} (hrest : rest = [] ∨ ∃ more, rest = ' ' :: more) :
    settingsOf? (wordsFrom none (optionChars property ++ rest)) =
      (settingsOf? (wordsFrom none rest)).map (property :: ·) := by
  obtain ⟨key, value⟩ := property
  have hword : ∀ c ∈ key.toList ++ '=' :: value.toList, isBlank c = false ∧ c ≠ '\\' := by
    intro c hc
    rw [List.mem_append, List.mem_cons, or_left_comm, ← List.mem_append] at hc
    rcases hc with rfl | hc
    · decide
    · exact h.ordinary c hc
  have hsplit : Text.splitFirst (· == '=') (key.toList ++ '=' :: value.toList) =
      (key.toList, some value.toList) :=
    Text.splitFirst_append (fun c hc => beq_eq_false_iff_ne.mpr (h.noEquals c hc)) rfl
  have hbehind : ∀ word, wordsFrom (some word) rest = word :: wordsFrom none rest := by
    intro word
    rcases hrest with rfl | ⟨more, rfl⟩ <;> rfl
  have hwords : wordsFrom none (optionChars (key, value) ++ rest) =
      ['-', 'c'] :: (key.toList ++ '=' :: value.toList) :: wordsFrom none rest := by
    rw [← hbehind, ← wordsFrom_none_append (by simp) hword]
    rfl
  rw [hwords, settingsOf?, hsplit]
  simp

/-- The text of options as characters. -/
def joined (properties : List (String × String)) : List Char :=
  [' '].intercalate (properties.map optionChars)

theorem joined_cons_cons (p q : String × String) (properties : List (String × String)) :
    joined (p :: q :: properties) = optionChars p ++ ' ' :: joined (q :: properties) := by
  rw [joined, List.map_cons, List.map_cons, List.intercalate_cons_cons, List.append_assoc]
  rfl

/-- Properties that may be written as they are make the settings that they say. -/
theorem settingsOf?_joined {properties : List (String × String)}
    (h : ∀ p ∈ properties, IsPlain p) :
    settingsOf? (wordsFrom none (joined properties)) = some properties := by
  induction properties with
  | nil => rfl
  | cons p properties ih =>
    obtain ⟨hp, h⟩ := List.forall_mem_cons.mp h
    cases properties with
    | nil =>
      have hlast := settingsOf?_optionChars hp (.inl rfl)
      have hjoined : joined [p] = optionChars p ++ [] := by simp [joined]
      rw [hjoined, hlast]
      rfl
    | cons q properties =>
      rw [joined_cons_cons, settingsOf?_optionChars hp (.inr ⟨_, rfl⟩)]
      have hrest : wordsFrom none (' ' :: joined (q :: properties)) =
          wordsFrom none (joined (q :: properties)) := rfl
      rw [hrest, ih h]
      rfl

/-- The characters of a property. -/
def chars (property : String × String) : List Char :=
  property.1.toList ++ property.2.toList

/-- With a separator behind each, the options stand one after another. -/
theorem joined_append_space (p : String × String) (properties : List (String × String)) :
    joined (p :: properties) ++ [' '] =
      (p :: properties).flatMap fun p => optionChars p ++ [' '] := by
  induction properties generalizing p with
  | nil => simp [joined]
  | cons q properties ih =>
    rw [joined_cons_cons, List.flatMap_cons, ← ih q, List.append_assoc, List.cons_append,
      List.append_cons, ← List.append_assoc]

theorem length_optionChars (property : String × String) :
    (optionChars property).length = (chars property).length + 4 := by
  simp [optionChars, chars]
  omega

theorem countP_optionChars (property : String × String) :
    (optionChars property).countP isBlank = (chars property).countP isBlank + 1 := by
  have hdash : isBlank '-' = false := rfl
  have hc : isBlank 'c' = false := rfl
  have hspace : isBlank ' ' = true := rfl
  have hequals : isBlank '=' = false := rfl
  simp [optionChars, chars, hdash, hc, hspace, hequals]

/-- Beside each property there are `-c`, the equals sign and two separators. -/
theorem length_flatMap_optionChars (properties : List (String × String)) :
    (properties.flatMap fun p => optionChars p ++ [' ']).length =
      (properties.flatMap chars).length + 5 * properties.length := by
  induction properties with
  | nil => rfl
  | cons p properties ih =>
    simp only [List.flatMap_cons, List.length_append, ih, length_optionChars, List.length_cons,
      List.length_nil]
    omega

theorem countP_flatMap_optionChars (properties : List (String × String)) :
    (properties.flatMap fun p => optionChars p ++ [' ']).countP isBlank =
      (properties.flatMap chars).countP isBlank + 2 * properties.length := by
  have hspace : [' '].countP isBlank = 1 := rfl
  induction properties with
  | nil => rfl
  | cons p properties ih =>
    simp only [List.flatMap_cons, List.countP_append, ih, countP_optionChars, hspace,
      List.length_cons]
    omega

/-- What settings were taken tells how long the words were. -/
theorem of_settingsOf? {ws : List (List Char)} {read : List (String × String)}
    (h : settingsOf? ws = some read) :
    ws.length = 2 * read.length ∧
      ws.flatten.length = (read.flatMap chars).length + 3 * read.length ∧
      ∀ p ∈ read, ∀ c ∈ p.1.toList, c ≠ '=' := by
  fun_induction settingsOf? ws generalizing read with
  | case1 =>
    cases h
    simp
  | case2 word rest key value hsplit ih =>
    obtain ⟨more, hmore, rfl⟩ := Option.map_eq_some_iff.mp h
    obtain ⟨hlength, hflat, hkeys⟩ := ih hmore
    obtain ⟨hkey, c, hc, hword⟩ := Text.of_splitFirst hsplit
    refine ⟨?_, ?_, List.forall_mem_cons.mpr ⟨?_, hkeys⟩⟩
    · simp only [List.length_cons, hlength]
      omega
    · simp [hflat, hword, chars]
      omega
    · intro c hc
      rw [String.toList_ofList] at hc
      exact beq_eq_false_iff_ne.mp (hkey c hc)
  | case3 => cases h
  | case4 => cases h

/-- Settings that are as they were set come from properties that may be written as they are. -/
theorem isPlain_of_settingsOf? {properties read : List (String × String)}
    (h : settingsOf? (wordsFrom none (joined properties)) = some read)
    (hread : read.Perm properties) : ∀ p ∈ properties, IsPlain p := by
  cases properties with
  | nil => exact List.forall_mem_nil _
  | cons first properties =>
    obtain ⟨hlength, hflat, hkeys⟩ := of_settingsOf? h
    rw [(hread.flatMap_right chars).length_eq, hread.length_eq] at hflat
    rw [hread.length_eq] at hlength
    have hspaced := joined_append_space first properties
    have hlong := length_flatMap_optionChars (first :: properties)
    rw [← hspaced, List.length_append, List.length_singleton] at hlong
    have hblanks := countP_flatMap_optionChars (first :: properties)
    have hspace : [' '].countP isBlank = 1 := rfl
    rw [← hspaced, List.countP_append, hspace] at hblanks
    have hroom := room_wordsFrom_le none (joined (first :: properties))
    rw [room, hflat, hlength] at hroom
    -- There is no room for a backslash, and none for more blanks than there are separators.
    have hbackslash : '\\' ∉ joined (first :: properties) := by
      intro hmem
      rw [if_pos hmem, Option.getD_none, List.length_nil] at hroom
      omega
    have hwords := length_flatten_wordsFrom none hbackslash
    rw [hflat, Option.getD_none, List.length_nil] at hwords
    have hnone : ((first :: properties).flatMap chars).countP isBlank = 0 := by omega
    intro p hp
    refine ⟨fun c hc => ⟨?_, ?_⟩, hkeys p (hread.mem_iff.mpr hp)⟩
    · have hblank := List.countP_eq_zero.mp hnone c (List.mem_flatMap.mpr ⟨p, hp, hc⟩)
      exact eq_false_of_ne_true hblank
    · rintro rfl
      have hmem : '\\' ∈ joined (first :: properties) ++ [' '] := by
        rw [hspaced, List.mem_flatMap]
        exact ⟨p, hp, by rcases List.mem_append.mp hc with hc | hc <;> simp [optionChars, hc]⟩
      exact hbackslash (by simpa using hmem)

end Options

/-! ## The text of the options -/

section OptionsText

variable {properties others : List (String × String)}

/-- The text does not depend on the order of the properties. -/
theorem optionsText_eq_of_perm (h : properties.Perm others) :
    optionsText properties = optionsText others := by
  have hle (a b : String) : (!decide (b < a)) = decide (a ≤ b) := by
    rw [← decide_not, decide_eq_decide, not_lt]
  have hsorted (l : List String) : (l.mergeSort fun a b => decide (a ≤ b)).Pairwise (· ≤ ·) := by
    refine (List.pairwise_mergeSort ?_ ?_ l).imp of_decide_eq_true
    · intro a b c hab hbc
      exact decide_eq_true ((of_decide_eq_true hab).trans (of_decide_eq_true hbc))
    · intro a b
      rw [Bool.or_eq_true, decide_eq_true_eq, decide_eq_true_eq]
      exact le_total a b
  have hperm := (List.mergeSort_perm (properties.map optionText) fun a b => decide (a ≤ b)).trans
    ((h.map optionText).trans (List.mergeSort_perm _ fun a b => decide (a ≤ b)).symm)
  simp only [optionsText, hle]
  rw [hperm.eq_of_pairwise (fun _ _ _ _ => le_antisymm) (hsorted _) (hsorted _)]

/-- The text is that of the properties in some order. -/
theorem exists_joined (properties : List (String × String)) :
    ∃ listing, listing.Perm properties ∧
      (optionsText properties).toList = Options.joined listing := by
  have hsort : (properties.map optionText).mergeSort (fun a b => !(b < a)) =
      (properties.mergeSort fun p q => !(optionText q < optionText p)).map optionText :=
    (List.map_mergeSort (f := optionText) fun _ _ _ _ => rfl).symm
  refine ⟨properties.mergeSort fun p q => !(optionText q < optionText p),
    List.mergeSort_perm _ _, ?_⟩
  rw [optionsText, hsort, String.toList_intercalate, List.map_map, Options.joined]
  congr 2
  exact funext Options.toList_optionText

/-- The properties that the server takes as they were set. -/
theorem settings?_optionsText_iff :
    (∃ read, Options.settings? (optionsText properties) = some read ∧ read.Perm properties) ↔
      ∀ p ∈ properties, Options.IsPlain p := by
  obtain ⟨listing, hlisting, htext⟩ := exists_joined properties
  simp only [Options.settings?, Options.words, htext]
  constructor
  · rintro ⟨read, hsettings, hread⟩ p hp
    have hplain := Options.isPlain_of_settingsOf? hsettings (hread.trans hlisting.symm)
    exact hplain p (hlisting.mem_iff.mpr hp)
  · intro hplain
    exact ⟨listing, Options.settingsOf?_joined fun p hp => hplain p (hlisting.mem_iff.mp hp),
      hlisting⟩

end OptionsText

end PgConverge.Client

namespace PgConverge.ConnectionConfig

open Client

/-! ## Properties of a connection -/

/-- Sets properties one after another. -/
def withProperties (config : ConnectionConfig) (entries : List (String × String)) :
    ConnectionConfig :=
  entries.foldl (fun config p => config.withProperty p.1 p.2) config

theorem put_perm {key value : String} {entries : List (String × String)}
    (h : key ∉ entries.map (·.1)) : (put key value entries).Perm ((key, value) :: entries) := by
  induction entries with
  | nil => exact .refl _
  | cons entry entries ih =>
    simp only [List.map_cons, List.mem_cons, not_or] at h
    rw [put]
    split
    · exact .refl _
    · rw [if_neg h.1]
      exact ((ih h.2).cons entry).trans (.swap _ _ _)

/-- Properties with different keys are all kept. -/
theorem properties_withProperties {config : ConnectionConfig} {entries : List (String × String)}
    (h : ((config.properties ++ entries).map (·.1)).Nodup) :
    (config.withProperties entries).properties.Perm (config.properties ++ entries) := by
  induction entries generalizing config with
  | nil => simp [withProperties]
  | cons p entries ih =>
    have hmiddle : (config.properties ++ p :: entries).Perm (p :: config.properties ++ entries) :=
      List.perm_middle
    rw [(hmiddle.map _).nodup_iff] at h
    have hkey : p.1 ∉ config.properties.map (·.1) := fun hmem =>
      (List.nodup_cons.mp h).1 (List.map_subset _ (List.subset_append_left _ _) hmem)
    have hput : (put p.1 p.2 config.properties ++ entries).Perm
        (p :: config.properties ++ entries) := (put_perm hkey).append_right entries
    have hrest : (((config.withProperty p.1 p.2).properties ++ entries).map (·.1)).Nodup :=
      (hput.map _).nodup_iff.mpr h
    exact (ih hrest).trans (hput.trans hmiddle.symm)

theorem withProperties_eq (config : ConnectionConfig) (entries : List (String × String)) :
    config.withProperties entries =
      { config with properties := (config.withProperties entries).properties } := by
  induction entries generalizing config with
  | nil => rfl
  | cons p entries ih => exact ih (config.withProperty p.1 p.2)

/-- Settings depend on the properties and not on their order. -/
theorem ofConfig_eq_of_perm (config : ConnectionConfig) {properties others : List (String × String)}
    (h : properties.Perm others) :
    Settings.ofConfig { config with properties } =
      Settings.ofConfig { config with properties := others } := by
  simp only [Settings.ofConfig, h.isEmpty_eq, optionsText_eq_of_perm h]

theorem options_of_ofConfig {config : ConnectionConfig} {settings : Settings}
    (h : Settings.ofConfig config = .ok settings) (hne : config.properties ≠ []) :
    settings.options = some (optionsText config.properties) := by
  rw [Settings.ofConfig] at h
  split at h
  · cases h
  · cases h
    simp [hne]

/-- Properties with different keys are set in any order, and the server takes them as they were set
if and only if they may be written as they are. -/
theorem properties_taken_iff {config : ConnectionConfig} {entries : List (String × String)}
    {settings : Settings} (hnone : config.properties = []) (hkeys : (entries.map (·.1)).Nodup)
    (h : Settings.ofConfig (config.withProperties entries) = .ok settings) :
    (∀ others, others.Perm entries →
      Settings.ofConfig (config.withProperties others) = .ok settings) ∧
    ∃ text, (entries ≠ [] → settings.options = some text) ∧
      ((∃ read, Options.settings? text = some read ∧ read.Perm entries) ↔
        ∀ p ∈ entries, Options.IsPlain p) := by
  have hkept {others : List (String × String)} (hothers : others.Perm entries) :
      (config.withProperties others).properties.Perm entries := by
    have hnodup : ((config.properties ++ others).map (·.1)).Nodup := by
      rw [hnone]
      exact (hothers.map _).nodup_iff.mpr hkeys
    have hperm := properties_withProperties hnodup
    rw [hnone] at hperm
    exact hperm.trans hothers
  refine ⟨fun others hothers => ?_, optionsText entries, fun hne => ?_, settings?_optionsText_iff⟩
  · rw [← h, withProperties_eq, withProperties_eq config entries]
    exact ofConfig_eq_of_perm config ((hkept hothers).trans (hkept (.refl _)).symm)
  · rw [← optionsText_eq_of_perm (hkept (.refl _))]
    refine options_of_ofConfig h fun hnil => hne ?_
    have hperm := hkept (.refl _)
    rw [hnil] at hperm
    exact hperm.nil_eq.symm

/-- A property with a blank in its value is not taken as it was set. -/
theorem properties_taken_iff_blank : ∃ settings text,
    Settings.ofConfig ((ofUrl "postgres://u:p@h/d").withProperties [("search_path", "a b")]) =
      .ok settings ∧ settings.options = some text ∧
    ¬∃ read, Options.settings? text = some read ∧ read.Perm [("search_path", "a b")] := by
  obtain ⟨settings, h⟩ : ∃ settings, Settings.ofConfig
      ((ofUrl "postgres://u:p@h/d").withProperties [("search_path", "a b")]) = .ok settings :=
    ⟨_, rfl⟩
  obtain ⟨-, text, htext, hiff⟩ := properties_taken_iff rfl (by decide) h
  refine ⟨settings, text, h, htext (by decide), hiff.not.mpr fun hplain => ?_⟩
  have hblank := ((hplain _ (List.mem_singleton_self _)).ordinary ' ' (by decide)).1
  cases hblank

end PgConverge.ConnectionConfig
