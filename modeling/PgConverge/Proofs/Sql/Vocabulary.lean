import PgConverge.Proofs.Sql.Lexeme

/-!
# Words that a server does not know

A text that is sent to a server should hold no word for what its version lacks. Quotes make the
words in a name harmless, so that what counts are the tokens that are words.

## Main definitions

* `Sql.Fits` — tokens whose words suit a server of a version.

## Main statements

* `DatabaseDefinition.fits_ofSpec`, `Statement.fits_drop`, `Statement.fits_terminateSessions` — the
  statements whose words depend on the version suit it.
* `Statement.fits_alteration`, `Query.fits_words` — other texts suit every server.
-/

namespace PgConverge

namespace Sql

open Token (ofFlag ofInt32)

/-- The words for the flags of a database, in statements and in questions. -/
def flagWords : List String :=
  ["ALLOW_CONNECTIONS", "IS_TEMPLATE", "d.datallowconn", "d.datistemplate"]

/-- The words for ending sessions and for dropping a database. -/
def endingWords : List String := ["FORCE", "DROP", "pg_terminate_backend"]

/-- The words in texts that suit only some servers. -/
def featureWords : List String := flagWords ++ endingWords

/-- Whether tokens suit a server of a version: a flag is mentioned from 9.5 on, a database is
dropped with force exactly from 13 on, and the process column has the name that it has there. -/
structure Fits (version : ServerVersion) (tokens : List Token) : Prop where
  flags : ∀ word ∈ flagWords, .word word ∈ tokens → version.atLeast 9 5 = true
  forced : .word "FORCE" ∈ tokens → version.atLeast 13 0 = true
  drop : .word "DROP" ∈ tokens → version.atLeast 13 0 = true →
    words Statement.forcedWords <:+ tokens
  terminate : .word "pg_terminate_backend" ∈ tokens →
    (.word "pid" ∈ tokens ↔ version.atLeast 9 2 = true) ∧
      (.word "procpid" ∈ tokens ↔ version.atLeast 9 2 = false)

/-- Whether a token is none of the given words. -/
def Token.Avoids (reserved : List String) (t : Token) : Prop := ∀ word ∈ reserved, t ≠ .word word

/-! ### Tokens that avoid words -/

section Avoids

variable {reserved : List String} {tokens : List Token}

theorem Token.Avoids.mono {t : Token} (h : t.Avoids featureWords)
    (hsub : reserved ⊆ featureWords) : t.Avoids reserved := fun word hword => h word (hsub hword)

theorem avoids_words {keywords : List String} (h : ∀ word ∈ keywords, word ∉ reserved) :
    ∀ t ∈ words keywords, t.Avoids reserved := by
  intro t ht word hword heq
  obtain ⟨keyword, hkeyword, rfl⟩ := List.mem_map.mp ht
  obtain rfl := Token.word.inj heq
  exact h keyword hkeyword hword

theorem avoids_clause {keywords : List String} {value : Option Token}
    (h : ∀ word ∈ keywords, word ∉ reserved) (hvalue : ∀ t ∈ value, t.Avoids reserved) :
    ∀ t ∈ clause keywords value, t.Avoids reserved := by
  cases value with
  | none => exact List.forall_mem_nil _
  | some value =>
    exact List.forall_mem_append.mpr
      ⟨avoids_words h, List.forall_mem_singleton.mpr (hvalue value rfl)⟩

theorem avoids_name (text : String) : (Token.name text).Avoids reserved :=
  fun _ _ heq => nomatch heq

theorem avoids_literal (text : String) : (Token.literal text).Avoids reserved :=
  fun _ _ heq => nomatch heq

theorem avoids_ofFlag (b : Bool) : (ofFlag b).Avoids featureWords := by
  cases b <;> simp [Token.Avoids, ofFlag, flag, featureWords, flagWords, endingWords]

/-- A number is read back, and none of the words can be read as one. -/
theorem avoids_ofInt32 (n : Int32) : (ofInt32 n).Avoids featureWords := by
  intro word hword heq
  have hnone : ∀ word ∈ featureWords, (Token.word word).int32? = none := by decide
  have hread := DatabaseDefinition.int32?_ofInt32 n
  rw [heq, hnone word hword] at hread
  cases hread

theorem avoids_setting {quoted : String → Token}
    (hquoted : ∀ text, (quoted text).Avoids featureWords) (setting : Setting) :
    ∀ t ∈ setting.token quoted, t.Avoids featureWords := by
  intro t ht
  cases setting with
  | unset => cases ht
  | serverDefault =>
    cases ht
    simp [Token.Avoids, featureWords, flagWords, endingWords]
  | value text =>
    cases ht
    exact hquoted text

theorem Fits.of_flags {version : ServerVersion} (hversion : version.atLeast 9 5 = true)
    (h : ∀ t ∈ tokens, t.Avoids endingWords) : Fits version tokens where
  flags _ _ _ := hversion
  forced hmem := absurd rfl (h _ hmem "FORCE" (by simp [endingWords]))
  drop hmem := absurd rfl (h _ hmem "DROP" (by simp [endingWords]))
  terminate hmem := absurd rfl (h _ hmem "pg_terminate_backend" (by simp [endingWords]))

theorem Fits.of_avoids {version : ServerVersion} (h : ∀ t ∈ tokens, t.Avoids featureWords) :
    Fits version tokens where
  flags word hword hmem := absurd rfl (h _ hmem word (List.mem_append_left _ hword))
  forced hmem := absurd rfl (h _ hmem "FORCE" (by simp [featureWords, endingWords]))
  drop hmem := absurd rfl (h _ hmem "DROP" (by simp [featureWords, endingWords]))
  terminate hmem :=
    absurd rfl (h _ hmem "pg_terminate_backend" (by simp [featureWords, endingWords]))

end Avoids

end Sql

open Sql (Token words clause Fits flagWords endingWords featureWords avoids_words avoids_clause)

/-! ## The tokens of statements and questions -/

section Tokens

variable {version : ServerVersion}

theorem DatabaseDefinition.avoids_tokens (d : DatabaseDefinition) {reserved : List String}
    (hsub : reserved ⊆ featureWords)
    (hallow : ∀ t ∈ clause ["ALLOW_CONNECTIONS"] (d.allowConnections.map Token.ofFlag),
      t.Avoids reserved)
    (htemplate : ∀ t ∈ clause ["IS_TEMPLATE"] (d.isTemplate.map Token.ofFlag),
      t.Avoids reserved) : ∀ t ∈ d.tokens, t.Avoids reserved := by
  have hclause {keywords : List String} {value : Option Token}
      (h : ∀ word ∈ keywords, word ∉ featureWords)
      (hvalue : ∀ t ∈ value, t.Avoids featureWords) :
      ∀ t ∈ clause keywords value, t.Avoids reserved :=
    fun t ht => (avoids_clause h hvalue t ht).mono hsub
  have hsome {t : Token} (h : t.Avoids featureWords) : ∀ u ∈ some t, u.Avoids featureWords :=
    fun u hu => Option.some.inj hu ▸ h
  have hcolocation : ∀ t ∈ if d.colocation then some (Token.ofFlag true) else none,
      t.Avoids featureWords := by
    split
    · exact hsome (Sql.avoids_ofFlag true)
    · exact nofun
  have hname (setting : Setting) : ∀ t ∈ setting.token .name, t.Avoids featureWords :=
    Sql.avoids_setting Sql.avoids_name setting
  have hliteral (setting : Setting) : ∀ t ∈ setting.token .literal, t.Avoids featureWords :=
    Sql.avoids_setting Sql.avoids_literal setting
  have hparts : ∀ part ∈ d.parts, ∀ t ∈ part, t.Avoids reserved := by
    simp only [parts, List.forall_mem_cons, List.not_mem_nil, false_implies, implies_true, and_true]
    refine ⟨?_, ?_, ?_, ?_, ?_, ?_, ?_, ?_, hallow, ?_, htemplate⟩
    · exact hclause (by decide) (hsome (Sql.avoids_name d.name))
    · exact hclause (by decide) hcolocation
    · exact hclause (by decide) (hsome (Sql.avoids_name d.owner))
    · exact hclause (by decide) (hname d.template)
    · exact hclause (by decide) (hliteral d.encoding)
    · exact hclause (by decide) (hliteral d.lcCollate)
    · exact hclause (by decide) (hliteral d.lcCtype)
    · exact hclause (by decide) (hname d.tablespace)
    · exact hclause (by decide) (hsome (Sql.avoids_ofInt32 d.connectionLimit))
  intro t ht
  obtain ⟨part, hpart, htpart⟩ := List.mem_flatten.mp ht
  exact hparts part hpart t htpart

/-- On a server without the flags the statement says nothing of them. -/
theorem DatabaseDefinition.fits_ofSpec (spec : DatabaseSpec) (principal : String)
    (version : ServerVersion) : Fits version (ofSpec spec principal version).tokens := by
  have hallow : version.supports .allowConnections = version.atLeast 9 5 :=
    version.supports_eq_atLeast .allowConnections
  have htemplate : version.supports .isTemplate = version.atLeast 9 5 :=
    version.supports_eq_atLeast .isTemplate
  cases hversion : version.atLeast 9 5 with
  | true =>
    have hsub : endingWords ⊆ featureWords := List.subset_append_right _ _
    have hflag (flag : Option Bool) :
        ∀ t ∈ flag.map Token.ofFlag, t.Avoids endingWords := by
      intro t ht
      obtain ⟨b, -, rfl⟩ := Option.map_eq_some_iff.mp ht
      exact (Sql.avoids_ofFlag b).mono hsub
    exact .of_flags hversion (avoids_tokens _ hsub (avoids_clause (by decide) (hflag _))
      (avoids_clause (by decide) (hflag _)))
  | false =>
    refine .of_avoids (avoids_tokens _ (List.Subset.refl _) ?_ ?_)
    · rw [ofSpec, hallow, hversion]
      exact List.forall_mem_nil _
    · rw [ofSpec, htemplate, hversion]
      exact List.forall_mem_nil _

namespace Statement

theorem avoids_alteration {reserved : List String} (name : String) {action : List String}
    {value : Token} (haltered : ∀ word ∈ ["ALTER", "DATABASE"], word ∉ reserved)
    (haction : ∀ word ∈ action, word ∉ reserved) (hvalue : value.Avoids reserved) :
    ∀ t ∈ alterationTokens name action value, t.Avoids reserved :=
  List.forall_mem_append.mpr
    ⟨avoids_clause haltered fun _ ht => Option.some.inj ht ▸ Sql.avoids_name name,
      avoids_clause haction fun _ ht => Option.some.inj ht ▸ hvalue⟩

/-- A statement that alters a database suits every server, unless it sets a flag. -/
theorem fits_alteration (name : String) {action : List String} {value : Token}
    (haction : ∀ word ∈ action, word ∉ featureWords) (hvalue : value.Avoids featureWords) :
    Fits version (alterationTokens name action value) :=
  .of_avoids (avoids_alteration name (by decide) haction hvalue)

/-- A flag is set on a server that has it. -/
theorem fits_flag (hversion : version.atLeast 9 5 = true) (name : String) {action : List String}
    (haction : ∀ word ∈ action, word ∉ endingWords) (b : Bool) :
    Fits version (alterationTokens name action (.ofFlag b)) :=
  .of_flags hversion (avoids_alteration name (by decide) haction
    ((Sql.avoids_ofFlag b).mono (List.subset_append_right _ _)))

/-- A statement that joins two names with words. -/
theorem fits_pair (first second : String) {keywords more : List String}
    (hkeywords : ∀ word ∈ keywords, word ∉ featureWords)
    (hmore : ∀ word ∈ more, word ∉ featureWords) :
    Fits version (clause keywords (some (.name first)) ++ clause more (some (.name second))) :=
  .of_avoids (List.forall_mem_append.mpr
    ⟨avoids_clause hkeywords fun _ ht => Option.some.inj ht ▸ Sql.avoids_name first,
      avoids_clause hmore fun _ ht => Option.some.inj ht ▸ Sql.avoids_name second⟩)

theorem fits_moveTablespace (name : String) (tablespace : Option String) :
    Fits version (moveTablespace name tablespace).lexemes := by
  have hdefault : (Token.word "TABLESPACE").Avoids featureWords := by
    simp [Token.Avoids, featureWords, flagWords, endingWords]
  unfold moveTablespace
  cases Setting.of tablespace with
  | value text => exact fits_alteration name (by decide) (Sql.avoids_name text)
  | unset => exact fits_alteration name (by decide) hdefault
  | serverDefault => exact fits_alteration name (by decide) hdefault

theorem fits_drop (name : String) : Fits version (drop name version).lexemes := by
  have hforced : version.supports .forcedDrop = version.atLeast 13 0 :=
    version.supports_eq_atLeast .forcedDrop
  let dropped : List Token := clause ["DROP", "DATABASE"] (some (.name name))
  show Fits version (dropped ++ if version.supports .forcedDrop then words forcedWords else [])
  rw [hforced]
  cases hversion : version.atLeast 13 0 with
  | true =>
    refine ⟨?_, fun _ => hversion, fun _ _ => List.suffix_append _ _, ?_⟩
    · simp [dropped, flagWords, clause, words, forcedWords]
    · simp [dropped, clause, words, forcedWords]
  | false =>
    refine ⟨?_, ?_, fun _ h => ?_, ?_⟩
    · simp [dropped, flagWords, clause, words]
    · simp [dropped, clause, words]
    · cases hversion.symm.trans h
    · simp [dropped, clause, words]

theorem fits_terminateSessions (name : String) :
    Fits version (terminateSessions version.pidColumn name).lexemes := by
  have hcolumn : version.supports .pidColumn = version.atLeast 9 2 :=
    version.supports_eq_atLeast .pidColumn
  rw [ServerVersion.pidColumn, hcolumn]
  refine ⟨?_, ?_, ?_, fun _ => ?_⟩
  · cases version.atLeast 9 2 <;> simp [lexemes, words, flagWords, PidColumn.name]
  · cases version.atLeast 9 2 <;> simp [lexemes, words, PidColumn.name]
  · cases version.atLeast 9 2 <;> simp [lexemes, words, PidColumn.name]
  · cases version.atLeast 9 2 <;> simp [lexemes, words, PidColumn.name]

end Statement

/-- The words of a question about neither flag suit every server. -/
theorem Query.fits_words (keywords : List String) (h : ∀ word ∈ keywords, word ∉ featureWords) :
    Fits version (words keywords) := .of_avoids (avoids_words h)

/-- A question about a flag is asked of a server that has it. -/
theorem Query.fits_flag (hversion : version.atLeast 9 5 = true) (keywords : List String)
    (h : ∀ word ∈ keywords, word ∉ endingWords) : Fits version (words keywords) :=
  .of_flags hversion (avoids_words h)

end Tokens

end PgConverge
