import PgConverge.Proofs.Sql.Clause
import PgConverge.Proofs.Text.Numeral
import PgConverge.Proofs.Version
import PgConverge.Sql.Statement

/-!
# Reading a statement that creates a database

The text that creates a database is read back: the name, then the clauses in the order of the
grammar, each of which may be missing, up to the end of the text. The reading is what the statement
says, so that no value can pass for a keyword, a default or another clause.

## Main definitions

* `Setting.asked`, `DatabaseDefinition.asked` — what the text of an attribute, and a spec, asks for.
* `DatabaseDefinition.tokens` — the tokens of the statement.
* `DatabaseDefinition.ofTokens`, `DatabaseDefinition.ofSql` — the definition that tokens say, and
  that a text says.

## Main statements

* `DatabaseDefinition.ofSql_sql` — every definition is read back from its text.
* `DatabaseDefinition.ofSql_ofSpec` — what is read from the text that a spec is written as.
-/

namespace PgConverge

open Sql (Token words clause takeClause Writes)

/-! ## Tokens as values -/

namespace Sql.Token

/-- A name in quotes. -/
def name? : Token → Option String
  | name text => some text
  | _ => none

/-- A literal in quotes. -/
def literal? : Token → Option String
  | literal text => some text
  | _ => none

/-- A truth value. -/
def flag? : Token → Option Bool
  | word "true" => some true
  | word "false" => some false
  | _ => none

/-- A number of 32 bits with sign. -/
def int32? : Token → Option Int32
  | word text => Text.int32? text.toList
  | _ => none

/-- A setting: the word for the server's default, which is not quoted, or a value. -/
def setting? (value? : Token → Option String) : Token → Option Setting
  | word "DEFAULT" => some .serverDefault
  | t => (value? t).map .value

/-- The token of a truth value. -/
def ofFlag (b : Bool) : Token := word (Sql.flag b)

/-- The token of a number. -/
def ofInt32 (n : Int32) : Token := word (toString n.toInt)

end Sql.Token

/-- The token of a setting, with its value written by `quoted`. -/
def Setting.token (quoted : String → Token) : Setting → Option Token
  | .unset => none
  | .serverDefault => some (.word "DEFAULT")
  | .value text => some (quoted text)

/-- What the text of an attribute asks for: no text and the empty one ask for what `absent` says, the
word `DEFAULT` in letters of any case for the server's default, and every other text for itself. -/
def Setting.asked (absent : Setting) : Option String → Setting
  | none => absent
  | some text =>
    if text = "" then absent
    else if text.toLower = "default" then .serverDefault
    else .value text

theorem Setting.asked_of_unset (absent : Setting) {raw : Option String}
    (hraw : raw = none ∨ raw = some "") : asked absent raw = absent := by
  rcases hraw with rfl | rfl <;> rfl

theorem Setting.asked_of_value (absent : Setting) {raw : Option String} {text : String}
    (hraw : raw = some text) (hempty : text ≠ "") (hdefault : text.toLower ≠ "default") :
    asked absent raw = value text := by
  rw [hraw, asked, if_neg hempty, if_neg hdefault]

theorem Setting.of_eq_asked (raw : Option String) : of raw = asked unset raw := by
  cases raw with
  | none => rfl
  | some text => exact of_some text

theorem Setting.orElse_of (fallback : String) (raw : Option String) :
    (of raw).orElse fallback = asked (value fallback) raw := by
  cases raw with
  | none => rfl
  | some text =>
    rw [of_some, asked]
    split
    · rfl
    · split <;> rfl

/-- A setting that is requested. -/
def Setting.requested : Setting → Option Setting
  | .unset => none
  | setting => some setting

namespace DatabaseDefinition

/-- The tokens of the parts of the statement; a part that is missing has none. -/
def parts (d : DatabaseDefinition) : List (List Token) :=
  [clause ["CREATE", "DATABASE"] (some (.name d.name)),
    clause ["WITH", "COLOCATION", "="] (if d.colocation then some (.ofFlag true) else none),
    clause ["OWNER"] (some (.name d.owner)),
    clause ["TEMPLATE"] (d.template.token .name),
    clause ["ENCODING"] (d.encoding.token .literal),
    clause ["LC_COLLATE"] (d.lcCollate.token .literal),
    clause ["LC_CTYPE"] (d.lcCtype.token .literal),
    clause ["TABLESPACE"] (d.tablespace.token .name),
    clause ["ALLOW_CONNECTIONS"] (d.allowConnections.map .ofFlag),
    clause ["CONNECTION", "LIMIT"] (some (.ofInt32 d.connectionLimit)),
    clause ["IS_TEMPLATE"] (d.isTemplate.map .ofFlag)]

/-- The tokens of the statement. -/
def tokens (d : DatabaseDefinition) : List Token := d.parts.flatten

/-- Reads a definition from tokens: a name, the clauses in their order, and nothing else. -/
def ofTokens (tokens : List Token) : Option DatabaseDefinition := do
  let (name, tokens) ← takeClause ["CREATE", "DATABASE"] Token.name? tokens
  let (colocation, tokens) ← takeClause ["WITH", "COLOCATION", "="] Token.flag? tokens
  let (owner, tokens) ← takeClause ["OWNER"] Token.name? tokens
  let (template, tokens) ← takeClause ["TEMPLATE"] (Token.setting? Token.name?) tokens
  let (encoding, tokens) ← takeClause ["ENCODING"] (Token.setting? Token.literal?) tokens
  let (lcCollate, tokens) ← takeClause ["LC_COLLATE"] (Token.setting? Token.literal?) tokens
  let (lcCtype, tokens) ← takeClause ["LC_CTYPE"] (Token.setting? Token.literal?) tokens
  let (tablespace, tokens) ← takeClause ["TABLESPACE"] (Token.setting? Token.name?) tokens
  let (allowConnections, tokens) ← takeClause ["ALLOW_CONNECTIONS"] Token.flag? tokens
  let (connectionLimit, tokens) ← takeClause ["CONNECTION", "LIMIT"] Token.int32? tokens
  let (isTemplate, []) ← takeClause ["IS_TEMPLATE"] Token.flag? tokens | none
  return {
    name := ← name
    colocation := colocation.getD false
    owner := ← owner
    template := template.getD .unset
    encoding := encoding.getD .unset
    lcCollate := lcCollate.getD .unset
    lcCtype := lcCtype.getD .unset
    tablespace := tablespace.getD .unset
    allowConnections
    connectionLimit := ← connectionLimit
    isTemplate }

/-- Reads a definition from the text of a statement. -/
def ofSql (sql : String) : Option DatabaseDefinition := (Sql.lex sql.toList).bind ofTokens

/-! ## The text stands for the tokens -/

theorem writes_setting (keyword : String) {quoted : String → String} {write : String → Token}
    (hquoted : ∀ text, (quoted text).toList = (write text).spelling) (setting : Setting) :
    Writes (setting.clause keyword quoted) (clause [keyword] (setting.token write)) := by
  cases setting with
  | unset => exact .none
  | serverDefault =>
    exact .some (by simp [Sql.spell_cons_cons, Token.spelling])
  | value text =>
    exact .some (by simp [Sql.spell_cons_cons, Token.spelling, hquoted])

theorem writes_flag (keyword : String) (flag : Option Bool) :
    Writes (flag.map fun b => keyword ++ " " ++ Sql.flag b)
      (clause [keyword] (flag.map Token.ofFlag)) := by
  cases flag with
  | none => exact .none
  | some b => exact .some (by simp [Sql.spell_cons_cons, Token.spelling, Token.ofFlag])

theorem writes_colocation (colocation : Bool) :
    Writes (if colocation then some "WITH COLOCATION = true" else none)
      (clause ["WITH", "COLOCATION", "="] (if colocation then some (.ofFlag true) else none)) := by
  cases colocation with
  | false => exact .none
  | true => exact .some (by simp [Sql.spell_cons_cons, Token.spelling, Token.ofFlag, Sql.flag])

/-- Every part of the text stands for its tokens. -/
theorem writes_parts (d : DatabaseDefinition) :
    List.Forall₂ Writes
      [some ("CREATE DATABASE " ++ Sql.identifier d.name),
        if d.colocation then some "WITH COLOCATION = true" else none,
        some ("OWNER " ++ Sql.identifier d.owner),
        d.template.clause "TEMPLATE" Sql.identifier,
        d.encoding.clause "ENCODING" Sql.literal,
        d.lcCollate.clause "LC_COLLATE" Sql.literal,
        d.lcCtype.clause "LC_CTYPE" Sql.literal,
        d.tablespace.clause "TABLESPACE" Sql.identifier,
        d.allowConnections.map fun b => "ALLOW_CONNECTIONS " ++ Sql.flag b,
        some ("CONNECTION LIMIT " ++ toString d.connectionLimit.toInt),
        d.isTemplate.map fun b => "IS_TEMPLATE " ++ Sql.flag b] d.parts := by
  have hname (text : String) : (Sql.identifier text).toList = (Token.name text).spelling := by
    simp [Token.spelling]
  have hliteral (text : String) : (Sql.literal text).toList = (Token.literal text).spelling := by
    simp [Token.spelling]
  exact .cons (.some (by simp [Sql.spell_cons_cons, Token.spelling, hname])) <|
    .cons (writes_colocation d.colocation) <|
    .cons (.some (by simp [Sql.spell_cons_cons, Token.spelling, hname])) <|
    .cons (writes_setting "TEMPLATE" hname d.template) <|
    .cons (writes_setting "ENCODING" hliteral d.encoding) <|
    .cons (writes_setting "LC_COLLATE" hliteral d.lcCollate) <|
    .cons (writes_setting "LC_CTYPE" hliteral d.lcCtype) <|
    .cons (writes_setting "TABLESPACE" hname d.tablespace) <|
    .cons (writes_flag "ALLOW_CONNECTIONS" d.allowConnections) <|
    .cons (.some (by simp [Sql.spell_cons_cons, Token.spelling, Token.ofInt32])) <|
    .cons (writes_flag "IS_TEMPLATE" d.isTemplate) .nil

theorem toList_sql (d : DatabaseDefinition) :
    (Statement.createDatabase d).sql.toList = Sql.spell d.tokens :=
  (Sql.toList_intercalate (writes_parts d)).1

/-! ## The tokens are read back -/

theorem isWordChar_of_isDigit {c : Char} (h : c.isDigit = true) : Sql.isWordChar c = true := by
  by_contra hnot
  simp only [Sql.isWordChar, Char.isWhitespace, Sql.isQuote, Sql.isPunctuation, Bool.not_eq_true',
    Bool.not_eq_false, Bool.or_eq_true, decide_eq_true_eq, beq_iff_eq] at hnot
  casesm* _ ∨ _ <;> subst c <;> cases h

theorem isProper_ofInt32 (n : Int32) : (Token.ofInt32 n).IsProper := by
  have hdigits (m : Nat) : (Nat.toDigits 10 m).all Sql.isWordChar = true :=
    List.all_eq_true.mpr fun c hc =>
      isWordChar_of_isDigit (List.all_eq_true.mp (Text.all_isDigit_toDigits m) c hc)
  have hword (s : List Char) (hs : s ≠ []) (hall : s.all Sql.isWordChar = true) :
      Sql.isWord (String.ofList s) = true := by
    obtain ⟨c, s, rfl⟩ := List.exists_cons_of_ne_nil hs
    simp only [Sql.isWord, String.toList_ofList, hall, Bool.true_or]
  show Sql.isWord (Int.repr n.toInt) = true
  cases n.toInt with
  | ofNat m =>
    rw [Int.repr, Nat.repr_eq_ofList_toDigits]
    exact hword _ Nat.toDigits_ne_nil (hdigits m)
  | negSucc m =>
    have hminus : Int.repr (.negSucc m) = String.ofList ('-' :: Nat.toDigits 10 (m + 1)) := by
      simp [← String.toList_inj, Int.repr]
    rw [hminus]
    exact hword _ (List.cons_ne_nil _ _) (Bool.and_eq_true_iff.mpr ⟨rfl, hdigits (m + 1)⟩)

theorem isProper_setting {write : String → Token} (hwrite : ∀ text, (write text).IsProper)
    (setting : Setting) : ∀ t ∈ setting.token write, t.IsProper := by
  cases setting with
  | unset => exact nofun
  | serverDefault => exact fun t ht => Option.some.inj ht ▸ rfl
  | value text => exact fun t ht => Option.some.inj ht ▸ hwrite text

theorem isProper_flag (flag : Option Bool) : ∀ t ∈ flag.map Token.ofFlag, t.IsProper := by
  rcases flag with _ | _ | _
  · exact nofun
  · exact fun t ht => Option.some.inj ht ▸ rfl
  · exact fun t ht => Option.some.inj ht ▸ rfl

theorem isProper_of_mem_tokens (d : DatabaseDefinition) : ∀ t ∈ d.tokens, t.IsProper := by
  have hsome {t : Token} (h : t.IsProper) : ∀ u ∈ some t, u.IsProper :=
    fun u hu => Option.some.inj hu ▸ h
  have hname (text : String) : (Token.name text).IsProper := trivial
  have hliteral (text : String) : (Token.literal text).IsProper := trivial
  have hcolocation : ∀ t ∈ (if d.colocation then some (Token.ofFlag true) else none),
      t.IsProper := by
    cases d.colocation with
    | false => exact nofun
    | true => exact hsome rfl
  have hparts : ∀ part ∈ d.parts, ∀ t ∈ part, t.IsProper := by
    simp only [parts, List.forall_mem_cons]
    exact ⟨Sql.isProper_of_mem_clause rfl (hsome trivial),
      Sql.isProper_of_mem_clause rfl hcolocation,
      Sql.isProper_of_mem_clause rfl (hsome trivial),
      Sql.isProper_of_mem_clause rfl (isProper_setting hname d.template),
      Sql.isProper_of_mem_clause rfl (isProper_setting hliteral d.encoding),
      Sql.isProper_of_mem_clause rfl (isProper_setting hliteral d.lcCollate),
      Sql.isProper_of_mem_clause rfl (isProper_setting hliteral d.lcCtype),
      Sql.isProper_of_mem_clause rfl (isProper_setting hname d.tablespace),
      Sql.isProper_of_mem_clause rfl (isProper_flag d.allowConnections),
      Sql.isProper_of_mem_clause rfl (hsome (isProper_ofInt32 d.connectionLimit)),
      Sql.isProper_of_mem_clause rfl (isProper_flag d.isTemplate), List.forall_mem_nil _⟩
  intro t ht
  obtain ⟨part, hpart, ht⟩ := List.mem_flatten.mp ht
  exact hparts part hpart t ht

theorem setting?_token {value? : Token → Option String} {write : String → Token}
    (hread : ∀ text, Token.setting? value? (write text) = some (.value text))
    (setting : Setting) :
    (setting.token write).map (Token.setting? value?) = setting.requested.map some := by
  cases setting with
  | unset => rfl
  | serverDefault => rfl
  | value text => simp [Setting.token, Setting.requested, hread]

theorem flag?_ofFlag (flag : Option Bool) :
    (flag.map Token.ofFlag).map Token.flag? = flag.map some := by
  rcases flag with _ | _ | _ <;> rfl

theorem int32?_ofInt32 (n : Int32) : (Token.ofInt32 n).int32? = some n := Text.int32?_toString n

theorem getD_requested (setting : Setting) : setting.requested.getD .unset = setting := by
  cases setting <;> rfl

/-- Each clause is read back, since the clauses after it begin with other keywords. -/
theorem ofTokens_tokens (d : DatabaseDefinition) : ofTokens d.tokens = some d := by
  have hname (text : String) : (some (Token.name text)).map Token.name? = (some text).map some :=
    rfl
  have hlimit : (some (Token.ofInt32 d.connectionLimit)).map Token.int32? =
      (some d.connectionLimit).map some := congrArg some (int32?_ofInt32 d.connectionLimit)
  have hcolocation : (if d.colocation then some (Token.ofFlag true) else none).map Token.flag? =
      (if d.colocation then some true else none).map some := by
    cases d.colocation <;> rfl
  have hquoted : ∀ text, Token.setting? Token.name? (.name text) = some (.value text) :=
    fun _ => rfl
  have hliteral : ∀ text, Token.setting? Token.literal? (.literal text) = some (.value text) :=
    fun _ => rfl
  have hset : (if d.colocation then some true else none).getD false = d.colocation := by
    cases d.colocation <;> rfl
  simp (disch :=
      (repeat refine Sql.head?_clause_append_ne (by decide) ?_)
      exact Sql.head?_nil_ne _) only [ofTokens, tokens, parts, List.flatten_cons,
    List.flatten_nil, Option.bind_eq_bind, Option.bind, Sql.takeClause_clause (hname _),
    Sql.takeClause_clause hcolocation, Sql.takeClause_clause (setting?_token hquoted _),
    Sql.takeClause_clause (setting?_token hliteral _), Sql.takeClause_clause (flag?_ofFlag _),
    Sql.takeClause_clause hlimit, getD_requested, hset]
  rfl

/-- Every definition is read back from the text of the statement. -/
theorem ofSql_sql (d : DatabaseDefinition) : ofSql (Statement.createDatabase d).sql = some d := by
  rw [ofSql, toList_sql, Sql.lex_spell d.isProper_of_mem_tokens, Option.bind_some, ofTokens_tokens]

/-! ## What a spec asks for is read -/

/-- What a spec asks for, by the texts in it. The principal is the owner where none is named, a
template and an encoding are always asked for, and flags only of servers that know them. -/
def asked (spec : DatabaseSpec) (principal : String) (version : ServerVersion) :
    DatabaseDefinition where
  name := spec.name
  colocation := spec.colocation
  owner := (spec.owner.filter (· ≠ "")).getD principal
  template := .asked (.value "template0") spec.template
  encoding := .asked (.value "UTF8") spec.encoding
  lcCollate := .asked .unset spec.lcCollate
  lcCtype := .asked .unset spec.lcCtype
  tablespace := .asked .unset spec.tablespace
  allowConnections := if version.atLeast 9 5 then some spec.allowConnections else none
  connectionLimit := spec.connectionLimit
  isTemplate := if version.atLeast 9 5 then some spec.isTemplate else none

theorem ofSpec_eq_asked (spec : DatabaseSpec) (principal : String) (version : ServerVersion) :
    ofSpec spec principal version = asked spec principal version := by
  rw [ofSpec, DatabaseSpec.requestedOwner_eq, Setting.orElse_of, Setting.orElse_of,
    Setting.of_eq_asked, Setting.of_eq_asked, Setting.of_eq_asked, version.supports_eq_atLeast,
    version.supports_eq_atLeast]
  rfl

/-- The text that a spec is written as says what the spec asks for, and two texts are the same only
if they say the same. -/
theorem ofSql_ofSpec (spec : DatabaseSpec) (principal : String) (version : ServerVersion) :
    ofSql (Statement.createDatabase (.ofSpec spec principal version)).sql =
        some (asked spec principal version) ∧
      ∀ (spec' : DatabaseSpec) (principal' : String) (version' : ServerVersion),
        (Statement.createDatabase (.ofSpec spec' principal' version')).sql =
            (Statement.createDatabase (.ofSpec spec principal version)).sql ↔
          asked spec' principal' version' = asked spec principal version := by
  simp only [ofSpec_eq_asked]
  refine ⟨ofSql_sql _, fun spec' principal' version' => ⟨fun hsql => ?_, fun heq => by rw [heq]⟩⟩
  have hread := congrArg ofSql hsql
  rw [ofSql_sql, ofSql_sql] at hread
  exact Option.some.inj hread

/-- Empty texts ask for nothing, the word for the server's default may be written in any case, and a
text that only begins with it is a value. -/
example :
    let spec := { DatabaseSpec.ofName "sales" with
      owner := some "", template := some "", encoding := some "Default", lcCollate := some "C",
      tablespace := some "DEFAULTS" }
    (Statement.createDatabase (.ofSpec spec "app" ⟨9, 4, 0⟩)).sql =
      "CREATE DATABASE \"sales\" OWNER \"app\" TEMPLATE \"template0\" ENCODING DEFAULT" ++
        " LC_COLLATE 'C' TABLESPACE \"DEFAULTS\" CONNECTION LIMIT -1" := by decide +kernel

end DatabaseDefinition

end PgConverge
