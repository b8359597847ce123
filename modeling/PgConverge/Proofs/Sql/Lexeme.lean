import PgConverge.Connection.Request
import PgConverge.Proofs.Sql.Command

/-!
# The tokens of a request

Every text that is sent is read token by token, the fixed questions included. What stands in quotes
is one token whatever it holds, so that a name can neither add a word to a text nor take one away.

## Main definitions

* `Statement.lexemes`, `Query.lexemes`, `Request.lexemes` — the tokens of the texts.
* `Statement.ofLexemes`, `Statement.ofText` — the statement that tokens say, and that a text says;
  dropping a database is among them.

## Main statements

* `Request.lex_sql` — the tokens are what is read from the text.
* `Statement.ofText_sql` — a statement is read back from its text.
* `Request.eq_execute_of_ofText` — no other request has the text of a statement.
-/

namespace PgConverge

open Sql (Token clause words)

namespace Statement

/-- The words that end the sessions connected to a database that is dropped. -/
def forcedWords : List String := ["WITH", "(", "FORCE", ")"]

/-- The tokens of a statement; the texts of those that do not alter a database are told apart. -/
def lexemes : Statement → List Token
  | dropDatabase name forced =>
    clause ["DROP", "DATABASE"] (some (.name name)) ++ if forced then words forcedWords else []
  | terminateSessions column _ =>
    words ["SELECT", "pg_terminate_backend", "(", column.name, ")", "FROM",
      "pg_catalog.pg_stat_activity", "WHERE", "datname", "=", "$1", "AND", column.name, "<>",
      "pg_backend_pid", "(", ")"]
  | statement => statement.tokens

/-- Reads a statement from tokens. -/
def ofLexemes : List Token → Option Statement
  | [.word "DROP", .word "DATABASE", .name name] => some (dropDatabase name false)
  | [.word "DROP", .word "DATABASE", .name name, .word "WITH", .word "(", .word "FORCE",
      .word ")"] => some (dropDatabase name true)
  | tokens => ofTokens tokens

/-- Reads a statement from its text. -/
def ofText (sql : String) : Option Statement := (Sql.lex sql.toList).bind ofLexemes

/-- Whether a statement is not given by its text. -/
def IsWorded : Statement → Prop
  | verbatim .. => False
  | _ => True

theorem lex_dropDatabase (name : String) (forced : Bool) :
    Sql.lex (dropDatabase name forced).sql.toList = some (dropDatabase name forced).lexemes := by
  let drop : List Token := clause ["DROP", "DATABASE"] (some (.name name))
  have hproper : ∀ t ∈ drop, t.IsProper :=
    Sql.isProper_of_mem_clause rfl fun t ht => Option.some.inj ht ▸ trivial
  have hdrop : Sql.lex ("DROP DATABASE " ++ Sql.identifier name).toList = some drop := by
    rw [← Sql.lex_spell hproper]
    simp [drop, Sql.spell_clause_cons, Sql.spell_clause, Token.spelling]
  cases forced with
  | false =>
    show Sql.lex ("DROP DATABASE " ++ Sql.identifier name ++ "").toList = some (drop ++ [])
    rw [String.append_empty, hdrop, List.append_nil]
  | true =>
    have hforced : Sql.lex "WITH (FORCE)".toList = some (words forcedWords) := by decide +kernel
    have hspace : " WITH (FORCE)".toList = ' ' :: "WITH (FORCE)".toList := rfl
    show Sql.lex ("DROP DATABASE " ++ Sql.identifier name ++ " WITH (FORCE)").toList =
      some (drop ++ words forcedWords)
    rw [String.toList_append, hspace, Sql.lex_append_space hdrop, hforced, Option.map_some]

theorem lex_terminateSessions (column : PidColumn) (name : String) :
    Sql.lex (terminateSessions column name).sql.toList =
      some (terminateSessions column name).lexemes := by
  have hclosed : Sql.lex (terminateSessions column "").sql.toList =
      some (terminateSessions column "").lexemes := by
    cases column <;> decide +kernel
  exact hclosed

/-- The tokens of a statement are what is read from its text. -/
theorem lex_sql {statement : Statement} (h : statement.IsWorded) :
    Sql.lex statement.sql.toList = some statement.lexemes := by
  have hreadable (hr : statement.IsReadable) :
      Sql.lex statement.sql.toList = some statement.tokens := by
    rw [toList_sql hr, Sql.lex_spell statement.isProper_of_mem_tokens]
  cases statement with
  | dropDatabase name forced => exact lex_dropDatabase name forced
  | terminateSessions column name => exact lex_terminateSessions column name
  | verbatim => exact h.elim
  | _ => exact hreadable trivial

/-- A statement is read back from its text, if the text says all of it. -/
theorem ofText_sql {statement : Statement} (h : statement.IsWorded)
    (hnames : ∀ column name, statement ≠ .terminateSessions column name) :
    ofText statement.sql = some statement := by
  have hreadable (hr : statement.IsReadable) : ofTokens statement.tokens = some statement :=
    ofTokens_tokens hr
  rw [ofText, lex_sql h, Option.bind_some]
  cases statement with
  | dropDatabase name forced => cases forced <;> rfl
  | terminateSessions column name => exact absurd rfl (hnames column name)
  | verbatim => exact h.elim
  | _ => exact hreadable trivial

end Statement

namespace Query

/-- The words that join the tables with a database's settings. -/
def settingsWords : List String :=
  ["FROM", "pg_catalog.pg_database", "AS", "d", ",", "pg_catalog.pg_tablespace", "AS", "ts",
    "WHERE", "d.datname", "=", "$1", "AND", "d.dattablespace", "=", "ts.oid"]

/-- The words of a question; no name is among them. -/
def wordsOf : Query → List String
  | databaseOwner _ =>
    ["SELECT", "d.datname", ",", "pg_catalog.pg_get_userbyid", "(", "d.datdba", ")", "FROM",
      "pg_catalog.pg_database", "AS", "d", "WHERE", "d.datname", "=", "$1"]
  | databaseSettings _ =>
    ["SELECT", "pg_catalog.pg_encoding_to_char", "(", "d.encoding", ")", ",", "d.datcollate", ",",
      "d.datctype", ",", "ts.spcname", ",", "d.datconnlimit"] ++ settingsWords
  | databaseAllowConnections _ => ["SELECT", "d.datallowconn"] ++ settingsWords
  | databaseIsTemplate _ => ["SELECT", "d.datistemplate"] ++ settingsWords
  | databaseExists _ =>
    ["SELECT", "d.datname", "FROM", "pg_catalog.pg_database", "AS", "d", "WHERE", "d.datname",
      "=", "$1"]
  | roleMembership .. =>
    ["SELECT", "1", "FROM", "pg_catalog.pg_auth_members", "WHERE", "pg_catalog.pg_get_userbyid",
      "(", "member", ")", "=", "$1", "AND", "pg_catalog.pg_get_userbyid", "(", "roleid", ")", "=",
      "$2"]
  | lockRole _ =>
    ["SELECT", "pg_catalog.pg_advisory_xact_lock", "(", "oid", ")", "FROM",
      "pg_catalog.pg_roles", "WHERE", "rolname", "=", "$1"]
  | currentUser => ["SELECT", "CURRENT_USER"]
  | serverVersion | verbatim .. => []

/-- Whether a question is one of those about databases and roles, whose texts are fixed. -/
def IsCatalog : Query → Prop
  | serverVersion | currentUser | verbatim .. => False
  | _ => True

/-- The questions about databases and roles, with nothing in their parameters. -/
def catalog : List Query :=
  [databaseOwner "", databaseSettings "", databaseAllowConnections "", databaseIsTemplate "",
    databaseExists "", roleMembership "" "", lockRole ""]

/-- The texts of the questions about databases and roles. -/
def catalogTexts : List String := catalog.map sql

theorem lex_append_settingsSource {text : String} {front : List String}
    (h : Sql.lex text.toList = some (words front)) :
    Sql.lex (text ++ settingsSource).toList = some (words (front ++ settingsWords)) := by
  have hspace : settingsSource.toList = ' ' :: settingsSource.toList.tail := by decide +kernel
  have hsource : Sql.lex settingsSource.toList = some (words settingsWords) := by decide +kernel
  rw [hspace, Sql.lex_space] at hsource
  rw [String.toList_append, hspace, Sql.lex_append_space h, hsource, Option.map_some]
  simp [words]

/-- The words of a question are what is read from its text. -/
theorem lex_sql {question : Query} (h : question.IsCatalog) :
    Sql.lex question.sql.toList = some (words question.wordsOf) := by
  cases question with
  | databaseOwner name =>
    show Sql.lex (databaseOwner "").sql.toList = some (words (databaseOwner "").wordsOf)
    decide +kernel
  | databaseSettings name => exact lex_append_settingsSource (by decide +kernel)
  | databaseAllowConnections name => exact lex_append_settingsSource (by decide +kernel)
  | databaseIsTemplate name => exact lex_append_settingsSource (by decide +kernel)
  | databaseExists name =>
    show Sql.lex (databaseExists "").sql.toList = some (words (databaseExists "").wordsOf)
    decide +kernel
  | roleMembership member group =>
    show Sql.lex (roleMembership "" "").sql.toList = some (words (roleMembership "" "").wordsOf)
    decide +kernel
  | lockRole role =>
    show Sql.lex (lockRole "").sql.toList = some (words (lockRole "").wordsOf)
    decide +kernel
  | currentUser => exact h.elim
  | serverVersion => exact h.elim
  | verbatim => exact h.elim

/-- The text of a question does not depend on the names that it is about. -/
theorem sql_mem_catalogTexts {question : Query} (h : question.IsCatalog) :
    question.sql ∈ catalogTexts := by
  have hmem (other : Query) (hother : other ∈ catalog) (hsql : other.sql = question.sql) :
      question.sql ∈ catalogTexts := hsql ▸ List.mem_map_of_mem hother
  cases question with
  | databaseOwner => exact hmem (databaseOwner "") (by decide) rfl
  | databaseSettings => exact hmem (databaseSettings "") (by decide) rfl
  | databaseAllowConnections => exact hmem (databaseAllowConnections "") (by decide) rfl
  | databaseIsTemplate => exact hmem (databaseIsTemplate "") (by decide) rfl
  | databaseExists => exact hmem (databaseExists "") (by decide) rfl
  | roleMembership => exact hmem (roleMembership "" "") (by decide) rfl
  | lockRole => exact hmem (lockRole "") (by decide) rfl
  | currentUser => exact h.elim
  | serverVersion => exact h.elim
  | verbatim => exact h.elim

/-- The parameters of a question are names. -/
theorem text_of_mem_parameters {question : Query} (h : question.IsCatalog) :
    ∀ v ∈ question.parameters, ∃ name, v = .text name := by
  cases question with
  | currentUser => exact h.elim
  | serverVersion => exact h.elim
  | verbatim => exact h.elim
  | _ => simp [parameters]

end Query

namespace Request

/-- The tokens of a request. -/
def lexemes : Request → List Token
  | execute _ statement => statement.lexemes
  | query _ question => words question.wordsOf
  | begin _ => words ["BEGIN"]
  | beginReadOnly => words ["BEGIN", "READ", "ONLY"]
  | commit _ => words ["COMMIT"]
  | rollback _ => words ["ROLLBACK"]
  | discard _ => []

/-- Whether a request is not given by its text, and asks only about databases and roles. -/
def IsWorded : Request → Prop
  | execute _ statement => statement.IsWorded
  | query _ question => question.IsCatalog
  | _ => True

/-- The tokens of a request are what is read from its text. -/
theorem lex_sql {request : Request} (h : request.IsWorded) :
    Sql.lex request.sql.toList = some request.lexemes := by
  cases request with
  | execute session statement => exact Statement.lex_sql h
  | query session question => exact Query.lex_sql h
  | begin =>
    show Sql.lex "BEGIN".toList = some (words ["BEGIN"])
    decide +kernel
  | beginReadOnly => decide +kernel
  | commit =>
    show Sql.lex "COMMIT".toList = some (words ["COMMIT"])
    decide +kernel
  | rollback =>
    show Sql.lex "ROLLBACK".toList = some (words ["ROLLBACK"])
    decide +kernel
  | discard =>
    show Sql.lex "".toList = some []
    decide +kernel

/-- The statement that the text of a request says is the one that is executed. -/
theorem eq_execute_of_ofText {request : Request} {statement : Statement}
    (h : request.IsWorded) (htext : Statement.ofText request.sql = some statement) :
    ∃ session, request = .execute session statement := by
  have hread : Statement.ofLexemes request.lexemes = some statement := by
    rwa [Statement.ofText, lex_sql h, Option.bind_some] at htext
  cases request with
  | execute session executed =>
    by_cases hterminate : ∃ column name, executed = .terminateSessions column name
    · obtain ⟨column, name, rfl⟩ := hterminate
      cases column <;> cases hread
    · have hexecuted : Statement.ofText executed.sql = some executed :=
        Statement.ofText_sql h fun column name heq => hterminate ⟨column, name, heq⟩
      exact ⟨session, congrArg _ (Option.some.inj (hexecuted.symm.trans htext))⟩
  | query session question =>
    cases question with
    | currentUser => exact h.elim
    | serverVersion => exact h.elim
    | verbatim => exact h.elim
    | _ => cases hread
  | _ => cases hread

end Request

end PgConverge
