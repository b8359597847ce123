import PgConverge.Proofs.Sql.Definition

/-!
# Reading statements

The statements that create and alter databases, hand over what a role owns, and change memberships
are read back from their texts.

## Main definitions

* `Statement.tokens` — the tokens of a statement.
* `Statement.ofTokens`, `Statement.ofSql` — the statement that tokens, a text say.
* `Statement.IsReadable` — the statements with such a text.

## Main statements

* `Statement.ofSql_sql` — a statement is read back from its text.
-/

namespace PgConverge.Statement

open Sql (Token clause)

/-- Whether a statement creates or alters a database, hands over what a role owns, or changes
memberships. -/
def IsReadable : Statement → Prop
  | dropDatabase .. | terminateSessions .. | verbatim .. => False
  | _ => True

/-- The tokens of a statement that alters a database: an action and its value. -/
def alterationTokens (name : String) (action : List String) (value : Token) : List Token :=
  clause ["ALTER", "DATABASE"] (some (.name name)) ++ clause action (some value)

/-- The tokens of a statement. -/
def tokens : Statement → List Token
  | createDatabase definition => definition.tokens
  | renameDatabase name newName => alterationTokens name ["RENAME", "TO"] (.name newName)
  | setOwner name owner => alterationTokens name ["OWNER", "TO"] (.name owner)
  | reassignOwned oldOwner newOwner =>
    clause ["REASSIGN", "OWNED", "BY"] (some (.name oldOwner)) ++
      clause ["TO"] (some (.name newOwner))
  | setTablespace name tablespace => alterationTokens name ["SET", "TABLESPACE"] (.name tablespace)
  | resetTablespace name => alterationTokens name ["RESET"] (.word "TABLESPACE")
  | setConnectionLimit name limit =>
    alterationTokens name ["CONNECTION", "LIMIT", "="] (.ofInt32 limit)
  | setAllowConnections name allow => alterationTokens name ["ALLOW_CONNECTIONS"] (.ofFlag allow)
  | setIsTemplate name isTemplate => alterationTokens name ["IS_TEMPLATE"] (.ofFlag isTemplate)
  | grantRole group member =>
    clause ["GRANT"] (some (.name group)) ++ clause ["TO"] (some (.name member))
  | revokeRole group member =>
    clause ["REVOKE"] (some (.name group)) ++ clause ["FROM"] (some (.name member))
  | dropDatabase .. | terminateSessions .. | verbatim .. => []

/-- Reads what is to be altered. -/
def ofAction (name : String) : List Token → Option Statement
  | [.word "RENAME", .word "TO", .name newName] => some (renameDatabase name newName)
  | [.word "OWNER", .word "TO", .name owner] => some (setOwner name owner)
  | [.word "SET", .word "TABLESPACE", .name tablespace] => some (setTablespace name tablespace)
  | [.word "RESET", .word "TABLESPACE"] => some (resetTablespace name)
  | [.word "CONNECTION", .word "LIMIT", .word "=", limit] =>
    limit.int32?.map (setConnectionLimit name)
  | [.word "ALLOW_CONNECTIONS", allow] => allow.flag?.map (setAllowConnections name)
  | [.word "IS_TEMPLATE", isTemplate] => isTemplate.flag?.map (setIsTemplate name)
  | _ => none

/-- Reads a statement from tokens. -/
def ofTokens : List Token → Option Statement
  | .word "ALTER" :: .word "DATABASE" :: .name name :: action => ofAction name action
  | [.word "REASSIGN", .word "OWNED", .word "BY", .name oldOwner, .word "TO", .name newOwner] =>
    some (reassignOwned oldOwner newOwner)
  | [.word "GRANT", .name group, .word "TO", .name member] => some (grantRole group member)
  | [.word "REVOKE", .name group, .word "FROM", .name member] => some (revokeRole group member)
  | tokens => (DatabaseDefinition.ofTokens tokens).map createDatabase

/-- Reads a statement from its text. -/
def ofSql (sql : String) : Option Statement := (Sql.lex sql.toList).bind ofTokens

theorem toList_alteration {name action : String} {keywords : List String} {value : Token}
    (h : action.toList = Sql.spell (clause keywords (some value))) :
    (alteration name action).toList = Sql.spell (alterationTokens name keywords value) := by
  rw [alterationTokens, Sql.spell_clause_append, ← h]
  show ("ALTER DATABASE " ++ Sql.identifier name ++ " " ++ action).toList = _
  simp [Sql.spell_clause_cons, Sql.spell_clause, Token.spelling]

theorem toList_sql {statement : Statement} (h : statement.IsReadable) :
    statement.sql.toList = Sql.spell statement.tokens := by
  cases statement with
  | createDatabase definition => exact definition.toList_sql
  | reassignOwned oldOwner newOwner =>
    show ("REASSIGN OWNED BY " ++ Sql.identifier oldOwner ++ " TO " ++
        Sql.identifier newOwner).toList =
      Sql.spell (clause ["REASSIGN", "OWNED", "BY"] (some (.name oldOwner)) ++
        clause ["TO"] (some (.name newOwner)))
    simp [Sql.spell_clause_append, Sql.spell_clause_cons, Sql.spell_clause, Token.spelling]
  | grantRole group member =>
    show ("GRANT " ++ Sql.identifier group ++ " TO " ++ Sql.identifier member).toList =
      Sql.spell (clause ["GRANT"] (some (.name group)) ++ clause ["TO"] (some (.name member)))
    simp [Sql.spell_clause_append, Sql.spell_clause, Token.spelling]
  | revokeRole group member =>
    show ("REVOKE " ++ Sql.identifier group ++ " FROM " ++ Sql.identifier member).toList =
      Sql.spell (clause ["REVOKE"] (some (.name group)) ++ clause ["FROM"] (some (.name member)))
    simp [Sql.spell_clause_append, Sql.spell_clause, Token.spelling]
  | dropDatabase => exact h.elim
  | terminateSessions => exact h.elim
  | verbatim => exact h.elim
  | _ =>
    refine toList_alteration ?_
    simp [Sql.spell_clause_cons, Sql.spell_clause, Token.spelling, Token.ofInt32,
      Token.ofFlag]

theorem isProper_of_mem_tokens (statement : Statement) : ∀ t ∈ statement.tokens, t.IsProper := by
  have hsome {t : Token} (h : t.IsProper) : ∀ u ∈ some t, u.IsProper :=
    fun u hu => Option.some.inj hu ▸ h
  have hpair {keywords more : List String} {value last : Token}
      (hkeywords : keywords.all Sql.isWord = true) (hvalue : value.IsProper)
      (hmore : more.all Sql.isWord = true) (hlast : last.IsProper) :
      ∀ t ∈ clause keywords (some value) ++ clause more (some last), t.IsProper :=
    List.forall_mem_append.mpr ⟨Sql.isProper_of_mem_clause hkeywords (hsome hvalue),
      Sql.isProper_of_mem_clause hmore (hsome hlast)⟩
  have hflag (b : Bool) : (Token.ofFlag b).IsProper := by cases b <;> rfl
  cases statement with
  | createDatabase definition => exact definition.isProper_of_mem_tokens
  | setConnectionLimit name limit =>
    exact hpair rfl trivial rfl (DatabaseDefinition.isProper_ofInt32 limit)
  | setAllowConnections name allow => exact hpair rfl trivial rfl (hflag allow)
  | setIsTemplate name isTemplate => exact hpair rfl trivial rfl (hflag isTemplate)
  | resetTablespace name => exact hpair rfl trivial rfl rfl
  | dropDatabase => exact List.forall_mem_nil _
  | terminateSessions => exact List.forall_mem_nil _
  | verbatim => exact List.forall_mem_nil _
  | _ => exact hpair rfl trivial rfl trivial

theorem ofTokens_tokens {statement : Statement} (h : statement.IsReadable) :
    ofTokens statement.tokens = some statement := by
  cases statement with
  | createDatabase definition =>
    have hread := congrArg (Option.map createDatabase) definition.ofTokens_tokens
    exact hread
  | setConnectionLimit name limit =>
    exact congrArg (Option.map _) (DatabaseDefinition.int32?_ofInt32 limit)
  | setAllowConnections name allow => cases allow <;> rfl
  | setIsTemplate name isTemplate => cases isTemplate <;> rfl
  | dropDatabase => exact h.elim
  | terminateSessions => exact h.elim
  | verbatim => exact h.elim
  | _ => rfl

/-- A statement is read back from its text. -/
theorem ofSql_sql {statement : Statement} (h : statement.IsReadable) :
    ofSql statement.sql = some statement := by
  rw [ofSql, toList_sql h, Sql.lex_spell statement.isProper_of_mem_tokens, Option.bind_some,
    ofTokens_tokens h]

end PgConverge.Statement
