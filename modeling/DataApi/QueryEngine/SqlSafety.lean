import Mathlib.Data.Finset.Dedup
import DataApi.Core.Exceptions
import DataApi.Library.Scanner
import DataApi.QueryEngine.Sqlglot

/-!
# The SQL safety validator

`validate` accepts one `SELECT` whose tree holds no forbidden node, renders it
again, and puts the rendered text through the same policy.  Everything it has
checked when it returns is one statement, `validate_eq_ok_iff`; the results
about accepted SQL use nothing else.  The second parse goes through another entry
point than the first, `parse_one`, and is a parameter of `validateWith`.
-/

namespace DataApi
namespace QueryEngine

open Library

/-- `DynamicSqlError`. -/
def dynamicSqlError (code message : String) : AppError := ⟨422, code, message, []⟩

/-- `ValidatedSql`. -/
structure ValidatedSql where
  canonicalSql : String
  parameterNames : Finset String
  deriving DecidableEq

/-- `_PARAMETER_NAME.fullmatch`. -/
def isParameterName (name : String) : Bool := isIdentifier name.toList

/-- `_ALLOWED_CONTROL_CHARACTERS`. -/
def allowedControlCharacters : List Char := ['\t', '\n', '\r']

/-- A control or formatting character other than the allowed ones. -/
def isUnsafeCharacter (U : Unicode) (c : Char) : Bool :=
  c ∉ allowedControlCharacters && (U.category c).toList.head? == some 'C'

/-- `_FORBIDDEN_NODES`. -/
def forbiddenNodes : List NodeKind :=
  [.insert, .update, .delete, .merge, .create, .drop, .alter, .truncateTable,
    .grant, .revoke, .set, .use, .transaction, .commit, .rollback, .execute,
    .showCommand, .describe, .command]

/-- `_validate_characters`. -/
def validateCharacters (U : Unicode) (sql : String) : Except AppError Unit :=
  raiseIf (sql.toList.any (isUnsafeCharacter U) = true)
    (dynamicSqlError "dynamic_sql_unsafe_character"
      "SQL contains an unsafe control or formatting character")

/-- The first parse, with the client errors for its exceptions. -/
def parseStatements (S : Sqlglot) (sql : String) (dialect : Dialect) :
    Except AppError (List (Option Expression)) :=
  match S.parse dialect sql with
  | .ok statements => .ok statements
  | .error (.parseError highlights) =>
      if ":" ∈ highlights then
        .error (dynamicSqlError "dynamic_sql_invalid_parameter"
          "SQL parameters must use :name with an ASCII identifier")
      else
        .error (dynamicSqlError "dynamic_sql_invalid"
          ("SQL is not valid " ++ dialect.value ++ " SQL"))
  | .error .other =>
      .error (dynamicSqlError "dynamic_sql_invalid"
        ("SQL is not valid " ++ dialect.value ++ " SQL"))

/-- Exactly one statement, and not an empty one. -/
def singleStatement : List (Option Expression) → Except AppError Expression
  | [some expression] => .ok expression
  | _ => .error (dynamicSqlError "dynamic_sql_multiple_statements"
      "Exactly one SQL statement is required")

/-- `_validate_select_tree`. -/
def validateSelectTree (expression : Expression) : Except AppError Unit := do
  raiseIf (expression.kind ≠ .select)
    (dynamicSqlError "dynamic_sql_statement_not_allowed"
      "Only SELECT queries are allowed")
  raiseIf (∃ kind ∈ expression.kinds, kind ∈ forbiddenNodes)
    (dynamicSqlError "dynamic_sql_statement_not_allowed"
      "Only read-only SELECT expressions are allowed")

/-- The pattern `%\(([A-Za-z_][A-Za-z0-9_]*)\)s`. -/
def pyformatMatcher : Matcher Char (List Char)
  | _, '%' :: '(' :: rest =>
      let name := rest.takeWhile isNameChar
      if isIdentifier name && [')', 's'].isPrefixOf (rest.dropWhile isNameChar) then
        some (name.length + 3, name)
      else none
  | _, _ => none

/-- The `re.sub` that turns `%(name)s` into `:name`. -/
def namedFromPyformat (sql : List Char) : List Char :=
  substitute pyformatMatcher (fun name => ':' :: name) sql

/-- The text rendered from an accepted tree. -/
def canonicalSql (S : Sqlglot) (dialect : Dialect) (expression : Expression) :
    String :=
  match dialect with
  | .trino => S.sql .trino expression
  | .postgres =>
      String.ofList (namedFromPyformat (S.sql .postgres expression).toList)

/-- What parses one statement of a text. -/
abbrev ParseOne := Dialect → String → Except SqlglotError Expression

/-- `_parse_canonical_sql`. -/
def parseCanonicalSql (parseOne : ParseOne) (canonicalSql : String) (dialect : Dialect) :
    Except AppError Expression :=
  match parseOne dialect canonicalSql with
  | .ok expression => .ok expression
  | .error _ => .error (dynamicSqlError "dynamic_sql_invalid"
      "Canonical SQL could not be validated")

/-- The set of placeholder names, all of which have to be identifiers. -/
def collectParameterNames (reparsed : Expression) :
    Except AppError (Finset String) := do
  raiseIf (∃ name ∈ reparsed.placeholderNames, ¬ isParameterName name)
    (dynamicSqlError "dynamic_sql_invalid_parameter"
      "SQL parameters must use :name with an ASCII identifier")
  return reparsed.placeholderNames.toFinset

/-- `SqlSafetyValidator.validate`, with a given `parse_one`. -/
def validateWith (U : Unicode) (S : Sqlglot) (parseOne : ParseOne) (sql : String)
    (dialect : Dialect) : Except AppError ValidatedSql := do
  validateCharacters U sql
  raiseIf (strip sql = "")
    (dynamicSqlError "dynamic_sql_empty" "SQL must not be empty")
  let statements ← parseStatements S sql dialect
  let expression ← singleStatement statements
  validateSelectTree expression
  let canonical := canonicalSql S dialect expression
  let reparsed ← parseCanonicalSql parseOne canonical dialect
  validateSelectTree reparsed
  let parameterNames ← collectParameterNames reparsed
  return ⟨canonical, parameterNames⟩

/-- `SqlSafetyValidator.validate`. -/
def validate (U : Unicode) (S : Sqlglot) (sql : String) (dialect : Dialect) :
    Except AppError ValidatedSql :=
  validateWith U S S.parseOne sql dialect

/-! ### What an accepted text has passed -/

/-- A `SELECT` without forbidden nodes. -/
structure SelectOnly (expression : Expression) : Prop where
  root : expression.kind = .select
  allowed : ∀ kind ∈ expression.kinds, kind ∉ forbiddenNodes

theorem parseStatements_eq_ok_iff {S : Sqlglot} {sql : String} {dialect : Dialect}
    {statements : List (Option Expression)} :
    parseStatements S sql dialect = .ok statements ↔
      S.parse dialect sql = .ok statements := by
  rw [parseStatements]
  split <;> simp_all
  split <;> simp

theorem singleStatement_eq_ok_iff {statements : List (Option Expression)}
    {expression : Expression} :
    singleStatement statements = .ok expression ↔ statements = [some expression] := by
  rw [singleStatement.eq_def]
  split <;> simp_all

theorem validateSelectTree_eq_ok_iff {expression : Expression} {u : Unit} :
    validateSelectTree expression = .ok u ↔ SelectOnly expression := by
  simp only [validateSelectTree, bind_eq_ok_iff, raiseIf_eq_ok_iff]
  constructor
  · rintro ⟨-, hRoot, hAllowed⟩
    exact ⟨not_not.mp hRoot, fun kind hKind hMem => hAllowed ⟨kind, hKind, hMem⟩⟩
  · rintro ⟨hRoot, hAllowed⟩
    exact ⟨(), not_not.mpr hRoot, fun ⟨kind, hKind, hMem⟩ => hAllowed kind hKind hMem⟩

theorem parseCanonicalSql_eq_ok_iff {parseOne : ParseOne} {canonical : String}
    {dialect : Dialect} {reparsed : Expression} :
    parseCanonicalSql parseOne canonical dialect = .ok reparsed ↔
      parseOne dialect canonical = .ok reparsed := by
  rw [parseCanonicalSql]
  split <;> simp_all

theorem collectParameterNames_eq_ok_iff {reparsed : Expression}
    {names : Finset String} :
    collectParameterNames reparsed = .ok names ↔
      (∀ name ∈ reparsed.placeholderNames, isParameterName name = true) ∧
        names = reparsed.placeholderNames.toFinset := by
  simp only [collectParameterNames, bind_eq_ok_iff, raiseIf_eq_ok_iff]
  push Not
  constructor
  · rintro ⟨-, hIdents, hNames⟩
    cases hNames
    exact ⟨hIdents, rfl⟩
  · rintro ⟨hIdents, rfl⟩
    exact ⟨(), hIdents, rfl⟩

/-- Everything an accepted text has been checked for. -/
structure Accepted (U : Unicode) (S : Sqlglot) (parseOne : ParseOne) (sql : String)
    (dialect : Dialect) (v : ValidatedSql) (tree reparsed : Expression) : Prop where
  safe : ∀ c ∈ sql.toList, isUnsafeCharacter U c = false
  not_empty : strip sql ≠ ""
  parse_eq : S.parse dialect sql = .ok [some tree]
  selectOnly : SelectOnly tree
  canonical_eq : v.canonicalSql = canonicalSql S dialect tree
  parseOne_eq : parseOne dialect v.canonicalSql = .ok reparsed
  reparsed_selectOnly : SelectOnly reparsed
  identifiers : ∀ name ∈ reparsed.placeholderNames, isParameterName name = true
  names_eq : v.parameterNames = reparsed.placeholderNames.toFinset

section Accepted

variable {U : Unicode} {S : Sqlglot} {parseOne : ParseOne} {sql : String}
  {dialect : Dialect} {v : ValidatedSql} {tree reparsed : Expression}

/-- The text has one tree. -/
theorem Accepted.tree_eq (h : Accepted U S parseOne sql dialect v tree reparsed)
    {tree' : Expression} (hParse : S.parse dialect sql = .ok [some tree']) :
    tree = tree' := by
  have hSame := h.parse_eq.symm.trans hParse
  cases hSame
  rfl

/-- The canonical text has one tree too: a block of several statements is not a
`SELECT`. -/
theorem Accepted.reparse_eq (h : Accepted U S S.parseOne sql dialect v tree reparsed) :
    S.parse dialect v.canonicalSql = .ok [some reparsed] :=
  (Sqlglot.parseOne_eq_ok_iff h.reparsed_selectOnly.root).mp h.parseOne_eq

/-- What `validate` returns, and when, for any `parse_one`. -/
theorem validateWith_eq_ok_iff :
    validateWith U S parseOne sql dialect = .ok v ↔
      ∃ tree reparsed, Accepted U S parseOne sql dialect v tree reparsed := by
  simp only [validateWith, validateCharacters, bind_eq_ok_iff, raiseIf_eq_ok_iff,
    List.any_eq_true, parseStatements_eq_ok_iff, singleStatement_eq_ok_iff,
    validateSelectTree_eq_ok_iff, parseCanonicalSql_eq_ok_iff,
    collectParameterNames_eq_ok_iff]
  push Not
  constructor
  · rintro ⟨-, hSafe, -, hEmpty, statements, hParse, tree, rfl, -, hSelect,
      reparsed, hReparse, -, hReselect, names, ⟨hIdents, rfl⟩, hReturn⟩
    cases hReturn
    exact ⟨tree, reparsed, fun c hc => Bool.eq_false_iff.mpr (hSafe c hc),
      hEmpty, hParse, hSelect, rfl, hReparse, hReselect, hIdents, rfl⟩
  · rintro ⟨tree, reparsed, h⟩
    have hReparse := h.parseOne_eq
    rw [h.canonical_eq] at hReparse
    refine ⟨(), fun c hc => Bool.eq_false_iff.mp (h.safe c hc), (), h.not_empty,
      _, h.parse_eq, tree, rfl, (), h.selectOnly, reparsed, hReparse,
      (), h.reparsed_selectOnly, _, ⟨h.identifiers, rfl⟩, ?_⟩
    cases v
    simp only [pure, Except.pure, Except.ok.injEq, ValidatedSql.mk.injEq]
    exact ⟨h.canonical_eq.symm, h.names_eq.symm⟩

/-- What `validate` returns, and when. -/
theorem validate_eq_ok_iff : validate U S sql dialect = .ok v ↔
    ∃ tree reparsed, Accepted U S S.parseOne sql dialect v tree reparsed :=
  validateWith_eq_ok_iff

end Accepted

end QueryEngine
end DataApi
