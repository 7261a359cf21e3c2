import DataApi.QueryEngine.SqlSafety

/-!
# What the SQL policy guarantees

The policy lists the node classes that write, and `SELECT ... INTO`, which
creates a table, is not one of them (`readOnly_iff_no_unlisted_writer`).  The
rendered text is put through the policy again, whatever the generator has made
of it (`failsClosed_of_validate`): several statements are a block to `parse_one`,
and a block is no `SELECT`.  With a `parse_one` that looks at the first statement
only, the policy would be told of that one alone.
-/

namespace DataApi
namespace QueryEngine

open Library

/-- Whether the construct of a node creates, changes or deletes a table or a
row.  `callWrites` says it for the constructs outside the policy, by class and
name: a function of the database may write as well. -/
def Expression.writes (callWrites : String → String → Bool) (node : Expression) :
    Bool :=
  match node.kind with
  | .insert | .update | .delete | .merge | .create | .drop | .alter
  | .truncateTable | .execute | .command | .into => true
  | .other className => callWrites className node.name
  | .select | .placeholder | .grant | .revoke | .set | .use | .transaction
  | .commit | .rollback | .showCommand | .describe => false

/-- No node of the tree writes. -/
def ReadOnly (callWrites : String → String → Bool) (tree : Expression) : Prop :=
  ∀ node ∈ tree.walk, node.writes callWrites = false

/-- A writing construct of a class that `_FORBIDDEN_NODES` does not list: an
`INTO` clause, or a call of a function that writes. -/
def Expression.isUnlistedWriter (callWrites : String → String → Bool)
    (node : Expression) : Bool :=
  match node.kind with
  | .into => true
  | .other className => callWrites className node.name
  | _ => false

/-- The trees of an accepted statement: of the submitted text, and of the text
rendered from it, which is the one that is executed. -/
def StatementTree (S : Sqlglot) (dialect : Dialect) (sql : String)
    (tree : Expression) : Prop :=
  S.parse dialect sql = .ok [some tree] ∨
    ∃ submitted rest, S.parse dialect sql = .ok [some submitted] ∧
      S.parse dialect (canonicalSql S dialect submitted) = .ok (some tree :: rest)

section Policy

variable {U : Unicode} {S : Sqlglot} {sql : String} {dialect : Dialect}
variable {v : ValidatedSql}

/-- Both trees of an accepted statement satisfy the policy. -/
theorem selectOnly_of_statementTree (h : validate U S sql dialect = .ok v)
    {tree : Expression} (hTree : StatementTree S dialect sql tree) :
    SelectOnly tree := by
  obtain ⟨first, reparsed, hAccepted⟩ := validate_eq_ok_iff.mp h
  rcases hTree with hSubmitted | ⟨submitted, rest', hSubmitted, hRendered⟩
  · exact hAccepted.tree_eq hSubmitted ▸ hAccepted.selectOnly
  · obtain rfl := hAccepted.tree_eq hSubmitted
    rw [← hAccepted.canonical_eq, hAccepted.reparse_eq] at hRendered
    cases hRendered
    exact hAccepted.reparsed_selectOnly

/-- Where the policy holds, the writing nodes are those it does not list. -/
theorem writes_eq_isUnlistedWriter (callWrites : String → String → Bool)
    {node : Expression} (hAllowed : node.kind ∉ forbiddenNodes) :
    node.writes callWrites = node.isUnlistedWriter callWrites := by
  unfold Expression.writes Expression.isUnlistedWriter
  cases hKind : node.kind <;> rw [hKind] at hAllowed <;>
    first | rfl | exact absurd (by decide) hAllowed

/-- Accepted SQL is read-only exactly when it has no `INTO` clause and calls no
function that writes. -/
theorem readOnly_iff_no_unlisted_writer (callWrites : String → String → Bool)
    (h : validate U S sql dialect = .ok v) {tree : Expression}
    (hTree : StatementTree S dialect sql tree) :
    ReadOnly callWrites tree ↔
      ∀ node ∈ tree.walk, node.isUnlistedWriter callWrites = false := by
  have hSelect := selectOnly_of_statementTree h hTree
  refine forall₂_congr fun node hNode => ?_
  have hAllowed : node.kind ∉ forbiddenNodes :=
    hSelect.allowed node.kind (List.mem_map.mpr ⟨node, hNode, rfl⟩)
  rw [writes_eq_isUnlistedWriter callWrites hAllowed]

end Policy

/-- `SELECT * FROM s`. -/
def selectStar : Expression :=
  .node .select "" [.node (.other "Star") "*" [],
    .node (.other "From") "s" [.node (.other "Table") "s" []]]

/-- `SELECT * INTO t FROM s`. -/
def selectInto : Expression :=
  .node .select "" [.node (.other "Star") "*" [],
    .node .into "t" [.node (.other "Table") "t" []],
    .node (.other "From") "s" [.node (.other "Table") "s" []]]

/-- The plain query is accepted and only reads. -/
theorem readOnly_selectStar : ReadOnly (fun _ _ => false) selectStar := by
  have hAccepted : validate .ascii (oneText "SELECT * FROM s" selectStar)
      "SELECT * FROM s" .postgres = .ok ⟨"SELECT * FROM s", ∅⟩ := by decide
  exact (readOnly_iff_no_unlisted_writer _ hAccepted (Or.inl rfl)).mpr (by decide)

/-- The query that creates the table `t` is accepted as well. -/
theorem selectInto_accepted :
    ¬ ∀ (S : Sqlglot) (sql : String) (dialect : Dialect) (v : ValidatedSql)
        (tree : Expression), validate .ascii S sql dialect = .ok v →
      S.parse dialect sql = .ok [some tree] →
      ReadOnly (fun _ _ => false) tree := by
  intro hReadOnly
  have hInto := hReadOnly (oneText "SELECT * INTO t FROM s" selectInto)
    "SELECT * INTO t FROM s" .postgres ⟨"SELECT * INTO t FROM s", ∅⟩ selectInto
    (by decide) rfl (.node .into "t" [.node (.other "Table") "t" []])
    (by simp [selectInto, Expression.walk, Expression.walkAll])
  revert hInto
  decide

/-! ### The second parse -/

/-- What the policy says of a statement: a `SELECT` without forbidden nodes,
whose placeholders, all of them identifiers, are the parameter names. -/
structure MeetsPolicy (v : ValidatedSql) (tree : Expression) : Prop where
  selectOnly : SelectOnly tree
  names : ∀ name, name ∈ v.parameterNames ↔ name ∈ tree.placeholderNames
  identifiers : ∀ name ∈ v.parameterNames, isParameterName name = true

/-- The canonical text is one statement, which meets the policy. -/
def FailsClosed (S : Sqlglot) (dialect : Dialect) (v : ValidatedSql) : Prop :=
  ∃ tree, S.parse dialect v.canonicalSql = .ok [some tree] ∧ MeetsPolicy v tree

/-- The first statement of the canonical text meets the policy. -/
def FirstFailsClosed (S : Sqlglot) (dialect : Dialect) (v : ValidatedSql) : Prop :=
  ∃ tree rest, S.parse dialect v.canonicalSql = .ok (some tree :: rest) ∧
    MeetsPolicy v tree

/-- The text rendered from the parsed statement is one statement again. -/
def RendersSingle (S : Sqlglot) (dialect : Dialect) (sql : String) : Prop :=
  ∀ tree, S.parse dialect sql = .ok [some tree] →
    ∃ statement, S.parse dialect (canonicalSql S dialect tree) = .ok [statement]

section Reparse

variable {U : Unicode} {S : Sqlglot} {parseOne : ParseOne} {sql : String}
  {dialect : Dialect} {v : ValidatedSql} {tree reparsed : Expression}

/-- The tree of the second parse meets the policy, whatever has parsed it. -/
theorem Accepted.meetsPolicy (h : Accepted U S parseOne sql dialect v tree reparsed) :
    MeetsPolicy v reparsed where
  selectOnly := h.reparsed_selectOnly
  names name := by rw [h.names_eq, List.mem_toFinset]
  identifiers name hName := by
    rw [h.names_eq, List.mem_toFinset] at hName
    exact h.identifiers name hName

/-- A `parse_one` that returns the first tree tells the validator of the first
statement. -/
theorem firstFailsClosed_of_validateWith
    (h : validateWith U S S.parseFirst sql dialect = .ok v) :
    FirstFailsClosed S dialect v := by
  obtain ⟨tree, reparsed, hAccepted⟩ := validateWith_eq_ok_iff.mp h
  obtain ⟨rest, hFirst⟩ := Sqlglot.parseFirst_eq_ok_iff.mp hAccepted.parseOne_eq
  exact ⟨reparsed, rest, hFirst, hAccepted.meetsPolicy⟩

/-- The first statement is all there is where the rendering is single. -/
theorem failsClosed_of_rendersSingle
    (h : validateWith U S S.parseFirst sql dialect = .ok v)
    (hRenders : RendersSingle S dialect sql) : FailsClosed S dialect v := by
  obtain ⟨first, rest, hFirst, hMeets⟩ := firstFailsClosed_of_validateWith h
  obtain ⟨tree, reparsed, hAccepted⟩ := validateWith_eq_ok_iff.mp h
  obtain ⟨statement, hStatement⟩ := hRenders tree hAccepted.parse_eq
  rw [← hAccepted.canonical_eq, hFirst] at hStatement
  cases hStatement
  exact ⟨first, hFirst, hMeets⟩

end Reparse

/-- The validator fails closed whatever the parser and the generator do.  A
`parse_one` that returns the first tree would leave the first statement checked,
and the whole text where it is rendered as a single one. -/
theorem failsClosed_of_validate (U : Unicode) (S : Sqlglot) (sql : String)
    (dialect : Dialect) (v : ValidatedSql) :
    (validate U S sql dialect = .ok v → FailsClosed S dialect v) ∧
    (validateWith U S S.parseFirst sql dialect = .ok v →
      FirstFailsClosed S dialect v ∧
        (RendersSingle S dialect sql → FailsClosed S dialect v)) := by
  constructor
  · intro h
    obtain ⟨tree, reparsed, hAccepted⟩ := validate_eq_ok_iff.mp h
    exact ⟨reparsed, hAccepted.reparse_eq, hAccepted.meetsPolicy⟩
  · intro h
    exact ⟨firstFailsClosed_of_validateWith h, failsClosed_of_rendersSingle h⟩

/-- The plain query is accepted, by either `parse_one`, and is one statement. -/
theorem failsClosed_selectStar :
    FailsClosed (oneText "SELECT * FROM s" selectStar) .trino
        ⟨"SELECT * FROM s", ∅⟩ ∧
      FirstFailsClosed (oneText "SELECT * FROM s" selectStar) .trino
        ⟨"SELECT * FROM s", ∅⟩ := by
  obtain ⟨hValidate, hFirst⟩ := failsClosed_of_validate .ascii
    (oneText "SELECT * FROM s" selectStar) "SELECT * FROM s" .trino
    ⟨"SELECT * FROM s", ∅⟩
  exact ⟨hValidate (by decide), (hFirst (by decide)).1⟩

/-- A generator that renders a query followed by a `DELETE`. -/
def appendingGenerator : Sqlglot where
  parse _ sql :=
    if sql = "SELECT * FROM s" then .ok [some selectStar]
    else if sql = "SELECT * FROM s; DELETE FROM s" then
      .ok [some selectStar, some (.node .delete "" [.node (.other "Table") "s" []])]
    else .error (.parseError [])
  sql _ _ := "SELECT * FROM s; DELETE FROM s"

/-- The text with two statements is refused: it is a block. -/
example : validate .ascii appendingGenerator "SELECT * FROM s" .trino =
    .error (dynamicSqlError "dynamic_sql_statement_not_allowed"
      "Only SELECT queries are allowed") := by
  rfl

/-- With the first tree for the block it is returned as validated SQL. -/
theorem validateWith_parseFirst_returns_two_statements :
    ¬ ∀ (S : Sqlglot) (sql : String) (dialect : Dialect) (v : ValidatedSql),
      validateWith .ascii S S.parseFirst sql dialect = .ok v →
      FailsClosed S dialect v := by
  intro hClosed
  obtain ⟨tree, hSingle, -⟩ := hClosed appendingGenerator "SELECT * FROM s"
    .trino ⟨"SELECT * FROM s; DELETE FROM s", ∅⟩ (by decide)
  cases hSingle

end QueryEngine
end DataApi
