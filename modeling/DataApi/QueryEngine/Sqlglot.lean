import Mathlib.Data.List.Basic
import DataApi.Library.PythonStr

/-!
# The SQL parser and generator

`sqlglot` is not part of the repository.  Its trees have one node kind per
construct; parsing and rendering are parameters of everything that follows.
-/

namespace DataApi
namespace QueryEngine

/-- `DynamicRouteDatabaseType`, which also names the grammar. -/
inductive Dialect where
  | trino
  | postgres
  deriving DecidableEq

/-- The value of the enumeration member. -/
def Dialect.value : Dialect → String
  | .trino => "trino"
  | .postgres => "postgres"

/-- The node classes the validator distinguishes; `other` stands for every
class it does not mention. -/
inductive NodeKind where
  | select
  | placeholder
  | insert
  | update
  | delete
  | merge
  | create
  | drop
  | alter
  | truncateTable
  | grant
  | revoke
  | set
  | use
  | transaction
  | commit
  | rollback
  | execute
  | showCommand
  | describe
  | command
  | into
  | other (className : String)
  deriving DecidableEq

/-- A syntax tree: a node with its `name` and its children. -/
inductive Expression where
  | node (kind : NodeKind) (name : String) (args : List Expression)

namespace Expression

/-- The class of the root. -/
def kind : Expression → NodeKind
  | node kind _ _ => kind

/-- The `name` of the root. -/
def name : Expression → String
  | node _ name _ => name

mutual

/-- Every node of a tree. -/
def walk : Expression → List Expression
  | node kind name args => node kind name args :: walkAll args

/-- Every node of a list of trees. -/
def walkAll : List Expression → List Expression
  | [] => []
  | e :: rest => walk e ++ walkAll rest

end

/-- The names of the placeholders of a tree. -/
def placeholderNames (e : Expression) : List String :=
  (e.walk.filter fun node => node.kind = .placeholder).map name

/-- The classes of the nodes of a tree. -/
def kinds (e : Expression) : List NodeKind := e.walk.map kind

end Expression

/-- What `sqlglot.parse` raises: a `ParseError` with the highlighted text of
each of its errors, or another `SqlglotError`. -/
inductive SqlglotError where
  | parseError (highlights : List String)
  | other

/-- The parser, from a text to its statements, and the generator. -/
structure Sqlglot where
  parse : Dialect → String → Except SqlglotError (List (Option Expression))
  sql : Dialect → Expression → String

/-- The tree `parse_one` makes of the statements of a text: that of the only
statement, a `Block` of several, an error if there is none. -/
def singleTree : List (Option Expression) → Except SqlglotError Expression
  | [] | [none] => .error (.parseError [])
  | [some tree] => .ok tree
  | statements => .ok (.node (.other "Block") "" (statements.filterMap id))

/-- `sqlglot.parse_one`, of the versions the project admits. -/
def Sqlglot.parseOne (S : Sqlglot) (dialect : Dialect) (sql : String) :
    Except SqlglotError Expression :=
  match S.parse dialect sql with
  | .error e => .error e
  | .ok statements => singleTree statements

/-- The tree of a single statement is the statement; of several there is none
that is a `SELECT`. -/
theorem singleTree_eq_ok_iff {statements : List (Option Expression)} {tree : Expression}
    (hSelect : tree.kind = .select) :
    singleTree statements = .ok tree ↔ statements = [some tree] := by
  rw [singleTree.eq_def]
  split
  · simp
  · simp
  · simp
  · rename_i hNil hNone hSome
    constructor
    · intro hBlock
      cases hBlock
      cases hSelect
    · intro hSingle
      exact absurd hSingle (hSome tree)

/-- A `SELECT` is parsed by `parse_one` only from a text of one statement. -/
theorem Sqlglot.parseOne_eq_ok_iff {S : Sqlglot} {dialect : Dialect} {sql : String}
    {tree : Expression} (hSelect : tree.kind = .select) :
    S.parseOne dialect sql = .ok tree ↔ S.parse dialect sql = .ok [some tree] := by
  rw [Sqlglot.parseOne]
  cases S.parse dialect sql with
  | error e => simp
  | ok statements => simp [singleTree_eq_ok_iff hSelect]

/-- Another `parse_one`: the first of the statements, whatever follows it. -/
def Sqlglot.parseFirst (S : Sqlglot) (dialect : Dialect) (sql : String) :
    Except SqlglotError Expression :=
  match S.parse dialect sql with
  | .error e => .error e
  | .ok (some tree :: _) => .ok tree
  | .ok _ => .error (.parseError [])

theorem Sqlglot.parseFirst_eq_ok_iff {S : Sqlglot} {dialect : Dialect} {sql : String}
    {tree : Expression} : S.parseFirst dialect sql = .ok tree ↔
      ∃ rest, S.parse dialect sql = .ok (some tree :: rest) := by
  rw [Sqlglot.parseFirst]
  cases S.parse dialect sql with
  | error e => simp
  | ok statements =>
      cases statements with
      | nil => simp
      | cons first rest => cases first <;> simp

/-- A parser and generator that know one text and its tree, as `sqlglot` parses
and renders it. -/
def oneText (text : String) (tree : Expression) : Sqlglot where
  parse _ sql := if sql = text then .ok [some tree] else .error (.parseError [])
  sql _ _ := text

/-- The tree of `SELECT 1`. -/
def selectOne : Expression := .node .select "" [.node (.other "Literal") "1" []]

end QueryEngine
end DataApi
