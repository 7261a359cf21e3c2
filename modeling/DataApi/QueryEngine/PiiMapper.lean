import DataApi.PiiCache.AccountMapInMemory
import DataApi.QueryEngine.ParameterValues

/-!
# Mapping PII columns

A rule turns the token in a column into the value the cache holds for it.  A
token of 32 characters may be followed by one more character, which is kept.
-/

namespace DataApi
namespace QueryEngine

open Library PiiCache

/-- A result row. -/
abbrev Row (P : Scalars) := Dict String (PyValue P)

/-- The built-in functions `str` and `int` on the values of a row; `int` gives the class of
what it raises, a `ValueError` for a text that is no number. -/
structure Builtins (P : Scalars) where
  str : PyValue P → String
  int : PyValue P → Except String Int
  str_str : ∀ s, str (.str s) = s
  int_int : ∀ n, int (.int n) = .ok n

/-- The built-in functions on texts and integers. -/
def Builtins.plain : Builtins .plain where
  str
    | .str s => s
    | .int n => toString n
    | _ => ""
  int
    | .int n => .ok n
    | .str _ => .error "ValueError"
    | _ => .error "TypeError"
  str_str _ := rfl
  int_int _ := rfl

/-- `PiiColumnRule`: the transformer, which reads the map from token to value. -/
structure PiiColumnRule (P : Scalars) where
  transformer : PyValue P → Dict String String → Option (PyValue P)

/-- `MissingPiiMapping`. -/
structure MissingPiiMapping (P : Scalars) where
  columnName : String
  value : PyValue P

/-- `QuerySpec`, with the statement left to the caller. -/
structure QuerySpec (P : Scalars) where
  routeName : String
  columnPiiRules : Dict String (PiiColumnRule P) := .empty

section Mapping

variable {P : Scalars} (B : Builtins P)

/-- The text of a token after the 32/33-character rule. -/
def mapToken (piiCache : Dict String String) (token : String) : Option String :=
  if token.length = 32 then piiCache.get? token
  else if token.length = 33 then
    (piiCache.get? (String.ofList (token.toList.take 32))).map fun mapped =>
      mapped ++ String.ofList (token.toList.drop 32)
  else none

/-- `transform_by_token_length`. -/
def transformByTokenLength (value : PyValue P) (piiCache : Dict String String) :
    Option (PyValue P) :=
  match value with
  | .none => none
  | value => (mapToken piiCache (B.str value)).map .str

/-- One rule applied to a row. -/
def mapColumn (tokenToValue : Dict String String) (columnName : String)
    (rule : PiiColumnRule P) (row : Row P) : Row P × List (MissingPiiMapping P) :=
  match row.get? columnName with
  | none => (row, [])
  | some .none => (row, [])
  | some value =>
      match rule.transformer value tokenToValue with
      | some transformed => (row.set columnName transformed, [])
      | none => (row.set columnName .none, [⟨columnName, value⟩])

/-- The rules applied to a row, one after the other. -/
def mapRow (tokenToValue : Dict String String)
    (rules : List (String × PiiColumnRule P)) (row : Row P) :
    Row P × List (MissingPiiMapping P) :=
  match rules with
  | [] => (row, [])
  | (columnName, rule) :: rest =>
      let mapped := mapColumn tokenToValue columnName rule row
      let others := mapRow tokenToValue rest mapped.1
      (others.1, mapped.2 ++ others.2)

/-- `map_pii_fields`. -/
def mapPiiFields (cache : AccountMapInMemory) (rows : List (Row P))
    (spec : QuerySpec P) :
    Except Raised (List (Row P) × List (MissingPiiMapping P)) :=
  if spec.columnPiiRules.entries = [] then .error (.other "ValueError")
  else
    let mapped := rows.map (mapRow cache.tokenToValue spec.columnPiiRules.entries)
    .ok (mapped.map Prod.fst, (mapped.map Prod.snd).flatten)

/-- The rule of a single column. -/
def singleRule (columnName : String) : Dict String (PiiColumnRule P) :=
  Dict.empty.set columnName ⟨transformByTokenLength B⟩

end Mapping

end QueryEngine
end DataApi
