import DataApi.Schemas.DynamicRoute

/-!
# The bodies of the management API

A body is a JSON object.  `DynamicRouteWriteRequest` forbids names it does not declare,
reads each field under its name, and takes the default of a field that is left out;
`DynamicRouteResponse` hands out names of its own beside those the request declares.
So a response is never a request (`validateBody_json`), and its declared fields are read
as what they are (`readFields_declared_json`).
-/

namespace DataApi
namespace Schemas

open Library QueryEngine

/-- A value of a body, as far as the fields tell values apart: a text that is the name of
a member of an enumeration is the member. -/
inductive FieldValue (P : Scalars) where
  | null
  | text (value : String)
  | flag (value : Bool)
  | ident (id : Nat)
  | definitions (params : Dict String (DynamicParameterDefinition P))
  | dbType (value : Dialect)
  | piiType (value : DynamicRoutePiiType)
  | responseType (value : DynamicRouteResponseType)
  | values (params : Dict String (PyValue P))

/-- A JSON object. -/
abbrev Body (P : Scalars) := Dict String (FieldValue P)

section Body

variable {P : Scalars}

namespace FieldValue

/-- A field of type `str`. -/
def text? : FieldValue P → Option String
  | text value => some value
  | _ => none

/-- A field of type `bool`. -/
def flag? : FieldValue P → Option Bool
  | flag value => some value
  | _ => none

/-- The field `params`. -/
def definitions? : FieldValue P → Option (Dict String (DynamicParameterDefinition P))
  | definitions params => some params
  | _ => none

/-- The field `db_type`. -/
def dbType? : FieldValue P → Option Dialect
  | dbType value => some value
  | _ => none

/-- The field `pii_type`, which may be null. -/
def piiType? : FieldValue P → Option (Option DynamicRoutePiiType)
  | null => some none
  | piiType value => some (some value)
  | _ => none

/-- The field `response_type`. -/
def responseType? : FieldValue P → Option DynamicRouteResponseType
  | responseType value => some value
  | _ => none

/-- The field `lab_test_params`. -/
def values? : FieldValue P → Option (Dict String (PyValue P))
  | values params => some params
  | _ => none

end FieldValue

/-- The names that `DynamicRouteWriteRequest` declares. -/
def writeRequestFields : List String :=
  ["prefix", "path", "sql", "params", "description", "db_type", "pii_type",
    "response_type", "lab_test", "lab_test_params"]

/-- The value of a field, or its default; a required field has none. -/
def readField {α : Type} (body : Body P) (name : String) (read : FieldValue P → Option α)
    (default : Option α) : Option α :=
  (body.get? name).elim default read

/-- The fields of a body, with their defaults. -/
def readFields (body : Body P) : Option (WriteFields P) := do
  let routePrefix ← readField body "prefix" FieldValue.text? none
  let path ← readField body "path" FieldValue.text? none
  let sql ← readField body "sql" FieldValue.text? none
  let params ← readField body "params" FieldValue.definitions? (some .empty)
  let description ← readField body "description" FieldValue.text? (some "")
  let dbType ← readField body "db_type" FieldValue.dbType? (some .trino)
  let piiType ← readField body "pii_type" FieldValue.piiType? (some none)
  let responseType ← readField body "response_type" FieldValue.responseType? (some .data)
  let labTest ← readField body "lab_test" FieldValue.flag? (some false)
  let labTestParams ← readField body "lab_test_params" FieldValue.values? (some .empty)
  return {
    routePrefix := routePrefix
    path := path
    sql := sql
    params := params
    description := description
    dbType := dbType
    piiType := piiType
    responseType := responseType
    labTest := labTest
    labTestParams := labTestParams }

/-- `DynamicRouteWriteRequest.model_validate`, with `extra="forbid"`. -/
def validateBody (U : Unicode) (body : Body P) : Option (DynamicRouteWriteRequest P) :=
  if ∀ name ∈ body.keys, name ∈ writeRequestFields then
    (readFields body).bind (validateWriteRequest U)
  else none

/-- The declared fields of a body. -/
def declared (body : Body P) : Body P := body.restrict writeRequestFields

theorem validateBody_of_extra (U : Unicode) {body : Body P} {name : String}
    (hKey : name ∈ body.keys) (hExtra : name ∉ writeRequestFields) :
    validateBody U body = none := by
  rw [validateBody, if_neg]
  intro hAll
  exact hExtra (hAll name hKey)

theorem readField_declared {α : Type} (body : Body P) {name : String}
    (read : FieldValue P → Option α) (default : Option α)
    (hName : name ∈ writeRequestFields) :
    readField (declared body) name read default = readField body name read default := by
  rw [readField, readField, declared, Dict.get?_restrict body hName]

/-- Only the declared fields are read. -/
theorem readFields_declared (body : Body P) : readFields (declared body) = readFields body := by
  simp (disch := decide) only [readFields, readField_declared]

/-- Left alone, the declared fields are accepted if they pass their checks. -/
theorem validateBody_declared (U : Unicode) (body : Body P) :
    validateBody U (declared body) = (readFields body).bind (validateWriteRequest U) := by
  rw [validateBody, if_pos, readFields_declared]
  intro name hName
  exact Dict.mem_of_mem_keys_restrict hName

end Body

/-- `DynamicRouteResponse`, without the times. -/
structure DynamicRouteResponse (P : Scalars) where
  id : Nat
  routePrefix : String
  path : String
  description : String
  sql : String
  canonicalSql : String
  params : Dict String (DynamicParameterDefinition P)
  dbType : Dialect
  piiType : Option DynamicRoutePiiType
  responseType : DynamicRouteResponseType
  createdBy : Nat
  updatedBy : Nat

section Response

variable {P : Scalars}

/-- The names that a response hands out, the computed `api_path` among them. -/
def responseFields : List String :=
  ["id", "prefix", "path", "description", "sql", "canonical_sql", "params", "db_type",
    "pii_type", "response_type", "created_by", "updated_by", "created_at", "updated_at",
    "api_path"]

/-- A response as it is sent, at the times of its row. -/
def DynamicRouteResponse.json (response : DynamicRouteResponse P)
    (createdAt updatedAt : String) : Body P where
  entries := responseFields.zip
    [.ident response.id, .text response.routePrefix, .text response.path,
      .text response.description, .text response.sql, .text response.canonicalSql,
      .definitions response.params, .dbType response.dbType,
      response.piiType.elim .null .piiType, .responseType response.responseType,
      .ident response.createdBy, .ident response.updatedBy, .text createdAt,
      .text updatedAt, .text (apiPath response.routePrefix response.path)]
  nodup := by
    change responseFields.Nodup
    decide

/-- What the declared fields of a response say. -/
def DynamicRouteResponse.body (response : DynamicRouteResponse P) : WriteFields P where
  routePrefix := response.routePrefix
  path := response.path
  sql := response.sql
  params := response.params
  description := response.description
  dbType := response.dbType
  piiType := response.piiType
  responseType := response.responseType

/-- A whole response is refused as the body of a request. -/
theorem validateBody_json (U : Unicode) (response : DynamicRouteResponse P)
    (createdAt updatedAt : String) :
    validateBody U (response.json createdAt updatedAt) = none := by
  have hKey : "id" ∈ (response.json createdAt updatedAt).keys := List.mem_cons_self
  exact validateBody_of_extra U hKey (by decide)

theorem readFields_json (response : DynamicRouteResponse P) (createdAt updatedAt : String) :
    readFields (response.json createdAt updatedAt) = some response.body := by
  obtain ⟨id, routePrefix, path, description, sql, canonicalSql, params, dbType, piiType,
    responseType, createdBy, updatedBy⟩ := response
  cases piiType with
  | none => rfl
  | some piiType => rfl

/-- Its declared fields are accepted if they pass their checks. -/
theorem validateBody_declared_json (U : Unicode) (response : DynamicRouteResponse P)
    (createdAt updatedAt : String) :
    validateBody U (declared (response.json createdAt updatedAt)) =
      validateWriteRequest U response.body := by
  rw [validateBody_declared, readFields_json]
  rfl

end Response

end Schemas
end DataApi
