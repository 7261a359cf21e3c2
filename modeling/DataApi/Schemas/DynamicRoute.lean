import DataApi.QueryEngine.DynamicParameters

/-!
# The write schema of a dynamic route

`DynamicRouteWriteRequest` normalizes the prefix and checks every field.  A
request that fails a check cannot be built, so what the checks promise is a
field of the structure.
-/

namespace DataApi
namespace Schemas

open Library QueryEngine

/-- `DynamicRoutePiiType`. -/
inductive DynamicRoutePiiType where
  | accountId
  | customerId
  deriving DecidableEq

/-- `DynamicRouteResponseType`. -/
inductive DynamicRouteResponseType where
  | paginated
  | data
  deriving DecidableEq

/-- The characters `[a-zA-Z0-9_.-]` of prefixes and usernames. -/
def isPrefixChar (c : Char) : Bool :=
  c.isAlphanum || c == '_' || c == '.' || c == '-'

/-- `_RESERVED_PREFIXES`. -/
def reservedPrefixes : List String := ["dynamic-routes"]

/-- `_PAGINATION_PARAMETERS`. -/
def paginationParameters : List String :=
  ["page", "page_size", "__dynamic_page_size", "__dynamic_offset"]

/-- `normalize_prefix`. -/
def normalizePrefix (U : Unicode) (value : String) : String := U.lower (strip value)

/-- The length bounds of the prefix and `validate_prefix`. -/
def PrefixOk (value : String) : Prop :=
  3 ≤ value.length ∧ value.length ≤ 50 ∧ value.toList.all isPrefixChar = true ∧
    value ∉ reservedPrefixes

instance (value : String) : Decidable (PrefixOk value) := by
  unfold PrefixOk
  infer_instance

/-- `value.split("/")`. -/
def pathSegments (value : String) : List String :=
  (value.toList.splitOn '/').map String.ofList

/-- The length bounds of the path and `validate_path`. -/
def PathOk (value : String) : Prop :=
  1 ≤ value.length ∧ value.length ≤ 500 ∧ value = strip value ∧
    value.toList.head? ≠ some '/' ∧ value.toList.getLast? ≠ some '/' ∧
    ∀ segment ∈ pathSegments value, segment ∉ ["", ".", ".."]

instance (value : String) : Decidable (PathOk value) := by
  unfold PathOk
  infer_instance

/-- The fields of a request, with their defaults. -/
structure WriteFields (P : Scalars) where
  routePrefix : String
  path : String
  sql : String
  params : Dict String (DynamicParameterDefinition P) := .empty
  description : String := ""
  dbType : Dialect := .trino
  piiType : Option DynamicRoutePiiType := none
  responseType : DynamicRouteResponseType := .data
  labTest : Bool := false
  labTestParams : Dict String (PyValue P) := .empty

/-- `validate_paginated_parameter_names`. -/
def ReservedFree (responseType : DynamicRouteResponseType) (names : List String) :
    Prop :=
  responseType = .paginated → ∀ name ∈ names, name ∉ paginationParameters

instance (responseType : DynamicRouteResponseType) (names : List String) :
    Decidable (ReservedFree responseType names) := by
  unfold ReservedFree
  infer_instance

variable {P : Scalars}

/-- The checks of the fields, behind the normalization. -/
def FieldsOk (fields : WriteFields P) : Prop :=
  PrefixOk fields.routePrefix ∧ PathOk fields.path ∧ 1 ≤ fields.sql.length ∧
    (∀ name ∈ fields.params.keys, isParameterName name = true) ∧
    ReservedFree fields.responseType fields.params.keys

instance (fields : WriteFields P) : Decidable (FieldsOk fields) := by
  unfold FieldsOk
  infer_instance

/-- A text without upper-case letters. -/
def IsLower (value : String) : Prop := ∀ c ∈ value.toList, c.isUpper = false

/-- `DynamicRouteWriteRequest`: fields that were accepted. -/
structure DynamicRouteWriteRequest (P : Scalars) extends WriteFields P where
  ok : FieldsOk toWriteFields
  lower : IsLower routePrefix

theorem isLower_normalizePrefix (U : Unicode) (value : String) :
    IsLower (normalizePrefix U value) :=
  U.lower_not_upper _

/-- The validation of the raw fields. -/
def validateWriteRequest (U : Unicode) (raw : WriteFields P) :
    Option (DynamicRouteWriteRequest P) :=
  let fields := { raw with routePrefix := normalizePrefix U raw.routePrefix }
  if h : FieldsOk fields then some ⟨fields, h, isLower_normalizePrefix U _⟩ else none

/-- `api_path`. -/
def apiPath (routePrefix path : String) : String := "/" ++ routePrefix ++ "/" ++ path

end Schemas
end DataApi
