import DataApi.Library.ColumnMerge
import DataApi.QueryEngine.StoredDefinitions
import DataApi.Schemas.DynamicRoute

/-!
# The configuration of a route

The nine columns that a write request determines, and the contract between
them: the stored definitions are those of the placeholders of the canonical
SQL, and a paginated route declares no pagination parameter.
-/

namespace DataApi
namespace QueryEngine

open Library Schemas

/-- The columns of `DynamicRoute` that a request determines. -/
structure RouteConfig (F : Type) where
  routePrefix : String
  path : String
  description : String
  originalSql : String
  canonicalSql : String
  parameterDefinitions : StoredDefinitions F
  dbType : Dialect
  piiType : Option DynamicRoutePiiType
  responseType : DynamicRouteResponseType
  deriving DecidableEq

/-- The row of a route: its configuration and `updated_by`. -/
structure RouteRow (F : Type) where
  config : RouteConfig F
  updatedBy : Nat
  deriving DecidableEq

/-- The names of the columns. -/
inductive RouteColumn where
  | routePrefix
  | path
  | description
  | originalSql
  | canonicalSql
  | parameterDefinitions
  | dbType
  | piiType
  | responseType
  deriving DecidableEq

/-- The type of a column. -/
@[reducible] def RouteColumn.Value (F : Type) : RouteColumn → Type
  | routePrefix => String
  | path => String
  | description => String
  | originalSql => String
  | canonicalSql => String
  | parameterDefinitions => StoredDefinitions F
  | dbType => Dialect
  | piiType => Option DynamicRoutePiiType
  | responseType => DynamicRouteResponseType

instance {F : Type} [DecidableEq F] : ∀ c : RouteColumn, DecidableEq (c.Value F)
  | .routePrefix => inferInstanceAs (DecidableEq String)
  | .path => inferInstanceAs (DecidableEq String)
  | .description => inferInstanceAs (DecidableEq String)
  | .originalSql => inferInstanceAs (DecidableEq String)
  | .canonicalSql => inferInstanceAs (DecidableEq String)
  | .parameterDefinitions => inferInstanceAs (DecidableEq (StoredDefinitions F))
  | .dbType => inferInstanceAs (DecidableEq Dialect)
  | .piiType => inferInstanceAs (DecidableEq (Option DynamicRoutePiiType))
  | .responseType => inferInstanceAs (DecidableEq DynamicRouteResponseType)

namespace RouteConfig

variable {F : Type}

/-- The value of a column. -/
def get (config : RouteConfig F) : ∀ c : RouteColumn, c.Value F
  | .routePrefix => config.routePrefix
  | .path => config.path
  | .description => config.description
  | .originalSql => config.originalSql
  | .canonicalSql => config.canonicalSql
  | .parameterDefinitions => config.parameterDefinitions
  | .dbType => config.dbType
  | .piiType => config.piiType
  | .responseType => config.responseType

/-- The configuration with the given columns. -/
def ofColumns (value : ∀ c : RouteColumn, c.Value F) : RouteConfig F where
  routePrefix := value .routePrefix
  path := value .path
  description := value .description
  originalSql := value .originalSql
  canonicalSql := value .canonicalSql
  parameterDefinitions := value .parameterDefinitions
  dbType := value .dbType
  piiType := value .piiType
  responseType := value .responseType

theorem get_ofColumns (value : ∀ c : RouteColumn, c.Value F) :
    (ofColumns value).get = value := by
  funext c
  cases c <;> rfl

theorem get_injective {config config' : RouteConfig F}
    (h : config.get = config'.get) : config = config' := by
  have hOf : ∀ config : RouteConfig F, ofColumns config.get = config := fun _ => rfl
  rw [← hOf config, h, hOf]

variable {P : Scalars}

/-- The configuration a validated request assigns. -/
def ofPayload (J : JsonFormat P) (payload : DynamicRouteWriteRequest P)
    (canonicalSql : String) : RouteConfig P.Float where
  routePrefix := payload.routePrefix
  path := payload.path
  description := payload.description
  originalSql := payload.sql
  canonicalSql := canonicalSql
  parameterDefinitions := serializeDefinitions J payload.params
  dbType := payload.dbType
  piiType := payload.piiType
  responseType := payload.responseType

end RouteConfig

/-- The names of the placeholders of a text. -/
def placeholdersOf (S : Sqlglot) (dialect : Dialect) (sql : String) :
    Option (Finset String) :=
  match S.parseOne dialect sql with
  | .ok tree => some tree.placeholderNames.toFinset
  | .error _ => none

/-- The contract of a route: definition names are the placeholders of the
canonical SQL, and no reserved name is declared. -/
structure RouteContract {F : Type} (S : Sqlglot) (config : RouteConfig F) : Prop where
  names_eq : placeholdersOf S config.dbType config.canonicalSql =
    some config.parameterDefinitions.keys
  reserved : config.responseType = .paginated →
    ∀ name ∈ config.parameterDefinitions.keys, name ∉ paginationParameters

/-- The checks at the front of `create_route` and `update_route`. -/
def validatePayload {P : Scalars} (U : Unicode) (S : Sqlglot)
    (payload : DynamicRouteWriteRequest P) : Except AppError ValidatedSql := do
  let validated ← validate U S payload.sql payload.dbType
  validateParameterContract validated.parameterNames payload.params
  return validated

section Payload

variable {P : Scalars} {U : Unicode} {S : Sqlglot}
  {payload : DynamicRouteWriteRequest P} {validated : ValidatedSql}

theorem validatePayload_eq_ok_iff :
    validatePayload U S payload = .ok validated ↔
      validate U S payload.sql payload.dbType = .ok validated ∧
        MeetsContract validated.parameterNames payload.params := by
  simp only [validatePayload, bind_eq_ok_iff, validateParameterContract_eq_ok_iff]
  constructor
  · rintro ⟨v, hValidate, -, hContract, hPure⟩
    cases hPure
    exact ⟨hValidate, hContract⟩
  · rintro ⟨hValidate, hContract⟩
    exact ⟨validated, hValidate, (), hContract, rfl⟩

/-- A request that passes its checks assigns a configuration that satisfies the
contract. -/
theorem routeContract_ofPayload (J : JsonFormat P)
    (h : validatePayload U S payload = .ok validated) :
    RouteContract S (RouteConfig.ofPayload J payload validated.canonicalSql) := by
  obtain ⟨hValidate, hContract⟩ := validatePayload_eq_ok_iff.mp h
  obtain ⟨tree, reparsed, hAccepted⟩ := validate_eq_ok_iff.mp hValidate
  have hKeys := keys_serializeDefinitions J payload.params
  constructor
  · change placeholdersOf S payload.dbType validated.canonicalSql =
      some (serializeDefinitions J payload.params).keys
    rw [placeholdersOf, hAccepted.parseOne_eq, hKeys, ← hContract.names_eq,
      hAccepted.names_eq]
  · intro hPaginated name hName
    change name ∈ (serializeDefinitions J payload.params).keys at hName
    rw [hKeys, List.mem_toFinset] at hName
    exact payload.ok.2.2.2.2 hPaginated name hName

end Payload

end QueryEngine
end DataApi
