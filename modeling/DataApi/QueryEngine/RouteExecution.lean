import DataApi.QueryEngine.RouteStore

/-!
# Executing a route

`execute_route` validates the stored SQL and definitions again before it binds
and runs them.  On a route of the store these checks pass: what can still be
raised concerns the parameters of the request, the binds, or the clients.
-/

namespace DataApi
namespace QueryEngine

open Library Schemas PiiCache

/-- `DataRowsResponse`, or `PaginatedResponse` with its `PaginationMeta`. -/
inductive ExecutionResponse (P : Scalars) where
  | rows (rows : List (Row P)) (missing : List (MissingPiiMapping P))
  | paginated (data : List (Row P)) (total : Int) (page pageSize : Nat)
      (totalPages : Int) (missing : List (MissingPiiMapping P))

/-- `int(text)` for a text of decimal digits. -/
def decimalOfStr (U : Unicode) (text : String) : Option Nat :=
  let digits := text.toList.map U.decimal
  if digits = [] ∨ 4300 < digits.length then none
  else digits.foldl (fun n digit => n.bind fun n => digit.map (10 * n + ·)) (some 0)

/-- `_parse_pagination_value`. -/
def parsePaginationValue (U : Unicode) (rawParams : List (String × String))
    (name : String) (default : Nat) (maximum : Option Nat) : Except Raised Nat :=
  let invalid : Except Raised Nat := .error (.app (dynamicParameterError
    "dynamic_parameter_invalid"
    ("Parameter '" ++ name ++ "' is not a valid pagination value")
    [("parameter", .text name)]))
  match rawParams.filter fun item => item.1 = name with
  | [] => .ok default
  | [item] =>
      match decimalOfStr U item.2 with
      | none => invalid
      | some value =>
          if value < 1 ∨ ∃ bound ∈ maximum, bound < value then invalid else .ok value
  | _ => invalid

/-- `_extract_pagination`: the other parameters, and page and page size. -/
def extractPagination (U : Unicode) (rawParams : List (String × String))
    (responseType : DynamicRouteResponseType) :
    Except Raised (List (String × String) × Option (Nat × Nat)) :=
  match responseType with
  | .data => .ok (rawParams, none)
  | .paginated => do
      let page ← parsePaginationValue U rawParams "page" 1 none
      let pageSize ← parsePaginationValue U rawParams "page_size" 100 (some 1000)
      return (rawParams.filter fun item => item.1 ∉ ["page", "page_size"],
        some (page, pageSize))

/-- The value of the enumeration member. -/
def piiColumn : DynamicRoutePiiType → String
  | .accountId => "account_id"
  | .customerId => "customer_id"

section Execution

variable {P : Scalars} (U : Unicode) (S : Sqlglot) (B : Builtins P)

/-- `_extract_total`. -/
def extractTotal (rows : List (Row P)) : Except Raised Int :=
  match rows with
  | [row] =>
      match row.entries.find? fun entry => P.casefold entry.1 = "total" with
      | none => .error (.other "RuntimeError")
      | some entry =>
          match B.int entry.2 with
          | .ok total => .ok total
          | .error className => .error (.other className)
  | _ => .error (.other "RuntimeError")

/-- `_map_pii`. -/
def mapPii (mapper : Option AccountMapInMemory) (route : StoredRoute P.Float)
    (rows : List (Row P)) : Except Raised (List (Row P) × List (MissingPiiMapping P)) :=
  match route.config.piiType, mapper with
  | none, _ => .ok (rows, [])
  | some _, none => .error (.other "RuntimeError")
  | some piiType, some cache =>
      mapPiiFields cache rows
        { routeName := apiPath route.config.routePrefix route.config.path
          columnPiiRules := singleRule B (piiColumn piiType) }

/-- The statement that counts the rows of a paginated route. -/
def countSql (sql : String) : String :=
  "SELECT COUNT(*) AS total FROM (" ++ sql ++ ") AS dynamic_route_count"

/-- The statement that reads a page. -/
def pageSql (sql : String) : String :=
  "SELECT * FROM (" ++ sql ++ ") AS dynamic_route_data " ++
    "LIMIT :__dynamic_page_size OFFSET :__dynamic_offset"

/-- The queries of `execute_route`, behind the checks. -/
def runStored (clients : Clients P) (mapper : Option AccountMapInMemory)
    (route : StoredRoute P.Float) (sql : String)
    (definitions : Dict String (DynamicParameterDefinition P))
    (rawParams : List (String × String)) : Except Raised (ExecutionResponse P) := do
  let (queryParams, pagination) ←
    extractPagination U rawParams route.config.responseType
  let parameters ← castParameterValues definitions (.queryParams queryParams)
  let statement ← buildBoundStatement U sql definitions
  let client ← clientFor clients route.config.dbType
  match pagination with
  | some (page, pageSize) => do
      let countStatement ← buildBoundStatement U (countSql sql) definitions
      let countRows ← client.execute countStatement parameters
      let total ← extractTotal B countRows
      let paginatedStatement ← buildBoundStatement U (pageSql sql) definitions
      let paginatedParameters :=
        (parameters.set "__dynamic_page_size" (.int pageSize)).set
          "__dynamic_offset" (.int ((page - 1) * pageSize : Nat))
      let rows ← client.execute paginatedStatement paginatedParameters
      let mapped ← mapPii B mapper route rows
      return .paginated mapped.1 total page pageSize
        ((total + pageSize - 1).fdiv pageSize) mapped.2
  | none => do
      let rows ← client.execute statement parameters
      let mapped ← mapPii B mapper route rows
      return .rows mapped.1 mapped.2

/-- `execute_route` on the row that was found. -/
def executeStored (clients : Clients P) (mapper : Option AccountMapInMemory)
    (route : StoredRoute P.Float) (rawParams : List (String × String)) :
    Except Raised (ExecutionResponse P) := do
  let validated ←
    (validate U S route.config.canonicalSql route.config.dbType).mapError Raised.app
  let definitions ← deserializeDefinitions route.config.parameterDefinitions
  (validateParameterContract validated.parameterNames definitions).mapError Raised.app
  runStored U B clients mapper route validated.canonicalSql definitions rawParams

/-- `execute_route`. -/
def executeRoute (clients : Clients P) (mapper : Option AccountMapInMemory)
    (routePrefix path : String) (rawParams : List (String × String)) :
    Action P.Float (ExecutionResponse P) := do
  let route ← getByRoute routePrefix path
  match route with
  | none => throw (.app (notFoundError "Dynamic route"))
  | some route => .lift (executeStored U S B clients mapper route rawParams)

end Execution

/-! ### What an execution may raise -/

/-- A `DynamicSqlError`. -/
def IsDynamicSqlError (e : AppError) : Prop :=
  ∃ code message, e = dynamicSqlError code message

/-- The codes of `validate_parameter_contract`. -/
def contractCodes : List String :=
  ["dynamic_parameter_invalid_name", "dynamic_parameter_contract_mismatch"]

/-- An error that accuses neither the stored SQL nor the stored definitions. -/
def Blameless (e : AppError) : Prop := ¬IsDynamicSqlError e ∧ e.code ∉ contractCodes

/-- The application errors of a computation all satisfy `E`. -/
def AppErrors {α : Type} (E : AppError → Prop) (x : Except Raised α) : Prop :=
  ∀ e, x = .error (.app e) → E e

section Errors

variable {P : Scalars} {E : AppError → Prop} {α β : Type}

theorem AppErrors.ok (a : α) : AppErrors E (.ok a : Except Raised α) := nofun

theorem AppErrors.other (className : String) :
    AppErrors E (.error (.other className) : Except Raised α) := nofun

theorem AppErrors.app {e : AppError} (h : E e) :
    AppErrors E (.error (.app e) : Except Raised α) := by
  intro e' hEq
  cases hEq
  exact h

/-- Errors of a sequence are errors of its parts. -/
theorem AppErrors.bind {x : Except Raised α} {f : α → Except Raised β}
    (hx : AppErrors E x) (hf : ∀ a, AppErrors E (f a)) : AppErrors E (x >>= f) := by
  intro e hEq
  cases x with
  | ok a => exact hf a e hEq
  | error raised =>
      cases hEq
      exact hx e rfl

theorem AppErrors.map {x : Except Raised α} (hx : AppErrors E x) (f : α → β) :
    AppErrors E (x.map f) := by
  intro e hEq
  cases x with
  | ok a => cases hEq
  | error raised =>
      cases hEq
      exact hx e rfl

/-- The codes of the errors that the parameters of a request cause. -/
def requestCodes : List String :=
  ["dynamic_parameter_unknown", "dynamic_parameter_missing", "dynamic_parameter_invalid"]

/-- What holds of every error that a request or a client causes: a
`DynamicParameterError` that names its parameters, or a timeout. -/
structure CoversRequests (E : AppError → Prop) : Prop where
  parameter : ∀ code ∈ requestCodes, ∀ message details, details ≠ [] →
    E (dynamicParameterError code message details)
  timeout : ∀ serviceName, E (externalServiceTimeoutError serviceName)

theorem blameless_coversRequests : CoversRequests Blameless where
  parameter code hCode message details hDetails := by
    refine ⟨?_, ?_⟩
    · rintro ⟨code', message', hEq⟩
      cases hEq
      exact hDetails rfl
    · have hDisjoint : ∀ code ∈ requestCodes, code ∉ contractCodes := by decide
      exact hDisjoint code hCode
  timeout serviceName := by
    refine ⟨?_, by change "external_service_timeout" ∉ contractCodes; decide⟩
    rintro ⟨code, message, hEq⟩
    cases hEq

theorem CoversRequests.error (hE : CoversRequests E) {code message : String}
    {details : List (String × ErrorDetail)} (hDetails : details ≠ [])
    (hCode : code ∈ requestCodes) :
    AppErrors E (.error (.app (dynamicParameterError code message details)) :
      Except Raised α) :=
  .app (hE.parameter code hCode message details hDetails)

theorem castError_appErrors (hE : CoversRequests E) (parameterType : DynamicParameterType)
    (name : String) :
    AppErrors E (.error (castError parameterType name) : Except Raised α) :=
  hE.error (List.cons_ne_nil _ _) (by decide)

theorem orCastError_appErrors (hE : CoversRequests E)
    (parameterType : DynamicParameterType) (name : String) (x : Option α) :
    AppErrors E (orCastError parameterType name x) := by
  cases x with
  | none => exact castError_appErrors hE parameterType name
  | some a => exact .ok a

theorem castFloat_appErrors (hE : CoversRequests E) (converted : Option P.Float)
    (name : String) : AppErrors E (castFloat converted name) :=
  (orCastError_appErrors hE .float name _).map _

theorem castListParts_appErrors (hE : CoversRequests E) (name : String)
    (items : List (PyValue P)) : AppErrors E (castListParts name items) := by
  induction items with
  | nil => exact .ok _
  | cons item rest ih =>
      cases item with
      | str s => exact ih.bind fun parts => .ok _
      | none | bool | int | float | date | datetime | list | other =>
          exact hE.error (List.cons_ne_nil _ _) (by decide)

theorem castStringList_appErrors (hE : CoversRequests E) (values : List (PyValue P))
    (name : String) : AppErrors E (castStringList values name) := by
  refine (castListParts_appErrors hE name values).bind fun parts => ?_
  split
  · exact hE.error (List.cons_ne_nil _ _) (by decide)
  · exact .ok _

theorem castValue_appErrors (hE : CoversRequests E) (parameterType : DynamicParameterType)
    (value : PyValue P) (name : String) :
    AppErrors E (castValue parameterType value name) := by
  -- one case for each arm of `castValue`, in its order
  unfold castValue
  split
  · exact .ok _
  · exact .ok _
  · exact (orCastError_appErrors hE .integer name _).map _
  · exact castFloat_appErrors hE _ name
  · split
    · exact castFloat_appErrors hE _ name
    · exact .other _
  · exact castFloat_appErrors hE _ name
  · exact .ok _
  · exact (orCastError_appErrors hE .boolean name _).map _
  · exact .ok _
  · exact (orCastError_appErrors hE .date name _).map _
  · exact .ok _
  · exact (orCastError_appErrors hE .datetime name _).map _
  · exact castStringList_appErrors hE _ name
  · exact castError_appErrors hE _ name

theorem castParameter_appErrors (hE : CoversRequests E)
    (supplied : Dict String (List (PyValue P))) (name : String)
    (definition : DynamicParameterDefinition P) :
    AppErrors E (castParameter supplied name definition) := by
  unfold castParameter
  split
  · split
    · exact hE.error (List.cons_ne_nil _ _) (by decide)
    · split
      · exact .ok _
      · exact castValue_appErrors hE _ _ _
  · split
    · exact castStringList_appErrors hE _ name
    · exact castValue_appErrors hE _ _ name
    · exact hE.error (List.cons_ne_nil _ _) (by decide)

theorem castParameterValues_appErrors (hE : CoversRequests E)
    (definitions : Dict String (DynamicParameterDefinition P)) (rawValues : RawValues P) :
    AppErrors E (castParameterValues definitions rawValues) := by
  rw [castParameterValues]
  split
  · exact hE.error (List.cons_ne_nil _ _) (by decide)
  · generalize (Dict.empty : Dict String (PyValue P)) = result
    induction definitions.entries generalizing result with
    | nil => exact .ok _
    | cons entry rest ih =>
        rw [List.foldlM_cons]
        refine AppErrors.bind ?_ fun next => ih next
        exact (castParameter_appErrors hE _ _ _).bind fun value => .ok _

theorem buildBoundStatement_appErrors (U : Unicode) (sql : String)
    (definitions : Dict String (DynamicParameterDefinition P)) :
    AppErrors E (buildBoundStatement U sql definitions) := by
  rw [buildBoundStatement, TextClause.bindparams]
  split
  · exact .ok _
  · exact .other _

theorem clientFor_appErrors (clients : Clients P) (dbType : Dialect) :
    AppErrors E (clientFor clients dbType) := by
  unfold clientFor
  split
  · exact .ok _
  · exact .ok _
  · exact .other _

theorem execute_appErrors (hE : CoversRequests E) (client : Client P)
    (statement : TextClause) (parameters : Dict String (PyValue P)) :
    AppErrors E (client.execute statement parameters) := by
  unfold Client.execute
  cases client statement parameters with
  | ok rows => exact .ok _
  | error clientError =>
      cases clientError with
      | timeout => exact .app (hE.timeout "Trino query")
      | other className => exact .other _

theorem parsePaginationValue_appErrors (hE : CoversRequests E) (U : Unicode)
    (rawParams : List (String × String)) (name : String) (default : Nat)
    (maximum : Option Nat) :
    AppErrors E (parsePaginationValue U rawParams name default maximum) := by
  unfold parsePaginationValue
  dsimp only
  split
  · exact .ok _
  · split
    · exact hE.error (List.cons_ne_nil _ _) (by decide)
    · split
      · exact hE.error (List.cons_ne_nil _ _) (by decide)
      · exact .ok _
  · exact hE.error (List.cons_ne_nil _ _) (by decide)

theorem extractPagination_appErrors (hE : CoversRequests E) (U : Unicode)
    (rawParams : List (String × String)) (responseType : DynamicRouteResponseType) :
    AppErrors E (extractPagination U rawParams responseType) := by
  cases responseType with
  | data => exact .ok _
  | paginated =>
      refine (parsePaginationValue_appErrors hE _ _ _ _ _).bind fun page => ?_
      exact (parsePaginationValue_appErrors hE _ _ _ _ _).bind fun pageSize => .ok _

theorem extractTotal_appErrors (B : Builtins P) (rows : List (Row P)) :
    AppErrors E (extractTotal B rows) := by
  unfold extractTotal
  split
  · split
    · exact .other _
    · split
      · exact .ok _
      · exact .other _
  · exact .other _

theorem mapPii_appErrors (B : Builtins P) (mapper : Option AccountMapInMemory)
    (route : StoredRoute P.Float) (rows : List (Row P)) :
    AppErrors E (mapPii B mapper route rows) := by
  unfold mapPii
  split
  · exact .ok _
  · exact .other _
  · unfold mapPiiFields
    split
    · exact .other _
    · exact .ok _

/-- Behind the checks, the request and the clients cause the errors. -/
theorem runStored_appErrors (hE : CoversRequests E) (U : Unicode) (B : Builtins P)
    (clients : Clients P) (mapper : Option AccountMapInMemory)
    (route : StoredRoute P.Float) (sql : String)
    (definitions : Dict String (DynamicParameterDefinition P))
    (rawParams : List (String × String)) :
    AppErrors E (runStored U B clients mapper route sql definitions rawParams) := by
  refine (extractPagination_appErrors hE _ _ _).bind fun (queryParams, pagination) => ?_
  refine (castParameterValues_appErrors hE _ _).bind fun parameters => ?_
  refine (buildBoundStatement_appErrors _ _ _).bind fun statement => ?_
  refine (clientFor_appErrors _ _).bind fun client => ?_
  cases pagination with
  | none =>
      -- a route of type `data`
      refine (execute_appErrors hE _ _ _).bind fun rows => ?_
      exact (mapPii_appErrors _ _ _ _).bind fun mapped => .ok _
  | some bounds =>
      refine (buildBoundStatement_appErrors _ _ _).bind fun countStatement => ?_
      refine (execute_appErrors hE _ _ _).bind fun countRows => ?_
      refine (extractTotal_appErrors _ _).bind fun total => ?_
      refine (buildBoundStatement_appErrors _ _ _).bind fun paginatedStatement => ?_
      refine (execute_appErrors hE _ _ _).bind fun rows => ?_
      exact (mapPii_appErrors _ _ _ _).bind fun mapped => .ok _

/-- So do they in a lab test. -/
theorem runLabTestIfRequested_appErrors (hE : CoversRequests E) (U : Unicode)
    (clients : Clients P) (payload : DynamicRouteWriteRequest P) (canonicalSql : String) :
    AppErrors E (runLabTestIfRequested U clients payload canonicalSql) := by
  unfold runLabTestIfRequested
  split
  · refine (castParameterValues_appErrors hE _ _).bind fun parameters => ?_
    refine (buildBoundStatement_appErrors _ _ _).bind fun statement => ?_
    refine (clientFor_appErrors _ _).bind fun client => ?_
    exact (execute_appErrors hE _ _ _).bind fun rows => .ok _
  · exact .ok _

end Errors

section Reachable

variable {P : Scalars} {U : Unicode} {S : Sqlglot} {J : JsonFormat P} {B : Builtins P}

/-- On a row that passes the checks, an execution is its queries. -/
theorem executeStored_checked {route : StoredRoute P.Float} {validated : ValidatedSql}
    {definitions : Dict String (DynamicParameterDefinition P)}
    (hValidate : validate U S route.config.canonicalSql route.config.dbType =
      .ok validated)
    (hLoad : deserializeDefinitions route.config.parameterDefinitions = .ok definitions)
    (hContract : MeetsContract validated.parameterNames definitions)
    (clients : Clients P) (mapper : Option AccountMapInMemory)
    (rawParams : List (String × String)) :
    executeStored U S B clients mapper route rawParams =
      runStored U B clients mapper route validated.canonicalSql definitions rawParams := by
  have hCheck := validateParameterContract_eq_ok_iff (u := ()).mpr hContract
  rw [executeStored, hValidate, hLoad]
  change ((validateParameterContract validated.parameterNames definitions).mapError
    Raised.app >>= fun _ => _) = _
  rw [hCheck]
  rfl

section Stops

variable {clients : Clients P} {mapper : Option AccountMapInMemory}
  {route : StoredRoute P.Float} {sql : String} {raised : Raised}
  {definitions : Dict String (DynamicParameterDefinition P)}
  {rawParams queryParams : List (String × String)} {pagination : Option (Nat × Nat)}

/-- A query string with a bad page ends the run. -/
theorem runStored_of_extract_error
    (hExtract : extractPagination U rawParams route.config.responseType = .error raised) :
    runStored U B clients mapper route sql definitions rawParams = .error raised := by
  rw [runStored, hExtract]
  rfl

/-- So do parameters that do not meet the definitions. -/
theorem runStored_of_cast_error
    (hExtract : extractPagination U rawParams route.config.responseType =
      .ok (queryParams, pagination))
    (hCast : castParameterValues definitions (.queryParams queryParams) = .error raised) :
    runStored U B clients mapper route sql definitions rawParams = .error raised := by
  rw [runStored, hExtract]
  change (castParameterValues definitions (.queryParams queryParams) >>= fun _ => _) = _
  rw [hCast]
  rfl

/-- So does a statement that cannot be built. -/
theorem runStored_of_build_error {parameters : Dict String (PyValue P)}
    (hExtract : extractPagination U rawParams route.config.responseType =
      .ok (queryParams, pagination))
    (hCast : castParameterValues definitions (.queryParams queryParams) = .ok parameters)
    (hBuild : buildBoundStatement U sql definitions = .error raised) :
    runStored U B clients mapper route sql definitions rawParams = .error raised := by
  rw [runStored, hExtract]
  change (castParameterValues definitions (.queryParams queryParams) >>= fun _ => _) = _
  rw [hCast]
  change (buildBoundStatement U sql definitions >>= fun _ => _) = _
  rw [hBuild]
  rfl

end Stops

/-- A route that can be executed passes the checks of `execute_route`. -/
theorem executeStored_blameless {route : StoredRoute P.Float}
    (h : Executable U S route.config) (clients : Clients P)
    (mapper : Option AccountMapInMemory) (rawParams : List (String × String)) :
    AppErrors Blameless (executeStored U S B clients mapper route rawParams) := by
  obtain ⟨definitions, validated, hLoad, hValidate, hContract, -⟩ := h
  rw [executeStored_checked hValidate hLoad hContract]
  exact runStored_appErrors blameless_coversRequests _ _ _ _ _ _ _ _

/-- The rows of the table are valid, a write operation that raises leaves them as
they are, and an execution never raises a `DynamicSqlError` or a contract
mismatch. -/
structure StaysExecutable (U : Unicode) (S : Sqlglot) (J : JsonFormat P)
    (B : Builtins P) (uow : UnitOfWork P.Float) : Prop where
  valid : StoreOk U S uow.committed
  failed : ∀ call raised uow', runCall U S J call uow = (.error raised, uow') →
    uow'.committed = uow.committed
  executed : ∀ clients mapper routePrefix path rawParams e uow',
    executeRoute U S B clients mapper routePrefix path rawParams uow =
      (.error (.app e), uow') → Blameless e

/-- Every stored route stays executable: after every sequence of write
operations, each of which may raise at any step. -/
theorem staysExecutable_of_reachable (U : Unicode) (S : Sqlglot) (J : JsonFormat P)
    (B : Builtins P) (uow : UnitOfWork P.Float) (hS : RendersBack U S)
    (h : (routeStore U S J).Reachable uow) : StaysExecutable U S J B uow := by
  obtain ⟨hClean, hValid⟩ := published_of_reachable hS h
  refine ⟨hValid, fun call raised uow' hRun => ?_, ?_⟩
  · exact ((runCall_triple hS hValid call uow ⟨rfl, hClean⟩).2 raised uow' hRun).1
  · intro clients mapper routePrefix path rawParams e uow' hRun
    have hTriple : Effect.Triple (fun s : UnitOfWork P.Float => s = uow)
        (executeRoute U S B clients mapper routePrefix path rawParams)
        (fun _ _ => True) (fun raised _ => ∀ e, raised = .app e → Blameless e) := by
      refine Effect.Triple.bind (Q := fun found _ => ∀ route ∈ found,
        Executable U S route.config) (Effect.Triple.read ?_ ?_) fun found => ?_
      · rintro found s hFound rfl route hRoute
        have hMem := mem_of_scalarOneOrNone hFound hRoute
        rw [hClean] at hMem
        exact (hValid.routes route (List.mem_of_mem_filter hMem)).executable
      · rintro raised s hFound - e rfl
        exact absurd hFound (scalarOneOrNone_ne_app _ e)
      · cases found with
        | none =>
            refine Effect.Triple.throw fun _ _ e he => ?_
            cases he
            refine ⟨?_, by decide⟩
            rintro ⟨code, message, hEq⟩
            cases hEq
        | some route =>
            refine Effect.Triple.lift (fun _ _ _ _ => trivial) fun raised s hRaised hAll => ?_
            rintro e rfl
            exact executeStored_blameless (hAll route rfl) clients mapper rawParams e hRaised
    exact (hTriple uow rfl).2 _ uow' hRun e rfl

end Reachable

/-! ### One route -/

theorem parse_oneText {text sql : String} {tree tree' : Expression} {dialect : Dialect}
    (h : (oneText text tree).parse dialect sql = .ok [some tree']) :
    sql = text ∧ tree' = tree := by
  simp only [oneText] at h
  split at h
  · rename_i hSql
    cases h
    exact ⟨hSql, rfl⟩
  · cases h

/-- A text that is rendered to itself and is not blank. -/
theorem rendersBack_oneText (U : Unicode) {text : String} {tree : Expression}
    (hCanonical : ∀ dialect, canonicalSql (oneText text tree) dialect tree = text)
    (hBlank : strip text ≠ "") : RendersBack U (oneText text tree) := by
  refine ⟨fun sql dialect tree' h _ => ?_, fun sql dialect tree' h _ hSafe => ?_,
    fun sql dialect tree' hSql h => ?_⟩
  · obtain ⟨-, rfl⟩ := parse_oneText h
    rw [hCanonical]
    exact ⟨tree', if_pos rfl, rfl, fun _ => Iff.rfl, fun _ => Iff.rfl⟩
  · obtain ⟨rfl, rfl⟩ := parse_oneText h
    rwa [hCanonical]
  · obtain ⟨rfl, -⟩ := parse_oneText h
    exact absurd hSql hBlank

theorem oneText_rendersBack : RendersBack .ascii (oneText "SELECT 1" selectOne) :=
  rendersBack_oneText .ascii (fun dialect => by cases dialect <;> decide) (by decide)

/-- The fields of the route `alice/report` with the statement `SELECT 1`. -/
def reportFields : WriteFields Scalars.plain :=
  { routePrefix := "alice", path := "report", sql := "SELECT 1" }

theorem reportFields_ok : FieldsOk reportFields := by
  decide

theorem reportFields_lower : IsLower reportFields.routePrefix := by
  simp [reportFields, IsLower]

/-- The request that creates it. -/
def reportPayload : DynamicRouteWriteRequest .plain :=
  { reportFields with ok := reportFields_ok, lower := reportFields_lower }

/-- Clients that return no rows. -/
def emptyClients : Clients .plain where
  trino _ _ := .ok []
  postgres := none

/-- The table after the route is created. -/
def reportCreated : UnitOfWork Scalars.plain.Float :=
  (runCall .ascii (oneText "SELECT 1" selectOne) .plain
    (.create reportPayload 1 ⟨7, emptyClients, none, none, none⟩) ⟨[], []⟩).2

theorem reportCreated_staysExecutable :
    reportCreated.committed.map StoredRoute.key = [("alice", "report")] ∧
      StaysExecutable .ascii (oneText "SELECT 1" selectOne) .plain .plain
        reportCreated :=
  ⟨by decide, staysExecutable_of_reachable .ascii (oneText "SELECT 1" selectOne) .plain
    .plain reportCreated oneText_rendersBack (.step (.start rfl) trivial rfl)⟩

end QueryEngine
end DataApi
