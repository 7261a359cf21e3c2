import DataApi.Api.Registration
import DataApi.QueryEngine.RouteExecution

/-!
# Audit records

The rows that are written to `audit_logs`: by `require_api_permission` for every
guarded request, by the execution endpoint for tokens that are not in the cache, and
by the management endpoints.  What they hold of a request are its path and the names of
its parameters, and of a payload its prefix and path; a record of the management also
names the operation and the route it was addressed to.
-/

namespace DataApi
namespace Api

open Library QueryEngine Schemas

/-- A value in the parameters of a record. -/
inductive AuditValue (P : Scalars) where
  | null
  | int (value : Int)
  | text (value : List Char)
  | names (values : List String)
  | mappings (values : List (MissingPiiMapping P))

/-- `AuditLog`. -/
structure AuditLog (P : Scalars) where
  userId : Nat
  username : List Char
  apiRoute : List Char
  parameters : Dict String (AuditValue P)
  allowed : Bool
  errorMessage : Option String
  timeProcessMs : Option Nat := none

/-- A user with the key of the row. -/
structure Actor where
  id : Nat
  user : User

/-- A request with its raw query string. -/
structure HttpRequest extends Request where
  query : List Char

/-- `request.url.path`; a query string that is not empty is part of the URL. -/
def HttpRequest.urlPath (checkNetloc : List Char → Bool) (request : HttpRequest) :
    Option (List Char) :=
  (urlsplit checkNetloc
    (request.scheme.text ++ ':' :: '/' :: '/' :: (request.host ++ request.path ++
      (if request.query = [] then [] else '?' :: request.query)))).map SplitResult.path

/-- The text that the label of the dynamic route ends with. -/
def dynamicRouteLabel : List Char := "/\x7bprefix\x7d/\x7bpath:path\x7d".toList

section Permission

variable {P : Scalars} (parseQuery : List Char → List (String × String))
  (checkNetloc : List Char → Bool) (base : ApiV1Prefix)

/-- `sorted(set(request.query_params.keys()))`. -/
def parameterNames (request : HttpRequest) : List String :=
  sorted ((parseQuery request.query).map Prod.fst).toFinset

/-- The names of the parameters, as a record stores them. -/
def namesOnly (request : HttpRequest) : Dict String (AuditValue P) :=
  Dict.empty.set "parameter_names" (.names (parameterNames parseQuery request))

/-- `_request_parameters`: the last value of every parameter, but for the dynamic
route. -/
def requestParameters (request : HttpRequest) (route : ApiRoute) :
    Dict String (AuditValue P) :=
  if dynamicRouteLabel <:+ (AppRoute.api route).path base then
    namesOnly parseQuery request
  else
    (parseQuery request.query).foldl
      (fun parameters item => parameters.set item.1 (.text item.2.toList)) .empty

/-- `require_api_permission` with the record it writes and the time it took. -/
def auditedPermission (actor : Actor) (request : HttpRequest) (route : ApiRoute)
    (elapsed : Nat) : List (AuditLog P) × Except AppError Unit :=
  match request.urlPath checkNetloc with
  | none => ([], .error internalServerError)
  | some path =>
      match checkApiPermission actor.user (normalizeRoutePath base path) with
      | .ok _ =>
          ([{ userId := actor.id, username := actor.user.username, apiRoute := path
              parameters := requestParameters parseQuery base request route
              allowed := true, errorMessage := none, timeProcessMs := some elapsed }],
            .ok ())
      | .error error =>
          ([{ userId := actor.id, username := actor.user.username, apiRoute := path
              parameters := requestParameters parseQuery base request route
              allowed := false, errorMessage := some error.message
              timeProcessMs := some elapsed }],
            .error error)

end Permission

section Records

variable {P : Scalars}

/-- The label of a dynamic route in a record. -/
def dynamicRouteName (routePrefix path : String) : List Char :=
  "dynamic-route:".toList ++ routePrefix.toList ++ '/' :: path.toList

/-- `audit_missing_mappings`. -/
def auditMissingMappings (actor : Actor) (routeName : List Char)
    (requestParameters : Dict String (AuditValue P))
    (missingMappings : List (MissingPiiMapping P)) : AuditLog P where
  userId := actor.id
  username := actor.user.username
  apiRoute := routeName
  parameters := requestParameters.set "missing_mappings" (.mappings missingMappings)
  allowed := false
  errorMessage := some "Missing PII mapping"

/-- The record of an execution whose response has missing mappings. -/
def executionAudit (parseQuery : List Char → List (String × String)) (actor : Actor)
    (routePrefix path : String) (request : HttpRequest)
    (missingMappings : List (MissingPiiMapping P)) : List (AuditLog P) :=
  if missingMappings.isEmpty then []
  else [auditMissingMappings actor (dynamicRouteName routePrefix path)
    (namesOnly parseQuery request) missingMappings]

/-- `audit_dynamic_route_action`; `routeId` is the text of the key. -/
def auditDynamicRouteAction (actor : Actor) (action : String) (routeId : Option String)
    (routePrefix path : String) (allowed : Bool) (errorCode : Option String) :
    AuditLog P where
  userId := actor.id
  username := actor.user.username
  apiRoute := dynamicRouteName routePrefix path
  parameters :=
    let parameters : Dict String (AuditValue P) :=
      (((Dict.empty.set "action" (.text action.toList)).set "route_id"
          (match routeId with
            | some id => .text id.toList
            | none => .null)).set "prefix" (.text routePrefix.toList)).set "path"
        (.text path.toList)
    match errorCode with
    | some code => parameters.set "error_code" (.text code.toList)
    | none => parameters
  allowed := allowed
  errorMessage := errorCode

/-- A `POST` of a route, or a `PUT` to the key of one. -/
inductive Operation where
  | create
  | update (id : Nat)

/-- The name of an operation in a record. -/
def Operation.action : Operation → String
  | .create => "create"
  | .update _ => "update"

/-- The key in the path of the request. -/
def Operation.addressed : Operation → Option Nat
  | .create => none
  | .update id => some id

/-- A request to a management endpoint, behind the role check. -/
structure ManagementRequest (P : Scalars) where
  operation : Operation
  payload : DynamicRouteWriteRequest P
  env : CallEnvironment P

/-- The call of the service. -/
def ManagementRequest.call (actor : Actor) (request : ManagementRequest P) :
    RouteCall P :=
  match request.operation with
  | .create => .create request.payload actor.id request.env
  | .update id => .update id request.payload actor.id request.env

instance (e : AppError) : Decidable (IsDynamicSqlError e) :=
  decidable_of_iff (e.statusCode = 422 ∧ e.details = []) <| by
    constructor
    · rintro ⟨hStatus, hDetails⟩
      refine ⟨e.code, e.message, ?_⟩
      rw [dynamicSqlError, ← hStatus, ← hDetails]
    · rintro ⟨code, message, rfl⟩
      exact ⟨rfl, rfl⟩

variable (U : Unicode) (S : Sqlglot) (J : JsonFormat P) (idText : Nat → String)

/-- `create_dynamic_route` and `update_dynamic_route`: the result of the service, and
the record. -/
def manageRoute (base : ApiV1Prefix) (actor : Actor) (request : ManagementRequest P)
    (uow : UnitOfWork P.Float) :
    Except Raised (StoredRoute P.Float) × List (AuditLog P) :=
  let payload := request.payload
  match rejectStaticGetCollision base payload.routePrefix payload.path with
  -- the collision is raised in front of the handler that writes a record
  | .error error => (.error (.app error), [])
  | .ok _ =>
      match (runCall U S J (request.call actor) uow).1 with
      | .ok route =>
          (.ok route, [auditDynamicRouteAction actor request.operation.action
            (some (idText route.id)) route.config.routePrefix route.config.path true none])
      | .error (.app error) =>
          (.error (.app error),
            if IsDynamicSqlError error then
              [auditDynamicRouteAction actor request.operation.action
                (request.operation.addressed.map idText) payload.routePrefix payload.path
                false (some error.code)]
            else [])
      | .error (.other className) => (.error (.other className), [])

end Records

/-! ### What a record depends on -/

section Access

variable {P : Scalars} {parseQuery : List Char → List (String × String)}
  {checkNetloc : List Char → Bool} {base : ApiV1Prefix}

/-- The query string does not change the path of the URL. -/
theorem HttpRequest.urlPath_eq (request : HttpRequest) :
    request.urlPath checkNetloc = request.toRequest.urlPath checkNetloc := by
  rw [HttpRequest.urlPath, Request.urlPath]
  split
  · rw [List.append_nil]
  · exact urlsplit_path_query checkNetloc request.scheme.isScheme _ _

/-- The check is the one of `require_api_permission`. -/
theorem auditedPermission_result (actor : Actor) (request : HttpRequest)
    (route : ApiRoute) (elapsed : Nat) :
    (auditedPermission (P := P) parseQuery checkNetloc base actor request route
      elapsed).2 = requireApiPermission checkNetloc base actor.user request.toRequest := by
  rw [auditedPermission, requireApiPermission, HttpRequest.urlPath_eq]
  cases request.toRequest.urlPath checkNetloc with
  | none => rfl
  | some path =>
      dsimp only
      split <;> rename_i hCheck <;> exact hCheck.symm

/-- The request is dispatched to the execution endpoint. -/
def Executes (base : ApiV1Prefix) (request : HttpRequest) (m : RouteMatch) : Prop :=
  request.method = .get ∧
    appDispatch base request.method request.path = some (.api m) ∧
    m.route.endpoint = .executeDynamicRoute

/-- Two requests have the same set of parameter names. -/
def SameNames (parseQuery : List Char → List (String × String))
    (r r' : HttpRequest) : Prop :=
  ∀ name, name ∈ (parseQuery r.query).map Prod.fst ↔
    name ∈ (parseQuery r'.query).map Prod.fst

/-- A record without the time. -/
def AuditLog.untimed (record : AuditLog P) : AuditLog P :=
  { record with timeProcessMs := none }

theorem Executes.label {request : HttpRequest} {m : RouteMatch}
    (h : Executes base request m) :
    dynamicRouteLabel <:+ (AppRoute.api m.route).path base := by
  have hRoute : m.route = Api.executeRoute := by
    have hAll : ∀ route ∈ apiRouter, route.endpoint = .executeDynamicRoute →
        route = Api.executeRoute := by decide
    exact hAll m.route (appDispatch_api h.2.1).1 h.2.2
  rw [hRoute]
  exact List.suffix_append base.text dynamicRouteLabel

theorem SameNames.parameterNames_eq {r r' : HttpRequest}
    (h : SameNames parseQuery r r') :
    parameterNames parseQuery r = parameterNames parseQuery r' := by
  have hSet : ((parseQuery r.query).map Prod.fst).toFinset =
      ((parseQuery r'.query).map Prod.fst).toFinset := by
    ext name
    rw [List.mem_toFinset, List.mem_toFinset]
    exact h name
  rw [parameterNames, hSet, parameterNames]

theorem SameNames.namesOnly_eq {r r' : HttpRequest} (h : SameNames parseQuery r r') :
    namesOnly (P := P) parseQuery r = namesOnly parseQuery r' := by
  rw [namesOnly, h.parameterNames_eq, namesOnly]

/-- The records of the permission check depend on the user, the path of the URL and the
names of the parameters. -/
theorem untimed_auditedPermission (actor : Actor) {r r' : HttpRequest} {m m' : RouteMatch}
    (hExecutes : Executes base r m) (hExecutes' : Executes base r' m')
    (hPath : r.urlPath checkNetloc = r'.urlPath checkNetloc)
    (hNames : SameNames parseQuery r r') (elapsed elapsed' : Nat) :
    (auditedPermission (P := P) parseQuery checkNetloc base actor r m.route
        elapsed).1.map AuditLog.untimed =
      (auditedPermission parseQuery checkNetloc base actor r' m'.route
        elapsed').1.map AuditLog.untimed := by
  have hParameters : requestParameters (P := P) parseQuery base r m.route =
      requestParameters parseQuery base r' m'.route := by
    rw [requestParameters, if_pos hExecutes.label, requestParameters,
      if_pos hExecutes'.label, hNames.namesOnly_eq]
  rw [auditedPermission, auditedPermission, hPath, hParameters]
  cases r'.urlPath checkNetloc with
  | none => rfl
  | some path =>
      dsimp only
      split <;> rfl

end Access

section Management

variable {P : Scalars} {U : Unicode} {S : Sqlglot} {J : JsonFormat P}

/-- The codes of a `DynamicSqlError`. -/
def dynamicSqlCodes : List String :=
  ["dynamic_sql_unsafe_character", "dynamic_sql_empty", "dynamic_sql_invalid_parameter",
    "dynamic_sql_invalid", "dynamic_sql_multiple_statements",
    "dynamic_sql_statement_not_allowed"]

/-- The code of an error tells whether it is a `DynamicSqlError`. -/
def ToldByCode (e : AppError) : Prop := IsDynamicSqlError e ↔ e.code ∈ dynamicSqlCodes

theorem toldByCode_dynamicSqlError {code message : String} (h : code ∈ dynamicSqlCodes) :
    ToldByCode (dynamicSqlError code message) :=
  iff_of_true ⟨code, message, rfl⟩ h

theorem toldByCode_of_details {e : AppError} (hDetails : e.details ≠ [])
    (hCode : e.code ∉ dynamicSqlCodes) : ToldByCode e := by
  refine iff_of_false ?_ hCode
  rintro ⟨code, message, rfl⟩
  exact hDetails rfl

theorem toldByCode_of_status {e : AppError} (hStatus : e.statusCode ≠ 422)
    (hCode : e.code ∉ dynamicSqlCodes) : ToldByCode e := by
  refine iff_of_false ?_ hCode
  rintro ⟨code, message, rfl⟩
  exact hStatus rfl

theorem toldByCode_coversRequests : CoversRequests ToldByCode where
  parameter code hCode message details hDetails := by
    have hDisjoint : ∀ code ∈ requestCodes, code ∉ dynamicSqlCodes := by decide
    exact toldByCode_of_details hDetails (hDisjoint code hCode)
  timeout serviceName := by
    refine toldByCode_of_status (by decide : (504 : Nat) ≠ 422) ?_
    change "external_service_timeout" ∉ dynamicSqlCodes
    decide

/-- A `DynamicSqlError` with one of its codes. -/
def IsPolicyError (e : AppError) : Prop :=
  ∃ code message, code ∈ dynamicSqlCodes ∧ e = dynamicSqlError code message

theorem isPolicyError {code message : String} (h : code ∈ dynamicSqlCodes) :
    IsPolicyError (dynamicSqlError code message) :=
  ⟨code, message, h, rfl⟩

theorem validateSelectTree_raises (tree : Expression) :
    RaisesOnly IsPolicyError (validateSelectTree tree) :=
  (RaisesOnly.raiseIf (isPolicyError (by decide))).bind fun _ =>
    RaisesOnly.raiseIf (isPolicyError (by decide))

/-- The validator raises a `DynamicSqlError` with one of its codes. -/
theorem validate_raises (sql : String) (dialect : Dialect) :
    RaisesOnly IsPolicyError (validate U S sql dialect) := by
  refine (RaisesOnly.raiseIf (isPolicyError (by decide))).bind fun _ => ?_
  refine (RaisesOnly.raiseIf (isPolicyError (by decide))).bind fun _ => ?_
  refine RaisesOnly.bind ?_ fun statements => ?_
  · unfold parseStatements
    split
    · exact .ok _
    · split <;> exact .error (isPolicyError (by decide))
    · exact .error (isPolicyError (by decide))
  refine RaisesOnly.bind ?_ fun expression => ?_
  · unfold singleStatement
    split
    · exact .ok _
    · exact .error (isPolicyError (by decide))
  refine (validateSelectTree_raises expression).bind fun _ => ?_
  refine RaisesOnly.bind ?_ fun reparsed => ?_
  · unfold parseCanonicalSql
    split
    · exact .ok _
    · exact .error (isPolicyError (by decide))
  refine (validateSelectTree_raises reparsed).bind fun _ => ?_
  refine RaisesOnly.bind ?_ fun names => .ok _
  exact (RaisesOnly.raiseIf (isPolicyError (by decide))).bind fun _ => .ok _

/-- The errors of a computation are told by their codes. -/
def Told {α : Type} (x : Except AppError α) : Prop := ∀ e, x = .error e → ToldByCode e

theorem told_raiseIf {condition : Prop} [Decidable condition] {e : AppError}
    (h : ToldByCode e) : Told (raiseIf condition e) :=
  RaisesOnly.raiseIf h

theorem told_validate (sql : String) (dialect : Dialect) :
    Told (validate U S sql dialect) := by
  refine (validate_raises sql dialect).mono ?_
  rintro e ⟨code, message, hCode, rfl⟩
  exact toldByCode_dynamicSqlError hCode

/-- So do the checks of a payload, apart from errors that name parameters. -/
theorem told_validatePayload (payload : DynamicRouteWriteRequest P) :
    Told (validatePayload U S payload) := by
  refine RaisesOnly.bind (told_validate payload.sql payload.dbType) fun validated => ?_
  refine RaisesOnly.bind ?_ fun _ => .ok _
  refine RaisesOnly.bind (told_raiseIf ?_) fun _ => told_raiseIf ?_
  · refine toldByCode_of_details (List.cons_ne_nil _ _) ?_
    change "dynamic_parameter_invalid_name" ∉ dynamicSqlCodes
    decide
  · refine toldByCode_of_details (List.cons_ne_nil _ _) ?_
    change "dynamic_parameter_contract_mismatch" ∉ dynamicSqlCodes
    decide

theorem toldByCode_routeExists : ToldByCode routeExists :=
  toldByCode_of_status (by decide) (by decide)

/-- The application errors among exceptions satisfy `E`. -/
def AppRaised (E : AppError → Prop) (raised : Raised) : Prop := ∀ e, raised = .app e → E e

/-- The application errors of a call of the service are told by their codes. -/
def RaisedTold (raised : Raised) : Prop := ∀ e, raised = .app e → ToldByCode e

/-- The route that a call returns has the prefix and the path of the payload. -/
def Returned (payload : DynamicRouteWriteRequest P) (route : StoredRoute P.Float) : Prop :=
  route.config.routePrefix = payload.routePrefix ∧ route.config.path = payload.path

/-- A property of every error that a create or an update may raise: those of the checks
of the payload, of the lab test, of a missing route and of a route that exists. -/
structure CoversStoring (U : Unicode) (S : Sqlglot) (payload : DynamicRouteWriteRequest P)
    (E : AppError → Prop) : Prop where
  requests : CoversRequests E
  payload : RaisesOnly E (validatePayload U S payload)
  conflict : E routeExists
  notFound : E (notFoundError "Dynamic route")

section Triples

open Effect

variable {α : Type} {E : AppError → Prop}

/-- A step that gives no information about its result. -/
theorem appRaised_checked {x : Except AppError α} (h : RaisesOnly E x) :
    Triple (fun _ : UnitOfWork P.Float => True) (checked x) (fun _ _ => True)
      (fun raised _ => AppRaised E raised) := by
  refine Triple.lift (fun _ _ _ _ => trivial) fun raised _ hRaised _ => ?_
  rintro e rfl
  cases x with
  | ok a => cases hRaised
  | error error =>
      cases hRaised
      exact h e rfl

theorem appRaised_read (f : UnitOfWork P.Float → Except Raised α)
    (h : ∀ uow e, f uow ≠ .error (.app e)) :
    Triple (fun _ : UnitOfWork P.Float => True) (Effect.read f) (fun _ _ => True)
      (fun raised _ => AppRaised E raised) := by
  refine Triple.read (fun _ _ _ _ => trivial) fun raised uow hRaised _ => ?_
  rintro e rfl
  exact absurd hRaised (h uow e)

/-- An exception that is not one of the application says nothing. -/
theorem appRaised_other (className : String) : AppRaised E (.other className) := by
  intro e he
  cases he

/-- The transaction of a create or an update: the lab test, the write and the commit,
with the handler that rolls back. -/
theorem appRaised_transaction {payload : DynamicRouteWriteRequest P}
    {env : CallEnvironment P} {write : Action P.Float (StoredRoute P.Float)}
    {canonicalSql : String} (hE : CoversStoring U S payload E)
    (hWrite : Triple (fun _ : UnitOfWork P.Float => True) write
      (fun route _ => Returned payload route) (fun raised _ => AppRaised E raised)) :
    Triple (fun _ : UnitOfWork P.Float => True)
      (tryCatch (do
        .lift (runLabTestIfRequested U env.clients payload canonicalSql)
        let route ← write
        commit env
        return route) fun raised => do
          rollback
          throw (conflictOfIntegrity raised))
      (fun route _ => Returned payload route) (fun raised _ => AppRaised E raised) := by
  refine rolledBack_triple conflictOfIntegrity
    (Q := fun raised _ => AppRaised E raised) ?_ fun raised _ hRaised => ?_
  · refine Triple.bind (Q := fun _ _ => True) ?_ fun _ => ?_
    · refine Triple.lift (fun _ _ _ _ => trivial) fun raised _ hRaised _ => ?_
      rintro e rfl
      exact runLabTestIfRequested_appErrors hE.requests _ _ _ _ e hRaised
    · refine hWrite.bind fun route => ?_
      refine Triple.bind (Q := fun _ _ => Returned payload route) ?_ fun _ =>
        Triple.pure fun _ h => h
      exact (mayRaise_triple env.commit fun _ _ _ => appRaised_other _).bind fun _ =>
        Triple.modify fun _ h => h
  · unfold conflictOfIntegrity
    split
    · intro e he
      cases he
      exact hE.conflict
    · exact hRaised

theorem appRaised_createRoute {payload : DynamicRouteWriteRequest P}
    (hE : CoversStoring U S payload E) (actor : Nat) (env : CallEnvironment P) :
    Triple (fun _ : UnitOfWork P.Float => True) (createRoute U S J payload actor env)
      (fun route _ => Returned payload route) (fun raised _ => AppRaised E raised) := by
  refine (appRaised_checked hE.payload).bind fun validated => ?_
  refine (appRaised_read _ fun uow e => scalarOneOrNone_ne_app _ e).bind fun existing => ?_
  refine (appRaised_checked (RaisesOnly.raiseIf hE.conflict)).bind fun _ => ?_
  refine appRaised_transaction hE ?_
  refine rowWrite_triple env (insertRow_triple ?_ fun _ _ _ => appRaised_other _)
    (fun _ _ _ => appRaised_other _) fun _ _ _ => appRaised_other _
  exact fun _ _ _ => ⟨rfl, rfl⟩

theorem appRaised_updateRoute (id : Nat) {payload : DynamicRouteWriteRequest P}
    (hE : CoversStoring U S payload E) (actor : Nat) (env : CallEnvironment P) :
    Triple (fun _ : UnitOfWork P.Float => True) (updateRoute U S J id payload actor env)
      (fun route _ => Returned payload route) (fun raised _ => AppRaised E raised) := by
  refine Triple.bind (Q := fun _ _ => True) ?_ fun route => ?_
  · refine (appRaised_read _ fun uow e => scalarOneOrNone_ne_app _ e).bind fun found => ?_
    cases found with
    | none =>
        refine Triple.throw fun _ _ => ?_
        intro e he
        cases he
        exact hE.notFound
    | some route => exact Triple.pure fun _ _ => trivial
  refine (appRaised_checked hE.payload).bind fun validated => ?_
  refine (appRaised_read _ fun uow e => scalarOneOrNone_ne_app _ e).bind fun collision => ?_
  refine (appRaised_checked (RaisesOnly.raiseIf hE.conflict)).bind fun _ => ?_
  refine appRaised_transaction hE ?_
  refine rowWrite_triple env (updateRow_triple ?_ fun _ _ _ => appRaised_other _)
    (fun _ _ _ => appRaised_other _) fun _ _ _ => appRaised_other _
  exact fun _ _ _ => ⟨rfl, rfl⟩

end Triples

/-- The results of a create or an update. -/
theorem appRaised_runCall {E : AppError → Prop} (actor : Actor)
    (request : ManagementRequest P) (hE : CoversStoring U S request.payload E)
    (uow : UnitOfWork P.Float) :
    (∀ route, (runCall U S J (request.call actor) uow).1 = .ok route →
        Returned request.payload route) ∧
      ∀ raised, (runCall U S J (request.call actor) uow).1 = .error raised →
        AppRaised E raised := by
  have hTriple : Effect.Triple (fun _ : UnitOfWork P.Float => True)
      (runCall U S J (request.call actor)) (fun route _ => Returned request.payload route)
      (fun raised _ => AppRaised E raised) := by
    unfold ManagementRequest.call
    cases request.operation with
    | create => exact appRaised_createRoute hE actor.id request.env
    | update id => exact appRaised_updateRoute id hE actor.id request.env
  exact ⟨fun route h => (hTriple uow trivial).1 route _ (Prod.ext h rfl),
    fun raised h => (hTriple uow trivial).2 raised _ (Prod.ext h rfl)⟩

theorem told_coversStoring (payload : DynamicRouteWriteRequest P) :
    CoversStoring U S payload ToldByCode where
  requests := toldByCode_coversRequests
  payload := told_validatePayload payload
  conflict := toldByCode_routeExists
  notFound := toldByCode_of_status (by decide) (by decide)

/-- What a management request results in: the key of the route, or the code of the
error. -/
def outcome {F : Type} : Except Raised (StoredRoute F) → Nat ⊕ String
  | .ok route => .inl route.id
  | .error (.app error) => .inr error.code
  | .error (.other _) => .inr internalServerError.code

/-- The records of a request, from what it is allowed to leave behind. -/
def managementRecords (idText : Nat → String) (actor : Actor) (operation : Operation)
    (routePrefix path : String) : Nat ⊕ String → List (AuditLog P)
  | .inl id => [auditDynamicRouteAction actor operation.action (some (idText id))
      routePrefix path true none]
  | .inr code =>
      if code ∈ dynamicSqlCodes then
        [auditDynamicRouteAction actor operation.action
          (operation.addressed.map idText) routePrefix path false (some code)]
      else []

theorem managementRecords_of_notMem {idText : Nat → String} {actor : Actor}
    {operation : Operation} {routePrefix path code : String}
    (h : code ∉ dynamicSqlCodes) :
    managementRecords (P := P) idText actor operation routePrefix path (.inr code) = [] :=
  if_neg h

theorem told_runCall (actor : Actor) (request : ManagementRequest P)
    (uow : UnitOfWork P.Float) :
    (∀ route, (runCall U S J (request.call actor) uow).1 = .ok route →
        Returned request.payload route) ∧
      ∀ raised, (runCall U S J (request.call actor) uow).1 = .error raised →
        RaisedTold raised :=
  appRaised_runCall actor request (told_coversStoring request.payload) uow

/-- The records depend on the user, the operation, the prefix, the path and the
outcome. -/
theorem records_manageRoute (idText : Nat → String) (base : ApiV1Prefix) (actor : Actor)
    (request : ManagementRequest P) (uow : UnitOfWork P.Float) :
    (manageRoute U S J idText base actor request uow).2 =
      managementRecords idText actor request.operation request.payload.routePrefix
        request.payload.path
        (outcome (manageRoute U S J idText base actor request uow).1) := by
  obtain ⟨hReturned, hRaised⟩ := told_runCall (U := U) (S := S) (J := J) actor request uow
  unfold manageRoute
  dsimp only
  split
  · -- no record, and the code is not one of a `DynamicSqlError`
    rename_i error hCollision
    have hCode : error.code ∉ dynamicSqlCodes := by
      rw [rejectStaticGetCollision, raiseIf] at hCollision
      split at hCollision
      · cases hCollision
        change "dynamic_route_path_conflict" ∉ dynamicSqlCodes
        decide
      · cases hCollision
    exact (managementRecords_of_notMem hCode).symm
  · split
    · rename_i route hRoute
      obtain ⟨hFront, hPath⟩ := hReturned route hRoute
      rw [hFront, hPath]
      rfl
    · -- the handler looks at the class of the error, the outcome holds its code
      rename_i error hError
      have hTold := hRaised _ hError error rfl
      change (if IsDynamicSqlError error then _ else _) =
        if error.code ∈ dynamicSqlCodes then _ else _
      exact if_congr hTold rfl rfl
    · exact (managementRecords_of_notMem (by decide)).symm

/-- Two records that are equal but for some of the parameters. -/
structure SameExcept (keys : List String) (record record' : AuditLog P) : Prop where
  userId : record.userId = record'.userId
  username : record.username = record'.username
  apiRoute : record.apiRoute = record'.apiRoute
  parameters : ∀ key ∉ keys, record.parameters.get? key = record'.parameters.get? key
  allowed : record.allowed = record'.allowed
  errorMessage : record.errorMessage = record'.errorMessage
  timeProcessMs : record.timeProcessMs = record'.timeProcessMs

theorem sameExcept_auditDynamicRouteAction (actor : Actor) (action action' : String)
    (routeId routeId' : Option String) (routePrefix path : String) (allowed : Bool)
    (errorCode : Option String) :
    SameExcept (P := P) ["action", "route_id"]
      (auditDynamicRouteAction actor action routeId routePrefix path allowed errorCode)
      (auditDynamicRouteAction actor action' routeId' routePrefix path allowed
        errorCode) := by
  refine ⟨rfl, rfl, rfl, fun key hKey => ?_, rfl, rfl, rfl⟩
  simp only [List.mem_cons, List.not_mem_nil, or_false, not_or] at hKey
  cases errorCode with
  | none =>
      simp only [auditDynamicRouteAction, Dict.get?_set, if_neg hKey.1, if_neg hKey.2]
  | some code =>
      simp only [auditDynamicRouteAction, Dict.get?_set, if_neg hKey.1, if_neg hKey.2]

theorem sameExcept_managementRecords (idText : Nat → String) (actor : Actor)
    (operation operation' : Operation) (routePrefix path : String)
    (result : Nat ⊕ String) :
    List.Forall₂ (SameExcept (P := P) ["action", "route_id"])
      (managementRecords idText actor operation routePrefix path result)
      (managementRecords idText actor operation' routePrefix path result) := by
  cases result with
  | inl id =>
      exact .cons (sameExcept_auditDynamicRouteAction _ _ _ _ _ _ _ _ _) .nil
  | inr code =>
      rw [managementRecords, managementRecords]
      split
      · exact .cons (sameExcept_auditDynamicRouteAction _ _ _ _ _ _ _ _ _) .nil
      · exact .nil

/-- The records of two executions with the same names are equal up to the missing
mappings. -/
theorem sameExcept_executionAudit {parseQuery : List Char → List (String × String)}
    {actor : Actor} {routePrefix path : String} {r r' : HttpRequest}
    (hNames : SameNames parseQuery r r') {missing missing' : List (MissingPiiMapping P)}
    {record record' : AuditLog P}
    (h : record ∈ executionAudit parseQuery actor routePrefix path r missing)
    (h' : record' ∈ executionAudit parseQuery actor routePrefix path r' missing') :
    SameExcept ["missing_mappings"] record record' := by
  unfold executionAudit at h h'
  split at h
  · cases h
  · split at h'
    · cases h'
    · -- each request has left one record
      cases List.mem_singleton.mp h
      cases List.mem_singleton.mp h'
      refine ⟨rfl, rfl, rfl, fun key hKey => ?_, rfl, rfl, rfl⟩
      have hKey : key ≠ "missing_mappings" := fun hEq => hKey (hEq ▸ List.mem_singleton_self _)
      simp only [auditMissingMappings]
      rw [Dict.get?_set_of_ne _ _ hKey, Dict.get?_set_of_ne _ _ hKey, hNames.namesOnly_eq]

/-- No record depends on values: those of the permission check and of an execution
depend on the path and on the names of the parameters, those of the management on the
operation, the prefix and path, and the outcome; a refused update also names the route
it was addressed to. -/
theorem audits_without_values (U : Unicode) (S : Sqlglot) (J : JsonFormat P)
    (parseQuery : List Char → List (String × String)) (checkNetloc : List Char → Bool)
    (base : ApiV1Prefix) (idText : Nat → String) (actor : Actor) :
    (∀ (r r' : HttpRequest) (m m' : RouteMatch), Executes base r m → Executes base r' m' →
      r.toRequest.urlPath checkNetloc = r'.toRequest.urlPath checkNetloc →
      SameNames parseQuery r r' →
      (∀ elapsed elapsed',
        (auditedPermission (P := P) parseQuery checkNetloc base actor r m.route
            elapsed).1.map AuditLog.untimed =
          (auditedPermission parseQuery checkNetloc base actor r' m'.route
            elapsed').1.map AuditLog.untimed) ∧
      ∀ routePrefix path missing missing',
        ∀ record ∈ executionAudit (P := P) parseQuery actor routePrefix path r missing,
          ∀ record' ∈ executionAudit parseQuery actor routePrefix path r' missing',
            SameExcept ["missing_mappings"] record record') ∧
      ∀ (q q' : ManagementRequest P) (uow uow' : UnitOfWork P.Float),
        q.payload.routePrefix = q'.payload.routePrefix → q.payload.path = q'.payload.path →
        outcome (manageRoute U S J idText base actor q uow).1 =
          outcome (manageRoute U S J idText base actor q' uow').1 →
        List.Forall₂ (SameExcept ["action", "route_id"])
            (manageRoute U S J idText base actor q uow).2
            (manageRoute U S J idText base actor q' uow').2 ∧
          (q.operation.action = q'.operation.action →
            q.operation.addressed = q'.operation.addressed ∨
              (∃ id, outcome (manageRoute U S J idText base actor q uow).1 = .inl id) →
            (manageRoute U S J idText base actor q uow).2 =
              (manageRoute U S J idText base actor q' uow').2) := by
  refine ⟨fun r r' m m' hr hr' hPath hNames => ⟨fun elapsed elapsed' => ?_, ?_⟩, ?_⟩
  · rw [← HttpRequest.urlPath_eq, ← HttpRequest.urlPath_eq] at hPath
    exact untimed_auditedPermission actor hr hr' hPath hNames elapsed elapsed'
  · intro routePrefix path missing missing' record hRecord record' hRecord'
    exact sameExcept_executionAudit hNames hRecord hRecord'
  · intro q q' uow uow' hFront hPath hOutcome
    rw [records_manageRoute idText base actor q uow,
      records_manageRoute idText base actor q' uow', ← hOutcome, hFront, hPath]
    refine ⟨sameExcept_managementRecords idText actor _ _ _ _ _, fun hAction hId => ?_⟩
    rcases hId with hAddressed | ⟨id, hId⟩
    · generalize outcome _ = result
      cases result with
      | inl id => rw [managementRecords, managementRecords, hAction]
      | inr code => rw [managementRecords, managementRecords, hAction, hAddressed]
    · rw [hId, managementRecords, managementRecords, hAction]

/-- An administrator. -/
def admin : Actor where
  id := 1
  user := ⟨"admin".toList, .admin, by decide, by decide, by decide⟩

/-- The fields of `alice/report` with a blank statement. -/
def blankFields : WriteFields Scalars.plain where
  routePrefix := "alice"
  path := "report"
  sql := " "

theorem blankFields_ok : FieldsOk blankFields := by
  decide

theorem blankFields_lower : IsLower blankFields.routePrefix := by
  simp [IsLower, blankFields]

/-- The payload of `alice/report` with a blank statement. -/
def blankReport : DynamicRouteWriteRequest Scalars.plain where
  toWriteFields := blankFields
  ok := blankFields_ok
  lower := blankFields_lower

/-- The row of a route `alice/report`, or of one under another path. -/
def storedReport (id : Nat) (path : String) : StoredRoute Scalars.plain.Float where
  config := { RouteConfig.ofPayload .plain blankReport "SELECT 1" with path := path }
  updatedBy := 1
  id := id
  createdBy := 1

/-- A table with two routes. -/
def twoRoutes : UnitOfWork Scalars.plain.Float where
  committed := [storedReport 7 "report", storedReport 8 "other"]
  working := [storedReport 7 "report", storedReport 8 "other"]

/-- A `PUT` of the blank payload to a route. -/
def blankUpdate (id : Nat) : ManagementRequest Scalars.plain where
  operation := .update id
  payload := blankReport
  env := ⟨9, emptyClients, none, none, none⟩

/-- What an administrator gets for it, and the records. -/
def blankResult (id : Nat) :=
  manageRoute .ascii (oneText "SELECT 1" selectOne) .plain Nat.repr .default admin
    (blankUpdate id) twoRoutes

/-- The text of the `route_id` of a record. -/
def routeIdText {P : Scalars} (record : AuditLog P) : List Char :=
  match record.parameters.get? "route_id" with
  | some (.text id) => id
  | _ => []

/-- Two refused updates with one prefix, path and error code leave different records if
they were addressed to different routes. -/
theorem refused_updates_differ :
    (blankUpdate 7).payload = (blankUpdate 8).payload ∧
      outcome (blankResult 7).1 = .inr "dynamic_sql_empty" ∧
      outcome (blankResult 8).1 = .inr "dynamic_sql_empty" ∧
      (blankResult 7).2 ≠ (blankResult 8).2 := by
  refine ⟨rfl, rfl, rfl, fun hSame => ?_⟩
  have hIds : (blankResult 7).2.map routeIdText = ["7".toList] := by decide
  rw [hSame] at hIds
  exact absurd hIds (by decide)

/-- A request for `alice/report` with a query string. -/
def reportRequest (query : String) : HttpRequest where
  method := .get
  scheme := .http
  host := "example.com".toList
  path := "/api/v1/alice/report".toList
  query := query.toList

/-- Names and values, for query strings of one letter each. -/
def parseLetters : List Char → List (String × String)
  | [name, '=', value] => [(String.ofList [name], String.ofList [value])]
  | _ => []

theorem audits_without_values_report :
    (auditedPermission (P := .plain) parseLetters (fun _ => true) .default admin
        (reportRequest "a=1") Api.executeRoute 3).1.map AuditLog.untimed =
      (auditedPermission parseLetters (fun _ => true) .default admin
        (reportRequest "a=2") Api.executeRoute 5).1.map AuditLog.untimed ∧
    (blankResult 7).2 = (manageRoute .ascii (oneText "SELECT 1" selectOne) .plain Nat.repr
      .default admin { blankUpdate 7 with env := ⟨5, emptyClients, none, none, none⟩ }
      twoRoutes).2 := by
  obtain ⟨hAccess, hManagement⟩ := audits_without_values .ascii
    (oneText "SELECT 1" selectOne) .plain parseLetters (fun _ => true) .default Nat.repr
    admin
  have hDispatch : appDispatch .default .get "/api/v1/alice/report".toList =
      some (.api ⟨Api.executeRoute, ["alice".toList, "report".toList],
        "/api/v1/alice/report".toList⟩) := by
    decide
  have hExecutes : ∀ query, Executes .default (reportRequest query)
      ⟨Api.executeRoute, ["alice".toList, "report".toList],
        "/api/v1/alice/report".toList⟩ := fun query => ⟨rfl, hDispatch, rfl⟩
  have hKeys : (parseLetters (reportRequest "a=1").query).map Prod.fst =
      (parseLetters (reportRequest "a=2").query).map Prod.fst := by decide
  have hNames : SameNames parseLetters (reportRequest "a=1") (reportRequest "a=2") := by
    intro name
    rw [hKeys]
  exact ⟨(hAccess _ _ _ _ (hExecutes "a=1") (hExecutes "a=2") rfl hNames).1 3 5,
    (hManagement (blankUpdate 7) _ twoRoutes twoRoutes rfl rfl rfl).2 rfl (.inl rfl)⟩

end Management

end Api
end DataApi
