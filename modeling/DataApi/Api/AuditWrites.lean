import DataApi.Api.AuditRecords

/-!
# Writing the audit records

A management endpoint lets the service commit the change of a route, and commits the
record of it afterwards, in the same session.  `audit_logs` has columns of a fixed
length, and PostgreSQL refuses a row with a longer text: then the record is missing, the
request fails, and the change of the route stays.
-/

namespace DataApi
namespace Api

open Library QueryEngine Schemas

section Writes

variable {P : Scalars}

/-- The texts of a record fit their columns, `String(50)` and `String(500)`. -/
structure AuditLog.Fits (record : AuditLog P) : Prop where
  username : record.username.length ≤ 50
  apiRoute : record.apiRoute.length ≤ 500

instance (record : AuditLog P) : Decidable record.Fits :=
  decidable_of_iff (record.username.length ≤ 50 ∧ record.apiRoute.length ≤ 500)
    ⟨fun h => ⟨h.1, h.2⟩, fun h => ⟨h.username, h.apiRoute⟩⟩

/-- The session on the routes, and the committed rows of `audit_logs`. -/
structure AuditedStore (P : Scalars) where
  routes : UnitOfWork P.Float
  auditLogs : List (AuditLog P)

/-- `audit_logs.create(record)` and `uow.commit()`: the session is the one of the
service. -/
def writeAudit (record : AuditLog P) : Effect (AuditedStore P) Raised Unit := fun store =>
  if record.Fits then
    (.ok (), { routes := { store.routes with committed := store.routes.working }
               auditLogs := store.auditLogs ++ [record] })
  else (.error (.other "DBAPIError"), store)

/-- A call of the service. -/
def onRoutes {α : Type} (action : Action P.Float α) : Effect (AuditedStore P) Raised α :=
  fun store =>
    ((action store.routes).1, { store with routes := (action store.routes).2 })

/-- The record of an operation that was carried out. -/
def storedRecord (idText : Nat → String) (actor : Actor) (action : String)
    (route : StoredRoute P.Float) : AuditLog P :=
  auditDynamicRouteAction actor action (some (idText route.id)) route.config.routePrefix
    route.config.path true none

/-- The record of an operation that the handler of `DynamicSqlError` has caught. -/
def refusedRecord (idText : Nat → String) (actor : Actor) (request : ManagementRequest P)
    (code : String) : AuditLog P :=
  auditDynamicRouteAction actor request.operation.action
    (request.operation.addressed.map idText) request.payload.routePrefix
    request.payload.path false (some code)

variable (U : Unicode) (S : Sqlglot) (J : JsonFormat P) (idText : Nat → String)
  (base : ApiV1Prefix) (actor : Actor)

/-- The handler of the two endpoints that store a route. -/
def refuse (request : ManagementRequest P) (raised : Raised) :
    Effect (AuditedStore P) Raised (StoredRoute P.Float) :=
  match raised with
  | .other className => throw (.other className)
  | .app error =>
      if IsDynamicSqlError error then do
        writeAudit (refusedRecord idText actor request error.code)
        throw (.app error)
      else throw (.app error)

/-- `create_dynamic_route` and `update_dynamic_route`, with their commits. -/
def storeDynamicRoute (request : ManagementRequest P) :
    Effect (AuditedStore P) Raised (StoredRoute P.Float) := do
  .lift ((rejectStaticGetCollision base request.payload.routePrefix
    request.payload.path).mapError .app)
  let route ← tryCatch (onRoutes (runCall U S J (request.call actor)))
    (refuse idText actor request)
  writeAudit (storedRecord idText actor request.operation.action route)
  return route

/-- `create_dynamic_route`. -/
def createDynamicRoute (payload : DynamicRouteWriteRequest P) (env : CallEnvironment P) :
    Effect (AuditedStore P) Raised (StoredRoute P.Float) :=
  storeDynamicRoute U S J idText base actor ⟨.create, payload, env⟩

/-- `update_dynamic_route`. -/
def updateDynamicRoute (id : Nat) (payload : DynamicRouteWriteRequest P)
    (env : CallEnvironment P) : Effect (AuditedStore P) Raised (StoredRoute P.Float) :=
  storeDynamicRoute U S J idText base actor ⟨.update id, payload, env⟩

/-- `delete_dynamic_route`. -/
def deleteDynamicRoute (id : Nat) (env : CallEnvironment P) :
    Effect (AuditedStore P) Raised Unit := do
  let route ← onRoutes (deleteRoute id env)
  writeAudit (storedRecord idText actor "delete" route)

end Writes

/-! ### What the endpoints write -/

section Outcomes

variable {P : Scalars} {U : Unicode} {S : Sqlglot} {J : JsonFormat P}
  {idText : Nat → String} {base : ApiV1Prefix} {actor : Actor}
  {request : ManagementRequest P} {store : AuditedStore P}

/-- The store with a record, whose commit publishes the session. -/
def AuditedStore.recorded (store : AuditedStore P) (routes : UnitOfWork P.Float)
    (record : AuditLog P) : AuditedStore P where
  routes := { routes with committed := routes.working }
  auditLogs := store.auditLogs ++ [record]

theorem ne_append_record (auditLogs : List (AuditLog P)) (record : AuditLog P) :
    auditLogs ≠ auditLogs ++ [record] := fun h =>
  List.cons_ne_nil record [] (List.self_eq_append_right.mp h)

/-- The request passes the check for collisions, so the service is called. -/
def ReachesService (base : ApiV1Prefix) (request : ManagementRequest P) : Prop :=
  rejectStaticGetCollision base request.payload.routePrefix request.payload.path = .ok ()

/-- A call of the service, in the session of the endpoint. -/
theorem onRoutes_of_eq {α : Type} {action : Action P.Float α} {result : Except Raised α}
    {routes : UnitOfWork P.Float} (h : action store.routes = (result, routes)) :
    onRoutes action store = (result, { store with routes := routes }) := by
  rw [onRoutes, h]

/-- A record that does not fit is an error behind what was committed already. -/
theorem writeAudit_eq (record : AuditLog P) (store : AuditedStore P) :
    writeAudit record store =
      if record.Fits then (.ok (), store.recorded store.routes record)
      else (.error (.other "DBAPIError"), store) := by
  rfl

/-- Behind the check for collisions the endpoint is its `try` and the record. -/
theorem storeDynamicRoute_of_reaches (hReaches : ReachesService base request) :
    storeDynamicRoute U S J idText base actor request store =
      (do
        let route ← tryCatch (onRoutes (runCall U S J (request.call actor)))
          (refuse idText actor request)
        writeAudit (storedRecord idText actor request.operation.action route)
        return route : Effect (AuditedStore P) Raised (StoredRoute P.Float)) store := by
  unfold storeDynamicRoute
  rw [ReachesService] at hReaches
  rw [hReaches]
  rfl

/-- A collision is raised in front of everything else. -/
theorem storeDynamicRoute_of_collision {error : AppError}
    (hCollision : rejectStaticGetCollision base request.payload.routePrefix
      request.payload.path = .error error) :
    storeDynamicRoute U S J idText base actor request store =
      (.error (.app error), store) := by
  unfold storeDynamicRoute
  rw [hCollision]
  rfl

/-- The change of a route is committed before its record is written. -/
theorem storeDynamicRoute_of_ok (store : AuditedStore P)
    (hReaches : ReachesService base request)
    {route : StoredRoute P.Float} {routes : UnitOfWork P.Float}
    (h : runCall U S J (request.call actor) store.routes = (.ok route, routes)) :
    storeDynamicRoute U S J idText base actor request store =
      if (storedRecord idText actor request.operation.action route).Fits then
        (.ok route, store.recorded routes
          (storedRecord idText actor request.operation.action route))
      else (.error (.other "DBAPIError"), { store with routes := routes }) := by
  rw [storeDynamicRoute_of_reaches hReaches,
    Effect.bind_of_ok (Effect.tryCatch_of_ok (onRoutes_of_eq h))]
  split
  · rename_i hFits
    exact Effect.bind_of_ok ((writeAudit_eq _ _).trans (if_pos hFits))
  · rename_i hLong
    exact Effect.bind_of_error ((writeAudit_eq _ _).trans (if_neg hLong))

/-- A `DynamicSqlError` is recorded and raised again. -/
theorem storeDynamicRoute_of_dynamicSqlError (store : AuditedStore P)
    (hReaches : ReachesService base request)
    {error : AppError} (hClass : IsDynamicSqlError error) {routes : UnitOfWork P.Float}
    (h : runCall U S J (request.call actor) store.routes = (.error (.app error), routes)) :
    storeDynamicRoute U S J idText base actor request store =
      if (refusedRecord idText actor request error.code).Fits then
        (.error (.app error), store.recorded routes
          (refusedRecord idText actor request error.code))
      else (.error (.other "DBAPIError"), { store with routes := routes }) := by
  have hHandler : refuse idText actor request (.app error) { store with routes := routes } =
      (do
        writeAudit (refusedRecord idText actor request error.code)
        throw (.app error) : Effect (AuditedStore P) Raised (StoredRoute P.Float))
        { store with routes := routes } := by
    rw [refuse, if_pos hClass]
  rw [storeDynamicRoute_of_reaches hReaches]
  split
  · rename_i hFits
    refine Effect.bind_of_error
      ((Effect.tryCatch_of_error (onRoutes_of_eq h)).trans (hHandler.trans ?_))
    exact Effect.bind_of_ok ((writeAudit_eq _ _).trans (if_pos hFits))
  · rename_i hLong
    refine Effect.bind_of_error
      ((Effect.tryCatch_of_error (onRoutes_of_eq h)).trans (hHandler.trans ?_))
    exact Effect.bind_of_error ((writeAudit_eq _ _).trans (if_neg hLong))

/-- Any other exception passes the handler, and nothing is recorded. -/
theorem storeDynamicRoute_of_raised (store : AuditedStore P)
    (hReaches : ReachesService base request)
    {raised : Raised} (hClass : ∀ error, raised = .app error → ¬ IsDynamicSqlError error)
    {routes : UnitOfWork P.Float}
    (h : runCall U S J (request.call actor) store.routes = (.error raised, routes)) :
    storeDynamicRoute U S J idText base actor request store =
      (.error raised, { store with routes := routes }) := by
  have hHandler : refuse (P := P) idText actor request raised = throw raised := by
    cases raised with
    | app error => rw [refuse, if_neg (hClass error rfl)]
    | other className => rfl
  rw [storeDynamicRoute_of_reaches hReaches]
  refine Effect.bind_of_error ((Effect.tryCatch_of_error (onRoutes_of_eq h)).trans ?_)
  rw [hHandler]
  rfl

/-! ### Which records fit -/

theorem length_labelText : "dynamic-route:".toList.length = 14 := by
  decide

theorem length_dynamicRouteName (routePrefix path : String) :
    (dynamicRouteName routePrefix path).length =
      15 + (routePrefix.length + path.length) := by
  have hAppend : ∀ label front back : List Char,
      (label ++ front ++ '/' :: back).length = label.length + 1 + (front.length + back.length) := by
    intro label front back
    rw [List.length_append, List.length_append, List.length_cons]
    omega
  calc
    (dynamicRouteName routePrefix path).length
        = "dynamic-route:".toList.length + 1 +
            (routePrefix.toList.length + path.toList.length) := hAppend _ _ _
    _ = 14 + 1 + (routePrefix.toList.length + path.toList.length) :=
        congrArg (· + 1 + (routePrefix.toList.length + path.toList.length)) length_labelText
    _ = 15 + (routePrefix.length + path.length) := by
        rw [String.length_toList, String.length_toList]

/-- The label is 15 characters longer than the prefix and the path. -/
theorem fits_auditDynamicRouteAction (actor : Actor) (action : String)
    (routeId : Option String) (routePrefix path : String) (allowed : Bool)
    (errorCode : Option String) :
    (auditDynamicRouteAction (P := P) actor action routeId routePrefix path allowed
        errorCode).Fits ↔ routePrefix.length + path.length ≤ 485 := by
  have hLength := length_dynamicRouteName routePrefix path
  constructor
  · intro hFits
    have hRoute : (dynamicRouteName routePrefix path).length ≤ 500 := hFits.apiRoute
    omega
  · intro hShort
    exact ⟨actor.user.length_le, (by omega : (dynamicRouteName routePrefix path).length ≤ 500)⟩

theorem fits_storedRecord {action : String} {route : StoredRoute P.Float} :
    (storedRecord idText actor action route).Fits ↔
      route.config.routePrefix.length + route.config.path.length ≤ 485 :=
  fits_auditDynamicRouteAction _ _ _ _ _ _ _

theorem fits_refusedRecord {code : String} :
    (refusedRecord idText actor request code).Fits ↔
      request.payload.routePrefix.length + request.payload.path.length ≤ 485 :=
  fits_auditDynamicRouteAction _ _ _ _ _ _ _

/-- While the records fit, the result of the endpoint is the one of `manageRoute`, and
its records are committed. -/
theorem storeDynamicRoute_eq_manageRoute
    (hShort : request.payload.routePrefix.length + request.payload.path.length ≤ 485) :
    (storeDynamicRoute U S J idText base actor request store).1 =
        (manageRoute U S J idText base actor request store.routes).1 ∧
      (storeDynamicRoute U S J idText base actor request store).2.auditLogs =
        store.auditLogs ++ (manageRoute U S J idText base actor request store.routes).2 := by
  obtain ⟨hReturned, -⟩ := told_runCall (U := U) (S := S) (J := J) actor request store.routes
  rw [manageRoute]
  cases hReaches : rejectStaticGetCollision base request.payload.routePrefix
      request.payload.path with
  | error error =>
      rw [storeDynamicRoute_of_collision hReaches]
      exact ⟨rfl, (List.append_nil _).symm⟩
  | ok u =>
      cases hCall : runCall U S J (request.call actor) store.routes with
      | mk result routes =>
          rw [hCall] at hReturned
          cases result with
          | ok route =>
              obtain ⟨hPrefix, hPath⟩ := hReturned route rfl
              rw [storeDynamicRoute_of_ok store hReaches hCall,
                if_pos (fits_storedRecord.mpr (by rw [hPrefix, hPath]; exact hShort))]
              exact ⟨rfl, rfl⟩
          | error raised =>
              cases raised with
              | app error =>
                  by_cases hClass : IsDynamicSqlError error
                  · rw [storeDynamicRoute_of_dynamicSqlError store hReaches hClass hCall,
                      if_pos (fits_refusedRecord.mpr hShort)]
                    exact ⟨rfl, congrArg (store.auditLogs ++ ·) (if_pos hClass).symm⟩
                  · rw [storeDynamicRoute_of_raised store hReaches
                      (fun _ hSame => by cases hSame; exact hClass) hCall]
                    refine ⟨rfl, (List.append_nil _).symm.trans ?_⟩
                    exact congrArg (store.auditLogs ++ ·) (if_neg hClass).symm
              | other className =>
                  have hClass : ∀ error, Raised.other className = .app error →
                      ¬ IsDynamicSqlError error := fun error hSame => by cases hSame
                  rw [storeDynamicRoute_of_raised store hReaches hClass hCall]
                  exact ⟨rfl, (List.append_nil _).symm⟩

end Outcomes

end Api
end DataApi
