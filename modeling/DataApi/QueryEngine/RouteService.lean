import DataApi.Library.Effect
import DataApi.Library.TransitionSystem
import DataApi.QueryEngine.BoundStatement
import DataApi.QueryEngine.PiiMapper
import DataApi.QueryEngine.RouteConfig

/-!
# Creating, updating and deleting routes

The three write operations of `DynamicRouteService` on a session: what has been
flushed is visible in the session, a commit publishes it, a rollback discards
it.  Every step that talks to a database or to a query engine may raise.
-/

namespace DataApi
namespace QueryEngine

open Library Schemas

/-- `DynamicRoute`. -/
structure StoredRoute (F : Type) extends RouteRow F where
  id : Nat
  createdBy : Nat

/-- The columns of the unique constraint. -/
def StoredRoute.key {F : Type} (route : StoredRoute F) : String × String :=
  (route.config.routePrefix, route.config.path)

/-- The committed rows of the table, and the rows as the session sees them. -/
structure UnitOfWork (F : Type) where
  committed : List (StoredRoute F)
  working : List (StoredRoute F)

/-- What a query client raises. -/
inductive ClientError where
  | timeout
  | other (className : String)

/-- The exception of a client. -/
def ClientError.raised : ClientError → Raised
  | .timeout => .app (externalServiceTimeoutError "Trino query")
  | .other className => .other className

/-- The queries of a client; they only read. -/
def Client (P : Scalars) : Type :=
  TextClause → Dict String (PyValue P) → Except ClientError (List (Row P))

/-- The clients of the service; the one for PostgreSQL may be missing. -/
structure Clients (P : Scalars) where
  trino : Client P
  postgres : Option (Client P)

/-- What the surroundings decide in one call: the id that is generated, the
answers of the clients, and the exceptions of the database. -/
structure CallEnvironment (P : Scalars) where
  newId : Nat
  clients : Clients P
  flush : Option String := none
  refresh : Option String := none
  commit : Option String := none

/-- `_client_for`. -/
def clientFor {P : Scalars} (clients : Clients P) (dbType : Dialect) :
    Except Raised (Client P) :=
  match dbType, clients.postgres with
  | .trino, _ => .ok clients.trino
  | .postgres, some client => .ok client
  | .postgres, none => .error (.other "RuntimeError")

/-- `client.execute(statement, parameters)`. -/
def Client.execute {P : Scalars} (client : Client P) (statement : TextClause)
    (parameters : Dict String (PyValue P)) : Except Raised (List (Row P)) :=
  (client statement parameters).mapError ClientError.raised

/-- `_run_lab_test_if_requested`. -/
def runLabTestIfRequested {P : Scalars} (U : Unicode) (clients : Clients P)
    (payload : DynamicRouteWriteRequest P) (canonicalSql : String) :
    Except Raised Unit :=
  if payload.labTest then do
    let parameters ← castParameterValues payload.params (.mapping payload.labTestParams)
    let statement ← buildBoundStatement U canonicalSql payload.params
    let client ← clientFor clients payload.dbType
    let _ ← client.execute statement parameters
    return ()
  else .ok ()

/-- `scalar_one_or_none`. -/
def scalarOneOrNone {α : Type} : List α → Except Raised (Option α)
  | [] => .ok none
  | [a] => .ok (some a)
  | _ => .error (.other "MultipleResultsFound")

theorem mem_of_scalarOneOrNone {α : Type} {rows : List α} {found : Option α}
    (h : scalarOneOrNone rows = .ok found) {row : α} (hRow : row ∈ found) :
    row ∈ rows := by
  unfold scalarOneOrNone at h
  split at h
  · cases h
    cases hRow
  · cases h
    exact List.mem_singleton.mpr (Option.some.inj hRow).symm
  · cases h

theorem scalarOneOrNone_ne_app {α : Type} (rows : List α) (e : AppError) :
    scalarOneOrNone rows ≠ .error (.app e) := by
  unfold scalarOneOrNone
  split <;> exact nofun

/-- Computations on a session. -/
abbrev Action (F : Type) := Effect (UnitOfWork F) Raised

section Repository

variable {F : Type}

/-- An application error of a check. -/
def checked {α : Type} (x : Except AppError α) : Action F α :=
  .lift (x.mapError Raised.app)

/-- An exception of the surroundings, if they raise one. -/
def mayRaise (exception : Option String) : Action F Unit :=
  .lift (match exception with
    | none => .ok ()
    | some className => .error (.other className))

/-- `get_by_id`. -/
def getById (id : Nat) : Action F (Option (StoredRoute F)) :=
  .read fun uow => scalarOneOrNone (uow.working.filter fun route => route.id = id)

/-- `get_by_route`. -/
def getByRoute (routePrefix path : String) : Action F (Option (StoredRoute F)) :=
  .read fun uow => scalarOneOrNone
    (uow.working.filter fun route => route.key = (routePrefix, path))

/-- An `INSERT`, under the primary key and the unique constraint. -/
def insertRow (route : StoredRoute F) : Action F Unit := fun uow =>
  if ∃ other ∈ uow.working, other.id = route.id ∨ other.key = route.key then
    (.error (.other "IntegrityError"), uow)
  else (.ok (), { uow with working := uow.working ++ [route] })

/-- An `UPDATE` of the row with the id of `route`, under the unique constraint. -/
def updateRow (route : StoredRoute F) : Action F Unit := fun uow =>
  if ∃ other ∈ uow.working, other.id ≠ route.id ∧ other.key = route.key then
    (.error (.other "IntegrityError"), uow)
  else
    (.ok (), { uow with
      working := uow.working.map fun other =>
        if other.id = route.id then route else other })

/-- A `DELETE`. -/
def deleteRow (route : StoredRoute F) : Action F Unit :=
  .modify fun uow =>
    { uow with working := uow.working.filter fun other => other.id ≠ route.id }

/-- `uow.rollback()`. -/
def rollback : Action F Unit := .modify fun uow => { uow with working := uow.committed }

variable {P : Scalars} (env : CallEnvironment P)

/-- `routes.create(route)`: flush and refresh. -/
def createRow (route : StoredRoute F) : Action F (StoredRoute F) := do
  mayRaise env.flush
  insertRow route
  mayRaise env.refresh
  return route

/-- `routes.update(route)`: flush and refresh. -/
def saveRow (route : StoredRoute F) : Action F (StoredRoute F) := do
  mayRaise env.flush
  updateRow route
  mayRaise env.refresh
  return route

/-- `routes.delete(route)`: delete and flush. -/
def eraseRow (route : StoredRoute F) : Action F Unit := do
  deleteRow route
  mayRaise env.flush

/-- `uow.commit()`. -/
def commit : Action F Unit := do
  mayRaise env.commit
  .modify fun uow => { uow with committed := uow.working }

end Repository

/-- The conflict of a route that exists already. -/
def routeExists : AppError := conflictError "Dynamic route already exists"
  "dynamic_route_exists"

/-- The handler of `IntegrityError`; other exceptions are raised again. -/
def conflictOfIntegrity (raised : Raised) : Raised :=
  if raised = .other "IntegrityError" then .app routeExists else raised

section Service

variable {P : Scalars} (U : Unicode) (S : Sqlglot) (J : JsonFormat P)

/-- `create_route`. -/
def createRoute (payload : DynamicRouteWriteRequest P) (actor : Nat)
    (env : CallEnvironment P) : Action P.Float (StoredRoute P.Float) := do
  let validated ← checked (validatePayload U S payload)
  let existing ← getByRoute payload.routePrefix payload.path
  checked (raiseIf (existing.isSome = true) routeExists)
  tryCatch (do
    .lift (runLabTestIfRequested U env.clients payload validated.canonicalSql)
    let created ← createRow env
      { config := .ofPayload J payload validated.canonicalSql, updatedBy := actor
        id := env.newId, createdBy := actor }
    commit env
    return created) fun raised => do
      rollback
      throw (conflictOfIntegrity raised)

/-- `get_route`. -/
def getRoute {F : Type} (id : Nat) : Action F (StoredRoute F) := do
  let route ← getById id
  match route with
  | none => throw (.app (notFoundError "Dynamic route"))
  | some route => return route

/-- `update_route`. -/
def updateRoute (id : Nat) (payload : DynamicRouteWriteRequest P) (actor : Nat)
    (env : CallEnvironment P) : Action P.Float (StoredRoute P.Float) := do
  let route ← getRoute id
  let validated ← checked (validatePayload U S payload)
  let collision ← getByRoute payload.routePrefix payload.path
  checked (raiseIf (∃ other ∈ collision, other.id ≠ route.id) routeExists)
  tryCatch (do
    .lift (runLabTestIfRequested U env.clients payload validated.canonicalSql)
    let updated ← saveRow env
      { route with
        config := .ofPayload J payload validated.canonicalSql, updatedBy := actor }
    commit env
    return updated) fun raised => do
      rollback
      throw (conflictOfIntegrity raised)

/-- `delete_route`. -/
def deleteRoute {F : Type} (id : Nat) (env : CallEnvironment P) :
    Action F (StoredRoute F) := do
  let route ← getRoute id
  tryCatch (do
    eraseRow env route
    commit env
    return route) fun raised => do
      rollback
      throw raised

/-- A call of a write operation. -/
inductive RouteCall (P : Scalars) where
  | create (payload : DynamicRouteWriteRequest P) (actor : Nat)
      (env : CallEnvironment P)
  | update (id : Nat) (payload : DynamicRouteWriteRequest P) (actor : Nat)
      (env : CallEnvironment P)
  | delete (id : Nat) (env : CallEnvironment P)

/-- Run a call. -/
def runCall : RouteCall P → Action P.Float (StoredRoute P.Float)
  | .create payload actor env => createRoute U S J payload actor env
  | .update id payload actor env => updateRoute U S J id payload actor env
  | .delete id env => deleteRoute id env

/-- The sequences of calls that start with the empty table. -/
def routeStore : TransitionSystem (UnitOfWork P.Float) (RouteCall P) where
  start uow := uow = ⟨[], []⟩
  step uow call := some (runCall U S J call uow).2

end Service

end QueryEngine
end DataApi
