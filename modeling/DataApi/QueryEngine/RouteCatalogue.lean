import Mathlib.Data.Prod.Lex
import DataApi.Library.AnsweringMachine
import DataApi.Library.UniqueTable
import DataApi.PiiCache.AccountMapRepository
import DataApi.QueryEngine.RouteExecution

/-!
# The catalogue of routes

What `DynamicRouteService` is for: a table of routes with two unique keys, the id and
the pair of prefix and path, that is changed by one write at a time and read by id, by
prefix and path, or as a whole.  The service keeps it in a database session, where a
write is flushed, refreshed, committed or rolled back, and where a look-up fails if it
finds two rows.  None of this can be observed: request by request, the service answers
what the catalogue answers.
-/

namespace DataApi
namespace QueryEngine

open Library Schemas PiiCache

/-- Texts in the order of a collation. -/
def CollatedText (_ : Collation) : Type := String

instance (c : Collation) : LinearOrder (CollatedText c) where
  le a b := c.le a b = true
  le_refl a := (c.total a a).elim id id
  le_trans := c.trans
  le_antisymm := c.antisymm
  le_total := c.total
  toDecidableLE a b := inferInstanceAs (Decidable (c.le a b = true))

/-- `order_by(DynamicRoute.prefix, DynamicRoute.path)`. -/
def StoredRoute.rank {F : Type} (C : Collation) (route : StoredRoute F) :
    CollatedText C ×ₗ CollatedText C :=
  toLex (route.config.routePrefix, route.config.path)

theorem StoredRoute.key_of_rank {F : Type} {C : Collation} (a b : StoredRoute F)
    (h : a.rank C = b.rank C) : a.key = b.key :=
  toLex.injective h

/-- `list_all`. -/
def listAll {F : Type} (C : Collation) : Action F (List (StoredRoute F)) :=
  .read fun uow =>
    .ok (uow.working.mergeSort fun a b => decide (a.rank C ≤ b.rank C))

/-- A request to the service: one of its writes or reads. -/
inductive RouteRequest (P : Scalars) where
  | write (call : RouteCall P)
  | get (id : Nat)
  | list
  | execute (clients : Clients P) (mapper : Option AccountMapInMemory)
      (routePrefix path : String) (rawParams : List (String × String))

/-- What the service returns. -/
inductive RouteAnswer (P : Scalars) where
  | route (route : StoredRoute P.Float)
  | routes (routes : List (StoredRoute P.Float))
  | response (response : ExecutionResponse P)

section Service

variable {P : Scalars} (U : Unicode) (S : Sqlglot) (J : JsonFormat P) (B : Builtins P)
  (C : Collation)

/-- The method of the service that a request calls. -/
def callService : RouteRequest P → Action P.Float (RouteAnswer P)
  | .write call => do
      let route ← runCall U S J call
      return .route route
  | .get id => do
      let route ← getRoute id
      return .route route
  | .list => do
      let routes ← listAll C
      return .routes routes
  | .execute clients mapper routePrefix path rawParams => do
      let response ← executeRoute U S B clients mapper routePrefix path rawParams
      return .response response

/-- The service on the committed rows: each request has a session of its own, which is
closed behind it. -/
def routeService :
    Machine (List (StoredRoute P.Float)) (RouteRequest P) (Except Raised (RouteAnswer P)) where
  step rows request :=
    ((callService U S J B C request ⟨rows, rows⟩).1,
      (callService U S J B C request ⟨rows, rows⟩).2.committed)

end Service

/-! ### The catalogue -/

/-- The routes by id and by prefix and path. -/
abbrev Catalogue (F : Type) := UniqueTable (α := StoredRoute F) StoredRoute.id StoredRoute.key

section Catalogue

variable {P : Scalars} (U : Unicode) (S : Sqlglot) (J : JsonFormat P) (B : Builtins P)
  (C : Collation)

/-- An exception of the database, if there is one. -/
def raisedBy (exception : Option String) : Except Raised Unit :=
  match exception with
  | none => .ok ()
  | some className => .error (.other className)

namespace Catalogue

/-- Write a changed catalogue; a change that breaks a constraint is refused between the
flush and the refresh. -/
def write {F : Type} (env : CallEnvironment P) (changed : Option (Catalogue F)) :
    Except Raised (Catalogue F) := do
  raisedBy env.flush
  let catalogue ← changed.elim (.error (.other "IntegrityError")) .ok
  raisedBy env.refresh
  raisedBy env.commit
  return catalogue

/-- Add a route for a payload. -/
noncomputable def create (catalogue : Catalogue P.Float)
    (payload : DynamicRouteWriteRequest P) (actor : Nat) (env : CallEnvironment P) :
    Except Raised (StoredRoute P.Float × Catalogue P.Float) := do
  let validated ← (validatePayload U S payload).mapError Raised.app
  (raiseIf ((catalogue.byKey (payload.routePrefix, payload.path)).isSome = true)
    routeExists).mapError Raised.app
  let route : StoredRoute P.Float :=
    { config := .ofPayload J payload validated.canonicalSql, updatedBy := actor
      id := env.newId, createdBy := actor }
  Except.mapError conflictOfIntegrity do
    runLabTestIfRequested U env.clients payload validated.canonicalSql
    let changed ← write env (catalogue.insert? route)
    return (route, changed)

/-- The route with an id. -/
noncomputable def get {F : Type} (catalogue : Catalogue F) (id : Nat) :
    Except Raised (StoredRoute F) :=
  (catalogue.byIdent id).elim (.error (.app (notFoundError "Dynamic route"))) .ok

/-- Put a payload into the place of a route. -/
noncomputable def update (catalogue : Catalogue P.Float) (id : Nat)
    (payload : DynamicRouteWriteRequest P) (actor : Nat) (env : CallEnvironment P) :
    Except Raised (StoredRoute P.Float × Catalogue P.Float) := do
  let route ← catalogue.get id
  let validated ← (validatePayload U S payload).mapError Raised.app
  (raiseIf (∃ other ∈ catalogue.byKey (payload.routePrefix, payload.path),
    other.id ≠ route.id) routeExists).mapError Raised.app
  let updated : StoredRoute P.Float :=
    { route with
      config := .ofPayload J payload validated.canonicalSql, updatedBy := actor }
  Except.mapError conflictOfIntegrity do
    runLabTestIfRequested U env.clients payload validated.canonicalSql
    let changed ← write env (catalogue.replace? updated)
    return (updated, changed)

/-- Take a route out. -/
noncomputable def delete (catalogue : Catalogue P.Float) (id : Nat)
    (env : CallEnvironment P) :
    Except Raised (StoredRoute P.Float × Catalogue P.Float) := do
  let route ← catalogue.get id
  raisedBy env.flush
  raisedBy env.commit
  return (route, catalogue.erase id)

/-- A write on the catalogue. -/
noncomputable def runCall (catalogue : Catalogue P.Float) :
    RouteCall P → Except Raised (StoredRoute P.Float × Catalogue P.Float)
  | .create payload actor env => catalogue.create U S J payload actor env
  | .update id payload actor env => catalogue.update U S J id payload actor env
  | .delete id env => catalogue.delete id env

/-- A request to the catalogue, and the catalogue after it. -/
noncomputable def answer (catalogue : Catalogue P.Float) :
    RouteRequest P → Except Raised (RouteAnswer P × Catalogue P.Float)
  | .write call => do
      let outcome ← catalogue.runCall U S J call
      return (.route outcome.1, outcome.2)
  | .get id => do
      let route ← catalogue.get id
      return (.route route, catalogue)
  | .list => .ok (.routes (catalogue.listing (StoredRoute.rank C)), catalogue)
  | .execute clients mapper routePrefix path rawParams => do
      let route ← (catalogue.byKey (routePrefix, path)).elim
        (.error (.app (notFoundError "Dynamic route"))) .ok
      let response ← executeStored U S B clients mapper route rawParams
      return (.response response, catalogue)

/-- The answer and the catalogue after a request: what raises changes nothing. -/
def settle {F α : Type} (catalogue : Catalogue F) :
    Except Raised (α × Catalogue F) → Except Raised α × Catalogue F
  | .ok (a, changed) => (.ok a, changed)
  | .error raised => (.error raised, catalogue)

end Catalogue

/-- The catalogue as a machine. -/
noncomputable def catalogueService :
    Machine (Catalogue P.Float) (RouteRequest P) (Except Raised (RouteAnswer P)) where
  step catalogue request := catalogue.settle (catalogue.answer U S J B C request)

end Catalogue

/-! ### The service answers like the catalogue -/

section Refinement

variable {P : Scalars} {F : Type} {α β : Type} {rows : List (StoredRoute F)}
  {catalogue : Catalogue F}

open Effect UniqueTable

/-- A computation on a session did what a write of the catalogue does: it returns the
same value and has committed the changed rows, or it raises the same and has committed
nothing. -/
def Matches (rows : List (StoredRoute F)) :
    Except Raised (α × Catalogue F) → Except Raised α × UnitOfWork F → Prop
  | .ok (a, changed), (.ok b, uow) => b = a ∧ Represents uow.committed changed
  | .error raised, (.error raised', uow) => raised' = raised ∧ uow.committed = rows
  | _, _ => False

/-- A step that leaves the session alone and has the outcome of a step of the catalogue. -/
theorem Matches.bind {uow : UnitOfWork F} (hCommitted : uow.committed = rows)
    {x : Except Raised β} {c : Action F β} (hStep : c uow = (x, uow))
    {f : β → Except Raised (α × Catalogue F)} {g : β → Action F α}
    (h : ∀ b, x = .ok b → Matches rows (f b) (g b uow)) :
    Matches rows (x >>= f) ((c >>= g) uow) := by
  cases x with
  | ok b =>
      rw [bind_of_ok hStep]
      exact h b rfl
  | error raised =>
      rw [bind_of_error hStep]
      exact ⟨rfl, hCommitted⟩

theorem mayRaise_eq (exception : Option String) (uow : UnitOfWork F) :
    mayRaise exception uow = (raisedBy exception, uow) := by
  cases exception <;> rfl

/-- The handler of a transaction: the session is rolled back, and the exception is
translated. -/
theorem Matches.transaction (translate : Raised → Raised) {body : Action F α}
    {x : Except Raised (α × Catalogue F)} {uow : UnitOfWork F}
    (h : Matches rows x (body uow)) :
    Matches rows (x.mapError translate)
      ((tryCatch body fun raised => do
        rollback
        throw (translate raised) : Action F α) uow) := by
  cases hBody : body uow with
  | mk outcome after =>
      rw [hBody] at h
      cases x with
      | ok written =>
          cases outcome with
          | ok b =>
              rw [tryCatch_of_ok hBody]
              exact h
          | error raised => exact h.elim
      | error raised =>
          cases outcome with
          | ok b => exact h.elim
          | error raised' =>
              obtain ⟨rfl, hCommitted⟩ := h
              rw [tryCatch_of_error hBody]
              exact ⟨rfl, hCommitted⟩

theorem scalarOneOrNone_toList (found : Option α) :
    scalarOneOrNone found.toList = .ok found := by
  cases found <;> rfl

theorem getById_eq (h : Represents rows catalogue) (id : Nat) :
    getById id ⟨rows, rows⟩ = (.ok (catalogue.byIdent id), ⟨rows, rows⟩) := by
  change (scalarOneOrNone (rows.filter fun route => route.id = id), _) = _
  rw [h.filter_ident, scalarOneOrNone_toList]

theorem getByRoute_eq (h : Represents rows catalogue) (routePrefix path : String) :
    getByRoute routePrefix path ⟨rows, rows⟩ =
      (.ok (catalogue.byKey (routePrefix, path)), ⟨rows, rows⟩) := by
  change (scalarOneOrNone (rows.filter fun route => route.key = (routePrefix, path)), _) = _
  rw [h.filter_key, scalarOneOrNone_toList]

theorem getRoute_eq (h : Represents rows catalogue) (id : Nat) :
    getRoute id (⟨rows, rows⟩ : UnitOfWork F) = (catalogue.get id, ⟨rows, rows⟩) := by
  rw [getRoute, bind_of_ok (getById_eq h id), Catalogue.get]
  cases catalogue.byIdent id <;> rfl

/-- A commit publishes the working rows. -/
theorem commit_matches (env : CallEnvironment P) {changed : Catalogue F}
    {rows' : List (StoredRoute F)} (h : Represents rows' changed) (a : α) :
    Matches rows
      (raisedBy env.commit >>= fun _ => .ok (a, changed))
      ((do
        commit env
        return a : Action F α) ⟨rows, rows'⟩) := by
  cases hCommit : env.commit with
  | none =>
      have hRun : commit env (⟨rows, rows'⟩ : UnitOfWork F) = (.ok (), ⟨rows', rows'⟩) := by
        rw [commit, hCommit]
        rfl
      rw [bind_of_ok hRun]
      exact And.intro rfl h
  | some className =>
      have hRun : commit env (⟨rows, rows'⟩ : UnitOfWork F) =
          (.error (.other className), ⟨rows, rows'⟩) := by
        rw [commit, hCommit]
        rfl
      rw [bind_of_error hRun]
      exact ⟨rfl, rfl⟩

/-- The body of a transaction that writes a row: the statement breaks a constraint, or
leads to rows that represent the changed catalogue. -/
theorem rowWrite_matches (env : CallEnvironment P) {changed : Option (Catalogue F)}
    {statement : Action F Unit} {route : StoredRoute F}
    (hStatement : (changed = none ∧
        statement ⟨rows, rows⟩ = (.error (.other "IntegrityError"), ⟨rows, rows⟩)) ∨
      ∃ catalogue' rows', changed = some catalogue' ∧ Represents rows' catalogue' ∧
        statement ⟨rows, rows⟩ = (.ok (), ⟨rows, rows'⟩)) :
    Matches rows
      (Catalogue.write env changed >>= fun catalogue' => .ok (route, catalogue'))
      ((do
        let written ← (do
          mayRaise env.flush
          statement
          mayRaise env.refresh
          return route : Action F (StoredRoute F))
        commit env
        return written : Action F (StoredRoute F)) ⟨rows, rows⟩) := by
  rw [Catalogue.write, bind_assoc, bind_bind]
  refine Matches.bind rfl (mayRaise_eq _ _) fun _ _ => ?_
  rw [bind_assoc, bind_bind]
  rcases hStatement with ⟨rfl, hRun⟩ | ⟨catalogue', rows', rfl, hRows, hRun⟩
  · rw [bind_of_error hRun]
    exact And.intro rfl rfl
  · rw [bind_of_ok hRun]
    change Matches rows ((raisedBy env.refresh >>= _) >>= _) _
    rw [bind_assoc, bind_bind]
    refine Matches.bind rfl (mayRaise_eq _ _) fun _ _ => ?_
    rw [bind_assoc]
    exact commit_matches env hRows route

/-- The answers agree, and the rows that are committed represent the catalogue. -/
theorem Matches.settle (hRows : Represents rows catalogue)
    {x : Except Raised (α × Catalogue F)} {result : Except Raised α × UnitOfWork F}
    (h : Matches rows x result) :
    result.1 = (catalogue.settle x).1 ∧
      Represents result.2.committed (catalogue.settle x).2 := by
  obtain ⟨outcome, uow⟩ := result
  cases x with
  | ok written =>
      cases outcome with
      | ok b =>
          obtain ⟨rfl, hChanged⟩ := h
          exact ⟨rfl, hChanged⟩
      | error raised => exact h.elim
  | error raised =>
      cases outcome with
      | ok b => exact h.elim
      | error raised' =>
          obtain ⟨rfl, rfl⟩ := h
          exact ⟨rfl, hRows⟩

/-- Wrapping up the result. -/
theorem Matches.map {x : Except Raised (α × Catalogue F)} {c : Action F α}
    {uow : UnitOfWork F} (h : Matches rows x (c uow)) (f : α → β) :
    Matches rows (x >>= fun outcome => .ok (f outcome.1, outcome.2))
      ((do
        let a ← c
        return f a : Action F β) uow) := by
  cases hRun : c uow with
  | mk outcome after =>
      rw [hRun] at h
      cases x with
      | ok written =>
          cases outcome with
          | ok b =>
              obtain ⟨rfl, hRows⟩ := h
              rw [bind_of_ok hRun]
              exact And.intro rfl hRows
          | error raised => exact h.elim
      | error raised =>
          cases outcome with
          | ok b => exact h.elim
          | error raised' =>
              rw [bind_of_error hRun]
              exact h

end Refinement

section Service

open Effect UniqueTable

variable {P : Scalars} {U : Unicode} {S : Sqlglot} {J : JsonFormat P} {B : Builtins P}
  {C : Collation} {rows : List (StoredRoute P.Float)} {catalogue : Catalogue P.Float}

theorem createRoute_matches (h : Represents rows catalogue)
    (payload : DynamicRouteWriteRequest P) (actor : Nat) (env : CallEnvironment P) :
    Matches rows (catalogue.create U S J payload actor env)
      (createRoute U S J payload actor env ⟨rows, rows⟩) := by
  refine Matches.bind rfl rfl fun validated _ => ?_
  rw [bind_of_ok (getByRoute_eq h payload.routePrefix payload.path)]
  refine Matches.bind rfl rfl fun _ _ => ?_
  refine Matches.transaction conflictOfIntegrity ?_
  refine Matches.bind rfl rfl fun _ _ => ?_
  refine rowWrite_matches env ?_
  rcases h.insert? { config := .ofPayload J payload validated.canonicalSql, updatedBy := actor
                     id := env.newId, createdBy := actor } with
    ⟨hTaken, hNone⟩ | ⟨hFree, catalogue', hSome, hRows⟩
  · refine .inl ⟨hNone, ?_⟩
    rw [insertRow, if_pos hTaken]
  · refine .inr ⟨catalogue', _, hSome, hRows, ?_⟩
    rw [insertRow, if_neg hFree]

theorem get_eq_ok {id : Nat} {route : StoredRoute P.Float}
    (h : catalogue.get id = .ok route) : route ∈ catalogue.entries ∧ route.id = id := by
  rw [Catalogue.get] at h
  cases hFound : catalogue.byIdent id with
  | none =>
      rw [hFound] at h
      cases h
  | some found =>
      rw [hFound] at h
      cases h
      exact catalogue.byIdent_eq_some_iff.mp hFound

theorem updateRoute_matches (h : Represents rows catalogue) (id : Nat)
    (payload : DynamicRouteWriteRequest P) (actor : Nat) (env : CallEnvironment P) :
    Matches rows (catalogue.update U S J id payload actor env)
      (updateRoute U S J id payload actor env ⟨rows, rows⟩) := by
  refine Matches.bind rfl (getRoute_eq h id) fun route hRoute => ?_
  obtain ⟨hMem, -⟩ := get_eq_ok hRoute
  refine Matches.bind rfl rfl fun validated _ => ?_
  rw [bind_of_ok (getByRoute_eq h payload.routePrefix payload.path)]
  refine Matches.bind rfl rfl fun _ _ => ?_
  refine Matches.transaction conflictOfIntegrity ?_
  refine Matches.bind rfl rfl fun _ _ => ?_
  refine rowWrite_matches env ?_
  have hReplace := h.replace? (e := { route with
    config := .ofPayload J payload validated.canonicalSql, updatedBy := actor })
    ((h.mem route).mpr hMem) rfl
  rcases hReplace with ⟨hTaken, hNone⟩ | ⟨hFree, catalogue', hSome, hRows⟩
  · refine .inl ⟨hNone, ?_⟩
    rw [updateRow, if_pos hTaken]
  · refine .inr ⟨catalogue', _, hSome, hRows, ?_⟩
    rw [updateRow, if_neg hFree]

theorem deleteRoute_matches (h : Represents rows catalogue) (id : Nat)
    (env : CallEnvironment P) :
    Matches rows (catalogue.delete id env) (deleteRoute id env ⟨rows, rows⟩) := by
  refine Matches.bind rfl (getRoute_eq h id) fun route hRoute => ?_
  obtain ⟨-, rfl⟩ := get_eq_ok hRoute
  have hBody : Matches rows
      (raisedBy env.flush >>= fun _ => raisedBy env.commit >>= fun _ =>
        .ok (route, catalogue.erase route.id))
      ((do
        eraseRow env route
        commit env
        return route : Action P.Float (StoredRoute P.Float)) ⟨rows, rows⟩) := by
    have hErase : deleteRow route (⟨rows, rows⟩ : UnitOfWork P.Float) =
        (.ok (), ⟨rows, rows.filter fun other => other.id ≠ route.id⟩) := rfl
    rw [eraseRow, bind_bind, bind_of_ok hErase]
    refine Matches.bind rfl (mayRaise_eq _ _) fun _ _ => ?_
    exact commit_matches env (h.erase route.id) route
  have hRaised := Matches.transaction (fun raised => raised) hBody
  have hSame : ∀ x : Except Raised (StoredRoute P.Float × Catalogue P.Float),
      x.mapError (fun raised => raised) = x := by
    intro x
    cases x <;> rfl
  rw [hSame] at hRaised
  exact hRaised

/-- A write of the service does what the write of the catalogue does. -/
theorem runCall_matches (h : Represents rows catalogue) (call : RouteCall P) :
    Matches rows (catalogue.runCall U S J call) (runCall U S J call ⟨rows, rows⟩) := by
  cases call with
  | create payload actor env => exact createRoute_matches h payload actor env
  | update id payload actor env => exact updateRoute_matches h id payload actor env
  | delete id env => exact deleteRoute_matches h id env

/-- So does every request. -/
theorem callService_matches (h : Represents rows catalogue) (request : RouteRequest P) :
    Matches rows (catalogue.answer U S J B C request)
      (callService U S J B C request ⟨rows, rows⟩) := by
  cases request with
  | write call => exact (runCall_matches h call).map _
  | get id =>
      change Matches rows _ ((getRoute id >>= _) ⟨rows, rows⟩)
      refine Matches.bind rfl (getRoute_eq h id) fun route _ => ?_
      exact And.intro rfl h
  | list =>
      refine And.intro ?_ h
      rw [h.mergeSort_eq_listing StoredRoute.key_of_rank]
  | execute clients mapper routePrefix path rawParams =>
      change Matches rows _ (((getByRoute routePrefix path >>= _) >>= _) ⟨rows, rows⟩)
      rw [bind_bind, bind_of_ok (getByRoute_eq h routePrefix path), Catalogue.answer]
      cases catalogue.byKey (routePrefix, path) with
      | none => exact And.intro rfl rfl
      | some route =>
          change Matches rows (executeStored U S B clients mapper route rawParams >>= _)
            ((lift (executeStored U S B clients mapper route rawParams) >>= _) ⟨rows, rows⟩)
          refine Matches.bind rfl rfl fun response _ => ?_
          exact And.intro rfl h

/-- Committed rows and the catalogue they represent stay together. -/
theorem routeService_refines : (routeService U S J B C).Refines
    (catalogueService U S J B C) Represents where
  answer := fun _ _ request h => ((callService_matches h request).settle h).1
  next := fun _ _ request h => ((callService_matches h request).settle h).2

/-- Whatever is asked of it, in whatever order and whichever steps of the database and
of the clients fail, the service gives the answers of the catalogue. -/
theorem routeService_answers (requests : List (RouteRequest P)) :
    ((routeService U S J B C).run [] requests).1 =
      ((catalogueService U S J B C).run .empty requests).1 :=
  (routeService_refines.run requests .nil).1

/-! ### What has been answered determines what is read -/

/-- The route with an id after a request, as far as its answer tells. -/
def recordRoute (id : Nat) (current : Option (StoredRoute P.Float)) :
    RouteRequest P × Except Raised (RouteAnswer P) → Option (StoredRoute P.Float)
  | (.write (.delete _ _), .ok (.route route)) => if route.id = id then none else current
  | (.write _, .ok (.route route)) => if route.id = id then some route else current
  | _ => current

/-- The route with an id after a record of requests and answers. -/
def currentRoute (record : List (RouteRequest P × Except Raised (RouteAnswer P)))
    (id : Nat) : Option (StoredRoute P.Float) :=
  record.foldl (recordRoute id) none

theorem write_eq_ok {env : CallEnvironment P} {candidate : Option (Catalogue P.Float)}
    {changed : Catalogue P.Float} (h : Catalogue.write env candidate = .ok changed) :
    candidate = some changed := by
  obtain ⟨_, -, h⟩ := bind_eq_ok_iff.mp h
  obtain ⟨written, hWritten, h⟩ := bind_eq_ok_iff.mp h
  obtain ⟨_, -, h⟩ := bind_eq_ok_iff.mp h
  obtain ⟨_, -, h⟩ := bind_eq_ok_iff.mp h
  cases h
  cases candidate with
  | none => cases hWritten
  | some _ =>
      cases hWritten
      rfl

/-- A transaction that has committed wrote the candidate with its route. -/
theorem transaction_eq_ok {env : CallEnvironment P} {lab : Except Raised Unit}
    {candidate : Option (Catalogue P.Float)} {route written : StoredRoute P.Float}
    {changed : Catalogue P.Float}
    (h : Except.mapError conflictOfIntegrity (do
      lab
      let changed ← Catalogue.write env candidate
      return (route, changed)) = .ok (written, changed)) :
    route = written ∧ candidate = some changed := by
  have hBody : (do
      lab
      let changed ← Catalogue.write env candidate
      return (route, changed)) = .ok (written, changed) := by
    revert h
    cases lab >>= fun _ => Catalogue.write env candidate >>= fun changed =>
      (pure (route, changed) : Except Raised _) with
    | ok a =>
        intro h
        cases h
        rfl
    | error raised =>
        intro h
        cases h
  obtain ⟨_, -, hWrite⟩ := bind_eq_ok_iff.mp hBody
  obtain ⟨changed', hChanged, hReturn⟩ := bind_eq_ok_iff.mp hWrite
  cases hReturn
  exact ⟨rfl, write_eq_ok hChanged⟩

/-- The configuration of a route is that of a payload which passes its checks. -/
def WrittenBy (U : Unicode) (S : Sqlglot) (J : JsonFormat P)
    (payload : DynamicRouteWriteRequest P) (route : StoredRoute P.Float) : Prop :=
  ∃ validated, validatePayload U S payload = .ok validated ∧
    route.config = .ofPayload J payload validated.canonicalSql

theorem mapError_eq_ok {ε ε' α : Type} {f : ε → ε'} {x : Except ε α} {a : α}
    (h : x.mapError f = .ok a) : x = .ok a := by
  cases x with
  | ok b => simpa [Except.mapError] using h
  | error e => cases h

/-- What a successful create has done. -/
theorem create_eq_ok {payload : DynamicRouteWriteRequest P} {actor : Nat}
    {env : CallEnvironment P} {route : StoredRoute P.Float} {changed : Catalogue P.Float}
    (h : catalogue.create U S J payload actor env = .ok (route, changed)) :
    WrittenBy U S J payload route ∧ route.createdBy = actor ∧ route.updatedBy = actor ∧
      catalogue.insert? route = some changed := by
  obtain ⟨validated, hValid, h⟩ := bind_eq_ok_iff.mp h
  obtain ⟨_, -, h⟩ := bind_eq_ok_iff.mp h
  obtain ⟨rfl, hChanged⟩ := transaction_eq_ok h
  exact ⟨⟨validated, mapError_eq_ok hValid, rfl⟩, rfl, rfl, hChanged⟩

/-- What a successful update has done. -/
theorem update_eq_ok {id : Nat} {payload : DynamicRouteWriteRequest P} {actor : Nat}
    {env : CallEnvironment P} {route : StoredRoute P.Float} {changed : Catalogue P.Float}
    (h : catalogue.update U S J id payload actor env = .ok (route, changed)) :
    WrittenBy U S J payload route ∧
      ∃ old, catalogue.byIdent route.id = some old ∧ route.createdBy = old.createdBy ∧
        route.updatedBy = actor ∧ catalogue.replace? route = some changed := by
  obtain ⟨old, hOld, h⟩ := bind_eq_ok_iff.mp h
  obtain ⟨validated, hValid, h⟩ := bind_eq_ok_iff.mp h
  obtain ⟨_, -, h⟩ := bind_eq_ok_iff.mp h
  obtain ⟨rfl, hChanged⟩ := transaction_eq_ok h
  exact ⟨⟨validated, mapError_eq_ok hValid, rfl⟩, old,
    catalogue.byIdent_eq_some_iff.mpr ⟨(get_eq_ok hOld).1, rfl⟩, rfl, rfl, hChanged⟩

/-- What a successful delete has done. -/
theorem delete_eq_ok {id : Nat} {env : CallEnvironment P} {route : StoredRoute P.Float}
    {changed : Catalogue P.Float}
    (h : catalogue.delete id env = .ok (route, changed)) :
    catalogue.byIdent route.id = some route ∧ changed = catalogue.erase route.id := by
  obtain ⟨found, hFound, h⟩ := bind_eq_ok_iff.mp h
  obtain ⟨_, -, h⟩ := bind_eq_ok_iff.mp h
  obtain ⟨_, -, h⟩ := bind_eq_ok_iff.mp h
  cases h
  obtain ⟨hMem, rfl⟩ := get_eq_ok hFound
  exact ⟨catalogue.byIdent_eq_some_iff.mpr ⟨hMem, rfl⟩, rfl⟩

/-- A read leaves the catalogue as it is. -/
theorem settle_read {F α β : Type} (catalogue : Catalogue F) (x : Except Raised α)
    (f : α → β) : (catalogue.settle (x >>= fun a => .ok (f a, catalogue))).2 = catalogue := by
  cases x <;> rfl

/-- The catalogue holds the routes that the record tells of. -/
theorem byIdent_step {record : List (RouteRequest P × Except Raised (RouteAnswer P))}
    (h : ∀ id, catalogue.byIdent id = currentRoute record id) (request : RouteRequest P)
    (id : Nat) :
    ((catalogueService U S J B C).step catalogue request).2.byIdent id =
      currentRoute
        (record ++ [(request, ((catalogueService U S J B C).step catalogue request).1)])
        id := by
  rw [currentRoute, List.foldl_append]
  change _ = recordRoute id (currentRoute record id) _
  rw [← h]
  change (catalogue.settle (catalogue.answer U S J B C request)).2.byIdent id =
    recordRoute id _ (request, (catalogue.settle (catalogue.answer U S J B C request)).1)
  cases request with
  | write call =>
      cases hRun : catalogue.runCall U S J call with
      | error raised =>
          rw [Catalogue.answer, hRun]
          cases call <;> rfl
      | ok written =>
          obtain ⟨route, changed⟩ := written
          rw [Catalogue.answer, hRun]
          -- the answer of a write holds the route that it wrote
          cases call with
          | create payload actor env =>
              obtain ⟨-, -, -, hInsert⟩ := create_eq_ok hRun
              exact byIdent_of_insert? hInsert id
          | update other payload actor env =>
              obtain ⟨-, _, -, -, -, hReplace⟩ := update_eq_ok hRun
              exact byIdent_of_replace? hReplace id
          | delete other env =>
              obtain ⟨-, rfl⟩ := delete_eq_ok hRun
              exact byIdent_erase catalogue route.id id
  | get other =>
      have hRead := settle_read catalogue (catalogue.get other) RouteAnswer.route
      exact congrArg (fun after : Catalogue P.Float => after.byIdent id) hRead
  | list => rfl
  | execute clients mapper routePrefix path rawParams =>
      rw [Catalogue.answer, ← bind_assoc]
      have hRead := settle_read catalogue ((catalogue.byKey (routePrefix, path)).elim
        (.error (.app (notFoundError "Dynamic route"))) .ok >>= fun route =>
          executeStored U S B clients mapper route rawParams) RouteAnswer.response
      exact congrArg (fun after : Catalogue P.Float => after.byIdent id) hRead

/-- The routes that are held are told of by the record of the whole run. -/
def Held (record : List (RouteRequest P × Except Raised (RouteAnswer P)))
    (catalogue : Catalogue P.Float) : Prop :=
  ∀ id, catalogue.byIdent id = currentRoute record id

theorem byIdent_of_history (requests : List (RouteRequest P)) :
    Held ((catalogueService U S J B C).history empty requests)
      ((catalogueService U S J B C).run empty requests).2 := by
  have hStep : ∀ record (catalogue : Catalogue P.Float) request, Held record catalogue →
      Held (record ++ [(request, ((catalogueService U S J B C).step catalogue request).1)])
        ((catalogueService U S J B C).step catalogue request).2 :=
    fun _ _ request h id => byIdent_step h request id
  have hStart : Held ([] : List (RouteRequest P × Except Raised (RouteAnswer P))) empty :=
    byIdent_empty
  exact Machine.history_invariant hStep requests hStart

/-- A read of the service, and what the record of its answers says about it. -/
structure ReadsAgree (U : Unicode) (S : Sqlglot) (J : JsonFormat P) (B : Builtins P)
    (C : Collation) (rows : List (StoredRoute P.Float))
    (record : List (RouteRequest P × Except Raised (RouteAnswer P))) : Prop where
  get : ∀ id, ((routeService U S J B C).step rows (.get id)).1 =
    (currentRoute record id).elim (.error (.app (notFoundError "Dynamic route")))
      fun route => .ok (.route route)
  list : ∃ routes, ((routeService U S J B C).step rows .list).1 = .ok (.routes routes) ∧
    routes.Pairwise (fun a b => a.rank C < b.rank C) ∧
    ∀ route, route ∈ routes ↔ currentRoute record route.id = some route
  execute : ∀ clients mapper rawParams route, currentRoute record route.id = some route →
    ((routeService U S J B C).step rows (.execute clients mapper route.config.routePrefix
        route.config.path rawParams)).1 =
      (executeStored U S B clients mapper route rawParams).map .response
  unknown : ∀ clients mapper rawParams routePrefix path,
    (∀ route, currentRoute record route.id = some route →
      route.key ≠ (routePrefix, path)) →
    ((routeService U S J B C).step rows
        (.execute clients mapper routePrefix path rawParams)).1 =
      .error (.app (notFoundError "Dynamic route"))

/-- After any requests, a route is read as its last successful write left it, the list
holds each route that is there once and in order, and a path executes the route that
has it. -/
theorem reads_of_history (requests : List (RouteRequest P)) :
    ReadsAgree U S J B C ((routeService U S J B C).run [] requests).2
      ((routeService U S J B C).history [] requests) := by
  obtain ⟨-, hRows⟩ := (routeService_refines (U := U) (S := S) (J := J) (B := B)
    (C := C)).run requests .nil
  have hHeld := byIdent_of_history (U := U) (S := S) (J := J) (B := B) (C := C) requests
  rw [routeService_refines.history requests .nil]
  generalize ((routeService U S J B C).run [] requests).2 = rows at hRows ⊢
  generalize ((catalogueService U S J B C).run empty requests).2 = catalogue at hRows hHeld
  have hAnswer : ∀ request, ((routeService U S J B C).step rows request).1 =
      (catalogue.settle (catalogue.answer U S J B C request)).1 :=
    fun request => routeService_refines.answer rows catalogue request hRows
  have hMem : ∀ route, route ∈ catalogue.entries ↔
      currentRoute ((catalogueService U S J B C).history empty requests) route.id =
        some route := by
    intro route
    rw [← hHeld, byIdent_eq_some_iff]
    exact ⟨fun h => ⟨h, rfl⟩, fun h => h.1⟩
  constructor
  · intro id
    rw [hAnswer, ← hHeld]
    change (catalogue.settle (catalogue.get id >>= _)).1 = _
    rw [Catalogue.get]
    cases catalogue.byIdent id <;> rfl
  · refine ⟨catalogue.listing (StoredRoute.rank C), hAnswer .list, ?_, fun route => ?_⟩
    · exact catalogue.listing_pairwise_lt StoredRoute.key_of_rank
    · rw [mem_listing, hMem]
  · intro clients mapper rawParams route hRoute
    have hFound := catalogue.byKey_eq_some_iff.mpr ⟨(hMem route).mpr hRoute, rfl⟩
    rw [hAnswer, Catalogue.answer]
    change (catalogue.settle ((catalogue.byKey route.key).elim _ _ >>= _)).1 = _
    rw [hFound]
    change (catalogue.settle (executeStored U S B clients mapper route rawParams >>= _)).1 = _
    cases executeStored U S B clients mapper route rawParams <;> rfl
  · intro clients mapper rawParams routePrefix path hNone
    have hMissing : catalogue.byKey (routePrefix, path) = none := by
      refine Option.eq_none_iff_forall_ne_some.mpr fun route hFound => ?_
      obtain ⟨hEntry, hKey⟩ := catalogue.byKey_eq_some_iff.mp hFound
      exact hNone route ((hMem route).mp hEntry) hKey
    rw [hAnswer, Catalogue.answer, hMissing]
    rfl

end Service

end QueryEngine
end DataApi
