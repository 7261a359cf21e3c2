import DataApi.Api.AuditWrites

/-!
# The audit of registrations

The service refuses a registration with a `DynamicSqlError` when the SQL policy is
violated, and with a `DynamicParameterError` when the placeholders of the statement are
not the defined parameters.  The endpoints catch the first class and record the refusal;
the second class passes them, and leaves no record.
-/

namespace DataApi
namespace Api

open Library QueryEngine Schemas

section Refusals

variable {P : Scalars} (U : Unicode) (S : Sqlglot)

/-- The route that an update is addressed to is there. -/
def Addressed (request : ManagementRequest P) (rows : List (StoredRoute P.Float)) : Prop :=
  ∀ id, request.operation = .update id →
    ∃ route, rows.filter (fun route => route.id = id) = [route]

/-- The statement violates the SQL policy. -/
def ViolatesPolicy (payload : DynamicRouteWriteRequest P) : Prop :=
  ∃ error, validate U S payload.sql payload.dbType = .error error

/-- The statement is accepted, and its placeholders are not the defined parameters. -/
def Mismatches (payload : DynamicRouteWriteRequest P) : Prop :=
  ∃ validated, validate U S payload.sql payload.dbType = .ok validated ∧
    ¬ MeetsContract validated.parameterNames payload.params

variable {U S} {J : JsonFormat P} {actor : Actor} {request : ManagementRequest P}
  {uow : UnitOfWork P.Float}

theorem checked_of_error {α : Type} {x : Except AppError α} {error : AppError}
    (h : x = .error error) : checked x uow = (.error (.app error), uow) := by
  rw [h]
  rfl

/-- The checks of the payload come first, behind the lookup of the addressed route, and
leave the session as it is. -/
theorem runCall_of_validatePayload {error : AppError}
    (hAddressed : Addressed request uow.working)
    (h : validatePayload U S request.payload = .error error) :
    runCall U S J (request.call actor) uow = (.error (.app error), uow) := by
  obtain ⟨operation, payload, env⟩ := request
  cases operation with
  | create => exact Effect.bind_of_error (checked_of_error h)
  | update id =>
      obtain ⟨route, hRoute⟩ := hAddressed id rfl
      have hGet : getRoute id uow = (.ok route, uow) := by
        have hFound : getById id uow = (.ok (some route), uow) := by
          change (scalarOneOrNone (uow.working.filter fun route => route.id = id), uow) = _
          rw [hRoute]
          rfl
        exact Effect.bind_of_ok hFound
      exact (Effect.bind_of_ok hGet).trans (Effect.bind_of_error (checked_of_error h))

/-- An error of `validate_parameter_contract`. -/
def IsContractError (e : AppError) : Prop := e.code ∈ contractCodes ∧ ¬ IsDynamicSqlError e

theorem validateParameterContract_raises (names : Finset String)
    (definitions : Dict String (DynamicParameterDefinition P)) :
    RaisesOnly IsContractError (validateParameterContract names definitions) := by
  refine (RaisesOnly.raiseIf ⟨List.mem_cons_self, ?_⟩).bind fun _ =>
    RaisesOnly.raiseIf ⟨List.mem_cons_of_mem _ List.mem_cons_self, ?_⟩
  · rintro ⟨code, message, h⟩
    cases h
  · rintro ⟨code, message, h⟩
    cases h

/-- A payload that is refused violates the policy or mismatches. -/
theorem validatePayload_raises (payload : DynamicRouteWriteRequest P) :
    RaisesOnly (fun error => (IsPolicyError error ∧ ViolatesPolicy U S payload) ∨
      (IsContractError error ∧ Mismatches U S payload)) (validatePayload U S payload) := by
  intro error h
  rw [validatePayload] at h
  cases hValidate : validate U S payload.sql payload.dbType with
  | error error' =>
      rw [hValidate] at h
      cases h
      exact .inl ⟨validate_raises _ _ error hValidate, error, hValidate⟩
  | ok validated =>
      rw [hValidate] at h
      cases hContract : validateParameterContract validated.parameterNames payload.params with
      | ok u =>
          change (validateParameterContract validated.parameterNames payload.params >>=
            fun _ => pure validated) = .error error at h
          rw [hContract] at h
          cases h
      | error error' =>
          change (validateParameterContract validated.parameterNames payload.params >>=
            fun _ => pure validated) = .error error at h
          rw [hContract] at h
          cases h
          refine .inr ⟨validateParameterContract_raises _ _ error hContract, validated,
            hValidate, fun hMeets => ?_⟩
          cases hContract.symm.trans
            ((validateParameterContract_eq_ok_iff (u := ())).mpr hMeets)

/-- A payload that violates the policy or mismatches is refused. -/
theorem exists_validatePayload_error {payload : DynamicRouteWriteRequest P}
    (h : ViolatesPolicy U S payload ∨ Mismatches U S payload) :
    ∃ error, validatePayload U S payload = .error error := by
  cases hResult : validatePayload U S payload with
  | error error => exact ⟨error, rfl⟩
  | ok validated =>
      obtain ⟨hValidate, hMeets⟩ := validatePayload_eq_ok_iff.mp hResult
      rcases h with ⟨error, hError⟩ | ⟨validated', hSame, hNot⟩
      · cases hValidate.symm.trans hError
      · cases hValidate.symm.trans hSame
        exact absurd hMeets hNot

/-- The service refuses the request because of the SQL policy, or because placeholders
and parameter definitions do not match. -/
def RefusedFor (U : Unicode) (S : Sqlglot) (J : JsonFormat P) (actor : Actor)
    (request : ManagementRequest P) (uow : UnitOfWork P.Float) (error : AppError) : Prop :=
  (runCall U S J (request.call actor) uow).1 = .error (.app error) ∧
    (IsPolicyError error ∨ IsContractError error)

theorem blameless_coversStoring (payload : DynamicRouteWriteRequest P) :
    CoversStoring U S payload fun error =>
      Blameless error ∨ validatePayload U S payload = .error error where
  requests :=
    { parameter := fun code hCode message details hDetails =>
        .inl (blameless_coversRequests.parameter code hCode message details hDetails)
      timeout := fun serviceName => .inl (blameless_coversRequests.timeout serviceName) }
  payload := fun _ h => .inr h
  conflict := .inl ⟨by decide, by decide⟩
  notFound := .inl ⟨by decide, by decide⟩

/-- A missing route is found missing before the payload is checked. -/
theorem runCall_of_not_addressed (h : ¬ Addressed request uow.working) :
    runCall U S J (request.call actor) uow =
        (.error (.app (notFoundError "Dynamic route")), uow) ∨
      ∃ className, runCall U S J (request.call actor) uow =
        (.error (.other className), uow) := by
  simp only [Addressed, not_forall, not_exists] at h
  obtain ⟨id, hUpdate, hMissing⟩ := h
  obtain ⟨operation, payload, env⟩ := request
  cases hUpdate
  have hById : getById id uow =
      (scalarOneOrNone (uow.working.filter fun route => route.id = id), uow) := rfl
  cases hRows : uow.working.filter fun route => route.id = id with
  | nil =>
      rw [hRows] at hById
      exact .inl (Effect.bind_of_error (Effect.bind_of_ok hById))
  | cons route rest =>
      cases rest with
      | nil => exact absurd hRows (hMissing route)
      | cons other rest =>
          rw [hRows] at hById
          exact .inr ⟨_, Effect.bind_of_error (Effect.bind_of_error hById)⟩

theorem not_refusedFor_of_not_addressed (h : ¬ Addressed request uow.working)
    (error : AppError) : ¬ RefusedFor U S J actor request uow error := by
  rintro ⟨hRaised, hReason⟩
  rcases runCall_of_not_addressed h with hCall | ⟨className, hCall⟩
  · rw [hCall] at hRaised
    cases hRaised
    rcases hReason with ⟨code, message, -, hSame⟩ | ⟨hCode, -⟩
    · cases hSame
    · exact absurd hCode (by decide)
  · rw [hCall] at hRaised
    cases hRaised

/-- The service refuses a request for these reasons exactly when it finds the addressed
route and the check of the payload raises. -/
theorem refusedFor_iff {error : AppError} :
    RefusedFor U S J actor request uow error ↔
      Addressed request uow.working ∧ validatePayload U S request.payload = .error error := by
  constructor
  · rintro ⟨hRaised, hReason⟩
    constructor
    · by_contra hMissing
      exact not_refusedFor_of_not_addressed hMissing error ⟨hRaised, hReason⟩
    · obtain ⟨-, hErrors⟩ := appRaised_runCall actor request
        (blameless_coversStoring request.payload) uow
      rcases hErrors _ hRaised error rfl with ⟨hClass, hCode⟩ | hPayload
      · rcases hReason with ⟨code, message, -, rfl⟩ | hContract
        · exact absurd ⟨code, message, rfl⟩ hClass
        · exact absurd hContract.1 hCode
      · exact hPayload
  · rintro ⟨hAddressed, hPayload⟩
    refine ⟨congrArg Prod.fst (runCall_of_validatePayload hAddressed hPayload), ?_⟩
    exact (validatePayload_raises request.payload error hPayload).imp And.left And.left

end Refusals

section Stored

open Effect

variable {P : Scalars} {U : Unicode} {S : Sqlglot} {J : JsonFormat P}

/-- The transaction of a create or an update publishes what its write has put into the
session. -/
theorem published_transaction {pre : UnitOfWork P.Float → Prop}
    {payload : DynamicRouteWriteRequest P} {env : CallEnvironment P}
    {write : Action P.Float (StoredRoute P.Float)} {canonicalSql : String}
    (hWrite : Triple pre write (fun route uow => route ∈ uow.working) (fun _ _ => True)) :
    Triple pre
      (tryCatch (do
        .lift (runLabTestIfRequested U env.clients payload canonicalSql)
        let route ← write
        commit env
        return route) fun raised => do
          rollback
          throw (conflictOfIntegrity raised))
      (fun route uow => route ∈ uow.working) (fun _ _ => True) := by
  refine rolledBack_triple conflictOfIntegrity (Q := fun _ _ => True) ?_ fun _ _ _ => trivial
  refine Triple.bind (Q := fun _ => pre)
    (Triple.lift (fun _ _ _ h => h) (fun _ _ _ _ => trivial)) fun _ => ?_
  refine hWrite.bind fun route => ?_
  refine Triple.bind (Q := fun _ uow => route ∈ uow.working) ?_ fun _ => Triple.pure fun _ h => h
  exact (mayRaise_triple env.commit fun _ _ _ => trivial).bind fun _ =>
    Triple.modify fun _ h => h

/-- The route that is returned is a row of the session. -/
theorem mem_working_createRoute (payload : DynamicRouteWriteRequest P) (actor : Nat)
    (env : CallEnvironment P) :
    Triple (fun _ : UnitOfWork P.Float => True) (createRoute U S J payload actor env)
      (fun route uow => route ∈ uow.working) (fun _ _ => True) := by
  refine Triple.bind (Q := fun _ _ => True)
    (Triple.lift (fun _ _ _ _ => trivial) fun _ _ _ _ => trivial) fun validated => ?_
  refine Triple.bind (Q := fun _ _ => True)
    (Triple.read (fun _ _ _ _ => trivial) fun _ _ _ _ => trivial) fun existing => ?_
  refine Triple.bind (Q := fun _ _ => True)
    (Triple.lift (fun _ _ _ _ => trivial) fun _ _ _ _ => trivial) fun _ => ?_
  refine published_transaction ?_
  refine rowWrite_triple env (insertRow_triple ?_ fun _ _ _ => trivial)
    (fun _ _ _ => trivial) fun _ _ _ => trivial
  exact fun uow _ _ => List.mem_append_right _ (List.mem_singleton_self _)

theorem mem_working_updateRoute (id : Nat) (payload : DynamicRouteWriteRequest P)
    (actor : Nat) (env : CallEnvironment P) :
    Triple (fun _ : UnitOfWork P.Float => True) (updateRoute U S J id payload actor env)
      (fun route uow => route ∈ uow.working) (fun _ _ => True) := by
  refine Triple.bind (Q := fun route uow => route ∈ uow.working) ?_ fun route => ?_
  · refine Triple.bind (Q := fun found uow => ∀ route ∈ found, route ∈ uow.working)
      (Triple.read (fun found uow hFound _ route hRoute =>
        List.mem_of_mem_filter (mem_of_scalarOneOrNone hFound hRoute))
        fun _ _ _ _ => trivial) fun found => ?_
    cases found with
    | none => exact Triple.throw fun _ _ => trivial
    | some route => exact Triple.pure fun uow hFound => hFound route rfl
  have hKeep : ∀ {α : Type} (x : Except Raised α),
      Triple (fun uow : UnitOfWork P.Float => route ∈ uow.working) (Effect.lift x)
        (fun _ uow => route ∈ uow.working) (fun _ _ => True) :=
    fun x => Triple.lift (fun _ _ _ h => h) fun _ _ _ _ => trivial
  refine (hKeep _).bind fun validated => ?_
  refine Triple.bind (Q := fun _ uow => route ∈ uow.working)
    (Triple.read (fun _ _ _ h => h) fun _ _ _ _ => trivial) fun collision => ?_
  refine (hKeep _).bind fun _ => ?_
  refine published_transaction ?_
  refine rowWrite_triple env (updateRow_triple ?_ fun _ _ _ => trivial)
    (fun _ _ _ => trivial) fun _ _ _ => trivial
  exact fun uow hRoute _ => List.mem_map.mpr ⟨route, hRoute, if_pos rfl⟩

/-- A route that a create or an update returns is in the session. -/
theorem mem_working_runCall {actor : Actor} {request : ManagementRequest P}
    {uow uow' : UnitOfWork P.Float} {route : StoredRoute P.Float}
    (h : runCall U S J (request.call actor) uow = (.ok route, uow')) :
    route ∈ uow'.working := by
  obtain ⟨operation, payload, env⟩ := request
  cases operation with
  | create => exact (mem_working_createRoute payload actor.id env uow trivial).1 route uow' h
  | update id =>
      exact (mem_working_updateRoute id payload actor.id env uow trivial).1 route uow' h

end Stored

/-! ### What is audited -/

section Audit

variable {P : Scalars} {U : Unicode} {S : Sqlglot} {J : JsonFormat P}
  {idText : Nat → String} {base : ApiV1Prefix} {actor : Actor}
  {request : ManagementRequest P} {rows : List (StoredRoute P.Float)}
  {auditLogs : List (AuditLog P)}

/-- The record of a refusal with an error code. -/
structure RecordsRefusal (code : String) (record : AuditLog P) : Prop where
  allowed : record.allowed = false
  message : record.errorMessage = some code
  code : record.parameters.get? "error_code" = some (.text code.toList)

/-- The record of a stored route. -/
structure RecordsStored (idText : Nat → String) (route : StoredRoute P.Float)
    (record : AuditLog P) : Prop where
  allowed : record.allowed = true
  id : record.parameters.get? "route_id" = some (.text (idText route.id).toList)
  routePrefix : record.parameters.get? "prefix" =
    some (.text route.config.routePrefix.toList)
  path : record.parameters.get? "path" = some (.text route.config.path.toList)

/-- What a request finds: the committed rows of the two tables, in a new session. -/
def AuditedStore.opened (rows : List (StoredRoute P.Float)) (auditLogs : List (AuditLog P)) :
    AuditedStore P where
  routes := ⟨rows, rows⟩
  auditLogs := auditLogs

/-- A refusal leaves one record with its code and the routes as they were; a request that
is carried out leaves one record of the stored route. -/
structure Audited (U : Unicode) (S : Sqlglot) (J : JsonFormat P) (idText : Nat → String)
    (base : ApiV1Prefix) (actor : Actor) (request : ManagementRequest P)
    (rows : List (StoredRoute P.Float)) (auditLogs : List (AuditLog P)) : Prop where
  refused : ∀ error, RefusedFor U S J actor request ⟨rows, rows⟩ error →
    ∃ after, (storeDynamicRoute U S J idText base actor request
        (.opened rows auditLogs)).2 = after ∧
      (∃ record, RecordsRefusal error.code record ∧ after.auditLogs = auditLogs ++ [record]) ∧
      after.routes.committed = rows
  stored : ∀ route, (runCall U S J (request.call actor) ⟨rows, rows⟩).1 = .ok route →
    ∃ after, (storeDynamicRoute U S J idText base actor request
        (.opened rows auditLogs)).2 = after ∧
      route ∈ after.routes.committed ∧
      ∃ record, RecordsStored idText route record ∧ after.auditLogs = auditLogs ++ [record]

theorem recordsRefusal_refusedRecord (code : String) :
    RecordsRefusal code (refusedRecord idText actor request code) :=
  ⟨rfl, rfl, Dict.get?_set_self _ _ _⟩

theorem recordsStored_storedRecord (action : String) (route : StoredRoute P.Float) :
    RecordsStored idText route (storedRecord idText actor action route) := by
  refine ⟨rfl, ?_, ?_, Dict.get?_set_self _ _ _⟩
  · simp [storedRecord, auditDynamicRouteAction, Dict.get?_set]
  · simp [storedRecord, auditDynamicRouteAction, Dict.get?_set]

/-- A request for which an endpoint writes a record: its SQL is refused, or it is carried
out. -/
def WritesRecord (U : Unicode) (S : Sqlglot) (J : JsonFormat P) (actor : Actor)
    (request : ManagementRequest P) (rows : List (StoredRoute P.Float)) : Prop :=
  (Addressed request rows ∧ ViolatesPolicy U S request.payload) ∨
    ∃ route, (runCall U S J (request.call actor) ⟨rows, rows⟩).1 = .ok route

/-- A mismatch leaves no record. -/
theorem auditLogs_of_mismatches (J : JsonFormat P) (idText : Nat → String) (actor : Actor)
    (auditLogs : List (AuditLog P)) (hReaches : ReachesService base request)
    (hAddressed : Addressed request rows) (hMismatch : Mismatches U S request.payload) :
    ∃ error, RefusedFor U S J actor request ⟨rows, rows⟩ error ∧
      (storeDynamicRoute U S J idText base actor request (.opened rows auditLogs)).2.auditLogs =
        auditLogs := by
  obtain ⟨error, hError⟩ := exists_validatePayload_error (.inr hMismatch)
  have hCall : runCall U S J (request.call actor) ⟨rows, rows⟩ =
      (.error (.app error), ⟨rows, rows⟩) := runCall_of_validatePayload hAddressed hError
  have hClass : ∀ error', Raised.app error = .app error' → ¬ IsDynamicSqlError error' := by
    intro error' hSame
    cases hSame
    rcases validatePayload_raises request.payload error hError with
      ⟨-, error', hPolicy⟩ | ⟨hContract, -⟩
    · obtain ⟨validated, hValid, -⟩ := hMismatch
      cases hValid.symm.trans hPolicy
    · exact hContract.2
  refine ⟨error, refusedFor_iff.mpr ⟨hAddressed, hError⟩, ?_⟩
  rw [storeDynamicRoute_of_raised (.opened rows auditLogs) hReaches hClass hCall]
  rfl

theorem isDynamicSqlError_of_isPolicyError {error : AppError} (h : IsPolicyError error) :
    IsDynamicSqlError error := by
  obtain ⟨code, message, -, rfl⟩ := h
  exact ⟨code, message, rfl⟩

theorem isPolicyError_of_violates {payload : DynamicRouteWriteRequest P} {error : AppError}
    (hViolates : ViolatesPolicy U S payload)
    (hError : validatePayload U S payload = .error error) : IsPolicyError error := by
  rcases validatePayload_raises payload error hError with ⟨hPolicy, -⟩ | ⟨-, hMismatch⟩
  · exact hPolicy
  · obtain ⟨error', hPolicy⟩ := hViolates
    obtain ⟨validated, hValid, -⟩ := hMismatch
    cases hValid.symm.trans hPolicy

/-- A violation of the policy leaves its record, if the record fits. -/
theorem store_of_policyError (idText : Nat → String) (auditLogs : List (AuditLog P))
    (hReaches : ReachesService base request) {error : AppError}
    (hRefused : RefusedFor U S J actor request ⟨rows, rows⟩ error)
    (hPolicy : IsPolicyError error) :
    (storeDynamicRoute U S J idText base actor request (.opened rows auditLogs)).2 =
      if request.payload.routePrefix.length + request.payload.path.length ≤ 485 then
        .opened rows (auditLogs ++ [refusedRecord idText actor request error.code])
      else .opened rows auditLogs := by
  obtain ⟨hAddressed, hError⟩ := refusedFor_iff.mp hRefused
  have hCall : runCall U S J (request.call actor) ⟨rows, rows⟩ =
      (.error (.app error), ⟨rows, rows⟩) := runCall_of_validatePayload hAddressed hError
  rw [storeDynamicRoute_of_dynamicSqlError (.opened rows auditLogs) hReaches
    (isDynamicSqlError_of_isPolicyError hPolicy) hCall, apply_ite Prod.snd]
  exact if_congr fits_refusedRecord rfl rfl

/-- A request that is carried out leaves its record, if the record fits. -/
theorem store_of_ok (idText : Nat → String) (auditLogs : List (AuditLog P))
    (hReaches : ReachesService base request) {route : StoredRoute P.Float}
    {routes : UnitOfWork P.Float}
    (hCall : runCall U S J (request.call actor) ⟨rows, rows⟩ = (.ok route, routes)) :
    (storeDynamicRoute U S J idText base actor request (.opened rows auditLogs)).2 =
      if request.payload.routePrefix.length + request.payload.path.length ≤ 485 then
        (AuditedStore.opened rows auditLogs).recorded routes
          (storedRecord idText actor request.operation.action route)
      else ⟨routes, auditLogs⟩ := by
  obtain ⟨hPrefix, hPath⟩ : Returned request.payload route :=
    (told_runCall actor request ⟨rows, rows⟩).1 route (congrArg Prod.fst hCall)
  have hFits : (storedRecord idText actor request.operation.action route).Fits ↔
      request.payload.routePrefix.length + request.payload.path.length ≤ 485 := by
    rw [fits_storedRecord, hPrefix, hPath]
  rw [storeDynamicRoute_of_ok (.opened rows auditLogs) hReaches hCall,
    apply_ite Prod.snd]
  exact if_congr hFits rfl rfl

/-- Every refused or stored registration is audited exactly when its placeholders do not
mismatch and the label of its record fits the column. -/
theorem audited_iff (U : Unicode) (S : Sqlglot) (J : JsonFormat P) (idText : Nat → String)
    (base : ApiV1Prefix) (actor : Actor) (request : ManagementRequest P)
    (rows : List (StoredRoute P.Float)) (auditLogs : List (AuditLog P))
    (hReaches : ReachesService base request) :
    Audited U S J idText base actor request rows auditLogs ↔
      ¬ (Addressed request rows ∧ Mismatches U S request.payload) ∧
        (WritesRecord U S J actor request rows →
          request.payload.routePrefix.length + request.payload.path.length ≤ 485) := by
  constructor
  · intro hAudited
    refine ⟨?_, ?_⟩
    · rintro ⟨hAddressed, hMismatch⟩
      obtain ⟨error, hRefused, hSame⟩ := auditLogs_of_mismatches J idText actor auditLogs
        hReaches hAddressed hMismatch
      obtain ⟨after, rfl, ⟨record, -, hRecord⟩, -⟩ := hAudited.refused error hRefused
      exact ne_append_record _ record (hSame.symm.trans hRecord)
    · intro hWrites
      by_contra hLong
      rcases hWrites with ⟨hAddressed, hViolates⟩ | ⟨route, hRoute⟩
      · obtain ⟨error, hError⟩ := exists_validatePayload_error (.inl hViolates)
        have hRefused : RefusedFor U S J actor request ⟨rows, rows⟩ error :=
          refusedFor_iff.mpr ⟨hAddressed, hError⟩
        have hStore := store_of_policyError idText auditLogs hReaches hRefused
          (isPolicyError_of_violates hViolates hError)
        rw [if_neg hLong] at hStore
        obtain ⟨after, hAfter, ⟨record, -, hRecord⟩, -⟩ := hAudited.refused error hRefused
        cases hStore.symm.trans hAfter
        exact ne_append_record _ record hRecord
      · have hStore := store_of_ok idText auditLogs hReaches
          (Prod.ext hRoute rfl)
        rw [if_neg hLong] at hStore
        obtain ⟨after, hAfter, -, record, -, hRecord⟩ := hAudited.stored route hRoute
        cases hStore.symm.trans hAfter
        exact ne_append_record _ record hRecord
  · rintro ⟨hMatch, hShort⟩
    refine ⟨fun error hRefused => ?_, fun route hRoute => ?_⟩
    · obtain ⟨hAddressed, hError⟩ := refusedFor_iff.mp hRefused
      rcases validatePayload_raises request.payload error hError with
        ⟨hPolicy, hViolates⟩ | ⟨-, hMismatch⟩
      · have hStore := store_of_policyError idText auditLogs hReaches hRefused hPolicy
        rw [if_pos (hShort (.inl ⟨hAddressed, hViolates⟩))] at hStore
        exact ⟨_, hStore, ⟨_, recordsRefusal_refusedRecord error.code, rfl⟩, rfl⟩
      · exact absurd ⟨hAddressed, hMismatch⟩ hMatch
    · have hCall : runCall U S J (request.call actor) ⟨rows, rows⟩ =
          (.ok route, (runCall U S J (request.call actor) ⟨rows, rows⟩).2) :=
        Prod.ext hRoute rfl
      have hStore := store_of_ok idText auditLogs hReaches hCall
      rw [if_pos (hShort (.inr ⟨route, hRoute⟩))] at hStore
      exact ⟨_, hStore, mem_working_runCall hCall, _,
        recordsStored_storedRecord request.operation.action route, rfl⟩

end Audit

/-! ### A create of `alice/report` -/

/-- A `POST` of a payload. -/
def createRequest (payload : DynamicRouteWriteRequest .plain) : ManagementRequest .plain where
  operation := .create
  payload := payload
  env := ⟨7, emptyClients, none, none, none⟩

/-- The fields of `alice/report` with a parameter that the statement does not have. -/
def unusedFields : WriteFields Scalars.plain :=
  { reportFields with params := ⟨[("x", ⟨.string, true, .none, "", trivial⟩)], by decide⟩ }

theorem unusedFields_ok : FieldsOk unusedFields := by
  decide

/-- The payload of these fields. -/
def unusedPayload : DynamicRouteWriteRequest .plain :=
  { unusedFields with ok := unusedFields_ok, lower := reportFields_lower }

theorem validate_selectOne :
    validate .ascii (oneText "SELECT 1" selectOne) "SELECT 1" .trino =
      .ok ⟨"SELECT 1", ∅⟩ := by
  decide

theorem reachesService_alice {payload : DynamicRouteWriteRequest .plain}
    (hPrefix : payload.routePrefix = "alice") (hPath : payload.path = "report") :
    ReachesService .default (createRequest payload) := by
  change rejectStaticGetCollision .default payload.routePrefix payload.path = .ok ()
  rw [hPrefix, hPath]
  decide

/-- A schema-accepted create with an unused parameter, which the service refuses and
nothing records. -/
theorem mismatch_not_audited :
    ¬ Audited .ascii (oneText "SELECT 1" selectOne) .plain Nat.repr .default admin
      (createRequest unusedPayload) [] [] := by
  intro hAudited
  have hMismatch : Mismatches .ascii (oneText "SELECT 1" selectOne) unusedPayload :=
    ⟨_, validate_selectOne, fun hMeets => absurd hMeets.names_eq (by decide)⟩
  have hReaches : ReachesService .default (createRequest unusedPayload) :=
    reachesService_alice rfl rfl
  have hAddressed : Addressed (createRequest unusedPayload) [] := fun id h => by cases h
  obtain ⟨error, hRefused, hSame⟩ :=
    auditLogs_of_mismatches .plain Nat.repr admin [] hReaches hAddressed hMismatch
  obtain ⟨after, rfl, ⟨record, -, hRecord⟩, -⟩ := hAudited.refused error hRefused
  cases hSame.symm.trans hRecord

theorem audited_report :
    Audited .ascii (oneText "SELECT 1" selectOne) .plain Nat.repr .default admin
      (createRequest reportPayload) [] [] := by
  refine (audited_iff .ascii (oneText "SELECT 1" selectOne) .plain Nat.repr .default admin
    (createRequest reportPayload) [] [] (reachesService_alice rfl rfl)).mpr ⟨?_, fun _ => ?_⟩
  · rintro ⟨-, validated, hValid, hNot⟩
    cases hValid.symm.trans validate_selectOne
    exact hNot ⟨fun name hName => (by cases hName), rfl⟩
  · decide

end Api
end DataApi
