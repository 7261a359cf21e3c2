import DataApi.Api.RegistrationAudit

/-!
# The lengths of the audit records

A path may have 500 characters, and so may the column `api_route`; the label of a dynamic
route has 15 characters more than its prefix and path, and the path of its URL nine more.
A route whose prefix and path are too long can be stored, but its record cannot.
-/

namespace DataApi
namespace Api

open Library QueryEngine Schemas

section Access

variable {P : Scalars}

/-- Write records one after the other. -/
def writeAudits : List (AuditLog P) → Effect (AuditedStore P) Raised Unit
  | [] => return ()
  | record :: rest => do
      writeAudit record
      writeAudits rest

/-- `require_api_permission`: the record is committed before the check raises. -/
def auditedAccess (parseQuery : List Char → List (String × String))
    (checkNetloc : List Char → Bool) (base : ApiV1Prefix) (actor : Actor)
    (request : HttpRequest) (route : ApiRoute) (elapsed : Nat) :
    Effect (AuditedStore P) Raised Unit := do
  writeAudits (auditedPermission parseQuery checkNetloc base actor request route elapsed).1
  .lift ((auditedPermission (P := P) parseQuery checkNetloc base actor request route
    elapsed).2.mapError .app)

/-- A call of a dynamic route: the path of the request is the one of the route, and the
`Host` header is a host without a path of its own. -/
structure CallsRoute (base : ApiV1Prefix) (payload : DynamicRouteWriteRequest P)
    (request : HttpRequest) : Prop where
  host : ∀ c ∈ request.host, isDelimiter c = false
  path : request.path = effectivePath base payload.routePrefix payload.path

/-- A stored route has the prefix and path of an accepted request. -/
def HasPath (payload : DynamicRouteWriteRequest P) (route : StoredRoute P.Float) : Prop :=
  route.config.routePrefix = payload.routePrefix ∧ route.config.path = payload.path

/-- The records of a route with an accepted prefix and path fit their columns, so no
request whose change of the route was committed fails, and no authorized call either. -/
structure AuditNeverBreaks (U : Unicode) (S : Sqlglot) (J : JsonFormat P)
    (idText : Nat → String) (parseQuery : List Char → List (String × String))
    (checkNetloc : List Char → Bool) (payload : DynamicRouteWriteRequest P) : Prop where
  managementFits : ∀ actor action route, HasPath payload route →
    (storedRecord idText actor action route).Fits
  permissionFits : ∀ actor request route elapsed, CallsRoute .default payload request →
    ∀ record ∈ (auditedPermission (P := P) parseQuery checkNetloc .default actor request route
      elapsed).1, record.Fits
  stores : ∀ base actor request (store : AuditedStore P) route routes,
    request.payload.routePrefix = payload.routePrefix →
    request.payload.path = payload.path → ReachesService base request →
    runCall U S J (request.call actor) store.routes = (.ok route, routes) →
      (storeDynamicRoute U S J idText base actor request store).1 = .ok route
  deletes : ∀ actor id env (store : AuditedStore P) route routes, HasPath payload route →
    deleteRoute id env store.routes = (.ok route, routes) →
      (deleteDynamicRoute (P := P) idText actor id env store).1 = .ok ()
  executes : ∀ actor request route elapsed (store : AuditedStore P),
    CallsRoute .default payload request →
    (auditedPermission (P := P) parseQuery checkNetloc .default actor request route
      elapsed).2 = .ok () →
      (auditedAccess parseQuery checkNetloc .default actor request route elapsed store).1 =
        .ok ()

end Access

section Lengths

variable {P : Scalars} {parseQuery : List Char → List (String × String)}
  {checkNetloc : List Char → Bool} {payload : DynamicRouteWriteRequest P}
  {request : HttpRequest} {actor : Actor} {idText : Nat → String}

/-- Taking a front of the kept characters does not lengthen a text. -/
theorem length_shown_le (text : List Char) :
    ((removeUnsafe text).takeWhile fun c => !endsPath c).length ≤ text.length :=
  (List.takeWhile_prefix _).length_le.trans (List.length_filter_le _ _)

/-- The path of the URL is at most nine characters longer than prefix and path. -/
theorem length_urlPath_le {path : List Char} (hCalls : CallsRoute .default payload request)
    (h : request.urlPath checkNetloc = some path) :
    path.length ≤ 9 + (payload.routePrefix.length + payload.path.length) := by
  have hHost : ∀ c ∈ removeUnsafe request.host, isDelimiter c = false := fun c hc =>
    hCalls.host c (List.mem_of_mem_filter hc)
  rw [HttpRequest.urlPath_eq, urlPath_of_plain_host hCalls.path hHost] at h
  split at h
  · cases h
    have hShown := length_shown_le (payload.routePrefix.toList ++ '/' :: payload.path.toList)
    have hBase : ApiV1Prefix.default.text.length = 7 := by decide
    rw [List.length_append, List.length_cons, hBase]
    rw [List.length_append, List.length_cons, String.length_toList,
      String.length_toList] at hShown
    omega
  · cases h

/-- The records of the permission check have the path of the URL. -/
theorem auditedPermission_record {base : ApiV1Prefix} {route : ApiRoute} {elapsed : Nat}
    {record : AuditLog P}
    (h : record ∈ (auditedPermission parseQuery checkNetloc base actor request route
      elapsed).1) :
    request.urlPath checkNetloc = some record.apiRoute ∧
      record.username = actor.user.username := by
  rw [auditedPermission] at h
  cases hPath : request.urlPath checkNetloc with
  | none =>
      rw [hPath] at h
      cases h
  | some path =>
      rw [hPath] at h
      dsimp only at h
      split at h
      · cases List.mem_singleton.mp h
        exact ⟨rfl, rfl⟩
      · cases List.mem_singleton.mp h
        exact ⟨rfl, rfl⟩

end Lengths

section Breaks

variable {P : Scalars} {U : Unicode} {S : Sqlglot} {J : JsonFormat P} {idText : Nat → String}
  {parseQuery : List Char → List (String × String)} {checkNetloc : List Char → Bool}
  {payload : DynamicRouteWriteRequest P}

/-- A record that fits is committed, and the next one follows. -/
theorem writeAudits_cons_of_fits {record : AuditLog P} (hFits : record.Fits)
    (rest : List (AuditLog P)) (store : AuditedStore P) :
    writeAudits (record :: rest) store =
      writeAudits rest (store.recorded store.routes record) :=
  Effect.bind_of_ok ((writeAudit_eq record store).trans (if_pos hFits))

/-- One that does not is the last. -/
theorem writeAudits_cons_of_long {record : AuditLog P} (hLong : ¬ record.Fits)
    (rest : List (AuditLog P)) (store : AuditedStore P) :
    writeAudits (record :: rest) store = (.error (.other "DBAPIError"), store) :=
  Effect.bind_of_error ((writeAudit_eq record store).trans (if_neg hLong))

/-- Records that fit are written. -/
theorem writeAudits_of_fits {records : List (AuditLog P)} (h : ∀ record ∈ records, record.Fits)
    (store : AuditedStore P) : (writeAudits records store).1 = .ok () := by
  induction records generalizing store with
  | nil => rfl
  | cons record rest ih =>
      rw [writeAudits_cons_of_fits (h record List.mem_cons_self)]
      exact ih (fun other hOther => h other (List.mem_cons_of_mem _ hOther)) _

/-- While its record fits, the audited check has the result of the check. -/
theorem auditedAccess_of_fits {base : ApiV1Prefix} {actor : Actor} {request : HttpRequest}
    {route : ApiRoute} {elapsed : Nat}
    (h : ∀ record ∈ (auditedPermission (P := P) parseQuery checkNetloc base actor request route
      elapsed).1, record.Fits) (store : AuditedStore P) :
    (auditedAccess parseQuery checkNetloc base actor request route elapsed store).1 =
      (auditedPermission (P := P) parseQuery checkNetloc base actor request route
        elapsed).2.mapError .app := by
  have hWritten := writeAudits_of_fits h store
  rw [auditedAccess, Effect.bind_of_ok (Prod.ext hWritten rfl)]
  rfl

theorem fits_of_hasPath {actor : Actor} {action : String} {route : StoredRoute P.Float}
    (h : HasPath payload route) :
    (storedRecord idText actor action route).Fits ↔
      payload.routePrefix.length + payload.path.length ≤ 485 := by
  rw [fits_storedRecord, h.1, h.2]

/-- The record of a call of a route fits if the one of its management does. -/
theorem fits_permission (hShort : payload.routePrefix.length + payload.path.length ≤ 485)
    {actor : Actor} {request : HttpRequest} {route : ApiRoute} {elapsed : Nat}
    (hCalls : CallsRoute .default payload request) {record : AuditLog P}
    (h : record ∈ (auditedPermission parseQuery checkNetloc .default actor request route
      elapsed).1) : record.Fits := by
  obtain ⟨hPath, hName⟩ := auditedPermission_record h
  have hLength := length_urlPath_le hCalls hPath
  exact ⟨by rw [hName]; exact actor.user.length_le, by omega⟩

/-- Audit writing never breaks an accepted route exactly when its prefix and path
together have at most 485 characters. -/
theorem auditNeverBreaks_iff (U : Unicode) (S : Sqlglot) (J : JsonFormat P)
    (idText : Nat → String) (parseQuery : List Char → List (String × String))
    (checkNetloc : List Char → Bool) (payload : DynamicRouteWriteRequest P) :
    AuditNeverBreaks U S J idText parseQuery checkNetloc payload ↔
      payload.routePrefix.length + payload.path.length ≤ 485 := by
  constructor
  · intro hNever
    have hRoute : HasPath payload
        ⟨⟨RouteConfig.ofPayload J payload "", 0⟩, 0, 0⟩ := ⟨rfl, rfl⟩
    exact (fits_of_hasPath hRoute).mp (hNever.managementFits admin "create" _ hRoute)
  · intro hShort
    refine ⟨fun actor action route hRoute => (fits_of_hasPath hRoute).mpr hShort,
      fun actor request route elapsed hCalls record => fits_permission hShort hCalls, ?_, ?_, ?_⟩
    · intro base actor request store route routes hPrefix hPath hReaches hCall
      have hReturned : Returned request.payload route :=
        (told_runCall actor request store.routes).1 route (congrArg Prod.fst hCall)
      have hRoute : HasPath payload route :=
        ⟨hReturned.1.trans hPrefix, hReturned.2.trans hPath⟩
      rw [storeDynamicRoute_of_ok store hReaches hCall,
        if_pos ((fits_of_hasPath hRoute).mpr hShort)]
    · intro actor id env store route routes hRoute hCall
      rw [deleteDynamicRoute, Effect.bind_of_ok (onRoutes_of_eq hCall), writeAudit_eq,
        if_pos ((fits_of_hasPath hRoute).mpr hShort)]
    · intro actor request route elapsed store hCalls hAllowed
      rw [auditedAccess_of_fits (fun _ hRecord => fits_permission hShort hCalls hRecord) store,
        hAllowed]
      rfl

end Breaks

/-! ### A path of 481 characters -/

/-- A path of one segment of letters. -/
def letterPath (n : Nat) : String := String.ofList (List.replicate n 'a')

theorem length_letterPath (n : Nat) : (letterPath n).length = n := by
  rw [letterPath, String.length_ofList, List.length_replicate]

theorem mem_letterPath {n : Nat} : ∀ c ∈ (letterPath n).toList, c = 'a' := by
  rw [letterPath, String.toList_ofList]
  exact fun c hc => List.eq_of_mem_replicate hc

theorem strip_letterPath (n : Nat) : strip (letterPath n) = letterPath n :=
  strip_of_forall fun c hc => mem_letterPath c hc ▸ rfl

theorem pathOk_letterPath {n : Nat} (hLow : 1 ≤ n) (hHigh : n ≤ 500) :
    PathOk (letterPath n) := by
  have hLength := length_letterPath n
  have hChars : ∀ c ∈ (letterPath n).toList, c = 'a' := mem_letterPath
  refine ⟨hLength.symm ▸ hLow, hLength.symm ▸ hHigh, (strip_letterPath n).symm, ?_, ?_, ?_⟩
  · intro hHead
    exact absurd (hChars '/' (List.mem_of_head? hHead)) (by decide)
  · intro hLast
    exact absurd (hChars '/' (List.mem_of_getLast? hLast)) (by decide)
  · intro segment hSegment
    have hOne : pathSegments (letterPath n) = [letterPath n] := by
      rw [pathSegments, List.splitOn, List.splitOnP_eq_singleton, List.map_singleton,
        String.ofList_toList]
      intro c hc
      rw [hChars c hc]
      decide
    rw [hOne, List.mem_singleton] at hSegment
    intro hBad
    have hLetter : 'a' ∈ segment.toList := by
      rw [hSegment, letterPath, String.toList_ofList]
      exact List.mem_replicate.mpr ⟨by omega, rfl⟩
    have hNone : ∀ bad ∈ ["", ".", ".."], 'a' ∉ bad.toList := by decide
    exact hNone segment hBad hLetter

/-- A path of 481 letters. -/
def longPath : String := letterPath 481

/-- The fields of the route `alice` with this path. -/
def longFields : WriteFields Scalars.plain := { reportFields with path := longPath }

theorem longFields_ok : FieldsOk longFields :=
  ⟨reportFields_ok.1, pathOk_letterPath (by decide) (by decide), reportFields_ok.2.2.1,
    reportFields_ok.2.2.2.1, reportFields_ok.2.2.2.2⟩

/-- The payload of these fields. -/
def longPayload : DynamicRouteWriteRequest .plain :=
  { longFields with ok := longFields_ok, lower := reportFields_lower }

/-- The row of the route. -/
def longRoute : StoredRoute Scalars.plain.Float where
  config := RouteConfig.ofPayload .plain longPayload "SELECT 1"
  updatedBy := 1
  id := 7
  createdBy := 1

theorem runCall_longPayload :
    runCall .ascii (oneText "SELECT 1" selectOne) .plain
      ((createRequest longPayload).call admin) ⟨[], []⟩ =
        (.ok longRoute, ⟨[longRoute], [longRoute]⟩) := by
  rfl

/-- The paths of the registered routes are short. -/
theorem length_path_lt : ∀ route ∈ appRoutes, (route.path .default).length < 100 := by
  decide

theorem reachesService_longPayload :
    ReachesService .default (createRequest longPayload) := by
  refine raiseIf_eq_ok_iff.mpr ?_
  rintro ⟨route, hRoute, hPath, -⟩
  have hShort := length_path_lt route hRoute
  rw [hPath] at hShort
  have hSuffix : longPath.toList <:+ effectivePath .default "alice" longPath :=
    ⟨"/api/v1".toList ++ '/' :: ("alice".toList ++ ['/']), by
      rw [effectivePath, List.append_assoc, List.cons_append, List.append_assoc]
      rfl⟩
  have hLong : 481 ≤ (effectivePath .default "alice" longPath).length :=
    calc
      481 = longPath.toList.length := (String.length_toList.trans (length_letterPath 481)).symm
      _ ≤ _ := hSuffix.length_le
  change (effectivePath .default "alice" longPath).length < 100 at hShort
  omega

/-- An accepted path whose route is committed, while the request fails and leaves no
record. -/
theorem longPath_breaks :
    storeDynamicRoute .ascii (oneText "SELECT 1" selectOne) .plain Nat.repr .default admin
        (createRequest longPayload) (.opened [] []) =
      (.error (.other "DBAPIError"), ⟨⟨[longRoute], [longRoute]⟩, []⟩) ∧
      ¬ AuditNeverBreaks .ascii (oneText "SELECT 1" selectOne) .plain Nat.repr
        (fun _ => []) (fun _ => true) longPayload := by
  have hLong : ¬ (storedRecord Nat.repr admin "create" longRoute).Fits := by
    have hPrefix : longRoute.config.routePrefix.length = 5 := by decide
    have hPath : longRoute.config.path.length = 481 := length_letterPath 481
    rw [fits_storedRecord]
    omega
  constructor
  · rw [storeDynamicRoute_of_ok (.opened [] []) reachesService_longPayload runCall_longPayload]
    exact if_neg hLong
  · intro hNever
    exact hLong (hNever.managementFits admin "create" longRoute ⟨rfl, rfl⟩)

end Api
end DataApi
