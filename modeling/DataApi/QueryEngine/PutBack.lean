import DataApi.QueryEngine.LabTest
import DataApi.QueryEngine.RouteCatalogue
import DataApi.QueryEngine.RouteConflicts
import DataApi.Schemas.DynamicRouteBody
import DataApi.Schemas.User

/-!
# Putting back what was read

An administrator edits a route by reading it, changing a field, and sending it back.  A
response is no request: it has names that the write schema forbids, the id and the times
among them, and sent back whole it is refused.  Its declared fields differ from the
request that has written the route: the prefix was normalized, and the definitions come
from a JSONB column, with the names in another order and with dates and numbers as JSON
keeps them.  They are a fixed point all the same.  Sent back alone they pass the schema
and the checks of the service, and no column of the model but `updated_by` changes
(`putBack_of_run`); the database moves `updated_at` with it.
-/

namespace DataApi
namespace QueryEngine

open Library Schemas PiiCache

section Response

variable {P : Scalars}

/-- `_route_to_response`; the validation of a definition may raise. -/
def routeToResponse (route : StoredRoute P.Float) :
    Except Raised (DynamicRouteResponse P) := do
  let params ← loadEntries (storedEntries route.config.parameterDefinitions) .empty
  return {
    id := route.id
    routePrefix := route.config.routePrefix
    path := route.config.path
    description := route.config.description
    sql := route.config.originalSql
    canonicalSql := route.config.canonicalSql
    params := params
    dbType := route.config.dbType
    piiType := route.config.piiType
    responseType := route.config.responseType
    createdBy := route.createdBy
    updatedBy := route.updatedBy }

end Response

/-! ### Definitions that were read are dumped to what was stored -/

section Definitions

variable {P : Scalars} {J : JsonFormat P} {definition again : DynamicParameterDefinition P}
  {definitions loaded : Dict String (DynamicParameterDefinition P)}

/-- The dump of a default is the dump of what is read from it. -/
theorem jsonDefault_value (hJ : J.Exact) {parameterType : DynamicParameterType}
    {required : Bool} {default : PyValue P}
    (h : DefaultAccepted parameterType required default) :
    jsonDefault J (jsonDefault J default).value = jsonDefault J default := by
  unfold DefaultAccepted at h
  split at h
  · rfl
  · rcases jsonDefault_value_cases J h.2 with
      hSame | ⟨x, -, rfl, hFinite⟩ | ⟨d, -, rfl⟩ | ⟨t, -, rfl⟩
    · rw [hSame]
    · -- a number that came back as an integer stays one
      rcases hJ.number x hFinite with hNumber | ⟨n, hNumber, -⟩
      · simp only [jsonDefault, hNumber, JsonDefault.value]
      · simp only [jsonDefault, hNumber, JsonDefault.value]
    · rfl
    · rfl

theorem description_of_modelValidate {stored : StoredDefinition P.Float}
    (h : modelValidate stored = .ok again) : again.description = stored.description := by
  unfold modelValidate at h
  split at h
  · cases h
  · split at h
    · cases h
    · cases h
      rfl

/-- The dump of a definition is the dump of what is read from it. -/
theorem modelDump_of_modelValidate (hJ : J.Exact)
    (h : modelValidate (modelDump J definition) = .ok again) :
    modelDump J again = modelDump J definition := by
  obtain ⟨loaded, hLoaded, hType, hRequired, hDefault⟩ := modelValidate_modelDump J definition
  have hSame : loaded = again := by
    rw [hLoaded] at h
    exact Except.ok.inj h
  subst hSame
  have hDescription := description_of_modelValidate hLoaded
  simp [modelDump, hType, hRequired, hDefault, hDescription,
    jsonDefault_value hJ definition.accepted]

theorem lookup_serializeDefinitions (name : String) :
    (serializeDefinitions J definitions).lookup name =
      (definitions.get? name).map (modelDump J) := by
  ext stored
  rw [← mem_storedEntries, mem_storedEntries_serializeDefinitions]
  simp [eq_comm]

/-- What was read is serialized to what was stored. -/
theorem serializeDefinitions_of_deserializeDefinitions (hJ : J.Exact)
    (h : deserializeDefinitions (serializeDefinitions J definitions) = .ok loaded) :
    serializeDefinitions J loaded = serializeDefinitions J definitions := by
  refine Finmap.ext_lookup fun name => ?_
  rw [lookup_serializeDefinitions, lookup_serializeDefinitions]
  obtain ⟨hRead, hOther⟩ := get?_of_deserializeDefinitions J h name
  cases hGet : definitions.get? name with
  | none => rw [hOther hGet]
  | some definition =>
      obtain ⟨again, hAgain, hLoaded⟩ := hRead definition hGet
      rw [hLoaded]
      exact congrArg some (modelDump_of_modelValidate hJ hAgain)

end Definitions

/-! ### The declared fields are accepted -/

section Requests

variable {P : Scalars} {U : Unicode} {S : Sqlglot} {J : JsonFormat P}
  {payload : DynamicRouteWriteRequest P} {route : StoredRoute P.Float}

/-- A prefix that was normalized is not changed again. -/
theorem normalizePrefix_of_ok (U : Unicode) {routePrefix : String} (h : PrefixOk routePrefix)
    (hLower : IsLower routePrefix) : normalizePrefix U routePrefix = routePrefix := by
  have hStrip : strip routePrefix = routePrefix :=
    strip_of_forall fun c hc => isSpace_of_isPrefixChar (List.all_eq_true.mp h.2.2.1 c hc)
  rw [normalizePrefix, hStrip]
  exact (lower_of_prefixOk ⟨U.lower, U.lower_of_lower⟩ h hLower).symm

/-- The fields of a payload with other definitions of the same names, and no lab test. -/
def putBackFields (fields : WriteFields P)
    (params : Dict String (DynamicParameterDefinition P)) : WriteFields P :=
  { fields with params := params, labTest := false, labTestParams := .empty }

/-- The request that reading a route and sending it back makes of a payload. -/
def putBackRequest (payload : DynamicRouteWriteRequest P)
    (params : Dict String (DynamicParameterDefinition P))
    (hKeys : ∀ name, name ∈ params.keys ↔ name ∈ payload.params.keys) :
    DynamicRouteWriteRequest P where
  toWriteFields := putBackFields payload.toWriteFields params
  ok := ⟨payload.ok.1, payload.ok.2.1, payload.ok.2.2.1,
    fun name hName => payload.ok.2.2.2.1 name ((hKeys name).mp hName),
    fun hPaginated name hName =>
      payload.ok.2.2.2.2 hPaginated name ((hKeys name).mp hName)⟩
  lower := payload.lower

variable {params : Dict String (DynamicParameterDefinition P)}
  {hKeys : ∀ name, name ∈ params.keys ↔ name ∈ payload.params.keys}

theorem validateWriteRequest_putBack (U : Unicode) :
    validateWriteRequest U (putBackFields payload.toWriteFields params) =
      some (putBackRequest payload params hKeys) := by
  have hNormal : normalizePrefix U payload.routePrefix = payload.routePrefix :=
    normalizePrefix_of_ok U payload.ok.1 payload.lower
  have hFields : { putBackFields payload.toWriteFields params with
      routePrefix := normalizePrefix U payload.routePrefix } =
        putBackFields payload.toWriteFields params := by
    rw [hNormal]
    rfl
  unfold validateWriteRequest
  dsimp only
  split
  · refine congrArg some ?_
    unfold putBackRequest
    congr 1
  · rename_i hNot
    refine absurd ?_ hNot
    rw [show (putBackFields payload.toWriteFields params).routePrefix =
        payload.routePrefix from rfl, hFields]
    exact (putBackRequest payload params hKeys).ok

theorem validatePayload_putBack {validated : ValidatedSql}
    (h : validatePayload U S payload = .ok validated) :
    validatePayload U S (putBackRequest payload params hKeys) = .ok validated := by
  obtain ⟨hValidate, hContract⟩ := validatePayload_eq_ok_iff.mp h
  refine validatePayload_eq_ok_iff.mpr ⟨hValidate, fun name hName => ?_, ?_⟩
  · exact hContract.identifiers name ((hKeys name).mp hName)
  · rw [hContract.names_eq]
    ext name
    rw [List.mem_toFinset, List.mem_toFinset]
    exact (hKeys name).symm

/-- A route that a payload has written can be read, and what is read is a request that
writes it again. -/
theorem putBack_of_writtenBy (hJ : J.Exact) (h : WrittenBy U S J payload route) :
    ∃ response again, routeToResponse route = .ok response ∧
      validateWriteRequest U response.body = some again ∧
      again.toWriteFields = response.body ∧ WrittenBy U S J again route := by
  obtain ⟨validated, hValid, hConfig⟩ := h
  obtain ⟨loaded, hLoaded⟩ := deserializeDefinitions_serializeDefinitions J payload.params
  have hEntries : loadEntries (storedEntries route.config.parameterDefinitions) .empty =
      .ok loaded := by
    rw [hConfig]
    exact deserializeDefinitions_eq_ok_iff.mp hLoaded
  have hKeys := mem_keys_of_deserializeDefinitions J hLoaded
  have hResponse : ∃ response, routeToResponse route = .ok response ∧
      response.body = putBackFields payload.toWriteFields loaded := by
    refine ⟨_, bind_eq_ok_iff.mpr ⟨loaded, hEntries, rfl⟩, ?_⟩
    simp only [DynamicRouteResponse.body, putBackFields, hConfig,
      RouteConfig.ofPayload]
  obtain ⟨response, hResponse, hBody⟩ := hResponse
  refine ⟨response, putBackRequest payload loaded hKeys, hResponse, ?_, hBody.symm, validated,
    validatePayload_putBack hValid, ?_⟩
  · rw [hBody]
    exact validateWriteRequest_putBack U
  · rw [hConfig]
    have hStored := serializeDefinitions_of_deserializeDefinitions hJ hLoaded
    simp only [RouteConfig.ofPayload, putBackRequest, putBackFields, hStored]

end Requests

/-! ### The service -/

section Service

open UniqueTable

variable {P : Scalars} {U : Unicode} {S : Sqlglot} {J : JsonFormat P} {B : Builtins P}
  {C : Collation} {catalogue : Catalogue P.Float} {rows : List (StoredRoute P.Float)}

/-- Every route of a catalogue was written by a payload that passes its checks. -/
def AllWritten (U : Unicode) (S : Sqlglot) (J : JsonFormat P)
    (catalogue : Catalogue P.Float) : Prop :=
  ∀ route ∈ catalogue.entries, ∃ payload, WrittenBy U S J payload route

/-- The routes of a catalogue into which one was put, at its id. -/
theorem allWritten_of_byIdent {changed : Catalogue P.Float}
    {payload : DynamicRouteWriteRequest P} {route : StoredRoute P.Float}
    (h : AllWritten U S J catalogue) (hRoute : WrittenBy U S J payload route)
    (hChanged : ∀ id, changed.byIdent id =
      if route.id = id then some route else catalogue.byIdent id) :
    AllWritten U S J changed := by
  intro other hOther
  have hFound := changed.byIdent_eq_some_iff.mpr ⟨hOther, rfl⟩
  rw [hChanged] at hFound
  split at hFound
  · cases hFound
    exact ⟨payload, hRoute⟩
  · exact h other (catalogue.byIdent_eq_some_iff.mp hFound).1

theorem allWritten_step (h : AllWritten U S J catalogue) (request : RouteRequest P) :
    AllWritten U S J ((catalogueService U S J B C).step catalogue request).2 := by
  change AllWritten U S J (catalogue.settle (catalogue.answer U S J B C request)).2
  cases request with
  | write call =>
      cases hRun : catalogue.runCall U S J call with
      | error raised =>
          rw [Catalogue.answer, hRun]
          exact h
      | ok written =>
          obtain ⟨route, changed⟩ := written
          rw [Catalogue.answer, hRun]
          cases call with
          | create payload actor env =>
              obtain ⟨hWritten, -, -, hInsert⟩ := create_eq_ok hRun
              exact allWritten_of_byIdent h hWritten (byIdent_of_insert? hInsert)
          | update id payload actor env =>
              obtain ⟨hWritten, _, -, -, -, hReplace⟩ := update_eq_ok hRun
              exact allWritten_of_byIdent h hWritten (byIdent_of_replace? hReplace)
          | delete id env =>
              obtain ⟨-, rfl⟩ := delete_eq_ok hRun
              change AllWritten U S J (catalogue.erase route.id)
              intro other hOther
              have hFound := (catalogue.erase route.id).byIdent_eq_some_iff.mpr ⟨hOther, rfl⟩
              rw [byIdent_erase] at hFound
              split at hFound
              · cases hFound
              · exact h other (catalogue.byIdent_eq_some_iff.mp hFound).1
  | get id =>
      have hRead := settle_read catalogue (catalogue.get id) (RouteAnswer.route (P := P))
      exact hRead.symm ▸ h
  | list => exact h
  | execute clients mapper routePrefix path rawParams =>
      rw [Catalogue.answer, ← bind_assoc]
      have hRead := settle_read catalogue ((catalogue.byKey (routePrefix, path)).elim
        (.error (.app (notFoundError "Dynamic route"))) .ok >>= fun route =>
          executeStored U S B clients mapper route rawParams) RouteAnswer.response
      exact hRead.symm ▸ h

/-- Every route that the service ever holds was written by a payload that passes its
checks. -/
theorem writtenBy_of_run (requests : List (RouteRequest P)) {route : StoredRoute P.Float}
    (hRoute : route ∈ ((routeService U S J B C).run [] requests).2) :
    ∃ payload, WrittenBy U S J payload route := by
  obtain ⟨-, hRows⟩ := (routeService_refines (U := U) (S := S) (J := J) (B := B)
    (C := C)).run requests .nil
  have hEmpty : AllWritten U S J (empty : Catalogue P.Float) := fun route hMem =>
    absurd hMem (Finset.notMem_empty route)
  have hStep : ∀ (catalogue : Catalogue P.Float) request, AllWritten U S J catalogue →
      AllWritten U S J ((catalogueService U S J B C).step catalogue request).2 :=
    fun _ request h => allWritten_step h request
  have hAll : AllWritten U S J ((catalogueService U S J B C).run empty requests).2 :=
    Machine.run_invariant hStep requests hEmpty
  exact hAll route ((hRows.mem route).mp hRoute)

/-- The environment raises nothing. -/
def CallEnvironment.Quiet (env : CallEnvironment P) : Prop :=
  env.flush = none ∧ env.refresh = none ∧ env.commit = none

/-- An update with a payload that writes the route again, without a lab test. -/
theorem update_putBack {route : StoredRoute P.Float} {again : DynamicRouteWriteRequest P}
    (hRoute : route ∈ catalogue.entries) (hWritten : WrittenBy U S J again route)
    (hLab : again.labTest = false) (actor : Nat) {env : CallEnvironment P}
    (hEnv : env.Quiet) :
    ∃ changed, catalogue.update U S J route.id again actor env =
        .ok ({ route with updatedBy := actor }, changed) ∧
      catalogue.replace? { route with updatedBy := actor } = some changed := by
  obtain ⟨validated, hValid, hConfig⟩ := hWritten
  obtain ⟨hFlush, hRefresh, hCommit⟩ := hEnv
  obtain ⟨changed, hReplace⟩ := catalogue.exists_replace? hRoute
    (e := { route with updatedBy := actor }) rfl rfl
  have hFound : catalogue.get route.id = .ok route := by
    rw [Catalogue.get, catalogue.byIdent_eq_some_iff.mpr ⟨hRoute, rfl⟩]
    rfl
  have hKey : catalogue.byKey (again.routePrefix, again.path) = some route := by
    refine catalogue.byKey_eq_some_iff.mpr ⟨hRoute, ?_⟩
    rw [StoredRoute.key, hConfig]
    rfl
  have hUpdated : ({ route with
      config := .ofPayload J again validated.canonicalSql, updatedBy := actor } :
        StoredRoute P.Float) = { route with updatedBy := actor } := by
    rw [← hConfig]
  have hLabTest : runLabTestIfRequested U env.clients again validated.canonicalSql = .ok () := by
    simp [runLabTestIfRequested, hLab]
  have hWrite : Catalogue.write env (some changed) = .ok changed := by
    simp only [Catalogue.write, hFlush, hRefresh, hCommit]
    rfl
  refine ⟨changed, ?_, hReplace⟩
  -- each step of the update succeeds
  have hCollision : raiseIf (∃ other ∈ some route, other.id ≠ route.id) routeExists = .ok () :=
    raiseIf_eq_ok_iff.mpr (by simp)
  simp only [Catalogue.update]
  refine bind_eq_ok_iff.mpr ⟨route, hFound, ?_⟩
  refine bind_eq_ok_iff.mpr ⟨validated, by rw [hValid]; rfl, ?_⟩
  refine bind_eq_ok_iff.mpr ⟨(), by rw [hKey, hCollision]; rfl, ?_⟩
  rw [hUpdated, hReplace, hLabTest]
  change Except.mapError conflictOfIntegrity (Catalogue.write env (some changed) >>= _) = _
  rw [hWrite]
  rfl

/-- What an update with such a payload does to the rows of the service: the route has
another `updated_by`, and every other route is as it was. -/
structure PutsBack (U : Unicode) (S : Sqlglot) (J : JsonFormat P) (B : Builtins P)
    (C : Collation) (rows : List (StoredRoute P.Float)) (route : StoredRoute P.Float)
    (again : DynamicRouteWriteRequest P) (actor : Nat) (env : CallEnvironment P) : Prop where
  answer : ((routeService U S J B C).step rows (.write (.update route.id again actor env))).1 =
    .ok (.route { route with updatedBy := actor })
  mem : ∀ other,
    other ∈ ((routeService U S J B C).step rows
        (.write (.update route.id again actor env))).2 ↔
      other = { route with updatedBy := actor } ∨ other ∈ rows ∧ other.id ≠ route.id

theorem putsBack_of_writtenBy (hRows : Represents rows catalogue) {route : StoredRoute P.Float}
    {again : DynamicRouteWriteRequest P} (hRoute : route ∈ rows)
    (hWritten : WrittenBy U S J again route) (hLab : again.labTest = false) (actor : Nat)
    {env : CallEnvironment P} (hEnv : env.Quiet) :
    PutsBack U S J B C rows route again actor env := by
  obtain ⟨changed, hUpdate, hReplace⟩ :=
    update_putBack ((hRows.mem route).mp hRoute) hWritten hLab actor hEnv
  have hAnswer : catalogue.answer U S J B C (.write (.update route.id again actor env)) =
      .ok (.route { route with updatedBy := actor }, changed) := by
    change (catalogue.update U S J route.id again actor env >>= _) = _
    rw [hUpdate]
    rfl
  have hSettled := (callService_matches (U := U) (S := S) (J := J) (B := B) (C := C) hRows
    (.write (.update route.id again actor env))).settle hRows
  rw [hAnswer] at hSettled
  refine ⟨hSettled.1, fun other => (hSettled.2.mem other).trans ?_⟩
  rw [hRows.mem]
  -- the entries of the changed catalogue, by their ids
  have hFound := byIdent_of_replace? hReplace other.id
  constructor
  · intro hOther
    rw [changed.byIdent_eq_some_iff.mpr ⟨hOther, rfl⟩] at hFound
    split at hFound
    · exact .inl (Option.some.inj hFound)
    · rename_i hOtherId
      exact .inr ⟨(catalogue.byIdent_eq_some_iff.mp hFound.symm).1, fun h => hOtherId h.symm⟩
  · rintro (rfl | ⟨hOther, hOtherId⟩)
    · exact (changed.byIdent_eq_some_iff.mp (hFound.trans (if_pos rfl))).1
    · rw [if_neg fun h => hOtherId h.symm,
        catalogue.byIdent_eq_some_iff.mpr ⟨hOther, rfl⟩] at hFound
      exact (changed.byIdent_eq_some_iff.mp hFound).1

/-- A body that is sent back for a route of a table: the whole response is refused, and its
declared fields are accepted as they are and put the route back. -/
structure SentBack (U : Unicode) (S : Sqlglot) (J : JsonFormat P) (B : Builtins P)
    (C : Collation) (rows : List (StoredRoute P.Float)) (route : StoredRoute P.Float)
    (response : DynamicRouteResponse P) (createdAt updatedAt : String) : Prop where
  refused : validateBody U (response.json createdAt updatedAt) = none
  accepted : ∃ again, validateBody U (declared (response.json createdAt updatedAt)) =
      some again ∧ again.toWriteFields = response.body ∧
    ∀ actor env, env.Quiet → PutsBack U S J B C rows route again actor env

/-- After any requests, what is read of a route is no request as a whole; its declared
fields pass the schema without being changed, and an update with them leaves every column
of every route as it was, but for `updated_by` of the route. -/
theorem putBack_of_run (hJ : J.Exact) (requests : List (RouteRequest P))
    (route : StoredRoute P.Float)
    (hRoute : route ∈ ((routeService U S J B C).run [] requests).2) :
    ∃ response, routeToResponse route = .ok response ∧ ∀ createdAt updatedAt,
      SentBack U S J B C ((routeService U S J B C).run [] requests).2 route response createdAt
        updatedAt := by
  obtain ⟨payload, hWritten⟩ := writtenBy_of_run requests hRoute
  obtain ⟨response, again, hResponse, hValid, hBody, hAgain⟩ := putBack_of_writtenBy hJ hWritten
  refine ⟨response, hResponse, fun createdAt updatedAt => ?_⟩
  refine ⟨validateBody_json U response createdAt updatedAt, again, ?_, hBody,
    fun actor env hEnv => ?_⟩
  · rw [validateBody_declared_json, hValid]
  · obtain ⟨-, hRows⟩ := (routeService_refines (U := U) (S := S) (J := J) (B := B)
      (C := C)).run requests .nil
    have hLab : again.labTest = false := by
      rw [hBody]
      rfl
    exact putsBack_of_writtenBy hRows hRoute hAgain hLab actor hEnv

end Service

/-! ### A route with a default -/

/-- The service with the text of the route `alice/window`. -/
abbrev windowService :=
  routeService .ascii (oneText "SELECT :d, :x" selectWindow) .plain .plain .codePoint

/-- The creation of the route. -/
def windowRequest : RouteRequest .plain :=
  .write (.create windowPayload 1 ⟨7, emptyClients, none, none, none⟩)

theorem windowRoute_mem : windowRoute ∈ (windowService.run [] [windowRequest]).2 := by
  have hCreated : (callService .ascii (oneText "SELECT :d, :x" selectWindow) .plain .plain
      .codePoint windowRequest ⟨[], []⟩).2 = ⟨[windowRoute], [windowRoute]⟩ := by
    change ((runCall _ _ _ _ >>= fun route => pure (RouteAnswer.route route)) _).2 = _
    rw [Effect.bind_of_ok windowRoute_created]
    rfl
  change windowRoute ∈ (callService _ _ _ _ _ windowRequest ⟨[], []⟩).2.committed
  rw [hCreated]
  exact List.mem_singleton_self _

/-- The optional date with its default is read as a text, and accepted. -/
theorem putBack_of_windowRequest : ∃ response, routeToResponse windowRoute = .ok response ∧
    SentBack .ascii (oneText "SELECT :d, :x" selectWindow) .plain .plain .codePoint
      (windowService.run [] [windowRequest]).2 windowRoute response "2026-01-02T00:00:00"
      "2026-01-02T00:00:00" := by
  obtain ⟨response, hResponse, hSent⟩ :=
    putBack_of_run plain_exact [windowRequest] windowRoute windowRoute_mem
  exact ⟨response, hResponse, hSent _ _⟩

end QueryEngine
end DataApi
