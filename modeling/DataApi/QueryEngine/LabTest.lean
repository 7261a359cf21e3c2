import DataApi.QueryEngine.RouteExecution

/-!
# The lab test and the execution of a route

Before it stores a route, the service may run the statement with the values of
the request.  Later the route is executed with the values of a query string, on
definitions that were written as JSON and read again, and on SQL that was
rendered again.  Both come down to one call of a database client, and with the
same raw values these calls agree (`sameCall_of_stored`).
-/

namespace DataApi
namespace QueryEngine

open Library Schemas PiiCache

/-- What is assumed of `sqlglot` here: canonical SQL is accepted again and
rendered to the same text. -/
structure Rerenders (U : Unicode) (S : Sqlglot) : Prop extends RendersBack U S where
  same_text : ∀ sql dialect tree tree', S.parse dialect sql = .ok [some tree] →
    S.parse dialect (canonicalSql S dialect tree) = .ok [some tree'] →
    canonicalSql S dialect tree' = canonicalSql S dialect tree

/-- A call of a database client: the database, the SQL text, the declared binds
and the values of the parameters. -/
structure DatabaseCall (P : Scalars) where
  dbType : Dialect
  sql : String
  declared : List BindParam
  parameters : Dict String (PyValue P)

namespace DatabaseCall

variable {P : Scalars}

/-- Send the call to the client of its database. -/
def send (U : Unicode) (clients : Clients P) (call : DatabaseCall P) :
    Except Raised (List (Row P)) := do
  let client ← clientFor clients call.dbType
  client.execute ⟨(text U call.sql).items, call.declared⟩ call.parameters

/-- The same SQL for the same database, with the same binds and types in any
order, and the same parameter mapping. -/
structure Same (call call' : DatabaseCall P) : Prop where
  dbType : call.dbType = call'.dbType
  sql : call.sql = call'.sql
  declared : call.declared.Perm call'.declared
  parameters : call.parameters.Agrees call'.parameters

end DatabaseCall

/-- The binds that the definitions declare. -/
def declaredBinds {P : Scalars} (definitions : Dict String (DynamicParameterDefinition P)) :
    List BindParam :=
  definitions.entries.map fun entry =>
    ⟨entry.1, entry.2.type = .stringList, sqlalchemyType entry.2.type⟩

/-- The response of a route of type `data` to the rows of its query. -/
def respond {P : Scalars} (B : Builtins P) (mapper : Option AccountMapInMemory)
    (route : StoredRoute P.Float) (rows : List (Row P)) :
    Except Raised (ExecutionResponse P) := do
  let mapped ← mapPii B mapper route rows
  return .rows mapped.1 mapped.2

/-- A raw value that is the string or the non-empty list of strings `items`. -/
def IsStrings {P : Scalars} (value : PyValue P) (items : List String) : Prop :=
  items ≠ [] ∧ rawItems value = items.map .str

/-- The query string carries the same names and values as the mapping. -/
structure SameQuery {P : Scalars} (values : Dict String (PyValue P))
    (rawParams : List (String × String)) : Prop where
  carried : ∀ name value, values.get? name = some value →
    IsStrings value ((rawParams.filter fun item => item.1 = name).map Prod.snd)
  others : ∀ name, values.get? name = none → name ∉ rawParams.map Prod.fst

section Calls

variable {P : Scalars} {U : Unicode} {S : Sqlglot} {J : JsonFormat P}

theorem buildBoundStatement_eq_ok {sql : String}
    {definitions : Dict String (DynamicParameterDefinition P)} :
    buildBoundStatement U sql definitions =
      .ok ⟨(text U sql).items, declaredBinds definitions⟩ ↔
      ∀ name ∈ definitions.keys, name ∈ (text U sql).bindNames := by
  rw [← buildBoundStatement_eq_ok_iff]
  constructor
  · exact fun h => ⟨_, h⟩
  · rintro ⟨statement, h⟩
    rw [buildBoundStatement, TextClause.bindparams] at h ⊢
    split at h
    · rename_i hAll
      rw [if_pos hAll]
      rfl
    · cases h

/-! ### The same raw values -/

/-- Collected from a mapping or from the query string, the values are the same. -/
theorem collectRawValues_agrees {values : Dict String (PyValue P)}
    {rawParams : List (String × String)} (h : SameQuery values rawParams) :
    (collectRawValues (.mapping values)).Agrees
      (collectRawValues (.queryParams rawParams : RawValues P)) := by
  intro name
  rw [get?_collectRawValues_mapping, get?_collectRawValues_queryParams]
  cases hGet : values.get? name with
  | none =>
      rw [if_neg (h.others name hGet)]
      rfl
  | some value =>
      obtain ⟨hNe, hItems⟩ := h.carried name value hGet
      have hMem : name ∈ rawParams.map Prod.fst := by
        obtain ⟨item, hItem⟩ := List.exists_mem_of_ne_nil _ hNe
        obtain ⟨pair, hPair, -⟩ := List.mem_map.mp hItem
        obtain ⟨hPair, hName⟩ := List.mem_filter.mp hPair
        exact List.mem_map.mpr ⟨pair, hPair, of_decide_eq_true hName⟩
      rw [if_pos hMem, Option.map_some, hItems, List.map_map]
      rfl

/-- A definition that was read back casts what the original one does. -/
theorem castParameter_of_modelValidate (hJ : J.Exact)
    {supplied supplied' : Dict String (List (PyValue P))} {name : String}
    (hSupplied : supplied.get? name = supplied'.get? name)
    {definition again : DynamicParameterDefinition P}
    (hAgain : modelValidate (modelDump J definition) = .ok again) {value : PyValue P}
    (h : castParameter supplied name definition = .ok value) :
    castParameter supplied' name again = .ok value := by
  obtain ⟨loaded, hLoaded, hType, hRequired, hDefault⟩ :=
    modelValidate_modelDump J definition
  obtain rfl : again = loaded := Except.ok.inj (hAgain.symm.trans hLoaded)
  cases hGet : supplied.get? name with
  | some values =>
      rw [castParameter, hGet] at h
      rw [castParameter, ← hSupplied, hGet, hType]
      exact h
  | none =>
      cases hOptional : definition.required with
      | true =>
          rw [castParameter, hGet, hOptional] at h
          cases h
      | false =>
          -- the default was written as JSON and read again
          rw [castParameter_of_missing hGet hOptional] at h
          rw [castParameter_of_missing (hSupplied ▸ hGet) (hRequired.trans hOptional),
            hType, hDefault]
          exact castDefault_jsonDefault hJ h

/-- The definitions read back cast the query string to what the original ones
make of the mapping. -/
theorem castParameterValues_agrees (hJ : J.Exact)
    {definitions loaded : Dict String (DynamicParameterDefinition P)}
    (hLoad : deserializeDefinitions (serializeDefinitions J definitions) = .ok loaded)
    {values : Dict String (PyValue P)} {rawParams : List (String × String)}
    (hQuery : SameQuery values rawParams) {parameters : Dict String (PyValue P)}
    (h : castParameterValues definitions (.mapping values) = .ok parameters) :
    ∃ parameters', castParameterValues loaded (.queryParams rawParams) = .ok parameters' ∧
      parameters.Agrees parameters' := by
  have hCasts := casts_of_castParameterValues h
  have hSupplied := collectRawValues_agrees hQuery
  have hKeys := mem_keys_of_deserializeDefinitions J hLoad
  -- each definition read back has the value of the one it was written from
  have hDeclared : ∀ entry ∈ loaded.entries, ∃ value,
      castParameter (collectRawValues (.queryParams rawParams)) entry.1 entry.2 =
        .ok value ∧ parameters.get? entry.1 = some value := by
    rintro ⟨name, again⟩ hEntry
    have hAgain := (loaded.mem_entries_iff _ _).mp hEntry
    obtain ⟨definition, hGet⟩ := (definitions.mem_keys_iff name).mp
      ((hKeys name).mp (List.mem_map.mpr ⟨_, hEntry, rfl⟩))
    obtain ⟨again', hRead, hAgain'⟩ :=
      (get?_of_deserializeDefinitions J hLoad name).1 definition hGet
    obtain rfl : again' = again := Option.some.inj (hAgain'.symm.trans hAgain)
    obtain ⟨value, hValue, hParameter⟩ := hCasts.declared (name, definition)
      ((definitions.mem_entries_iff _ _).mpr hGet)
    exact ⟨value, castParameter_of_modelValidate hJ (hSupplied name) hRead hValue, hParameter⟩
  obtain ⟨parameters', hParameters'⟩ :
      ∃ parameters', castParameterValues loaded (.queryParams rawParams) = .ok parameters' := by
    refine exists_castParameterValues (fun name hName => ?_) fun entry hEntry =>
      (hDeclared entry hEntry).imp fun _ h => h.1
    rw [hKeys]
    refine hCasts.known name ?_
    rwa [Dict.mem_keys_iff, hSupplied name, ← Dict.mem_keys_iff]
  refine ⟨parameters', hParameters', fun name => ?_⟩
  have hCasts' := casts_of_castParameterValues hParameters'
  by_cases hName : name ∈ loaded.keys
  · obtain ⟨again, hAgain⟩ := (loaded.mem_keys_iff name).mp hName
    have hEntry := (loaded.mem_entries_iff _ _).mpr hAgain
    obtain ⟨value, hValue, hParameter⟩ := hDeclared _ hEntry
    obtain ⟨value', hValue', hParameter'⟩ := hCasts'.declared _ hEntry
    cases hValue.symm.trans hValue'
    exact hParameter.trans hParameter'.symm
  · rw [hCasts'.others name hName, hCasts.others name fun hMem => hName ((hKeys name).mpr hMem)]

theorem mem_declaredBinds {definitions : Dict String (DynamicParameterDefinition P)}
    {bind : BindParam} :
    bind ∈ declaredBinds definitions ↔ ∃ definition,
      definitions.get? bind.name = some definition ∧
        bind = ⟨bind.name, definition.type = .stringList, sqlalchemyType definition.type⟩ := by
  rw [declaredBinds, List.mem_map]
  constructor
  · rintro ⟨⟨name, definition⟩, hEntry, rfl⟩
    exact ⟨definition, (definitions.mem_entries_iff _ _).mp hEntry, rfl⟩
  · rintro ⟨definition, hGet, hBind⟩
    exact ⟨_, (definitions.mem_entries_iff _ _).mpr hGet, hBind.symm⟩

theorem nodup_declaredBinds (definitions : Dict String (DynamicParameterDefinition P)) :
    (declaredBinds definitions).Nodup := by
  refine List.Nodup.of_map BindParam.name ?_
  rw [declaredBinds, List.map_map]
  exact definitions.nodup

/-- The definitions read back declare the same binds. -/
theorem declaredBinds_perm {definitions loaded : Dict String (DynamicParameterDefinition P)}
    (hLoad : deserializeDefinitions (serializeDefinitions J definitions) = .ok loaded) :
    (declaredBinds definitions).Perm (declaredBinds loaded) := by
  rw [List.perm_ext_iff_of_nodup (nodup_declaredBinds _) (nodup_declaredBinds _)]
  intro bind
  obtain ⟨hRead, hOthers⟩ := get?_of_deserializeDefinitions J hLoad bind.name
  rw [mem_declaredBinds, mem_declaredBinds]
  have hType : ∀ definition again, modelValidate (modelDump J definition) = .ok again →
      again.type = definition.type := by
    intro definition again hAgain
    obtain ⟨loaded', hLoaded, hType, -⟩ := modelValidate_modelDump J definition
    cases hAgain.symm.trans hLoaded
    exact hType
  constructor
  · rintro ⟨definition, hGet, hBind⟩
    obtain ⟨again, hAgain, hGet'⟩ := hRead definition hGet
    exact ⟨again, hGet', by rwa [hType definition again hAgain]⟩
  · rintro ⟨again, hGet', hBind⟩
    cases hGet : definitions.get? bind.name with
    | none => cases (hOthers hGet).symm.trans hGet'
    | some definition =>
        obtain ⟨again', hAgain, hSame⟩ := hRead definition hGet
        obtain rfl : again' = again := Option.some.inj (hSame.symm.trans hGet')
        exact ⟨definition, rfl, by rwa [hType definition again' hAgain] at hBind⟩

/-! ### The two calls -/

/-- A lab test that succeeds is one call. -/
theorem labTest_eq_send {clients : Clients P} {payload : DynamicRouteWriteRequest P}
    {sql : String} (hLab : payload.labTest = true)
    (h : runLabTestIfRequested U clients payload sql = .ok ()) :
    ∃ parameters,
      castParameterValues payload.params (.mapping payload.labTestParams) = .ok parameters ∧
      (∀ name ∈ payload.params.keys, name ∈ (text U sql).bindNames) ∧
      ∀ clients, runLabTestIfRequested U clients payload sql =
        (DatabaseCall.mk payload.dbType sql (declaredBinds payload.params)
          parameters).send U clients >>= fun _ => .ok () := by
  rw [runLabTestIfRequested, if_pos hLab, bind_eq_ok_iff] at h
  obtain ⟨parameters, hParameters, h⟩ := h
  rw [bind_eq_ok_iff] at h
  obtain ⟨statement, hStatement, -⟩ := h
  have hBinds := buildBoundStatement_eq_ok_iff.mp ⟨statement, hStatement⟩
  refine ⟨parameters, hParameters, hBinds, fun clients => ?_⟩
  rw [runLabTestIfRequested, if_pos hLab, hParameters, buildBoundStatement_eq_ok.mpr hBinds]
  change (clientFor clients payload.dbType >>= fun client => _ >>= _) =
    (clientFor clients payload.dbType >>= _) >>= _
  rw [bind_assoc]
  rfl

/-- An execution that passes its checks is one call. -/
theorem executeStored_eq_send {route : StoredRoute P.Float}
    (hData : route.config.responseType = .data) {validated : ValidatedSql}
    {definitions : Dict String (DynamicParameterDefinition P)}
    (hValidate : validate U S route.config.canonicalSql route.config.dbType =
      .ok validated)
    (hLoad : deserializeDefinitions route.config.parameterDefinitions = .ok definitions)
    (hContract : MeetsContract validated.parameterNames definitions)
    {rawParams : List (String × String)} {parameters : Dict String (PyValue P)}
    (hParameters : castParameterValues definitions (.queryParams rawParams) = .ok parameters)
    (hBinds : ∀ name ∈ definitions.keys, name ∈ (text U validated.canonicalSql).bindNames)
    (B : Builtins P) (clients : Clients P) (mapper : Option AccountMapInMemory) :
    executeStored U S B clients mapper route rawParams =
      (DatabaseCall.mk route.config.dbType validated.canonicalSql
        (declaredBinds definitions) parameters).send U clients >>=
          respond B mapper route := by
  rw [executeStored_checked hValidate hLoad hContract, runStored, hData]
  change (castParameterValues definitions (.queryParams rawParams) >>= fun _ => _) = _
  rw [hParameters]
  change (buildBoundStatement U validated.canonicalSql definitions >>= fun _ => _) = _
  rw [buildBoundStatement_eq_ok.mpr hBinds]
  change (clientFor clients route.config.dbType >>= fun client => _ >>= _) =
    (clientFor clients route.config.dbType >>= _) >>= _
  rw [bind_assoc]
  rfl

end Calls

/-! ### A stored route -/

/-- The payload that a call writes, and the surroundings of the call. -/
def RouteCall.writes {P : Scalars} :
    RouteCall P → Option (DynamicRouteWriteRequest P × CallEnvironment P)
  | .create payload _ env => some (payload, env)
  | .update _ payload _ env => some (payload, env)
  | .delete _ _ => none

/-- What a write that has returned leaves behind: the row of the payload, whose
lab test has succeeded if it was requested. -/
structure Written {P : Scalars} (U : Unicode) (S : Sqlglot) (J : JsonFormat P)
    (payload : DynamicRouteWriteRequest P) (clients : Clients P)
    (route : StoredRoute P.Float) (uow : UnitOfWork P.Float) : Prop where
  stored : route ∈ uow.committed
  accepted : ∃ validated, validatePayload U S payload = .ok validated ∧
    route.config = .ofPayload J payload validated.canonicalSql ∧
    runLabTestIfRequested U clients payload validated.canonicalSql = .ok ()

section Stored

open Effect

variable {P : Scalars} {U : Unicode} {S : Sqlglot} {J : JsonFormat P}

theorem createRow_stores (env : CallEnvironment P) (route : StoredRoute P.Float) :
    Triple (fun _ => True) (createRow env route)
      (fun created uow => created = route ∧ route ∈ uow.working) (fun _ _ => True) := by
  refine rowWrite_triple env (insertRow_triple ?_ fun _ _ _ => trivial)
    (fun _ _ _ => trivial) fun _ _ _ => trivial
  intro uow _ _
  exact ⟨rfl, List.mem_append_right _ List.mem_cons_self⟩

theorem saveRow_stores (env : CallEnvironment P) (route : StoredRoute P.Float) :
    Triple (fun uow => ∃ other ∈ uow.working, other.id = route.id) (saveRow env route)
      (fun updated uow => updated = route ∧ route ∈ uow.working) (fun _ _ => True) := by
  refine rowWrite_triple env (updateRow_triple ?_ fun _ _ _ => trivial)
    (fun _ _ _ => trivial) fun _ _ _ => trivial
  rintro uow ⟨other, hOther, hId⟩ -
  exact ⟨rfl, List.mem_map.mpr ⟨other, hOther, if_pos hId⟩⟩

/-- A commit publishes what has been flushed. -/
theorem commit_publishes (env : CallEnvironment P) {R : List (StoredRoute P.Float) → Prop} :
    Triple (fun uow => R uow.working) (commit env) (fun _ uow => R uow.committed)
      (fun _ _ => True) := by
  refine (mayRaise_triple env.commit fun _ _ _ => trivial).bind fun _ => ?_
  exact Triple.modify fun _ h => h

/-- The transaction of a write: the lab test, the row, and the commit. -/
theorem written_of_row {payload : DynamicRouteWriteRequest P} {env : CallEnvironment P}
    {validated : ValidatedSql} (hValid : validatePayload U S payload = .ok validated)
    {route : StoredRoute P.Float}
    (hConfig : route.config = .ofPayload J payload validated.canonicalSql)
    {pre : UnitOfWork P.Float → Prop}
    {writeRow : Action P.Float (StoredRoute P.Float)}
    (hRow : Triple pre writeRow (fun written uow => written = route ∧ route ∈ uow.working)
      (fun _ _ => True)) :
    Triple pre
      (tryCatch (do
        Effect.lift (runLabTestIfRequested U env.clients payload validated.canonicalSql)
        let written ← writeRow
        commit env
        return written) fun raised => do
          rollback
          throw (conflictOfIntegrity raised))
      (fun written uow => Written U S J payload env.clients written uow)
      (fun _ _ => True) := by
  refine rolledBack_triple _ (Q := fun _ _ => True) ?_ fun _ _ _ => trivial
  refine Triple.bind (Q := fun _ uow => pre uow ∧
    runLabTestIfRequested U env.clients payload validated.canonicalSql = .ok ())
    (Triple.lift (fun _ _ hLab hPre => ⟨hPre, hLab⟩) fun _ _ _ _ => trivial) fun _ => ?_
  rintro uow ⟨hPre, hLab⟩
  refine Triple.bind hRow (fun written => ?_) uow hPre
  intro uow ⟨hWritten, hMem⟩
  refine Triple.bind (Q := fun _ uow => route ∈ uow.committed)
    (commit_publishes env (R := (route ∈ ·))) (fun _ => ?_) uow hMem
  refine Triple.pure fun uow hStored => ?_
  rw [hWritten]
  exact ⟨hStored, validated, hValid, hConfig, hLab⟩

/-- Every write that returns has stored its payload. -/
theorem written_of_runCall {call : RouteCall P} {payload : DynamicRouteWriteRequest P}
    {env : CallEnvironment P} (hWrites : call.writes = some (payload, env)) :
    Triple (fun _ => True) (runCall U S J call)
      (fun route uow => Written U S J payload env.clients route uow)
      (fun _ _ => True) := by
  cases call with
  | delete id env' => cases hWrites
  | create payload' actor env' =>
      cases hWrites
      refine (checked_triple _).forget.bind fun validated => ?_
      rintro uow ⟨hValid, -⟩
      refine Triple.bind (read_triple _) (fun existing => ?_) uow trivial
      refine (checked_triple _).forget.bind fun _ => ?_
      exact Triple.weaken (written_of_row hValid rfl (createRow_stores env _))
        fun _ _ => trivial
  | update id payload' actor env' =>
      cases hWrites
      refine Triple.bind (Q := fun route uow => ∃ other ∈ uow.working, other.id = route.id)
        ?_ fun route => ?_
      · refine Triple.bind (Q := fun found uow => ∀ route ∈ found, route ∈ uow.working)
          (Triple.read (fun found uow hFound _ route hRoute =>
            List.mem_of_mem_filter (mem_of_scalarOneOrNone hFound hRoute))
            fun _ _ _ _ => trivial) fun found => ?_
        cases found with
        | none => exact Triple.throw fun _ _ => trivial
        | some route => exact Triple.pure fun _ h => ⟨route, h route rfl, rfl⟩
      · refine (checked_triple _).forget.bind fun validated => ?_
        rintro uow ⟨hValid, hFound⟩
        refine Triple.bind (Q := fun _ uow => ∃ other ∈ uow.working, other.id = route.id)
          (read_triple _).forget (fun collision => ?_) uow hFound
        refine (checked_triple _).forget.bind fun _ => ?_
        exact Triple.weaken (written_of_row hValid rfl (saveRow_stores env _))
          fun _ h => h.2

/-- A stored route is found under its prefix and path. -/
theorem executeRoute_eq_of_mem (hS : RendersBack U S) {uow : UnitOfWork P.Float}
    (h : (routeStore U S J).Reachable uow) {route : StoredRoute P.Float}
    (hMem : route ∈ uow.committed) (B : Builtins P) (clients : Clients P)
    (mapper : Option AccountMapInMemory) (rawParams : List (String × String)) :
    executeRoute U S B clients mapper route.config.routePrefix route.config.path
      rawParams uow = (executeStored U S B clients mapper route rawParams, uow) := by
  obtain ⟨hClean, hValid⟩ := published_of_reachable hS h
  -- the keys are unique, so the look-up has one result
  have hFilter : (uow.working.filter fun other =>
      other.key = (route.config.routePrefix, route.config.path)) = [route] := by
    have hRows : uow.working.Nodup := by
      rw [hClean]
      exact hValid.ids.of_map
    have hNodup := hRows.filter fun other =>
      decide (other.key = (route.config.routePrefix, route.config.path))
    have hPerm := (List.perm_ext_iff_of_nodup hNodup (List.nodup_singleton route)).mpr
      fun other => ?_
    · exact List.perm_singleton.mp hPerm
    · rw [List.mem_filter, List.mem_singleton, decide_eq_true_eq, hClean]
      constructor
      · rintro ⟨hOther, hKey⟩
        exact List.inj_on_of_nodup_map hValid.unique hOther hMem hKey
      · rintro rfl
        exact ⟨hMem, rfl⟩
  have hFound : getByRoute route.config.routePrefix route.config.path uow =
      (.ok (some route), uow) := by
    change (scalarOneOrNone _, uow) = _
    rw [hFilter]
    rfl
  change Effect.andThen (getByRoute route.config.routePrefix route.config.path) _ uow = _
  rw [Effect.andThen, hFound]
  rfl

/-- Canonical SQL is accepted again as it is, with the same parameter names. -/
theorem validate_canonicalSql_same (hS : Rerenders U S) {sql : String} {dialect : Dialect}
    {validated : ValidatedSql} (h : validate U S sql dialect = .ok validated) :
    validate U S validated.canonicalSql dialect = .ok validated := by
  obtain ⟨again, hAgain, hNames⟩ := validate_canonicalSql hS.toRendersBack h
  obtain ⟨tree, reparsed, hAccepted⟩ := validate_eq_ok_iff.mp h
  obtain ⟨tree', reparsed', hAccepted'⟩ := validate_eq_ok_iff.mp hAgain
  have hParse := hAccepted'.parse_eq
  rw [hAccepted.canonical_eq] at hParse
  have hText : again.canonicalSql = validated.canonicalSql := by
    rw [hAccepted'.canonical_eq, hAccepted.canonical_eq]
    exact hS.same_text sql dialect tree tree' hAccepted.parse_eq hParse
  have hSame : again = validated := by
    cases again
    cases validated
    cases hText
    cases hNames
    rfl
  rw [hAgain, hSame]

/-- The lab test of a stored route and its execution, at any later time, are
one call each, and the two calls are the same. -/
theorem sameCall_of_stored (hS : Rerenders U S) (hJ : J.Exact) {call : RouteCall P}
    {payload : DynamicRouteWriteRequest P} {env : CallEnvironment P}
    (hWrites : call.writes = some (payload, env)) {uow uow' : UnitOfWork P.Float}
    {route : StoredRoute P.Float} (hRun : runCall U S J call uow = (.ok route, uow'))
    (hLab : payload.labTest = true) (hData : payload.responseType = .data)
    {rawParams : List (String × String)}
    (hQuery : SameQuery payload.labTestParams rawParams) :
    route ∈ uow'.committed ∧ ∃ tested executed : DatabaseCall P, tested.Same executed ∧
      (∀ clients, runLabTestIfRequested U clients payload route.config.canonicalSql =
        tested.send U clients >>= fun _ => .ok ()) ∧
      ∀ later, (routeStore U S J).Reachable later → route ∈ later.committed →
        ∀ B clients mapper, executeRoute U S B clients mapper payload.routePrefix
            payload.path rawParams later =
          (executed.send U clients >>= respond B mapper route, later) := by
  obtain ⟨hStored, validated, hValid, hConfig, hTest⟩ :=
    (written_of_runCall hWrites uow trivial).1 route uow' hRun
  obtain ⟨hValidate, hContract⟩ := validatePayload_eq_ok_iff.mp hValid
  have hAgain := validate_canonicalSql_same hS hValidate
  obtain ⟨loaded, hLoad⟩ := deserializeDefinitions_serializeDefinitions J payload.params
  have hKeys := mem_keys_of_deserializeDefinitions J hLoad
  obtain ⟨parameters, hParameters, hBinds, hTested⟩ := labTest_eq_send hLab hTest
  obtain ⟨parameters', hParameters', hAgree⟩ :=
    castParameterValues_agrees hJ hLoad hQuery hParameters
  -- the contract is about names only, and these are kept
  have hLoaded : MeetsContract validated.parameterNames loaded := by
    refine ⟨fun name hName => hContract.identifiers name ((hKeys name).mp hName), ?_⟩
    rw [hContract.names_eq]
    ext name
    rw [List.mem_toFinset, List.mem_toFinset, hKeys]
  refine ⟨hStored, ⟨payload.dbType, validated.canonicalSql, declaredBinds payload.params,
    parameters⟩, ⟨payload.dbType, validated.canonicalSql, declaredBinds loaded, parameters'⟩,
    ⟨rfl, rfl, declaredBinds_perm hLoad, hAgree⟩, ?_, ?_⟩
  · intro clients
    rw [hConfig]
    exact hTested clients
  · intro later hReachable hMem B clients mapper
    have hFound := executeRoute_eq_of_mem hS.toRendersBack hReachable hMem B clients mapper
      rawParams
    have hSend : executeStored U S B clients mapper route rawParams = _ :=
      executeStored_eq_send (by rw [hConfig]; exact hData) (by rw [hConfig]; exact hAgain)
        (by rw [hConfig]; exact hLoad) hLoaded hParameters'
        (fun name hName => hBinds name ((hKeys name).mp hName)) B clients mapper
    rw [hSend, hConfig] at hFound
    exact hFound

end Stored

/-! ### A list and an omitted date -/

/-- The tree of `SELECT :d, :x`. -/
def selectWindow : Expression :=
  .node .select "" [.node .placeholder "d" [], .node .placeholder "x" []]

/-- A required list of strings. -/
def windowList : DynamicParameterDefinition .plain :=
  { type := .stringList, required := true, default := .none, accepted := trivial }

/-- An optional date with a default. -/
def windowDate : DynamicParameterDefinition .plain :=
  { type := .date, required := false, default := .date "2024-01-01"
    accepted := ⟨rfl, _, rfl⟩ }

/-- The route `alice/window`, tested with two strings and no date. -/
def windowFields : WriteFields Scalars.plain :=
  { routePrefix := "alice", path := "window", sql := "SELECT :d, :x"
    params := ⟨[("x", windowList), ("d", windowDate)], by decide⟩
    labTest := true
    labTestParams := ⟨[("x", .list [.str "a", .str "b"])], by decide⟩ }

theorem windowFields_ok : FieldsOk windowFields := by
  decide

theorem windowFields_lower : IsLower windowFields.routePrefix := by
  simp [windowFields, IsLower]

/-- The request that creates it. -/
def windowPayload : DynamicRouteWriteRequest .plain :=
  ⟨windowFields, windowFields_ok, windowFields_lower⟩

/-- The row that is stored. -/
def windowRoute : StoredRoute Scalars.plain.Float :=
  { config := .ofPayload .plain windowPayload "SELECT :d, :x", updatedBy := 1
    id := 7, createdBy := 1 }

theorem windowRoute_created :
    runCall .ascii (oneText "SELECT :d, :x" selectWindow) .plain
      (.create windowPayload 1 ⟨7, emptyClients, none, none, none⟩) ⟨[], []⟩ =
      (.ok windowRoute, ⟨[windowRoute], [windowRoute]⟩) := by
  rfl

/-- The text is rendered again as it is. -/
theorem windowText_rerenders : Rerenders .ascii (oneText "SELECT :d, :x" selectWindow) where
  toRendersBack := rendersBack_oneText .ascii (fun dialect => by cases dialect <;> decide)
    (by decide)
  same_text sql dialect tree tree' h h' := by
    obtain ⟨-, rfl⟩ := parse_oneText h
    obtain ⟨-, rfl⟩ := parse_oneText h'
    rfl

theorem plain_exact : JsonFormat.plain.Exact where
  date _ := rfl
  datetime _ := rfl
  number _ _ := .inl rfl

/-- The query string of the lab test. -/
theorem windowQuery : SameQuery windowPayload.labTestParams [("x", "a"), ("x", "b")] where
  carried name value h := by
    have hEntry := (windowPayload.labTestParams.mem_entries_iff name value).mpr h
    cases List.mem_singleton.mp hEntry
    exact ⟨by decide, rfl⟩
  others name h hName := by
    obtain rfl : name = "x" := by simpa using hName
    cases h

/-- The list is sent twice, the date is the default both times. -/
theorem sameCall_window :
    windowRoute ∈ [windowRoute] ∧ ∃ tested executed : DatabaseCall .plain,
      tested.Same executed ∧
      (∀ clients, runLabTestIfRequested .ascii clients windowPayload "SELECT :d, :x" =
        tested.send .ascii clients >>= fun _ => .ok ()) ∧
      ∀ later, (routeStore .ascii (oneText "SELECT :d, :x" selectWindow) .plain).Reachable
          later → windowRoute ∈ later.committed →
        ∀ B clients mapper, executeRoute .ascii (oneText "SELECT :d, :x" selectWindow) B
            clients mapper "alice" "window" [("x", "a"), ("x", "b")] later =
          (executed.send .ascii clients >>= respond B mapper windowRoute, later) :=
  sameCall_of_stored windowText_rerenders plain_exact rfl windowRoute_created rfl rfl
    windowQuery

end QueryEngine
end DataApi
