import DataApi.QueryEngine.RouteService

/-!
# The stored routes

Every stored route satisfies the write schema, its definitions can be read back
and are those of its canonical SQL, and no two routes share a prefix and path.
Each write operation preserves this, and one that raises leaves the committed
rows as they were, whichever of its steps has failed.
-/

namespace DataApi
namespace QueryEngine

open Library Schemas

/-- What is assumed of `sqlglot`: the text rendered from an accepted tree holds
no unsafe character and is parsed as one statement with the same node kinds and
placeholder names, and a blank text holds no `SELECT`. -/
structure RendersBack (U : Unicode) (S : Sqlglot) : Prop where
  reparsed : ∀ sql dialect tree, S.parse dialect sql = .ok [some tree] →
    SelectOnly tree → ∃ tree', S.parse dialect (canonicalSql S dialect tree) =
        .ok [some tree'] ∧ tree'.kind = tree.kind ∧
      (∀ kind, kind ∈ tree'.kinds ↔ kind ∈ tree.kinds) ∧
      ∀ name, name ∈ tree'.placeholderNames ↔ name ∈ tree.placeholderNames
  safe : ∀ sql dialect tree, S.parse dialect sql = .ok [some tree] →
    SelectOnly tree → (∀ c ∈ sql.toList, isUnsafeCharacter U c = false) →
    ∀ c ∈ (canonicalSql S dialect tree).toList, isUnsafeCharacter U c = false
  blank : ∀ sql dialect tree, strip sql = "" →
    S.parse dialect sql = .ok [some tree] → tree.kind ≠ .select

/-- Accepted SQL is accepted again in its canonical form, with the same
parameter names. -/
theorem validate_canonicalSql {U : Unicode} {S : Sqlglot} (hS : RendersBack U S)
    {sql : String} {dialect : Dialect} {validated : ValidatedSql}
    (h : validate U S sql dialect = .ok validated) :
    ∃ again, validate U S validated.canonicalSql dialect = .ok again ∧
      again.parameterNames = validated.parameterNames := by
  obtain ⟨tree, reparsed, hAccepted⟩ := validate_eq_ok_iff.mp h
  have hReparse := hAccepted.reparse_eq
  rw [hAccepted.canonical_eq] at hReparse
  -- the canonical text has one tree, and so has what is rendered from it
  obtain ⟨first, hFirst, -, -, -⟩ := hS.reparsed sql dialect tree hAccepted.parse_eq
    hAccepted.selectOnly
  obtain rfl : reparsed = first := by
    have hSame := hReparse.symm.trans hFirst
    simpa using hSame
  obtain ⟨second, hSecond, hKind, hKinds, hNames⟩ := hS.reparsed _ dialect reparsed
    hFirst hAccepted.reparsed_selectOnly
  have hSelect : SelectOnly second :=
    ⟨hKind.trans hAccepted.reparsed_selectOnly.root, fun kind hMem =>
      hAccepted.reparsed_selectOnly.allowed kind ((hKinds kind).mp hMem)⟩
  refine ⟨⟨canonicalSql S dialect reparsed, second.placeholderNames.toFinset⟩,
    validate_eq_ok_iff.mpr ⟨reparsed, second, ?_⟩, ?_⟩
  · rw [hAccepted.canonical_eq]
    exact {
      safe := hS.safe sql dialect tree hAccepted.parse_eq hAccepted.selectOnly
        hAccepted.safe
      not_empty := fun hBlank => hS.blank _ dialect reparsed hBlank hFirst
        hAccepted.reparsed_selectOnly.root
      parse_eq := hFirst
      selectOnly := hAccepted.reparsed_selectOnly
      canonical_eq := rfl
      parseOne_eq := (Sqlglot.parseOne_eq_ok_iff hSelect.root).mpr hSecond
      reparsed_selectOnly := hSelect
      identifiers := fun name hName =>
        hAccepted.identifiers name ((hNames name).mp hName)
      names_eq := rfl }
  · rw [hAccepted.names_eq]
    ext name
    simp only [List.mem_toFinset, hNames]

/-- A route that can be executed: its definitions are read back, and are those
of the placeholders of its canonical SQL. -/
def Executable {P : Scalars} (U : Unicode) (S : Sqlglot)
    (config : RouteConfig P.Float) : Prop :=
  ∃ definitions validated,
    deserializeDefinitions config.parameterDefinitions = .ok definitions ∧
      validate U S config.canonicalSql config.dbType = .ok validated ∧
      MeetsContract validated.parameterNames definitions ∧
      ReservedFree config.responseType definitions.keys

/-- What holds of the columns of a stored route. -/
structure RouteOk {P : Scalars} (U : Unicode) (S : Sqlglot)
    (config : RouteConfig P.Float) : Prop where
  prefix_ok : PrefixOk config.routePrefix
  prefix_lower : IsLower config.routePrefix
  path_ok : PathOk config.path
  executable : Executable U S config

/-- What holds of the rows of the table. -/
structure StoreOk {P : Scalars} (U : Unicode) (S : Sqlglot)
    (rows : List (StoredRoute P.Float)) : Prop where
  ids : (rows.map StoredRoute.id).Nodup
  unique : (rows.map StoredRoute.key).Nodup
  routes : ∀ route ∈ rows, RouteOk U S route.config

section Rows

variable {P : Scalars} {U : Unicode} {S : Sqlglot} {J : JsonFormat P}
  {rows : List (StoredRoute P.Float)}

/-- A request that passes its checks assigns a configuration that can be
executed. -/
theorem routeOk_ofPayload (hS : RendersBack U S) {payload : DynamicRouteWriteRequest P}
    {validated : ValidatedSql} (h : validatePayload U S payload = .ok validated) :
    RouteOk U S (RouteConfig.ofPayload J payload validated.canonicalSql) := by
  obtain ⟨hValidate, hContract⟩ := validatePayload_eq_ok_iff.mp h
  obtain ⟨again, hAgain, hNames⟩ := validate_canonicalSql hS hValidate
  obtain ⟨definitions, hLoad⟩ :=
    deserializeDefinitions_serializeDefinitions J payload.params
  have hMem := mem_keys_of_deserializeDefinitions J hLoad
  have hKeys : definitions.keys.toFinset = payload.params.keys.toFinset := by
    ext name
    rw [List.mem_toFinset, List.mem_toFinset, hMem]
  refine ⟨payload.ok.1, payload.lower, payload.ok.2.1, definitions, again, hLoad, hAgain,
    ⟨fun name hName => hContract.identifiers name ((hMem name).mp hName), ?_⟩, ?_⟩
  · rw [hNames, hKeys, hContract.names_eq]
  · intro hPaginated name hName
    exact payload.ok.2.2.2.2 hPaginated name ((hMem name).mp hName)

theorem StoreOk.nil : StoreOk U S ([] : List (StoredRoute P.Float)) :=
  ⟨List.nodup_nil, List.nodup_nil, nofun⟩

/-- A row with a new id and a new key may be added. -/
theorem StoreOk.append (h : StoreOk U S rows) {route : StoredRoute P.Float}
    (hRoute : RouteOk U S route.config)
    (hNew : ¬∃ other ∈ rows, other.id = route.id ∨ other.key = route.key) :
    StoreOk U S (rows ++ [route]) := by
  push Not at hNew
  refine ⟨?_, ?_, ?_⟩
  · rw [List.map_append, List.map_singleton, ← List.concat_eq_append]
    refine h.ids.concat fun hMem => ?_
    obtain ⟨other, hOther, hId⟩ := List.mem_map.mp hMem
    exact (hNew other hOther).1 hId
  · rw [List.map_append, List.map_singleton, ← List.concat_eq_append]
    refine h.unique.concat fun hMem => ?_
    obtain ⟨other, hOther, hKey⟩ := List.mem_map.mp hMem
    exact (hNew other hOther).2 hKey
  · intro other hOther
    rcases List.mem_append.mp hOther with hOld | hNew
    · exact h.routes other hOld
    · rw [List.mem_singleton.mp hNew]
      exact hRoute

/-- A row may be replaced by one whose key no other row has. -/
theorem StoreOk.replace (h : StoreOk U S rows) {route : StoredRoute P.Float}
    (hRoute : RouteOk U S route.config)
    (hNew : ¬∃ other ∈ rows, other.id ≠ route.id ∧ other.key = route.key) :
    StoreOk U S (rows.map fun other => if other.id = route.id then route else other) := by
  push Not at hNew
  have hRows : rows.Nodup := h.ids.of_map
  have hId := List.inj_on_of_nodup_map h.ids
  have hKey := List.inj_on_of_nodup_map h.unique
  refine ⟨?_, ?_, ?_⟩
  · have hIds : (rows.map fun other => if other.id = route.id then route else other).map
        StoredRoute.id = rows.map StoredRoute.id := by
      rw [List.map_map]
      refine List.map_congr_left fun other _ => ?_
      rw [Function.comp_apply]
      split
      · rename_i hSame
        exact hSame.symm
      · rfl
    rw [hIds]
    exact h.ids
  · rw [List.map_map]
    refine hRows.map_on fun a ha b hb hab => ?_
    rw [Function.comp_apply, Function.comp_apply] at hab
    -- two rows with one key: at most one of them is the one that is replaced
    split at hab
    · rename_i hAId
      split at hab
      · rename_i hBId
        exact hId ha hb (hAId.trans hBId.symm)
      · rename_i hBId
        exact absurd hab.symm (hNew b hb hBId)
    · rename_i hAId
      split at hab
      · exact absurd hab (hNew a ha hAId)
      · exact hKey ha hb hab
  · intro other hOther
    obtain ⟨row, hRow, rfl⟩ := List.mem_map.mp hOther
    split
    · exact hRoute
    · exact h.routes row hRow

/-- Rows may be deleted. -/
theorem StoreOk.filter (h : StoreOk U S rows) (keep : StoredRoute P.Float → Bool) :
    StoreOk U S (rows.filter keep) :=
  ⟨h.ids.sublist (List.filter_sublist.map _), h.unique.sublist (List.filter_sublist.map _),
    fun route hRoute => h.routes route (List.mem_of_mem_filter hRoute)⟩

end Rows

section Calls

open Effect

variable {P : Scalars} {U : Unicode} {S : Sqlglot} {J : JsonFormat P}
  {rows : List (StoredRoute P.Float)} {α : Type}

/-- A session without pending changes. -/
def Clean (rows : List (StoredRoute P.Float)) (uow : UnitOfWork P.Float) : Prop :=
  uow.committed = rows ∧ uow.working = rows

/-- A session with valid changes to commit. -/
def Pending (U : Unicode) (S : Sqlglot) (rows : List (StoredRoute P.Float))
    (uow : UnitOfWork P.Float) : Prop :=
  uow.committed = rows ∧ StoreOk U S uow.working

/-- A session to be rolled back. -/
def Aborted (rows : List (StoredRoute P.Float)) (uow : UnitOfWork P.Float) : Prop :=
  uow.committed = rows

/-- A session whose changes are committed. -/
def Published (U : Unicode) (S : Sqlglot) (uow : UnitOfWork P.Float) : Prop :=
  uow.working = uow.committed ∧ StoreOk U S uow.committed

theorem checked_triple {pre : UnitOfWork P.Float → Prop} (x : Except AppError α) :
    Triple pre (checked x) (fun a uow => x = .ok a ∧ pre uow) (fun _ => pre) := by
  refine Triple.lift (fun a uow hx hPre => ?_) (fun _ _ _ hPre => hPre)
  cases x with
  | ok b =>
      cases hx
      exact ⟨rfl, hPre⟩
  | error e => cases hx

theorem mayRaise_triple {pre : UnitOfWork P.Float → Prop}
    {fail : Raised → UnitOfWork P.Float → Prop} (exception : Option String)
    (h : ∀ className uow, pre uow → fail (.other className) uow) :
    Triple pre (mayRaise exception) (fun _ => pre) fail := by
  refine Triple.lift (fun _ _ _ hPre => hPre) fun e uow hRaised hPre => ?_
  cases exception with
  | none => cases hRaised
  | some className =>
      cases hRaised
      exact h className uow hPre

/-- An `INSERT` adds a row that is new, or violates a constraint. -/
theorem insertRow_triple {pre post : UnitOfWork P.Float → Prop}
    {fail : Raised → UnitOfWork P.Float → Prop} {route : StoredRoute P.Float}
    (hOk : ∀ uow, pre uow →
      (¬∃ other ∈ uow.working, other.id = route.id ∨ other.key = route.key) →
        post { uow with working := uow.working ++ [route] })
    (hError : ∀ className uow, pre uow → fail (.other className) uow) :
    Triple pre (insertRow route) (fun _ => post) fail := by
  intro uow hPre
  rw [insertRow]
  split
  · refine ⟨fun _ _ h => ?_, fun _ _ h => ?_⟩
    · cases h
    · cases h
      exact hError _ uow hPre
  · rename_i hNew
    refine ⟨fun _ _ h => ?_, fun _ _ h => ?_⟩
    · cases h
      exact hOk uow hPre hNew
    · cases h

/-- An `UPDATE` replaces the row with its id, or violates the unique constraint. -/
theorem updateRow_triple {pre post : UnitOfWork P.Float → Prop}
    {fail : Raised → UnitOfWork P.Float → Prop} {route : StoredRoute P.Float}
    (hOk : ∀ uow, pre uow →
      (¬∃ other ∈ uow.working, other.id ≠ route.id ∧ other.key = route.key) →
        post { uow with
          working := uow.working.map fun other =>
            if other.id = route.id then route else other })
    (hError : ∀ className uow, pre uow → fail (.other className) uow) :
    Triple pre (updateRow route) (fun _ => post) fail := by
  intro uow hPre
  rw [updateRow]
  split
  · refine ⟨fun _ _ h => ?_, fun _ _ h => ?_⟩
    · cases h
    · cases h
      exact hError _ uow hPre
  · rename_i hNew
    refine ⟨fun _ _ h => ?_, fun _ _ h => ?_⟩
    · cases h
      exact hOk uow hPre hNew
    · cases h

/-- The writes of the repository: a flush, the statement, and a refresh of the row,
each of which may raise. -/
theorem rowWrite_triple {pre : UnitOfWork P.Float → Prop}
    {post : StoredRoute P.Float → UnitOfWork P.Float → Prop}
    {fail : Raised → UnitOfWork P.Float → Prop} (env : CallEnvironment P)
    {route : StoredRoute P.Float} {statement : Action P.Float Unit}
    (hStatement : Triple pre statement (fun _ => post route) fail)
    (hFlush : ∀ className uow, pre uow → fail (.other className) uow)
    (hRefresh : ∀ className uow, post route uow → fail (.other className) uow) :
    Triple pre (do
        mayRaise env.flush
        statement
        mayRaise env.refresh
        return route) post fail := by
  refine (mayRaise_triple env.flush hFlush).bind fun _ => ?_
  refine hStatement.bind fun _ => ?_
  exact (mayRaise_triple env.refresh hRefresh).bind fun _ => Triple.pure fun _ h => h

theorem createRow_triple (env : CallEnvironment P) (hRows : StoreOk U S rows)
    {route : StoredRoute P.Float} (hRoute : RouteOk U S route.config) :
    Triple (Clean rows) (createRow env route) (fun _ => Pending U S rows)
      (fun _ => Aborted rows) := by
  refine rowWrite_triple env (insertRow_triple ?_ fun _ _ h => h.1) (fun _ _ h => h.1)
    fun _ _ h => h.1
  rintro uow ⟨hCommitted, hWorking⟩ hNew
  refine ⟨hCommitted, ?_⟩
  change StoreOk U S (uow.working ++ [route])
  rw [hWorking] at hNew ⊢
  exact hRows.append hRoute hNew

theorem saveRow_triple (env : CallEnvironment P) (hRows : StoreOk U S rows)
    {route : StoredRoute P.Float} (hRoute : RouteOk U S route.config) :
    Triple (Clean rows) (saveRow env route) (fun _ => Pending U S rows)
      (fun _ => Aborted rows) := by
  refine rowWrite_triple env (updateRow_triple ?_ fun _ _ h => h.1) (fun _ _ h => h.1)
    fun _ _ h => h.1
  rintro uow ⟨hCommitted, hWorking⟩ hNew
  refine ⟨hCommitted, ?_⟩
  change StoreOk U S (uow.working.map _)
  rw [hWorking] at hNew ⊢
  exact hRows.replace hRoute hNew

theorem eraseRow_triple (env : CallEnvironment P) (hRows : StoreOk U S rows)
    (route : StoredRoute P.Float) :
    Triple (Clean rows) (eraseRow env route) (fun _ => Pending U S rows)
      (fun _ => Aborted rows) := by
  refine Triple.bind (Q := fun _ => Pending U S rows) (Triple.modify ?_) fun _ =>
    mayRaise_triple env.flush fun _ _ h => h.1
  rintro uow ⟨hCommitted, hWorking⟩
  refine ⟨hCommitted, ?_⟩
  change StoreOk U S (uow.working.filter _)
  rw [hWorking]
  exact hRows.filter _

theorem commit_triple (env : CallEnvironment P) :
    Triple (Pending U S rows) (commit env) (fun _ => Published U S)
      (fun _ => Aborted rows) := by
  refine (mayRaise_triple env.commit fun _ _ h => h.1).bind fun _ => ?_
  exact Triple.modify fun _ h => ⟨rfl, h.2⟩

/-- The handler of a transaction rolls back whatever has been flushed, and raises
again. -/
theorem rolledBack_triple {pre : UnitOfWork P.Float → Prop} {body : Action P.Float α}
    {post : α → UnitOfWork P.Float → Prop} {Q fail : Raised → UnitOfWork P.Float → Prop}
    (translate : Raised → Raised) (hBody : Triple pre body post Q)
    (hFail : ∀ raised uow, Q raised uow →
      fail (translate raised) { uow with working := uow.committed }) :
    Triple pre
      (tryCatch body fun raised => do
        rollback
        throw (translate raised))
      post fail := by
  refine Triple.tryCatch hBody fun raised => ?_
  refine Triple.bind (Q := fun _ => fail (translate raised)) ?_ fun _ => ?_
  · exact Triple.modify fun uow h => hFail raised uow h
  · exact Triple.throw fun _ h => h

theorem transaction_triple {body : Action P.Float α} (translate : Raised → Raised)
    (hBody : Triple (Clean rows) body (fun _ => Published U S) fun _ => Aborted rows) :
    Triple (Clean rows)
      (tryCatch body fun raised => do
        rollback
        throw (translate raised))
      (fun _ => Published U S) (fun _ => Clean rows) :=
  rolledBack_triple translate hBody fun _ _ hCommitted => ⟨hCommitted, hCommitted⟩

/-- A query leaves the session as it is. -/
theorem read_triple {pre : UnitOfWork P.Float → Prop}
    (f : UnitOfWork P.Float → Except Raised α) :
    Triple pre (Effect.read f) (fun _ => pre) (fun _ => pre) :=
  Triple.read (fun _ _ _ h => h) (fun _ _ _ h => h)

theorem getRoute_triple (id : Nat) {pre : UnitOfWork P.Float → Prop} :
    Triple pre (getRoute id) (fun _ => pre) (fun _ => pre) := by
  refine (read_triple _).bind fun route => ?_
  cases route with
  | none => exact Triple.throw fun _ h => h
  | some route => exact Triple.pure fun _ h => h

theorem lift_triple {pre : UnitOfWork P.Float → Prop}
    {fail : Raised → UnitOfWork P.Float → Prop} (x : Except Raised α)
    (h : ∀ e uow, pre uow → fail e uow) :
    Triple pre (Effect.lift x) (fun _ => pre) fail :=
  Triple.lift (fun _ _ _ hPre => hPre) (fun e uow _ hPre => h e uow hPre)

theorem createRoute_triple (hS : RendersBack U S) (hRows : StoreOk U S rows)
    (payload : DynamicRouteWriteRequest P) (actor : Nat) (env : CallEnvironment P) :
    Triple (Clean rows) (createRoute U S J payload actor env)
      (fun _ => Published U S) (fun _ => Clean rows) := by
  refine (checked_triple _).bind fun validated => ?_
  intro uow ⟨hValid, hClean⟩
  refine Triple.bind (read_triple _) (fun existing => ?_) uow hClean
  refine (checked_triple _).bind fun _ => ?_
  refine Triple.weaken (transaction_triple _ ?_) fun _ h => h.2
  refine (lift_triple _ fun _ _ h => h.1).bind fun _ => ?_
  refine (createRow_triple env hRows (routeOk_ofPayload hS hValid)).bind fun _ => ?_
  exact (commit_triple env).bind fun _ => Triple.pure fun _ h => h

theorem updateRoute_triple (hS : RendersBack U S) (hRows : StoreOk U S rows) (id : Nat)
    (payload : DynamicRouteWriteRequest P) (actor : Nat) (env : CallEnvironment P) :
    Triple (Clean rows) (updateRoute U S J id payload actor env)
      (fun _ => Published U S) (fun _ => Clean rows) := by
  refine (getRoute_triple id).bind fun route => ?_
  refine (checked_triple _).bind fun validated => ?_
  intro uow ⟨hValid, hClean⟩
  refine Triple.bind (read_triple _) (fun collision => ?_) uow hClean
  refine (checked_triple _).bind fun _ => ?_
  refine Triple.weaken (transaction_triple _ ?_) fun _ h => h.2
  refine (lift_triple _ fun _ _ h => h.1).bind fun _ => ?_
  refine (saveRow_triple env hRows (routeOk_ofPayload hS hValid)).bind fun _ => ?_
  exact (commit_triple env).bind fun _ => Triple.pure fun _ h => h

theorem deleteRoute_triple (hRows : StoreOk U S rows) (id : Nat)
    (env : CallEnvironment P) :
    Triple (Clean rows) (deleteRoute id env)
      (fun _ => Published U S) (fun _ => Clean rows) := by
  refine (getRoute_triple id).bind fun route => ?_
  refine transaction_triple (fun raised => raised) ?_
  refine (eraseRow_triple env hRows route).bind fun _ => ?_
  exact (commit_triple env).bind fun _ => Triple.pure fun _ h => h

/-- A call that returns publishes valid rows; one that raises leaves the session
and the table as they were. -/
theorem runCall_triple (hS : RendersBack U S) (hRows : StoreOk U S rows)
    (call : RouteCall P) :
    Triple (Clean rows) (runCall U S J call)
      (fun _ => Published U S) (fun _ => Clean rows) := by
  cases call with
  | create payload actor env => exact createRoute_triple hS hRows payload actor env
  | update id payload actor env => exact updateRoute_triple hS hRows id payload actor env
  | delete id env => exact deleteRoute_triple hRows id env

/-- Between calls the session is clean and the rows are valid. -/
theorem published_of_reachable (hS : RendersBack U S) {uow : UnitOfWork P.Float}
    (h : (routeStore U S J).Reachable uow) : Published U S uow := by
  refine h.invariant ?_ ?_
  · rintro uow rfl
    exact ⟨rfl, StoreOk.nil⟩
  · intro uow call uow' hInv hStep
    have hCall := runCall_triple (J := J) hS hInv.2 call uow ⟨rfl, hInv.1⟩
    obtain rfl := Option.some.inj hStep
    cases hRun : runCall U S J call uow with
    | mk result after =>
        cases result with
        | ok route => exact hCall.1 route after hRun
        | error raised =>
            have hClean := hCall.2 raised after hRun
            refine ⟨hClean.2.trans hClean.1.symm, ?_⟩
            change StoreOk U S after.committed
            rw [hClean.1]
            exact hInv.2

end Calls

end QueryEngine
end DataApi
