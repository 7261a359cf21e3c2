import DataApi.QueryEngine.PagedCalls

/-!
# The pages of a fixed result

While the database answers with one fixed sequence of rows and evaluates `LIMIT` and
`OFFSET` as a slice of it, the pages of a route are consecutive slices that make up the
whole sequence.
-/

namespace DataApi
namespace QueryEngine

open Library Schemas PiiCache

section Partition

variable {P : Scalars} {U : Unicode} {S : Sqlglot} {J : JsonFormat P} {B : Builtins P}
  {route : StoredRoute P.Float} {rawParams : List (String × String)}

/-- What the database answers for the values of the parameters: the statement of the
route has the rows `rows`, the count is their number, and a slice of the statement is one of
them. -/
structure AnswersSlices (A : AcceptedPage U S route rawParams) (B : Builtins P)
    (rows : List (Row P)) (client : Client P) : Prop where
  canonical : client ⟨(text U A.validated.canonicalSql).items, declaredBinds A.definitions⟩
    A.parameters = .ok rows
  counted : ∃ countRow, extractTotal B [countRow] = .ok rows.length ∧
    client ⟨(text U A.countCall.sql).items, A.countCall.declared⟩ A.parameters =
      .ok [countRow]
  sliced : ∀ (names : SliceNames A.parameters) limit offset,
    client ⟨(text U (names.sql A.validated.canonicalSql)).items, declaredBinds A.definitions⟩
      (names.parameters limit offset) = .ok (page limit offset rows)

/-- The parameters of a request have no reserved name. -/
theorem AcceptedPage.free (A : AcceptedPage U S route rawParams)
    (hReserved : ReservedFree .paginated A.definitions.keys) :
    ∀ name ∈ paginationParameters, A.parameters.get? name = none := fun name hName =>
  (casts_of_castParameterValues A.cast_eq).others name fun hMem =>
    hReserved rfl name hMem hName

/-- So a page is a slice. -/
theorem AnswersSlices.paged {A : AcceptedPage U S route rawParams} {rows : List (Row P)}
    {client : Client P} (h : AnswersSlices A B rows client)
    (hReserved : ReservedFree .paginated A.definitions.keys) (limit offset : Nat) :
    client ⟨(text U A.dataCall.sql).items, A.dataCall.declared⟩
      (pageParameters A.parameters limit offset) = .ok (page limit offset rows) := by
  have hSlice := h.sliced (pageNames (A.free hReserved)) limit offset
  rw [sql_pageNames] at hSlice
  exact hSlice

/-- The same request for another page. -/
def AcceptedPage.turnTo (A : AcceptedPage U S route rawParams)
    {rawParams' : List (String × String)} {number : Nat}
    (h : extractPagination U rawParams' .paginated =
      .ok (A.queryParams, some (number, A.pageSize))) :
    AcceptedPage U S route rawParams' :=
  { A with page := number, extract_eq := h }

/-- The response to a request for a page, from a database that answers in slices. -/
theorem executeStored_slice (A : AcceptedPage U S route rawParams)
    (hReserved : ReservedFree .paginated A.definitions.keys) {clients : Clients P}
    {client : Client P} (hClient : clientFor clients route.config.dbType = .ok client)
    {rows : List (Row P)} (hAnswers : AnswersSlices A B rows client)
    {mapper : Option AccountMapInMemory}
    (hConfigured : route.config.piiType = none ∨ mapper.isSome = true)
    {rawParams' : List (String × String)} {number : Nat}
    (h : extractPagination U rawParams' .paginated =
      .ok (A.queryParams, some (number, A.pageSize))) :
    ∃ missing, executeStored U S B clients mapper route rawParams' =
      .ok (.paginated ((page A.pageSize ((number - 1) * A.pageSize) rows).map
        (mappedRow B mapper route)) rows.length number A.pageSize
          (batchCount A.pageSize rows.length : Nat) missing) := by
  obtain ⟨countRow, hTotal, hCount⟩ := hAnswers.counted
  obtain ⟨missing, hMapped⟩ := mapPii_eq_ok B hConfigured
    (page A.pageSize ((number - 1) * A.pageSize) rows)
  have hCounted : (A.turnTo h).countCall.send U clients = .ok [countRow] := by
    change (clientFor clients route.config.dbType >>= fun client => client.execute
      ⟨(text U A.countCall.sql).items, A.countCall.declared⟩ A.parameters) = _
    rw [hClient]
    change (client _ _).mapError ClientError.raised = _
    rw [hCount]
    rfl
  have hRows : (A.turnTo h).dataCall.send U clients =
      .ok (page A.pageSize ((number - 1) * A.pageSize) rows) := by
    change (clientFor clients route.config.dbType >>= fun client => client.execute
      ⟨(text U A.dataCall.sql).items, A.dataCall.declared⟩
        (pageParameters A.parameters A.pageSize ((number - 1) * A.pageSize))) = _
    rw [hClient]
    change (client _ _).mapError ClientError.raised = _
    rw [hAnswers.paged hReserved]
    rfl
  refine ⟨missing, ?_⟩
  rw [(A.turnTo h).executeStored_eq, AcceptedPage.run, hCounted]
  change (extractTotal B [countRow] >>= fun _ => _) = _
  rw [hTotal]
  change ((A.turnTo h).dataCall.send U clients >>= fun _ => _) = _
  rw [hRows]
  change (mapPii B mapper route _ >>= fun _ => _) = _
  rw [hMapped, ← fdiv_eq_batchCount A.pageSize_bounds.1]
  rfl

/-- What the requests for the pages return, page by page. -/
structure PagesPartition (A : AcceptedPage U S route rawParams) (B : Builtins P)
    (clients : Clients P) (mapper : Option AccountMapInMemory) (rows : List (Row P))
    (data : Nat → List (Row P)) : Prop where
  /-- Every request for a page with the same other parameters is answered. -/
  served : ∀ number rawParams', extractPagination U rawParams' .paginated =
    .ok (A.queryParams, some (number, A.pageSize)) →
    ∃ missing, executeStored U S B clients mapper route rawParams' =
      .ok (.paginated (data number) rows.length number A.pageSize
        (batchCount A.pageSize rows.length : Nat) missing)
  /-- A page has the rows from `(number - 1) * size` to `min (number * size) total - 1`. -/
  positions : ∀ number, 1 ≤ number → ∀ i, (data number)[i]? =
    if (number - 1) * A.pageSize + i < min (number * A.pageSize) rows.length then
      rows[(number - 1) * A.pageSize + i]?.map (mappedRow B mapper route)
    else none
  /-- The pages up to the last one are the whole result. -/
  whole : (List.range (batchCount A.pageSize rows.length)).flatMap (fun k => data (k + 1)) =
    rows.map (mappedRow B mapper route)
  /-- The pages behind it are empty. -/
  beyond : ∀ number, batchCount A.pageSize rows.length < number → data number = []
  none_iff : batchCount A.pageSize rows.length = 0 ↔ rows = []

theorem pagesPartition_of_answers (A : AcceptedPage U S route rawParams)
    (hReserved : ReservedFree .paginated A.definitions.keys)
    {clients : Clients P} {client : Client P}
    (hClient : clientFor clients route.config.dbType = .ok client) {rows : List (Row P)}
    (hAnswers : AnswersSlices A B rows client) {mapper : Option AccountMapInMemory}
    (hConfigured : route.config.piiType = none ∨ mapper.isSome = true) :
    PagesPartition A B clients mapper rows fun number =>
      (page A.pageSize ((number - 1) * A.pageSize) rows).map (mappedRow B mapper route) := by
  have hSize := A.pageSize_bounds.1
  refine ⟨fun number rawParams' h =>
      executeStored_slice A hReserved hClient hAnswers hConfigured h,
    fun number hNumber i => ?_, ?_, fun number hNumber => ?_, batchCount_eq_zero_iff hSize⟩
  · rw [List.getElem?_map, getElem?_page hNumber]
    split <;> rfl
  · simp only [Nat.add_sub_cancel]
    rw [← List.map_flatMap, flatMap_page_batchCount hSize]
  · rw [page_eq_nil_of_batchCount_lt hSize hNumber, List.map_nil]

/-- The parameters that the two statements receive. -/
structure PageBinds (A : AcceptedPage U S route rawParams) : Prop where
  /-- They are cast from the query string without `page` and `page_size`. -/
  cast_eq : castParameterValues A.definitions
    (.queryParams (rawParams.filter fun item => item.1 ∉ ["page", "page_size"])) =
      .ok A.parameters
  /-- Both statements receive every declared parameter with its cast value. -/
  declared : ∀ name ∈ A.definitions.keys, ∃ value, A.parameters.get? name = some value ∧
    A.countCall.parameters.get? name = some value ∧
    A.dataCall.parameters.get? name = some value
  /-- The statement that reads the page receives the two reserved ones in addition. -/
  reserved : A.dataCall.parameters.get? "__dynamic_page_size" = some (.int A.pageSize) ∧
    A.dataCall.parameters.get? "__dynamic_offset" =
      some (.int ((A.page - 1) * A.pageSize : Nat))
  undeclared : "__dynamic_page_size" ∉ A.definitions.keys ∧
    "__dynamic_offset" ∉ A.definitions.keys
  /-- Neither receives anything else. -/
  others : ∀ name, name ∉ A.definitions.keys → A.countCall.parameters.get? name = none ∧
    (name ≠ "__dynamic_page_size" → name ≠ "__dynamic_offset" →
      A.dataCall.parameters.get? name = none)

/-- A parameter of the page statement that is not reserved is one of the request. -/
theorem get?_pageParameters {parameters : Dict String (PyValue P)} {pageSize offset : Nat}
    {name : String} (hSize : name ≠ "__dynamic_page_size") (hOffset : name ≠ "__dynamic_offset") :
    (pageParameters parameters pageSize offset).get? name = parameters.get? name := by
  rw [pageParameters, Dict.get?_set_of_ne _ _ hOffset, Dict.get?_set_of_ne _ _ hSize]

theorem pageBinds (A : AcceptedPage U S route rawParams)
    (hReserved : ReservedFree .paginated A.definitions.keys) : PageBinds A := by
  have hFree := hReserved rfl
  have hCasts := casts_of_castParameterValues A.cast_eq
  refine ⟨?_, fun name hName => ?_, ⟨?_, Dict.get?_set_self _ _ _⟩,
    ⟨fun h => hFree _ h (by decide), fun h => hFree _ h (by decide)⟩,
    fun name hName => ⟨hCasts.others name hName, fun hSize hOffset => ?_⟩⟩
  · rw [← (extractPagination_paginated A.extract_eq).1]
    exact A.cast_eq
  · have hOther : ∀ other ∈ paginationParameters, name ≠ other :=
      fun other hMem hSame => hFree name hName (hSame ▸ hMem)
    obtain ⟨entry, hEntry, rfl⟩ := List.mem_map.mp hName
    obtain ⟨value, -, hValue⟩ := hCasts.declared entry hEntry
    refine ⟨value, hValue, hValue, ?_⟩
    change (pageParameters _ _ _).get? entry.1 = _
    rw [get?_pageParameters (hOther _ (by decide)) (hOther _ (by decide)), hValue]
  · change (pageParameters _ _ _).get? "__dynamic_page_size" = _
    rw [pageParameters, Dict.get?_set_of_ne _ _ (by decide), Dict.get?_set_self]
  · change (pageParameters _ _ _).get? name = _
    rw [get?_pageParameters hSize hOffset, hCasts.others name hName]

/-- The definitions of a stored paginated route have no reserved name. -/
theorem reservedFree_of_stored (hS : RendersBack U S) {uow : UnitOfWork P.Float}
    (hReach : (routeStore U S J).Reachable uow) (hRoute : route ∈ uow.committed)
    (A : AcceptedPage U S route rawParams) :
    ReservedFree .paginated A.definitions.keys := by
  obtain ⟨-, hStore⟩ := published_of_reachable hS hReach
  obtain ⟨definitions, validated, hLoad, -, -, hReserved⟩ :=
    (hStore.routes route hRoute).executable
  cases hLoad.symm.trans A.load_eq
  rwa [A.paginated] at hReserved

/-- The pages of a stored route partition the result of its statement, and both statements
receive the parameters of the request. -/
theorem pages_partition (hS : RendersBack U S) {uow : UnitOfWork P.Float}
    (hReach : (routeStore U S J).Reachable uow) (hRoute : route ∈ uow.committed)
    (A : AcceptedPage U S route rawParams) {clients : Clients P} {client : Client P}
    (hClient : clientFor clients route.config.dbType = .ok client) {rows : List (Row P)}
    (hAnswers : AnswersSlices A B rows client) {mapper : Option AccountMapInMemory}
    (hConfigured : route.config.piiType = none ∨ mapper.isSome = true) :
    (∃ data, PagesPartition A B clients mapper rows data) ∧
      (∀ B clients mapper, executeStored U S B clients mapper route rawParams =
        A.run B clients mapper) ∧ PageBinds A := by
  have hReserved := reservedFree_of_stored hS hReach hRoute A
  exact ⟨⟨_, pagesPartition_of_answers A hReserved hClient hAnswers hConfigured⟩,
    A.executeStored_eq, pageBinds A hReserved⟩

end Partition

/-! ### Two rows -/

/-- The request that creates the route `alice/ids`. -/
def idsFields : WriteFields Scalars.plain :=
  { routePrefix := "alice", path := "ids", sql := idsSql, dbType := .postgres
    responseType := .paginated }

theorem idsFields_ok : FieldsOk idsFields := by
  decide

theorem idsFields_lower : IsLower idsFields.routePrefix := by
  simp [idsFields, IsLower]

def idsPayload : DynamicRouteWriteRequest .plain :=
  { idsFields with ok := idsFields_ok, lower := idsFields_lower }

/-- The table after it. -/
def idsCreated : UnitOfWork Scalars.plain.Float :=
  (runCall .ascii (oneText idsSql selectOrdered) .plain
    (.create idsPayload 1 ⟨7, emptyClients, none, none, none⟩) ⟨[], []⟩).2

theorem idsRoute_stored : idsCreated.committed = [idsRoute .postgres none] := by
  rfl

theorem rendersBack_selectOrdered : RendersBack .ascii (oneText idsSql selectOrdered) :=
  rendersBack_oneText .ascii (fun dialect => by cases dialect <;> decide) (by decide)

/-- A database in which the route has two rows. -/
def twoIds : Client .plain :=
  enumerating (idsPaged .postgres none) (totalRow 2) [idRow "t1", idRow "t2"]
    [idRow "t1", idRow "t2"]

theorem answersSlices_twoIds :
    AnswersSlices (idsAccepted .postgres) .plain [idRow "t1", idRow "t2"] twoIds := by
  have hAnswers := answers_enumerating (idsPaged .postgres none) (totalRow 2)
    (List.Perm.refl [idRow "t1", idRow "t2"])
  refine ⟨hAnswers.ordered, ⟨totalRow 2, rfl, ?_⟩, fun names limit offset => ?_⟩
  · exact hAnswers.counted _ (idsAccepted .postgres).build_countSql
  · exact enumerating_slice (idsPaged .postgres none) (totalRow 2) _ _ names _ limit offset

theorem pages_partition_twoIds :
    (∃ data, PagesPartition (idsAccepted .postgres) .plain
      { emptyClients with postgres := some twoIds } none [idRow "t1", idRow "t2"] data) ∧
      (∀ B clients mapper, executeStored .ascii (oneText idsSql selectOrdered) B clients mapper
        (idsRoute .postgres none) [] = (idsAccepted .postgres).run B clients mapper) ∧
      PageBinds (idsAccepted .postgres) := by
  have hReach : (routeStore .ascii (oneText idsSql selectOrdered) .plain).Reachable
      idsCreated := .step (.start rfl) trivial rfl
  have hRoute : idsRoute .postgres none ∈ idsCreated.committed := by
    rw [idsRoute_stored]
    exact List.mem_singleton_self _
  exact pages_partition rendersBack_selectOrdered hReach hRoute (idsAccepted .postgres) rfl
    answersSlices_twoIds (.inl rfl)

end QueryEngine
end DataApi
