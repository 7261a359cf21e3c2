import DataApi.Library.OffsetPaging
import DataApi.QueryEngine.RouteExecution

/-!
# The pages of an ordered statement

A paginated route reads a page with a `LIMIT` and an `OFFSET` around its
statement, which becomes a derived table.  An `ORDER BY` inside a derived table
does not order what the outer query selects from: each evaluation may enumerate
the rows in its own order.  The pages are then the ordered result only if it
does not matter which row is which (`pagesInOrder_iff`).
-/

namespace DataApi
namespace QueryEngine

open Library Schemas PiiCache

/-- A paginated route, with the values of its parameters, that passes the
checks of `execute_route`. -/
structure PagedRoute {P : Scalars} (U : Unicode) (S : Sqlglot) where
  route : StoredRoute P.Float
  paginated : route.config.responseType = .paginated
  validated : ValidatedSql
  validate_eq : validate U S route.config.canonicalSql route.config.dbType = .ok validated
  definitions : Dict String (DynamicParameterDefinition P)
  load_eq : deserializeDefinitions route.config.parameterDefinitions = .ok definitions
  contract : MeetsContract validated.parameterNames definitions
  reserved : ReservedFree .paginated definitions.keys
  statement : TextClause
  bound : buildBoundStatement U validated.canonicalSql definitions = .ok statement
  queryParams : List (String × String)
  parameters : Dict String (PyValue P)
  cast_eq : castParameterValues definitions (.queryParams queryParams) = .ok parameters
  mapper : Option AccountMapInMemory
  configured : route.config.piiType = none ∨ mapper.isSome = true

/-- The query strings that ask for the pages `1` to `pages` of that size. -/
structure PageRequests {P : Scalars} {U : Unicode} {S : Sqlglot}
    (R : PagedRoute (P := P) U S) (pageSize pages : Nat) where
  query : Nat → List (String × String)
  extract_eq : ∀ page, 1 ≤ page → page ≤ pages →
    extractPagination U (query page) .paginated = .ok (R.queryParams, some (page, pageSize))
  pageSize_pos : 0 < pageSize

/-- The parameters of the statement that reads a page. -/
def pageParameters {P : Scalars} (parameters : Dict String (PyValue P))
    (pageSize offset : Nat) : Dict String (PyValue P) :=
  (parameters.set "__dynamic_page_size" (.int pageSize)).set "__dynamic_offset" (.int offset)

/-- The names in a text that cuts a slice out of a statement: that of the derived table,
and two of parameters that the statement does not have. -/
structure SliceNames {P : Scalars} (parameters : Dict String (PyValue P)) where
  table : String
  limit : String
  offset : String
  table_ok : isParameterName table = true
  limit_ok : isParameterName limit = true
  offset_ok : isParameterName offset = true
  ne : limit ≠ offset
  limit_fresh : limit ∉ parameters.keys
  offset_fresh : offset ∉ parameters.keys

namespace SliceNames

variable {P : Scalars} {values : Dict String (PyValue P)} (names : SliceNames values)

/-- The statement as a derived table, with a `LIMIT` and an `OFFSET` behind it and no
`ORDER BY` on their level. -/
def sql (statement : String) : String :=
  "SELECT * FROM (" ++ statement ++ ") AS " ++ names.table ++ " LIMIT :" ++ names.limit ++
    " OFFSET :" ++ names.offset

/-- The parameters of the statement and the two counts. -/
def parameters (limit offset : Nat) : Dict String (PyValue P) :=
  (values.set names.limit (.int limit)).set names.offset (.int offset)

/-- The counts are the last two entries. -/
theorem drop_entries_parameters (limit offset : Nat) :
    (names.parameters limit offset).entries.drop values.entries.length =
      [(names.limit, .int limit), (names.offset, .int offset)] := by
  have hFresh : names.offset ∉ (values.set names.limit (.int limit)).keys := by
    rw [Dict.keys_set_of_notMem _ names.limit_fresh, List.mem_append, List.mem_singleton, not_or]
    exact ⟨names.offset_fresh, names.ne.symm⟩
  rw [SliceNames.parameters, Dict.entries_set_of_notMem _ hFresh,
    Dict.entries_set_of_notMem _ names.limit_fresh, List.append_assoc, List.drop_left]
  rfl

end SliceNames

/-- The names that `execute_route` gives, for parameters without the reserved names. -/
def pageNames {P : Scalars} {parameters : Dict String (PyValue P)}
    (hFree : ∀ name ∈ paginationParameters, parameters.get? name = none) :
    SliceNames parameters where
  table := "dynamic_route_data"
  limit := "__dynamic_page_size"
  offset := "__dynamic_offset"
  table_ok := by decide
  limit_ok := by decide
  offset_ok := by decide
  ne := by decide
  limit_fresh hMem := by
    obtain ⟨value, hValue⟩ := (parameters.mem_keys_iff _).mp hMem
    cases (hFree _ (by decide)).symm.trans hValue
  offset_fresh hMem := by
    obtain ⟨value, hValue⟩ := (parameters.mem_keys_iff _).mp hMem
    cases (hFree _ (by decide)).symm.trans hValue

/-- The statement that reads a page is a slice of that form. -/
theorem sql_pageNames {P : Scalars} {parameters : Dict String (PyValue P)}
    (hFree : ∀ name ∈ paginationParameters, parameters.get? name = none) (sql : String) :
    (pageNames hFree).sql sql = pageSql sql := by
  have hBack : ") AS " ++ ("dynamic_route_data" ++ (" LIMIT :" ++ ("__dynamic_page_size" ++
      (" OFFSET :" ++ "__dynamic_offset")))) = ") AS dynamic_route_data " ++
        "LIMIT :__dynamic_page_size OFFSET :__dynamic_offset" := by decide
  change "SELECT * FROM (" ++ sql ++ ") AS " ++ "dynamic_route_data" ++ " LIMIT :" ++
    "__dynamic_page_size" ++ " OFFSET :" ++ "__dynamic_offset" = "SELECT * FROM (" ++ sql ++
      ") AS dynamic_route_data " ++ "LIMIT :__dynamic_page_size OFFSET :__dynamic_offset"
  simp only [String.append_assoc]
  rw [hBack]

/-- The parameters of a paginated route have no reserved name. -/
theorem PagedRoute.free {P : Scalars} {U : Unicode} {S : Sqlglot}
    (R : PagedRoute (P := P) U S) :
    ∀ name ∈ paginationParameters, R.parameters.get? name = none := fun name hName =>
  (casts_of_castParameterValues R.cast_eq).others name fun hMem =>
    R.reserved rfl name hMem hName

/-- What the engine may answer while the database does not change.  The `ORDER
BY` of the route is total, so its own statement has the one result `rows`; the
count is that of `rows`; and a slice is cut out of any enumeration of `rows`, since the
outer query has no order of its own. -/
structure Answers {P : Scalars} {U : Unicode} {S : Sqlglot} (R : PagedRoute (P := P) U S)
    (countRow : Row P) (rows : List (Row P)) (client : Client P) : Prop where
  ordered : client R.statement R.parameters = .ok rows
  counted : ∀ statement,
    buildBoundStatement U (countSql R.validated.canonicalSql) R.definitions = .ok statement →
    client statement R.parameters = .ok [countRow]
  sliced : ∀ (names : SliceNames R.parameters) statement,
    buildBoundStatement U (names.sql R.validated.canonicalSql) R.definitions = .ok statement →
    ∀ limit offset, ∃ enum : List (Row P), enum.Perm rows ∧
      client statement (names.parameters limit offset) = .ok (page limit offset enum)

/-- So is a page. -/
theorem Answers.paged {P : Scalars} {U : Unicode} {S : Sqlglot} {R : PagedRoute (P := P) U S}
    {countRow : Row P} {rows : List (Row P)} {client : Client P}
    (h : Answers R countRow rows client) {statement : TextClause}
    (hStatement : buildBoundStatement U (pageSql R.validated.canonicalSql) R.definitions =
      .ok statement) (pageSize offset : Nat) :
    ∃ enum : List (Row P), enum.Perm rows ∧
      client statement (pageParameters R.parameters pageSize offset) =
        .ok (page pageSize offset enum) := by
  rw [← sql_pageNames R.free] at hStatement
  exact h.sliced (pageNames R.free) statement hStatement pageSize offset

section Pages

variable {P : Scalars} {U : Unicode} {S : Sqlglot} (B : Builtins P)

/-- The PII mapping of a route on one row. -/
def mappedRow (mapper : Option AccountMapInMemory) (route : StoredRoute P.Float)
    (row : Row P) : Row P :=
  match route.config.piiType, mapper with
  | some piiType, some cache =>
      (mapRow cache.tokenToValue (singleRule B (piiColumn piiType)).entries row).1
  | _, _ => row

/-- The requests for all pages return them, and their data is the ordered
result: for every engine, which each request finds in a state of its own. -/
def PagesInOrder (R : PagedRoute (P := P) U S) (countRow : Row P) (rows : List (Row P))
    {pageSize : Nat} (requests : PageRequests R pageSize (batchCount pageSize rows.length)) :
    Prop :=
  ∀ clients : Nat → Clients P, (∀ page, ∃ client,
      clientFor (clients page) R.route.config.dbType = .ok client ∧
        Answers R countRow rows client) →
    ∃ (data : Nat → List (Row P)) (missing : Nat → List (MissingPiiMapping P)),
      (∀ page, 1 ≤ page → page ≤ batchCount pageSize rows.length →
        executeStored U S B (clients page) R.mapper R.route (requests.query page) =
          .ok (.paginated (data page) rows.length page pageSize
            (batchCount pageSize rows.length : Nat) (missing page))) ∧
      (List.range (batchCount pageSize rows.length)).flatMap (fun k => data (k + 1)) =
        rows.map (mappedRow B R.mapper R.route)

theorem mapPii_eq_ok {mapper : Option AccountMapInMemory} {route : StoredRoute P.Float}
    (h : route.config.piiType = none ∨ mapper.isSome = true) (rows : List (Row P)) :
    ∃ missing, mapPii B mapper route rows =
      .ok (rows.map (mappedRow B mapper route), missing) := by
  unfold mapPii mappedRow
  cases hPii : route.config.piiType with
  | none =>
      refine ⟨[], ?_⟩
      dsimp only
      rw [List.map_id']
  | some piiType =>
      cases mapper with
      | none =>
          rw [hPii] at h
          rcases h with h | h <;> cases h
      | some cache =>
          refine ⟨((rows.map (mapRow cache.tokenToValue
            (singleRule B (piiColumn piiType)).entries)).map Prod.snd).flatten, ?_⟩
          dsimp only
          rw [mapPiiFields, if_neg (by simp [singleRule, Dict.set, Dict.empty, setEntry])]
          dsimp only
          rw [List.map_map]
          rfl

/-- The statement that reads a page, as a text around the route's statement. -/
theorem pageSql_eq (sql : String) : pageSql sql =
    "SELECT * FROM (" ++ sql ++ (") AS dynamic_route_data " ++
      "LIMIT :__dynamic_page_size OFFSET :__dynamic_offset") :=
  String.append_assoc

/-- The wrapped statements have the binds of the route's statement. -/
theorem exists_wrapped (R : PagedRoute (P := P) U S) :
    (∃ statement, buildBoundStatement U (countSql R.validated.canonicalSql) R.definitions =
      .ok statement) ∧
    ∃ statement, buildBoundStatement U (pageSql R.validated.canonicalSql) R.definitions =
      .ok statement := by
  have hBinds := buildBoundStatement_eq_ok_iff.mp ⟨R.statement, R.bound⟩
  constructor
  · exact buildBoundStatement_eq_ok_iff.mpr fun name hName =>
      mem_bindNames_wrapped U rfl rfl (hBinds name hName)
  · rw [pageSql_eq]
    exact buildBoundStatement_eq_ok_iff.mpr fun name hName =>
      mem_bindNames_wrapped U rfl rfl (hBinds name hName)

theorem fdiv_eq_batchCount {limit : Nat} (hLimit : 0 < limit) (count : Nat) :
    ((count : Int) + limit - 1).fdiv limit = (batchCount limit count : Nat) := by
  have hCast : (count : Int) + limit - 1 = (count + limit - 1 : Nat) := by omega
  rw [hCast, Int.fdiv_eq_ediv_of_nonneg _ (Int.natCast_nonneg limit), batchCount]
  rfl

/-- A request for a page returns the rows that its engine selects. -/
theorem executeStored_page {R : PagedRoute (P := P) U S} {countRow : Row P}
    {rows : List (Row P)} {pageSize pages : Nat} (requests : PageRequests R pageSize pages)
    (hCount : extractTotal B [countRow] = .ok rows.length) {clients : Clients P}
    {client : Client P}
    (hClient : clientFor clients R.route.config.dbType = .ok client)
    (hAnswers : Answers R countRow rows client) {page : Nat} (hFirst : 1 ≤ page)
    (hLast : page ≤ pages) {selected : List (Row P)}
    (hPage : ∀ statement,
      buildBoundStatement U (pageSql R.validated.canonicalSql) R.definitions = .ok statement →
      client statement (pageParameters R.parameters pageSize ((page - 1) * pageSize)) =
        .ok selected) :
    ∃ missing, executeStored U S B clients R.mapper R.route (requests.query page) =
      .ok (.paginated (selected.map (mappedRow B R.mapper R.route)) rows.length page pageSize
        (batchCount pageSize rows.length : Nat) missing) := by
  obtain ⟨⟨countStatement, hCountStatement⟩, pageStatement, hPageStatement⟩ :=
    exists_wrapped R
  obtain ⟨missing, hMapped⟩ := mapPii_eq_ok B R.configured selected
  have hCounted : client.execute countStatement R.parameters = .ok [countRow] := by
    rw [Client.execute, hAnswers.counted countStatement hCountStatement]
    rfl
  have hSelected : client.execute pageStatement
      (pageParameters R.parameters pageSize ((page - 1) * pageSize)) = .ok selected := by
    rw [Client.execute, hPage pageStatement hPageStatement]
    rfl
  refine ⟨missing, ?_⟩
  -- the steps of `execute_route`, in their order
  rw [executeStored_checked R.validate_eq R.load_eq R.contract, runStored, R.paginated,
    requests.extract_eq page hFirst hLast]
  change (castParameterValues R.definitions (.queryParams R.queryParams) >>= fun _ => _) = _
  rw [R.cast_eq]
  change (buildBoundStatement U R.validated.canonicalSql R.definitions >>= fun _ => _) = _
  rw [R.bound]
  change (clientFor clients R.route.config.dbType >>= fun _ => _) = _
  rw [hClient]
  change (buildBoundStatement U (countSql R.validated.canonicalSql) R.definitions >>=
    fun _ => _) = _
  rw [hCountStatement]
  change (client.execute countStatement R.parameters >>= fun _ => _) = _
  rw [hCounted]
  change (extractTotal B [countRow] >>= fun _ => _) = _
  rw [hCount]
  change (buildBoundStatement U (pageSql R.validated.canonicalSql) R.definitions >>=
    fun _ => _) = _
  rw [hPageStatement]
  change (client.execute pageStatement
    (pageParameters R.parameters pageSize ((page - 1) * pageSize)) >>= fun _ => _) = _
  rw [hSelected]
  change (mapPii B R.mapper R.route selected >>= fun _ => _) = _
  rw [hMapped, ← fdiv_eq_batchCount requests.pageSize_pos]
  rfl

/-! ### An engine with a given enumeration -/

/-- An engine that cuts its slices out of `enum`. -/
def enumerating (R : PagedRoute (P := P) U S) (countRow : Row P) (rows enum : List (Row P)) :
    Client P := fun statement parameters =>
  -- only a slice has parameters behind those of the route
  match parameters.entries.drop R.parameters.entries.length with
  | [(_, .int limit), (_, .int offset)] => .ok (page limit.toNat offset.toNat enum)
  | _ => if statement.items = R.statement.items then .ok rows else .ok [countRow]

theorem enumerating_slice (R : PagedRoute (P := P) U S) (countRow : Row P)
    (rows enum : List (Row P)) (names : SliceNames R.parameters) (statement : TextClause)
    (limit offset : Nat) :
    enumerating R countRow rows enum statement (names.parameters limit offset) =
      .ok (page limit offset enum) := by
  rw [enumerating, names.drop_entries_parameters]
  rfl

theorem enumerating_page (R : PagedRoute (P := P) U S) (countRow : Row P)
    (rows enum : List (Row P)) (statement : TextClause) (pageSize offset : Nat) :
    enumerating R countRow rows enum statement
        (pageParameters R.parameters pageSize offset) =
      .ok (page pageSize offset enum) :=
  enumerating_slice R countRow rows enum (pageNames R.free) statement pageSize offset

/-- Without a slice it knows the statement of the route from the one that counts. -/
theorem enumerating_plain (R : PagedRoute (P := P) U S) (countRow : Row P)
    (rows enum : List (Row P)) (statement : TextClause) :
    enumerating R countRow rows enum statement R.parameters =
      if statement.items = R.statement.items then .ok rows else .ok [countRow] := by
  rw [enumerating, List.drop_length]

/-- The statement that counts is longer than the one it counts. -/
theorem items_countStatement_ne (R : PagedRoute (P := P) U S) {statement : TextClause}
    (h : buildBoundStatement U (countSql R.validated.canonicalSql) R.definitions =
      .ok statement) : statement.items ≠ R.statement.items := by
  have hOpen : "SELECT COUNT(*) AS total FROM (".toList.getLast? = some '(' := rfl
  have hClose : ") AS dynamic_route_count".toList.head? = some ')' := rfl
  have hWrapped := items_wrapped U R.validated.canonicalSql hOpen hClose
  have hFront := List.length_pos_iff.mpr
    (scan_ne_nil (bindMatcher U.isWord) (List.ne_nil_of_mem (List.mem_of_getLast? hOpen)))
  intro hSame
  -- the text in front of the statement has items of its own
  have hLength : (text U "SELECT COUNT(*) AS total FROM (").items.length +
      R.statement.items.length + (text U ") AS dynamic_route_count").items.length =
        R.statement.items.length := by
    rw [← List.length_append, ← List.length_append, items_of_buildBoundStatement R.bound,
      ← hWrapped]
    exact congrArg List.length ((items_of_buildBoundStatement h).symm.trans
      (hSame.trans (items_of_buildBoundStatement R.bound)))
  have hPos : 0 < (text U "SELECT COUNT(*) AS total FROM (").items.length := hFront
  omega

theorem answers_enumerating (R : PagedRoute (P := P) U S) (countRow : Row P)
    {rows enum : List (Row P)} (hEnum : enum.Perm rows) :
    Answers R countRow rows (enumerating R countRow rows enum) where
  ordered := by rw [enumerating_plain, if_pos rfl]
  counted statement hStatement := by
    rw [enumerating_plain, if_neg (items_countStatement_ne R hStatement)]
  sliced names statement _ limit offset :=
    ⟨enum, hEnum, enumerating_slice R countRow rows enum names statement limit offset⟩

theorem clientFor_both (client : Client P) (dbType : Dialect) :
    clientFor ⟨client, some client⟩ dbType = .ok client := by
  cases dbType <;> rfl

/-! ### When the pages are in order -/

/-- If the pages are in order for every engine, all rows are mapped to one. -/
theorem eq_of_pagesInOrder {R : PagedRoute (P := P) U S} {countRow : Row P}
    {rows : List (Row P)} (hCount : extractTotal B [countRow] = .ok rows.length)
    {pageSize : Nat} {requests : PageRequests R pageSize (batchCount pageSize rows.length)}
    (h : PagesInOrder B R countRow rows requests) :
    ∀ a ∈ rows, ∀ b ∈ rows, mappedRow B R.mapper R.route a = mappedRow B R.mapper R.route b := by
  refine (map_servedPages_eq_iff requests.pageSize_pos _ rows).mp fun enum hEnum => ?_
  -- the request for a page finds an engine that enumerates as the page does
  obtain ⟨data, missing, hData, hConcat⟩ := h
    (fun page => ⟨enumerating R countRow rows (enum (page - 1)),
      some (enumerating R countRow rows (enum (page - 1)))⟩)
    fun page => ⟨_, clientFor_both _ _, answers_enumerating R countRow (hEnum _)⟩
  rw [← hConcat, servedPages, List.map_flatMap]
  refine List.flatMap_congr fun k hk => ?_
  have hLast : k + 1 ≤ batchCount pageSize rows.length := List.mem_range.mp hk
  obtain ⟨missing', hPage⟩ := executeStored_page B requests hCount (clientFor_both _ _)
    (answers_enumerating R countRow (hEnum k)) (Nat.succ_pos k) hLast
    fun statement _ => enumerating_page R countRow rows (enum k) statement pageSize _
  have hSame := hPage.symm.trans (hData (k + 1) (Nat.succ_pos k) hLast)
  rw [Except.ok.injEq, ExecutionResponse.paginated.injEq] at hSame
  exact hSame.1

/-- For every engine the pages are the ordered result exactly when all rows of
the result are mapped to one row. -/
theorem pagesInOrder_iff {R : PagedRoute (P := P) U S} {countRow : Row P}
    {rows : List (Row P)} (hCount : extractTotal B [countRow] = .ok rows.length)
    {pageSize : Nat} (requests : PageRequests R pageSize (batchCount pageSize rows.length)) :
    PagesInOrder B R countRow rows requests ↔
      ∀ a ∈ rows, ∀ b ∈ rows,
        mappedRow B R.mapper R.route a = mappedRow B R.mapper R.route b := by
  refine ⟨eq_of_pagesInOrder B hCount, fun hSame clients hClients => ?_⟩
  choose client hClient hAnswers using hClients
  -- every engine cuts its page out of some enumeration of the rows
  have hSelected : ∀ page, ∃ enum : List (Row P), enum.Perm rows ∧
      ∀ statement, buildBoundStatement U (pageSql R.validated.canonicalSql) R.definitions =
        .ok statement → client page statement
          (pageParameters R.parameters pageSize ((page - 1) * pageSize)) =
            .ok (Library.page pageSize ((page - 1) * pageSize) enum) := by
    intro page
    obtain ⟨-, statement, hStatement⟩ := exists_wrapped R
    obtain ⟨enum, hEnum, hAnswer⟩ := (hAnswers page).paged hStatement pageSize
      ((page - 1) * pageSize)
    refine ⟨enum, hEnum, fun statement' hStatement' => ?_⟩
    cases hStatement.symm.trans hStatement'
    exact hAnswer
  choose enum hEnum hPaged using hSelected
  have hPage : ∀ page, 1 ≤ page → page ≤ batchCount pageSize rows.length → ∃ missing,
      executeStored U S B (clients page) R.mapper R.route (requests.query page) =
        .ok (.paginated ((Library.page pageSize ((page - 1) * pageSize) (enum page)).map
          (mappedRow B R.mapper R.route)) rows.length page pageSize
            (batchCount pageSize rows.length : Nat) missing) :=
    fun page hFirst hLast => executeStored_page B requests hCount (hClient page)
      (hAnswers page) hFirst hLast (hPaged page)
  choose! missing hMissing using hPage
  refine ⟨_, missing, hMissing, ?_⟩
  rw [← (map_servedPages_eq_iff requests.pageSize_pos _ rows).mpr hSame
    (fun k => enum (k + 1)) fun k => hEnum (k + 1), servedPages, List.map_flatMap]
  rfl

end Pages

/-! ### Two rows -/

/-- A total order on the rows of a table. -/
abbrev idsSql : String := "SELECT account_id FROM t ORDER BY account_id"

/-- The tree of the statement. -/
def selectOrdered : Expression :=
  .node .select "" [.node (.other "Column") "account_id" [], .node (.other "From") "t" [],
    .node (.other "Order") "" [.node (.other "Column") "account_id" []]]

/-- The paginated route `alice/ids` with the statement. -/
def idsRoute (dbType : Dialect) (piiType : Option DynamicRoutePiiType) :
    StoredRoute Scalars.plain.Float where
  config :=
    { routePrefix := "alice", path := "ids", description := ""
      originalSql := idsSql, canonicalSql := idsSql, parameterDefinitions := ∅
      dbType := dbType, piiType := piiType, responseType := .paginated }
  updatedBy := 1
  id := 7
  createdBy := 1

/-- It is executed without parameters, and with an empty cache. -/
def idsPaged (dbType : Dialect) (piiType : Option DynamicRoutePiiType) :
    PagedRoute (P := .plain) .ascii (oneText idsSql selectOrdered) where
  route := idsRoute dbType piiType
  paginated := rfl
  validated := ⟨idsSql, ∅⟩
  validate_eq := by
    have hAccepted : ∀ dialect, validate .ascii (oneText idsSql selectOrdered) idsSql dialect =
        .ok ⟨idsSql, ∅⟩ := by
      intro dialect
      cases dialect <;> decide
    exact hAccepted dbType
  definitions := .empty
  load_eq := deserializeDefinitions_eq_ok_iff.mpr (by
    have hNone : storedEntries (∅ : StoredDefinitions Scalars.plain.Float) = [] := by
      simp [storedEntries]
    rw [idsRoute, hNone]
    rfl)
  contract := ⟨nofun, rfl⟩
  reserved := nofun
  statement := text .ascii idsSql
  bound := rfl
  queryParams := []
  parameters := .empty
  cast_eq := rfl
  mapper := some .new
  configured := .inr rfl

/-- The row with a token. -/
def idRow (token : String) : Row .plain := Dict.empty.set "account_id" (.str token)

theorem idRow_ne {token token' : String} (hNe : token ≠ token') : idRow token ≠ idRow token' := by
  intro hSame
  have hEntries : [("account_id", (.str token : PyValue .plain))] =
      [("account_id", .str token')] := congrArg Dict.entries hSame
  cases hEntries
  exact hNe rfl

/-- The row that counts. -/
def totalRow (n : Int) : Row .plain := Dict.empty.set "total" (.int n)

/-- The requests for two pages of one row. -/
def idsRequests (dbType : Dialect) (piiType : Option DynamicRoutePiiType) :
    PageRequests (idsPaged dbType piiType) 1 2 where
  query page := [("page", if page = 1 then "1" else "2"), ("page_size", "1")]
  extract_eq page hFirst hLast := by
    have hRead : ∀ page ∈ [1, 2], extractPagination .ascii
        [("page", if page = 1 then "1" else "2"), ("page_size", "1")] .paginated =
          .ok ([], some (page, 1)) := by decide
    exact hRead page (by simp only [List.mem_cons, List.not_mem_nil, or_false]; omega)
  pageSize_pos := Nat.one_pos

/-- Two tokens without a mapping are both shown as null, in whichever order they come. -/
theorem pagesInOrder_unmapped :
    idRow "t1" ≠ idRow "t2" ∧
      PagesInOrder .plain (idsPaged .postgres (some .accountId)) (totalRow 2)
        [idRow "t1", idRow "t2"] (idsRequests .postgres (some .accountId)) := by
  have hCount : extractTotal .plain [totalRow 2] =
      .ok ([idRow "t1", idRow "t2"].length : Int) := rfl
  have hMapped : ∀ row ∈ [idRow "t1", idRow "t2"],
      mappedRow .plain (some .new) (idsRoute .postgres (some .accountId)) row =
        Dict.empty.set "account_id" .none := by
    intro row hRow
    rcases List.mem_pair.mp hRow with rfl | rfl <;> rfl
  refine ⟨idRow_ne (by decide), (pagesInOrder_iff .plain hCount
    (idsRequests .postgres (some .accountId))).mpr fun a hA b hB => ?_⟩
  exact (hMapped a hA).trans (hMapped b hB).symm

/-- Two rows that are shown as they are may come out of order. -/
theorem pages_out_of_order :
    ¬ PagesInOrder .plain (idsPaged .postgres none) (totalRow 2)
      [idRow "t1", idRow "t2"] (idsRequests .postgres none) := by
  intro hOrdered
  have hCount : extractTotal .plain [totalRow 2] =
      .ok ([idRow "t1", idRow "t2"].length : Int) := rfl
  have hSame : idRow "t1" = idRow "t2" := eq_of_pagesInOrder .plain hCount hOrdered
    (idRow "t1") List.mem_cons_self (idRow "t2") (List.mem_cons_of_mem _ List.mem_cons_self)
  exact idRow_ne (by decide) hSame

end QueryEngine
end DataApi
