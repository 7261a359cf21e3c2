import DataApi.QueryEngine.LabTest
import DataApi.QueryEngine.UnorderedPages

/-!
# The calls of a paginated execution

A request for a page of a route is refused before any database is called, or it comes
down to two calls: one that counts the rows, and one that reads the page.
-/

namespace DataApi
namespace QueryEngine

open Library Schemas PiiCache

/-- A request that passes every check of `execute_route`, with what the checks have
read from it. -/
structure AcceptedPage {P : Scalars} (U : Unicode) (S : Sqlglot)
    (route : StoredRoute P.Float) (rawParams : List (String × String)) where
  paginated : route.config.responseType = .paginated
  validated : ValidatedSql
  validate_eq : validate U S route.config.canonicalSql route.config.dbType = .ok validated
  definitions : Dict String (DynamicParameterDefinition P)
  load_eq : deserializeDefinitions route.config.parameterDefinitions = .ok definitions
  contract : MeetsContract validated.parameterNames definitions
  queryParams : List (String × String)
  page : Nat
  pageSize : Nat
  extract_eq : extractPagination U rawParams .paginated =
    .ok (queryParams, some (page, pageSize))
  parameters : Dict String (PyValue P)
  cast_eq : castParameterValues definitions (.queryParams queryParams) = .ok parameters
  binds : ∀ name ∈ definitions.keys, name ∈ (text U validated.canonicalSql).bindNames

namespace AcceptedPage

variable {P : Scalars} {U : Unicode} {S : Sqlglot} {route : StoredRoute P.Float}
  {rawParams : List (String × String)}

/-- The call that counts. -/
def countCall (A : AcceptedPage U S route rawParams) : DatabaseCall P where
  dbType := route.config.dbType
  sql := countSql A.validated.canonicalSql
  declared := declaredBinds A.definitions
  parameters := A.parameters

/-- The call that reads the page. -/
def dataCall (A : AcceptedPage U S route rawParams) : DatabaseCall P where
  dbType := route.config.dbType
  sql := pageSql A.validated.canonicalSql
  declared := declaredBinds A.definitions
  parameters := pageParameters A.parameters A.pageSize ((A.page - 1) * A.pageSize)

/-- The two calls, and the response to what they return. -/
def run (A : AcceptedPage U S route rawParams) (B : Builtins P) (clients : Clients P)
    (mapper : Option AccountMapInMemory) : Except Raised (ExecutionResponse P) := do
  let countRows ← A.countCall.send U clients
  let total ← extractTotal B countRows
  let rows ← A.dataCall.send U clients
  let mapped ← mapPii B mapper route rows
  return .paginated mapped.1 total A.page A.pageSize
    ((total + A.pageSize - 1).fdiv A.pageSize) mapped.2

/-- Both statements can be built, since the one they wrap can. -/
theorem build_countSql (A : AcceptedPage U S route rawParams) :
    buildBoundStatement U (countSql A.validated.canonicalSql) A.definitions =
      .ok ⟨(text U (countSql A.validated.canonicalSql)).items,
        declaredBinds A.definitions⟩ :=
  buildBoundStatement_eq_ok.mpr fun name hName =>
    mem_bindNames_wrapped U rfl rfl (A.binds name hName)

theorem build_pageSql (A : AcceptedPage U S route rawParams) :
    buildBoundStatement U (pageSql A.validated.canonicalSql) A.definitions =
      .ok ⟨(text U (pageSql A.validated.canonicalSql)).items,
        declaredBinds A.definitions⟩ := by
  refine buildBoundStatement_eq_ok.mpr fun name hName => ?_
  rw [pageSql_eq]
  exact mem_bindNames_wrapped U rfl rfl (A.binds name hName)

/-- An accepted request is its two calls. -/
theorem executeStored_eq (A : AcceptedPage U S route rawParams) (B : Builtins P)
    (clients : Clients P) (mapper : Option AccountMapInMemory) :
    executeStored U S B clients mapper route rawParams = A.run B clients mapper := by
  -- the steps in front of the calls, in their order
  rw [executeStored_checked A.validate_eq A.load_eq A.contract, runStored, A.paginated,
    A.extract_eq]
  change (castParameterValues A.definitions (.queryParams A.queryParams) >>=
    fun _ => _) = _
  rw [A.cast_eq]
  change (buildBoundStatement U A.validated.canonicalSql A.definitions >>= fun _ => _) = _
  rw [buildBoundStatement_eq_ok.mpr A.binds]
  change (clientFor clients route.config.dbType >>= fun client => _) =
    ((clientFor clients route.config.dbType >>= fun client => _) >>= fun countRows =>
      extractTotal B countRows >>= fun total =>
        (clientFor clients route.config.dbType >>= fun client => _) >>= _)
  cases clientFor clients route.config.dbType with
  | error raised => rfl
  | ok client =>
      change (buildBoundStatement U (countSql A.validated.canonicalSql) A.definitions >>=
        fun countStatement => client.execute countStatement A.parameters >>=
          fun countRows => extractTotal B countRows >>= fun total =>
            buildBoundStatement U (pageSql A.validated.canonicalSql) A.definitions >>= _) = _
      rw [A.build_countSql, A.build_pageSql]
      rfl

end AcceptedPage

section Refusals

variable {P : Scalars} {U : Unicode} {S : Sqlglot} {route : StoredRoute P.Float}

/-- A request is refused whatever the databases are, or it is accepted. -/
theorem refused_or_accepted (hPaginated : route.config.responseType = .paginated)
    (rawParams : List (String × String)) :
    (∃ raised, ∀ (B : Builtins P) clients mapper,
      executeStored U S B clients mapper route rawParams = .error raised) ∨
    Nonempty (AcceptedPage U S route rawParams) := by
  cases hValidate : validate U S route.config.canonicalSql route.config.dbType with
  | error e =>
      refine .inl ⟨.app e, fun B clients mapper => ?_⟩
      rw [executeStored, hValidate]
      rfl
  | ok validated =>
  cases hLoad : deserializeDefinitions (P := P) route.config.parameterDefinitions with
  | error raised =>
      refine .inl ⟨raised, fun B clients mapper => ?_⟩
      rw [executeStored, hValidate, hLoad]
      rfl
  | ok definitions =>
  cases hContract : validateParameterContract validated.parameterNames definitions with
  | error e =>
      refine .inl ⟨.app e, fun B clients mapper => ?_⟩
      rw [executeStored, hValidate, hLoad]
      change ((validateParameterContract validated.parameterNames definitions).mapError
        Raised.app >>= fun _ => _) = _
      rw [hContract]
      rfl
  | ok u =>
  have hMeets := validateParameterContract_eq_ok_iff.mp hContract
  have hRun := fun (B : Builtins P) clients mapper =>
    executeStored_checked (B := B) hValidate hLoad hMeets clients mapper rawParams
  cases hExtract : extractPagination U rawParams route.config.responseType with
  | error raised =>
      refine .inl ⟨raised, fun B clients mapper => ?_⟩
      rw [hRun]
      exact runStored_of_extract_error hExtract
  | ok extracted =>
  obtain ⟨queryParams, pagination⟩ := extracted
  cases hCast : castParameterValues definitions (.queryParams queryParams) with
  | error raised =>
      refine .inl ⟨raised, fun B clients mapper => ?_⟩
      rw [hRun]
      exact runStored_of_cast_error hExtract hCast
  | ok parameters =>
  cases hBuild : buildBoundStatement U validated.canonicalSql definitions with
  | error raised =>
      refine .inl ⟨raised, fun B clients mapper => ?_⟩
      rw [hRun]
      exact runStored_of_build_error hExtract hCast hBuild
  | ok statement =>
  rw [hPaginated] at hExtract
  obtain ⟨page, hPage⟩ : ∃ page, pagination = some page := by
    rw [extractPagination] at hExtract
    obtain ⟨page, -, hExtract⟩ := bind_eq_ok_iff.mp hExtract
    obtain ⟨pageSize, -, hExtract⟩ := bind_eq_ok_iff.mp hExtract
    cases hExtract
    exact ⟨_, rfl⟩
  subst hPage
  exact .inr ⟨hPaginated, validated, hValidate, definitions, hLoad, hMeets, queryParams,
    page.1, page.2, hExtract, parameters, hCast,
    buildBoundStatement_eq_ok_iff.mp ⟨statement, hBuild⟩⟩

/-- What `_extract_pagination` has read from the query string of a paginated route. -/
theorem extractPagination_paginated {rawParams queryParams : List (String × String)}
    {page pageSize : Nat}
    (h : extractPagination U rawParams .paginated = .ok (queryParams, some (page, pageSize))) :
    queryParams = rawParams.filter (fun item => item.1 ∉ ["page", "page_size"]) ∧
      parsePaginationValue U rawParams "page" 1 none = .ok page ∧
      parsePaginationValue U rawParams "page_size" 100 (some 1000) = .ok pageSize := by
  rw [extractPagination] at h
  obtain ⟨page', hPage, h⟩ := bind_eq_ok_iff.mp h
  obtain ⟨pageSize', hPageSize, h⟩ := bind_eq_ok_iff.mp h
  cases h
  exact ⟨rfl, hPage, hPageSize⟩

end Refusals

/-! ### The page of a query string -/

/-- A pagination parameter of a query string stands for `value`: it was supplied once so,
or it was not supplied. -/
inductive ReadsPage (U : Unicode) (rawParams : List (String × String)) (name : String)
    (default : Nat) : Nat → Prop where
  | omitted (hOmitted : (rawParams.filter fun item => item.1 = name) = []) :
      ReadsPage U rawParams name default default
  | supplied {item : String × String} {value : Nat}
      (hOnce : (rawParams.filter fun item => item.1 = name) = [item])
      (hRead : decimalOfStr U item.2 = some value) : ReadsPage U rawParams name default value

/-- It stands for one value. -/
theorem ReadsPage.unique {U : Unicode} {rawParams : List (String × String)} {name : String}
    {default value value' : Nat} (h : ReadsPage U rawParams name default value)
    (h' : ReadsPage U rawParams name default value') : value = value' := by
  cases h with
  | omitted hOmitted =>
      cases h' with
      | omitted => rfl
      | supplied hOnce => cases hOmitted.symm.trans hOnce
  | supplied hOnce hRead =>
      cases h' with
      | omitted hOmitted => cases hOmitted.symm.trans hOnce
      | supplied hOnce' hRead' =>
          cases hOnce.symm.trans hOnce'
          exact Option.some.inj (hRead.symm.trans hRead')

/-- A pagination value is what the query string says, within its bounds. -/
theorem parsePaginationValue_eq_ok_iff {U : Unicode} {rawParams : List (String × String)}
    {name : String} {default value : Nat} {maximum : Option Nat}
    (hDefault : 1 ≤ default ∧ ∀ bound ∈ maximum, default ≤ bound) :
    parsePaginationValue U rawParams name default maximum = .ok value ↔
      ReadsPage U rawParams name default value ∧ 1 ≤ value ∧ ∀ bound ∈ maximum,
        value ≤ bound := by
  constructor
  · intro h
    unfold parsePaginationValue at h
    dsimp only at h
    split at h
    · rename_i hOmitted
      cases h
      exact ⟨.omitted hOmitted, hDefault⟩
    · rename_i hOnce
      split at h
      · cases h
      · rename_i hRead
        split at h
        · cases h
        · rename_i hBounds
          cases h
          rw [not_or, not_lt] at hBounds
          exact ⟨.supplied hOnce hRead, hBounds.1, fun bound hBound =>
            not_lt.mp fun hAbove => hBounds.2 ⟨bound, hBound, hAbove⟩⟩
    · cases h
  · rintro ⟨hRead, hPos, hMax⟩
    cases hRead with
    | omitted hOmitted =>
        unfold parsePaginationValue
        rw [hOmitted]
    | supplied hOnce hRead =>
        unfold parsePaginationValue
        simp only [hOnce, hRead]
        rw [if_neg]
        rintro (hZero | ⟨bound, hBound, hAbove⟩)
        · exact absurd hPos (not_le.mpr hZero)
        · exact absurd (hMax bound hBound) (not_le.mpr hAbove)

/-- A page number, and a page size. -/
theorem parsePage_eq_ok_iff {U : Unicode} {rawParams : List (String × String)} {page : Nat} :
    parsePaginationValue U rawParams "page" 1 none = .ok page ↔
      ReadsPage U rawParams "page" 1 page ∧ 1 ≤ page := by
  rw [parsePaginationValue_eq_ok_iff ⟨le_refl 1, fun _ hNone => (by cases hNone)⟩]
  simp

theorem parsePageSize_eq_ok_iff {U : Unicode} {rawParams : List (String × String)}
    {pageSize : Nat} :
    parsePaginationValue U rawParams "page_size" 100 (some 1000) = .ok pageSize ↔
      ReadsPage U rawParams "page_size" 100 pageSize ∧ 1 ≤ pageSize ∧ pageSize ≤ 1000 := by
  have hDefault : 1 ≤ 100 ∧ ∀ bound ∈ some 1000, 100 ≤ bound := by simp
  rw [parsePaginationValue_eq_ok_iff hDefault]
  simp

theorem AcceptedPage.pageSize_bounds {P : Scalars} {U : Unicode} {S : Sqlglot}
    {route : StoredRoute P.Float} {rawParams : List (String × String)}
    (A : AcceptedPage U S route rawParams) : 1 ≤ A.pageSize ∧ A.pageSize ≤ 1000 := by
  obtain ⟨-, -, hSize⟩ := extractPagination_paginated A.extract_eq
  exact (parsePageSize_eq_ok_iff.mp hSize).2

theorem extract_ids : extractPagination .ascii [] .paginated = .ok ([], some (1, 100)) :=
  rfl

/-- A request without a query string for the route `alice/ids`. -/
def idsAccepted (dbType : Dialect) : AcceptedPage (P := .plain) .ascii
    (oneText idsSql selectOrdered) (idsRoute dbType none) [] where
  paginated := (idsPaged dbType none).paginated
  validated := (idsPaged dbType none).validated
  validate_eq := (idsPaged dbType none).validate_eq
  definitions := (idsPaged dbType none).definitions
  load_eq := (idsPaged dbType none).load_eq
  contract := (idsPaged dbType none).contract
  queryParams := []
  page := 1
  pageSize := 100
  extract_eq := extract_ids
  parameters := .empty
  cast_eq := (idsPaged dbType none).cast_eq
  binds name hName := by cases hName

end QueryEngine
end DataApi
