import DataApi.QueryEngine.BindAgreement
import DataApi.QueryEngine.CastContract
import DataApi.QueryEngine.PagePartition

/-!
# The integers that are bound

A declared integer is bound with the type `INTEGER` of 32 bits, and `LIMIT` and `OFFSET`
take a `BIGINT`.  The casts read a text as an integer of any size, and `page` has no
maximum: nothing in front of the database compares either of them with these bounds.
-/

namespace DataApi
namespace QueryEngine

open Library Schemas PiiCache

/-- The integers of the SQL type `INTEGER`. -/
def FitsInteger (n : Int) : Prop := -2147483648 ≤ n ∧ n ≤ 2147483647

/-- The integers of `BIGINT` that are not negative. -/
def FitsBigint (n : Int) : Prop := 0 ≤ n ∧ n ≤ 9223372036854775807

instance (n : Int) : Decidable (FitsInteger n) := by
  unfold FitsInteger
  infer_instance

instance (n : Int) : Decidable (FitsBigint n) := by
  unfold FitsBigint
  infer_instance

/-! ### What a request says -/

section Inputs

variable {P : Scalars}

/-- An integer parameter stands for `n`: it was supplied so, or it was not supplied and
has such a default. -/
inductive ReadsInteger (rawValues : RawValues P) (name : String)
    (definition : DynamicParameterDefinition P) (n : Int) : Prop where
  | supplied {values : List (PyValue P)} (hSupplied : rawValues.supplied name = some values)
      (hDenotes : Denotes .integer values (.int n)) : ReadsInteger rawValues name definition n
  | default (hOmitted : rawValues.supplied name = none)
      (hDenotes : Denotes .integer [definition.default] (.int n)) :
      ReadsInteger rawValues name definition n

/-- The parameters of a query string that are not for the pagination. -/
def routeParams (responseType : DynamicRouteResponseType)
    (rawParams : List (String × String)) : List (String × String) :=
  match responseType with
  | .data => rawParams
  | .paginated => rawParams.filter fun item => item.1 ∉ ["page", "page_size"]

/-- A request has a page and a page size that a paginated route accepts. -/
def PageAcceptable (U : Unicode) (rawParams : List (String × String)) : Prop :=
  ∃ page pageSize, ReadsPage U rawParams "page" 1 page ∧ 1 ≤ page ∧
    ReadsPage U rawParams "page_size" 100 pageSize ∧ 1 ≤ pageSize ∧ pageSize ≤ 1000

/-- A query string meets the definitions of a route, and the rules for pages. -/
structure Acceptable (U : Unicode) (responseType : DynamicRouteResponseType)
    (definitions : Dict String (DynamicParameterDefinition P))
    (rawParams : List (String × String)) : Prop where
  parameters : ¬ Refused definitions (.queryParams (routeParams responseType rawParams))
  page : responseType = .paginated → PageAcceptable U rawParams

/-- A query string has an integer that does not fit: the value of an integer parameter,
or the limit or offset of its page. -/
inductive OutOfRange (U : Unicode) (responseType : DynamicRouteResponseType)
    (definitions : Dict String (DynamicParameterDefinition P))
    (rawParams : List (String × String)) : Prop where
  | parameter {name : String} {definition : DynamicParameterDefinition P} {n : Int}
      (hGet : definitions.get? name = some definition) (hType : definition.type = .integer)
      (hRead : ReadsInteger (.queryParams (routeParams responseType rawParams)) name
        definition n)
      (hLarge : ¬ FitsInteger n) : OutOfRange U responseType definitions rawParams
  | page {page pageSize : Nat} (hPaginated : responseType = .paginated)
      (hPage : ReadsPage U rawParams "page" 1 page)
      (hSize : ReadsPage U rawParams "page_size" 100 pageSize)
      (hLarge : ¬ (FitsBigint pageSize ∧ FitsBigint ((page - 1) * pageSize : Nat))) :
      OutOfRange U responseType definitions rawParams

/-- A text and a value stand for one integer. -/
theorem denotes_integer_unique {values : List (PyValue P)} {value value' : PyValue P}
    (h : Denotes .integer values value) (h' : Denotes .integer values value') :
    value = value' := by
  cases h with
  | integer n =>
      cases h'
      rfl
  | integerText hRead =>
      cases h' with
      | integerText hRead' => rw [Option.some.inj (hRead.symm.trans hRead')]

/-- The value that is given for an integer parameter is the integer that it stands for. -/
theorem Given.readsInteger {rawValues : RawValues P} {name : String}
    {definition : DynamicParameterDefinition P} {value : PyValue P}
    (hGiven : Given rawValues name definition value) (hType : definition.type = .integer)
    (n : Int) : value = .int n ↔ ReadsInteger rawValues name definition n := by
  cases hGiven with
  | supplied hSupplied hDenotes =>
      rw [hType] at hDenotes
      constructor
      · rintro rfl
        exact .supplied hSupplied hDenotes
      · intro hRead
        cases hRead with
        | supplied hSame hDenotes' =>
            cases hSupplied.symm.trans hSame
            exact denotes_integer_unique hDenotes hDenotes'
        | default hOmitted => cases hSupplied.symm.trans hOmitted
  | default hOmitted _ hCast =>
      have hEnd := castValue_end "default" (fun h => by cases hType.symm.trans h)
        definition.default
      rw [hCast, hType] at hEnd
      cases hEnd with
      | value hDenotes =>
          constructor
          · rintro rfl
            exact .default hOmitted hDenotes
          · intro hRead
            cases hRead with
            | supplied hSupplied => cases hSupplied.symm.trans hOmitted
            | default _ hDenotes' => exact denotes_integer_unique hDenotes hDenotes'
  | none hOmitted _ hDefault =>
      refine iff_of_false (fun h => by cases h) fun hRead => ?_
      cases hRead with
      | supplied hSupplied => cases hSupplied.symm.trans hOmitted
      | default _ hDenotes =>
          rw [hDefault] at hDenotes
          cases hDenotes

/-- What `_extract_pagination` reads. -/
theorem extractPagination_reads {U : Unicode} {rawParams queryParams : List (String × String)}
    {responseType : DynamicRouteResponseType} {pagination : Option (Nat × Nat)}
    (h : extractPagination U rawParams responseType = .ok (queryParams, pagination)) :
    queryParams = routeParams responseType rawParams ∧
      (responseType = .data ∧ pagination = none ∨
        ∃ page pageSize, responseType = .paginated ∧ pagination = some (page, pageSize) ∧
          (ReadsPage U rawParams "page" 1 page ∧ 1 ≤ page) ∧
          ReadsPage U rawParams "page_size" 100 pageSize ∧ 1 ≤ pageSize ∧ pageSize ≤ 1000) := by
  cases responseType with
  | data =>
      cases h
      exact ⟨rfl, .inl ⟨rfl, rfl⟩⟩
  | paginated =>
      rw [extractPagination] at h
      obtain ⟨page, hPage, h⟩ := bind_eq_ok_iff.mp h
      obtain ⟨pageSize, hPageSize, h⟩ := bind_eq_ok_iff.mp h
      cases h
      exact ⟨rfl, .inr ⟨page, pageSize, rfl, rfl, parsePage_eq_ok_iff.mp hPage,
        parsePageSize_eq_ok_iff.mp hPageSize⟩⟩

/-- It reads every query string whose page is acceptable. -/
theorem exists_extractPagination {U : Unicode} {rawParams : List (String × String)}
    {responseType : DynamicRouteResponseType}
    (h : responseType = .paginated → PageAcceptable U rawParams) :
    ∃ pagination, extractPagination U rawParams responseType =
      .ok (routeParams responseType rawParams, pagination) := by
  cases responseType with
  | data => exact ⟨none, rfl⟩
  | paginated =>
      obtain ⟨page, pageSize, hPage, hPos, hPageSize⟩ := h rfl
      have hReadPage := parsePage_eq_ok_iff.mpr ⟨hPage, hPos⟩
      have hReadSize := parsePageSize_eq_ok_iff.mpr hPageSize
      refine ⟨some (page, pageSize), ?_⟩
      rw [extractPagination, hReadPage, hReadSize]
      rfl

end Inputs

/-! ### What is bound -/

/-- A request that `execute_route` does not refuse: it passes the checks and the casts, with
what they have read from it. -/
structure Admitted {P : Scalars} (U : Unicode) (S : Sqlglot) (route : StoredRoute P.Float)
    (rawParams : List (String × String)) where
  validated : ValidatedSql
  validate_eq : validate U S route.config.canonicalSql route.config.dbType = .ok validated
  definitions : Dict String (DynamicParameterDefinition P)
  load_eq : deserializeDefinitions route.config.parameterDefinitions = .ok definitions
  contract : MeetsContract validated.parameterNames definitions
  queryParams : List (String × String)
  pagination : Option (Nat × Nat)
  extract_eq : extractPagination U rawParams route.config.responseType =
    .ok (queryParams, pagination)
  parameters : Dict String (PyValue P)
  cast_eq : castParameterValues definitions (.queryParams queryParams) = .ok parameters

section Admission

variable {P : Scalars} {U : Unicode} {S : Sqlglot} {route : StoredRoute P.Float}
  {rawParams : List (String × String)}

/-- The errors of a client are its own. -/
theorem execute_raises_no_parameterError (client : Client P) (statement : TextClause)
    (values : Dict String (PyValue P)) :
    AppErrors (fun e => ¬ IsParameterError (.app e)) (client.execute statement values) := by
  unfold Client.execute
  cases client statement values with
  | ok rows => exact .ok _
  | error clientError =>
      cases clientError with
      | timeout =>
          refine .app ?_
          rintro ⟨code, message, details, h⟩
          cases h
      | other className => exact .other _

namespace Admitted

/-- The values that the statements of the request are executed with. -/
def bindings (A : Admitted U S route rawParams) : List (Dict String (PyValue P)) :=
  match A.pagination with
  | none => [A.parameters]
  | some (page, pageSize) =>
      [A.parameters, pageParameters A.parameters pageSize ((page - 1) * pageSize)]

/-- Every value bound for a declared integer parameter is an `INTEGER`, and limit and offset
of a page are `BIGINT`s that are not negative. -/
structure Fits (A : Admitted U S route rawParams) : Prop where
  integers : ∀ values ∈ A.bindings, ∀ name definition,
    A.definitions.get? name = some definition → definition.type = .integer →
      ∀ n, values.get? name = some (.int n) → FitsInteger n
  page : ∀ page pageSize, A.pagination = some (page, pageSize) →
    FitsBigint pageSize ∧ FitsBigint ((page - 1) * pageSize : Nat)

/-- Behind the checks. -/
theorem executeStored_eq (A : Admitted U S route rawParams) (B : Builtins P)
    (clients : Clients P) (mapper : Option AccountMapInMemory) :
    executeStored U S B clients mapper route rawParams =
      runStored U B clients mapper route A.validated.canonicalSql A.definitions rawParams :=
  executeStored_checked A.validate_eq A.load_eq A.contract clients mapper rawParams

/-- The database is called with these values and no others: clients that answer them alike
lead to the same result. -/
theorem executeStored_congr (A : Admitted U S route rawParams) (B : Builtins P)
    {clients clients' : Clients P} {client client' : Client P}
    (hClient : clientFor clients route.config.dbType = .ok client)
    (hClient' : clientFor clients' route.config.dbType = .ok client')
    (hSame : ∀ values ∈ A.bindings, ∀ statement,
      client.execute statement values = client'.execute statement values)
    (mapper : Option AccountMapInMemory) :
    executeStored U S B clients mapper route rawParams =
      executeStored U S B clients' mapper route rawParams := by
  obtain ⟨validated, hValidate, definitions, hLoad, hContract, queryParams, pagination,
    hExtract, parameters, hCast⟩ := A
  rw [executeStored_checked hValidate hLoad hContract,
    executeStored_checked hValidate hLoad hContract, runStored, runStored, hExtract]
  change (castParameterValues definitions (.queryParams queryParams) >>= fun _ => _) =
    (castParameterValues definitions (.queryParams queryParams) >>= fun _ => _)
  rw [hCast]
  change (buildBoundStatement U validated.canonicalSql definitions >>= fun statement =>
      clientFor clients route.config.dbType >>= fun client => _) =
    (buildBoundStatement U validated.canonicalSql definitions >>= fun statement =>
      clientFor clients' route.config.dbType >>= fun client => _)
  rw [hClient, hClient']
  refine bind_congr fun statement => ?_
  cases pagination with
  | none =>
      have hData := hSame parameters (List.mem_singleton_self _) statement
      change (client.execute statement parameters >>= fun _ => _) =
        (client'.execute statement parameters >>= fun _ => _)
      rw [hData]
  | some bounds =>
      change (buildBoundStatement U (countSql validated.canonicalSql) definitions >>=
          fun countStatement => client.execute countStatement parameters >>= fun countRows => _) =
        (buildBoundStatement U (countSql validated.canonicalSql) definitions >>=
          fun countStatement => client'.execute countStatement parameters >>= fun countRows => _)
      refine bind_congr fun countStatement => ?_
      have hCount := hSame parameters List.mem_cons_self countStatement
      rw [hCount]
      refine bind_congr fun countRows => ?_
      refine bind_congr fun total => ?_
      refine bind_congr fun statement => ?_
      have hPage := hSame _ (List.mem_cons_of_mem _ (List.mem_singleton_self _)) statement
      change (client.execute statement (pageParameters _ _ _) >>= fun rows => _) =
        (client'.execute statement (pageParameters _ _ _) >>= fun rows => _)
      rw [hPage]

/-- Nothing behind the casts raises an error of the request. -/
theorem not_isParameterError (A : Admitted U S route rawParams) (B : Builtins P)
    (clients : Clients P) (mapper : Option AccountMapInMemory) {raised : Raised}
    (h : executeStored U S B clients mapper route rawParams = .error raised) :
    ¬ IsParameterError raised := by
  have hErrors : AppErrors (fun e => ¬ IsParameterError (.app e))
      (executeStored U S B clients mapper route rawParams) := by
    rw [A.executeStored_eq, runStored, A.extract_eq]
    change AppErrors _ (castParameterValues A.definitions (.queryParams A.queryParams) >>=
      fun _ => _)
    rw [A.cast_eq]
    refine (buildBoundStatement_appErrors U A.validated.canonicalSql _).bind fun statement => ?_
    refine (clientFor_appErrors _ _).bind fun client => ?_
    cases A.pagination with
    | none =>
        refine (execute_raises_no_parameterError _ _ _).bind fun rows => ?_
        exact (mapPii_appErrors _ _ _ _).bind fun mapped => .ok _
    | some bounds =>
        refine (buildBoundStatement_appErrors U _ _).bind fun countStatement => ?_
        refine (execute_raises_no_parameterError _ _ _).bind fun countRows => ?_
        refine (extractTotal_appErrors B _).bind fun total => ?_
        refine (buildBoundStatement_appErrors U _ _).bind fun paginatedStatement => ?_
        refine (execute_raises_no_parameterError _ _ _).bind fun rows => ?_
        exact (mapPii_appErrors _ _ _ _).bind fun mapped => .ok _
  cases raised with
  | app error => exact hErrors error h
  | other className => exact not_isParameterError_other className

theorem queryParams_eq (A : Admitted U S route rawParams) :
    A.queryParams = routeParams route.config.responseType rawParams :=
  (extractPagination_reads A.extract_eq).1

/-- The values of the parameters, as the query string and the defaults have them. -/
theorem get?_parameters_iff (A : Admitted U S route rawParams) {name : String}
    {definition : DynamicParameterDefinition P} (hGet : A.definitions.get? name = some definition)
    (hType : definition.type = .integer) (n : Int) :
    A.parameters.get? name = some (.int n) ↔
      ReadsInteger (.queryParams (routeParams route.config.responseType rawParams)) name
        definition n := by
  obtain ⟨hReturned, -⟩ := returned_of_castParameterValues A.cast_eq
  obtain ⟨value, hValue, hGiven⟩ := hReturned.given name definition hGet
  rw [A.queryParams_eq] at hGiven
  rw [hValue, Option.some_inj]
  exact hGiven.readsInteger hType n

/-- Page and page size, as the query string has them. -/
theorem pagination_eq_some_iff (A : Admitted U S route rawParams) (page pageSize : Nat) :
    A.pagination = some (page, pageSize) ↔ route.config.responseType = .paginated ∧
      ReadsPage U rawParams "page" 1 page ∧ ReadsPage U rawParams "page_size" 100 pageSize := by
  obtain ⟨-, ⟨hData, hNone⟩ | ⟨page', pageSize', hPaginated, hSome, ⟨hPage, -⟩, hSize, -⟩⟩ :=
    extractPagination_reads A.extract_eq
  · rw [hData, hNone]
    exact iff_of_false (fun h => by cases h) fun h => by cases h.1
  · rw [hSome]
    constructor
    · intro hSame
      cases hSame
      exact ⟨hPaginated, hPage, hSize⟩
    · rintro ⟨-, hPage', hSize'⟩
      rw [hPage.unique hPage', hSize.unique hSize']

/-- A request that is not refused was acceptable. -/
theorem acceptable (A : Admitted U S route rawParams) :
    Acceptable U route.config.responseType A.definitions rawParams := by
  obtain ⟨hParams, hPages⟩ := extractPagination_reads A.extract_eq
  obtain ⟨-, hParameters⟩ := returned_of_castParameterValues A.cast_eq
  rw [hParams] at hParameters
  refine ⟨hParameters, fun hPaginated => ?_⟩
  rcases hPages with ⟨hData, -⟩ | ⟨page, pageSize, -, -, ⟨hPage, hPos⟩, hSize⟩
  · cases hData.symm.trans hPaginated
  · exact ⟨page, pageSize, hPage, hPos, hSize⟩

/-- A declared parameter has the same value in every statement. -/
theorem get?_of_mem_bindings (A : Admitted U S route rawParams)
    (hReserved : ReservedFree route.config.responseType A.definitions.keys)
    {values : Dict String (PyValue P)} (hValues : values ∈ A.bindings) {name : String}
    (hName : name ∈ A.definitions.keys) : values.get? name = A.parameters.get? name := by
  unfold bindings at hValues
  split at hValues
  · rw [List.mem_singleton.mp hValues]
  · rename_i page pageSize hPagination
    rcases List.mem_cons.mp hValues with rfl | hValues
    · rfl
    · have hFree := hReserved ((A.pagination_eq_some_iff page pageSize).mp hPagination).1
      have hOther : ∀ other ∈ paginationParameters, name ≠ other :=
        fun other hMem hSame => hFree name hName (hSame ▸ hMem)
      rw [List.mem_singleton.mp hValues,
        get?_pageParameters (hOther _ (by decide)) (hOther _ (by decide))]

theorem parameters_mem_bindings (A : Admitted U S route rawParams) :
    A.parameters ∈ A.bindings := by
  unfold bindings
  split
  · exact List.mem_singleton_self _
  · exact List.mem_cons_self

/-- What is bound fits exactly when the query string has no integer out of range. -/
theorem fits_iff (A : Admitted U S route rawParams)
    (hReserved : ReservedFree route.config.responseType A.definitions.keys) :
    A.Fits ↔ ¬ OutOfRange U route.config.responseType A.definitions rawParams := by
  constructor
  · intro hFits hOut
    cases hOut with
    | parameter hGet hType hRead hLarge =>
        exact hLarge (hFits.integers _ A.parameters_mem_bindings _ _ hGet hType _
          ((A.get?_parameters_iff hGet hType _).mpr hRead))
    | page hPaginated hPage hSize hLarge =>
        exact hLarge (hFits.page _ _
          ((A.pagination_eq_some_iff _ _).mpr ⟨hPaginated, hPage, hSize⟩))
  · intro hIn
    refine ⟨fun values hValues name definition hGet hType n hValue => ?_,
      fun page pageSize hPagination => ?_⟩
    · have hName : name ∈ A.definitions.keys :=
        (A.definitions.mem_keys_iff name).mpr ⟨definition, hGet⟩
      rw [A.get?_of_mem_bindings hReserved hValues hName] at hValue
      by_contra hLarge
      exact hIn (.parameter hGet hType ((A.get?_parameters_iff hGet hType n).mp hValue) hLarge)
    · obtain ⟨hPaginated, hPage, hSize⟩ := (A.pagination_eq_some_iff _ _).mp hPagination
      by_contra hLarge
      exact hIn (.page hPaginated hPage hSize hLarge)

end Admitted

/-- The error of the request that `execute_route` raises whatever the databases are. -/
def RefusedBefore (U : Unicode) (S : Sqlglot) (route : StoredRoute P.Float)
    (rawParams : List (String × String)) : Prop :=
  ∃ raised, IsParameterError raised ∧ ∀ (B : Builtins P) clients mapper,
    executeStored U S B clients mapper route rawParams = .error raised

/-- Every bound integer fits its SQL type, and a request with an integer that does not is
refused before the database is called. -/
structure IntegersBounded (U : Unicode) (S : Sqlglot) (route : StoredRoute P.Float)
    (rawParams : List (String × String)) : Prop where
  bound : ∀ A : Admitted U S route rawParams, A.Fits
  refused : ∀ definitions : Dict String (DynamicParameterDefinition P),
    deserializeDefinitions route.config.parameterDefinitions = .ok definitions →
    OutOfRange U route.config.responseType definitions rawParams →
    RefusedBefore U S route rawParams

end Admission


/-! ### The requests for a stored route -/

section Stored

variable {P : Scalars} {U : Unicode} {S : Sqlglot} {J : JsonFormat P}
  {route : StoredRoute P.Float} {rawParams : List (String × String)}

/-- The errors of a page are errors of the request. -/
theorem parsePaginationValue_raises (name : String) (default : Nat) (maximum : Option Nat) :
    RaisesOnly IsParameterError (parsePaginationValue U rawParams name default maximum) := by
  have hError : RaisesOnly IsParameterError (.error (.app (dynamicParameterError
      "dynamic_parameter_invalid"
      ("Parameter '" ++ name ++ "' is not a valid pagination value")
      [("parameter", .text name)])) : Except Raised Nat) :=
    .error ⟨_, _, _, rfl⟩
  unfold parsePaginationValue
  dsimp only
  split
  · exact .ok _
  · split
    · exact hError
    · split
      · exact hError
      · exact .ok _
  · exact hError

theorem extractPagination_raises (responseType : DynamicRouteResponseType) :
    RaisesOnly IsParameterError (extractPagination U rawParams responseType) := by
  cases responseType with
  | data => exact .ok _
  | paginated =>
      refine (parsePaginationValue_raises "page" 1 none).bind fun page => ?_
      exact (parsePaginationValue_raises "page_size" 100 (some 1000)).bind fun pageSize => .ok _

/-- A request for a stored route is refused before the database is called, or admitted. -/
theorem refusedBefore_or_admitted (hExecutable : Executable U S route.config)
    (rawParams : List (String × String)) :
    RefusedBefore U S route rawParams ∨ Nonempty (Admitted U S route rawParams) := by
  obtain ⟨definitions, validated, hLoad, hValidate, hContract, -⟩ := hExecutable
  have hRun := fun (B : Builtins P) clients mapper =>
    executeStored_checked (B := B) hValidate hLoad hContract clients mapper rawParams
  cases hExtract : extractPagination U rawParams route.config.responseType with
  | error raised =>
      refine .inl ⟨raised, extractPagination_raises _ raised hExtract,
        fun B clients mapper => ?_⟩
      rw [hRun]
      exact runStored_of_extract_error hExtract
  | ok extracted =>
  obtain ⟨queryParams, pagination⟩ := extracted
  rcases (castContract_queryParams queryParams).outcome with
    ⟨parameters, hCast, -⟩ | ⟨raised, hCast, hError⟩
  · exact .inr ⟨validated, hValidate, definitions, hLoad, hContract, queryParams, pagination,
      hExtract, parameters, hCast⟩
  · refine .inl ⟨raised, hError, fun B clients mapper => ?_⟩
    rw [hRun]
    exact runStored_of_cast_error hExtract hCast

/-- An acceptable request is admitted. -/
theorem admitted_of_acceptable (hExecutable : Executable U S route.config)
    {definitions : Dict String (DynamicParameterDefinition P)}
    (hLoad : deserializeDefinitions route.config.parameterDefinitions = .ok definitions)
    (hAcceptable : Acceptable U route.config.responseType definitions rawParams) :
    ∃ A : Admitted U S route rawParams, A.definitions = definitions := by
  obtain ⟨definitions', validated, hLoad', hValidate, hContract, -⟩ := hExecutable
  cases hLoad'.symm.trans hLoad
  obtain ⟨pagination, hExtract⟩ := exists_extractPagination hAcceptable.page
  have hCasts : CastContract definitions
      (.queryParams (routeParams route.config.responseType rawParams)) :=
    castContract_queryParams _
  rcases hCasts.outcome with ⟨parameters, hCast, -⟩ | hError
  · exact ⟨⟨validated, hValidate, definitions, hLoad, hContract, _, pagination, hExtract,
      parameters, hCast⟩, rfl⟩
  · exact absurd (hCasts.refused_iff.mp hError) hAcceptable.parameters

/-- The integers of a request for a stored route are bounded exactly when no acceptable
query string has one that does not fit. -/
theorem integersBounded_iff (hS : RendersBack U S) {uow : UnitOfWork P.Float}
    (hReach : (routeStore U S J).Reachable uow) (hRoute : route ∈ uow.committed)
    (rawParams : List (String × String)) :
    IntegersBounded U S route rawParams ↔
      ∀ definitions : Dict String (DynamicParameterDefinition P),
        deserializeDefinitions route.config.parameterDefinitions = .ok definitions →
        Acceptable U route.config.responseType definitions rawParams →
        ¬ OutOfRange U route.config.responseType definitions rawParams := by
  obtain ⟨-, hStore⟩ := published_of_reachable hS hReach
  have hExecutable := (hStore.routes route hRoute).executable
  have hReserved : ∀ A : Admitted U S route rawParams,
      ReservedFree route.config.responseType A.definitions.keys := by
    intro A
    obtain ⟨definitions, validated, hLoad, -, -, hReserved⟩ := hExecutable
    cases hLoad.symm.trans A.load_eq
    exact hReserved
  constructor
  · intro hBounded definitions hLoad hAcceptable
    obtain ⟨A, rfl⟩ := admitted_of_acceptable hExecutable hLoad hAcceptable
    exact (A.fits_iff (hReserved A)).mp (hBounded.bound A)
  · intro hInputs
    refine ⟨fun A => ?_, fun definitions hLoad hOut => ?_⟩
    · exact (A.fits_iff (hReserved A)).mpr (hInputs _ A.load_eq A.acceptable)
    · rcases refusedBefore_or_admitted hExecutable rawParams with hRefused | ⟨⟨A⟩⟩
      · exact hRefused
      · cases A.load_eq.symm.trans hLoad
        exact absurd hOut (hInputs _ A.load_eq A.acceptable)

end Stored

/-! ### A paginated route with one integer -/

/-- `sqlglot` on the statement `SELECT :x`. -/
def placeholderOnly : Sqlglot where
  parse _ sql := if sql = "SELECT :x" then .ok [some selectX] else .error (.parseError [])
  sql dialect _ :=
    match dialect with
    | .trino => "SELECT :x"
    | .postgres => "SELECT %(x)s"

theorem parse_placeholderOnly {sql : String} {tree : Expression} {dialect : Dialect}
    (h : placeholderOnly.parse dialect sql = .ok [some tree]) :
    sql = "SELECT :x" ∧ tree = selectX := by
  simp only [placeholderOnly] at h
  split at h
  · rename_i hSql
    cases h
    exact ⟨hSql, rfl⟩
  · cases h

theorem canonicalSql_placeholderOnly (dialect : Dialect) :
    canonicalSql placeholderOnly dialect selectX = "SELECT :x" := by
  cases dialect <;> decide

theorem placeholderOnly_rendersBack : RendersBack .ascii placeholderOnly := by
  refine ⟨fun sql dialect tree h _ => ?_, fun sql dialect tree h _ hSafe => ?_,
    fun sql dialect tree hSql h => ?_⟩
  · obtain ⟨-, rfl⟩ := parse_placeholderOnly h
    rw [canonicalSql_placeholderOnly]
    exact ⟨selectX, rfl, rfl, fun _ => Iff.rfl, fun _ => Iff.rfl⟩
  · obtain ⟨rfl, rfl⟩ := parse_placeholderOnly h
    rwa [canonicalSql_placeholderOnly]
  · obtain ⟨rfl, -⟩ := parse_placeholderOnly h
    exact absurd hSql (by decide)

/-- The definition of the required integer `x`. -/
def itemDefinitions : Dict String (DynamicParameterDefinition .plain) :=
  ⟨[("x", ⟨.integer, true, .none, "", trivial⟩)], by decide⟩

/-- The paginated PostgreSQL route `alice/item`. -/
def itemFields : WriteFields Scalars.plain :=
  { routePrefix := "alice", path := "item", sql := "SELECT :x", params := itemDefinitions
    dbType := .postgres, responseType := .paginated }

theorem itemFields_ok : FieldsOk itemFields := by
  decide

theorem itemFields_lower : IsLower itemFields.routePrefix := by
  simp [itemFields, IsLower]

/-- The request that creates it. -/
def itemPayload : DynamicRouteWriteRequest .plain :=
  ⟨itemFields, itemFields_ok, itemFields_lower⟩

/-- The row that is stored. -/
def itemRoute : StoredRoute Scalars.plain.Float :=
  { config := .ofPayload .plain itemPayload "SELECT :x", updatedBy := 1
    id := 7, createdBy := 1 }

/-- The table after it. -/
def itemCreated : UnitOfWork Scalars.plain.Float := ⟨[itemRoute], [itemRoute]⟩

theorem itemRoute_created :
    runCall .ascii placeholderOnly .plain
      (.create itemPayload 1 ⟨7, emptyClients, none, none, none⟩) ⟨[], []⟩ =
      (.ok itemRoute, itemCreated) := by
  rfl

theorem itemCreated_reachable :
    (routeStore .ascii placeholderOnly .plain).Reachable itemCreated := by
  have hStep : (runCall .ascii placeholderOnly .plain
      (.create itemPayload 1 ⟨7, emptyClients, none, none, none⟩) ⟨[], []⟩).2 = itemCreated :=
    congrArg Prod.snd itemRoute_created
  exact .step (.start rfl) trivial (congrArg some hStep)

theorem storedEntries_item :
    storedEntries itemRoute.config.parameterDefinitions =
      [("x", modelDump .plain ⟨.integer, true, .none, "", trivial⟩)] := by
  have hKeys : itemRoute.config.parameterDefinitions.keys = {"x"} :=
    keys_serializeDefinitions JsonFormat.plain itemDefinitions
  rw [storedEntries, hKeys, Finset.sort_singleton]
  rfl

theorem load_item :
    deserializeDefinitions itemRoute.config.parameterDefinitions = .ok itemDefinitions := by
  rw [deserializeDefinitions_eq_ok_iff, storedEntries_item]
  rfl

theorem contract_item : MeetsContract {"x"} itemDefinitions :=
  ⟨by decide, rfl⟩

/-- The request `?x=2147483648`. -/
def largeItem : Admitted .ascii placeholderOnly itemRoute [("x", "2147483648")] where
  validated := ⟨"SELECT :x", {"x"}⟩
  validate_eq := by decide
  definitions := itemDefinitions
  load_eq := load_item
  contract := contract_item
  queryParams := [("x", "2147483648")]
  pagination := some (1, 100)
  extract_eq := rfl
  parameters := ⟨[("x", .int 2147483648)], by decide⟩
  cast_eq := rfl

/-- The request `?x=1&page=9223372036854775809&page_size=1`. -/
def farPage : Admitted .ascii placeholderOnly itemRoute
    [("x", "1"), ("page", "9223372036854775809"), ("page_size", "1")] where
  validated := ⟨"SELECT :x", {"x"}⟩
  validate_eq := by decide
  definitions := itemDefinitions
  load_eq := load_item
  contract := contract_item
  queryParams := [("x", "1")]
  pagination := some (9223372036854775809, 1)
  extract_eq := rfl
  parameters := ⟨[("x", .int 1)], by decide⟩
  cast_eq := rfl

/-- The request `?x=1` has no integer out of range. -/
theorem not_outOfRange_one :
    ¬ OutOfRange .ascii itemRoute.config.responseType itemDefinitions [("x", "1")] := by
  intro hOut
  cases hOut with
  | parameter hGet hType hRead hLarge =>
      have hName := (itemDefinitions.mem_keys_iff _).mpr ⟨_, hGet⟩
      cases List.mem_singleton.mp hName
      have hOne : RawValues.supplied (P := .plain) (.queryParams [("x", "1")]) "x" =
          some [.str "1"] := rfl
      cases hRead with
      | supplied hSupplied hDenotes =>
          cases hOne.symm.trans hSupplied
          cases hDenotes with
          | integerText hText =>
              cases (show integerOfStr "1" = some 1 from rfl).symm.trans hText
              exact hLarge (by decide)
      | default hOmitted => cases hOne.symm.trans hOmitted
  | page _ hPage hSize hLarge =>
      cases hPage.unique (.omitted rfl)
      cases hSize.unique (.omitted rfl)
      exact hLarge (by decide)

theorem integersBounded_one :
    IntegersBounded .ascii placeholderOnly itemRoute [("x", "1")] := by
  refine (integersBounded_iff placeholderOnly_rendersBack itemCreated_reachable
    (List.mem_singleton_self _) [("x", "1")]).mpr fun definitions hLoad _ => ?_
  cases load_item.symm.trans hLoad
  exact not_outOfRange_one

/-- An integer and an offset that do not fit are bound. -/
theorem outOfRange_bound :
    (routeStore .ascii placeholderOnly .plain).Reachable itemCreated ∧
      itemRoute ∈ itemCreated.committed ∧ itemRoute.config.dbType = .postgres ∧
      ¬ IntegersBounded .ascii placeholderOnly itemRoute [("x", "2147483648")] ∧
      ¬ IntegersBounded .ascii placeholderOnly itemRoute
        [("x", "1"), ("page", "9223372036854775809"), ("page_size", "1")] := by
  refine ⟨itemCreated_reachable, List.mem_singleton_self _, rfl, fun hBounded => ?_,
    fun hBounded => ?_⟩
  · have hFits := (hBounded.bound largeItem).integers _ largeItem.parameters_mem_bindings
      "x" ⟨.integer, true, .none, "", trivial⟩ rfl rfl 2147483648 rfl
    exact absurd hFits (by decide)
  · have hFits := (hBounded.bound farPage).page 9223372036854775809 1 rfl
    exact absurd hFits.2 (by decide)

end QueryEngine
end DataApi
