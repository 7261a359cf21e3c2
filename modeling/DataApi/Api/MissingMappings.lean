import DataApi.Api.AuditWrites
import DataApi.QueryEngine.MappedRows
import DataApi.QueryEngine.PowerBiService

/-!
# Recording missing mappings

A response that reports missing mappings leaves a task behind, which runs when the
response has been sent.  The reported values are those of the driver, and the column
`parameters` is written with `json.dumps`: a value that JSON does not have, such as a
`Decimal`, a `UUID` or a date, loses the whole record.
-/

namespace DataApi
namespace Api

open Library QueryEngine Schemas PiiCache

section Dumps

variable {P : Scalars} (acceptsOther : P.Other → Bool)

mutual

/-- `json.dumps` accepts a value; `acceptsOther` says which values of other classes it
accepts, such as dictionaries with string keys. -/
def dumpsValue : PyValue P → Bool
  | .none => true
  | .bool _ => true
  | .int _ => true
  | .float _ => true
  | .str _ => true
  | .date _ => false
  | .datetime _ => false
  | .list items => dumpsItems items
  | .other value => acceptsOther value

/-- `json.dumps` accepts the items of a list. -/
def dumpsItems : List (PyValue P) → Bool
  | [] => true
  | item :: rest => dumpsValue item && dumpsItems rest

end

/-- `json.dumps` accepts a value in the parameters of a record; the missing mappings are
dumped by `model_dump()`, which keeps their values as they are. -/
def dumpsAudit : AuditValue P → Bool
  | .mappings missing => missing.all fun mapping => dumpsValue acceptsOther mapping.value
  | _ => true

/-- `json.dumps` accepts the parameters of a record. -/
def dumpsParameters (parameters : Dict String (AuditValue P)) : Bool :=
  parameters.entries.all fun entry => dumpsAudit acceptsOther entry.2

/-- `audit_missing_mappings` with its commit. -/
def writeMissingMappings (actor : Actor) (routeName : List Char)
    (requestParameters : Dict String (AuditValue P))
    (missingMappings : List (MissingPiiMapping P)) : Effect (AuditedStore P) Raised Unit :=
  let record := auditMissingMappings actor routeName requestParameters missingMappings
  if dumpsParameters acceptsOther record.parameters then writeAudit record
  else throw (.other "StatementError")

/-- What the task leaves of a store: the record fits and is committed, or nothing is. -/
theorem writeMissingMappings_eq (actor : Actor) (routeName : List Char)
    (requestParameters : Dict String (AuditValue P))
    (missingMappings : List (MissingPiiMapping P)) (store : AuditedStore P) :
    writeMissingMappings acceptsOther actor routeName requestParameters missingMappings store =
      if dumpsParameters acceptsOther
          (auditMissingMappings actor routeName requestParameters missingMappings).parameters then
        writeAudit (auditMissingMappings actor routeName requestParameters missingMappings) store
      else (.error (.other "StatementError"), store) := by
  rw [writeMissingMappings]
  split
  · rfl
  · rfl

end Dumps

/-! ### The routes that map PII -/

/-- A request to one of the routes whose response reports missing mappings: `data/users`,
a deeplink, or a dynamic route. -/
inductive PiiRequest (P : Scalars) where
  | users (limit offset : Nat)
  | deeplink (operation : Deeplink) (arguments : DeeplinkArguments)
  | dynamic (route : StoredRoute P.Float) (request : HttpRequest)

namespace PiiRequest

variable {P : Scalars}

/-- `route_name`. -/
def routeName : PiiRequest P → List Char
  | .users _ _ => "data.users".toList
  | .deeplink operation _ => operation.routeName.toList
  | .dynamic route _ => dynamicRouteName route.config.routePrefix route.config.path

/-- `request.model_dump(mode="json")`. -/
def dumpArguments (isoDate : Int → String) (arguments : DeeplinkArguments) :
    Dict String (AuditValue P) :=
  (((((Dict.empty.set "start_date" (.text (isoDate arguments.startDate).toList)).set
    "end_date" (.text (isoDate arguments.endDate).toList)).set
    "limit" (match arguments.limit with
      | some limit => .int limit
      | none => .null)).set
    "segmentation" (.names arguments.segmentationFilters)).set
    "user_agent" (.names arguments.userAgentFilters)).set
    "customer_id" (.names arguments.customerIds)

/-- `request_parameters`. -/
def parameters (parseQuery : List Char → List (String × String)) (isoDate : Int → String) :
    PiiRequest P → Dict String (AuditValue P)
  | .users limit offset =>
      (Dict.empty.set "limit" (.int limit)).set "offset" (.int offset)
  | .deeplink _ arguments => dumpArguments isoDate arguments
  | .dynamic _ request => namesOnly parseQuery request

/-- The column with a rule. -/
def column : PiiRequest P → Option String
  | .users _ _ => some "customer_id"
  | .deeplink _ _ => some "accountid"
  | .dynamic route _ => route.config.piiType.map piiColumn

/-- The mapped rows of a result set, and the missing mappings. -/
def mapResult (B : Builtins P) (cache : AccountMapInMemory) (rows : List (Row P)) :
    PiiRequest P → Except Raised (List (Row P) × List (MissingPiiMapping P))
  | .users _ _ => mapPiiFields cache rows
      { routeName := "data.users", columnPiiRules := singleRule B "customer_id" }
  | .deeplink operation _ => mapPiiFields cache rows
      { routeName := operation.routeName, columnPiiRules := singleRule B "accountid" }
  | .dynamic route _ => mapPii B (some cache) route rows

end PiiRequest

section Responses

variable {P : Scalars} {B : Builtins P} {cache : AccountMapInMemory}

/-- A deeplink maps the result set of its query. -/
theorem run_eq_mapResult (E : Trino) (operation : Deeplink) (arguments : DeeplinkArguments)
    (events : List EventRow) (customers : List CustomerRow) :
    operation.run E B cache arguments events customers =
      ((PiiRequest.deeplink operation arguments).mapResult B cache
        (E.execute (operation.query P arguments
          (getTokensByOriginalValues P.casefold cache arguments.customerIds)) events
            customers)).map fun mapped => ⟨mapped.1, mapped.2⟩ := by
  rfl

/-- The missing mappings of a response. -/
def missingMappings : ExecutionResponse P → List (MissingPiiMapping P)
  | .rows _ missing => missing
  | .paginated _ _ _ _ _ missing => missing

/-- A dynamic route maps the result set that its client has returned. -/
theorem exists_mapResult_of_executeStored {U : Unicode} {S : Sqlglot} {clients : Clients P}
    {route : StoredRoute P.Float} {rawParams : List (String × String)}
    {response : ExecutionResponse P} (request : HttpRequest)
    (h : executeStored U S B clients (some cache) route rawParams = .ok response) :
    ∃ rows mapped, (PiiRequest.dynamic route request).mapResult B cache rows =
      .ok (mapped, missingMappings response) := by
  rw [executeStored] at h
  simp only [bind_eq_ok_iff] at h
  obtain ⟨validated, -, definitions, -, -, -, hRun⟩ := h
  rw [runStored] at hRun
  simp only [bind_eq_ok_iff] at hRun
  obtain ⟨⟨queryParams, pagination⟩, -, parameters, -, statement, -, client, -, hTail⟩ := hRun
  cases pagination with
  | none =>
      simp only [bind_eq_ok_iff] at hTail
      obtain ⟨rows, -, mapped, hMapped, hResponse⟩ := hTail
      cases hResponse
      exact ⟨rows, mapped.1, hMapped⟩
  | some page =>
      simp only [bind_eq_ok_iff] at hTail
      obtain ⟨-, -, -, -, total, -, -, -, rows, -, mapped, hMapped, hResponse⟩ := hTail
      cases hResponse
      exact ⟨rows, mapped.1, hMapped⟩

end Responses

/-! ### What is recorded -/

section Recorded

variable {P : Scalars} {B : Builtins P} {cache : AccountMapInMemory}

/-- A value of the column that the cache does not map. -/
def UnmappedValue (B : Builtins P) (cache : AccountMapInMemory) (rows : List (Row P))
    (column : String) (value : PyValue P) : Prop :=
  (∃ row ∈ rows, row.get? column = some value) ∧ value ≠ .none ∧
    transformByTokenLength B value cache.tokenToValue = none

/-- One rule reports a field that is there, is not null and is not mapped. -/
theorem mem_mapColumn {piiCache : Dict String String} {column : String}
    {rule : PiiColumnRule P} {row : Row P} {mapping : MissingPiiMapping P} :
    mapping ∈ (mapColumn piiCache column rule row).2 ↔
      mapping.columnName = column ∧ row.get? column = some mapping.value ∧
        mapping.value ≠ .none ∧ rule.transformer mapping.value piiCache = none := by
  unfold mapColumn
  split
  · rename_i hAbsent
    refine iff_of_false (fun h => by cases h) ?_
    rintro ⟨-, hGet, -⟩
    cases hAbsent.symm.trans hGet
  · rename_i hNull
    refine iff_of_false (fun h => by cases h) ?_
    rintro ⟨-, hGet, hValue, -⟩
    exact hValue (Option.some.inj (hNull.symm.trans hGet)).symm
  · rename_i value hValue hGet
    split
    · rename_i transformed hTransformed
      refine iff_of_false (fun h => by cases h) ?_
      rintro ⟨-, hSame, -, hNone⟩
      cases hGet.symm.trans hSame
      cases hTransformed.symm.trans hNone
    · rename_i hNone
      rw [List.mem_singleton]
      constructor
      · rintro rfl
        exact ⟨rfl, hGet, hValue, hNone⟩
      · rintro ⟨rfl, hSame, -, -⟩
        cases hGet.symm.trans hSame
        rfl

/-- The reported fields are those with a value that is not mapped. -/
theorem mem_missing_iff {name column : String} {rows mapped : List (Row P)}
    {missing : List (MissingPiiMapping P)}
    (h : mapPiiFields cache rows ⟨name, singleRule B column⟩ = .ok (mapped, missing))
    (mapping : MissingPiiMapping P) :
    mapping ∈ missing ↔
      mapping.columnName = column ∧ UnmappedValue B cache rows column mapping.value := by
  have hRow : ∀ row : Row P,
      (mapRow cache.tokenToValue (singleRule B column).entries row).2 =
        (mapColumn cache.tokenToValue column ⟨transformByTokenLength B⟩ row).2 :=
    fun row => List.append_nil _
  have hNonempty : (singleRule B column).entries ≠ [] := List.cons_ne_nil _ _
  rw [mapPiiFields, if_neg hNonempty] at h
  obtain ⟨-, rfl⟩ := Prod.mk.inj (Except.ok.inj h)
  rw [List.map_map, List.mem_flatten]
  simp only [List.mem_map, Function.comp_apply, hRow]
  constructor
  · rintro ⟨_, ⟨row, hRows, rfl⟩, hMapping⟩
    obtain ⟨hColumn, hGet, hValue, hNone⟩ := mem_mapColumn.mp hMapping
    exact ⟨hColumn, ⟨row, hRows, hGet⟩, hValue, hNone⟩
  · rintro ⟨hColumn, ⟨row, hRows, hGet⟩, hValue, hNone⟩
    exact ⟨_, ⟨row, hRows, rfl⟩, mem_mapColumn.mpr ⟨hColumn, hGet, hValue, hNone⟩⟩

/-- What a route reports are the values of its column that are not mapped. -/
theorem mem_mapResult_iff {request : PiiRequest P} {rows mapped : List (Row P)}
    {missing : List (MissingPiiMapping P)}
    (h : request.mapResult B cache rows = .ok (mapped, missing))
    (mapping : MissingPiiMapping P) :
    mapping ∈ missing ↔ request.column = some mapping.columnName ∧
      UnmappedValue B cache rows mapping.columnName mapping.value := by
  have hRule : ∀ {name column : String},
      mapPiiFields cache rows ⟨name, singleRule B column⟩ = .ok (mapped, missing) →
      (mapping ∈ missing ↔ some column = some mapping.columnName ∧
        UnmappedValue B cache rows mapping.columnName mapping.value) := by
    intro name column hMapped
    rw [mem_missing_iff hMapped, Option.some.injEq]
    constructor
    · rintro ⟨rfl, hValue⟩
      exact ⟨rfl, hValue⟩
    · rintro ⟨rfl, hValue⟩
      exact ⟨rfl, hValue⟩
  cases request with
  | users limit offset => exact hRule h
  | deeplink operation arguments => exact hRule h
  | dynamic route request =>
      change mapPii B (some cache) route rows = .ok (mapped, missing) at h
      change _ ↔ route.config.piiType.map piiColumn = some mapping.columnName ∧ _
      unfold mapPii at h
      cases hType : route.config.piiType with
      | none =>
          rw [hType] at h
          cases h
          refine iff_of_false (fun hMapping => by cases hMapping) ?_
          rintro ⟨hColumn, -⟩
          cases hColumn
      | some piiType =>
          rw [hType] at h
          exact hRule h

/-- With a cache, the mapping of a result set does not raise. -/
theorem exists_mapResult (B : Builtins P) (cache : AccountMapInMemory) (request : PiiRequest P)
    (rows : List (Row P)) :
    ∃ mapped missing, request.mapResult B cache rows = .ok (mapped, missing) := by
  cases request with
  | users limit offset => exact ⟨_, _, rfl⟩
  | deeplink operation arguments => exact ⟨_, _, rfl⟩
  | dynamic route request =>
      change ∃ mapped missing, mapPii B (some cache) route rows = .ok (mapped, missing)
      unfold mapPii
      cases route.config.piiType with
      | none => exact ⟨_, _, rfl⟩
      | some piiType => exact ⟨_, _, rfl⟩

/-- The background task of a request: nothing without missing mappings. -/
def runBackground (acceptsOther : P.Other → Bool)
    (parseQuery : List Char → List (String × String)) (isoDate : Int → String)
    (actor : Actor) (request : PiiRequest P) (missing : List (MissingPiiMapping P)) :
    Effect (AuditedStore P) Raised Unit :=
  if missing.isEmpty then return ()
  else writeMissingMappings acceptsOther actor request.routeName
    (request.parameters parseQuery isoDate) missing

/-- If the response for a result set reports missing mappings, the background task commits
one record, which lists them all. -/
def MissingRecorded (acceptsOther : P.Other → Bool)
    (parseQuery : List Char → List (String × String)) (isoDate : Int → String)
    (B : Builtins P) (cache : AccountMapInMemory) (actor : Actor) (request : PiiRequest P)
    (rows : List (Row P)) (store : AuditedStore P) : Prop :=
  ∀ mapped missing, request.mapResult B cache rows = .ok (mapped, missing) → missing ≠ [] →
    ∃ record, (runBackground acceptsOther parseQuery isoDate actor request missing
        store).2.auditLogs = store.auditLogs ++ [record] ∧
      record.parameters.get? "missing_mappings" = some (.mappings missing)

/-- `json.dumps` accepts every value of a dictionary. -/
def DumpsAll (acceptsOther : P.Other → Bool) (parameters : Dict String (AuditValue P)) : Prop :=
  ∀ key value, parameters.get? key = some value → dumpsAudit acceptsOther value = true

theorem dumpsParameters_iff {acceptsOther : P.Other → Bool}
    {parameters : Dict String (AuditValue P)} :
    dumpsParameters acceptsOther parameters = true ↔ DumpsAll acceptsOther parameters := by
  rw [dumpsParameters, List.all_eq_true]
  constructor
  · intro h key value hGet
    exact h (key, value) ((parameters.mem_entries_iff key value).mpr hGet)
  · rintro h ⟨key, value⟩ hEntry
    exact h key value ((parameters.mem_entries_iff key value).mp hEntry)

theorem DumpsAll.empty (acceptsOther : P.Other → Bool) :
    DumpsAll acceptsOther (Dict.empty : Dict String (AuditValue P)) := by
  intro key value h
  cases h

theorem DumpsAll.set {acceptsOther : P.Other → Bool} {parameters : Dict String (AuditValue P)}
    (h : DumpsAll acceptsOther parameters) (key : String) {value : AuditValue P}
    (hValue : dumpsAudit acceptsOther value = true) :
    DumpsAll acceptsOther (parameters.set key value) := by
  intro key' value' hGet
  rw [Dict.get?_set] at hGet
  split at hGet
  · cases hGet
    exact hValue
  · exact h key' value' hGet

/-- What the endpoints pass along can be written. -/
theorem dumpsAll_parameters (acceptsOther : P.Other → Bool)
    (parseQuery : List Char → List (String × String)) (isoDate : Int → String)
    (request : PiiRequest P) :
    DumpsAll acceptsOther (request.parameters parseQuery isoDate) := by
  have hEmpty := DumpsAll.empty acceptsOther
  cases request with
  | users limit offset => exact (hEmpty.set _ rfl).set _ rfl
  | deeplink operation arguments =>
      refine (((((hEmpty.set _ rfl).set _ rfl).set _ ?_).set _ rfl).set _ rfl).set _ rfl
      cases arguments.limit with
      | none => rfl
      | some limit => rfl
  | dynamic route request => exact hEmpty.set _ rfl

/-- The record can be written when its missing mappings can. -/
theorem dumpsParameters_record {acceptsOther : P.Other → Bool}
    {parameters : Dict String (AuditValue P)} (h : DumpsAll acceptsOther parameters)
    (actor : Actor) (routeName : List Char) (missing : List (MissingPiiMapping P)) :
    dumpsParameters acceptsOther
        (auditMissingMappings actor routeName parameters missing).parameters = true ↔
      ∀ mapping ∈ missing, dumpsValue acceptsOther mapping.value = true := by
  have hValue : dumpsAudit acceptsOther (.mappings missing) = true ↔
      ∀ mapping ∈ missing, dumpsValue acceptsOther mapping.value = true := List.all_eq_true
  rw [dumpsParameters_iff, ← hValue]
  constructor
  · intro hAll
    exact hAll "missing_mappings" _ (Dict.get?_set_self _ _ _)
  · intro hMissing
    exact h.set _ hMissing

/-- The task commits its record exactly when the reported values can be written and the
name of the route fits its column. -/
theorem runBackground_iff (acceptsOther : P.Other → Bool)
    (parseQuery : List Char → List (String × String)) (isoDate : Int → String)
    (actor : Actor) (request : PiiRequest P) {missing : List (MissingPiiMapping P)}
    (hMissing : missing ≠ []) (store : AuditedStore P) :
    (∃ record, (runBackground acceptsOther parseQuery isoDate actor request missing
        store).2.auditLogs = store.auditLogs ++ [record] ∧
      record.parameters.get? "missing_mappings" = some (.mappings missing)) ↔
      (∀ mapping ∈ missing, dumpsValue acceptsOther mapping.value = true) ∧
        request.routeName.length ≤ 500 := by
  have hNonempty : ¬ missing.isEmpty = true := fun h => hMissing (List.isEmpty_iff.mp h)
  have hDumps := dumpsParameters_record (dumpsAll_parameters acceptsOther parseQuery isoDate
    request) actor request.routeName missing
  rw [runBackground, if_neg hNonempty, writeMissingMappings_eq, ← hDumps]
  generalize hRecord : auditMissingMappings actor request.routeName
    (request.parameters parseQuery isoDate) missing = record
  have hFits : record.Fits ↔ request.routeName.length ≤ 500 := by
    rw [← hRecord]
    exact ⟨fun h => h.apiRoute, fun h => ⟨actor.user.length_le, h⟩⟩
  by_cases hJson : dumpsParameters acceptsOther record.parameters = true
  · rw [if_pos hJson, writeAudit_eq, ← hFits]
    by_cases hShort : record.Fits
    · rw [if_pos hShort]
      refine iff_of_true ⟨record, rfl, ?_⟩ ⟨hJson, hShort⟩
      rw [← hRecord]
      exact Dict.get?_set_self _ _ _
    · rw [if_neg hShort]
      refine iff_of_false ?_ fun h => hShort h.2
      rintro ⟨other, hSame, -⟩
      exact ne_append_record _ other hSame
  · rw [if_neg hJson]
    refine iff_of_false ?_ fun h => hJson h.1
    rintro ⟨other, hSame, -⟩
    exact ne_append_record _ other hSame

/-- Every missing mapping is recorded exactly when all values that are not mapped can be
written with `json.dumps`, and the name of the route fits its column. -/
theorem missingRecorded_iff (acceptsOther : P.Other → Bool)
    (parseQuery : List Char → List (String × String)) (isoDate : Int → String)
    (B : Builtins P) (cache : AccountMapInMemory) (actor : Actor) (request : PiiRequest P)
    (rows : List (Row P)) (store : AuditedStore P) :
    MissingRecorded acceptsOther parseQuery isoDate B cache actor request rows store ↔
      ∀ column, request.column = some column →
        ∀ value, UnmappedValue B cache rows column value →
          dumpsValue acceptsOther value = true ∧ request.routeName.length ≤ 500 := by
  constructor
  · intro hRecorded column hColumn value hValue
    obtain ⟨mapped, missing, hMapped⟩ := exists_mapResult B cache request rows
    have hMem : (⟨column, value⟩ : MissingPiiMapping P) ∈ missing :=
      (mem_mapResult_iff hMapped _).mpr ⟨hColumn, hValue⟩
    have hMissing : missing ≠ [] := List.ne_nil_of_mem hMem
    obtain ⟨hDumps, hFits⟩ := (runBackground_iff acceptsOther parseQuery isoDate actor request
      hMissing store).mp (hRecorded mapped missing hMapped hMissing)
    exact ⟨hDumps _ hMem, hFits⟩
  · intro hValues mapped missing hMapped hMissing
    have hEach : ∀ mapping ∈ missing, dumpsValue acceptsOther mapping.value = true ∧
        request.routeName.length ≤ 500 := by
      intro mapping hMapping
      obtain ⟨hColumn, hValue⟩ := (mem_mapResult_iff hMapped mapping).mp hMapping
      exact hValues mapping.columnName hColumn mapping.value hValue
    obtain ⟨first, hFirst⟩ := List.exists_mem_of_ne_nil missing hMissing
    exact (runBackground_iff acceptsOther parseQuery isoDate actor request hMissing store).mpr
      ⟨fun mapping hMapping => (hEach mapping hMapping).1, (hEach first hFirst).2⟩

end Recorded

/-! ### A decimal customer id -/

/-- A result set of `data/users` whose customer id is a `Decimal`. -/
def decimalRows : List (Row .plain) :=
  [Dict.empty.set "customer_id" (.other "12.50")]

theorem unmapped_decimal :
    UnmappedValue Builtins.plain AccountMapInMemory.new decimalRows "customer_id"
      (.other "12.50") :=
  ⟨⟨_, List.mem_singleton_self _, rfl⟩, fun h => (by cases h), rfl⟩

/-- The response reports the value, and no record of it is committed. -/
theorem decimal_not_recorded :
    ¬ MissingRecorded (fun _ => false) (fun _ => []) (fun _ => "") Builtins.plain
      AccountMapInMemory.new admin (.users 100 0) decimalRows ⟨⟨[], []⟩, []⟩ := by
  intro hRecorded
  obtain ⟨mapped, missing, hMapped⟩ :=
    exists_mapResult Builtins.plain AccountMapInMemory.new (.users 100 0) decimalRows
  have hMem : (⟨"customer_id", .other "12.50"⟩ : MissingPiiMapping .plain) ∈ missing :=
    (mem_mapResult_iff hMapped _).mpr ⟨rfl, unmapped_decimal⟩
  have hMissing : missing ≠ [] := List.ne_nil_of_mem hMem
  obtain ⟨hDumps, -⟩ := (runBackground_iff _ _ _ _ _ hMissing _).mp
    (hRecorded mapped missing hMapped hMissing)
  exact absurd (hDumps _ hMem) Bool.false_ne_true

end Api
end DataApi
