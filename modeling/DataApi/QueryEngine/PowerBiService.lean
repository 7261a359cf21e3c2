import DataApi.QueryEngine.PowerBiQuery

/-!
# The deeplink service

`deeplink_1` and `deeplink_2` look the tokens of the requested customer ids up
in the map from value to token and let Trino select them; the result is then
mapped from token to value.  The two maps are overwritten independently, and
the lookup knows nothing of suffixed tokens, so selecting before the mapping is
not always selecting after it.
-/

namespace DataApi
namespace QueryEngine

open Library PiiCache

/-- `_get_tokens_by_original_values`. -/
def getTokensByOriginalValues (casefold : String → String)
    (cache : AccountMapInMemory) (originalValues : List String) : List String :=
  if originalValues = [] then []
  else
    let lowerValues := originalValues.map casefold
    let tokens := (cache.valueToToken.entries.filter fun entry =>
      casefold entry.1 ∈ lowerValues).map Prod.snd
    -- a dummy token, so that the query returns nothing instead of everything
    if tokens = [] then ["__NO_MATCH__"] else tokens

/-- `DataRowsResponse`. -/
structure DataRowsResponse (P : Scalars) where
  rows : List (Row P)
  missingMappings : List (MissingPiiMapping P)

/-- The two deeplink operations. -/
inductive Deeplink where
  | deeplink1
  | deeplink2

/-- The name for the audit record. -/
def Deeplink.routeName : Deeplink → String
  | .deeplink1 => "power_bi.deeplink_1"
  | .deeplink2 => "power_bi.deeplink_2"

/-- The key of the events. -/
def Deeplink.eventKey : Deeplink → String
  | .deeplink1 => "topup_result"
  | .deeplink2 => "topup_bank_app"

/-- The status of the events, if one is asked for. -/
def Deeplink.status : Deeplink → Option String
  | .deeplink1 => some "processing"
  | .deeplink2 => none

section Service

variable {P : Scalars} (E : Trino) (B : Builtins P) (cache : AccountMapInMemory)

/-- The statement of an operation. -/
def Deeplink.query (P : Scalars) (deeplink : Deeplink) (arguments : DeeplinkArguments)
    (accountTokens : List String) : DeeplinkQuery :=
  buildPowerBiDeeplinkQuery P.casefold deeplink.eventKey deeplink.status arguments
    accountTokens

/-- An operation on the given tables. -/
def Deeplink.run (deeplink : Deeplink) (arguments : DeeplinkArguments)
    (events : List EventRow) (customers : List CustomerRow) :
    Except Raised (DataRowsResponse P) := do
  let accountTokens := getTokensByOriginalValues P.casefold cache arguments.customerIds
  let rows := E.execute (deeplink.query P arguments accountTokens) events customers
  let mapped ← mapPiiFields cache rows
    { routeName := deeplink.routeName, columnPiiRules := singleRule B "accountid" }
  return ⟨mapped.1, mapped.2⟩

/-- `PowerBiDataService.deeplink_1`. -/
def deeplink1 := Deeplink.run E B cache .deeplink1

/-- `PowerBiDataService.deeplink_2`. -/
def deeplink2 := Deeplink.run E B cache .deeplink2

/-- A value that casefolds to a requested id. -/
def Requested (casefold : String → String) (ids : List String) (value : String) :
    Prop :=
  casefold value ∈ ids.map casefold

instance (casefold : String → String) (ids : List String) (value : String) :
    Decidable (Requested casefold ids value) :=
  inferInstanceAs (Decidable (_ ∈ _))

/-- A row whose `accountid` is a requested value. -/
def requestedRow (ids : List String) (row : Row P) : Bool :=
  match row.get? "accountid" with
  | some (.str value) => decide (Requested P.casefold ids value)
  | _ => false

/-- A row without its number. -/
def withoutStt (row : Row P) : Row P := row.erase "stt"

/-- Asking for customers gives the rows that are left of all rows when those of
other customers are taken out after the mapping. -/
def PushdownEquivalent (deeplink : Deeplink) (arguments : DeeplinkArguments)
    (events : List EventRow) (customers : List CustomerRow) : Prop :=
  ∃ pushed all : DataRowsResponse P,
    deeplink.run E B cache arguments events customers = .ok pushed ∧
      deeplink.run E B cache { arguments with customerIds := [] } events customers =
        .ok all ∧
      (pushed.rows.map withoutStt).Perm
        ((all.rows.filter (requestedRow arguments.customerIds)).map withoutStt)

/-- A requested value is cached with this token. -/
def LookedUp (casefold : String → String) (cache : AccountMapInMemory)
    (ids : List String) (token : String) : Prop :=
  ∃ value, cache.valueToToken.get? value = some token ∧ Requested casefold ids value

/-- The ways in which the two maps disagree about an account. -/
inductive Drift (casefold : String → String) (cache : AccountMapInMemory)
    (ids : List String) (account : String) : Prop where
  /-- The suffixed value of a suffixed token is requested. -/
  | suffixed {mapped : String} (hLength : account.length = 33)
      (hMapped : cache.tokenToValue.get? (String.ofList (account.toList.take 32)) =
        some mapped)
      (hRequested : Requested casefold ids
        (mapped ++ String.ofList (account.toList.drop 32)))
      (hLookup : ¬LookedUp casefold cache ids account)
  /-- The value of the token is requested, but cached with another token. -/
  | reissued {mapped : String} (hLength : account.length = 32)
      (hMapped : cache.tokenToValue.get? account = some mapped)
      (hRequested : Requested casefold ids mapped)
      (hLookup : ¬LookedUp casefold cache ids account)
  /-- A requested value has the token, which has another value. -/
  | remapped (hLookup : LookedUp casefold cache ids account)
      (hLength : account.length = 32)
      (hMapped : ∀ mapped, cache.tokenToValue.get? account = some mapped →
        ¬Requested casefold ids mapped)
  /-- A requested value has a token that is read as a suffixed one. -/
  | misread (hLookup : LookedUp casefold cache ids account)
      (hLength : account.length = 33)
      (hMapped : ∀ mapped,
        cache.tokenToValue.get? (String.ofList (account.toList.take 32)) =
          some mapped →
        ¬Requested casefold ids (mapped ++ String.ofList (account.toList.drop 32)))
  /-- A requested value has a token of a length that is never mapped. -/
  | unmapped (hLookup : LookedUp casefold cache ids account)
      (hLength : account.length ≠ 32 ∧ account.length ≠ 33)
  /-- No requested value is cached, and the account is the dummy token. -/
  | dummy (hNone : ∀ token, ¬LookedUp casefold cache ids token)
      (hAccount : account = "__NO_MATCH__")

end Service

section Lookup

variable {casefold : String → String} {cache : AccountMapInMemory} {ids : List String}

/-- What the lookup returns. -/
theorem mem_getTokensByOriginalValues (hIds : ids ≠ []) {account : String} :
    account ∈ getTokensByOriginalValues casefold cache ids ↔
      LookedUp casefold cache ids account ∨
        (∀ token, ¬LookedUp casefold cache ids token) ∧ account = "__NO_MATCH__" := by
  have hMem : ∀ token, token ∈ (cache.valueToToken.entries.filter fun entry =>
      casefold entry.1 ∈ ids.map casefold).map Prod.snd ↔
        LookedUp casefold cache ids token := by
    intro token
    rw [List.mem_map]
    constructor
    · rintro ⟨⟨value, token'⟩, hEntry, rfl⟩
      obtain ⟨hEntry, hRequested⟩ := List.mem_filter.mp hEntry
      exact ⟨value, (cache.valueToToken.mem_entries_iff value token').mp hEntry,
        of_decide_eq_true hRequested⟩
    · rintro ⟨value, hValue, hRequested⟩
      exact ⟨(value, token), List.mem_filter.mpr
        ⟨(cache.valueToToken.mem_entries_iff value token).mpr hValue,
          decide_eq_true hRequested⟩, rfl⟩
  rw [getTokensByOriginalValues, if_neg hIds]
  dsimp only
  split
  · rename_i hNil
    have hNone : ∀ token, ¬LookedUp casefold cache ids token := by
      intro token hLookup
      rw [← hMem, hNil] at hLookup
      cases hLookup
    rw [List.mem_singleton]
    constructor
    · exact fun hAccount => .inr ⟨hNone, hAccount⟩
    · rintro (hLookup | ⟨-, hAccount⟩)
      · exact absurd hLookup (hNone account)
      · exact hAccount
  · rename_i hNe
    rw [hMem]
    constructor
    · exact .inl
    · rintro (hLookup | ⟨hNone, -⟩)
      · exact hLookup
      · obtain ⟨token, hToken⟩ := List.exists_mem_of_ne_nil _ hNe
        exact absurd ((hMem token).mp hToken) (hNone token)

/-- The mapped value of an account is requested. -/
def MapsToRequested (casefold : String → String) (cache : AccountMapInMemory)
    (ids : List String) (account : String) : Prop :=
  ∃ mapped, mapToken cache.tokenToValue account = some mapped ∧
    Requested casefold ids mapped

theorem mapsToRequested_of_length_eq {account : String} (h : account.length = 32) :
    MapsToRequested casefold cache ids account ↔
      ∃ mapped, cache.tokenToValue.get? account = some mapped ∧
        Requested casefold ids mapped := by
  rw [MapsToRequested, mapToken, if_pos h]

theorem mapsToRequested_of_suffixed {account : String} (h : account.length = 33) :
    MapsToRequested casefold cache ids account ↔
      ∃ mapped, cache.tokenToValue.get? (String.ofList (account.toList.take 32)) =
          some mapped ∧
        Requested casefold ids (mapped ++ String.ofList (account.toList.drop 32)) := by
  rw [MapsToRequested, mapToken, if_neg (by omega), if_pos h]
  simp only [Option.map_eq_some_iff]
  constructor
  · rintro ⟨_, ⟨mapped, hMapped, rfl⟩, hRequested⟩
    exact ⟨mapped, hMapped, hRequested⟩
  · rintro ⟨mapped, hMapped, hRequested⟩
    exact ⟨_, ⟨mapped, hMapped, rfl⟩, hRequested⟩

theorem not_mapsToRequested {account : String}
    (h : account.length ≠ 32 ∧ account.length ≠ 33) :
    ¬MapsToRequested casefold cache ids account := by
  rintro ⟨mapped, hMapped, -⟩
  rw [mapToken, if_neg h.1, if_neg h.2] at hMapped
  cases hMapped

/-- The lookup and the mapping agree about an account unless the maps drift. -/
theorem mem_tokens_iff_mapsToRequested (hIds : ids ≠ []) (account : String) :
    (account ∈ getTokensByOriginalValues casefold cache ids ↔
        MapsToRequested casefold cache ids account) ↔
      ¬Drift casefold cache ids account := by
  rw [mem_getTokensByOriginalValues hIds]
  constructor
  · intro hIff hDrift
    cases hDrift with
    | suffixed hLength hMapped hRequested hLookup =>
        rcases hIff.mpr ((mapsToRequested_of_suffixed hLength).mpr
          ⟨_, hMapped, hRequested⟩) with h | ⟨-, rfl⟩
        · exact hLookup h
        · exact absurd hLength (by decide)
    | reissued hLength hMapped hRequested hLookup =>
        rcases hIff.mpr ((mapsToRequested_of_length_eq hLength).mpr
          ⟨_, hMapped, hRequested⟩) with h | ⟨-, rfl⟩
        · exact hLookup h
        · exact absurd hLength (by decide)
    | remapped hLookup hLength hMapped =>
        obtain ⟨mapped, hGet, hRequested⟩ :=
          (mapsToRequested_of_length_eq hLength).mp (hIff.mp (.inl hLookup))
        exact hMapped mapped hGet hRequested
    | misread hLookup hLength hMapped =>
        obtain ⟨mapped, hGet, hRequested⟩ :=
          (mapsToRequested_of_suffixed hLength).mp (hIff.mp (.inl hLookup))
        exact hMapped mapped hGet hRequested
    | unmapped hLookup hLength =>
        exact not_mapsToRequested hLength (hIff.mp (.inl hLookup))
    | dummy hNone hAccount =>
        have hLength : account.length ≠ 32 ∧ account.length ≠ 33 := by
          rw [hAccount]
          decide
        exact not_mapsToRequested hLength (hIff.mp (.inr ⟨hNone, hAccount⟩))
  · intro hDrift
    constructor
    · rintro (hLookup | ⟨hNone, hAccount⟩)
      · by_contra hNot
        apply hDrift
        by_cases h32 : account.length = 32
        · refine .remapped hLookup h32 fun mapped hMapped hRequested => hNot ?_
          exact (mapsToRequested_of_length_eq h32).mpr ⟨mapped, hMapped, hRequested⟩
        · by_cases h33 : account.length = 33
          · refine .misread hLookup h33 fun mapped hMapped hRequested => hNot ?_
            exact (mapsToRequested_of_suffixed h33).mpr ⟨mapped, hMapped, hRequested⟩
          · exact .unmapped hLookup ⟨h32, h33⟩
      · exact absurd (.dummy hNone hAccount) hDrift
    · intro hMaps
      left
      by_contra hLookup
      apply hDrift
      by_cases h32 : account.length = 32
      · obtain ⟨mapped, hMapped, hRequested⟩ := (mapsToRequested_of_length_eq h32).mp hMaps
        exact .reissued h32 hMapped hRequested hLookup
      · by_cases h33 : account.length = 33
        · obtain ⟨mapped, hMapped, hRequested⟩ :=
            (mapsToRequested_of_suffixed h33).mp hMaps
          exact .suffixed h33 hMapped hRequested hLookup
        · exact absurd hMaps (not_mapsToRequested ⟨h32, h33⟩)

end Lookup

section Rows

variable {P : Scalars} (E : Trino) (B : Builtins P) (cache : AccountMapInMemory)

/-- The event with its account mapped. -/
def mapAccount (row : JoinedRow) : JoinedRow :=
  ({ row.1 with accountid := row.1.accountid.bind (mapToken cache.tokenToValue) }, row.2)

/-- The mapper changes the account of a result row, and nothing else. -/
theorem mapRow_resultRow (stt : Nat) (row : JoinedRow) :
    (mapRow cache.tokenToValue (singleRule B "accountid").entries
      (E.resultRow stt row)).1 = E.resultRow stt (mapAccount cache row) := by
  obtain ⟨⟨timestamp, segmentation, accountid, userAgent, key⟩, customer⟩ := row
  cases accountid with
  | none => rfl
  | some account =>
      change (mapColumn cache.tokenToValue "accountid" ⟨transformByTokenLength B⟩
        (E.resultRow stt
          (⟨timestamp, segmentation, some account, userAgent, key⟩, customer))).1 = _
      have hGet : (E.resultRow stt (⟨timestamp, segmentation, some account, userAgent,
          key⟩, customer) : Row P).get? "accountid" = some (.str account) := rfl
      rw [mapColumn, hGet]
      simp only [transformByTokenLength, B.str_str, mapAccount, Option.bind_some]
      cases mapToken cache.tokenToValue account with
      | none => rfl
      | some mapped => rfl

/-- The columns of a row without its number. -/
def Trino.dataRow (row : JoinedRow) : Row P where
  entries := E.resultColumns row
  nodup := by
    change ["event_time", "bank_name", "accountid", "c_cust_full_name", "device"].Nodup
    decide

theorem withoutStt_resultRow (stt : Nat) (row : JoinedRow) :
    withoutStt (E.resultRow stt row : Row P) = E.dataRow row := rfl

theorem requestedRow_withoutStt (ids : List String) (row : Row P) :
    requestedRow ids (withoutStt row) = requestedRow ids row := by
  have hGet : (withoutStt row).get? "accountid" = row.get? "accountid" :=
    row.get?_erase_of_ne (by decide)
  rw [requestedRow, requestedRow, hGet]

/-- A mapped row is kept when its account maps to a requested value. -/
theorem requestedRow_dataRow (ids : List String) (row : JoinedRow) :
    requestedRow ids (E.dataRow (mapAccount cache row) : Row P) = true ↔
      ∃ account, row.1.accountid = some account ∧
        MapsToRequested P.casefold cache ids account := by
  have hGet : (E.dataRow (mapAccount cache row) : Row P).get? "accountid" =
      some (Trino.cell (row.1.accountid.bind (mapToken cache.tokenToValue))) := rfl
  rw [requestedRow, hGet]
  cases hAccount : row.1.accountid with
  | none => simp [Trino.cell]
  | some account =>
      cases hMapped : mapToken cache.tokenToValue account with
      | none => simp [Trino.cell, MapsToRequested, hMapped]
      | some mapped => simp [Trino.cell, MapsToRequested, hMapped]

/-- Without a limit, the rows of an operation are the joined rows, mapped, in some
order. -/
theorem run_rows_perm (deeplink : Deeplink) (arguments : DeeplinkArguments)
    (hLimit : arguments.limit = none) (events : List EventRow)
    (customers : List CustomerRow) :
    ∃ response : DataRowsResponse P,
      deeplink.run E B cache arguments events customers = .ok response ∧
        (response.rows.map withoutStt).Perm
          ((E.joinedRows (deeplink.query P arguments
            (getTokensByOriginalValues P.casefold cache arguments.customerIds))
              events customers).map fun row => E.dataRow (mapAccount cache row)) := by
  refine ⟨_, rfl, ?_⟩
  generalize hQuery : deeplink.query P arguments _ = query
  have hNone : query.limit = none := by
    rw [← hQuery]
    exact hLimit
  have hRows : ∀ numbered : List (Nat × JoinedRow),
      ((((numbered.map fun n => (E.resultRow n.1 n.2 : Row P)).map
        (mapRow cache.tokenToValue (singleRule B "accountid").entries)).map
          Prod.fst).map withoutStt) =
        (numbered.map Prod.snd).map fun row => E.dataRow (mapAccount cache row) := by
    intro numbered
    simp only [List.map_map]
    refine List.map_congr_left fun n _ => ?_
    simp only [Function.comp_apply, mapRow_resultRow, withoutStt_resultRow]
  change (((E.execute query events customers).map _).map Prod.fst |>.map withoutStt).Perm _
  rw [Trino.execute, hNone, hRows]
  exact (E.arrange_perm _).map _

end Rows

section Pushdown

variable {P : Scalars} {E : Trino} {B : Builtins P} {cache : AccountMapInMemory}

/-- Tokens select among the joined rows of the query without them. -/
theorem joinedRows_tokens (deeplink : Deeplink) (arguments : DeeplinkArguments)
    {tokens : List String} (hTokens : tokens ≠ []) (events : List EventRow)
    (customers : List CustomerRow) :
    E.joinedRows (deeplink.query P arguments tokens) events customers =
      (E.joinedRows (deeplink.query P arguments []) events customers).filter fun row =>
        row.1.accountid.any fun account => decide (account ∈ tokens) := by
  have hEmpty : tokens.isEmpty = false := by
    rw [List.isEmpty_eq_false_iff]
    exact hTokens
  rw [Trino.joinedRows, Trino.joinedRows, List.filter_filter]
  refine List.filter_congr fun row _ => ?_
  change (E.selects (deeplink.query P arguments []) row.1 &&
    Trino.inFilters tokens row.1.accountid) = _
  rw [Trino.inFilters, hEmpty, Bool.false_or, Bool.and_comm]
  change _ = (_ && (E.selects (deeplink.query P arguments []) row.1 && true))
  rw [Bool.and_true]

theorem getTokensByOriginalValues_ne_nil {casefold : String → String}
    {ids : List String} (hIds : ids ≠ []) :
    getTokensByOriginalValues casefold cache ids ≠ [] := by
  rw [getTokensByOriginalValues, if_neg hIds]
  dsimp only
  split
  · exact List.cons_ne_nil _ _
  · assumption

/-- Taking rows out before or after their numbers are dropped is the same. -/
theorem map_withoutStt_filter (ids : List String) (rows : List (Row P)) :
    (rows.filter (requestedRow ids)).map withoutStt =
      (rows.map withoutStt).filter (requestedRow ids) := by
  rw [List.filter_map]
  congr 1
  exact List.filter_congr fun row _ => (requestedRow_withoutStt ids row).symm

/-- The equivalence is about the joined rows. -/
theorem pushdownEquivalent_iff_perm (deeplink : Deeplink) {arguments : DeeplinkArguments}
    (hLimit : arguments.limit = none) (events : List EventRow)
    (customers : List CustomerRow) :
    PushdownEquivalent E B cache deeplink arguments events customers ↔
      ((E.joinedRows (deeplink.query P arguments
          (getTokensByOriginalValues P.casefold cache arguments.customerIds))
            events customers).map fun row =>
              (E.dataRow (mapAccount cache row) : Row P)).Perm
        (((E.joinedRows (deeplink.query P arguments []) events customers).map fun row =>
          (E.dataRow (mapAccount cache row) : Row P)).filter
            (requestedRow arguments.customerIds)) := by
  obtain ⟨pushed, hPushed, hPushedPerm⟩ := run_rows_perm (P := P) E B cache deeplink
    arguments hLimit events customers
  obtain ⟨all, hAll, hAllPerm⟩ := run_rows_perm (P := P) E B cache deeplink
    { arguments with customerIds := [] } hLimit events customers
  have hFiltered := hAllPerm.filter (requestedRow arguments.customerIds)
  rw [← map_withoutStt_filter] at hFiltered
  constructor
  · rintro ⟨pushed', all', hPushed', hAll', hPerm⟩
    cases hPushed.symm.trans hPushed'
    cases hAll.symm.trans hAll'
    exact hPushedPerm.symm.trans (hPerm.trans hFiltered)
  · intro hPerm
    exact ⟨pushed, all, hPushed, hAll, hPushedPerm.trans (hPerm.trans hFiltered.symm)⟩

/-- For every pair of tables, cache and list of requested ids, both operations
filter by customer as the mapping would if and only if the maps do not drift
about the account of an event that meets the other conditions. -/
theorem pushdownEquivalent_iff (E : Trino) (B : Builtins P)
    (cache : AccountMapInMemory) (deeplink : Deeplink) (arguments : DeeplinkArguments)
    (events : List EventRow) (customers : List CustomerRow)
    (hLimit : arguments.limit = none) (hIds : arguments.customerIds ≠ []) :
    PushdownEquivalent E B cache deeplink arguments events customers ↔
      ∀ event ∈ events, E.selects (deeplink.query P arguments []) event = true →
        ∀ account, event.accountid = some account →
          ¬Drift P.casefold cache arguments.customerIds account := by
  rw [pushdownEquivalent_iff_perm deeplink hLimit,
    joinedRows_tokens deeplink arguments (getTokensByOriginalValues_ne_nil hIds),
    map_filter_perm_iff]
  have hRow : ∀ row : JoinedRow,
      (row.1.accountid.any fun account => decide (account ∈
          getTokensByOriginalValues P.casefold cache arguments.customerIds)) =
        requestedRow arguments.customerIds
          (E.dataRow (mapAccount cache row) : Row P) ↔
      ∀ account, row.1.accountid = some account →
        ¬Drift P.casefold cache arguments.customerIds account := by
    intro row
    rw [Bool.eq_iff_iff, requestedRow_dataRow]
    cases hAccount : row.1.accountid with
    | none => simp
    | some account =>
        simp only [Option.any_some, decide_eq_true_eq, Option.some.injEq,
          exists_eq_left', forall_eq']
        exact mem_tokens_iff_mapsToRequested hIds account
  constructor
  · intro hAll event hEvent hSelects account hAccount
    obtain ⟨customer, hJoined⟩ := exists_mem_leftJoin Trino.sameAccount customers hEvent
    have hMem : (event, customer) ∈
        E.joinedRows (deeplink.query P arguments []) events customers :=
      List.mem_filter.mpr ⟨hJoined, by
        rw [Bool.and_eq_true]
        exact ⟨hSelects, rfl⟩⟩
    exact (hRow (event, customer)).mp (hAll _ hMem) account hAccount
  · intro hAll row hMem
    obtain ⟨hJoined, hSelects⟩ := List.mem_filter.mp hMem
    rw [Bool.and_eq_true] at hSelects
    exact (hRow row).mpr fun account hAccount =>
      hAll row.1 (mem_of_mem_leftJoin hJoined) hSelects.1 account hAccount

end Pushdown

/-! ### One event -/

/-- Days of 86,400,000 milliseconds and results in the order of the tables; every
time prints as the epoch. -/
def Trino.plain : Trino where
  lower s := String.ofList (s.toList.map Char.toLower)
  eventDate timestamp := timestamp / 86400000
  formatTime _ := "1970-01-01 00:00:00"
  arrange rows := rows.zipIdx.map fun row => (row.2 + 1, row.1)
  arrange_perm rows := by
    have hSnd : (rows.zipIdx.map fun row => (row.2 + 1, row.1)).map Prod.snd = rows := by
      rw [List.map_map]
      exact List.zipIdx_map_fst 0 rows
    rw [hSnd]

/-- A token of 32 characters. -/
def accountToken : String := "0123456789abcdef0123456789abcdef"

/-- A cache that has loaded one record. -/
def oneRecordCache : AccountMapInMemory :=
  AccountMapInMemory.new.addRecords [⟨accountToken, "uuid-1", some 1⟩]

/-- An event at the epoch. -/
def epochEvent (account : String) : EventRow where
  timestamp := some 0
  segmentation := some ⟨[("bank_method", some "deeplink")], by decide⟩
  accountid := some account
  userAgent := none
  key := some "topup_bank_app"

/-- A request for the epoch day and one customer. -/
def epochArguments (customerId : String) : DeeplinkArguments where
  startDate := 0
  endDate := 0
  limit := none
  customerIds := [customerId]

theorem pushdownEquivalent_accountToken :
    PushdownEquivalent .plain .plain oneRecordCache .deeplink2 (epochArguments "uuid-1")
      [epochEvent accountToken] [] := by
  refine (pushdownEquivalent_iff .plain .plain oneRecordCache .deeplink2
    (epochArguments "uuid-1") [epochEvent accountToken] [] rfl (by decide)).mpr ?_
  intro event hEvent _ account hAccount
  rw [List.mem_singleton.mp hEvent] at hAccount
  cases hAccount
  refine (mem_tokens_iff_mapsToRequested (by decide) accountToken).mp ?_
  exact iff_of_true (by decide) ⟨"uuid-1", by decide, by decide⟩

/-- The account `uuid-12`, which an event with a suffixed token is mapped to, is
not found under that id. -/
theorem suffixed_account_lost :
    ¬PushdownEquivalent .plain .plain oneRecordCache .deeplink2
      (epochArguments "uuid-12") [epochEvent (accountToken ++ "2")] [] := by
  rw [pushdownEquivalent_iff_perm .deeplink2 rfl]
  intro hPerm
  exact absurd hPerm.length_eq (by decide)

end QueryEngine
end DataApi
