import DataApi.PiiCache.GetMany
import DataApi.PiiCache.Startup
import DataApi.PiiCache.SyncCursor

/-!
# The cache only grows while it serves

The state a request meets: rows are committed by other processes at any time and with any
`created_at`, and the sync loop is between two loads, between two batches of one, or has
just given one up because a query raised.

Whatever the order of these events, no entry of the cache is lost or changed, and every
entry is one of the table (`cacheGrows_of_later`).  What the cache answers for a token is
therefore what a look-up in the table answers, then and later
(`getMany_agrees_of_later`).
-/

namespace DataApi
namespace PiiCache

open Library

/-- An event of the sync loop or of another process, or a query that raises: the loop
logs the exception and the load is over. -/
inductive ServingEvent where
  | sync (e : SyncEvent)
  | raise

/-- One event. -/
def servingStep (c : Collation) (s : SyncState) : ServingEvent → Option SyncState
  | .sync e => syncStep c s e
  | .raise => s.load.map fun _ => { s with load := none }

/-- The application while it serves, from the end of a successful initialization on. -/
def serving (c : Collation) (settings : PiiSettings) :
    TransitionSystem SyncState ServingEvent where
  start s := s.load = none ∧ ∃ fails loaded cached,
    initializeAccountMapInMemory c settings s.table fails .new = .ready loaded cached s.cache
  step := servingStep c

/-- Between two states nothing is lost: the rows of the table stay, and so do the entries
of the cache, which are rows of the table. -/
structure CacheGrows (s s' : SyncState) : Prop where
  rows : ∀ row ∈ s.table.rows, row ∈ s'.table.rows
  entries : s.cache.tokenToValue.SubDict s'.cache.tokenToValue

theorem CacheGrows.refl (s : SyncState) : CacheGrows s s :=
  ⟨fun _ h => h, .refl _⟩

theorem CacheGrows.trans {s₁ s₂ s₃ : SyncState} (h₁₂ : CacheGrows s₁ s₂)
    (h₂₃ : CacheGrows s₂ s₃) : CacheGrows s₁ s₃ :=
  ⟨fun row hRow => h₂₃.rows row (h₁₂.rows row hRow), h₁₂.entries.trans h₂₃.entries⟩

section Steps

variable {c : Collation} {settings : PiiSettings} {s s' : SyncState}

/-- The rows of the next batch are rows of the table, each token once. -/
theorem nextBatch_rows (c : Collation) (s : SyncState) (load : ActiveLoad) :
    (∀ row ∈ nextBatch c s load, row ∈ s.table.rows) ∧
      ((nextBatch c s load).map AccountMapRow.customerId).Nodup := by
  have hSublist : (nextBatch c s load).Sublist (selectedRows c (some load.since) s.table) :=
    (List.take_sublist _ _).trans (List.drop_sublist _ _)
  exact ⟨fun row hRow => (mem_selectedRows.mp (hSublist.subset hRow)).1,
    (selectedRows_nodup c _ s.table).sublist (hSublist.map _)⟩

/-- Rows of the table do not change the entries of a cache that is taken from it. -/
theorem FromTable.subDict_addRecords {cache : AccountMapInMemory} {table : AccountMap}
    (hFrom : FromTable cache table) {rows : List AccountMapRow}
    (hRows : ∀ row ∈ rows, row ∈ table.rows)
    (hNodup : (rows.map AccountMapRow.customerId).Nodup) :
    cache.tokenToValue.SubDict
      (cache.addRecords (rows.map AccountMapRow.record)).tokenToValue := by
  intro token value hGet
  obtain ⟨row, hRow, rfl, rfl⟩ :=
    (table.uuidOf_eq_some_iff token value).mp (hFrom token value hGet)
  exact Cached.addRecords hGet hRow hRows hNodup

theorem fromTable_of_rows {cache : AccountMapInMemory} {table table' : AccountMap}
    (hFrom : FromTable cache table) (hRows : ∀ row ∈ table.rows, row ∈ table'.rows) :
    FromTable cache table' := by
  intro token value hGet
  obtain ⟨row, hRow, hRecord⟩ :=
    (table.uuidOf_eq_some_iff token value).mp (hFrom token value hGet)
  exact (table'.uuidOf_eq_some_iff token value).mpr ⟨row, hRows row hRow, hRecord⟩

/-- What one event does to the table and to the cache. -/
theorem servingStep_cases {e : ServingEvent} (h : servingStep c s e = some s') :
    (∃ row, s.table.insert? row = some s'.table ∧ s'.cache = s.cache) ∨
    (s'.table = s.table ∧ s'.cache = s.cache) ∨
    ∃ load, s'.table = s.table ∧
      s'.cache = s.cache.addRecords ((nextBatch c s load).map AccountMapRow.record) := by
  cases e with
  | raise =>
      rw [servingStep, Option.map_eq_some_iff] at h
      obtain ⟨load, -, rfl⟩ := h
      exact .inr (.inl ⟨rfl, rfl⟩)
  | sync e =>
      rw [servingStep] at h
      cases e with
      | commit row =>
          obtain ⟨table, hInsert, rfl⟩ := syncStep_commit h
          exact .inl ⟨row, hInsert, rfl⟩
      | begin batchSize =>
          obtain ⟨-, -, ⟨-, rfl⟩ | ⟨since, -, rfl⟩⟩ := syncStep_begin h
          · exact .inr (.inl ⟨rfl, rfl⟩)
          · exact .inr (.inl ⟨rfl, rfl⟩)
      | query =>
          cases hLoad : s.load with
          | none =>
              rw [syncStep, hLoad] at h
              cases h
          | some load =>
              rcases syncStep_query hLoad h with ⟨-, rfl⟩ | ⟨-, rfl⟩
              · exact .inr (.inl ⟨rfl, rfl⟩)
              · exact .inr (.inr ⟨load, rfl, rfl⟩)

/-- One event from a state whose cache is taken from the table. -/
theorem FromTable.servingStep {e : ServingEvent} (hFrom : FromTable s.cache s.table)
    (h : servingStep c s e = some s') :
    FromTable s'.cache s'.table ∧ CacheGrows s s' := by
  rcases servingStep_cases h with ⟨row, hInsert, hCache⟩ | ⟨hTable, hCache⟩ |
    ⟨load, hTable, hCache⟩
  · have hRows : ∀ r ∈ s.table.rows, r ∈ s'.table.rows := by
      intro r hr
      rw [(AccountMap.rows_insert? hInsert).1]
      exact List.mem_cons_of_mem row hr
    rw [hCache]
    exact ⟨fromTable_of_rows hFrom hRows, hRows, hCache ▸ .refl _⟩
  · rw [hCache, hTable]
    exact ⟨hFrom, hTable ▸ fun _ hr => hr, hCache ▸ .refl _⟩
  · obtain ⟨hRows, hNodup⟩ := nextBatch_rows c s load
    rw [hCache, hTable]
    exact ⟨hFrom.addRecords hRows, hTable ▸ fun _ hr => hr,
      hCache ▸ hFrom.subDict_addRecords hRows hNodup⟩

/-- Every entry of the cache is one of the table. -/
theorem fromTable_of_reachable (hReach : (serving c settings).Reachable s) :
    FromTable s.cache s.table := by
  have hInit : ∀ s, (serving c settings).start s → FromTable s.cache s.table := by
    rintro s ⟨-, fails, loaded, cached, hReady⟩
    rw [(initAttempts_ready hReady).1]
    exact fromTable_snapshotCache
  have hStep : ∀ s e s', FromTable s.cache s.table →
      (serving c settings).step s e = some s' → FromTable s'.cache s'.table :=
    fun s e s' hFrom h => (hFrom.servingStep h).1
  exact hReach.invariant hInit hStep

/-- From a reachable state on, nothing is lost. -/
theorem cacheGrows_of_later (hReach : (serving c settings).Reachable s)
    (hLater : (serving c settings).Later s s') : CacheGrows s s' :=
  hReach.later_rel .refl (fun _ _ _ => .trans)
    (fun _ _ _ hBefore hStep => ((fromTable_of_reachable hBefore).servingStep hStep).2) hLater

end Steps

section Lookups

variable {c : Collation} {settings : PiiSettings} {s₀ s t : SyncState}
  {repository : SQLAlchemyAccountMapRepository} {tables : Nat → AccountMap}
  {fails : Nat → Bool} {execute : Nat → List String → Option (List AccountMapRow)}

/-- A token that is in the cache and in the table of another moment of the run has one
uuid. -/
theorem uuid_unique (hs : FromTable s.cache s.table)
    (hRun : CacheGrows s t ∨ CacheGrows t s) {token uuid uuid' : String}
    (hCached : s.cache.tokenToValue.get? token = some uuid)
    (hTable : t.table.uuidOf token = some uuid') : uuid = uuid' := by
  obtain ⟨row, hRow, hId, rfl⟩ :=
    (s.table.uuidOf_eq_some_iff token uuid).mp (hs token uuid hCached)
  obtain ⟨row', hRow', hId', rfl⟩ := (t.table.uuidOf_eq_some_iff token uuid').mp hTable
  rcases hRun with hGrows | hGrows
  · rw [t.table.row_unique (hGrows.rows row hRow) hRow' (hId.trans hId'.symm)]
  · rw [s.table.row_unique hRow (hGrows.rows row' hRow') (hId.trans hId'.symm)]

/-- What the cache and a look-up in the table have to do with each other. -/
structure LookupAgrees (cache : AccountMapInMemory) (tokens : Finset String)
    (mappings : Dict String PiiMappingRecord) : Prop where
  /-- They never answer differently. -/
  same : ∀ token uuid record, cache.tokenToValue.get? token = some uuid →
    mappings.get? token = some record → record.mappedValue = uuid
  /-- The look-up answers for the tokens it is given only, and each under its own name. -/
  asked : ∀ token record, mappings.get? token = some record →
    token ∈ tokens ∧ record.token = token

/-- The statements of a call each run at some moment of a run, before or after the one
the cache is taken at. -/
structure DuringRun (c : Collation) (settings : PiiSettings) (s₀ s : SyncState)
    (tables : Nat → AccountMap) : Prop where
  start : (serving c settings).Reachable s₀
  here : (serving c settings).Later s₀ s
  statements : ∀ n, ∃ t, tables n = t.table ∧ (serving c settings).Later s₀ t ∧
    ((serving c settings).Later s t ∨ (serving c settings).Later t s)

theorem token_of_recordOf {table : AccountMap} {token : String} {record : PiiMappingRecord}
    (h : table.recordOf token = some record) : record.token = token := by
  obtain ⟨row, hFind, rfl⟩ := Option.map_eq_some_iff.mp h
  have hId : row.customerId = token := by simpa using List.find?_some hFind
  exact hId

/-- Whatever is committed and loaded in between, the cache and `get_many` never answer
differently; and what the cache holds before the call, `get_many` finds. -/
theorem getMany_agrees_of_later (hRun : DuringRun c settings s₀ s tables)
    (hAnswers : Answers tables fails execute) (tokens : Finset String)
    {mappings : Dict String PiiMappingRecord}
    (hMappings : (repository.getMany execute tokens).mappings = some mappings) :
    LookupAgrees s.cache tokens mappings ∧
      ((∀ n, ∃ t, tables n = t.table ∧ (serving c settings).Later s t) →
        ∀ token ∈ tokens, ∀ uuid, s.cache.tokenToValue.get? token = some uuid →
          ∃ record, mappings.get? token = some record ∧ record.mappedValue = uuid) := by
  have hSpec := get?_getMany hAnswers hMappings
  have hs := fromTable_of_reachable (hRun.start.later hRun.here)
  have hAsked : ∀ token record, mappings.get? token = some record → token ∈ tokens ∧
      (tables (statementOf repository tokens token)).recordOf token = some record := by
    intro token record hGet
    rw [hSpec] at hGet
    split at hGet
    · rename_i hMem
      exact ⟨hMem, hGet⟩
    · cases hGet
  refine ⟨⟨fun token uuid record hCached hGet => ?_, fun token record hGet => ?_⟩,
    fun hAfter token hMem uuid hCached => ?_⟩
  · obtain ⟨-, hRecord⟩ := hAsked token record hGet
    obtain ⟨t, hTable, ht, hOrder⟩ := hRun.statements (statementOf repository tokens token)
    have hUuid : t.table.uuidOf token = some record.mappedValue := by
      rw [← AccountMap.map_mappedValue_recordOf, ← hTable, hRecord]
      rfl
    refine (uuid_unique hs ?_ hCached hUuid).symm
    rcases hOrder with hLater | hLater
    · exact .inl (cacheGrows_of_later (hRun.start.later hRun.here) hLater)
    · exact .inr (cacheGrows_of_later (hRun.start.later ht) hLater)
  · obtain ⟨hMem, hRecord⟩ := hAsked token record hGet
    exact ⟨hMem, token_of_recordOf hRecord⟩
  · obtain ⟨t, hTable, hLater⟩ := hAfter (statementOf repository tokens token)
    have hGrows := cacheGrows_of_later (hRun.start.later hRun.here) hLater
    have hUuid := fromTable_of_rows hs hGrows.rows token uuid hCached
    rw [← AccountMap.map_mappedValue_recordOf, Option.map_eq_some_iff] at hUuid
    obtain ⟨record, hRecord, hValue⟩ := hUuid
    refine ⟨record, ?_, hValue⟩
    rw [hSpec, if_pos hMem, hTable, hRecord]

end Lookups

/-- A successful initialization, as the one without failing queries. -/
theorem serving_start (c : Collation) (settings : PiiSettings) (table : AccountMap) :
    (serving c settings).start ⟨table, snapshotCache c table, none⟩ :=
  ⟨rfl, (application_start c settings table).2⟩

/-- Two tokens are looked up after a second row has been committed behind the snapshot. -/
theorem getMany_agrees_of_later_twoRows :
    ∃ mappings, LookupAgrees (snapshotCache .codePoint oneRow) {"a", "b"} mappings ∧
      ∀ token ∈ ({"a", "b"} : Finset String), ∀ uuid,
        (snapshotCache .codePoint oneRow).tokenToValue.get? token = some uuid →
          ∃ record, mappings.get? token = some record ∧ record.mappedValue = uuid := by
  have hReach : (serving .codePoint {}).Reachable
      ⟨oneRow, snapshotCache .codePoint oneRow, none⟩ := .start (serving_start _ _ _)
  have hCommit : (serving .codePoint {}).Later
      ⟨oneRow, snapshotCache .codePoint oneRow, none⟩
      ⟨twoRows, snapshotCache .codePoint oneRow, none⟩ :=
    .single ⟨.sync (.commit ⟨"b", "u2", 200⟩), rfl⟩
  have hAnswers := answers_inTableOrder (fun _ => twoRows) fun _ => false
  obtain ⟨final, hRun, -⟩ := @getMany_returned ⟨1, Nat.one_pos⟩ _ _ _ hAnswers {"a", "b"}
    fun _ _ => rfl
  obtain ⟨hAgrees, hFound⟩ := getMany_agrees_of_later
    ⟨hReach, .refl, fun n => ⟨_, rfl, hCommit, .inl hCommit⟩⟩ hAnswers {"a", "b"}
    (congrArg GetManyRun.mappings hRun)
  exact ⟨final, hAgrees, hFound fun n => ⟨_, rfl, hCommit⟩⟩

end PiiCache
end DataApi
