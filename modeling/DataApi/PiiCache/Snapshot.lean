import DataApi.PiiCache.AccountMapRepository

/-!
# Loading the cache from the table

`load_pii_mapping_snapshot` clears the cache and pages through the whole
table; `load_pii_mapping_incremental` pages through the rows newer than the
watermark and clears nothing.  Both are the paging loop of the library over
`get_mappings_batch`, and both add record by record, so a query that raises
leaves the records of the batches before it in the cache.

Over a table that does not change during the load each of them ends: it
returns with every selected row added, or raises at the first failing query
with the batches before that query added.
-/

namespace DataApi
namespace PiiCache

open Library

/-- The answers to the batch queries of one load over a fixed table; `fails`
says which query numbers raise. -/
def batchQuery (c : Collation) (table : AccountMap) (batchSize : Nat)
    (since : Option Timestamp) (fails : Nat → Bool) (batch offset : Nat) :
    Option (List PiiMappingRecord) :=
  if fails batch then none
  else some (getMappingsBatch c table batchSize offset since)

/-- The `while True` loop the two loads share.  A table of `n` rows needs at
most `n + 1` turns. -/
def loadBatches (c : Collation) (table : AccountMap) (batchSize : Nat)
    (since : Option Timestamp) (fails : Nat → Bool)
    (cache : AccountMapInMemory) : LoopEnd AccountMapInMemory :=
  Pager.loop AccountMapInMemory.addRecord batchSize
    (batchQuery c table batchSize since fails) (table.rows.length + 1) 0
    ⟨cache, 0, 0⟩

/-- `load_pii_mapping_snapshot`. -/
def loadPiiMappingSnapshot (c : Collation) (table : AccountMap)
    (batchSize : Nat) (fails : Nat → Bool) (cache : AccountMapInMemory) :
    LoopEnd AccountMapInMemory :=
  loadBatches c table batchSize none fails cache.clear

/-- `load_pii_mapping_incremental`: without a watermark it returns 0 at once. -/
def loadPiiMappingIncremental (c : Collation) (table : AccountMap)
    (batchSize : Nat) (fails : Nat → Bool) (cache : AccountMapInMemory) :
    LoopEnd AccountMapInMemory :=
  match cache.lastSyncedAt with
  | none => .returned ⟨cache, 0, 0⟩
  | some since => loadBatches c table batchSize (some since) fails cache

/-- The records a load selects, in the order it adds them. -/
def selectedRecords (c : Collation) (since : Option Timestamp)
    (table : AccountMap) : List PiiMappingRecord :=
  (selectedRows c since table).map AccountMapRow.record

/-- The cache after the first `k` batches of a load. -/
def cacheAfter (c : Collation) (table : AccountMap) (batchSize : Nat)
    (since : Option Timestamp) (cache : AccountMapInMemory) (k : Nat) :
    AccountMapInMemory :=
  cache.addRecords ((selectedRecords c since table).take (k * batchSize))

variable {c : Collation} {table : AccountMap} {batchSize : Nat}

theorem length_selectedRecords_le (c : Collation) (since : Option Timestamp)
    (table : AccountMap) :
    (selectedRecords c since table).length ≤ table.rows.length := by
  simpa [selectedRecords, selectedRows] using List.length_filter_le _ _

theorem length_selectedRecords_none (c : Collation) (table : AccountMap) :
    (selectedRecords c none table).length = table.rows.length := by
  have hAll : table.rows.filter (newerThan none) = table.rows :=
    List.filter_eq_self.mpr fun _ _ => rfl
  simp [selectedRecords, selectedRows, hAll]

/-- The batch queries page through the selected records. -/
theorem batchQuery_eq_pageQuery (c : Collation) (table : AccountMap)
    (batchSize : Nat) (since : Option Timestamp) (fails : Nat → Bool) :
    batchQuery c table batchSize since fails =
      pageQuery batchSize (selectedRecords c since table) fails := by
  funext batch offset
  simp [batchQuery, pageQuery, getMappingsBatch_eq_page, selectedRecords]

/-- How a load over a fixed table ends. -/
theorem loadBatches_ends (c : Collation) (table : AccountMap)
    (hBatch : 0 < batchSize) (since : Option Timestamp)
    (fails : Nat → Bool) (cache : AccountMapInMemory) :
    (∃ offset, loadBatches c table batchSize since fails cache =
        .returned ⟨cache.addRecords (selectedRecords c since table), offset,
          (selectedRecords c since table).length⟩) ∨
    ∃ k loaded, fails k = true ∧
      loadBatches c table batchSize since fails cache =
        .raised ⟨cacheAfter c table batchSize since cache k,
          k * batchSize, loaded⟩ := by
  have hLen := length_selectedRecords_le c since table
  have hLe := le_batchCount_mul hBatch (selectedRecords c since table).length
  have hTurns : (selectedRecords c since table).length < table.rows.length + 1 := by
    omega
  rw [loadBatches, batchQuery_eq_pageQuery]
  rcases loop_ends AccountMapInMemory.addRecord hBatch
    (selectedRecords c since table) cache fails hTurns with
    ⟨hRet, -⟩ | ⟨k, -, hFail, hRaise⟩
  · left
    refine ⟨batchCount batchSize (selectedRecords c since table).length * batchSize, ?_⟩
    rw [hRet, LoopEnd.returned.injEq, Pager.mk.injEq]
    exact ⟨pagerAfter_acc_of_le hLe, rfl, pagerAfter_loaded_of_le hLe⟩
  · right
    exact ⟨k, _, hFail, hRaise⟩

/-- Without a failing query the load returns. -/
theorem loadBatches_of_no_failure (c : Collation) (table : AccountMap)
    (hBatch : 0 < batchSize) (since : Option Timestamp) {fails : Nat → Bool}
    (hFails : ∀ k, fails k = false) (cache : AccountMapInMemory) :
    ∃ offset, loadBatches c table batchSize since fails cache =
      .returned ⟨cache.addRecords (selectedRecords c since table), offset,
        (selectedRecords c since table).length⟩ := by
  rcases loadBatches_ends c table hBatch since fails cache with hRet | ⟨k, _, hFail, -⟩
  · exact hRet
  · rw [hFails k] at hFail
    cases hFail

/-- A load that returned has added every selected row. -/
theorem loadBatches_returned (hBatch : 0 < batchSize)
    {since : Option Timestamp} {fails : Nat → Bool} {cache : AccountMapInMemory}
    {p : Pager AccountMapInMemory}
    (h : loadBatches c table batchSize since fails cache = .returned p) :
    p.acc = cache.addRecords (selectedRecords c since table) ∧
      p.loaded = (selectedRecords c since table).length := by
  rcases loadBatches_ends c table hBatch since fails cache with
    ⟨offset, hRet⟩ | ⟨k, loaded, -, hRaise⟩
  · rw [h, LoopEnd.returned.injEq] at hRet
    rw [hRet]
    exact ⟨rfl, rfl⟩
  · rw [h] at hRaise
    cases hRaise

/-- A load that raised has added the rows of whole batches, `k` of them when
its offset had reached `k * batchSize`. -/
theorem loadBatches_raised (hBatch : 0 < batchSize)
    {since : Option Timestamp} {fails : Nat → Bool} {cache : AccountMapInMemory}
    {p : Pager AccountMapInMemory}
    (h : loadBatches c table batchSize since fails cache = .raised p) :
    ∃ k, p.offset = k * batchSize ∧
      p.acc = cacheAfter c table batchSize since cache k := by
  rcases loadBatches_ends c table hBatch since fails cache with
    ⟨offset, hRet⟩ | ⟨k, loaded, -, hRaise⟩
  · rw [h] at hRet
    cases hRet
  · rw [h, LoopEnd.raised.injEq] at hRaise
    rw [hRaise]
    exact ⟨k, rfl, rfl⟩

/-- The query number `k` can be the one that raises whenever the load gets to
it. -/
theorem loadBatches_raise_at (c : Collation) (table : AccountMap)
    (hBatch : 0 < batchSize) (since : Option Timestamp)
    (cache : AccountMapInMemory) {k : Nat}
    (hk : k ≤ batchCount batchSize (selectedRecords c since table).length) :
    ∃ loaded, loadBatches c table batchSize since (fun j => j == k) cache =
      .raised ⟨cacheAfter c table batchSize since cache k,
        k * batchSize, loaded⟩ := by
  have hLe := batchCount_le hBatch (selectedRecords c since table).length
  have hLen := length_selectedRecords_le c since table
  have hStart : (⟨cache, 0, 0⟩ : Pager AccountMapInMemory) =
      pagerAfter AccountMapInMemory.addRecord batchSize
        (selectedRecords c since table) cache 0 :=
    (pagerAfter_zero _ _).symm
  rw [loadBatches, batchQuery_eq_pageQuery, hStart]
  exact ⟨_, loop_raised hBatch _ _ _ hk (by simp) _ 0 (Nat.zero_le k) (by omega)
    (fun j _ hj => by simpa using hj.ne)⟩

/-- A load of a table that does not change always ends. -/
theorem loadBatches_ne_unfinished (hBatch : 0 < batchSize)
    (since : Option Timestamp) (fails : Nat → Bool) (cache : AccountMapInMemory)
    (p : Pager AccountMapInMemory) :
    loadBatches c table batchSize since fails cache ≠ .unfinished p := by
  rcases loadBatches_ends c table hBatch since fails cache with
    ⟨_, hRet⟩ | ⟨_, _, -, hRaise⟩
  · simp [hRet]
  · simp [hRaise]

/-- With a watermark the incremental load is the paging loop behind it. -/
theorem loadPiiMappingIncremental_eq {cache : AccountMapInMemory} {w : Timestamp}
    (hLast : cache.lastSyncedAt = some w) (fails : Nat → Bool) :
    loadPiiMappingIncremental c table batchSize fails cache =
      loadBatches c table batchSize (some w) fails cache := by
  rw [loadPiiMappingIncremental, hLast]

/-! ### The watermark after a part of a load -/

/-- Adding rows moves the watermark onto one of them, or leaves it. -/
theorem watermark_addRecords {cache : AccountMapInMemory} {w₀ : Timestamp}
    (hLast : cache.lastSyncedAt = some w₀) (rows : List AccountMapRow) :
    ∃ w, (cache.addRecords (rows.map AccountMapRow.record)).lastSyncedAt = some w ∧
      w₀ ≤ w ∧ (∀ row ∈ rows, row.createdAt ≤ w) ∧
      (w = w₀ ∨ ∃ row ∈ rows, row.createdAt = w) := by
  obtain ⟨w, hw, hLe⟩ := AccountMapInMemory.le_lastSyncedAt_addRecords cache
    (rows.map AccountMapRow.record) hLast
  refine ⟨w, hw, hLe, fun row hRow => ?_, ?_⟩
  · have hMem : row.record ∈ rows.map AccountMapRow.record :=
      List.mem_map.mpr ⟨row, hRow, rfl⟩
    obtain ⟨w', hw', hLe'⟩ :=
      AccountMapInMemory.createdAt_le_lastSyncedAt cache hMem rfl
    rw [hw, Option.some.injEq] at hw'
    rwa [hw']
  · rcases AccountMapInMemory.lastSyncedAt_addRecords_cases cache hw with
      hOld | ⟨record, hMem, hCreated⟩
    · rw [hLast, Option.some.injEq] at hOld
      exact Or.inl hOld.symm
    · obtain ⟨row, hRow, rfl⟩ := List.mem_map.mp hMem
      exact Or.inr ⟨row, hRow, Option.some.inj hCreated⟩

/-- In the selected rows, those behind a position are not older than those
before it. -/
theorem createdAt_le_of_take_drop {rows : List AccountMapRow}
    (hSorted : rows.Pairwise (rowLe c)) {n : Nat} {a b : AccountMapRow}
    (ha : a ∈ rows.take n) (hb : b ∈ rows.drop n) :
    a.createdAt ≤ b.createdAt := by
  rw [← List.take_append_drop n rows, List.pairwise_append] at hSorted
  exact createdAt_le_of_rowLe (hSorted.2.2 a ha b hb)

/-! ### The contents after a complete load -/

/-- A row is cached when its token is mapped to its own uuid. -/
def Cached (cache : AccountMapInMemory) (row : AccountMapRow) : Prop :=
  cache.tokenToValue.get? row.customerId = some row.uuid

instance (cache : AccountMapInMemory) (row : AccountMapRow) :
    Decidable (Cached cache row) := by
  unfold Cached
  infer_instance

/-- `token_to_value` is the token-to-uuid map of the table. -/
def Exact (cache : AccountMapInMemory) (table : AccountMap) : Prop :=
  ∀ token, cache.tokenToValue.get? token = table.uuidOf token

/-- Adding rows of the table keeps every row cached that was cached before. -/
theorem Cached.addRecords {cache : AccountMapInMemory} {row : AccountMapRow}
    (hCached : Cached cache row) (hRow : row ∈ table.rows)
    {rows : List AccountMapRow} (hRows : ∀ r ∈ rows, r ∈ table.rows)
    (hNodup : (rows.map AccountMapRow.customerId).Nodup) :
    Cached (cache.addRecords (rows.map AccountMapRow.record)) row := by
  by_cases hMem : row ∈ rows
  · exact tokenToValue_addRecords_record cache hNodup hMem
  · have hNe : ∀ record ∈ rows.map AccountMapRow.record,
        record.token ≠ row.customerId := by
      intro record hRecord hEq
      obtain ⟨r, hr, rfl⟩ := List.mem_map.mp hRecord
      exact hMem (table.row_unique (hRows r hr) hRow hEq ▸ hr)
    exact (cache.tokenToValue_addRecords_of_forall_ne hNe).trans hCached

/-- Every entry of the cache comes from a row of the table. -/
def FromTable (cache : AccountMapInMemory) (table : AccountMap) : Prop :=
  ∀ token value, cache.tokenToValue.get? token = some value →
    table.uuidOf token = some value

theorem FromTable.new (table : AccountMap) :
    FromTable AccountMapInMemory.new table := by
  intro token value h
  cases h

theorem FromTable.addRecords {cache : AccountMapInMemory}
    (hFrom : FromTable cache table) {rows : List AccountMapRow}
    (hRows : ∀ r ∈ rows, r ∈ table.rows) :
    FromTable (cache.addRecords (rows.map AccountMapRow.record)) table := by
  intro token value h
  rcases cache.tokenToValue_addRecords_cases h with hOld | ⟨record, hMem, hRecord⟩
  · exact hFrom token value hOld
  · obtain ⟨r, hr, rfl⟩ := List.mem_map.mp hMem
    exact (table.uuidOf_eq_some_iff token value).mpr ⟨r, hRows r hr, hRecord⟩

/-- A cache filled from the table in which every row is cached is the table. -/
theorem exact_of_cached {cache : AccountMapInMemory}
    (hFrom : FromTable cache table)
    (hCached : ∀ row ∈ table.rows, Cached cache row) : Exact cache table := by
  intro token
  cases hGet : cache.tokenToValue.get? token with
  | some value => exact (hFrom token value hGet).symm
  | none =>
      cases hUuid : table.uuidOf token with
      | none => rfl
      | some uuid =>
          obtain ⟨row, hRow, rfl, -⟩ :=
            (table.uuidOf_eq_some_iff token uuid).mp hUuid
          rw [hCached row hRow] at hGet
          cases hGet

theorem cached_of_exact {cache : AccountMapInMemory} (hExact : Exact cache table)
    {row : AccountMapRow} (hRow : row ∈ table.rows) : Cached cache row := by
  rw [Cached, hExact]
  exact (table.uuidOf_eq_some_iff _ _).mpr ⟨row, hRow, rfl, rfl⟩

/-- The records of a complete snapshot, added to a cleared cache. -/
def snapshotCache (c : Collation) (table : AccountMap) : AccountMapInMemory :=
  AccountMapInMemory.new.addRecords (selectedRecords c none table)

theorem loadPiiMappingSnapshot_returned (hBatch : 0 < batchSize)
    {fails : Nat → Bool} {cache : AccountMapInMemory}
    {p : Pager AccountMapInMemory}
    (h : loadPiiMappingSnapshot c table batchSize fails cache = .returned p) :
    p.acc = snapshotCache c table ∧ p.loaded = table.rows.length := by
  obtain ⟨hAcc, hLoaded⟩ := loadBatches_returned hBatch h
  exact ⟨hAcc, hLoaded.trans (length_selectedRecords_none c table)⟩

theorem cached_snapshotCache {row : AccountMapRow} (hRow : row ∈ table.rows) :
    Cached (snapshotCache c table) row :=
  tokenToValue_addRecords_record _ (selectedRows_nodup c none table)
    (mem_selectedRows.mpr ⟨hRow, rfl⟩)

theorem fromTable_snapshotCache : FromTable (snapshotCache c table) table :=
  (FromTable.new table).addRecords fun _ hr => (mem_selectedRows.mp hr).1

/-- After a completed snapshot `token_to_value` is the table. -/
theorem exact_snapshotCache : Exact (snapshotCache c table) table :=
  exact_of_cached fromTable_snapshotCache fun _ hRow => cached_snapshotCache hRow

/-- The watermark of a snapshot of a non-empty table is the largest
`created_at`; without rows there is none. -/
theorem lastSyncedAt_snapshotCache (c : Collation) (table : AccountMap) :
    (table.rows = [] ∧ (snapshotCache c table).lastSyncedAt = none) ∨
    ∃ w, (snapshotCache c table).lastSyncedAt = some w ∧
      (∃ row ∈ table.rows, row.createdAt = w) ∧
      ∀ row ∈ table.rows, row.createdAt ≤ w := by
  have hGe : ∀ row ∈ table.rows, ∃ w,
      (snapshotCache c table).lastSyncedAt = some w ∧ row.createdAt ≤ w := by
    intro row hRow
    have hMem : row.record ∈ selectedRecords c none table :=
      List.mem_map.mpr ⟨row, mem_selectedRows.mpr ⟨hRow, rfl⟩, rfl⟩
    exact AccountMapInMemory.createdAt_le_lastSyncedAt _ hMem rfl
  cases hLast : (snapshotCache c table).lastSyncedAt with
  | none =>
      left
      refine ⟨List.eq_nil_iff_forall_not_mem.mpr fun row hRow => ?_, rfl⟩
      obtain ⟨w, hw, -⟩ := hGe row hRow
      rw [hLast] at hw
      cases hw
  | some w =>
      right
      refine ⟨w, rfl, ?_, fun row hRow => ?_⟩
      · rcases AccountMapInMemory.lastSyncedAt_addRecords_cases _ hLast with
          hOld | ⟨record, hMem, hCreated⟩
        · cases hOld
        · obtain ⟨row, hRow, rfl⟩ := List.mem_map.mp hMem
          exact ⟨row, (mem_selectedRows.mp hRow).1, Option.some.inj hCreated⟩
      · obtain ⟨w', hw', hLe⟩ := hGe row hRow
        rw [hLast, Option.some.injEq] at hw'
        rwa [hw']

end PiiCache
end DataApi
