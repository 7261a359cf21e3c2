import DataApi.PiiCache.Snapshot

/-!
# An incremental load that fails midway

The sync loop swallows the exception of a failed load, and the next load
starts from the watermark the failed one has reached.  The batches of the
failed load are in the cache, so nothing is lost as long as that watermark
lies strictly below every row that was not fetched yet.  Rows with equal
`created_at` on both sides of the last batch boundary break this: the strict
comparison of the next load skips those behind the boundary.
-/

namespace DataApi
namespace PiiCache

open Library

/-- Two rows with equal `created_at` lie on both sides of position `n`. -/
def TieAcross (rows : List AccountMapRow) (n : Nat) : Prop :=
  ∃ a ∈ rows.take n, ∃ b ∈ rows.drop n, a.createdAt = b.createdAt

instance (rows : List AccountMapRow) (n : Nat) : Decidable (TieAcross rows n) := by
  unfold TieAcross
  infer_instance

/-- The rows of `table` that are not in `earlier`, as the loads order them. -/
def addedRows (c : Collation) (earlier table : AccountMap) : List AccountMapRow :=
  (table.rows.filter fun row => row ∉ earlier.rows).insertionSort (rowLe c)

/-- `earlier` is a part of `table`, and every other row of `table` has a
strictly later `created_at`. -/
structure Precedes (earlier table : AccountMap) : Prop where
  subset : ∀ row ∈ earlier.rows, row ∈ table.rows
  below : ∀ row ∈ table.rows, row ∉ earlier.rows →
    ∀ old ∈ earlier.rows, old.createdAt < row.createdAt

/-- If a load raises while it fetches batch number `k + 1` and a later load
returns, the cache is the one a single load would have given. -/
def RetryLosesNothing (c : Collation) (table : AccountMap) (batchSize : Nat)
    (cache : AccountMapInMemory) (k : Nat) : Prop :=
  ∀ fails failed, loadPiiMappingIncremental c table batchSize fails cache =
      .raised failed → failed.offset = k * batchSize →
    ∀ fails₁ retried, loadPiiMappingIncremental c table batchSize fails₁
        failed.acc = .returned retried →
    ∀ fails₂ direct, loadPiiMappingIncremental c table batchSize fails₂
        cache = .returned direct →
      retried.acc.Same direct.acc

section Watermark

variable {c : Collation} {table : AccountMap} {w₀ : Timestamp}

/-- Without a tie across the boundary the next load selects exactly the rows
behind it. -/
theorem selectedRows_after_take {cache : AccountMapInMemory}
    (hLast : cache.lastSyncedAt = some w₀) (n : Nat)
    (hTie : ¬ TieAcross (selectedRows c (some w₀) table) n) :
    ∃ w, (cache.addRecords (((selectedRows c (some w₀) table).take n).map
        AccountMapRow.record)).lastSyncedAt = some w ∧
      selectedRows c (some w) table = (selectedRows c (some w₀) table).drop n := by
  set rows := selectedRows c (some w₀) table with hRows
  obtain ⟨w, hw, hLe, hAll, hCases⟩ := watermark_addRecords hLast (rows.take n)
  refine ⟨w, hw, ?_⟩
  rw [selectedRows_some_eq_filter c (some w₀)
    (by rintro _ ⟨⟩; exact hLe), ← hRows]
  have hFront : (rows.take n).filter (newerThan (some w)) = [] := by
    rw [List.filter_eq_nil_iff]
    intro row hRow
    rw [newerThan_some, not_lt]
    exact hAll row hRow
  have hBack : (rows.drop n).filter (newerThan (some w)) = rows.drop n := by
    rw [List.filter_eq_self]
    intro row hRow
    rw [newerThan_some]
    rcases hCases with rfl | ⟨a, ha, rfl⟩
    · exact newerThan_some.mp (mem_selectedRows.mp (List.mem_of_mem_drop hRow)).2
    · refine lt_of_le_of_ne (createdAt_le_of_take_drop
        (selectedRows_pairwise c _ table) ha hRow) fun hEq => ?_
      exact hTie ⟨a, ha, row, hRow, hEq⟩
  calc
    rows.filter (newerThan (some w)) =
        (rows.take n ++ rows.drop n).filter (newerThan (some w)) := by
      rw [List.take_append_drop]
    _ = rows.drop n := by rw [List.filter_append, hFront, hBack, List.nil_append]

end Watermark

section Snapshot

variable {c : Collation} {earlier table : AccountMap}

/-- After a snapshot of the earlier table the watermark separates its rows
from the added ones. -/
theorem selectedRows_eq_addedRows (hPrec : Precedes earlier table)
    {w₀ : Timestamp} (hLast : (snapshotCache c earlier).lastSyncedAt = some w₀) :
    selectedRows c (some w₀) table = addedRows c earlier table := by
  rcases lastSyncedAt_snapshotCache c earlier with
    ⟨-, hNone⟩ | ⟨w, hw, ⟨top, hTop, hTopw⟩, hAll⟩
  · rw [hLast] at hNone
    cases hNone
  · rw [hLast, Option.some.injEq] at hw
    subst hw
    rw [selectedRows, addedRows]
    congr 1
    refine List.filter_congr fun row hRow => ?_
    rw [Bool.eq_iff_iff, newerThan_some, decide_eq_true_iff]
    constructor
    · intro hLt hOld
      exact absurd (hAll row hOld) (not_le.mpr hLt)
    · intro hNew
      rw [← hTopw]
      exact hPrec.below row hRow hNew top hTop

/-- A row behind a tie is never fetched: its token stays unknown. -/
theorem tokenToValue_of_tie (hPrec : Precedes earlier table) {w₀ : Timestamp}
    (hLast : (snapshotCache c earlier).lastSyncedAt = some w₀) {n : Nat}
    {a b : AccountMapRow} (ha : a ∈ (selectedRows c (some w₀) table).take n)
    (hb : b ∈ (selectedRows c (some w₀) table).drop n)
    (hTie : a.createdAt = b.createdAt) {w : Timestamp}
    (hw : ((snapshotCache c earlier).addRecords
      (((selectedRows c (some w₀) table).take n).map
        AccountMapRow.record)).lastSyncedAt = some w) :
    (((snapshotCache c earlier).addRecords
      (((selectedRows c (some w₀) table).take n).map
        AccountMapRow.record)).addRecords
      ((selectedRows c (some w) table).map AccountMapRow.record)
        ).tokenToValue.get? b.customerId = none := by
  set rows := selectedRows c (some w₀) table with hRows
  obtain ⟨w', hw', -, hAll, -⟩ := watermark_addRecords hLast (rows.take n)
  rw [hw, Option.some.injEq] at hw'
  subst hw'
  have hBRow : b ∈ rows := List.mem_of_mem_drop hb
  have hBTable := (mem_selectedRows.mp hBRow).1
  have hSkip : ∀ record ∈ (selectedRows c (some w) table).map AccountMapRow.record,
      record.token ≠ b.customerId := by
    intro record hRecord hEq
    obtain ⟨r, hr, rfl⟩ := List.mem_map.mp hRecord
    obtain ⟨hRTable, hRNew⟩ := mem_selectedRows.mp hr
    have hSame := table.row_unique hRTable hBTable hEq
    have hLt := newerThan_some.mp hRNew
    rw [hSame, ← hTie] at hLt
    exact absurd (hAll a ha) (not_le.mpr hLt)
  have hBefore : ∀ record ∈ (rows.take n).map AccountMapRow.record,
      record.token ≠ b.customerId := by
    intro record hRecord hEq
    obtain ⟨r, hr, rfl⟩ := List.mem_map.mp hRecord
    have hNodup := selectedRows_nodup c (some w₀) table
    rw [← hRows, ← List.take_append_drop n rows, List.map_append,
      List.nodup_append] at hNodup
    exact hNodup.2.2 _ (List.mem_map.mpr ⟨r, hr, rfl⟩) _
      (List.mem_map.mpr ⟨b, hb, rfl⟩) hEq
  rw [AccountMapInMemory.tokenToValue_addRecords_of_forall_ne _ hSkip,
    AccountMapInMemory.tokenToValue_addRecords_of_forall_ne _ hBefore,
    exact_snapshotCache]
  have hFresh : b ∉ earlier.rows := by
    rw [selectedRows_eq_addedRows hPrec hLast] at hRows
    rw [hRows] at hBRow
    simpa [addedRows, hBTable] using hBRow
  rw [Option.eq_none_iff_forall_ne_some]
  intro uuid hUuid
  obtain ⟨r, hr, hId, -⟩ := (earlier.uuidOf_eq_some_iff _ _).mp hUuid
  exact hFresh (table.row_unique (hPrec.subset r hr) hBTable hId ▸ hr)

end Snapshot

/-- Without a tie across the boundary, failing and retrying adds the same
records in the same order as one load. -/
theorem retryLosesNothing_of_not_tie {c : Collation} {table : AccountMap}
    {batchSize : Nat} (hBatch : 0 < batchSize) {cache : AccountMapInMemory}
    {w₀ : Timestamp} (hLast : cache.lastSyncedAt = some w₀) {k : Nat}
    (hTie : ¬ TieAcross (selectedRows c (some w₀) table) (k * batchSize)) :
    RetryLosesNothing c table batchSize cache k := by
  intro fails failed hRaised hOffset fails₁ retried hRetried fails₂ direct hDirect
  rw [loadPiiMappingIncremental_eq hLast] at hRaised hDirect
  obtain ⟨k', hk', hAcc⟩ := loadBatches_raised hBatch hRaised
  have hkk : k' = k := Nat.eq_of_mul_eq_mul_right hBatch (hk'.symm.trans hOffset)
  subst hkk
  obtain ⟨w, hw, hRest⟩ := selectedRows_after_take hLast (k' * batchSize) hTie
  rw [List.map_take] at hw
  change (cacheAfter c table batchSize (some w₀) cache k').lastSyncedAt = some w at hw
  rw [hAcc, loadPiiMappingIncremental_eq hw] at hRetried
  have hSame : retried.acc = direct.acc := by
    rw [(loadBatches_returned hBatch hRetried).1,
      (loadBatches_returned hBatch hDirect).1, cacheAfter, selectedRecords,
      selectedRecords, hRest, List.map_drop,
      ← AccountMapInMemory.addRecords_append, List.take_append_drop]
  rw [hSame]
  exact AccountMapInMemory.Same.refl _

/-- With a tie across the boundary the retry misses the rows behind it. -/
theorem not_retryLosesNothing_of_tie {c : Collation} {earlier table : AccountMap}
    (hPrec : Precedes earlier table) {batchSize : Nat} (hBatch : 0 < batchSize)
    {w₀ : Timestamp} (hLast : (snapshotCache c earlier).lastSyncedAt = some w₀)
    {k : Nat}
    (hTie : TieAcross (selectedRows c (some w₀) table) (k * batchSize)) :
    ¬ RetryLosesNothing c table batchSize (snapshotCache c earlier) k := by
  intro hSame
  obtain ⟨a, ha, b, hb, hab⟩ := hTie
  have hInside : k * batchSize < (selectedRecords c (some w₀) table).length := by
    have hPos := List.length_pos_of_mem hb
    rw [List.length_drop] at hPos
    rw [selectedRecords, List.length_map]
    omega
  obtain ⟨loaded, hRaised⟩ := loadBatches_raise_at c table hBatch (some w₀)
    (snapshotCache c earlier) ((lt_batchCount_iff hBatch k _).mpr hInside).le
  obtain ⟨w, hw, -⟩ := watermark_addRecords hLast
    ((selectedRows c (some w₀) table).take (k * batchSize))
  have hMissed := tokenToValue_of_tie hPrec hLast ha hb hab hw
  rw [List.map_take] at hw hMissed
  have hFails : ∀ j : Nat, (fun _ => false) j = false := fun _ => rfl
  obtain ⟨_, hRetried⟩ := loadBatches_of_no_failure c table hBatch (some w) hFails
    (cacheAfter c table batchSize (some w₀) (snapshotCache c earlier) k)
  obtain ⟨_, hDirect⟩ := loadBatches_of_no_failure c table hBatch (some w₀) hFails
    (snapshotCache c earlier)
  have hAgree := (hSame _ _ ((loadPiiMappingIncremental_eq hLast _).trans hRaised)
    rfl _ _ ((loadPiiMappingIncremental_eq hw _).trans hRetried)
    _ _ ((loadPiiMappingIncremental_eq hLast _).trans hDirect)).tokenToValue
  have hFound := tokenToValue_addRecords_record (snapshotCache c earlier)
    (selectedRows_nodup c (some w₀) table) (List.mem_of_mem_drop hb)
  have hBoth := (hAgree b.customerId).symm.trans hMissed
  change ((snapshotCache c earlier).addRecords (selectedRecords c (some w₀)
    table)).tokenToValue.get? b.customerId = none at hBoth
  rw [selectedRecords, hFound] at hBoth
  cases hBoth

/-- An incremental load that fails while fetching batch number `k + 1` loses
nothing exactly when no tie of `created_at` straddles the boundary behind the
first `k` batches (or the earlier table was empty, when no load runs at
all). -/
theorem retryLosesNothing_iff (c : Collation) {earlier table : AccountMap}
    (hPrec : Precedes earlier table) {batchSize : Nat} (hBatch : 0 < batchSize)
    {snapshotSize : Nat} (hSnapshotSize : 0 < snapshotSize)
    {fails : Nat → Bool} {prior : AccountMapInMemory}
    {snapshot : Pager AccountMapInMemory}
    (hSnapshot : loadPiiMappingSnapshot c earlier snapshotSize fails prior =
      .returned snapshot) (k : Nat) :
    RetryLosesNothing c table batchSize snapshot.acc k ↔
      earlier.rows = [] ∨
        ¬ TieAcross (addedRows c earlier table) (k * batchSize) := by
  rw [(loadPiiMappingSnapshot_returned hSnapshotSize hSnapshot).1]
  rcases lastSyncedAt_snapshotCache c earlier with
    ⟨hEmpty, hLast⟩ | ⟨w₀, hLast, ⟨top, hTop, -⟩, -⟩
  · simp [hEmpty, RetryLosesNothing, loadPiiMappingIncremental, hLast]
  · have hNonempty : earlier.rows ≠ [] := List.ne_nil_of_mem hTop
    rw [← selectedRows_eq_addedRows hPrec hLast, or_iff_right hNonempty]
    constructor
    · intro hSame hTie
      exact not_retryLosesNothing_of_tie hPrec hBatch hLast hTie hSame
    · exact retryLosesNothing_of_not_tie hBatch hLast

/-- One row when the snapshot was taken. -/
def oneRowMap : AccountMap := ⟨[⟨"a", "u1", 1⟩], by decide⟩

/-- Two rows with the same `created_at` arrived since. -/
def tiedRowsMap : AccountMap :=
  ⟨[⟨"c", "u3", 2⟩, ⟨"b", "u2", 2⟩, ⟨"a", "u1", 1⟩], by decide⟩

theorem oneRowMap_precedes : Precedes oneRowMap tiedRowsMap :=
  ⟨by decide, by decide⟩

/-- With batches of two rows both tied rows are in the first batch, and a
failure after it loses nothing. -/
theorem retryLosesNothing_tiedRowsMap_two :
    RetryLosesNothing .codePoint tiedRowsMap 2
      (snapshotCache .codePoint oneRowMap) 1 := by
  have hSnapshot : loadPiiMappingSnapshot .codePoint oneRowMap 2
      (fun _ => false) .new =
        .returned ⟨snapshotCache .codePoint oneRowMap, 2, 1⟩ := rfl
  exact (retryLosesNothing_iff .codePoint oneRowMap_precedes (by decide)
    (by decide) hSnapshot 1).mpr (Or.inr (by decide))

/-- With batches of one row the first tied row moves the watermark onto the
second, and a failure after it loses the second for good. -/
theorem retry_loses_tied_row :
    Precedes oneRowMap tiedRowsMap ∧
      ∃ snapshot, loadPiiMappingSnapshot .codePoint oneRowMap 1 (fun _ => false)
          .new = .returned snapshot ∧
        ¬ RetryLosesNothing .codePoint tiedRowsMap 1 snapshot.acc 1 := by
  have hLast : (snapshotCache .codePoint oneRowMap).lastSyncedAt = some 1 := rfl
  have hTie : TieAcross (selectedRows .codePoint (some 1) tiedRowsMap) (1 * 1) := by
    decide
  refine ⟨oneRowMap_precedes, ⟨snapshotCache .codePoint oneRowMap, 1, 1⟩, rfl, ?_⟩
  exact not_retryLosesNothing_of_tie oneRowMap_precedes (by decide) hLast hTie

end PiiCache
end DataApi
