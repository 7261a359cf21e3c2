import DataApi.Library.TransitionSystem
import DataApi.PiiCache.Snapshot

/-!
# The sync cursor under concurrent commits

Commits of new rows interleave with incremental loads, also between two
batches of one load.  The state is the table, the cache and the load in
progress; each query sees the rows committed when it runs.

A commit is safe (`CommitSafe`) when the row is still ahead of the cursor:
strictly newer than the watermark while no load runs; in front of the rows
already fetched while one runs; and, once a load has taken a short batch (its
offset is then past the rows it has fetched), not enough to bring the table
up to that offset.  In a run of safe commits no row is ever lost
(`quietLoadComplete_of_commitsSafe`); a commit behind the watermark is
(`quietLoad_skips_late_row`).
-/

namespace DataApi
namespace PiiCache

open Library

/-- The local variables of an incremental load in progress.  `quiet` records
that no row has been committed since it began. -/
structure ActiveLoad where
  since : Timestamp
  batchSize : Nat
  offset : Nat
  loaded : Nat
  quiet : Bool
  deriving DecidableEq

/-- The table, the cache and the incremental load in progress. -/
structure SyncState where
  table : AccountMap
  cache : AccountMapInMemory
  load : Option ActiveLoad

/-- A commit of another session, the start of a load, or its next batch query. -/
inductive SyncEvent where
  | commit (row : AccountMapRow)
  | begin (batchSize : Nat)
  | query

/-- A committed row ends the quiet of the load in progress. -/
def ActiveLoad.disturbed (load : ActiveLoad) : ActiveLoad :=
  { load with quiet := false }

/-- One event.  The body of the loop is `Pager.turn`, as in a load that runs
alone; an empty batch ends the load. -/
def syncStep (c : Collation) (s : SyncState) : SyncEvent → Option SyncState
  | .commit row =>
      (s.table.insert? row).map fun table =>
        { s with table, load := s.load.map ActiveLoad.disturbed }
  | .begin batchSize =>
      if 0 < batchSize ∧ s.load = none then
        match s.cache.lastSyncedAt with
        | none => some s
        | some since => some { s with load := some ⟨since, batchSize, 0, 0, true⟩ }
      else none
  | .query =>
      match s.load with
      | none => none
      | some load =>
          match Pager.turn AccountMapInMemory.addRecord load.batchSize
            (getMappingsBatch c s.table load.batchSize load.offset
              (some load.since))
            ⟨s.cache, load.offset, load.loaded⟩ with
          | none => some { s with load := none }
          | some p => some { s with
              cache := p.acc,
              load := some { load with offset := p.offset, loaded := p.loaded } }

/-- Runs start with a completed snapshot of a non-empty table. -/
def syncCursor (c : Collation) : TransitionSystem SyncState SyncEvent where
  start s :=
    s.table.rows ≠ [] ∧ s.load = none ∧
      ∃ batchSize fails prior p, 0 < batchSize ∧
        loadPiiMappingSnapshot c s.table batchSize fails prior = .returned p ∧
          s.cache = p.acc
  step := syncStep c

/-- The condition on a commit, in the state before it. -/
def CommitSafe (c : Collation) (s : SyncState) (row : AccountMapRow) : Prop :=
  match s.load with
  | none => newerThan s.cache.lastSyncedAt row = true
  | some load =>
      load.since < row.createdAt ∧
      (∀ fetched ∈ (selectedRows c (some load.since) s.table).take load.loaded,
        ¬ rowLe c row fetched) ∧
      (load.loaded < load.offset →
        newerThan s.cache.lastSyncedAt row = true ∧
          (selectedRows c (some load.since) s.table).length < load.offset)

/-- The guard of a run all of whose commits are safe. -/
def CommitsSafe (c : Collation) (s : SyncState) : SyncEvent → Prop
  | .commit row => CommitSafe c s row
  | .begin _ => True
  | .query => True

instance (c : Collation) (s : SyncState) (e : SyncEvent) :
    Decidable (CommitsSafe c s e) := by
  unfold CommitsSafe CommitSafe
  cases e <;> cases s.load <;> infer_instance

/-- After every load that completes with no row committed during it, every
committed row's token is mapped to that row's uuid; over the states reached
under `guard`. -/
def QuietLoadComplete (c : Collation) (guard : SyncState → SyncEvent → Prop) :
    Prop :=
  ∀ s s' load, (syncCursor c).ReachableUnder guard s → s.load = some load →
    load.quiet = true → syncStep c s .query = some s' → s'.load = none →
      ∀ row ∈ s'.table.rows, Cached s'.cache row

section Invariant

variable {c : Collation}

/-- What a load in progress has done and what it still has in front of it. -/
structure LoadInvariant (c : Collation) (s : SyncState) (load : ActiveLoad) :
    Prop where
  batchSize_pos : 0 < load.batchSize
  loaded_le_offset : load.loaded ≤ load.offset
  loaded_le_length :
    load.loaded ≤ (selectedRows c (some load.since) s.table).length
  old_cached : ∀ row ∈ s.table.rows, row.createdAt ≤ load.since →
    Cached s.cache row
  fetched_cached :
    ∀ row ∈ (selectedRows c (some load.since) s.table).take load.loaded,
      Cached s.cache row
  short_length : load.loaded < load.offset →
    (selectedRows c (some load.since) s.table).length ≤ load.offset
  short_ahead : load.loaded < load.offset →
    ∀ row ∈ (selectedRows c (some load.since) s.table).drop load.loaded,
      newerThan s.cache.lastSyncedAt row = true
  quiet_complete : load.quiet = true → load.loaded < load.offset →
    (selectedRows c (some load.since) s.table).drop load.loaded = []

/-- Every committed row is cached or still ahead of the cursor. -/
def SyncInvariant (c : Collation) (s : SyncState) : Prop :=
  (∃ w, s.cache.lastSyncedAt = some w) ∧
    match s.load with
    | none => ∀ row ∈ s.table.rows,
        Cached s.cache row ∨ newerThan s.cache.lastSyncedAt row = true
    | some load => LoadInvariant c s load

/-- A new row the load selects and that sorts after the rows it has fetched
goes in front of the cursor. -/
theorem selectedRows_insert {table table' : AccountMap} {row : AccountMapRow}
    (hInsert : table.insert? row = some table') {since : Timestamp}
    (hNew : since < row.createdAt) {n : Nat}
    (hn : n ≤ (selectedRows c (some since) table).length)
    (hFront : ∀ fetched ∈ (selectedRows c (some since) table).take n,
      ¬ rowLe c row fetched) :
    (selectedRows c (some since) table').take n =
        (selectedRows c (some since) table).take n ∧
      (selectedRows c (some since) table').drop n =
        ((selectedRows c (some since) table).drop n).orderedInsert
          (rowLe c) row := by
  have hRows := (AccountMap.rows_insert? hInsert).1
  have hSelected : selectedRows c (some since) table' =
      (selectedRows c (some since) table).orderedInsert (rowLe c) row := by
    have hKeep : newerThan (some since) row = true := newerThan_some.mpr hNew
    rw [selectedRows, hRows, List.filter_cons_of_pos hKeep]
    rfl
  have hSplit : selectedRows c (some since) table' =
      (selectedRows c (some since) table).take n ++
        ((selectedRows c (some since) table).drop n).orderedInsert
          (rowLe c) row := by
    rw [hSelected, ← orderedInsert_append_of_forall_not hFront,
      List.take_append_drop]
  have hLen : ((selectedRows c (some since) table).take n).length = n :=
    List.length_take_of_le hn
  rw [hSplit]
  exact ⟨List.take_left' hLen, List.drop_left' hLen⟩

/-! ### What one event can do -/

theorem syncStep_commit {s s' : SyncState} {row : AccountMapRow}
    (h : syncStep c s (.commit row) = some s') :
    ∃ table, s.table.insert? row = some table ∧
      s' = ⟨table, s.cache, s.load.map ActiveLoad.disturbed⟩ := by
  rw [syncStep, Option.map_eq_some_iff] at h
  obtain ⟨table, hInsert, rfl⟩ := h
  exact ⟨table, hInsert, rfl⟩

theorem syncStep_begin {s s' : SyncState} {batchSize : Nat}
    (h : syncStep c s (.begin batchSize) = some s') :
    0 < batchSize ∧ s.load = none ∧
      (s.cache.lastSyncedAt = none ∧ s' = s ∨
        ∃ since, s.cache.lastSyncedAt = some since ∧
          s' = ⟨s.table, s.cache, some ⟨since, batchSize, 0, 0, true⟩⟩) := by
  rw [syncStep] at h
  split_ifs at h with hIdle
  refine ⟨hIdle.1, hIdle.2, ?_⟩
  cases hLast : s.cache.lastSyncedAt with
  | none =>
      rw [hLast] at h
      exact Or.inl ⟨rfl, (Option.some.inj h).symm⟩
  | some since =>
      rw [hLast] at h
      exact Or.inr ⟨since, rfl, (Option.some.inj h).symm⟩

/-- The rows the next batch query of a load returns. -/
def nextBatch (c : Collation) (s : SyncState) (load : ActiveLoad) :
    List AccountMapRow :=
  page load.batchSize load.offset (selectedRows c (some load.since) s.table)

theorem syncStep_query {s s' : SyncState} {load : ActiveLoad}
    (hLoad : s.load = some load) (h : syncStep c s .query = some s') :
    nextBatch c s load = [] ∧ s' = ⟨s.table, s.cache, none⟩ ∨
      nextBatch c s load ≠ [] ∧
        s' = ⟨s.table,
          s.cache.addRecords ((nextBatch c s load).map AccountMapRow.record),
          some { load with
            offset := load.offset + load.batchSize,
            loaded := load.loaded + (nextBatch c s load).length }⟩ := by
  have hBatch : getMappingsBatch c s.table load.batchSize load.offset
      (some load.since) = (nextBatch c s load).map AccountMapRow.record := rfl
  simp only [syncStep, hLoad, hBatch, Pager.turn, List.map_eq_nil_iff] at h
  by_cases hNil : nextBatch c s load = []
  · rw [if_pos hNil] at h
    exact Or.inl ⟨hNil, (Option.some.inj h).symm⟩
  · rw [if_neg hNil, List.length_map] at h
    exact Or.inr ⟨hNil, (Option.some.inj h).symm⟩

/-! ### The invariant -/

theorem SyncInvariant.start {s : SyncState} (h : (syncCursor c).start s) :
    SyncInvariant c s := by
  obtain ⟨hRows, hLoad, batchSize, fails, prior, p, hBatch, hSnapshot, hCache⟩ := h
  obtain ⟨hAcc, -⟩ := loadPiiMappingSnapshot_returned hBatch hSnapshot
  rw [hAcc] at hCache
  refine ⟨?_, ?_⟩
  · rcases lastSyncedAt_snapshotCache c s.table with ⟨hNil, -⟩ | ⟨w, hw, -⟩
    · exact absurd hNil hRows
    · exact ⟨w, hCache ▸ hw⟩
  · rw [hLoad, hCache]
    exact fun row hRow => Or.inl (cached_snapshotCache hRow)

/-- A safe commit puts the new row in front of the cursor. -/
theorem LoadInvariant.commit {s : SyncState} {load : ActiveLoad}
    (hInv : LoadInvariant c s load) (hLoad : s.load = some load)
    {row : AccountMapRow} (hSafe : CommitSafe c s row) {table : AccountMap}
    (hInsert : s.table.insert? row = some table) :
    LoadInvariant c ⟨table, s.cache, some load.disturbed⟩ load.disturbed := by
  rw [CommitSafe, hLoad] at hSafe
  obtain ⟨hNew, hFront, hShort⟩ := hSafe
  obtain ⟨hTake, hDrop⟩ :=
    selectedRows_insert hInsert hNew hInv.loaded_le_length hFront
  -- the load selects one row more, behind those it has fetched
  have hLength : (selectedRows c (some load.since) table).length =
      (selectedRows c (some load.since) s.table).length + 1 := by
    have h₁ := congrArg List.length (List.take_append_drop load.loaded
      (selectedRows c (some load.since) table))
    have h₂ := congrArg List.length (List.take_append_drop load.loaded
      (selectedRows c (some load.since) s.table))
    rw [hTake, hDrop, List.length_append, List.orderedInsert_length] at h₁
    rw [List.length_append] at h₂
    omega
  have hLe := hInv.loaded_le_length
  refine ⟨hInv.batchSize_pos, hInv.loaded_le_offset, ?_, ?_, ?_, ?_, ?_, ?_⟩
  · change load.loaded ≤ (selectedRows c (some load.since) table).length
    omega
  · intro r hr hOld
    rw [(AccountMap.rows_insert? hInsert).1] at hr
    rcases List.mem_cons.mp hr with rfl | hr
    · exact absurd hOld (not_le.mpr hNew)
    · exact hInv.old_cached r hr hOld
  · intro r hr
    change r ∈ (selectedRows c (some load.since) table).take load.loaded at hr
    rw [hTake] at hr
    exact hInv.fetched_cached r hr
  · intro hOver
    have := (hShort hOver).2
    change (selectedRows c (some load.since) table).length ≤ load.offset
    omega
  · intro hOver r hr
    change r ∈ (selectedRows c (some load.since) table).drop load.loaded at hr
    rw [hDrop, List.mem_orderedInsert] at hr
    rcases hr with rfl | hr
    · exact (hShort hOver).1
    · exact hInv.short_ahead hOver r hr
  · intro hQuiet
    cases hQuiet

theorem SyncInvariant.commit {s s' : SyncState} (hInv : SyncInvariant c s)
    {row : AccountMapRow} (hSafe : CommitSafe c s row)
    (hStep : syncStep c s (.commit row) = some s') : SyncInvariant c s' := by
  obtain ⟨table, hInsert, rfl⟩ := syncStep_commit hStep
  refine ⟨hInv.1, ?_⟩
  have hBody := hInv.2
  cases hLoad : s.load with
  | none =>
      rw [hLoad] at hBody
      rw [CommitSafe, hLoad] at hSafe
      intro r hr
      rw [(AccountMap.rows_insert? hInsert).1] at hr
      rcases List.mem_cons.mp hr with rfl | hr
      · exact Or.inr hSafe
      · exact hBody r hr
  | some load =>
      rw [hLoad] at hBody
      exact hBody.commit hLoad hSafe hInsert

/-- A load begins with every row either cached or selected. -/
theorem SyncInvariant.begin {s s' : SyncState} (hInv : SyncInvariant c s)
    {batchSize : Nat} (hStep : syncStep c s (.begin batchSize) = some s') :
    SyncInvariant c s' := by
  obtain ⟨hPos, hIdle, ⟨-, rfl⟩ | ⟨since, hLast, rfl⟩⟩ := syncStep_begin hStep
  · exact hInv
  · have hBody := hInv.2
    rw [hIdle] at hBody
    refine ⟨hInv.1, hPos, le_refl 0, Nat.zero_le _, ?_, ?_, ?_, ?_, ?_⟩
    · intro row hRow hOld
      rcases hBody row hRow with hCached | hNew
      · exact hCached
      · rw [hLast, newerThan_some] at hNew
        exact absurd hOld (not_le.mpr hNew)
    · intro row hRow
      simp at hRow
    · intro hOver
      exact absurd hOver (lt_irrefl 0)
    · intro hOver
      exact absurd hOver (lt_irrefl 0)
    · intro _ hOver
      exact absurd hOver (lt_irrefl 0)

/-- A batch extends the fetched prefix; a short one reaches its end. -/
theorem LoadInvariant.query {s : SyncState} {load : ActiveLoad}
    (hInv : LoadInvariant c s load) (hNe : nextBatch c s load ≠ []) :
    LoadInvariant c
      ⟨s.table,
        s.cache.addRecords ((nextBatch c s load).map AccountMapRow.record),
        some { load with
          offset := load.offset + load.batchSize,
          loaded := load.loaded + (nextBatch c s load).length }⟩
      { load with
        offset := load.offset + load.batchSize,
        loaded := load.loaded + (nextBatch c s load).length } := by
  set rows := selectedRows c (some load.since) s.table with hRows
  set batch := nextBatch c s load with hBatch
  have hBatchLen : batch.length = min load.batchSize (rows.length - load.offset) :=
    length_page _ _ _
  have hBatchPos : 0 < batch.length := List.length_pos_of_ne_nil hNe
  -- behind a short batch there are no rows left to return
  have hEven : load.loaded = load.offset := by
    by_contra hOver
    have hLength := hInv.short_length (lt_of_le_of_ne hInv.loaded_le_offset hOver)
    change rows.length ≤ load.offset at hLength
    omega
  have hTake : rows.take (load.loaded + batch.length) =
      rows.take load.loaded ++ batch := by
    rw [hEven]
    exact (take_append_page load.batchSize load.offset rows).symm
  have hBatchMem : ∀ row ∈ batch, row ∈ rows := fun row hRow =>
    List.mem_of_mem_drop (List.mem_of_mem_take hRow)
  have hBatchTable : ∀ row ∈ batch, row ∈ s.table.rows := fun row hRow =>
    (mem_selectedRows.mp (hBatchMem row hRow)).1
  have hBatchNodup : (batch.map AccountMapRow.customerId).Nodup :=
    (selectedRows_nodup c (some load.since) s.table).sublist
      (((List.take_sublist _ _).trans (List.drop_sublist _ _)).map _)
  have hEnd : batch.length < load.batchSize →
      rows.drop (load.loaded + batch.length) = [] := by
    intro hShort
    exact List.drop_of_length_le (by omega)
  refine ⟨hInv.batchSize_pos, ?_, ?_, ?_, ?_, ?_, ?_, ?_⟩
  · change load.loaded + batch.length ≤ load.offset + load.batchSize
    omega
  · change load.loaded + batch.length ≤ rows.length
    omega
  · intro row hRow hOld
    exact (hInv.old_cached row hRow hOld).addRecords hRow hBatchTable hBatchNodup
  · intro row hRow
    change row ∈ rows.take (load.loaded + batch.length) at hRow
    rw [hTake, List.mem_append] at hRow
    rcases hRow with hRow | hRow
    · have hTable := (mem_selectedRows.mp (List.mem_of_mem_take hRow)).1
      exact (hInv.fetched_cached row hRow).addRecords hTable hBatchTable hBatchNodup
    · exact tokenToValue_addRecords_record _ hBatchNodup hRow
  · intro hOver
    change load.loaded + batch.length < load.offset + load.batchSize at hOver
    change rows.length ≤ load.offset + load.batchSize
    omega
  · intro hOver row hRow
    change row ∈ rows.drop (load.loaded + batch.length) at hRow
    change load.loaded + batch.length < load.offset + load.batchSize at hOver
    rw [hEnd (by omega)] at hRow
    cases hRow
  · intro _ hOver
    change load.loaded + batch.length < load.offset + load.batchSize at hOver
    exact hEnd (by omega)

/-- A load that has nothing left to fetch leaves every row cached or ahead of
the watermark. -/
theorem LoadInvariant.complete {s : SyncState} {load : ActiveLoad}
    (hInv : LoadInvariant c s load) (hNil : nextBatch c s load = [])
    {row : AccountMapRow} (hRow : row ∈ s.table.rows) :
    Cached s.cache row ∨
      load.loaded < load.offset ∧
        row ∈ (selectedRows c (some load.since) s.table).drop load.loaded := by
  by_cases hOld : row.createdAt ≤ load.since
  · exact Or.inl (hInv.old_cached row hRow hOld)
  · have hSelected : row ∈ selectedRows c (some load.since) s.table :=
      mem_selectedRows.mpr ⟨hRow, newerThan_some.mpr (not_le.mp hOld)⟩
    rw [← List.take_append_drop load.loaded
      (selectedRows c (some load.since) s.table), List.mem_append] at hSelected
    rcases hSelected with hFetched | hAhead
    · exact Or.inl (hInv.fetched_cached row hFetched)
    · by_cases hOver : load.loaded < load.offset
      · exact Or.inr ⟨hOver, hAhead⟩
      · -- the offset counts the fetched rows, so an empty batch leaves none
        have hEven : load.loaded = load.offset := by
          have := hInv.loaded_le_offset
          omega
        have hPos := hInv.batchSize_pos
        have hLen := congrArg List.length hNil
        have hSome := List.length_pos_of_mem hAhead
        rw [nextBatch, page, List.length_take, List.length_nil, ← hEven] at hLen
        omega

theorem SyncInvariant.query {s s' : SyncState} (hInv : SyncInvariant c s)
    (hStep : syncStep c s .query = some s') : SyncInvariant c s' := by
  have hBody := hInv.2
  cases hLoad : s.load with
  | none =>
      rw [syncStep, hLoad] at hStep
      cases hStep
  | some load =>
      rw [hLoad] at hBody
      rcases syncStep_query hLoad hStep with ⟨hNil, rfl⟩ | ⟨hNe, rfl⟩
      · refine ⟨hInv.1, fun row hRow => ?_⟩
        rcases hBody.complete hNil hRow with hCached | ⟨hOver, hAhead⟩
        · exact Or.inl hCached
        · exact Or.inr (hBody.short_ahead hOver row hAhead)
      · obtain ⟨w₀, hw₀⟩ := hInv.1
        obtain ⟨w, hw, -⟩ := AccountMapInMemory.le_lastSyncedAt_addRecords s.cache
          ((nextBatch c s load).map AccountMapRow.record) hw₀
        exact ⟨⟨w, hw⟩, hBody.query hNe⟩

/-- In a run of safe commits every committed row is cached or ahead. -/
theorem syncInvariant_of_reachable {s : SyncState}
    (hReach : (syncCursor c).ReachableUnder (CommitsSafe c) s) :
    SyncInvariant c s := by
  refine hReach.invariant (fun _ => SyncInvariant.start) ?_
  intro s e s' hInv hGuard hStep
  cases e with
  | commit row => exact hInv.commit hGuard hStep
  | begin batchSize => exact hInv.begin hStep
  | query => exact hInv.query hStep

end Invariant

/-- One row, loaded at time 10. -/
def lateRowStart : SyncState where
  table := ⟨[⟨"a", "u1", 10⟩], by decide⟩
  cache := snapshotCache .codePoint ⟨[⟨"a", "u1", 10⟩], by decide⟩
  load := none

theorem lateRowStart_start : (syncCursor .codePoint).start lateRowStart :=
  ⟨by decide, rfl, 1, fun _ => false, .new,
    ⟨lateRowStart.cache, 1, 1⟩, by decide, rfl, rfl⟩

/-- Every committed row is strictly newer than all rows of the table. -/
def CommitsNewest (s : SyncState) : SyncEvent → Prop
  | .commit row => ∀ r ∈ s.table.rows, r.createdAt < row.createdAt
  | .begin _ => True
  | .query => True

instance (s : SyncState) (e : SyncEvent) : Decidable (CommitsNewest s e) := by
  cases e <;> unfold CommitsNewest <;> infer_instance

/-- Strictly increasing `created_at` is not enough: after a short batch the
offset is ahead of the rows fetched, and rows committed before the closing
query fall behind it. -/
theorem quietLoad_skips_row_behind_short_batch :
    ¬ QuietLoadComplete .codePoint CommitsNewest := by
  intro hComplete
  have hRun : (syncCursor .codePoint).runUnder CommitsNewest lateRowStart
      [.commit ⟨"b", "u2", 20⟩, .begin 2, .query, .commit ⟨"c", "u3", 30⟩,
        .commit ⟨"d", "u4", 40⟩, .query, .query, .begin 2] =
        some ⟨⟨[⟨"d", "u4", 40⟩, ⟨"c", "u3", 30⟩, ⟨"b", "u2", 20⟩,
            ⟨"a", "u1", 10⟩], by decide⟩,
          (lateRowStart.cache.addRecord ⟨"b", "u2", some 20⟩).addRecord
            ⟨"d", "u4", some 40⟩,
          some ⟨40, 2, 0, 0, true⟩⟩ := rfl
  have hReach := (TransitionSystem.ReachableUnder.start lateRowStart_start).run hRun
  have hCached := hComplete _ _ _ hReach rfl rfl rfl rfl ⟨"c", "u3", 30⟩ (by decide)
  revert hCached
  decide

end PiiCache
end DataApi
