import DataApi.Library.TransitionSystem
import DataApi.PiiCache.Snapshot

/-!
# A snapshot of a table that changes

Insertions and deletions of other sessions interleave with the batch queries of
one snapshot load.  The offset counts rows of a table that is another one at
every query: an insertion in front of it makes the load fetch a row twice, a
deletion in front of it moves the next row to where the load does not look any
more.

A deletion is safe (`DeleteSafe`) when it does not do that to a row that has
been there all along and is not cached yet.  In a run of safe deletions the load
loses no such row (`keptCached_of_deletesSafe`).
-/

namespace DataApi
namespace PiiCache

open Library

/-- Commit the deletion of a row. -/
def AccountMap.delete (table : AccountMap) (row : AccountMapRow) : AccountMap :=
  ⟨table.rows.filter fun r => r ≠ row,
    table.primaryKey.sublist (List.filter_sublist.map _)⟩

/-- The table, the rows that have been in it since before the load, the local
variables of the load, and whether it has returned. -/
structure SnapshotState where
  table : AccountMap
  kept : List AccountMapRow
  pager : Pager AccountMapInMemory
  returned : Bool

/-- An insertion or deletion of another session, or the next batch query. -/
inductive TableEvent where
  | insert (row : AccountMapRow)
  | delete (row : AccountMapRow)
  | query

/-- One event.  The body of the loop is `Pager.turn`, as in a load that runs
alone; an empty batch ends the load. -/
def snapshotStep (c : Collation) (batchSize : Nat) (s : SnapshotState) :
    TableEvent → Option SnapshotState
  | .insert row => (s.table.insert? row).map fun table => { s with table }
  | .delete row =>
      if row ∈ s.table.rows then
        some { s with
          table := s.table.delete row
          kept := s.kept.filter fun r => r ≠ row }
      else none
  | .query =>
      if s.returned then none
      else
        match s.pager.turn AccountMapInMemory.addRecord batchSize
          (getMappingsBatch c s.table batchSize s.pager.offset none) with
        | none => some { s with returned := true }
        | some pager => some { s with pager }

/-- The runs of one load, which starts by clearing the cache. -/
def changingTable (c : Collation) (batchSize : Nat) :
    TransitionSystem SnapshotState TableEvent where
  start s := s.kept = s.table.rows ∧ s.returned = false ∧
    ∃ prior : AccountMapInMemory, s.pager = ⟨prior.clear, 0, 0⟩
  step := snapshotStep c batchSize

/-- The rows in the order of the queries. -/
def orderedRows (c : Collation) (s : SnapshotState) : List AccountMapRow :=
  selectedRows c none s.table

/-- A row the load may leave out: it is cached, or has not been there all
along. -/
def Settled (s : SnapshotState) (row : AccountMapRow) : Prop :=
  row ∈ s.kept → Cached s.pager.acc row

instance (s : SnapshotState) (row : AccountMapRow) : Decidable (Settled s row) := by
  unfold Settled
  infer_instance

/-- The condition on a deletion, in the state before it: the row is not in front
of the offset, or the row at the offset is settled. -/
def DeleteSafe (c : Collation) (s : SnapshotState) (row : AccountMapRow) : Prop :=
  row ∈ (orderedRows c s).take s.pager.offset →
    ∀ next ∈ ((orderedRows c s).drop s.pager.offset).head?, Settled s next

/-- The guard of a run all of whose deletions during the load are safe. -/
def DeletesSafe (c : Collation) (s : SnapshotState) : TableEvent → Prop
  | .delete row => s.returned = true ∨ DeleteSafe c s row
  | .insert _ => True
  | .query => True

instance (c : Collation) (s : SnapshotState) (e : TableEvent) :
    Decidable (DeletesSafe c s e) := by
  unfold DeletesSafe DeleteSafe
  cases e <;> infer_instance

/-- Every row that was in the table all along is cached when the load returns. -/
def KeptCached (s : SnapshotState) : Prop :=
  s.returned = true → ∀ row ∈ s.kept, Cached s.pager.acc row

/-- The rows in front of the offset are settled. -/
def FrontSettled (c : Collation) (s : SnapshotState) : Prop :=
  ∀ row ∈ (orderedRows c s).take s.pager.offset, Settled s row

/-- What holds in every state of a run whose deletions are safe. -/
structure SnapshotInvariant (c : Collation) (s : SnapshotState) : Prop where
  kept_in_table : ∀ row ∈ s.kept, row ∈ s.table.rows
  front : s.returned = false → FrontSettled c s
  complete : KeptCached s

section Steps

variable {c : Collation} {batchSize : Nat} {s s' : SnapshotState}
  {row : AccountMapRow}

theorem snapshotStep_insert
    (h : snapshotStep c batchSize s (.insert row) = some s') :
    ∃ table, s.table.insert? row = some table ∧ s' = { s with table } := by
  rw [snapshotStep, Option.map_eq_some_iff] at h
  obtain ⟨table, hInsert, rfl⟩ := h
  exact ⟨table, hInsert, rfl⟩

theorem snapshotStep_delete
    (h : snapshotStep c batchSize s (.delete row) = some s') :
    row ∈ s.table.rows ∧ s' = { s with
      table := s.table.delete row
      kept := s.kept.filter fun r => r ≠ row } := by
  rw [snapshotStep] at h
  split at h
  · rename_i hRow
    exact ⟨hRow, (Option.some.inj h).symm⟩
  · cases h

/-- The rows of the next batch. -/
def batchRows (c : Collation) (batchSize : Nat) (s : SnapshotState) :
    List AccountMapRow :=
  page batchSize s.pager.offset (orderedRows c s)

theorem snapshotStep_query (h : snapshotStep c batchSize s .query = some s') :
    s.returned = false ∧
      (batchRows c batchSize s = [] ∧ s' = { s with returned := true } ∨
        s' = { s with pager := ⟨
          s.pager.acc.addRecords ((batchRows c batchSize s).map AccountMapRow.record),
          s.pager.offset + batchSize,
          s.pager.loaded + (batchRows c batchSize s).length⟩ }) := by
  have hBatch : getMappingsBatch c s.table batchSize s.pager.offset none =
      (batchRows c batchSize s).map AccountMapRow.record := rfl
  rw [snapshotStep] at h
  split at h
  · cases h
  · rename_i hReturned
    refine ⟨Bool.eq_false_iff.mpr hReturned, ?_⟩
    rw [hBatch, Pager.turn] at h
    by_cases hNil : batchRows c batchSize s = []
    · rw [hNil, List.map_nil, if_pos rfl] at h
      exact .inl ⟨hNil, (Option.some.inj h).symm⟩
    · rw [if_neg (by simpa using hNil), List.length_map] at h
      exact .inr (Option.some.inj h).symm

/-! ### The order of the rows after an event -/

theorem mem_orderedRows : row ∈ orderedRows c s ↔ row ∈ s.table.rows := by
  simp [orderedRows, mem_selectedRows, newerThan]

theorem nodup_orderedRows (c : Collation) (s : SnapshotState) :
    (orderedRows c s).Nodup :=
  (selectedRows_nodup c none s.table).of_map

theorem selectedRows_none_insert {table table' : AccountMap}
    (h : table.insert? row = some table') :
    selectedRows c none table' =
      (selectedRows c none table).orderedInsert (rowLe c) row := by
  rw [selectedRows, (AccountMap.rows_insert? h).1, List.filter_cons_of_pos rfl]
  rfl

theorem selectedRows_none_delete (table : AccountMap) :
    selectedRows c none (table.delete row) =
      (selectedRows c none table).filter fun r => r ≠ row := by
  refine (selectedRows_unique ?_ ((selectedRows_pairwise c none table).filter _)).symm
  have hAll : ∀ rows : List AccountMapRow, rows.filter (newerThan none) = rows :=
    fun rows => List.filter_eq_self.mpr fun _ _ => rfl
  rw [hAll, AccountMap.delete, selectedRows, hAll]
  exact (List.perm_insertionSort (rowLe c) _).filter _

/-! ### The invariant -/

theorem SnapshotInvariant.start (h : (changingTable c batchSize).start s) :
    SnapshotInvariant c s := by
  obtain ⟨hKept, hReturned, prior, hPager⟩ := h
  refine ⟨fun r hr => hKept ▸ hr, fun _ r hr => ?_, fun hRet => ?_⟩
  · rw [hPager, List.take_zero] at hr
    cases hr
  · rw [hReturned] at hRet
    cases hRet

/-- A new row is not one that was there all along. -/
theorem SnapshotInvariant.insert (hInv : SnapshotInvariant c s)
    (h : snapshotStep c batchSize s (.insert row) = some s') :
    SnapshotInvariant c s' := by
  obtain ⟨table, hInsert, rfl⟩ := snapshotStep_insert h
  obtain ⟨hRows, hFresh⟩ := AccountMap.rows_insert? hInsert
  refine ⟨fun r hr => ?_, fun hRet r hr hKept => ?_, hInv.complete⟩
  · rw [hRows]
    exact List.mem_cons_of_mem _ (hInv.kept_in_table r hr)
  · rw [orderedRows, selectedRows_none_insert hInsert] at hr
    rcases mem_take_orderedInsert hr with rfl | hFront
    · -- the new row was not kept
      exact absurd rfl (hFresh r (hInv.kept_in_table r hKept))
    · exact hInv.front hRet r hFront hKept

/-- Exactly the safe deletions keep the rows in front of the offset settled. -/
theorem frontSettled_delete_iff (hFront : FrontSettled c s)
    (h : snapshotStep c batchSize s (.delete row) = some s') :
    FrontSettled c s' ↔ DeleteSafe c s row := by
  obtain ⟨-, rfl⟩ := snapshotStep_delete h
  have hTake := take_filter_ne (nodup_orderedRows c s) row s.pager.offset
  have hSettled : ∀ r, r ≠ row → (Settled { s with
      table := s.table.delete row
      kept := s.kept.filter fun r => r ≠ row } r ↔ Settled s r) := by
    intro r hNe
    simp [Settled, List.mem_filter, hNe]
  rw [FrontSettled, orderedRows, selectedRows_none_delete]
  change (∀ r ∈ ((orderedRows c s).filter fun r => r ≠ row).take s.pager.offset, _) ↔ _
  rw [hTake]
  constructor
  · -- the row at the offset moves in front of it
    intro hAll hMem next hNext
    have hNe : next ≠ row := by
      rintro rfl
      have hDrop := List.mem_of_mem_head? hNext
      have hDisjoint := List.disjoint_take_drop (nodup_orderedRows c s)
        (le_refl s.pager.offset)
      exact hDisjoint hMem hDrop
    refine (hSettled next hNe).mp (hAll next (List.mem_append_right _ ?_))
    rw [if_pos hMem, Option.mem_toList]
    exact hNext
  · intro hSafe r hr
    rcases List.mem_append.mp hr with hOld | hNext
    · obtain ⟨hMem, hNe⟩ := List.mem_filter.mp hOld
      exact (hSettled r (by simpa using hNe)).mpr (hFront r hMem)
    · split at hNext
      · rename_i hMem
        rw [Option.mem_toList] at hNext
        intro hKept
        have hNe : r ≠ row := by simpa using (List.mem_filter.mp hKept).2
        exact (hSettled r hNe).mpr (hSafe hMem r hNext) hKept
      · cases hNext

theorem SnapshotInvariant.delete (hInv : SnapshotInvariant c s)
    (hSafe : s.returned = true ∨ DeleteSafe c s row)
    (h : snapshotStep c batchSize s (.delete row) = some s') :
    SnapshotInvariant c s' := by
  have hs' := (snapshotStep_delete h).2
  refine ⟨fun r hr => ?_, fun hRet => ?_, fun hRet r hr => ?_⟩
  · rw [hs'] at hr ⊢
    obtain ⟨hKept, hNe⟩ := List.mem_filter.mp hr
    exact List.mem_filter.mpr ⟨hInv.kept_in_table r hKept, hNe⟩
  · have hRunning : s.returned = false := by rwa [hs'] at hRet
    refine (frontSettled_delete_iff (hInv.front hRunning) h).mpr ?_
    rcases hSafe with hDone | hSafe
    · rw [hRunning] at hDone
      cases hDone
    · exact hSafe
  · rw [hs'] at hRet hr ⊢
    exact hInv.complete hRet r (List.mem_filter.mp hr).1

/-- A batch settles the rows it has fetched; an empty batch comes only behind
all rows. -/
theorem SnapshotInvariant.query (hInv : SnapshotInvariant c s) (hBatch : 0 < batchSize)
    (h : snapshotStep c batchSize s .query = some s') : SnapshotInvariant c s' := by
  obtain ⟨hRunning, ⟨hNil, rfl⟩ | rfl⟩ := snapshotStep_query h
  · refine ⟨hInv.kept_in_table, nofun, fun _ r hr => ?_⟩
    -- the batch is empty only when the offset is behind all rows
    have hLength : (orderedRows c s).length ≤ s.pager.offset := by
      have hLen := congrArg List.length hNil
      rw [batchRows, length_page, List.length_nil] at hLen
      omega
    refine hInv.front hRunning r ?_ hr
    rw [List.take_of_length_le hLength]
    exact mem_orderedRows.mpr (hInv.kept_in_table r hr)
  · have hSub : ∀ r ∈ batchRows c batchSize s, r ∈ s.table.rows := fun r hr =>
      mem_orderedRows.mp (List.mem_of_mem_drop (List.mem_of_mem_take hr))
    have hNodup : ((batchRows c batchSize s).map AccountMapRow.customerId).Nodup :=
      (selectedRows_nodup c none s.table).sublist
        (((List.take_sublist _ _).trans (List.drop_sublist _ _)).map _)
    refine ⟨hInv.kept_in_table, fun _ r hr hKept => ?_, fun hRet => ?_⟩
    · change r ∈ (orderedRows c s).take (s.pager.offset + batchSize) at hr
      rw [List.take_add] at hr
      rcases List.mem_append.mp hr with hFront | hPage
      · exact (hInv.front hRunning r hFront hKept).addRecords
          (hInv.kept_in_table r hKept) hSub hNodup
      · exact tokenToValue_addRecords_record _ hNodup hPage
    · rw [hRunning] at hRet
      cases hRet

end Steps

/-- In a run whose deletions during the load are all safe, every row that was in
the table from before the load until it returned is cached with its uuid. -/
theorem keptCached_of_deletesSafe (c : Collation) (batchSize : Nat)
    (hBatch : 0 < batchSize) (s : SnapshotState)
    (h : (changingTable c batchSize).ReachableUnder (DeletesSafe c) s) :
    KeptCached s := by
  have hInv : SnapshotInvariant c s := by
    refine h.invariant (fun s hStart => SnapshotInvariant.start hStart) ?_
    intro s e s' hInv hGuard hStep
    change snapshotStep c batchSize s e = some s' at hStep
    cases e with
    | insert row => exact hInv.insert hStep
    | delete row => exact hInv.delete hGuard hStep
    | query => exact hInv.query hBatch hStep
  exact hInv.complete

/-- A load of three rows that has just started. -/
def threeRowsStart : SnapshotState where
  table := ⟨[⟨"c", "u3", 3⟩, ⟨"b", "u2", 2⟩, ⟨"a", "u1", 1⟩], by decide⟩
  kept := [⟨"c", "u3", 3⟩, ⟨"b", "u2", 2⟩, ⟨"a", "u1", 1⟩]
  pager := ⟨.new, 0, 0⟩
  returned := false

theorem threeRowsStart_start (c : Collation) (batchSize : Nat) :
    (changingTable c batchSize).start threeRowsStart :=
  ⟨rfl, rfl, .new, rfl⟩

/-- Behind the first row another one is inserted in front of it, and the last
one is deleted: the two rows that stay are cached. -/
theorem keptCached_threeRows :
    Cached (AccountMapInMemory.new.addRecords [⟨"a", "u1", some 1⟩,
      ⟨"a", "u1", some 1⟩, ⟨"b", "u2", some 2⟩]) ⟨"b", "u2", 2⟩ ∧
    Cached (AccountMapInMemory.new.addRecords [⟨"a", "u1", some 1⟩,
      ⟨"a", "u1", some 1⟩, ⟨"b", "u2", some 2⟩]) ⟨"a", "u1", 1⟩ := by
  have hRun : (changingTable .codePoint 1).runUnder (DeletesSafe .codePoint)
      threeRowsStart [.query, .insert ⟨"z", "u0", 0⟩, .delete ⟨"c", "u3", 3⟩, .query,
        .query, .query] =
        some ⟨⟨[⟨"z", "u0", 0⟩, ⟨"b", "u2", 2⟩, ⟨"a", "u1", 1⟩], by decide⟩,
          [⟨"b", "u2", 2⟩, ⟨"a", "u1", 1⟩],
          ⟨AccountMapInMemory.new.addRecords [⟨"a", "u1", some 1⟩,
            ⟨"a", "u1", some 1⟩, ⟨"b", "u2", some 2⟩], 3, 3⟩, true⟩ := rfl
  have hKept := keptCached_of_deletesSafe .codePoint 1 (by decide) _
    ((TransitionSystem.ReachableUnder.start (threeRowsStart_start _ _)).run hRun) rfl
  exact ⟨hKept _ List.mem_cons_self, hKept _ (List.mem_cons_of_mem _ List.mem_cons_self)⟩

/-- Once the first row is deleted behind the cursor, the load looks past the
second one. -/
theorem snapshot_skips_moved_row :
    ¬ ∀ s, (changingTable .codePoint 1).Reachable s → KeptCached s := by
  intro hAll
  have hRun : (changingTable .codePoint 1).runUnder (fun _ _ => True) threeRowsStart
      [.query, .delete ⟨"a", "u1", 1⟩, .query, .query] =
        some ⟨⟨[⟨"c", "u3", 3⟩, ⟨"b", "u2", 2⟩], by decide⟩,
          [⟨"c", "u3", 3⟩, ⟨"b", "u2", 2⟩],
          ⟨AccountMapInMemory.new.addRecords [⟨"a", "u1", some 1⟩,
            ⟨"c", "u3", some 3⟩], 2, 2⟩, true⟩ := rfl
  have hReach := (TransitionSystem.ReachableUnder.start (threeRowsStart_start _ _)).run hRun
  have hCached := hAll _ hReach rfl ⟨"b", "u2", 2⟩ (by decide)
  revert hCached
  decide

end PiiCache
end DataApi
