import DataApi.Library.TransitionSystem
import DataApi.PiiCache.FailedLoad

/-!
# Start-up and the sync loop

The application fills the cache with a snapshot before it serves requests,
retrying a failed snapshot a bounded number of times, and then runs one
incremental load per iteration of the sync loop, which swallows the exception
of a failed one.

Rows are inserted between the loads, each strictly newer than the table.  The
cache then equals the table after every successful iteration, provided the
snapshot found a row: over an empty table it leaves the watermark unset, every
later incremental load returns at once, and nothing runs a second snapshot
(`exact_after_sync_iff`).
-/

namespace DataApi
namespace PiiCache

open Library

/-- The PII fields of `Settings` that the loads read, with their bounds. -/
structure PiiSettings where
  piiMappingSnapshotBatchSize : Nat := 500
  piiSyncInitMaxRetries : Nat := 3
  batchSize_pos : 0 < piiMappingSnapshotBatchSize := by decide
  maxRetries_pos : 1 ≤ piiSyncInitMaxRetries := by decide

/-- How the initialization ends: with the cache it leaves, or with the
`RuntimeError` after the last attempt. -/
inductive InitEnd where
  | ready (loaded cached : Nat) (cache : AccountMapInMemory)
  | failed (maxRetries : Nat) (cache : AccountMapInMemory)
  | unfinished (cache : AccountMapInMemory)

/-- The attempts of the initialization from number `attempt` on; `fails` says
which batch queries of which attempt raise. -/
def initAttempts (c : Collation) (settings : PiiSettings) (table : AccountMap)
    (fails : Nat → Nat → Bool) :
    (remaining attempt : Nat) → AccountMapInMemory → InitEnd
  | 0, _, cache => .failed settings.piiSyncInitMaxRetries cache
  | remaining + 1, attempt, cache =>
      match loadPiiMappingSnapshot c table settings.piiMappingSnapshotBatchSize
          (fails attempt) cache with
      | .returned p => .ready p.loaded p.acc.size p.acc
      | .raised p =>
          initAttempts c settings table fails remaining (attempt + 1) p.acc
      | .unfinished p => .unfinished p.acc

/-- `initialize_account_map_in_memory`. -/
def initializeAccountMapInMemory (c : Collation) (settings : PiiSettings)
    (table : AccountMap) (fails : Nat → Nat → Bool)
    (cache : AccountMapInMemory) : InitEnd :=
  initAttempts c settings table fails settings.piiSyncInitMaxRetries 1 cache

/-- The database table and the cache of the process. -/
structure AppState where
  table : AccountMap
  cache : AccountMapInMemory

/-- A row inserted by another process, or one iteration of the sync loop with
the queries of it that raise. -/
inductive AppEvent where
  | insert (row : AccountMapRow)
  | syncIteration (fails : Nat → Bool)

/-- Each row was committed strictly later than the rows behind it. -/
def Chronological (table : AccountMap) : Prop :=
  table.rows.Pairwise fun newer older => older.createdAt < newer.createdAt

/-- One event.  The handler of the loop keeps whatever a failed load has
already put into the cache. -/
def appStep (c : Collation) (settings : PiiSettings) (s : AppState) :
    AppEvent → Option AppState
  | .insert row =>
      if ∀ r ∈ s.table.rows, r.createdAt < row.createdAt then
        (s.table.insert? row).map fun table => { s with table }
      else none
  | .syncIteration fails =>
      match loadPiiMappingIncremental c s.table
          settings.piiMappingSnapshotBatchSize fails s.cache with
      | .returned p => some { s with cache := p.acc }
      | .raised p => some { s with cache := p.acc }
      | .unfinished _ => none

/-- The application on an initial table: a successful initialization of a new
cache, then insertions and sync iterations in any order. -/
def application (c : Collation) (settings : PiiSettings) (initial : AccountMap) :
    TransitionSystem AppState AppEvent where
  start s :=
    s.table = initial ∧ ∃ fails loaded cached,
      initializeAccountMapInMemory c settings initial fails .new =
        .ready loaded cached s.cache
  step := appStep c settings

section Initialization

variable {c : Collation} {settings : PiiSettings} {table : AccountMap}

/-- Whatever the earlier attempts left behind, a successful initialization
leaves the cache of one complete snapshot. -/
theorem initAttempts_ready {fails : Nat → Nat → Bool} {remaining attempt : Nat}
    {cache final : AccountMapInMemory} {loaded cached : Nat}
    (h : initAttempts c settings table fails remaining attempt cache =
      .ready loaded cached final) :
    final = snapshotCache c table ∧ loaded = table.rows.length ∧
      cached = final.size := by
  induction remaining generalizing attempt cache with
  | zero => cases h
  | succ remaining ih =>
      rw [initAttempts] at h
      split at h
      · rename_i p hLoad
        cases h
        obtain ⟨hAcc, hLoaded⟩ :=
          loadPiiMappingSnapshot_returned settings.batchSize_pos hLoad
        exact ⟨hAcc, hLoaded, rfl⟩
      · exact ih h
      · cases h

/-- The initialization does not hang, and it succeeds if some attempt meets no
failing query. -/
theorem initAttempts_ends {fails : Nat → Nat → Bool} {remaining attempt : Nat}
    (cache : AccountMapInMemory) :
    (∃ loaded cached final, initAttempts c settings table fails remaining
        attempt cache = .ready loaded cached final) ∨
      (∃ final, initAttempts c settings table fails remaining attempt cache =
        .failed settings.piiSyncInitMaxRetries final) ∧
      ∀ i < remaining, ∃ k, fails (attempt + i) k = true := by
  induction remaining generalizing attempt cache with
  | zero => exact Or.inr ⟨⟨cache, rfl⟩, fun i hi => absurd hi (Nat.not_lt_zero i)⟩
  | succ remaining ih =>
      rw [initAttempts]
      rcases loadBatches_ends c table settings.batchSize_pos none (fails attempt)
        cache.clear with ⟨offset, hRet⟩ | ⟨k, loaded, hFail, hRaise⟩
      · left
        rw [loadPiiMappingSnapshot, hRet]
        exact ⟨_, _, _, rfl⟩
      · rw [loadPiiMappingSnapshot, hRaise]
        rcases @ih (attempt + 1) (cacheAfter c table
          settings.piiMappingSnapshotBatchSize none cache.clear k) with
          hReady | ⟨hFailed, hAll⟩
        · exact Or.inl hReady
        · refine Or.inr ⟨hFailed, fun i hi => ?_⟩
          cases i with
          | zero => exact ⟨k, hFail⟩
          | succ i =>
              have hi' := hAll i (by omega)
              rwa [Nat.add_assoc, Nat.add_comm 1 i] at hi'

/-- An attempt fails: one of the queries that it comes to raises, the last of them being
the one for the empty batch. -/
def AttemptFails (settings : PiiSettings) (table : AccountMap) (fails : Nat → Bool) :
    Prop :=
  ∃ k ≤ batchCount settings.piiMappingSnapshotBatchSize table.rows.length, fails k = true

/-- The load of an attempt raises exactly if the attempt fails, whatever is in the
cache. -/
theorem loadPiiMappingSnapshot_raised_iff {fails : Nat → Bool}
    {cache : AccountMapInMemory} :
    (∃ p, loadPiiMappingSnapshot c table settings.piiMappingSnapshotBatchSize fails
      cache = .raised p) ↔ AttemptFails settings table fails := by
  have hCount := length_selectedRecords_none c table
  have hTurns : (selectedRecords c none table).length < table.rows.length + 1 := by
    omega
  rw [loadPiiMappingSnapshot, loadBatches, batchQuery_eq_pageQuery, AttemptFails]
  rcases loop_ends AccountMapInMemory.addRecord settings.batchSize_pos
    (selectedRecords c none table) cache.clear fails hTurns with
    ⟨hRet, hNone⟩ | ⟨k, hk, hFail, hRaise⟩
  · rw [hRet]
    refine iff_of_false ?_ ?_
    · rintro ⟨p, h⟩
      cases h
    · rintro ⟨k, hk, hFail⟩
      rw [← hCount] at hk
      rw [hNone k hk] at hFail
      cases hFail
  · rw [hRaise]
    rw [hCount] at hk
    exact iff_of_true ⟨_, rfl⟩ ⟨k, hk, hFail⟩

/-- The attempts are given up exactly if each of them fails. -/
theorem initAttempts_failed_iff {fails : Nat → Nat → Bool} {remaining attempt : Nat}
    {cache : AccountMapInMemory} :
    (∃ final, initAttempts c settings table fails remaining attempt cache =
      .failed settings.piiSyncInitMaxRetries final) ↔
      ∀ i < remaining, AttemptFails settings table (fails (attempt + i)) := by
  induction remaining generalizing attempt cache with
  | zero => exact iff_of_true ⟨cache, rfl⟩ fun i hi => absurd hi (Nat.not_lt_zero i)
  | succ remaining ih =>
      have hRaised : (∃ p, loadPiiMappingSnapshot c table
          settings.piiMappingSnapshotBatchSize (fails attempt) cache = .raised p) ↔
          AttemptFails settings table (fails attempt) := loadPiiMappingSnapshot_raised_iff
      rw [initAttempts, Nat.forall_lt_succ_left]
      cases hLoad : loadPiiMappingSnapshot c table settings.piiMappingSnapshotBatchSize
          (fails attempt) cache with
      | returned p =>
          rw [hLoad] at hRaised
          refine iff_of_false ?_ fun h => ?_
          · rintro ⟨final, h⟩
            cases h
          · obtain ⟨p', hp'⟩ := hRaised.mpr h.1
            cases hp'
      | raised p =>
          rw [hLoad] at hRaised
          simp only [ih, Nat.add_right_comm attempt 1, Nat.add_assoc]
          exact (and_iff_right (hRaised.mp ⟨p, rfl⟩)).symm
      | unfinished p =>
          exact absurd hLoad (loadBatches_ne_unfinished settings.batchSize_pos _ _ _ p)

/-- Without failures the application starts, with the cache of one snapshot. -/
theorem application_start (c : Collation) (settings : PiiSettings)
    (initial : AccountMap) :
    (application c settings initial).start ⟨initial, snapshotCache c initial⟩ := by
  refine ⟨rfl, fun _ _ => false, ?_⟩
  rcases @initAttempts_ends c settings initial (fun _ _ => false)
    settings.piiSyncInitMaxRetries 1 .new with
    ⟨loaded, cached, final, hReady⟩ | ⟨-, hAll⟩
  · refine ⟨loaded, cached, ?_⟩
    rw [initializeAccountMapInMemory, hReady, (initAttempts_ready hReady).1]
  · obtain ⟨k, hk⟩ := hAll 0 settings.maxRetries_pos
    cases hk

/-- A cache that is the table has as many entries as the table has rows. -/
theorem size_of_exact {cache : AccountMapInMemory} (hExact : Exact cache table) :
    cache.size = table.rows.length := by
  have hPerm : cache.tokenToValue.keys.Perm
      (table.rows.map AccountMapRow.customerId) := by
    refine (List.perm_ext_iff_of_nodup cache.tokenToValue.nodup table.primaryKey).mpr ?_
    intro token
    refine (cache.tokenToValue.mem_keys_iff token).trans ?_
    simp only [hExact token, table.uuidOf_eq_some_iff, List.mem_map]
    constructor
    · rintro ⟨uuid, row, hRow, hId, -⟩
      exact ⟨row, hRow, hId⟩
    · rintro ⟨row, hRow, hId⟩
      exact ⟨row.uuid, row, hRow, hId, rfl⟩
  have hLength := hPerm.length_eq
  rwa [Dict.keys, List.length_map, List.length_map] at hLength

/-- The watermark of a snapshot is the largest `created_at`, if there is one. -/
theorem lastSyncedAt_eq_max? (c : Collation) (table : AccountMap) :
    (snapshotCache c table).lastSyncedAt =
      (table.rows.map AccountMapRow.createdAt).max? := by
  rcases lastSyncedAt_snapshotCache c table with ⟨hNil, hLast⟩ | ⟨w, hLast, hTop, hLe⟩
  · rw [hLast, hNil]
    rfl
  · rw [hLast, eq_comm, List.max?_eq_some_iff]
    obtain ⟨row, hRow, hw⟩ := hTop
    refine ⟨List.mem_map.mpr ⟨row, hRow, hw⟩, fun createdAt hMem => ?_⟩
    obtain ⟨row', hRow', rfl⟩ := List.mem_map.mp hMem
    exact hLe row' hRow'

/-- Each of the attempts from 1 to `max_retries` fails. -/
def EachAttemptFails (settings : PiiSettings) (table : AccountMap)
    (fails : Nat → Nat → Bool) : Prop :=
  ∀ attempt, 1 ≤ attempt → attempt ≤ settings.piiSyncInitMaxRetries →
    AttemptFails settings table (fails attempt)

/-- What the initialization comes to: the table, or an error after attempts that all
failed. -/
structure InitOutcome (settings : PiiSettings) (table : AccountMap)
    (fails : Nat → Nat → Bool) (outcome : InitEnd) : Prop where
  /-- It ends. -/
  ends : ∀ cache, outcome ≠ .unfinished cache
  /-- It raises exactly if each attempt fails. -/
  failed_iff : (∃ cache, outcome = .failed settings.piiSyncInitMaxRetries cache) ↔
    EachAttemptFails settings table fails
  /-- Otherwise the cache is the table, and both counts are its size. -/
  ready : ¬ EachAttemptFails settings table fails →
    ∃ cache, outcome = .ready table.rows.length table.rows.length cache ∧
      Exact cache table ∧
      cache.lastSyncedAt = (table.rows.map AccountMapRow.createdAt).max?

/-- Whatever the cache held before and whichever queries raise, the initialization
leaves exactly the table, or gives up after attempts that all failed. -/
theorem initializeAccountMapInMemory_outcome (c : Collation) (settings : PiiSettings)
    (table : AccountMap) (fails : Nat → Nat → Bool) (cache : AccountMapInMemory) :
    InitOutcome settings table fails
      (initializeAccountMapInMemory c settings table fails cache) := by
  have hIff : (∃ final, initAttempts c settings table fails
      settings.piiSyncInitMaxRetries 1 cache =
        .failed settings.piiSyncInitMaxRetries final) ↔
      EachAttemptFails settings table fails := by
    refine initAttempts_failed_iff.trans ⟨fun h attempt hFirst hLast => ?_, fun h i hi => ?_⟩
    · have hFails := h (attempt - 1) (by omega)
      rwa [Nat.add_sub_cancel' hFirst] at hFails
    · exact h (1 + i) (by omega) (by omega)
  rcases @initAttempts_ends c settings table fails settings.piiSyncInitMaxRetries 1 cache with
    ⟨loaded, cached, final, hReady⟩ | ⟨⟨final, hFailed⟩, -⟩
  · obtain ⟨rfl, rfl, rfl⟩ := initAttempts_ready hReady
    rw [size_of_exact exact_snapshotCache] at hReady
    refine ⟨fun cache => ?_, hIff, fun _ => ⟨_, hReady, exact_snapshotCache,
      lastSyncedAt_eq_max? c table⟩⟩
    rw [initializeAccountMapInMemory, hReady]
    intro h
    cases h
  · refine ⟨fun cache => ?_, hIff, fun hNot => absurd (hIff.mp ⟨final, hFailed⟩) hNot⟩
    rw [initializeAccountMapInMemory, hFailed]
    intro h
    cases h

end Initialization

section Chronological

variable {c : Collation} {table table' : AccountMap}

theorem Chronological.insert {row : AccountMapRow} (hChron : Chronological table)
    (hNew : ∀ r ∈ table.rows, r.createdAt < row.createdAt)
    (hInsert : table.insert? row = some table') : Chronological table' := by
  rw [Chronological, (AccountMap.rows_insert? hInsert).1]
  exact List.pairwise_cons.mpr ⟨hNew, hChron⟩

/-- In a chronological table `created_at` identifies the row. -/
theorem Chronological.row_unique (hChron : Chronological table)
    {a b : AccountMapRow} (ha : a ∈ table.rows) (hb : b ∈ table.rows)
    (hEq : a.createdAt = b.createdAt) : a = b := by
  have hNodup : (table.rows.map AccountMapRow.createdAt).Nodup :=
    List.pairwise_map.mpr (hChron.imp fun h => h.ne')
  exact List.inj_on_of_nodup_map hNodup ha hb hEq

/-- No batch boundary separates equal timestamps. -/
theorem Chronological.not_tieAcross (hChron : Chronological table)
    (since : Option Timestamp) (n : Nat) :
    ¬ TieAcross (selectedRows c since table) n := by
  rintro ⟨a, ha, b, hb, hEq⟩
  have hMem := fun {r} (h : r ∈ selectedRows c since table) =>
    (mem_selectedRows.mp h).1
  obtain rfl := hChron.row_unique (hMem (List.mem_of_mem_take ha))
    (hMem (List.mem_of_mem_drop hb)) hEq
  have hNodup := (selectedRows_nodup c since table).of_map
  rw [← List.take_append_drop n (selectedRows c since table)] at hNodup
  exact List.disjoint_of_nodup_append hNodup ha hb

end Chronological

section Invariant

variable {c : Collation} {settings : PiiSettings} {initial table : AccountMap}
variable {s s' : AppState} {fails : Nat → Bool}

/-- Every row is cached, or is newer than the watermark `w`. -/
structure Tracked (cache : AccountMapInMemory) (table : AccountMap)
    (w : Timestamp) : Prop where
  lastSyncedAt : cache.lastSyncedAt = some w
  attained : ∃ row ∈ table.rows, row.createdAt = w
  cached_or_newer : ∀ row ∈ table.rows, Cached cache row ∨ w < row.createdAt

/-- With a watermark the cache is tracked; without one both the cache and the
initial table are empty. -/
structure AppInvariant (initial : AccountMap) (s : AppState) : Prop where
  chronological : Chronological s.table
  fromTable : FromTable s.cache s.table
  watermark : initial.rows = [] ∧ s.cache = .new ∨
    initial.rows ≠ [] ∧ ∃ w, Tracked s.cache s.table w

theorem tracked_snapshotCache (hNe : table.rows ≠ []) :
    ∃ w, Tracked (snapshotCache c table) table w := by
  rcases lastSyncedAt_snapshotCache c table with ⟨hNil, -⟩ | ⟨w, hw, hTop, -⟩
  · exact absurd hNil hNe
  · exact ⟨w, hw, hTop, fun row hRow => Or.inl (cached_snapshotCache hRow)⟩

theorem AppInvariant.start (hChron : Chronological initial)
    (hStart : (application c settings initial).start s) :
    AppInvariant initial s := by
  obtain ⟨hTable, fails, loaded, cached, hReady⟩ := hStart
  obtain ⟨hCache, -, -⟩ := initAttempts_ready hReady
  refine ⟨hTable ▸ hChron, ?_, ?_⟩
  · rw [hCache, hTable]
    exact fromTable_snapshotCache
  · rw [hCache, hTable]
    by_cases hNil : initial.rows = []
    · left
      refine ⟨hNil, ?_⟩
      rw [snapshotCache, selectedRecords, selectedRows, hNil]
      rfl
    · exact Or.inr ⟨hNil, tracked_snapshotCache hNil⟩

theorem FromTable.insert {cache : AccountMapInMemory} {table' : AccountMap}
    {row : AccountMapRow} (hFrom : FromTable cache table)
    (hInsert : table.insert? row = some table') : FromTable cache table' := by
  intro token value hGet
  obtain ⟨r, hr, hRecord⟩ :=
    (table.uuidOf_eq_some_iff token value).mp (hFrom token value hGet)
  refine (table'.uuidOf_eq_some_iff token value).mpr ⟨r, ?_, hRecord⟩
  rw [(AccountMap.rows_insert? hInsert).1]
  exact List.mem_cons_of_mem row hr

/-- A row newer than the table is newer than the watermark. -/
theorem Tracked.insert {cache : AccountMapInMemory} {table' : AccountMap}
    {row : AccountMapRow} {w : Timestamp} (hTracked : Tracked cache table w)
    (hNew : ∀ r ∈ table.rows, r.createdAt < row.createdAt)
    (hInsert : table.insert? row = some table') : Tracked cache table' w := by
  have hRows := (AccountMap.rows_insert? hInsert).1
  obtain ⟨top, hTop, hw⟩ := hTracked.attained
  refine ⟨hTracked.lastSyncedAt, ⟨top, ?_, hw⟩, fun r hr => ?_⟩
  · rw [hRows]
    exact List.mem_cons_of_mem row hTop
  · rw [hRows, List.mem_cons] at hr
    rcases hr with rfl | hr
    · exact Or.inr (hw ▸ hNew top hTop)
    · exact hTracked.cached_or_newer r hr

/-- The first `n` selected rows, whole batches or not, keep the cache tracked:
the boundary separates no ties. -/
theorem Tracked.addRecords_take {cache : AccountMapInMemory} {w : Timestamp}
    (hChron : Chronological table) (hTracked : Tracked cache table w) (n : Nat) :
    ∃ w', Tracked (cache.addRecords
        (((selectedRows c (some w) table).take n).map AccountMapRow.record))
        table w' ∧
      selectedRows c (some w') table =
        (selectedRows c (some w) table).drop n := by
  set rows := selectedRows c (some w) table with hRows
  have hTable : ∀ r ∈ rows.take n, r ∈ table.rows := fun r hr =>
    (mem_selectedRows.mp (List.mem_of_mem_take hr)).1
  have hNodup : ((rows.take n).map AccountMapRow.customerId).Nodup :=
    (selectedRows_nodup c (some w) table).sublist ((List.take_sublist n rows).map _)
  obtain ⟨w', hw', hDrop⟩ := selectedRows_after_take hTracked.lastSyncedAt n
    (hChron.not_tieAcross (c := c) (some w) n)
  obtain ⟨w'', hw'', -, -, hAttained⟩ :=
    watermark_addRecords hTracked.lastSyncedAt (rows.take n)
  obtain rfl : w'' = w' := Option.some.inj (hw''.symm.trans hw')
  refine ⟨w'', ⟨hw', ?_, fun row hRow => ?_⟩, hDrop⟩
  · rcases hAttained with rfl | ⟨row, hRow, hCreated⟩
    · exact hTracked.attained
    · exact ⟨row, hTable row hRow, hCreated⟩
  · rcases hTracked.cached_or_newer row hRow with hCached | hNewer
    · exact Or.inl (hCached.addRecords hRow hTable hNodup)
    · have hSelected : row ∈ rows :=
        mem_selectedRows.mpr ⟨hRow, newerThan_some.mpr hNewer⟩
      rw [← List.take_append_drop n rows, List.mem_append] at hSelected
      rcases hSelected with hFetched | hAhead
      · exact Or.inl (tokenToValue_addRecords_record cache hNodup hFetched)
      · rw [← hDrop] at hAhead
        exact Or.inr (newerThan_some.mp (mem_selectedRows.mp hAhead).2)

/-- Whether it returns or raises, an incremental load behind a watermark has
added the first rows of its selection, and all of them if it returns. -/
theorem loadPiiMappingIncremental_take {cache : AccountMapInMemory}
    {w : Timestamp} (hLast : cache.lastSyncedAt = some w)
    {p : Pager AccountMapInMemory} :
    (loadPiiMappingIncremental c table settings.piiMappingSnapshotBatchSize fails
        cache = .returned p →
      p.acc = cache.addRecords (((selectedRows c (some w) table).take
        (selectedRows c (some w) table).length).map AccountMapRow.record)) ∧
    (loadPiiMappingIncremental c table settings.piiMappingSnapshotBatchSize fails
        cache = .raised p →
      ∃ n, p.acc = cache.addRecords
        (((selectedRows c (some w) table).take n).map AccountMapRow.record)) := by
  rw [loadPiiMappingIncremental_eq hLast]
  constructor
  · intro hRet
    rw [(loadBatches_returned settings.batchSize_pos hRet).1, selectedRecords,
      List.take_length]
  · intro hRaise
    obtain ⟨k, -, hAcc⟩ := loadBatches_raised settings.batchSize_pos hRaise
    exact ⟨k * settings.piiMappingSnapshotBatchSize, by
      rw [hAcc, cacheAfter, selectedRecords, List.map_take]⟩

theorem AppInvariant.addRecords_take (hInv : AppInvariant initial s)
    {w : Timestamp} (hNe : initial.rows ≠ []) (hTracked : Tracked s.cache s.table w)
    (n : Nat) :
    AppInvariant initial ⟨s.table, s.cache.addRecords
      (((selectedRows c (some w) s.table).take n).map AccountMapRow.record)⟩ := by
  obtain ⟨w', hTracked', -⟩ := hTracked.addRecords_take hInv.chronological n
  refine ⟨hInv.chronological, ?_, Or.inr ⟨hNe, w', hTracked'⟩⟩
  exact hInv.fromTable.addRecords fun r hr =>
    (mem_selectedRows.mp (List.mem_of_mem_take hr)).1

theorem AppInvariant.step {e : AppEvent} (hInv : AppInvariant initial s)
    (hStep : appStep c settings s e = some s') : AppInvariant initial s' := by
  cases e with
  | insert row =>
      rw [appStep] at hStep
      split_ifs at hStep with hNew
      obtain ⟨table', hInsert, rfl⟩ := Option.map_eq_some_iff.mp hStep
      refine ⟨hInv.chronological.insert hNew hInsert,
        hInv.fromTable.insert hInsert, ?_⟩
      rcases hInv.watermark with hEmpty | ⟨hNe, w, hTracked⟩
      · exact Or.inl hEmpty
      · exact Or.inr ⟨hNe, w, hTracked.insert hNew hInsert⟩
  | syncIteration fails =>
      rcases hInv.watermark with ⟨hNil, hNew⟩ | ⟨hNe, w, hTracked⟩
      · rw [appStep, hNew] at hStep
        cases hStep
        exact ⟨hInv.chronological, FromTable.new _, Or.inl ⟨hNil, rfl⟩⟩
      · have hTake := fun p => @loadPiiMappingIncremental_take c settings s.table
          fails s.cache w hTracked.lastSyncedAt p
        rw [appStep] at hStep
        split at hStep
        · rename_i p hRet
          cases hStep
          rw [(hTake p).1 hRet]
          exact hInv.addRecords_take hNe hTracked _
        · rename_i p hRaise
          cases hStep
          obtain ⟨n, hAcc⟩ := (hTake p).2 hRaise
          rw [hAcc]
          exact hInv.addRecords_take hNe hTracked n
        · cases hStep

theorem appInvariant_of_reachable (hChron : Chronological initial)
    (hReach : (application c settings initial).Reachable s) :
    AppInvariant initial s :=
  hReach.invariant (fun _ hStart => AppInvariant.start hChron hStart)
    fun _ _ _ hInv hStep => hInv.step hStep

end Invariant

/-- After a successful iteration of the sync loop `token_to_value` is the
table exactly when the table had a row at start-up, or has none still. -/
theorem exact_after_sync_iff {c : Collation} {settings : PiiSettings}
    {initial : AccountMap} (hChron : Chronological initial) {s : AppState}
    (hReach : (application c settings initial).Reachable s)
    {fails : Nat → Bool} {p : Pager AccountMapInMemory}
    (hSync : loadPiiMappingIncremental c s.table
      settings.piiMappingSnapshotBatchSize fails s.cache = .returned p) :
    Exact p.acc s.table ↔ initial.rows ≠ [] ∨ s.table.rows = [] := by
  have hInv := appInvariant_of_reachable hChron hReach
  rcases hInv.watermark with ⟨hNil, hNew⟩ | ⟨hNe, w, hTracked⟩
  · have hAcc : p.acc = .new := by
      rw [hNew] at hSync
      cases hSync
      rfl
    rw [hAcc]
    constructor
    · intro hExact
      right
      refine List.eq_nil_iff_forall_not_mem.mpr fun row hRow => ?_
      cases cached_of_exact hExact hRow
    · rintro (hNe | hEmpty)
      · exact absurd hNil hNe
      · refine exact_of_cached (FromTable.new _) fun row hRow => ?_
        rw [hEmpty] at hRow
        cases hRow
  · have hAcc := (loadPiiMappingIncremental_take hTracked.lastSyncedAt).1 hSync
    obtain ⟨w', hTracked', hDrop⟩ := hTracked.addRecords_take (c := c)
      hInv.chronological (selectedRows c (some w) s.table).length
    rw [List.drop_length] at hDrop
    rw [← hAcc] at hTracked'
    refine iff_of_true (exact_of_cached ?_ fun row hRow => ?_) (Or.inl hNe)
    · rw [hAcc]
      exact hInv.fromTable.addRecords fun r hr =>
        (mem_selectedRows.mp (List.mem_of_mem_take hr)).1
    · rcases hTracked'.cached_or_newer row hRow with hCached | hNewer
      · exact hCached
      · have hSelected : row ∈ selectedRows c (some w') s.table :=
          mem_selectedRows.mpr ⟨hRow, newerThan_some.mpr hNewer⟩
        rw [hDrop] at hSelected
        cases hSelected

/-- The table of one row. -/
def oneRow : AccountMap := ⟨[⟨"a", "u1", 100⟩], by decide⟩

/-- The table of `oneRow` and one later row. -/
def twoRows : AccountMap := ⟨[⟨"b", "u2", 200⟩, ⟨"a", "u1", 100⟩], by decide⟩

/-- A row inserted after a start-up over one row is there after one iteration. -/
theorem exact_after_sync_twoRows :
    Exact ((snapshotCache .codePoint oneRow).addRecord ⟨"b", "u2", some 200⟩)
      twoRows := by
  have hChron : Chronological oneRow := List.pairwise_singleton _ _
  have hReach : (application .codePoint {} oneRow).Reachable
      ⟨twoRows, snapshotCache .codePoint oneRow⟩ :=
    .step (e := .insert ⟨"b", "u2", 200⟩) (.start (application_start _ _ _))
      trivial rfl
  have hSync : loadPiiMappingIncremental .codePoint twoRows 500 (fun _ => false)
      (snapshotCache .codePoint oneRow) = .returned
        ⟨(snapshotCache .codePoint oneRow).addRecord ⟨"b", "u2", some 200⟩,
          500, 1⟩ := rfl
  exact (exact_after_sync_iff hChron hReach hSync).mpr
    (Or.inl (by decide))

/-- Over an empty initial table the first row inserted never reaches the
cache. -/
theorem sync_after_empty_startup_misses_row :
    ¬ ∀ (initial : AccountMap) (s : AppState) (fails : Nat → Bool)
        (p : Pager AccountMapInMemory), Chronological initial →
      (application .codePoint {} initial).Reachable s →
      loadPiiMappingIncremental .codePoint s.table 500 fails s.cache =
        .returned p →
      Exact p.acc s.table := by
  intro hExact
  have hReach : (application .codePoint {} .empty).Reachable
      ⟨oneRow, snapshotCache .codePoint .empty⟩ :=
    .step (e := .insert ⟨"a", "u1", 100⟩) (.start (application_start _ _ _))
      trivial rfl
  have hGet := hExact .empty _ (fun _ => false) ⟨.new, 0, 0⟩ .nil hReach rfl "a"
  revert hGet
  decide

end PiiCache
end DataApi
