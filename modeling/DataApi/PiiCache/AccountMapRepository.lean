import Mathlib.Data.String.Basic
import DataApi.Library.OffsetPaging
import DataApi.PiiCache.AccountMapInMemory

/-!
# The table `account_map` and its repository

The table is a bag of rows with the primary key `customer_id`; the model keeps
them in the order of their commits, the newest first.  `get_mappings_batch`
selects the rows newer than `since`, orders them by `created_at` and then by
`customer_id`, and applies `LIMIT` and `OFFSET`.

The order of `customer_id` is the collation of the database.  The code fixes
none, so every statement is about an arbitrary one.
-/

namespace DataApi
namespace PiiCache

open Library

/-- A deterministic collation: a total order on strings. -/
structure Collation where
  le : String → String → Bool
  total : ∀ a b, le a b = true ∨ le b a = true
  trans : ∀ a b d, le a b = true → le b d = true → le a d = true
  antisymm : ∀ a b, le a b = true → le b a = true → a = b

/-- The collation that compares code points. -/
def Collation.codePoint : Collation where
  le a b := decide (a ≤ b)
  total a b := by simpa using le_total a b
  trans a b d := by simpa using fun h h' => le_trans h h'
  antisymm a b := by simpa using fun h h' => le_antisymm h h'

/-- `CustomerIdentityPiiMapping`: a row of `account_map`. -/
structure AccountMapRow where
  customerId : String
  uuid : String
  createdAt : Timestamp
  deriving DecidableEq

/-- The record the repository builds from a row. -/
def AccountMapRow.record (row : AccountMapRow) : PiiMappingRecord :=
  ⟨row.customerId, row.uuid, some row.createdAt⟩

/-- The table with its primary key, newest commit first. -/
structure AccountMap where
  rows : List AccountMapRow
  primaryKey : (rows.map AccountMapRow.customerId).Nodup

namespace AccountMap

/-- The table without rows. -/
def empty : AccountMap := ⟨[], List.nodup_nil⟩

/-- Commit a new row; the primary key refuses a `customer_id` that is taken. -/
def insert? (table : AccountMap) (row : AccountMapRow) : Option AccountMap :=
  if h : row.customerId ∈ table.rows.map AccountMapRow.customerId then none
  else some ⟨row :: table.rows, List.nodup_cons.mpr ⟨h, table.primaryKey⟩⟩

/-- The token-to-uuid map of the table. -/
def uuidOf (table : AccountMap) (token : String) : Option String :=
  (table.rows.find? fun row => row.customerId = token).map AccountMapRow.uuid

theorem rows_insert? {table table' : AccountMap} {row : AccountMapRow}
    (h : table.insert? row = some table') :
    table'.rows = row :: table.rows ∧
      ∀ r ∈ table.rows, r.customerId ≠ row.customerId := by
  rw [insert?] at h
  split_ifs at h with hFresh
  cases h
  refine ⟨rfl, fun r hr hEq => hFresh ?_⟩
  exact List.mem_map.mpr ⟨r, hr, hEq⟩

/-- Two rows with one `customer_id` are the same row. -/
theorem row_unique (table : AccountMap) {r r' : AccountMapRow}
    (hr : r ∈ table.rows) (hr' : r' ∈ table.rows)
    (hId : r.customerId = r'.customerId) : r = r' :=
  List.inj_on_of_nodup_map table.primaryKey hr hr' hId

theorem uuidOf_eq_some_iff (table : AccountMap) (token uuid : String) :
    table.uuidOf token = some uuid ↔
      ∃ row ∈ table.rows, row.customerId = token ∧ row.uuid = uuid := by
  rw [uuidOf, Option.map_eq_some_iff]
  constructor
  · rintro ⟨row, hFind, hUuid⟩
    exact ⟨row, List.mem_of_find?_eq_some hFind,
      by simpa using List.find?_some hFind, hUuid⟩
  · rintro ⟨row, hRow, hId, hUuid⟩
    cases hFind : table.rows.find? fun r => r.customerId = token with
    | none =>
        rw [List.find?_eq_none] at hFind
        exact absurd (by simpa using hId) (hFind row hRow)
    | some found =>
        have hFound : found.customerId = token := by
          simpa using List.find?_some hFind
        have hEq : found = row := table.row_unique
          (List.mem_of_find?_eq_some hFind) hRow (hFound.trans hId.symm)
        exact ⟨found, rfl, hEq ▸ hUuid⟩

end AccountMap

/-- `ORDER BY created_at, customer_id`. -/
def rowLe (c : Collation) (a b : AccountMapRow) : Prop :=
  a.createdAt < b.createdAt ∨
    a.createdAt = b.createdAt ∧ c.le a.customerId b.customerId = true

instance (c : Collation) : DecidableRel (rowLe c) := fun a b => by
  unfold rowLe
  infer_instance

instance (c : Collation) : Std.Total (rowLe c) where
  total a b := by
    rcases lt_trichotomy a.createdAt b.createdAt with hLt | hEq | hLt
    · exact Or.inl (Or.inl hLt)
    · rcases c.total a.customerId b.customerId with hLe | hLe
      · exact Or.inl (Or.inr ⟨hEq, hLe⟩)
      · exact Or.inr (Or.inr ⟨hEq.symm, hLe⟩)
    · exact Or.inr (Or.inl hLt)

instance (c : Collation) : IsTrans AccountMapRow (rowLe c) where
  trans a b d := by
    rintro (hab | ⟨hab, hLe⟩) (hBd | ⟨hBd, hLe'⟩)
    · exact Or.inl (hab.trans hBd)
    · exact Or.inl (hBd ▸ hab)
    · exact Or.inl (hab ▸ hBd)
    · exact Or.inr ⟨hab.trans hBd, c.trans _ _ _ hLe hLe'⟩

theorem createdAt_le_of_rowLe {c : Collation} {a b : AccountMapRow}
    (h : rowLe c a b) : a.createdAt ≤ b.createdAt := by
  rcases h with hLt | ⟨hEq, -⟩
  · exact hLt.le
  · exact hEq.le

/-- The rows `WHERE created_at > since`, all of them without a `since`. -/
def newerThan (since : Option Timestamp) (row : AccountMapRow) : Bool :=
  match since with
  | none => true
  | some w => decide (w < row.createdAt)

theorem newerThan_some {w : Timestamp} {row : AccountMapRow} :
    newerThan (some w) row = true ↔ w < row.createdAt := by
  simp [newerThan]

/-- The ordered selection the batches are cut from. -/
def selectedRows (c : Collation) (since : Option Timestamp)
    (table : AccountMap) : List AccountMapRow :=
  (table.rows.filter (newerThan since)).insertionSort (rowLe c)

/-- `get_mappings_batch`. -/
def getMappingsBatch (c : Collation) (table : AccountMap) (limit offset : Nat)
    (since : Option Timestamp) : List PiiMappingRecord :=
  (page limit offset (selectedRows c since table)).map AccountMapRow.record

theorem mem_selectedRows {c : Collation} {since : Option Timestamp}
    {table : AccountMap} {row : AccountMapRow} :
    row ∈ selectedRows c since table ↔
      row ∈ table.rows ∧ newerThan since row = true := by
  simp [selectedRows]

theorem selectedRows_pairwise (c : Collation) (since : Option Timestamp)
    (table : AccountMap) : (selectedRows c since table).Pairwise (rowLe c) :=
  List.pairwise_insertionSort (rowLe c) _

theorem selectedRows_nodup (c : Collation) (since : Option Timestamp)
    (table : AccountMap) :
    ((selectedRows c since table).map AccountMapRow.customerId).Nodup := by
  have hPerm := (List.perm_insertionSort (rowLe c)
    (table.rows.filter (newerThan since))).map AccountMapRow.customerId
  exact hPerm.nodup_iff.mpr
    (table.primaryKey.sublist (List.filter_sublist.map _))

/-- The batches are pages of one list of records. -/
theorem getMappingsBatch_eq_page (c : Collation) (table : AccountMap)
    (limit offset : Nat) (since : Option Timestamp) :
    getMappingsBatch c table limit offset since =
      page limit offset
        ((selectedRows c since table).map AccountMapRow.record) := by
  simp [getMappingsBatch, page, List.map_take, List.map_drop]

/-- Adding selected rows finds every one of them under its own uuid. -/
theorem tokenToValue_addRecords_record (cache : AccountMapInMemory)
    {rows : List AccountMapRow}
    (hNodup : (rows.map AccountMapRow.customerId).Nodup)
    {row : AccountMapRow} (hMem : row ∈ rows) :
    (cache.addRecords (rows.map AccountMapRow.record)).tokenToValue.get?
      row.customerId = some row.uuid := by
  have hTokens : ((rows.map AccountMapRow.record).map
      PiiMappingRecord.token).Nodup := by
    simpa [List.map_map, Function.comp_def, AccountMapRow.record] using hNodup
  exact cache.tokenToValue_addRecords_of_mem hTokens
    (List.mem_map.mpr ⟨row, hMem, rfl⟩)

/-- The order leaves one arrangement of the selected rows. -/
theorem selectedRows_unique {c : Collation} {since : Option Timestamp}
    {table : AccountMap} {rows : List AccountMapRow}
    (hPerm : rows.Perm (table.rows.filter (newerThan since)))
    (hSorted : rows.Pairwise (rowLe c)) : rows = selectedRows c since table := by
  refine (hPerm.trans (List.perm_insertionSort (rowLe c) _).symm).eq_of_pairwise ?_
    hSorted (selectedRows_pairwise c since table)
  intro a b ha hb hab hba
  have hSame : a.createdAt = b.createdAt :=
    le_antisymm (createdAt_le_of_rowLe hab) (createdAt_le_of_rowLe hba)
  have hab' : c.le a.customerId b.customerId = true := by
    rcases hab with hLt | ⟨-, hLe⟩
    · exact absurd hSame hLt.ne
    · exact hLe
  have hba' : c.le b.customerId a.customerId = true := by
    rcases hba with hLt | ⟨-, hLe⟩
    · exact absurd hSame.symm hLt.ne
    · exact hLe
  exact table.row_unique (List.mem_of_mem_filter (hPerm.subset ha))
    (mem_selectedRows.mp hb).1 (c.antisymm _ _ hab' hba')

/-- A later `since` selects, in the same order, the part that is newer. -/
theorem selectedRows_some_eq_filter (c : Collation) (since : Option Timestamp)
    {w : Timestamp} (hSince : ∀ w₀, since = some w₀ → w₀ ≤ w)
    (table : AccountMap) :
    selectedRows c (some w) table =
      (selectedRows c since table).filter (newerThan (some w)) := by
  have hImp : ∀ row, newerThan (some w) row = true →
      newerThan since row = true := by
    intro row hRow
    cases since with
    | none => rfl
    | some w₀ =>
        have hw : w < row.createdAt := by simpa [newerThan] using hRow
        simpa [newerThan] using (hSince w₀ rfl).trans_lt hw
  have hFilter : (table.rows.filter (newerThan since)).filter
      (newerThan (some w)) = table.rows.filter (newerThan (some w)) := by
    rw [List.filter_filter]
    refine List.filter_congr fun row _ => ?_
    cases hw : newerThan (some w) row with
    | false => rfl
    | true => simp [hImp row hw]
  refine (selectedRows_unique ?_ ((selectedRows_pairwise c since table).filter _)).symm
  rw [← hFilter]
  exact (List.perm_insertionSort (rowLe c) _).filter _

end PiiCache
end DataApi
