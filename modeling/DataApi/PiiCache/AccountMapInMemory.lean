import Mathlib.Tactic
import DataApi.Library.Dict

/-!
# The in-memory PII cache

`AccountMapInMemory` holds the two hash maps token to value and value to
token, and the largest `created_at` of the records added so far, the watermark
of the incremental sync.  Records are only ever added one by one; `clear`
forgets everything.
-/

namespace DataApi
namespace PiiCache

open Library

/-- A point in time, as the number of microseconds PostgreSQL stores for it. -/
abbrev Timestamp := Int

/-- `PiiMappingRecord`: one token with the value it stands for. -/
structure PiiMappingRecord where
  token : String
  mappedValue : String
  createdAt : Option Timestamp := none
  deriving DecidableEq

/-- `AccountMapInMemory`. -/
structure AccountMapInMemory where
  tokenToValue : Dict String String
  valueToToken : Dict String String
  lastSyncedAt : Option Timestamp

namespace AccountMapInMemory

/-- `AccountMapInMemory()`: the cache a process starts with. -/
def new : AccountMapInMemory := ⟨.empty, .empty, none⟩

instance : Inhabited AccountMapInMemory := ⟨new⟩

/-- `_update_last_synced_at`: advance the watermark if the value is newer. -/
def updateLastSyncedAt (last : Option Timestamp) (value : Timestamp) :
    Option Timestamp :=
  match last with
  | none => some value
  | some w => if w < value then some value else some w

/-- `add_record`: both maps are overwritten, each on its own key. -/
def addRecord (cache : AccountMapInMemory) (record : PiiMappingRecord) :
    AccountMapInMemory where
  tokenToValue := cache.tokenToValue.set record.token record.mappedValue
  valueToToken := cache.valueToToken.set record.mappedValue record.token
  lastSyncedAt :=
    match record.createdAt with
    | none => cache.lastSyncedAt
    | some createdAt => updateLastSyncedAt cache.lastSyncedAt createdAt

/-- `add_records`. -/
def addRecords (cache : AccountMapInMemory) (records : List PiiMappingRecord) :
    AccountMapInMemory :=
  records.foldl addRecord cache

/-- `clear`. -/
def clear (_ : AccountMapInMemory) : AccountMapInMemory := new

/-- `size`. -/
def size (cache : AccountMapInMemory) : Nat := cache.tokenToValue.size

/-- Two caches with equal contents: both maps compare equal as dictionaries
and the watermarks are the same. -/
structure Same (a b : AccountMapInMemory) : Prop where
  tokenToValue : a.tokenToValue.Agrees b.tokenToValue
  valueToToken : a.valueToToken.Agrees b.valueToToken
  lastSyncedAt : a.lastSyncedAt = b.lastSyncedAt

theorem Same.refl (cache : AccountMapInMemory) : cache.Same cache :=
  ⟨.refl _, .refl _, rfl⟩

@[simp] theorem addRecords_cons (cache : AccountMapInMemory)
    (record : PiiMappingRecord) (records : List PiiMappingRecord) :
    cache.addRecords (record :: records) =
      (cache.addRecord record).addRecords records := rfl

theorem addRecords_append (cache : AccountMapInMemory)
    (first second : List PiiMappingRecord) :
    cache.addRecords (first ++ second) =
      (cache.addRecords first).addRecords second :=
  List.foldl_append

/-! ### What a list of records does to the token map -/

/-- A token none of the records carries keeps its entry. -/
theorem tokenToValue_addRecords_of_forall_ne (cache : AccountMapInMemory)
    {records : List PiiMappingRecord} {token : String}
    (h : ∀ record ∈ records, record.token ≠ token) :
    (cache.addRecords records).tokenToValue.get? token =
      cache.tokenToValue.get? token := by
  induction records generalizing cache with
  | nil => rfl
  | cons record records ih =>
      rw [List.forall_mem_cons] at h
      rw [addRecords_cons, ih (cache.addRecord record) h.2]
      exact Dict.get?_set_of_ne _ _ (Ne.symm h.1)

/-- Records with distinct tokens are all found under their own value. -/
theorem tokenToValue_addRecords_of_mem (cache : AccountMapInMemory)
    {records : List PiiMappingRecord}
    (hNodup : (records.map PiiMappingRecord.token).Nodup)
    {record : PiiMappingRecord} (hMem : record ∈ records) :
    (cache.addRecords records).tokenToValue.get? record.token =
      some record.mappedValue := by
  induction records generalizing cache with
  | nil => cases hMem
  | cons first records ih =>
      rw [List.map_cons, List.nodup_cons] at hNodup
      rw [addRecords_cons]
      rcases List.mem_cons.mp hMem with rfl | hRest
      · have hFresh : ∀ other ∈ records, other.token ≠ record.token := by
          intro other hOther hEq
          exact hNodup.1 (List.mem_map.mpr ⟨other, hOther, hEq⟩)
        rw [tokenToValue_addRecords_of_forall_ne _ hFresh]
        exact Dict.get?_set_self _ _ _
      · exact ih (cache.addRecord first) hNodup.2 hRest

/-- An entry after adding records is either old or comes from a record. -/
theorem tokenToValue_addRecords_cases (cache : AccountMapInMemory)
    {records : List PiiMappingRecord} {token value : String}
    (h : (cache.addRecords records).tokenToValue.get? token = some value) :
    cache.tokenToValue.get? token = some value ∨
      ∃ record ∈ records, record.token = token ∧ record.mappedValue = value := by
  induction records generalizing cache with
  | nil => exact Or.inl h
  | cons first records ih =>
      rw [addRecords_cons] at h
      rcases ih (cache.addRecord first) h with hOld | ⟨record, hMem, hRecord⟩
      · rw [addRecord, Dict.get?_set] at hOld
        split_ifs at hOld with hToken
        · exact Or.inr ⟨first, List.mem_cons_self,
            hToken.symm, Option.some.inj hOld⟩
        · exact Or.inl hOld
      · exact Or.inr ⟨record, List.mem_cons_of_mem _ hMem, hRecord⟩

/-! ### The watermark -/

theorem updateLastSyncedAt_eq_some (last : Option Timestamp) (value : Timestamp) :
    ∃ w, updateLastSyncedAt last value = some w ∧ value ≤ w ∧
      ∀ w₀, last = some w₀ → w₀ ≤ w := by
  cases last with
  | none => exact ⟨value, rfl, le_refl _, by simp⟩
  | some w₀ =>
      by_cases hLt : w₀ < value
      · exact ⟨value, by simp [updateLastSyncedAt, hLt], le_refl _,
          fun _ h => by cases h; exact hLt.le⟩
      · exact ⟨w₀, by simp [updateLastSyncedAt, hLt], not_lt.mp hLt,
          fun _ h => by cases h; exact le_refl _⟩

theorem updateLastSyncedAt_cases {last : Option Timestamp} {value w : Timestamp}
    (h : updateLastSyncedAt last value = some w) :
    last = some w ∨ w = value := by
  cases last with
  | none => exact Or.inr (Option.some.inj h).symm
  | some w₀ =>
      rw [updateLastSyncedAt] at h
      split_ifs at h
      · exact Or.inr (Option.some.inj h).symm
      · exact Or.inl h

/-- The watermark never moves back. -/
theorem le_lastSyncedAt_addRecords (cache : AccountMapInMemory)
    (records : List PiiMappingRecord) {w₀ : Timestamp}
    (h : cache.lastSyncedAt = some w₀) :
    ∃ w, (cache.addRecords records).lastSyncedAt = some w ∧ w₀ ≤ w := by
  induction records generalizing cache w₀ with
  | nil => exact ⟨w₀, h, le_refl _⟩
  | cons first records ih =>
      rw [addRecords_cons]
      cases hCreated : first.createdAt with
      | none =>
          exact ih (cache.addRecord first) (by simp [addRecord, hCreated, h])
      | some createdAt =>
          obtain ⟨w₁, hw₁, -, hLe⟩ :=
            updateLastSyncedAt_eq_some cache.lastSyncedAt createdAt
          have hNext : (cache.addRecord first).lastSyncedAt = some w₁ := by
            simp [addRecord, hCreated, hw₁]
          obtain ⟨w, hw, hLe'⟩ := ih (cache.addRecord first) hNext
          exact ⟨w, hw, (hLe w₀ h).trans hLe'⟩

/-- The watermark is at or past every record added. -/
theorem createdAt_le_lastSyncedAt (cache : AccountMapInMemory)
    {records : List PiiMappingRecord} {record : PiiMappingRecord}
    (hMem : record ∈ records) {createdAt : Timestamp}
    (hCreated : record.createdAt = some createdAt) :
    ∃ w, (cache.addRecords records).lastSyncedAt = some w ∧ createdAt ≤ w := by
  induction records generalizing cache with
  | nil => cases hMem
  | cons first records ih =>
      rw [addRecords_cons]
      rcases List.mem_cons.mp hMem with rfl | hRest
      · obtain ⟨w₁, hw₁, hLe, -⟩ :=
          updateLastSyncedAt_eq_some cache.lastSyncedAt createdAt
        have hNext : (cache.addRecord record).lastSyncedAt = some w₁ := by
          simp [addRecord, hCreated, hw₁]
        obtain ⟨w, hw, hLe'⟩ := le_lastSyncedAt_addRecords _ records hNext
        exact ⟨w, hw, hLe.trans hLe'⟩
      · exact ih (cache.addRecord first) hRest

/-- The watermark is the old one or the `created_at` of a record added. -/
theorem lastSyncedAt_addRecords_cases (cache : AccountMapInMemory)
    {records : List PiiMappingRecord} {w : Timestamp}
    (h : (cache.addRecords records).lastSyncedAt = some w) :
    cache.lastSyncedAt = some w ∨
      ∃ record ∈ records, record.createdAt = some w := by
  induction records generalizing cache with
  | nil => exact Or.inl h
  | cons first records ih =>
      rw [addRecords_cons] at h
      rcases ih (cache.addRecord first) h with hOld | ⟨record, hMem, hRecord⟩
      · cases hCreated : first.createdAt with
        | none =>
            rw [addRecord, hCreated] at hOld
            exact Or.inl hOld
        | some createdAt =>
            rw [addRecord, hCreated] at hOld
            rcases updateLastSyncedAt_cases hOld with hLast | rfl
            · exact Or.inl hLast
            · exact Or.inr ⟨first, List.mem_cons_self, hCreated⟩
      · exact Or.inr ⟨record, List.mem_cons_of_mem _ hMem, hRecord⟩

end AccountMapInMemory

end PiiCache
end DataApi
