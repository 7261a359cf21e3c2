import DataApi.Library.OffsetPaging
import DataApi.Library.TransitionSystem
import DataApi.PiiCache.AccountMapInMemory

/-!
# The two maps of the cache

The cache is filled by snapshot and incremental loads, by `add_record` and
`add_records`, and emptied by `clear`.  A record overwrites both maps, each on
its own key.  When a token comes back with another uuid, the entry of its old
uuid in `value_to_token` stays behind and still names the token.

A record is safe (`RecordSafe`) when it leaves no such entry.  In a run of safe
records `value_to_token` never contradicts `token_to_value`
(`coherent_of_recordsSafe`); one record that is not safe makes it
(`reissued_token_is_stale`).  That every cached value is a key of
`value_to_token` holds in every run (`valuesKnown_of_reachable`).
-/

namespace DataApi
namespace PiiCache

open Library

/-- What the maps promise each other: the token found for a value has this
value, and every value of a token is found. -/
structure Coherent (cache : AccountMapInMemory) : Prop where
  token_has_value : ∀ value token, cache.valueToToken.get? value = some token →
    cache.tokenToValue.get? token = some value
  value_known : ∀ token value, cache.tokenToValue.get? token = some value →
    value ∈ cache.valueToToken.keys

/-- The answers of a repository to the batch queries of one load, by number and
offset; `none` is an exception. -/
abbrev BatchAnswers := Nat → Nat → Option (List PiiMappingRecord)

/-- The calls that change a cache.  A load is taken as far as `turns` turns of
its loop, so that the states between two of its batches are reached as well. -/
inductive CacheCall where
  | snapshot (batchSize turns : Nat) (answers : BatchAnswers)
  | incremental (batchSize turns : Nat) (answers : Timestamp → BatchAnswers)
  | addRecord (record : PiiMappingRecord)
  | addRecords (records : List PiiMappingRecord)
  | clear

/-- The loop of a load, with the answers of an arbitrary repository. -/
def loadFrom (batchSize turns : Nat) (answers : BatchAnswers)
    (cache : AccountMapInMemory) : AccountMapInMemory :=
  (Pager.loop AccountMapInMemory.addRecord batchSize answers turns 0
    ⟨cache, 0, 0⟩).pager.acc

/-- The cache after a call. -/
def cacheAfterCall (cache : AccountMapInMemory) : CacheCall → AccountMapInMemory
  | .snapshot batchSize turns answers => loadFrom batchSize turns answers cache.clear
  | .incremental batchSize turns answers =>
      match cache.lastSyncedAt with
      | none => cache
      | some since => loadFrom batchSize turns (answers since) cache
  | .addRecord record => cache.addRecord record
  | .addRecords records => cache.addRecords records
  | .clear => cache.clear

/-- The runs of calls on the cache a process starts with. -/
def cacheCalls : TransitionSystem AccountMapInMemory CacheCall where
  start cache := cache = .new
  step cache call := some (cacheAfterCall cache call)

/-- A record is safe when its token is not cached under another value whose
entry in `value_to_token` still names the token. -/
def RecordSafe (cache : AccountMapInMemory) (record : PiiMappingRecord) : Prop :=
  ∀ value ∈ cache.tokenToValue.get? record.token, value ≠ record.mappedValue →
    cache.valueToToken.get? value ≠ some record.token

instance (cache : AccountMapInMemory) (record : PiiMappingRecord) :
    Decidable (RecordSafe cache record) := by
  unfold RecordSafe
  infer_instance

/-- Records that are safe one after the other. -/
def AllSafe (cache : AccountMapInMemory) : List PiiMappingRecord → Prop
  | [] => True
  | record :: records =>
      RecordSafe cache record ∧ AllSafe (cache.addRecord record) records

/-- The cache a call starts to add records to, and these records. -/
def addedBy (cache : AccountMapInMemory) :
    CacheCall → AccountMapInMemory × List PiiMappingRecord
  | .snapshot batchSize turns answers =>
      (cache.clear, Pager.fetched batchSize answers turns 0 0)
  | .incremental batchSize turns answers =>
      match cache.lastSyncedAt with
      | none => (cache, [])
      | some since => (cache, Pager.fetched batchSize (answers since) turns 0 0)
  | .addRecord record => (cache, [record])
  | .addRecords records => (cache, records)
  | .clear => (cache.clear, [])

/-- The guard of a run all of whose records are safe. -/
def RecordsSafe (cache : AccountMapInMemory) (call : CacheCall) : Prop :=
  AllSafe (addedBy cache call).1 (addedBy cache call).2

/-- Every call adds its records to the cache or to a cleared one. -/
theorem cacheAfterCall_eq_addRecords (cache : AccountMapInMemory) (call : CacheCall) :
    cacheAfterCall cache call =
      (addedBy cache call).1.addRecords (addedBy cache call).2 := by
  cases call with
  | snapshot batchSize turns answers => exact loop_acc answers turns 0 _
  | incremental batchSize turns answers =>
      simp only [cacheAfterCall, addedBy]
      cases cache.lastSyncedAt with
      | none => rfl
      | some since => exact loop_acc (answers since) turns 0 _
  | addRecord record => rfl
  | addRecords records => rfl
  | clear => rfl

/-- A call starts from the cache or from a new one. -/
theorem addedBy_cases (cache : AccountMapInMemory) (call : CacheCall) :
    (addedBy cache call).1 = cache ∨ (addedBy cache call).1 = .new := by
  cases call with
  | snapshot batchSize turns answers => exact .inr rfl
  | incremental batchSize turns answers =>
      left
      simp only [addedBy]
      cases cache.lastSyncedAt <;> rfl
  | addRecord record => exact .inl rfl
  | addRecords records => exact .inl rfl
  | clear => exact .inr rfl

section OneRecord

variable {cache : AccountMapInMemory} {record : PiiMappingRecord}

theorem tokenToValue_addRecord (token : String) :
    (cache.addRecord record).tokenToValue.get? token =
      if token = record.token then some record.mappedValue
      else cache.tokenToValue.get? token :=
  Dict.get?_set _ _ _ _

theorem valueToToken_addRecord (value : String) :
    (cache.addRecord record).valueToToken.get? value =
      if value = record.mappedValue then some record.token
      else cache.valueToToken.get? value :=
  Dict.get?_set _ _ _ _

/-- Every value of a token is a key of `value_to_token`. -/
def ValuesKnown (cache : AccountMapInMemory) : Prop :=
  ∀ token value, cache.tokenToValue.get? token = some value →
    value ∈ cache.valueToToken.keys

/-- A record never removes a value, so the values of all tokens stay known. -/
theorem ValuesKnown.addRecord (h : ValuesKnown cache) (record : PiiMappingRecord) :
    ValuesKnown (cache.addRecord record) := by
  intro token value hGet
  have hKeys : value ∈ (cache.addRecord record).valueToToken.keys ↔
      value = record.mappedValue ∨ value ∈ cache.valueToToken.keys :=
    mem_keys_setEntry _ _ _ _
  rw [hKeys]
  rw [tokenToValue_addRecord] at hGet
  split at hGet
  · exact .inl (Option.some.inj hGet).symm
  · exact .inr (h token value hGet)

theorem ValuesKnown.addRecords (h : ValuesKnown cache) (records : List PiiMappingRecord) :
    ValuesKnown (cache.addRecords records) := by
  induction records generalizing cache with
  | nil => exact h
  | cons record records ih => exact ih (h.addRecord record)

/-- Exactly the safe records keep coherent maps coherent. -/
theorem coherent_addRecord_iff (hCoherent : Coherent cache) :
    Coherent (cache.addRecord record) ↔ RecordSafe cache record := by
  constructor
  · intro hNext value hValue hNe hStale
    -- the value would still name the token, whose value has changed
    have hEntry : (cache.addRecord record).valueToToken.get? value =
        some record.token := by
      rw [valueToToken_addRecord, if_neg hNe]
      exact hStale
    have hBack := hNext.token_has_value value record.token hEntry
    rw [tokenToValue_addRecord, if_pos rfl] at hBack
    exact hNe (Option.some.inj hBack).symm
  · intro hSafe
    refine ⟨fun value token hGet => ?_, ValuesKnown.addRecord hCoherent.value_known record⟩
    rw [valueToToken_addRecord] at hGet
    rw [tokenToValue_addRecord]
    split at hGet
    · rename_i hValue
      rw [if_pos (Option.some.inj hGet).symm, hValue]
    · rename_i hValue
      have hOld := hCoherent.token_has_value value token hGet
      split
      · rename_i hToken
        -- the token of the record is still named by another value
        subst hToken
        exact absurd hGet (hSafe value hOld hValue)
      · exact hOld

end OneRecord

theorem Coherent.new : Coherent AccountMapInMemory.new :=
  ⟨nofun, nofun⟩

/-- Safe records keep the maps coherent. -/
theorem Coherent.addRecords {cache : AccountMapInMemory} (hCoherent : Coherent cache)
    {records : List PiiMappingRecord} (hSafe : AllSafe cache records) :
    Coherent (cache.addRecords records) := by
  induction records generalizing cache with
  | nil => exact hCoherent
  | cons record records ih =>
      exact ih ((coherent_addRecord_iff hCoherent).mpr hSafe.1) hSafe.2

/-- In every run every value of a token is a key of `value_to_token`. -/
theorem valuesKnown_of_reachable {cache : AccountMapInMemory}
    (h : cacheCalls.Reachable cache) : ValuesKnown cache := by
  refine h.invariant ?_ ?_
  · rintro cache rfl
    exact nofun
  · intro cache call next hInv hStep
    cases hStep
    rw [cacheAfterCall_eq_addRecords]
    refine ValuesKnown.addRecords ?_ _
    rcases addedBy_cases cache call with hSame | hNew
    · rwa [hSame]
    · rw [hNew]
      exact nofun

/-- In a run all of whose records are safe the maps are coherent in every state
reached. -/
theorem coherent_of_recordsSafe (cache : AccountMapInMemory)
    (h : cacheCalls.ReachableUnder RecordsSafe cache) : Coherent cache := by
  refine h.invariant ?_ ?_
  · rintro cache rfl
    exact Coherent.new
  · intro cache call next hCoherent hSafe hStep
    cases hStep
    rw [cacheAfterCall_eq_addRecords]
    refine Coherent.addRecords ?_ hSafe
    rcases addedBy_cases cache call with hSame | hNew
    · rwa [hSame]
    · rw [hNew]
      exact Coherent.new

/-- Two tokens share a uuid, the newer one takes it over, and the older one then
comes back with a uuid of its own. -/
def sharedUuidCache : AccountMapInMemory :=
  ((AccountMapInMemory.new.addRecord ⟨"t1", "u", some 1⟩).addRecord
    ⟨"t2", "u", some 2⟩).addRecord ⟨"t1", "w", some 3⟩

theorem coherent_sharedUuidCache :
    sharedUuidCache.valueToToken.get? "u" = some "t2" ∧ Coherent sharedUuidCache := by
  refine ⟨by decide, coherent_of_recordsSafe _ ?_⟩
  have hFirst : cacheCalls.ReachableUnder RecordsSafe
      (AccountMapInMemory.new.addRecord ⟨"t1", "u", some 1⟩) :=
    .step (.start rfl) (e := .addRecord ⟨"t1", "u", some 1⟩) ⟨nofun, trivial⟩ rfl
  refine .step hFirst (e := .addRecords [⟨"t2", "u", some 2⟩, ⟨"t1", "w", some 3⟩])
    ⟨?_, ?_, trivial⟩ rfl
  · exact of_decide_eq_true rfl
  · exact of_decide_eq_true rfl

/-- A token, and the same token with another uuid. -/
def reissuedRecords : List PiiMappingRecord := [⟨"t", "u1", some 1⟩, ⟨"t", "u2", some 2⟩]

/-- A token that comes back with another uuid is still found under the old
one. -/
theorem reissued_token_is_stale :
    ¬ ∀ cache, cacheCalls.Reachable cache → Coherent cache := by
  intro hAll
  have hReach : cacheCalls.Reachable (AccountMapInMemory.new.addRecords reissuedRecords) :=
    .step (.start rfl) (e := .addRecords reissuedRecords) trivial rfl
  have hBack := (hAll _ hReach).token_has_value "u1" "t" (by decide)
  revert hBack
  decide

end PiiCache
end DataApi
