import DataApi.Library.Batches
import DataApi.PiiCache.AccountMapRepository

/-!
# Looking up many tokens

`get_many` sorts the tokens, cuts them into batches and sends one statement
`WHERE customer_id IN (...)` for each batch.  The statements are separate: the table can
be another one at each of them, and any of them can raise.

Each token is in one statement.  The call therefore answers, for every token it is given,
with the row the table held when that statement ran, and for no other token
(`getMany_spec`).
-/

namespace DataApi
namespace PiiCache

open Library

namespace AccountMap

/-- The record of a token's row. -/
def recordOf (table : AccountMap) (token : String) : Option PiiMappingRecord :=
  (table.rows.find? fun row => row.customerId = token).map AccountMapRow.record

/-- The record carries the uuid of the token. -/
theorem map_mappedValue_recordOf (table : AccountMap) (token : String) :
    (table.recordOf token).map PiiMappingRecord.mappedValue = table.uuidOf token := by
  rw [recordOf, uuidOf, Option.map_map]
  rfl

theorem recordOf_of_mem (table : AccountMap) {row : AccountMapRow}
    (hRow : row ∈ table.rows) : table.recordOf row.customerId = some row.record := by
  rw [recordOf, Option.map_eq_some_iff]
  cases hFind : table.rows.find? fun r => r.customerId = row.customerId with
  | none => simpa using List.find?_eq_none.mp hFind row hRow
  | some found =>
      have hSame : found.customerId = row.customerId := by
        simpa using List.find?_some hFind
      obtain rfl := table.row_unique (List.mem_of_find?_eq_some hFind) hRow hSame
      exact ⟨found, rfl, rfl⟩

theorem recordOf_of_notMem (table : AccountMap) {token : String}
    (h : ∀ row ∈ table.rows, row.customerId ≠ token) : table.recordOf token = none := by
  rw [recordOf, Option.map_eq_none_iff, List.find?_eq_none]
  simpa using h

end AccountMap

/-- `SQLAlchemyAccountMapRepository`, with the batch size that its constructor has
checked. -/
structure SQLAlchemyAccountMapRepository where
  queryBatchSize : Nat
  queryBatchSize_pos : 0 < queryBatchSize

/-- `__init__`. -/
def SQLAlchemyAccountMapRepository.init (queryBatchSize : Int) :
    Except String SQLAlchemyAccountMapRepository :=
  if h : queryBatchSize ≤ 0 then .error "query_batch_size must be greater than zero"
  else .ok ⟨queryBatchSize.toNat, by omega⟩

/-- What a call of `get_many` leaves behind: the batches it has sent a statement for, and
the mappings it returns, `none` if a statement raised. -/
structure GetManyRun where
  sent : List (List String)
  mappings : Option (Dict String PiiMappingRecord)

/-- `for row in result.mappings(): mappings[token] = PiiMappingRecord(...)`. -/
def addMappings (mappings : Dict String PiiMappingRecord) (rows : List AccountMapRow) :
    Dict String PiiMappingRecord :=
  rows.foldl (fun mappings row => mappings.set row.customerId row.record) mappings

/-- The loop over the batches from statement number `n` on; `execute` is the session. -/
def getManyFrom (execute : Nat → List String → Option (List AccountMapRow)) :
    Nat → List (List String) → Dict String PiiMappingRecord → GetManyRun
  | _, [], mappings => ⟨[], some mappings⟩
  | n, batch :: later, mappings =>
      match execute n batch with
      | none => ⟨[batch], none⟩
      | some rows =>
          let run := getManyFrom execute (n + 1) later (addMappings mappings rows)
          ⟨batch :: run.sent, run.mappings⟩

/-- `get_many`. -/
def SQLAlchemyAccountMapRepository.getMany (repository : SQLAlchemyAccountMapRepository)
    (execute : Nat → List String → Option (List AccountMapRow)) (tokens : Finset String) :
    GetManyRun :=
  if tokens = ∅ then ⟨[], some .empty⟩
  else getManyFrom execute 0 (batches repository.queryBatchSize (ascending tokens)) .empty

/-- The session of a call: `tables n` is the table when statement number `n` runs, and
the statement raises or returns the rows of its tokens in some order. -/
structure Answers (tables : Nat → AccountMap) (fails : Nat → Bool)
    (execute : Nat → List String → Option (List AccountMapRow)) : Prop where
  raises : ∀ n batch, fails n = true → execute n batch = none
  returns : ∀ n batch, fails n = false → ∃ rows, execute n batch = some rows ∧
    rows.Perm ((tables n).rows.filter fun row => row.customerId ∈ batch)

section Loop

variable {tables : Nat → AccountMap} {fails : Nat → Bool}
  {execute : Nat → List String → Option (List AccountMapRow)}

/-- The rows of a batch give each of its tokens the record of the table, if there is
one. -/
theorem get?_addMappings {table : AccountMap} {batch : List String}
    {rows : List AccountMapRow}
    (hRows : rows.Perm (table.rows.filter fun row => row.customerId ∈ batch))
    (mappings : Dict String PiiMappingRecord) (token : String) :
    (addMappings mappings rows).get? token =
      if token ∈ batch then (table.recordOf token).or (mappings.get? token)
      else mappings.get? token := by
  have hMem : ∀ row, row ∈ rows ↔ row ∈ table.rows ∧ row.customerId ∈ batch := by
    intro row
    rw [hRows.mem_iff, List.mem_filter, decide_eq_true_eq]
  by_cases hRow : ∃ row ∈ rows, row.customerId = token
  · obtain ⟨row, hRow, rfl⟩ := hRow
    obtain ⟨hTable, hBatch⟩ := (hMem row).mp hRow
    rw [if_pos hBatch, table.recordOf_of_mem hTable, Option.some_or]
    refine Dict.get?_foldl_set_of_mem AccountMapRow.customerId AccountMapRow.record _
      ⟨row, hRow, rfl⟩ fun other hOther hSame => ?_
    rw [table.row_unique ((hMem other).mp hOther).1 hTable hSame]
  · push Not at hRow
    have hOld : (addMappings mappings rows).get? token = mappings.get? token :=
      Dict.get?_foldl_set_of_notMem AccountMapRow.customerId AccountMapRow.record _ hRow
    rw [hOld]
    split
    · rename_i hBatch
      rw [table.recordOf_of_notMem fun row hTable hSame => ?_, Option.none_or]
      exact hRow row ((hMem row).mpr ⟨hTable, hSame ▸ hBatch⟩) hSame
    · rfl

/-- The first statement that raises is the last one that is sent. -/
theorem getManyFrom_raised (hAnswers : Answers tables fails execute) {n k : Nat}
    {later : List (List String)} (hk : k < later.length) (hRaise : fails (n + k) = true)
    (hBefore : ∀ j < k, fails (n + j) = false)
    (mappings : Dict String PiiMappingRecord) :
    getManyFrom execute n later mappings = ⟨later.take (k + 1), none⟩ := by
  induction later generalizing n k mappings with
  | nil => cases hk
  | cons batch later ih =>
      rw [getManyFrom]
      cases k with
      | zero =>
          rw [hAnswers.raises n batch hRaise]
          rfl
      | succ k =>
          obtain ⟨rows, hExecute, -⟩ := hAnswers.returns n batch (hBefore 0 k.succ_pos)
          rw [hExecute]
          have hRest := ih (n := n + 1) (Nat.lt_of_succ_lt_succ hk)
            (by rw [Nat.add_right_comm]; exact hRaise)
            (fun j hj => by
              rw [Nat.add_right_comm]
              exact hBefore (j + 1) (Nat.succ_lt_succ hj))
            (addMappings mappings rows)
          simp only [hRest]
          rfl

/-- When no statement raises, all of them are sent, and a token of exactly one batch gets
the record of the table that the statement of this batch meets. -/
theorem getManyFrom_returned (hAnswers : Answers tables fails execute) {n : Nat}
    {later : List (List String)} (hFails : ∀ k < later.length, fails (n + k) = false)
    (mappings : Dict String PiiMappingRecord) :
    ∃ final, getManyFrom execute n later mappings = ⟨later, some final⟩ ∧
      (∀ token, (∀ batch ∈ later, token ∉ batch) →
        final.get? token = mappings.get? token) ∧
      ∀ token k, (∀ j batch, later[j]? = some batch → (token ∈ batch ↔ j = k)) →
        k < later.length →
        final.get? token = ((tables (n + k)).recordOf token).or (mappings.get? token) := by
  induction later generalizing n mappings with
  | nil =>
      refine ⟨mappings, rfl, fun token _ => rfl, fun token k _ hk => ?_⟩
      cases hk
  | cons batch later ih =>
      obtain ⟨rows, hExecute, hRows⟩ := hAnswers.returns n batch
        (hFails 0 (List.length_pos_of_ne_nil (List.cons_ne_nil _ _)))
      obtain ⟨final, hRun, hOther, hOwn⟩ := ih (n := n + 1)
        (fun k hk => by
          rw [Nat.add_right_comm]
          exact hFails (k + 1) (Nat.succ_lt_succ hk))
        (addMappings mappings rows)
      refine ⟨final, ?_, fun token hNot => ?_, fun token k hOne hk => ?_⟩
      · rw [getManyFrom, hExecute]
        simp only [hRun]
      · rw [List.forall_mem_cons] at hNot
        rw [hOther token hNot.2, get?_addMappings hRows, if_neg hNot.1]
      · cases k with
        | zero =>
            -- the statement of this batch is the present one
            have hHere : token ∈ batch := (hOne 0 batch rfl).mpr rfl
            have hLater : ∀ b ∈ later, token ∉ b := by
              intro b hb hIn
              obtain ⟨j, hj⟩ := List.mem_iff_getElem?.mp hb
              exact absurd ((hOne (j + 1) b hj).mp hIn) (Nat.succ_ne_zero j)
            rw [hOther token hLater, get?_addMappings hRows, if_pos hHere]
            rfl
        | succ k =>
            have hHere : token ∉ batch := fun hIn =>
              absurd ((hOne 0 batch rfl).mp hIn) (Nat.succ_ne_zero k).symm
            rw [hOwn token k (fun j b hj => ?_) (Nat.lt_of_succ_lt_succ hk),
              get?_addMappings hRows, if_neg hHere, Nat.add_right_comm]
            · rfl
            · exact (hOne (j + 1) b hj).trans Nat.succ_inj

end Loop

/-- The number of the statement that asks for a token. -/
def statementOf (repository : SQLAlchemyAccountMapRepository) (tokens : Finset String)
    (token : String) : Nat :=
  (ascending tokens).idxOf token / repository.queryBatchSize

/-- What a call of `get_many` does. -/
structure GetManySpec (repository : SQLAlchemyAccountMapRepository)
    (tables : Nat → AccountMap) (fails : Nat → Bool) (tokens : Finset String)
    (run : GetManyRun) : Prop where
  /-- A statement asks for at least one token and for at most `query_batch_size`. -/
  bounded : ∀ batch ∈ run.sent, 0 < batch.length ∧ batch.length ≤ repository.queryBatchSize
  /-- The call raises exactly if one of the statements that it needs does. -/
  raises_iff : run.mappings = none ↔
    ∃ n < batchCount repository.queryBatchSize tokens.card, fails n = true
  /-- The statement that raises is the last one. -/
  stops : run.mappings = none → ∃ n, fails n = true ∧ (∀ m < n, fails m = false) ∧
    run.sent.length = n + 1
  /-- Otherwise the statements ask for each token once, in their order. -/
  sent : run.mappings ≠ none → run.sent.flatten = ascending tokens ∧
    run.sent.length = batchCount repository.queryBatchSize tokens.card
  /-- A token has the record that its statement has met, any other has none. -/
  record : ∀ mappings, run.mappings = some mappings → ∀ token,
    mappings.get? token = if token ∈ tokens then
      (tables (statementOf repository tokens token)).recordOf token else none

section Calls

variable {repository : SQLAlchemyAccountMapRepository} {tables : Nat → AccountMap}
  {fails : Nat → Bool} {execute : Nat → List String → Option (List AccountMapRow)}

/-- Without tokens the loop has no statement to send. -/
theorem getMany_eq_getManyFrom (tokens : Finset String) :
    repository.getMany execute tokens =
      getManyFrom execute 0 (batches repository.queryBatchSize (ascending tokens)) .empty := by
  rw [SQLAlchemyAccountMapRepository.getMany]
  split
  · rename_i hEmpty
    rw [hEmpty, ascending_empty]
    rfl
  · rfl

/-- A token is in the batch of its statement and in no other. -/
theorem mem_batch_iff {tokens : Finset String} {token : String} (hMem : token ∈ tokens)
    (j : Nat) (batch : List String)
    (hBatch : (batches repository.queryBatchSize (ascending tokens))[j]? = some batch) :
    token ∈ batch ↔ j = statementOf repository tokens token := by
  rw [getElem?_batches repository.queryBatchSize_pos] at hBatch
  split at hBatch
  · cases hBatch
    exact mem_page_iff_idxOf repository.queryBatchSize_pos (nodup_ascending tokens)
      (mem_ascending.mpr hMem) j
  · cases hBatch

theorem statementOf_lt {tokens : Finset String} {token : String} (hMem : token ∈ tokens) :
    statementOf repository tokens token <
      batchCount repository.queryBatchSize tokens.card := by
  have hIdx := List.idxOf_lt_length_of_mem (mem_ascending.mpr hMem)
  rw [length_ascending] at hIdx
  rw [lt_batchCount_iff repository.queryBatchSize_pos]
  exact (Nat.div_mul_le_self _ _).trans_lt hIdx

theorem length_batches (tokens : Finset String) :
    (batches repository.queryBatchSize (ascending tokens)).length =
      batchCount repository.queryBatchSize tokens.card := by
  rw [batches_eq_pages repository.queryBatchSize_pos, length_pages, length_ascending]

/-- Without a statement that raises, each token has the record that its statement has
met. -/
theorem getMany_returned (hAnswers : Answers tables fails execute) {tokens : Finset String}
    (hAll : ∀ n < batchCount repository.queryBatchSize tokens.card, fails n = false) :
    ∃ final, repository.getMany execute tokens =
        ⟨batches repository.queryBatchSize (ascending tokens), some final⟩ ∧
      ∀ token, final.get? token = if token ∈ tokens then
        (tables (statementOf repository tokens token)).recordOf token else none := by
  have hNone : ∀ k < (batches repository.queryBatchSize (ascending tokens)).length,
      fails (0 + k) = false := by
    intro k hk
    rw [Nat.zero_add]
    exact hAll k (length_batches tokens ▸ hk)
  obtain ⟨final, hRun, hOther, hOwn⟩ := getManyFrom_returned hAnswers hNone .empty
  refine ⟨final, by rw [getMany_eq_getManyFrom, hRun], fun token => ?_⟩
  split
  · rename_i hMem
    rw [hOwn token _ (mem_batch_iff hMem) ((statementOf_lt hMem).trans_eq
      (length_batches tokens).symm), Nat.zero_add]
    exact Option.or_none
  · rename_i hMem
    refine hOther token fun batch hBatch hIn => hMem ?_
    have hFlatten := List.mem_flatten.mpr ⟨batch, hBatch, hIn⟩
    rw [flatten_batches] at hFlatten
    exact mem_ascending.mp hFlatten

/-- How a call ends. -/
theorem getMany_ends (repository : SQLAlchemyAccountMapRepository)
    (hAnswers : Answers tables fails execute) (tokens : Finset String) :
    (∃ final, repository.getMany execute tokens =
        ⟨batches repository.queryBatchSize (ascending tokens), some final⟩ ∧
      (∀ n < batchCount repository.queryBatchSize tokens.card, fails n = false) ∧
      ∀ token, final.get? token = if token ∈ tokens then
        (tables (statementOf repository tokens token)).recordOf token else none) ∨
    ∃ n < batchCount repository.queryBatchSize tokens.card, fails n = true ∧
      (∀ m < n, fails m = false) ∧ repository.getMany execute tokens =
        ⟨(batches repository.queryBatchSize (ascending tokens)).take (n + 1), none⟩ := by
  by_cases hAll : ∀ n < batchCount repository.queryBatchSize tokens.card, fails n = false
  · obtain ⟨final, hRun, hRecord⟩ := getMany_returned hAnswers hAll
    exact .inl ⟨final, hRun, hAll, hRecord⟩
  · have hEx : ∃ n, n < batchCount repository.queryBatchSize tokens.card ∧
        fails n = true := by
      simpa using hAll
    -- the first of the statements that raise
    obtain ⟨hLt, hRaise⟩ := Nat.find_spec hEx
    have hBefore : ∀ m < Nat.find hEx, fails m = false := by
      intro m hm
      have hMin := Nat.find_min hEx hm
      simpa [hm.trans hLt] using hMin
    refine .inr ⟨Nat.find hEx, hLt, hRaise, hBefore, ?_⟩
    rw [getMany_eq_getManyFrom]
    refine getManyFrom_raised hAnswers (hLt.trans_eq (length_batches tokens).symm) ?_ ?_ _
    · rwa [Nat.zero_add]
    · intro m hm
      rw [Nat.zero_add]
      exact hBefore m hm

/-- The records of a call that returns. -/
theorem get?_getMany (hAnswers : Answers tables fails execute) {tokens : Finset String}
    {mappings : Dict String PiiMappingRecord}
    (hMappings : (repository.getMany execute tokens).mappings = some mappings)
    (token : String) : mappings.get? token = if token ∈ tokens then
      (tables (statementOf repository tokens token)).recordOf token else none := by
  rcases getMany_ends repository hAnswers tokens with ⟨final, hRun, -, hRecord⟩ |
    ⟨n, -, -, -, hRun⟩
  · rw [hRun] at hMappings
    cases hMappings
    exact hRecord token
  · rw [hRun] at hMappings
    cases hMappings

/-- Whatever happens to the table between the statements of a call, and whichever of them
raises, `get_many` asks for each token once and answers with what that statement met. -/
theorem getMany_spec (hAnswers : Answers tables fails execute) (tokens : Finset String) :
    GetManySpec repository tables fails tokens (repository.getMany execute tokens) := by
  have hPos := repository.queryBatchSize_pos
  rcases getMany_ends repository hAnswers tokens with ⟨final, hRun, hAll, hRecord⟩ |
    ⟨n, hLt, hRaise, hBefore, hRun⟩
  · rw [hRun]
    refine ⟨fun batch hBatch => length_of_mem_batches hPos hBatch, ?_, fun h => ?_,
      fun _ => ⟨flatten_batches _, length_batches tokens⟩, fun mappings hMappings token => ?_⟩
    · refine iff_of_false (Option.some_ne_none final) ?_
      rintro ⟨n, hn, hFail⟩
      rw [hAll n hn] at hFail
      cases hFail
    · cases h
    · cases hMappings
      exact hRecord token
  · rw [hRun]
    refine ⟨fun batch hBatch => length_of_mem_batches hPos (List.mem_of_mem_take hBatch),
      iff_of_true rfl ⟨n, hLt, hRaise⟩, fun _ => ⟨n, hRaise, hBefore, ?_⟩,
      fun h => absurd rfl h, fun mappings h => ?_⟩
    · rw [List.length_take, length_batches]
      omega
    · cases h

/-- A session that returns the rows in the order of the table. -/
def inTableOrder (tables : Nat → AccountMap) (fails : Nat → Bool) (n : Nat)
    (batch : List String) : Option (List AccountMapRow) :=
  if fails n then none else some ((tables n).rows.filter fun row => row.customerId ∈ batch)

theorem answers_inTableOrder (tables : Nat → AccountMap) (fails : Nat → Bool) :
    Answers tables fails (inTableOrder tables fails) where
  raises n batch hFail := by rw [inTableOrder, if_pos hFail]
  returns n batch hOk := by
    refine ⟨_, ?_, List.Perm.refl _⟩
    rw [inTableOrder, if_neg (by rw [hOk]; exact Bool.false_ne_true)]

/-- Two tokens, two statements, and a row that is deleted between them. -/
theorem getMany_spec_deletedRow :
    GetManySpec ⟨1, Nat.one_pos⟩
      (fun n => if n = 0 then ⟨[⟨"a", "u1", 1⟩, ⟨"b", "u2", 2⟩], by decide⟩ else .empty)
      (fun _ => false) {"a", "b"}
      (SQLAlchemyAccountMapRepository.getMany ⟨1, Nat.one_pos⟩
        (inTableOrder
          (fun n => if n = 0 then ⟨[⟨"a", "u1", 1⟩, ⟨"b", "u2", 2⟩], by decide⟩ else .empty)
          fun _ => false) {"a", "b"}) :=
  getMany_spec (answers_inTableOrder _ _) {"a", "b"}

end Calls

end PiiCache
end DataApi
