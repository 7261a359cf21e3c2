import Mathlib.Data.Finset.Sort
import DataApi.Library.OffsetPaging

/-!
# Cutting an enumeration into batches

The generator `for value in values: batch.append(value); if len(batch) == size:
yield batch; batch = []`, which yields what is left at the end.  Its batches are
the pages of the enumeration (`batches_eq_map_page`): batch number `k` holds the
positions from `k * size` on, and there are `batchCount` of them.
-/

namespace DataApi
namespace Library

variable {α : Type*}

/-- The generator on the values that are left; `batch` holds the values since the last
batch it yielded. -/
def batchesFrom (size : Nat) (batch : List α) : List α → List (List α)
  | [] => if batch.isEmpty then [] else [batch]
  | value :: values =>
      if (batch ++ [value]).length = size then
        (batch ++ [value]) :: batchesFrom size [] values
      else batchesFrom size (batch ++ [value]) values

/-- The batches of an enumeration. -/
def batches (size : Nat) (values : List α) : List (List α) :=
  batchesFrom size [] values

/-- The pages of an enumeration, one after the other. -/
def pages (size : Nat) (values : List α) : List (List α) :=
  (List.range (batchCount size values.length)).map fun k => page size (k * size) values

/-- The elements of a set in ascending order. -/
def ascending {β : Type*} [LinearOrder β] (elements : Finset β) : List β := elements.sort

section Ascending

variable {β : Type*} [LinearOrder β]

@[simp] theorem ascending_empty : ascending (∅ : Finset β) = [] :=
  Finset.sort_empty _

@[simp] theorem mem_ascending {elements : Finset β} {element : β} :
    element ∈ ascending elements ↔ element ∈ elements :=
  Finset.mem_sort _

@[simp] theorem length_ascending (elements : Finset β) :
    (ascending elements).length = elements.card :=
  Finset.length_sort _

theorem nodup_ascending (elements : Finset β) : (ascending elements).Nodup :=
  Finset.sort_nodup elements _

end Ascending

variable {size : Nat}

@[simp] theorem length_pages (values : List α) :
    (pages size values).length = batchCount size values.length := by
  rw [pages, List.length_map, List.length_range]

theorem batchCount_zero (hSize : 0 < size) : batchCount size 0 = 0 := by
  rw [batchCount, Nat.zero_add]
  exact Nat.div_eq_of_lt (Nat.sub_lt hSize Nat.one_pos)

theorem batchCount_add (hSize : 0 < size) (count : Nat) :
    batchCount size (size + count) = batchCount size count + 1 := by
  rw [batchCount, batchCount, Nat.add_assoc, Nat.add_sub_assoc (by omega), Nat.add_comm,
    Nat.add_div_right _ hSize]

/-- Values that fit into one page are one page, if there are any. -/
theorem pages_of_length_lt (hSize : 0 < size) {values : List α}
    (hLt : values.length < size) :
    pages size values = if values.isEmpty then [] else [values] := by
  cases values with
  | nil =>
      rw [pages, List.length_nil, batchCount_zero hSize]
      rfl
  | cons value values =>
      have hOne : batchCount size (value :: values).length = 1 := by
        rw [List.length_cons] at hLt ⊢
        rw [batchCount, Nat.add_right_comm, Nat.add_sub_cancel, Nat.add_div_right _ hSize,
          Nat.div_eq_of_lt (by omega)]
      rw [pages, hOne, List.range_one, List.map_singleton, Nat.zero_mul, page,
        List.drop_zero, List.take_of_length_le hLt.le]
      rfl

/-- A full page in front is the first page. -/
theorem pages_append (hSize : 0 < size) {first : List α} (hFirst : first.length = size)
    (values : List α) : pages size (first ++ values) = first :: pages size values := by
  rw [pages, List.length_append, hFirst, batchCount_add hSize, List.range_succ_eq_map,
    List.map_cons, List.map_map, Nat.zero_mul]
  congr 1
  · rw [page, List.drop_zero, List.take_left' hFirst]
  · refine List.map_congr_left fun k _ => ?_
    rw [Function.comp_apply, page, page, Nat.succ_mul, Nat.add_comm, ← List.drop_drop,
      List.drop_left' hFirst]

theorem batchesFrom_eq_pages (hSize : 0 < size) (batch values : List α)
    (hBatch : batch.length < size) :
    batchesFrom size batch values = pages size (batch ++ values) := by
  induction values generalizing batch with
  | nil => rw [batchesFrom, List.append_nil, pages_of_length_lt hSize hBatch]
  | cons value values ih =>
      have hAppend := List.append_cons batch value values
      rw [batchesFrom]
      split
      · rename_i hFull
        rw [ih [] hSize, hAppend, pages_append hSize hFull, List.nil_append]
      · rename_i hRoom
        have hLength : (batch ++ [value]).length = batch.length + 1 := List.length_append
        rw [hAppend]
        exact ih (batch ++ [value]) (by omega)

/-- The batches of an enumeration are its pages. -/
theorem batches_eq_pages (hSize : 0 < size) (values : List α) :
    batches size values = pages size values := by
  rw [batches, batchesFrom_eq_pages hSize [] values hSize, List.nil_append]

/-- One after the other the batches are the enumeration. -/
theorem flatten_batchesFrom (batch values : List α) :
    (batchesFrom size batch values).flatten = batch ++ values := by
  induction values generalizing batch with
  | nil =>
      rw [batchesFrom]
      cases batch <;> rfl
  | cons value values ih =>
      rw [batchesFrom]
      split
      · rw [List.flatten_cons, ih, List.nil_append, ← List.append_cons]
      · rw [ih, ← List.append_cons]

theorem flatten_batches (values : List α) : (batches size values).flatten = values := by
  rw [batches, flatten_batchesFrom, List.nil_append]

/-- A batch has a value, and at most `size` of them. -/
theorem length_of_mem_batches (hSize : 0 < size) {values batch : List α}
    (hMem : batch ∈ batches size values) : 0 < batch.length ∧ batch.length ≤ size := by
  rw [batches_eq_pages hSize] at hMem
  obtain ⟨k, hk, rfl⟩ := List.mem_map.mp hMem
  have hInside := (lt_batchCount_iff hSize k values.length).mp (List.mem_range.mp hk)
  rw [length_page]
  omega

/-- A value at a position is in the batch of that position. -/
theorem getElem?_batches (hSize : 0 < size) {values : List α} {k : Nat} :
    (batches size values)[k]? =
      if k < batchCount size values.length then some (page size (k * size) values)
      else none := by
  rw [batches_eq_pages hSize, pages, List.getElem?_map]
  split
  · rename_i hk
    rw [List.getElem?_range hk]
    rfl
  · rename_i hk
    rw [List.getElem?_eq_none (by rw [List.length_range]; omega)]
    rfl

/-- Of an enumeration without repetitions, a value is in the batch of its position and in
no other. -/
theorem mem_page_iff_idxOf [DecidableEq α] (hSize : 0 < size) {values : List α}
    (hNodup : values.Nodup) {value : α} (hMem : value ∈ values) (k : Nat) :
    value ∈ page size (k * size) values ↔ k = values.idxOf value / size := by
  have hDiv : k = values.idxOf value / size ↔
      k * size ≤ values.idxOf value ∧ values.idxOf value < k * size + size := by
    rw [eq_comm, Nat.div_eq_iff hSize]
    omega
  rw [hDiv, page, List.mem_iff_getElem?]
  constructor
  · rintro ⟨i, hi⟩
    rw [List.getElem?_take] at hi
    split at hi
    · rename_i hLt
      rw [List.getElem?_drop] at hi
      obtain ⟨hBound, hGet⟩ := List.getElem?_eq_some_iff.mp hi
      have hIdx : values.idxOf value = k * size + i := by
        rw [← hGet, hNodup.idxOf_getElem]
      omega
    · cases hi
  · rintro ⟨hLe, hLt⟩
    refine ⟨values.idxOf value - k * size, ?_⟩
    rw [List.getElem?_take, if_pos (by omega), List.getElem?_drop, Nat.add_sub_cancel' hLe]
    exact List.getElem?_idxOf hMem

end Library
end DataApi
