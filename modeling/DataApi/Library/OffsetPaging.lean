import Mathlib.Data.List.Sort
import Mathlib.Tactic

/-!
# Offset paging loops

The loop `while True: batch = query(limit, offset); if not batch: break; ...;
offset += limit`, with an accumulator that absorbs the records one by one.

Over an unchanging enumeration of rows the loop is described by a closed form
(`pagerAfter`): after `k` batches the accumulator has absorbed the first
`k * limit` rows.  It ends after `batchCount` non-empty batches, and a query
that raises leaves exactly the state before it (`loop_returned`,
`loop_raised`).

The last section is about an enumeration that changes while the loop runs: a
row that sorts after a prefix leaves the prefix in place, an insertion brings
only the new row in front of a position, and a deletion in front of it brings
the row at the position there.
-/

namespace DataApi
namespace Library

/-- The rows that `LIMIT limit OFFSET offset` selects from an enumeration. -/
def page {α : Type*} (limit offset : Nat) (rows : List α) : List α :=
  (rows.drop offset).take limit

theorem length_page {α : Type*} (limit offset : Nat) (rows : List α) :
    (page limit offset rows).length = min limit (rows.length - offset) := by
  rw [page, List.length_take, List.length_drop]

/-- A page continues the rows before it. -/
theorem take_append_page {α : Type*} (limit offset : Nat) (rows : List α) :
    rows.take offset ++ page limit offset rows =
      rows.take (offset + (page limit offset rows).length) := by
  have hCut : (rows.drop offset).take (page limit offset rows).length =
      page limit offset rows := by
    rw [length_page, page, ← List.length_drop, ← List.take_eq_take_min]
  rw [List.take_add, hCut]

/-- The local variables of a paging loop: the object the records are added to,
the next offset and the number of records loaded. -/
structure Pager (σ : Type*) where
  acc : σ
  offset : Nat
  loaded : Nat
  deriving DecidableEq

/-- How a loop with a bounded number of turns ends.  A query that raises
leaves the accumulator as the turns before it left it. -/
inductive LoopEnd (σ : Type*) where
  | returned (p : Pager σ)
  | raised (p : Pager σ)
  | unfinished (p : Pager σ)
  deriving DecidableEq

/-- The loop variables a loop ends with, however it ends. -/
def LoopEnd.pager {σ : Type*} : LoopEnd σ → Pager σ
  | .returned p => p
  | .raised p => p
  | .unfinished p => p

section Loop

variable {σ α : Type*} (add : σ → α → σ) (limit : Nat)

/-- One turn of the loop body; `none` is the `break` on an empty batch. -/
def Pager.turn (records : List α) (p : Pager σ) : Option (Pager σ) :=
  if records = [] then none
  else some ⟨records.foldl add p.acc, p.offset + limit, p.loaded + records.length⟩

/-- The loop.  `query batch offset` is the answer to the query number `batch`,
`none` when it raises. -/
def Pager.loop (query : Nat → Nat → Option (List α)) :
    Nat → Nat → Pager σ → LoopEnd σ
  | 0, _, p => .unfinished p
  | turns + 1, batch, p =>
      match query batch p.offset with
      | none => .raised p
      | some records =>
          match p.turn add limit records with
          | none => .returned p
          | some next => Pager.loop query turns (batch + 1) next

/-- The records a loop absorbs, whatever the queries answer. -/
def Pager.fetched (query : Nat → Nat → Option (List α)) :
    Nat → Nat → Nat → List α
  | 0, _, _ => []
  | turns + 1, batch, offset =>
      match query batch offset with
      | none => []
      | some records =>
          if records = [] then []
          else records ++ Pager.fetched query turns (batch + 1) (offset + limit)

/-- The queries of a loop over an unchanging enumeration, some of which raise. -/
def pageQuery (rows : List α) (fails : Nat → Bool) (batch offset : Nat) :
    Option (List α) :=
  if fails batch then none else some (page limit offset rows)

/-- The number of non-empty batches of an enumeration. -/
def batchCount (limit count : Nat) : Nat := (count + limit - 1) / limit

/-- The loop variables after `k` batches. -/
def pagerAfter (rows : List α) (s : σ) (k : Nat) : Pager σ :=
  ⟨(rows.take (k * limit)).foldl add s, k * limit, min (k * limit) rows.length⟩

variable {add limit}

/-- However a loop ends, its accumulator has absorbed the records fetched. -/
theorem loop_acc (query : Nat → Nat → Option (List α)) (turns batch : Nat)
    (p : Pager σ) :
    (Pager.loop add limit query turns batch p).pager.acc =
      (Pager.fetched limit query turns batch p.offset).foldl add p.acc := by
  induction turns generalizing batch p with
  | zero => rfl
  | succ turns ih =>
      rw [Pager.loop, Pager.fetched]
      cases query batch p.offset with
      | none => rfl
      | some records =>
          by_cases hNil : records = []
          · simp [Pager.turn, hNil, LoopEnd.pager]
          · simp only [Pager.turn, if_neg hNil]
            rw [ih, List.foldl_append]

theorem lt_batchCount_iff (hLimit : 0 < limit) (k count : Nat) :
    k < batchCount limit count ↔ k * limit < count := by
  have hDiv : k + 1 ≤ (count + limit - 1) / limit ↔
      (k + 1) * limit ≤ count + limit - 1 := Nat.le_div_iff_mul_le hLimit
  have hMul : (k + 1) * limit = k * limit + limit := Nat.succ_mul k limit
  unfold batchCount
  constructor
  · intro hLt
    have := hDiv.mp hLt
    omega
  · intro hLt
    apply hDiv.mpr
    omega

theorem le_batchCount_mul (hLimit : 0 < limit) (count : Nat) :
    count ≤ batchCount limit count * limit := by
  by_contra hLt
  have := (lt_batchCount_iff hLimit (batchCount limit count) count).mpr (by omega)
  omega

theorem batchCount_le (hLimit : 0 < limit) (count : Nat) :
    batchCount limit count ≤ count := by
  by_contra hLt
  have hCount := (lt_batchCount_iff hLimit count count).mp (by omega)
  have := Nat.le_mul_of_pos_right count hLimit
  omega

@[simp] theorem pagerAfter_zero (rows : List α) (s : σ) :
    pagerAfter add limit rows s 0 = ⟨s, 0, 0⟩ := by
  simp [pagerAfter]

/-- After all non-empty batches every row has been absorbed. -/
theorem pagerAfter_acc_of_le {rows : List α} {s : σ} {k : Nat}
    (hk : rows.length ≤ k * limit) :
    (pagerAfter add limit rows s k).acc = rows.foldl add s := by
  simp [pagerAfter, List.take_of_length_le hk]

theorem pagerAfter_loaded_of_le {rows : List α} {s : σ} {k : Nat}
    (hk : rows.length ≤ k * limit) :
    (pagerAfter add limit rows s k).loaded = rows.length := by
  simp [pagerAfter, hk]

/-- A batch inside the enumeration takes the closed form one batch further. -/
theorem turn_pagerAfter (hLimit : 0 < limit) {rows : List α} (s : σ) {k : Nat}
    (hk : k * limit < rows.length) :
    (pagerAfter add limit rows s k).turn add limit
        (page limit (k * limit) rows) =
      some (pagerAfter add limit rows s (k + 1)) := by
  have hNe : page limit (k * limit) rows ≠ [] := by
    intro hNil
    have hLen := congrArg List.length hNil
    rw [length_page, List.length_nil] at hLen
    omega
  have hMul : (k + 1) * limit = k * limit + limit := Nat.succ_mul k limit
  have hAcc : (page limit (k * limit) rows).foldl add
      ((rows.take (k * limit)).foldl add s) =
        (rows.take ((k + 1) * limit)).foldl add s := by
    rw [hMul, page, List.take_add, List.foldl_append]
  have hCount : min (k * limit) rows.length + (page limit (k * limit) rows).length =
      min ((k + 1) * limit) rows.length := by
    rw [length_page]
    omega
  rw [Pager.turn, if_neg hNe]
  simp only [pagerAfter, hAcc, hCount]
  rw [hMul]

/-- Past the enumeration the batch is empty and the loop breaks. -/
theorem turn_pagerAfter_of_le {rows : List α} (s : σ) {k : Nat}
    (hk : rows.length ≤ k * limit) :
    (pagerAfter add limit rows s k).turn add limit
        (page limit (k * limit) rows) = none := by
  have hNil : page limit (k * limit) rows = [] := by
    simp [page, List.drop_of_length_le hk]
  rw [Pager.turn, if_pos hNil]

/-- When no query raises, the loop returns with every row absorbed. -/
theorem loop_returned (hLimit : 0 < limit) (rows : List α) (s : σ)
    (fails : Nat → Bool) (turns k : Nat)
    (hk : k ≤ batchCount limit rows.length)
    (hTurns : batchCount limit rows.length < turns + k)
    (hFails : ∀ b, k ≤ b → b ≤ batchCount limit rows.length → fails b = false) :
    Pager.loop add limit (pageQuery limit rows fails) turns k
        (pagerAfter add limit rows s k) =
      .returned (pagerAfter add limit rows s (batchCount limit rows.length)) := by
  induction turns generalizing k with
  | zero => omega
  | succ turns ih =>
      have hQuery : pageQuery limit rows fails k
          (pagerAfter add limit rows s k).offset =
            some (page limit (k * limit) rows) := by
        simp [pageQuery, pagerAfter, hFails k (le_refl k) hk]
      rw [Pager.loop, hQuery]
      by_cases hLast : k < batchCount limit rows.length
      · simp only [turn_pagerAfter hLimit s
          ((lt_batchCount_iff hLimit k rows.length).mp hLast)]
        exact ih (k + 1) hLast (by omega)
          (fun b hb hb' => hFails b (by omega) hb')
      · have hEnd : k = batchCount limit rows.length := by omega
        have hLe : rows.length ≤ k * limit := by
          rw [hEnd]
          exact le_batchCount_mul hLimit rows.length
        simp only [turn_pagerAfter_of_le s hLe]
        rw [hEnd]

/-- The first query that raises ends the loop with the batches before it
absorbed. -/
theorem loop_raised (hLimit : 0 < limit) (rows : List α) (s : σ)
    (fails : Nat → Bool) {b : Nat} (hb : b ≤ batchCount limit rows.length)
    (hRaise : fails b = true) (turns k : Nat) (hk : k ≤ b)
    (hTurns : b < turns + k)
    (hBefore : ∀ j, k ≤ j → j < b → fails j = false) :
    Pager.loop add limit (pageQuery limit rows fails) turns k
        (pagerAfter add limit rows s k) =
      .raised (pagerAfter add limit rows s b) := by
  induction turns generalizing k with
  | zero => omega
  | succ turns ih =>
      by_cases hHere : k = b
      · subst hHere
        simp [Pager.loop, pageQuery, hRaise]
      · have hLt : k < b := by omega
        have hQuery : pageQuery limit rows fails k
            (pagerAfter add limit rows s k).offset =
              some (page limit (k * limit) rows) := by
          simp [pageQuery, pagerAfter, hBefore k (le_refl k) hLt]
        have hInside := (lt_batchCount_iff hLimit k rows.length).mp (by omega)
        rw [Pager.loop, hQuery]
        simp only [turn_pagerAfter hLimit s hInside]
        exact ih (k + 1) hLt (by omega) (fun j hj hj' => hBefore j (by omega) hj')

/-- Every loop with enough turns over an unchanging enumeration ends, either
returning with every row absorbed, or with the first query that raised. -/
theorem loop_ends (add : σ → α → σ) (hLimit : 0 < limit) (rows : List α) (s : σ)
    (fails : Nat → Bool) {turns : Nat} (hTurns : rows.length < turns) :
    (Pager.loop add limit (pageQuery limit rows fails) turns 0 ⟨s, 0, 0⟩ =
        .returned (pagerAfter add limit rows s (batchCount limit rows.length)) ∧
      ∀ b ≤ batchCount limit rows.length, fails b = false) ∨
    ∃ b ≤ batchCount limit rows.length, fails b = true ∧
      Pager.loop add limit (pageQuery limit rows fails) turns 0 ⟨s, 0, 0⟩ =
        .raised (pagerAfter add limit rows s b) := by
  have hCount := batchCount_le hLimit rows.length
  have hStart : (⟨s, 0, 0⟩ : Pager σ) = pagerAfter add limit rows s 0 :=
    (pagerAfter_zero rows s).symm
  rw [hStart]
  by_cases hAll : ∀ b ≤ batchCount limit rows.length, fails b = false
  · left
    exact ⟨loop_returned hLimit rows s fails turns 0 (Nat.zero_le _) (by omega)
      (fun b _ hb => hAll b hb), hAll⟩
  · right
    have hEx : ∃ b, b ≤ batchCount limit rows.length ∧ fails b = true := by
      simpa using hAll
    -- the first of the queries that raise
    obtain ⟨hLe, hRaise⟩ := Nat.find_spec hEx
    refine ⟨Nat.find hEx, hLe, hRaise, ?_⟩
    refine loop_raised hLimit rows s fails hLe hRaise turns 0 (Nat.zero_le _)
      (by omega) ?_
    intro j _ hj
    have hMin := Nat.find_min hEx hj
    simpa [show j ≤ batchCount limit rows.length by omega] using hMin

end Loop

section Growing

variable {α : Type*} {r : α → α → Prop} [DecidableRel r]

/-- A row that sorts after every row of a prefix is inserted behind it. -/
theorem orderedInsert_append_of_forall_not {x : α} {done rest : List α}
    (h : ∀ y ∈ done, ¬ r x y) :
    (done ++ rest).orderedInsert r x = done ++ rest.orderedInsert r x := by
  induction done with
  | nil => rfl
  | cons y done ih =>
      rw [List.forall_mem_cons] at h
      simp [h.1, ih h.2]

/-- An insertion brings no other row in front of a position. -/
theorem mem_take_orderedInsert {x y : α} {rows : List α} {n : Nat}
    (h : y ∈ (rows.orderedInsert r x).take n) : y = x ∨ y ∈ rows.take n := by
  induction rows generalizing n with
  | nil =>
      rw [List.orderedInsert] at h
      exact .inl (List.mem_singleton.mp (List.mem_of_mem_take h))
  | cons z rows ih =>
      cases n with
      | zero => cases h
      | succ n =>
          rw [List.orderedInsert] at h
          split at h
          · rw [List.take_succ_cons] at h
            rcases List.mem_cons.mp h with hx | hMem
            · exact .inl hx
            · exact .inr ((List.take_prefix_take_left (Nat.le_succ n)).subset hMem)
          · rw [List.take_succ_cons] at h
            rw [List.take_succ_cons, List.mem_cons]
            rcases List.mem_cons.mp h with hz | hMem
            · exact .inr (.inl hz)
            · exact (ih hMem).imp_right .inr

variable [DecidableEq α]

/-- The rows in front of a position after a deletion. -/
theorem take_filter_ne {rows : List α} (hNodup : rows.Nodup) (x : α) (n : Nat) :
    (rows.filter fun y => y ≠ x).take n =
      (rows.take n).filter (fun y => y ≠ x) ++
        if x ∈ rows.take n then (rows.drop n).head?.toList else [] := by
  induction rows generalizing n with
  | nil => simp
  | cons z rows ih =>
      obtain ⟨hz, hRows⟩ := List.nodup_cons.mp hNodup
      cases n with
      | zero => simp
      | succ n =>
          by_cases hzx : z = x
          · -- the deleted row stands first, and the others move up by one
            subst hzx
            have hFilter : ∀ part : List α, part ⊆ rows →
                part.filter (fun y => y ≠ z) = part := by
              intro part hPart
              refine List.filter_eq_self.mpr fun y hy => ?_
              rw [decide_eq_true_eq]
              rintro rfl
              exact hz (hPart hy)
            rw [List.filter_cons_of_neg (by simp), hFilter rows (List.Subset.refl _),
              List.take_succ_cons, List.filter_cons_of_neg (by simp),
              hFilter _ (List.take_subset _ _), if_pos List.mem_cons_self,
              List.drop_succ_cons, List.head?_drop, List.take_add_one]
          · have hMem : x ∈ z :: rows.take n ↔ x ∈ rows.take n := by
              rw [List.mem_cons]
              exact or_iff_right (Ne.symm hzx)
            simp only [List.take_succ_cons, List.drop_succ_cons, hMem]
            rw [List.filter_cons_of_pos (by simpa using hzx),
              List.filter_cons_of_pos (by simpa using hzx), List.take_succ_cons,
              ih hRows, List.cons_append]

end Growing

section Enumerations

/-! ### Pages of independent enumerations -/

variable {α β : Type*}

/-- The pages of one enumeration are its rows in order. -/
theorem flatMap_page (limit k : Nat) (rows : List α) :
    (List.range k).flatMap (fun i => page limit (i * limit) rows) =
      rows.take (k * limit) := by
  induction k with
  | zero => simp
  | succ k ih =>
      rw [List.range_succ, List.flatMap_append, ih, List.flatMap_singleton,
        Nat.succ_mul, List.take_add]
      rfl

section Numbered

variable {limit : Nat} {rows : List α}

/-- The rows of a page by their positions: from `(page - 1) * limit` on, to
`min (page * limit) rows.length`. -/
theorem getElem?_page {number : Nat} (hNumber : 1 ≤ number) (i : Nat) :
    (page limit ((number - 1) * limit) rows)[i]? =
      if (number - 1) * limit + i < min (number * limit) rows.length then
        rows[(number - 1) * limit + i]?
      else none := by
  have hEnd : number * limit = (number - 1) * limit + limit := by
    rw [← Nat.succ_mul]
    congr 1
    omega
  rw [page, List.getElem?_take, List.getElem?_drop]
  by_cases hInside : i < limit
  · rw [if_pos hInside]
    split
    · rfl
    · rw [List.getElem?_eq_none_iff]
      omega
  · rw [if_neg hInside, if_neg]
    omega

/-- The pages up to the last one are the whole sequence. -/
theorem flatMap_page_batchCount (hLimit : 0 < limit) :
    (List.range (batchCount limit rows.length)).flatMap
      (fun k => page limit (k * limit) rows) = rows := by
  rw [flatMap_page, List.take_of_length_le (le_batchCount_mul hLimit rows.length)]

theorem page_eq_nil_of_batchCount_lt (hLimit : 0 < limit) {number : Nat}
    (hNumber : batchCount limit rows.length < number) :
    page limit ((number - 1) * limit) rows = [] := by
  have hPast : ¬ number - 1 < batchCount limit rows.length := by omega
  rw [lt_batchCount_iff hLimit, not_lt] at hPast
  rw [page, List.drop_of_length_le hPast, List.take_nil]

theorem batchCount_eq_zero_iff (hLimit : 0 < limit) :
    batchCount limit rows.length = 0 ↔ rows = [] := by
  have hPos := lt_batchCount_iff hLimit 0 rows.length
  rw [Nat.zero_mul, List.length_pos_iff] at hPos
  rw [Nat.pos_iff_ne_zero] at hPos
  exact not_iff_not.mp hPos

end Numbered

/-- Pages that are each cut out of an enumeration of their own. -/
def servedPages (limit pages : Nat) (enum : Nat → List α) : List α :=
  (List.range pages).flatMap fun k => page limit (k * limit) (enum k)

theorem servedPages_const {limit : Nat} (hLimit : 0 < limit) {rows enum : List α}
    (h : enum.Perm rows) :
    servedPages limit (batchCount limit rows.length) (fun _ => enum) = enum := by
  rw [servedPages, ← h.length_eq]
  exact flatMap_page_batchCount hLimit

theorem map_servedPages (f : α → β) (limit pages : Nat) (enum : Nat → List α) :
    (servedPages limit pages enum).map f =
      servedPages limit pages fun k => (enum k).map f := by
  rw [servedPages, servedPages, List.map_flatMap]
  refine List.flatMap_congr fun k _ => ?_
  rw [page, page, List.map_take, List.map_drop]

/-- A list of equal values is enumerated in one way. -/
theorem map_eq_of_perm {f : α → β} {rows enum : List α}
    (h : ∀ a ∈ rows, ∀ b ∈ rows, f a = f b) (hEnum : enum.Perm rows) :
    enum.map f = rows.map f := by
  cases rows with
  | nil => rw [hEnum.eq_nil]
  | cons c rows =>
      have hAll : (c :: rows).map f = List.replicate (rows.length + 1) (f c) := by
        rw [List.eq_replicate_iff]
        refine ⟨by simp, fun b hb => ?_⟩
        obtain ⟨a, ha, rfl⟩ := List.mem_map.mp hb
        exact h a ha c List.mem_cons_self
      have hMap := hEnum.map f
      rw [hAll] at hMap ⊢
      exact List.perm_replicate.mp hMap

/-- Whatever enumeration each page is cut out of, the pages are the rows in
order exactly when all rows are mapped to one value. -/
theorem map_servedPages_eq_iff {limit : Nat} (hLimit : 0 < limit) (f : α → β)
    (rows : List α) :
    (∀ enum : Nat → List α, (∀ k, (enum k).Perm rows) →
      (servedPages limit (batchCount limit rows.length) enum).map f = rows.map f) ↔
      ∀ a ∈ rows, ∀ b ∈ rows, f a = f b := by
  classical
  constructor
  · intro hPages a ha b hb
    -- an enumeration may begin with any row
    have hFirst : ∀ c ∈ rows, f c :: (rows.erase c).map f = rows.map f := by
      intro c hc
      have hPerm : (c :: rows.erase c).Perm rows := (List.perm_cons_erase hc).symm
      have hServed := hPages (fun _ => c :: rows.erase c) fun _ => hPerm
      rwa [servedPages_const hLimit hPerm] at hServed
    have hSame := (hFirst a ha).trans (hFirst b hb).symm
    exact (List.cons.inj hSame).1
  · intro h enum hEnum
    rw [map_servedPages, funext fun k => map_eq_of_perm h (hEnum k), ← map_servedPages,
      servedPages_const hLimit (List.Perm.refl rows)]

end Enumerations

end Library
end DataApi
