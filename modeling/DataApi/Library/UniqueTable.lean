import Mathlib.Data.Finset.Basic
import Mathlib.Data.Finset.Image
import Mathlib.Data.List.Sort

/-!
# Tables with a primary key and a unique key

A table is a finite set of entries of which no two share an identifier, and no two
share a key.  Entries are found by either, and a write that would break a constraint
is refused.  Lists of rows without duplicates represent tables, and appending,
replacing and deleting a row are the operations of the table.
-/

namespace DataApi
namespace Library

variable {α ι κ : Type*}

/-- Rows in the order of a rank are ascending. -/
theorem pairwise_mergeSort_rank {ρ : Type*} [LinearOrder ρ] (rank : α → ρ) (rows : List α) :
    (rows.mergeSort fun a b => decide (rank a ≤ rank b)).Pairwise
      fun a b => rank a ≤ rank b := by
  have hTotal : ∀ a b, (decide (rank a ≤ rank b) || decide (rank b ≤ rank a)) = true :=
    fun a b => by simpa using le_total (rank a) (rank b)
  have hSorted : (rows.mergeSort fun a b => decide (rank a ≤ rank b)).Pairwise
      fun a b => decide (rank a ≤ rank b) = true := by
    refine List.pairwise_mergeSort (fun a b c hab hbc => ?_) hTotal rows
    exact decide_eq_true (le_trans (of_decide_eq_true hab) (of_decide_eq_true hbc))
  exact hSorted.imp fun hab => of_decide_eq_true hab

/-- A value stays unique if it is new. -/
theorem nodup_map_append_singleton_iff {β : Type*} {f : α → β} {rows : List α} {e : α} :
    ((rows ++ [e]).map f).Nodup ↔ (rows.map f).Nodup ∧ ∀ a ∈ rows, f a ≠ f e := by
  have hNew : (∀ a ∈ rows, f a ≠ f e) ↔ f e ∉ rows.map f := by
    simp only [List.mem_map, not_exists, not_and, ne_eq]
  rw [hNew, List.map_append, List.map_singleton, ← List.concat_eq_append, List.nodup_concat,
    and_comm]

/-- Keys stay unique when the row with an identifier is rewritten, unless it gets the key
of another row. -/
theorem nodup_map_rewrite_iff [DecidableEq ι] {ident : α → ι} {key : α → κ} {rows : List α}
    (hIdents : (rows.map ident).Nodup) (hKeys : (rows.map key).Nodup) (i : ι) (w : α → α) :
    ((rows.map fun a => if ident a = i then w a else a).map key).Nodup ↔
      ∀ old ∈ rows, ident old = i → ∀ other ∈ rows, ident other ≠ i →
        key other ≠ key (w old) := by
  rw [List.map_map]
  constructor
  · intro hNodup old hOld hIdent other hOther hNe hSame
    have hEq := List.inj_on_of_nodup_map hNodup hOther hOld (by
      simp only [Function.comp_apply, if_neg hNe, if_pos hIdent, hSame])
    exact hNe (hEq ▸ hIdent)
  · intro hNew
    refine hIdents.of_map.map_on fun a ha b hb hab => ?_
    simp only [Function.comp_apply] at hab
    -- at most one of two rows with one key is the one that is rewritten
    by_cases hA : ident a = i
    · by_cases hB : ident b = i
      · exact List.inj_on_of_nodup_map hIdents ha hb (hA.trans hB.symm)
      · rw [if_pos hA, if_neg hB] at hab
        exact absurd hab.symm (hNew a ha hA b hb hB)
    · by_cases hB : ident b = i
      · rw [if_neg hA, if_pos hB] at hab
        exact absurd hab (hNew b hb hB a ha hA)
      · rw [if_neg hA, if_neg hB] at hab
        exact List.inj_on_of_nodup_map hKeys ha hb hab

/-- A finite set of entries that two functions both tell apart. -/
structure UniqueTable (ident : α → ι) (key : α → κ) where
  entries : Finset α
  ident_injOn : Set.InjOn ident entries
  key_injOn : Set.InjOn key entries

namespace UniqueTable

variable {ident : α → ι} {key : α → κ}

@[ext] theorem ext {t u : UniqueTable ident key} (h : ∀ e, e ∈ t.entries ↔ e ∈ u.entries) :
    t = u := by
  have hEntries : t.entries = u.entries := Finset.ext h
  cases t
  cases u
  cases hEntries
  rfl

/-- The table without entries. -/
def empty : UniqueTable ident key where
  entries := ∅
  ident_injOn := by simp
  key_injOn := by simp

open Classical in
/-- The entry that a function takes to a value. -/
noncomputable def find {β : Type*} (t : UniqueTable ident key) (f : α → β) (b : β) :
    Option α :=
  if h : ∃ e ∈ t.entries, f e = b then some h.choose else none

theorem find_eq_some_iff {β : Type*} (t : UniqueTable ident key) {f : α → β}
    (hf : Set.InjOn f t.entries) {b : β} {e : α} :
    t.find f b = some e ↔ e ∈ t.entries ∧ f e = b := by
  rw [find]
  split
  · rename_i hExists
    obtain ⟨hMem, hValue⟩ := hExists.choose_spec
    constructor
    · intro h
      cases h
      exact ⟨hMem, hValue⟩
    · rintro ⟨he, hb⟩
      rw [hf hMem he (hValue.trans hb.symm)]
  · rename_i hNone
    constructor
    · intro h
      cases h
    · intro he
      exact absurd ⟨e, he⟩ hNone

/-- The entry with an identifier. -/
noncomputable def byIdent (t : UniqueTable ident key) (i : ι) : Option α := t.find ident i

/-- The entry with a key. -/
noncomputable def byKey (t : UniqueTable ident key) (k : κ) : Option α := t.find key k

theorem byIdent_eq_some_iff (t : UniqueTable ident key) {i : ι} {e : α} :
    t.byIdent i = some e ↔ e ∈ t.entries ∧ ident e = i :=
  t.find_eq_some_iff t.ident_injOn

theorem byKey_eq_some_iff (t : UniqueTable ident key) {k : κ} {e : α} :
    t.byKey k = some e ↔ e ∈ t.entries ∧ key e = k :=
  t.find_eq_some_iff t.key_injOn

open Classical in
/-- The table with one more entry, unless its identifier or its key is taken. -/
noncomputable def insert? (t : UniqueTable ident key) (e : α) :
    Option (UniqueTable ident key) :=
  if h : ∀ a ∈ t.entries, ident a ≠ ident e ∧ key a ≠ key e then
    some
      { entries := insert e t.entries
        ident_injOn := by
          rw [Finset.coe_insert, Set.injOn_insert fun hMem => (h e hMem).1 rfl]
          refine ⟨t.ident_injOn, ?_⟩
          rintro ⟨a, ha, hSame⟩
          exact (h a ha).1 hSame
        key_injOn := by
          rw [Finset.coe_insert, Set.injOn_insert fun hMem => (h e hMem).1 rfl]
          refine ⟨t.key_injOn, ?_⟩
          rintro ⟨a, ha, hSame⟩
          exact (h a ha).2 hSame }
  else none

open Classical in
/-- The table without the entry that has an identifier. -/
noncomputable def erase (t : UniqueTable ident key) (i : ι) : UniqueTable ident key where
  entries := t.entries.filter fun e => ident e ≠ i
  ident_injOn := t.ident_injOn.mono (Finset.coe_subset.mpr (Finset.filter_subset _ _))
  key_injOn := t.key_injOn.mono (Finset.coe_subset.mpr (Finset.filter_subset _ _))

/-- The table with an entry in place of the one with its identifier, unless another
entry has its key. -/
noncomputable def replace? (t : UniqueTable ident key) (e : α) :
    Option (UniqueTable ident key) :=
  (t.erase (ident e)).insert? e

theorem byIdent_empty (i : ι) : (empty : UniqueTable ident key).byIdent i = none := by
  refine Option.eq_none_iff_forall_ne_some.mpr fun e he => ?_
  obtain ⟨hMem, -⟩ := (byIdent_eq_some_iff _).mp he
  cases hMem

theorem byIdent_erase [DecidableEq ι] (t : UniqueTable ident key) (i j : ι) :
    (t.erase i).byIdent j = if i = j then none else t.byIdent j := by
  ext e
  rw [byIdent_eq_some_iff, erase]
  split
  · rename_i hSame
    subst hSame
    simp
  · rename_i hOther
    simp only [byIdent_eq_some_iff, Finset.mem_filter]
    constructor
    · rintro ⟨⟨hMem, -⟩, hIdent⟩
      exact ⟨hMem, hIdent⟩
    · rintro ⟨hMem, rfl⟩
      exact ⟨⟨hMem, fun hSame => hOther hSame.symm⟩, rfl⟩

theorem byIdent_of_insert? [DecidableEq ι] {t t' : UniqueTable ident key} {e : α}
    (h : t.insert? e = some t') (j : ι) :
    t'.byIdent j = if ident e = j then some e else t.byIdent j := by
  rw [insert?] at h
  split at h
  · rename_i hFree
    cases h
    ext a
    simp only [byIdent_eq_some_iff, Finset.mem_insert]
    split
    · rename_i hSame
      subst hSame
      constructor
      · rintro ⟨rfl | hMem, hIdent⟩
        · rfl
        · exact absurd hIdent (hFree a hMem).1
      · intro ha
        cases ha
        exact ⟨.inl rfl, rfl⟩
    · rename_i hOther
      rw [byIdent_eq_some_iff]
      constructor
      · rintro ⟨rfl | hMem, hIdent⟩
        · exact absurd hIdent hOther
        · exact ⟨hMem, hIdent⟩
      · rintro ⟨hMem, hIdent⟩
        exact ⟨.inr hMem, hIdent⟩
  · cases h

open Classical in
/-- An entry may be replaced by one with its identifier and its key. -/
theorem exists_replace? (t : UniqueTable ident key) {old e : α} (hOld : old ∈ t.entries)
    (hIdent : ident old = ident e) (hKey : key old = key e) :
    ∃ t', t.replace? e = some t' := by
  have hFree : ∀ a ∈ (t.erase (ident e)).entries, ident a ≠ ident e ∧ key a ≠ key e := by
    intro a ha
    obtain ⟨hMem, hOther⟩ := Finset.mem_filter.mp ha
    refine ⟨hOther, fun hSame => hOther ?_⟩
    rw [t.key_injOn hMem hOld (hSame.trans hKey.symm), hIdent]
  exact ⟨_, dif_pos hFree⟩

theorem byIdent_of_replace? [DecidableEq ι] {t t' : UniqueTable ident key} {e : α}
    (h : t.replace? e = some t') (j : ι) :
    t'.byIdent j = if ident e = j then some e else t.byIdent j := by
  rw [byIdent_of_insert? h, byIdent_erase]
  split
  · rfl
  · rfl

/-- The entries in the order of a rank. -/
noncomputable def listing {ρ : Type*} [LinearOrder ρ] (rank : α → ρ)
    (t : UniqueTable ident key) : List α :=
  t.entries.toList.mergeSort fun a b => decide (rank a ≤ rank b)

theorem mem_listing {ρ : Type*} [LinearOrder ρ] {rank : α → ρ}
    (t : UniqueTable ident key) {e : α} : e ∈ t.listing rank ↔ e ∈ t.entries := by
  rw [listing, List.mem_mergeSort, Finset.mem_toList]

/-- If the key can be read off the rank, the listing is strictly ascending. -/
theorem listing_pairwise_lt {ρ : Type*} [LinearOrder ρ] {rank : α → ρ}
    (hRank : ∀ a b, rank a = rank b → key a = key b) (t : UniqueTable ident key) :
    (t.listing rank).Pairwise fun a b => rank a < rank b := by
  have hNodup : (t.listing rank).Nodup :=
    (List.mergeSort_perm _ _).nodup_iff.mpr (Finset.nodup_toList _)
  have hSorted := (pairwise_mergeSort_rank rank t.entries.toList).and hNodup
  refine hSorted.imp_of_mem fun {a b} ha hb hab => ?_
  refine lt_of_le_of_ne hab.1 fun hSame => hab.2 ?_
  exact t.key_injOn (t.mem_listing.mp ha) (t.mem_listing.mp hb) (hRank a b hSame)

/-! ### Lists of rows -/

/-- The rows of a table, in some order. -/
structure Represents (rows : List α) (t : UniqueTable ident key) : Prop where
  idents : (rows.map ident).Nodup
  keys : (rows.map key).Nodup
  mem : ∀ e, e ∈ rows ↔ e ∈ t.entries

namespace Represents

variable {rows : List α} {t : UniqueTable ident key}

theorem nil : Represents [] (empty : UniqueTable ident key) :=
  ⟨List.nodup_nil, List.nodup_nil, fun e => by simp [empty]⟩

/-- In a list on which `f` has no value twice, the rows with a value are one or none. -/
theorem filter_eq_toList {β : Type*} [DecidableEq β] {f : α → β} (hf : (rows.map f).Nodup)
    {b : β} {found : Option α} (hFound : ∀ e, found = some e ↔ e ∈ rows ∧ f e = b) :
    rows.filter (fun e => f e = b) = found.toList := by
  have hAll : ∀ e ∈ rows.filter (fun e => f e = b), found = some e := by
    intro e he
    obtain ⟨hMem, hValue⟩ := List.mem_filter.mp he
    exact (hFound e).mpr ⟨hMem, of_decide_eq_true hValue⟩
  cases found with
  | none =>
      refine List.eq_nil_iff_forall_not_mem.mpr fun e he => ?_
      cases hAll e he
  | some e =>
      obtain ⟨hMem, hValue⟩ := (hFound e).mp rfl
      refine List.perm_singleton.mp ?_
      rw [List.perm_ext_iff_of_nodup (hf.of_map.filter _) (List.nodup_singleton e)]
      intro a
      rw [List.mem_singleton]
      constructor
      · intro ha
        exact (Option.some.inj (hAll a ha)).symm
      · rintro rfl
        exact List.mem_filter.mpr ⟨hMem, decide_eq_true hValue⟩

theorem filter_ident [DecidableEq ι] (h : Represents rows t) (i : ι) :
    rows.filter (fun e => ident e = i) = (t.byIdent i).toList :=
  filter_eq_toList h.idents fun e => by rw [byIdent_eq_some_iff, h.mem]

theorem filter_key [DecidableEq κ] (h : Represents rows t) (k : κ) :
    rows.filter (fun e => key e = k) = (t.byKey k).toList :=
  filter_eq_toList h.keys fun e => by rw [byKey_eq_some_iff, h.mem]

/-- Appending a row inserts it, and both are refused on the same conflicts. -/
theorem insert? (h : Represents rows t) (e : α) :
    ((∃ a ∈ rows, ident a = ident e ∨ key a = key e) ∧ t.insert? e = none) ∨
      (¬∃ a ∈ rows, ident a = ident e ∨ key a = key e) ∧
        ∃ t', t.insert? e = some t' ∧ Represents (rows ++ [e]) t' := by
  rw [UniqueTable.insert?]
  split
  · rename_i hFresh
    right
    have hNew : ∀ a ∈ rows, ident a ≠ ident e ∧ key a ≠ key e :=
      fun a ha => hFresh a ((h.mem a).mp ha)
    refine ⟨?_, _, rfl, ?_, ?_, ?_⟩
    · rintro ⟨a, ha, hIdent | hKey⟩
      · exact (hNew a ha).1 hIdent
      · exact (hNew a ha).2 hKey
    · exact nodup_map_append_singleton_iff.mpr ⟨h.idents, fun a ha => (hNew a ha).1⟩
    · exact nodup_map_append_singleton_iff.mpr ⟨h.keys, fun a ha => (hNew a ha).2⟩
    · intro a
      simp only [List.mem_append, List.mem_singleton, Finset.mem_insert, h.mem, or_comm]
  · rename_i hTaken
    left
    push Not at hTaken
    obtain ⟨a, ha, hSame⟩ := hTaken
    refine ⟨⟨a, (h.mem a).mpr ha, ?_⟩, rfl⟩
    by_cases hIdent : ident a = ident e
    · exact .inl hIdent
    · exact .inr (hSame hIdent)

/-- Deleting a row erases it. -/
theorem erase [DecidableEq ι] (h : Represents rows t) (i : ι) :
    Represents (rows.filter fun e => ident e ≠ i) (t.erase i) where
  idents := h.idents.sublist (List.filter_sublist.map _)
  keys := h.keys.sublist (List.filter_sublist.map _)
  mem := fun e => by
    simp only [UniqueTable.erase, List.mem_filter, Finset.mem_filter, h.mem,
      decide_eq_true_eq]

/-- Rows in any order represent the table. -/
theorem perm {rows' : List α} (h : Represents rows t) (hPerm : rows'.Perm rows) :
    Represents rows' t where
  idents := (hPerm.map ident).nodup_iff.mpr h.idents
  keys := (hPerm.map key).nodup_iff.mpr h.keys
  mem := fun e => by rw [hPerm.mem_iff, h.mem]

/-- The rows with one of them replaced are the other rows and the new one. -/
theorem map_replace_perm [DecidableEq ι] (h : Represents rows t) {old e : α}
    (hOld : old ∈ rows) (hIdent : ident old = ident e) :
    (rows.map fun a => if ident a = ident e then e else a).Perm
      (rows.filter (fun a => ident a ≠ ident e) ++ [e]) := by
  have hSplit := (List.filter_append_perm (fun a => decide (ident a = ident e)) rows).symm
  have hOne : rows.filter (fun a => ident a = ident e) = [old] := by
    rw [h.filter_ident, (t.byIdent_eq_some_iff).mpr ⟨(h.mem old).mp hOld, hIdent⟩]
    rfl
  have hKept : (rows.filter fun a => ident a ≠ ident e).map
      (fun a => if ident a = ident e then e else a) =
        rows.filter fun a => ident a ≠ ident e := by
    refine (List.map_congr_left fun a ha => ?_).trans (List.map_id _)
    rw [if_neg (of_decide_eq_true (List.mem_filter.mp ha).2), id]
  refine (hSplit.map _).trans ?_
  rw [hOne, List.map_append, List.map_singleton, if_pos hIdent]
  refine List.perm_append_comm.trans ?_
  have hNot : (fun a => !decide (ident a = ident e)) = fun a => decide (ident a ≠ ident e) :=
    funext fun a => by simp
  rw [hNot, hKept]

/-- Replacing the row with an identifier in place replaces the entry, and both are
refused on the same conflict. -/
theorem replace? [DecidableEq ι] (h : Represents rows t) {old e : α} (hOld : old ∈ rows)
    (hIdent : ident old = ident e) :
    ((∃ a ∈ rows, ident a ≠ ident e ∧ key a = key e) ∧ t.replace? e = none) ∨
      (¬∃ a ∈ rows, ident a ≠ ident e ∧ key a = key e) ∧
        ∃ t', t.replace? e = some t' ∧
          Represents (rows.map fun a => if ident a = ident e then e else a) t' := by
  have hConflict : (∃ a ∈ rows.filter (fun a => ident a ≠ ident e),
      ident a = ident e ∨ key a = key e) ↔
        ∃ a ∈ rows, ident a ≠ ident e ∧ key a = key e := by
    constructor
    · rintro ⟨a, ha, hSame⟩
      obtain ⟨hMem, hNe⟩ := List.mem_filter.mp ha
      have hNe' : ident a ≠ ident e := of_decide_eq_true hNe
      exact ⟨a, hMem, hNe', hSame.resolve_left hNe'⟩
    · rintro ⟨a, hMem, hNe, hSame⟩
      exact ⟨a, List.mem_filter.mpr ⟨hMem, decide_eq_true hNe⟩, .inr hSame⟩
  rcases (h.erase (ident e)).insert? e with ⟨hTaken, hNone⟩ | ⟨hFree, t', hSome, hRows⟩
  · exact .inl ⟨hConflict.mp hTaken, hNone⟩
  · exact .inr ⟨mt hConflict.mpr hFree, t', hSome,
      hRows.perm (h.map_replace_perm hOld hIdent)⟩

/-- If the key can be read off the rank, the rows in order of rank are the listing of
the table. -/
theorem mergeSort_eq_listing {ρ : Type*} [LinearOrder ρ] {rank : α → ρ}
    (hRank : ∀ a b, rank a = rank b → key a = key b) (h : Represents rows t) :
    rows.mergeSort (fun a b => decide (rank a ≤ rank b)) = t.listing rank := by
  have hRows : rows.Perm t.entries.toList := by
    rw [List.perm_ext_iff_of_nodup h.idents.of_map (Finset.nodup_toList _)]
    intro e
    rw [Finset.mem_toList, h.mem]
  have hPerm := ((List.mergeSort_perm rows fun a b => decide (rank a ≤ rank b)).trans hRows).trans
    (List.mergeSort_perm t.entries.toList fun a b => decide (rank a ≤ rank b)).symm
  refine hPerm.eq_of_pairwise (fun a b ha hb hab hba => ?_)
    (pairwise_mergeSort_rank rank rows) (pairwise_mergeSort_rank rank t.entries.toList)
  have hAMem := (List.mergeSort_perm rows _).mem_iff.mp ha
  have hBMem := hRows.mem_iff.mpr ((List.mergeSort_perm t.entries.toList _).mem_iff.mp hb)
  exact List.inj_on_of_nodup_map h.keys hAMem hBMem (hRank a b (le_antisymm hab hba))

end Represents

end UniqueTable

end Library
end DataApi
