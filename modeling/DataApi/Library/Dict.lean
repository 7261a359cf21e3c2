import Mathlib.Data.List.Basic
import Mathlib.Data.List.Nodup

/-!
# Insertion-ordered dictionaries

A dictionary is a list of entries in which every key occurs once.  Assigning
to a present key keeps its position, assigning to a new key appends it.  The
uniqueness of the keys is a field of the structure, so a dictionary with two
entries for one key cannot be built.
-/

namespace DataApi
namespace Library

/-- Overwrite the entry of `key`, or append one. -/
def setEntry {K V : Type*} [DecidableEq K] (key : K) (value : V) :
    List (K × V) → List (K × V)
  | [] => [(key, value)]
  | (k, v) :: rest =>
      if k = key then (k, value) :: rest else (k, v) :: setEntry key value rest

theorem mem_keys_setEntry {K V : Type*} [DecidableEq K] (key k : K) (value : V)
    (entries : List (K × V)) :
    k ∈ (setEntry key value entries).map Prod.fst ↔
      k = key ∨ k ∈ entries.map Prod.fst := by
  induction entries with
  | nil => simp [setEntry]
  | cons e rest ih =>
      obtain ⟨k₀, v₀⟩ := e
      by_cases hk : k₀ = key
      · subst hk
        simp [setEntry]
      · simp only [setEntry, if_neg hk, List.map_cons, List.mem_cons, ih]
        tauto

theorem nodup_keys_setEntry {K V : Type*} [DecidableEq K] (key : K) (value : V)
    {entries : List (K × V)} (h : (entries.map Prod.fst).Nodup) :
    ((setEntry key value entries).map Prod.fst).Nodup := by
  induction entries with
  | nil => simp [setEntry]
  | cons e rest ih =>
      obtain ⟨k₀, v₀⟩ := e
      rw [List.map_cons, List.nodup_cons] at h
      by_cases hk : k₀ = key
      · simpa [setEntry, hk] using h
      · simp only [setEntry, if_neg hk, List.map_cons, List.nodup_cons]
        refine ⟨?_, ih h.2⟩
        rw [mem_keys_setEntry]
        rintro (hEq | hMem)
        · exact hk hEq
        · exact h.1 hMem

/-- An insertion-ordered dictionary. -/
structure Dict (K V : Type*) where
  entries : List (K × V)
  nodup : (entries.map Prod.fst).Nodup

namespace Dict

variable {K V : Type*}

/-- The dictionary without entries. -/
def empty : Dict K V := ⟨[], List.nodup_nil⟩

instance : Inhabited (Dict K V) := ⟨empty⟩

/-- The keys in insertion order. -/
def keys (d : Dict K V) : List K := d.entries.map Prod.fst

/-- The number of entries. -/
def size (d : Dict K V) : Nat := d.entries.length

variable [DecidableEq K]

/-- The value stored for a key. -/
def get? (d : Dict K V) (key : K) : Option V := d.entries.lookup key

/-- Assign a value to a key. -/
def set (d : Dict K V) (key : K) (value : V) : Dict K V :=
  ⟨setEntry key value d.entries, nodup_keys_setEntry key value d.nodup⟩

/-- Remove a key. -/
def erase (d : Dict K V) (key : K) : Dict K V :=
  ⟨d.entries.filter fun e => e.1 ≠ key,
    d.nodup.sublist ((List.filter_sublist).map Prod.fst)⟩

private theorem lookup_cons_ite (k k₀ : K) (v₀ : V) (rest : List (K × V)) :
    ((k₀, v₀) :: rest).lookup k = if k = k₀ then some v₀ else rest.lookup k := by
  rw [List.lookup_cons]
  by_cases hk : k = k₀
  · subst hk
    simp
  · simp [beq_false_of_ne hk, hk]

private theorem lookup_setEntry (key k : K) (value : V)
    (entries : List (K × V)) :
    (setEntry key value entries).lookup k =
      if k = key then some value else entries.lookup k := by
  induction entries with
  | nil => rw [setEntry, lookup_cons_ite]
  | cons e rest ih =>
      obtain ⟨k₀, v₀⟩ := e
      by_cases hKey : k₀ = key
      · subst hKey
        rw [setEntry, if_pos rfl, lookup_cons_ite, lookup_cons_ite]
        split_ifs <;> rfl
      · rw [setEntry, if_neg hKey, lookup_cons_ite, lookup_cons_ite, ih]
        by_cases hk : k = k₀
        · subst hk
          rw [if_pos rfl, if_pos rfl, if_neg hKey]
        · rw [if_neg hk, if_neg hk]

/-- Reading after an assignment. -/
theorem get?_set (d : Dict K V) (key k : K) (value : V) :
    (d.set key value).get? k = if k = key then some value else d.get? k :=
  lookup_setEntry key k value d.entries

@[simp] theorem get?_set_self (d : Dict K V) (key : K) (value : V) :
    (d.set key value).get? key = some value := by
  rw [get?_set, if_pos rfl]

theorem get?_set_of_ne (d : Dict K V) {key k : K} (value : V) (h : k ≠ key) :
    (d.set key value).get? k = d.get? k := by
  rw [get?_set, if_neg h]

/-- Every entry of `d` is one of `e`. -/
def SubDict (d e : Dict K V) : Prop :=
  ∀ key value, d.get? key = some value → e.get? key = some value

theorem SubDict.refl (d : Dict K V) : d.SubDict d :=
  fun _ _ h => h

theorem SubDict.trans {d e f : Dict K V} (hde : d.SubDict e) (hef : e.SubDict f) :
    d.SubDict f :=
  fun key value h => hef key value (hde key value h)

/-- `d.update(e)`. -/
def update (d e : Dict K V) : Dict K V :=
  e.entries.foldl (fun d entry => d.set entry.1 entry.2) d

section Assignments

variable {E : Type*} (key : E → K) (value : E → V)

/-- A run of assignments keeps the values of the keys it does not assign. -/
theorem get?_foldl_set_of_notMem {entries : List E} (d : Dict K V) {k : K}
    (h : ∀ e ∈ entries, key e ≠ k) :
    (entries.foldl (fun d e => d.set (key e) (value e)) d).get? k = d.get? k := by
  induction entries generalizing d with
  | nil => rfl
  | cons e rest ih =>
      rw [List.foldl_cons, ih _ fun e' he' => h e' (List.mem_cons_of_mem _ he'),
        get?_set_of_ne d _ (h e List.mem_cons_self).symm]

/-- It gives a key the value it is assigned, if that is always the same. -/
theorem get?_foldl_set_of_mem {entries : List E} (d : Dict K V) {k : K} {v : V}
    (hMem : ∃ e ∈ entries, key e = k)
    (hValue : ∀ e ∈ entries, key e = k → value e = v) :
    (entries.foldl (fun d e => d.set (key e) (value e)) d).get? k = some v := by
  induction entries generalizing d with
  | nil =>
      obtain ⟨e, he, -⟩ := hMem
      cases he
  | cons e rest ih =>
      rw [List.foldl_cons]
      have hRest := fun e' (he' : e' ∈ rest) => hValue e' (List.mem_cons_of_mem _ he')
      by_cases hLater : ∃ e' ∈ rest, key e' = k
      · exact ih _ hLater hRest
      · push Not at hLater
        obtain ⟨e', he', hKey⟩ := hMem
        rcases List.mem_cons.mp he' with rfl | he'
        · rw [get?_foldl_set_of_notMem key value _ hLater, hKey, get?_set_self,
            hValue e' List.mem_cons_self hKey]
        · exact absurd hKey (hLater e' he')

end Assignments

/-- An update keeps the values of the keys it does not have. -/
theorem get?_update_of_notMem (d : Dict K V) {e : Dict K V} {key : K}
    (h : key ∉ e.keys) : (d.update e).get? key = d.get? key := by
  refine get?_foldl_set_of_notMem Prod.fst Prod.snd d fun entry hEntry hEq => ?_
  exact h (List.mem_map.mpr ⟨entry, hEntry, hEq⟩)

section Collect

variable {K V W ε : Type} [DecidableEq K] (f : K → V → Except ε W)

/-- Assign the results of `f` on the entries in their order; the first
exception is raised. -/
def collectM (entries : List (K × V)) (d : Dict K W) : Except ε (Dict K W) :=
  entries.foldlM (fun d entry => do
    let w ← f entry.1 entry.2
    return d.set entry.1 w) d

/-- The dictionary that is collected from entries on which `f` returns. -/
theorem exists_collectM {entries : List (K × V)} (d : Dict K W)
    (h : ∀ entry ∈ entries, ∃ w, f entry.1 entry.2 = .ok w) :
    ∃ d', collectM f entries d = .ok d' := by
  induction entries generalizing d with
  | nil => exact ⟨d, rfl⟩
  | cons entry rest ih =>
      obtain ⟨w, hw⟩ := h entry List.mem_cons_self
      obtain ⟨d', hd'⟩ := ih (d.set entry.1 w) fun e he => h e (List.mem_cons_of_mem _ he)
      refine ⟨d', ?_⟩
      rw [collectM, List.foldlM_cons, hw]
      exact hd'

/-- A collected dictionary holds the result of each entry, and what was there
for the other keys. -/
theorem get?_of_collectM {entries : List (K × V)} {d d' : Dict K W}
    (h : collectM f entries d = .ok d') (hNodup : (entries.map Prod.fst).Nodup) :
    (∀ entry ∈ entries, ∃ w, f entry.1 entry.2 = .ok w ∧ d'.get? entry.1 = some w) ∧
      ∀ k, k ∉ entries.map Prod.fst → d'.get? k = d.get? k := by
  induction entries generalizing d with
  | nil =>
      cases h
      exact ⟨nofun, fun _ _ => rfl⟩
  | cons entry rest ih =>
      rw [List.map_cons, List.nodup_cons] at hNodup
      rw [collectM, List.foldlM_cons] at h
      cases hw : f entry.1 entry.2 with
      | error e =>
          rw [hw] at h
          cases h
      | ok w =>
          rw [hw] at h
          obtain ⟨hRest, hOther⟩ := ih h hNodup.2
          constructor
          · intro e he
            rcases List.mem_cons.mp he with rfl | he
            · exact ⟨w, hw, (hOther _ hNodup.1).trans (get?_set_self d _ w)⟩
            · exact hRest e he
          · intro k hk
            rw [List.map_cons, List.mem_cons, not_or] at hk
            rw [hOther k hk.2, get?_set_of_ne d w hk.1]

/-- Collecting raises the exception of the first entry on which `f` raises. -/
theorem collectM_eq_error_iff {entries : List (K × V)} {d : Dict K W} {e : ε} :
    collectM f entries d = .error e ↔ ∃ before entry after,
      entries = before ++ entry :: after ∧
        (∀ x ∈ before, ∃ w, f x.1 x.2 = .ok w) ∧ f entry.1 entry.2 = .error e := by
  induction entries generalizing d with
  | nil =>
      refine iff_of_false (fun h => ?_) ?_
      · cases h
      · rintro ⟨before, entry, after, hSplit, -⟩
        simp at hSplit
  | cons first rest ih =>
      rw [collectM, List.foldlM_cons]
      cases hFirst : f first.1 first.2 with
      | error e' =>
          change Except.error e' = Except.error e ↔ _
          rw [Except.error.injEq]
          constructor
          · rintro rfl
            exact ⟨[], first, rest, rfl, fun x hx => (by cases hx), hFirst⟩
          · rintro ⟨before, entry, after, hSplit, hBefore, hEntry⟩
            cases before with
            | nil =>
                cases hSplit
                exact Except.error.inj (hFirst.symm.trans hEntry)
            | cons x before =>
                obtain ⟨rfl, -⟩ := List.cons.inj hSplit
                obtain ⟨w, hw⟩ := hBefore first List.mem_cons_self
                cases hFirst.symm.trans hw
      | ok w =>
          refine (ih (d := d.set first.1 w)).trans ⟨?_, ?_⟩
          · rintro ⟨before, entry, after, rfl, hBefore, hEntry⟩
            refine ⟨first :: before, entry, after, rfl, fun x hx => ?_, hEntry⟩
            rcases List.mem_cons.mp hx with rfl | hx
            · exact ⟨w, hFirst⟩
            · exact hBefore x hx
          · rintro ⟨before, entry, after, hSplit, hBefore, hEntry⟩
            cases before with
            | nil =>
                cases hSplit
                cases hFirst.symm.trans hEntry
            | cons x before =>
                obtain ⟨rfl, hRest⟩ := List.cons.inj hSplit
                exact ⟨before, entry, after, hRest,
                  fun x hx => hBefore x (List.mem_cons_of_mem _ hx), hEntry⟩

end Collect

theorem setEntry_of_notMem {key : K} (value : V) {entries : List (K × V)}
    (h : key ∉ entries.map Prod.fst) :
    setEntry key value entries = entries ++ [(key, value)] := by
  induction entries with
  | nil => rfl
  | cons e rest ih =>
      rw [List.map_cons, List.mem_cons, not_or] at h
      rw [setEntry, if_neg (Ne.symm h.1), ih h.2, List.cons_append]

/-- A new key is appended with its value. -/
theorem entries_set_of_notMem {d : Dict K V} {key : K} (value : V) (h : key ∉ d.keys) :
    (d.set key value).entries = d.entries ++ [(key, value)] :=
  setEntry_of_notMem value h

/-- A new key is appended. -/
theorem keys_set_of_notMem {d : Dict K V} {key : K} (value : V) (h : key ∉ d.keys) :
    (d.set key value).keys = d.keys ++ [key] := by
  change (setEntry key value d.entries).map Prod.fst = _
  rw [setEntry_of_notMem value h, List.map_append]
  rfl

/-- Two dictionaries with the same keys in the same order and the same values are
equal. -/
theorem ext_get? {d e : Dict K V} (hKeys : d.keys = e.keys)
    (hGet : ∀ key, d.get? key = e.get? key) : d = e := by
  obtain ⟨dentries, hd⟩ := d
  obtain ⟨eentries, he⟩ := e
  have hEntries : dentries = eentries := by
    change dentries.map Prod.fst = eentries.map Prod.fst at hKeys
    change ∀ key, dentries.lookup key = eentries.lookup key at hGet
    induction dentries generalizing eentries with
    | nil =>
        cases eentries with
        | nil => rfl
        | cons entry rest => cases hKeys
    | cons entry rest ih =>
        cases eentries with
        | nil => cases hKeys
        | cons entry' rest' =>
            obtain ⟨key, value⟩ := entry
            obtain ⟨key', value'⟩ := entry'
            obtain ⟨rfl, hRest⟩ := List.cons.inj hKeys
            rw [List.map_cons, List.nodup_cons] at hd he
            have hValue := hGet key
            rw [lookup_cons_ite, lookup_cons_ite, if_pos rfl, if_pos rfl,
              Option.some.injEq] at hValue
            have hLookup : ∀ k, rest.lookup k = rest'.lookup k := by
              intro k
              by_cases hk : k = key
              · -- the key of the first entry is none of the others
                have hNone : ∀ entries : List (K × V), key ∉ entries.map Prod.fst →
                    entries.lookup key = none := by
                  intro entries hKey
                  rw [List.lookup_eq_none_iff]
                  intro entry hEntry
                  have hNe : key ≠ entry.1 := fun hEq =>
                    hKey (List.mem_map.mpr ⟨entry, hEntry, hEq.symm⟩)
                  simpa using hNe
                rw [hk, hNone rest hd.1, hNone rest' he.1]
              · have hThis := hGet k
                rwa [lookup_cons_ite, lookup_cons_ite, if_neg hk, if_neg hk] at hThis
            rw [hValue, ih hd.2 rest' he.2 hRest hLookup]
  cases hEntries
  rfl

/-- A collected dictionary has the keys of the entries, in their order. -/
theorem keys_of_collectM {K V W ε : Type} [DecidableEq K] {f : K → V → Except ε W}
    {entries : List (K × V)} {d d' : Dict K W} (h : collectM f entries d = .ok d')
    (hNodup : (entries.map Prod.fst).Nodup)
    (hNew : ∀ key ∈ entries.map Prod.fst, key ∉ d.keys) :
    d'.keys = d.keys ++ entries.map Prod.fst := by
  induction entries generalizing d with
  | nil =>
      cases h
      exact (List.append_nil _).symm
  | cons entry rest ih =>
      rw [List.map_cons, List.nodup_cons] at hNodup
      rw [collectM, List.foldlM_cons] at h
      cases hw : f entry.1 entry.2 with
      | error e =>
          rw [hw] at h
          cases h
      | ok w =>
          rw [hw] at h
          have hKeys := keys_set_of_notMem w (hNew entry.1 List.mem_cons_self)
          rw [ih h hNodup.2 fun key hKey => ?_, hKeys, List.append_assoc]
          · rfl
          · rw [hKeys, List.mem_append, List.mem_singleton, not_or]
            refine ⟨hNew key (List.mem_cons_of_mem _ hKey), ?_⟩
            rintro rfl
            exact hNodup.1 hKey

theorem mem_entries_iff (d : Dict K V) (key : K) (value : V) :
    (key, value) ∈ d.entries ↔ d.get? key = some value := by
  obtain ⟨entries, hNodup⟩ := d
  change (key, value) ∈ entries ↔ entries.lookup key = some value
  induction entries with
  | nil => simp
  | cons e rest ih =>
      obtain ⟨k₀, v₀⟩ := e
      rw [List.map_cons, List.nodup_cons] at hNodup
      rw [List.mem_cons, lookup_cons_ite]
      by_cases hk : key = k₀
      · subst hk
        have hFresh : (key, value) ∉ rest := fun hMem =>
          hNodup.1 (List.mem_map.mpr ⟨(key, value), hMem, rfl⟩)
        simp [hFresh, eq_comm]
      · simp [hk, ih hNodup.2]

theorem mem_keys_iff (d : Dict K V) (key : K) :
    key ∈ d.keys ↔ ∃ value, d.get? key = some value := by
  constructor
  · intro hMem
    obtain ⟨⟨k, value⟩, hEntry, rfl⟩ := List.mem_map.mp hMem
    exact ⟨value, (d.mem_entries_iff k value).mp hEntry⟩
  · rintro ⟨value, hGet⟩
    exact List.mem_map.mpr
      ⟨(key, value), (d.mem_entries_iff key value).mpr hGet, rfl⟩

/-- Assigning to a key that is there keeps the keys and their order. -/
theorem keys_set_of_mem {d : Dict K V} {key : K} (value : V) (h : key ∈ d.keys) :
    (d.set key value).keys = d.keys := by
  obtain ⟨entries, hNodup⟩ := d
  change key ∈ entries.map Prod.fst at h
  change (setEntry key value entries).map Prod.fst = entries.map Prod.fst
  induction entries with
  | nil => cases h
  | cons e rest ih =>
      obtain ⟨k₀, v₀⟩ := e
      rw [List.map_cons, List.nodup_cons] at hNodup
      by_cases hk : k₀ = key
      · simp [setEntry, hk]
      · have hRest : key ∈ rest.map Prod.fst :=
          (List.mem_cons.mp h).resolve_left fun hEq => hk hEq.symm
        simp only [setEntry, if_neg hk, List.map_cons, ih hNodup.2 hRest]

/-- Equality of dictionaries as Python compares them: the same keys with the
same values, in any order. -/
def Agrees (d d' : Dict K V) : Prop := ∀ key, d.get? key = d'.get? key

theorem Agrees.refl (d : Dict K V) : d.Agrees d := fun _ => rfl

theorem get?_erase_of_ne (d : Dict K V) {key k : K} (h : k ≠ key) :
    (d.erase key).get? k = d.get? k := by
  have hIff : ∀ value, (d.erase key).get? k = some value ↔
      d.get? k = some value := by
    intro value
    rw [← mem_entries_iff, ← mem_entries_iff]
    simp [erase, h]
  exact Option.ext hIff

/-- The entries under some of the keys. -/
def restrict (d : Dict K V) (keys : List K) : Dict K V :=
  ⟨d.entries.filter fun e => e.1 ∈ keys,
    d.nodup.sublist ((List.filter_sublist).map Prod.fst)⟩

theorem get?_restrict (d : Dict K V) {keys : List K} {key : K} (h : key ∈ keys) :
    (d.restrict keys).get? key = d.get? key := by
  have hIff : ∀ value, (d.restrict keys).get? key = some value ↔
      d.get? key = some value := by
    intro value
    rw [← mem_entries_iff, ← mem_entries_iff]
    simp [restrict, h]
  exact Option.ext hIff

theorem mem_of_mem_keys_restrict {d : Dict K V} {keys : List K} {key : K}
    (h : key ∈ (d.restrict keys).keys) : key ∈ keys := by
  obtain ⟨e, hEntry, rfl⟩ := List.mem_map.mp h
  exact of_decide_eq_true (List.mem_filter.mp hEntry).2

end Dict

end Library
end DataApi
