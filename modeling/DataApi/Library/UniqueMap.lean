import Mathlib.Data.List.Nodup
import Mathlib.Data.List.Pairwise
import Mathlib.Logic.Function.Basic

/-!
# Entries with unique attributes

A map from keys to entries in which some attributes of the entries are unique: no two
keys have entries with the same value of one of them.  An entry may lack an attribute,
and any number of entries may.  This is what a table with a primary key and unique
indexes on nullable columns keeps, without its rows and their order.
-/

namespace DataApi
namespace Library

variable {ι α γ : Type*} {κ : γ → Type*}

/-- The values of a partial function on a list without duplicates are free of duplicates
exactly if the function tells its elements apart. -/
theorem nodup_filterMap_iff {β : Type*} {f : α → Option β} {l : List α} (hl : l.Nodup) :
    (l.filterMap f).Nodup ↔
      ∀ a ∈ l, ∀ b ∈ l, ∀ v, f a = some v → f b = some v → a = b := by
  rw [List.Nodup, List.pairwise_filterMap]
  constructor
  · intro hPairs a ha b hb v hA hB
    by_contra hNe
    have hSymm : Std.Symm fun a b => ∀ u, f a = some u → ∀ v, f b = some v → u ≠ v :=
      ⟨fun a b hab u hu v hv => (hab v hv u hu).symm⟩
    exact hPairs.forall ha hb hNe v hA v hB rfl
  · intro hInj
    refine hl.imp_of_mem fun ha hb hNe u hu v hv hSame => hNe ?_
    subst hSame
    exact hInj _ ha _ hb u hu hv

/-- A partial map whose entries no attribute takes to one value twice. -/
structure UniqueMap (ι : Type*) (attr : ∀ c, α → Option (κ c)) where
  entry : ι → Option α
  unique : ∀ c i j a b v, entry i = some a → entry j = some b →
    attr c a = some v → attr c b = some v → i = j

namespace UniqueMap

variable {attr : ∀ c, α → Option (κ c)}

/-- The map without entries. -/
def empty : UniqueMap ι attr where
  entry _ := none
  unique _ _ _ _ _ _ h := by cases h

/-- Some key, other than the one that is left out, has an entry with the value. -/
def Held (t : UniqueMap ι attr) (except : Option ι) (c : γ) (v : Option (κ c)) : Prop :=
  ∃ i a, except ≠ some i ∧ t.entry i = some a ∧ v ≠ none ∧ attr c a = v

/-- The entry can be put under the key. -/
def Free (t : UniqueMap ι attr) (i : ι) (a : α) : Prop :=
  ∀ c, ¬t.Held (some i) c (attr c a)

section Put

variable [DecidableEq ι] (t : UniqueMap ι attr) {i j : ι} {a b : α}

/-- The map with an entry under a key. -/
def put (i : ι) (a : α) (h : t.Free i a) : UniqueMap ι attr where
  entry := Function.update t.entry i (some a)
  unique := by
    intro c j k b b' v hB hB' hV hV'
    -- the new entry shares no value with an entry under another key
    have hNew : ∀ k b', k ≠ i → t.entry k = some b' → attr c a = some v →
        attr c b' ≠ some v := by
      intro k b' hk hEntry hA hSame
      refine h c ⟨k, b', fun hKey => hk (Option.some.inj hKey).symm, hEntry, ?_, ?_⟩
      · rw [hA]
        exact Option.some_ne_none v
      · rw [hA, hSame]
    by_cases hj : j = i
    · by_cases hk : k = i
      · exact hj.trans hk.symm
      · rw [hj, Function.update_self] at hB
        rw [Function.update_of_ne hk] at hB'
        cases hB
        exact absurd hV' (hNew k b' hk hB' hV)
    · by_cases hk : k = i
      · rw [hk, Function.update_self] at hB'
        rw [Function.update_of_ne hj] at hB
        cases hB'
        exact absurd hV (hNew j b hj hB hV')
      · rw [Function.update_of_ne hj] at hB
        rw [Function.update_of_ne hk] at hB'
        exact t.unique c j k b b' v hB hB' hV hV'

@[simp] theorem entry_put_self (h : t.Free i a) : (t.put i a h).entry i = some a :=
  Function.update_self ..

@[simp] theorem entry_put_of_ne (h : t.Free i a) (hj : j ≠ i) :
    (t.put i a h).entry j = t.entry j :=
  Function.update_of_ne hj ..

/-- The map without the entry of a key. -/
def erase (i : ι) : UniqueMap ι attr where
  entry := Function.update t.entry i none
  unique := by
    have hOld : ∀ {j b}, Function.update t.entry i none j = some b → t.entry j = some b := by
      intro j b hB
      by_cases hj : j = i
      · rw [hj, Function.update_self] at hB
        cases hB
      · rwa [Function.update_of_ne hj] at hB
    intro c j k b b' v hB hB' hV hV'
    exact t.unique c j k b b' v (hOld hB) (hOld hB') hV hV'

@[simp] theorem entry_erase_self : (t.erase i).entry i = none :=
  Function.update_self ..

@[simp] theorem entry_erase_of_ne (hj : j ≠ i) : (t.erase i).entry j = t.entry j :=
  Function.update_of_ne hj ..

end Put

variable {t : UniqueMap ι attr} {i : ι} {a : α} {c : γ}

/-- No other key holds a value of the entry of a key. -/
theorem not_held_of_entry (h : t.entry i = some a) (c : γ) :
    ¬t.Held (some i) c (attr c a) := by
  intro hHeld
  obtain ⟨j, b, hNe, hB, hSome, hSame⟩ := hHeld
  obtain ⟨v, hV⟩ := Option.ne_none_iff_exists'.mp hSome
  exact hNe (congrArg some (t.unique c i j a b v h hB hV (hSame.trans hV)))

/-- A key can be put again with its entry, and nothing changes. -/
theorem put_of_entry [DecidableEq ι] (hEntry : t.entry i = some a) (hFree : t.Free i a) :
    t.put i a hFree = t := by
  have hSame : Function.update t.entry i (some a) = t.entry := by
    rw [← hEntry, Function.update_eq_self]
  obtain ⟨entry, unique⟩ := t
  simp only [put, mk.injEq]
  exact hSame

open Classical in
/-- The key with the entry that has a value. -/
noncomputable def byAttr (t : UniqueMap ι attr) (c : γ) (v : κ c) : Option (ι × α) :=
  if h : ∃ e : ι × α, t.entry e.1 = some e.2 ∧ attr c e.2 = some v then some h.choose
  else none

theorem byAttr_eq_some_iff {v : κ c} :
    t.byAttr c v = some (i, a) ↔ t.entry i = some a ∧ attr c a = some v := by
  rw [byAttr]
  split
  · rename_i hExists
    obtain ⟨hEntry, hValue⟩ := hExists.choose_spec
    constructor
    · intro hChosen
      rw [Option.some.inj hChosen] at hEntry hValue
      exact ⟨hEntry, hValue⟩
    · intro hFound
      obtain ⟨hOther, hOtherValue⟩ := hFound
      -- there is one key with the value
      have hKey : hExists.choose.1 = i :=
        t.unique c _ _ _ _ v hEntry hOther hValue hOtherValue
      rw [hKey] at hEntry
      rw [Option.some.injEq]
      exact Prod.ext hKey (Option.some.inj (hEntry.symm.trans hOther))
  · rename_i hNone
    exact iff_of_false (fun h => by cases h) fun h => hNone ⟨(i, a), h⟩

theorem byAttr_eq_none_iff {v : κ c} :
    t.byAttr c v = none ↔ ∀ i a, t.entry i = some a → attr c a ≠ some v := by
  rw [Option.eq_none_iff_forall_ne_some]
  constructor
  · intro hNone i a hEntry hValue
    exact hNone (i, a) (byAttr_eq_some_iff.mpr ⟨hEntry, hValue⟩)
  · intro hNone found hFound
    obtain ⟨hEntry, hValue⟩ := byAttr_eq_some_iff.mp hFound
    exact hNone _ _ hEntry hValue

end UniqueMap

end Library
end DataApi
