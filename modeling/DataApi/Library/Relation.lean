import Mathlib.Data.List.Basic
import Mathlib.Data.List.Perm.Basic

/-!
# Bags of rows

Queries select, join and transform bags of rows, which are lists up to
permutation.  A selection may be pushed below a transformation exactly when the
two predicates agree on every row.
-/

namespace DataApi
namespace Library

variable {α β γ : Type*}

/-- The left outer join: a left row with every right row it matches, or alone. -/
def leftJoin (on : α → β → Bool) (left : List α) (right : List β) :
    List (α × Option β) :=
  left.flatMap fun a =>
    match right.filter (on a) with
    | [] => [(a, none)]
    | matching => matching.map fun b => (a, some b)

/-- The left rows of a join are those that were joined. -/
theorem mem_of_mem_leftJoin {on : α → β → Bool} {left : List α} {right : List β}
    {row : α × Option β} (h : row ∈ leftJoin on left right) : row.1 ∈ left := by
  obtain ⟨a, ha, hRow⟩ := List.mem_flatMap.mp h
  split at hRow
  · rw [List.mem_singleton.mp hRow]
    exact ha
  · obtain ⟨b, -, rfl⟩ := List.mem_map.mp hRow
    exact ha

/-- Every left row is in the join. -/
theorem exists_mem_leftJoin (on : α → β → Bool) {left : List α} (right : List β) {a : α}
    (h : a ∈ left) : ∃ b, (a, b) ∈ leftJoin on left right := by
  cases hMatch : right.filter (on a) with
  | nil => exact ⟨none, List.mem_flatMap.mpr ⟨a, h, by simp [hMatch]⟩⟩
  | cons b rest => exact ⟨some b, List.mem_flatMap.mpr ⟨a, h, by simp [hMatch]⟩⟩

/-- Two predicates, one of which implies the other, select as many rows only if
they agree. -/
theorem eq_of_length_filter {p q : α → Bool} {l : List α}
    (hImp : ∀ a ∈ l, p a = true → q a = true)
    (hLength : (l.filter p).length = (l.filter q).length) :
    ∀ a ∈ l, p a = q a := by
  have hNested : l.filter p = (l.filter q).filter p := by
    rw [List.filter_filter]
    refine List.filter_congr fun a ha => ?_
    cases hp : p a with
    | false => rfl
    | true => rw [hImp a ha hp]; rfl
  have hSame : l.filter p = l.filter q := by
    rw [hNested]
    refine List.filter_sublist.eq_of_length ?_
    rw [← hNested, hLength]
  intro a ha
  cases hq : q a with
  | false =>
      rw [Bool.eq_false_iff]
      intro hp
      rw [hImp a ha hp] at hq
      cases hq
  | true =>
      have hMem : a ∈ l.filter p := by
        rw [hSame]
        exact List.mem_filter.mpr ⟨ha, hq⟩
      exact (List.mem_filter.mp hMem).2

/-- A selection pushed below a transformation gives the same bag exactly when it
selects the same rows. -/
theorem map_filter_perm_iff {p : α → Bool} {q : β → Bool} {f : α → β} {l : List α} :
    ((l.filter p).map f).Perm ((l.map f).filter q) ↔ ∀ a ∈ l, p a = q (f a) := by
  have hPush : (l.map f).filter q = (l.filter (q ∘ f)).map f := List.filter_map
  constructor
  · intro hPerm
    refine eq_of_length_filter (q := q ∘ f) (fun a ha hp => ?_) ?_
    · have hMem : f a ∈ (l.filter p).map f :=
        List.mem_map.mpr ⟨a, List.mem_filter.mpr ⟨ha, hp⟩, rfl⟩
      exact (List.mem_filter.mp (hPerm.mem_iff.mp hMem)).2
    · have hLength := hPerm.length_eq
      rwa [hPush, List.length_map, List.length_map] at hLength
  · intro hAgree
    rw [hPush, List.filter_congr hAgree]
    rfl

end Library
end DataApi
