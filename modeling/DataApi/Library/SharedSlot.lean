import Mathlib.Logic.Function.Basic
import DataApi.Library.TransitionSystem

/-!
# A shared slot and the holders of what was taken out of it

A slot holds at most one resource at a time.  A holder takes the current resource
out of the slot in order to free it, or it picks up, for the same purpose, a
resource that has already left the slot.  Freeing is a step of its own, so between
the two a resource is neither current nor freed.

The accounting of such a slot: the current resource is not freed and nobody is
about to free it, and every other resource ever created is freed or held.
-/

namespace DataApi
namespace Library

/-- The resource in the slot, the resources ever created and ever freed, and what
each holder is about to free. -/
structure Slot (Resource Holder : Type*) where
  current : Option Resource
  created : List Resource
  freed : List Resource
  holders : Holder → Option Resource

/-- What may happen to a slot. -/
inductive SlotMove (Resource Holder : Type*) where
  | create (resource : Resource)
  | detach (holder : Holder)
  | claim (holder : Holder) (resource : Resource)
  | free (holder : Holder)

section Slots

variable {Resource Holder : Type*}

/-- The accounting of a slot. -/
structure SlotAccounted (s : Slot Resource Holder) : Prop where
  current_live : ∀ r, s.current = some r →
    r ∈ s.created ∧ r ∉ s.freed ∧ ∀ holder, s.holders holder ≠ some r
  held_created : ∀ holder r, s.holders holder = some r → r ∈ s.created
  freed_created : ∀ r ∈ s.freed, r ∈ s.created
  others : ∀ r ∈ s.created,
    s.current = some r ∨ r ∈ s.freed ∨ ∃ holder, s.holders holder = some r

variable {s s' : Slot Resource Holder}

theorem slotAccounted_empty :
    SlotAccounted (⟨none, [], [], fun _ => none⟩ : Slot Resource Holder) := by
  constructor <;> simp

/-- When nobody is about to free anything, at most one resource is not freed. -/
theorem SlotAccounted.live_unique (hAcc : SlotAccounted s)
    (hIdle : ∀ holder, s.holders holder = none) {r r' : Resource}
    (hCreated : r ∈ s.created) (hCreated' : r' ∈ s.created) (hLive : r ∉ s.freed)
    (hLive' : r' ∉ s.freed) : r = r' := by
  have hCurrent : ∀ x ∈ s.created, x ∉ s.freed → s.current = some x := by
    intro x hx hXLive
    rcases hAcc.others x hx with h | h | ⟨holder, h⟩
    · exact h
    · exact absurd h hXLive
    · rw [hIdle holder] at h
      cases h
  exact Option.some.inj ((hCurrent r hCreated hLive).symm.trans (hCurrent r' hCreated' hLive'))

theorem SlotAccounted.create (hAcc : SlotAccounted s) {r : Resource}
    (hEmpty : s.current = none) (hNew : r ∉ s.created) :
    SlotAccounted { s with current := some r, created := r :: s.created } where
  current_live x hx := by
    cases hx
    exact ⟨List.mem_cons_self, fun hFreed => hNew (hAcc.freed_created _ hFreed),
      fun holder hHeld => hNew (hAcc.held_created _ _ hHeld)⟩
  held_created holder x hx := List.mem_cons_of_mem _ (hAcc.held_created _ _ hx)
  freed_created x hx := List.mem_cons_of_mem _ (hAcc.freed_created _ hx)
  others x hx := by
    rcases List.mem_cons.mp hx with rfl | hOld
    · exact .inl rfl
    · rcases hAcc.others x hOld with hCurrent | hRest
      · rw [hEmpty] at hCurrent
        cases hCurrent
      · exact .inr hRest

variable [DecidableEq Holder]

/-- A holder that takes up `r` adds `r` to what is held, and nothing else. -/
theorem update_holders_eq_some {holders : Holder → Option Resource} {holder h : Holder}
    {r x : Resource} (hHeld : Function.update holders holder (some r) h = some x) :
    x = r ∨ holders h = some x := by
  by_cases hSame : h = holder
  · rw [hSame, Function.update_self] at hHeld
    exact .inl (Option.some.inj hHeld).symm
  · rw [Function.update_of_ne hSame] at hHeld
    exact .inr hHeld

/-- What was held before a holder that had nothing takes up `r` is held after it. -/
theorem exists_update_holders {holders : Holder → Option Resource} {holder : Holder}
    {r x : Resource} (hFree : holders holder = none) (hHeld : ∃ h, holders h = some x) :
    ∃ h, Function.update holders holder (some r) h = some x := by
  obtain ⟨h, hx⟩ := hHeld
  refine ⟨h, ?_⟩
  rw [Function.update_of_ne, hx]
  rintro rfl
  rw [hFree] at hx
  cases hx

theorem SlotAccounted.detach (hAcc : SlotAccounted s) {holder : Holder} {r : Resource}
    (hFree : s.holders holder = none) (hCurrent : s.current = some r) :
    SlotAccounted { s with
      current := none
      holders := Function.update s.holders holder (some r) } where
  current_live x hx := by cases hx
  held_created h x hx := by
    rcases update_holders_eq_some hx with rfl | hOld
    · exact (hAcc.current_live _ hCurrent).1
    · exact hAcc.held_created _ _ hOld
  freed_created := hAcc.freed_created
  others x hx := by
    rcases hAcc.others x hx with hSame | hFreed | hHeld
    · rw [hCurrent] at hSame
      cases hSame
      exact .inr (.inr ⟨holder, Function.update_self ..⟩)
    · exact .inr (.inl hFreed)
    · exact .inr (.inr (exists_update_holders hFree hHeld))

theorem SlotAccounted.claim (hAcc : SlotAccounted s) {holder : Holder} {r : Resource}
    (hFree : s.holders holder = none) (hCreated : r ∈ s.created)
    (hGone : s.current ≠ some r) :
    SlotAccounted { s with holders := Function.update s.holders holder (some r) } where
  current_live x hx := by
    obtain ⟨hMem, hLive, hNobody⟩ := hAcc.current_live x hx
    refine ⟨hMem, hLive, fun h hHeld => ?_⟩
    -- the claimed resource is not the one in the slot
    rcases update_holders_eq_some hHeld with rfl | hOld
    · exact hGone hx
    · exact hNobody h hOld
  held_created h x hx := by
    rcases update_holders_eq_some hx with rfl | hOld
    · exact hCreated
    · exact hAcc.held_created _ _ hOld
  freed_created := hAcc.freed_created
  others x hx :=
    (hAcc.others x hx).imp_right (Or.imp_right (exists_update_holders hFree))

theorem SlotAccounted.free (hAcc : SlotAccounted s) {holder : Holder} {r : Resource}
    (hHeld : s.holders holder = some r) :
    SlotAccounted { s with
      freed := r :: s.freed
      holders := Function.update s.holders holder none } where
  current_live x hx := by
    obtain ⟨hMem, hLive, hNobody⟩ := hAcc.current_live x hx
    refine ⟨hMem, fun hFreed => ?_, fun h => ?_⟩
    · rcases List.mem_cons.mp hFreed with rfl | hOld
      · exact hNobody holder hHeld
      · exact hLive hOld
    · by_cases hSame : h = holder
      · rw [hSame]
        simp
      · simpa [Function.update_of_ne hSame] using hNobody h
  held_created h x hx := by
    by_cases hSame : h = holder
    · rw [hSame] at hx
      simp at hx
    · exact hAcc.held_created h x (by simpa [Function.update_of_ne hSame] using hx)
  freed_created x hx := by
    rcases List.mem_cons.mp hx with rfl | hOld
    · exact hAcc.held_created _ _ hHeld
    · exact hAcc.freed_created x hOld
  others x hx := by
    rcases hAcc.others x hx with hCurrent | hFreed | ⟨h, hx'⟩
    · exact .inl hCurrent
    · exact .inr (.inl (List.mem_cons_of_mem _ hFreed))
    · by_cases hSame : h = holder
      · rw [hSame, hHeld] at hx'
        cases hx'
        exact .inr (.inl List.mem_cons_self)
      · exact .inr (.inr ⟨h, by simpa [Function.update_of_ne hSame] using hx'⟩)

variable [DecidableEq Resource]

/-- One move.  A resource is created into an empty slot and is new; a claimed one
has left the slot before. -/
def slotStep (s : Slot Resource Holder) :
    SlotMove Resource Holder → Option (Slot Resource Holder)
  | .create resource =>
      if s.current = none ∧ resource ∉ s.created then
        some { s with current := some resource, created := resource :: s.created }
      else none
  | .detach holder =>
      if s.holders holder = none then
        s.current.map fun resource =>
          { s with
            current := none
            holders := Function.update s.holders holder (some resource) }
      else none
  | .claim holder resource =>
      if s.holders holder = none ∧ resource ∈ s.created ∧ s.current ≠ some resource then
        some { s with holders := Function.update s.holders holder (some resource) }
      else none
  | .free holder =>
      (s.holders holder).map fun resource =>
        { s with
          freed := resource :: s.freed
          holders := Function.update s.holders holder none }

/-- The runs of a slot that starts empty. -/
def slotSystem (Resource Holder : Type*) [DecidableEq Resource] [DecidableEq Holder] :
    TransitionSystem (Slot Resource Holder) (SlotMove Resource Holder) where
  start s := s = ⟨none, [], [], fun _ => none⟩
  step := slotStep

/-- Every move keeps the accounting. -/
theorem SlotAccounted.step (hAcc : SlotAccounted s) {move : SlotMove Resource Holder}
    (hStep : slotStep s move = some s') : SlotAccounted s' := by
  cases move with
  | create r =>
      obtain ⟨⟨hEmpty, hNew⟩, hEq⟩ := Option.ite_none_right_eq_some.mp hStep
      cases hEq
      exact hAcc.create hEmpty hNew
  | detach holder =>
      obtain ⟨hFree, hMap⟩ := Option.ite_none_right_eq_some.mp hStep
      obtain ⟨r, hCurrent, rfl⟩ := Option.map_eq_some_iff.mp hMap
      exact hAcc.detach hFree hCurrent
  | claim holder r =>
      obtain ⟨⟨hFree, hCreated, hGone⟩, hEq⟩ := Option.ite_none_right_eq_some.mp hStep
      cases hEq
      exact hAcc.claim hFree hCreated hGone
  | free holder =>
      obtain ⟨r, hHeld, rfl⟩ := Option.map_eq_some_iff.mp hStep
      exact hAcc.free hHeld

/-- The accounting holds in every state a slot reaches. -/
theorem slot_accounted (hReach : (slotSystem Resource Holder).Reachable s) :
    SlotAccounted s := by
  refine TransitionSystem.Reachable.invariant ?_ ?_ hReach
  · rintro s rfl
    exact slotAccounted_empty
  · intro s move s' hAcc hStep
    exact hAcc.step hStep

end Slots

end Library
end DataApi
