import Mathlib.Data.Option.Basic
import Mathlib.Data.List.Basic
import Mathlib.Logic.Relation

/-!
# Guarded transition systems

A system is a set of start states and one executable step function, which is
`none` where an event is not enabled.  The same function replays a concrete
run and carries the inductive proofs, so the two cannot drift apart.

Reachability is taken relative to a guard on the events: a statement about
the runs whose steps all meet a side condition is a statement about
`ReachableUnder` that condition.
-/

namespace DataApi
namespace Library

/-- The start states of a system and its partial step function. -/
structure TransitionSystem (State Event : Type*) where
  start : State → Prop
  step : State → Event → Option State

namespace TransitionSystem

variable {State Event : Type*} (M : TransitionSystem State Event)

/-- The states reached by runs in which every event satisfies `guard` in the
state it is taken in. -/
inductive ReachableUnder (guard : State → Event → Prop) : State → Prop
  | start {s : State} (hStart : M.start s) : ReachableUnder guard s
  | step {s s' : State} {e : Event} (hReach : ReachableUnder guard s)
      (hGuard : guard s e) (hStep : M.step s e = some s') :
      ReachableUnder guard s'

/-- The states reached by any run. -/
def Reachable (s : State) : Prop :=
  M.ReachableUnder (fun _ _ => True) s

/-- Replay a list of events; `none` as soon as one of them is not enabled or
does not meet the guard. -/
def runUnder (guard : State → Event → Prop) [∀ s e, Decidable (guard s e)]
    (s : State) : List Event → Option State
  | [] => some s
  | e :: events =>
      if guard s e then
        (M.step s e).bind fun s' => runUnder guard s' events
      else none

/-- The states a run goes on to from a state, the state itself among them. -/
def Later : State → State → Prop :=
  Relation.ReflTransGen fun s s' => ∃ e, M.step s e = some s'

variable {M}

/-- A property that holds at every start state and is preserved by every
guarded step holds in every state a guarded run reaches. -/
theorem ReachableUnder.invariant {guard : State → Event → Prop}
    {Inv : State → Prop} (hStart : ∀ s, M.start s → Inv s)
    (hStep : ∀ s e s', Inv s → guard s e → M.step s e = some s' → Inv s')
    {s : State} (hReach : M.ReachableUnder guard s) : Inv s := by
  induction hReach with
  | start h => exact hStart _ h
  | step _ hGuard hs ih => exact hStep _ _ _ ih hGuard hs

/-- The unguarded instance of the invariant rule. -/
theorem Reachable.invariant {Inv : State → Prop}
    (hStart : ∀ s, M.start s → Inv s)
    (hStep : ∀ s e s', Inv s → M.step s e = some s' → Inv s')
    {s : State} (hReach : M.Reachable s) : Inv s :=
  ReachableUnder.invariant hStart
    (fun s e s' hInv _ hs => hStep s e s' hInv hs) hReach

theorem Reachable.later {s s' : State} (hReach : M.Reachable s) (hLater : M.Later s s') :
    M.Reachable s' := by
  induction hLater with
  | refl => exact hReach
  | tail _ hStep ih =>
      obtain ⟨e, he⟩ := hStep
      exact .step ih trivial he

/-- A preorder that contains every step from a reachable state holds between a reachable
state and the later ones. -/
theorem Reachable.later_rel {R : State → State → Prop} (hRefl : ∀ s, R s s)
    (hTrans : ∀ s₁ s₂ s₃, R s₁ s₂ → R s₂ s₃ → R s₁ s₃)
    (hStep : ∀ s e s', M.Reachable s → M.step s e = some s' → R s s')
    {s s' : State} (hReach : M.Reachable s) (hLater : M.Later s s') : R s s' := by
  induction hLater with
  | refl => exact hRefl s
  | tail hBefore hLast ih =>
      obtain ⟨e, he⟩ := hLast
      exact hTrans _ _ _ ih (hStep _ e _ (hReach.later hBefore) he)

/-- Replaying from a reachable state stays among the reachable states. -/
theorem ReachableUnder.run {guard : State → Event → Prop}
    [∀ s e, Decidable (guard s e)] {s s' : State}
    (hReach : M.ReachableUnder guard s) {events : List Event}
    (hRun : M.runUnder guard s events = some s') :
    M.ReachableUnder guard s' := by
  induction events generalizing s with
  | nil =>
      cases hRun
      exact hReach
  | cons e events ih =>
      rw [runUnder] at hRun
      split at hRun
      · rename_i hGuard
        obtain ⟨mid, hStep, hRest⟩ := Option.bind_eq_some_iff.mp hRun
        exact ih (.step hReach hGuard hStep) hRest
      · cases hRun

/-- So does a run whose events meet the guard in every state. -/
theorem ReachableUnder.run_of_forall {guard : State → Event → Prop} {s s' : State}
    (hReach : M.ReachableUnder guard s) {events : List Event}
    (hGuard : ∀ s, ∀ e ∈ events, guard s e)
    (hRun : M.runUnder (fun _ _ => True) s events = some s') : M.ReachableUnder guard s' := by
  induction events generalizing s with
  | nil =>
      cases hRun
      exact hReach
  | cons e events ih =>
      rw [runUnder, if_pos trivial] at hRun
      obtain ⟨mid, hStep, hRest⟩ := Option.bind_eq_some_iff.mp hRun
      exact ih (.step hReach (hGuard s e List.mem_cons_self) hStep)
        (fun s e' he' => hGuard s e' (List.mem_cons_of_mem e he')) hRest

/-- Simulation: if every guarded step from a state with the invariant is a step of
`N` on the images, or leaves the image as it is, the images of reachable states are
reachable. -/
theorem ReachableUnder.simulation {State' Event' : Type*}
    {N : TransitionSystem State' Event'} {guard : State → Event → Prop}
    {Inv : State → Prop} (f : State → State')
    (hInv : ∀ s, M.ReachableUnder guard s → Inv s)
    (hStart : ∀ s, M.start s → N.start (f s))
    (hStep : ∀ s e s', Inv s → guard s e → M.step s e = some s' →
      f s' = f s ∨ ∃ e', N.step (f s) e' = some (f s'))
    {s : State} (hReach : M.ReachableUnder guard s) : N.Reachable (f s) := by
  induction hReach with
  | start h => exact .start (hStart _ h)
  | step hBefore hGuard hs ih =>
      rcases hStep _ _ _ (hInv _ hBefore) hGuard hs with hSame | ⟨e', he'⟩
      · rw [hSame]
        exact ih
      · exact .step ih trivial he'

end TransitionSystem

end Library
end DataApi
