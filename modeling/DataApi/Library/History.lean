import DataApi.Library.TransitionSystem

/-!
# Recorded runs

Whether a step is right may depend on what happened before it and is no longer seen in
the state, such as which call has failed.  The recorded system is the given one which
keeps its steps, so that a condition on a step can look at the steps before it.

The rule for recorded runs is of the assume-guarantee kind: from a condition on every
step it concludes another one on every step, by an invariant that may speak of the
record.
-/

namespace DataApi
namespace Library

/-- A step of a run: the state it is taken in, its event and the state it leads to. -/
structure Step (State Event : Type*) where
  before : State
  event : Event
  after : State

section EachStep

variable {State Event : Type*}

/-- A condition on a step and the steps before it holds of every step of a record,
whose newest step comes first. -/
def EachStep (P : List (Step State Event) → Step State Event → Prop) :
    List (Step State Event) → Prop
  | [] => True
  | step :: earlier => P earlier step ∧ EachStep P earlier

end EachStep

namespace TransitionSystem

variable {State Event : Type*} (M : TransitionSystem State Event)

/-- The system that keeps a record of its steps, the newest first. -/
def recorded : TransitionSystem (State × List (Step State Event)) Event where
  start s := M.start s.1 ∧ s.2 = []
  step s e := (M.step s.1 e).map fun next => (next, ⟨s.1, e, next⟩ :: s.2)

variable {M}

/-- A recorded step is a step of the system, and the newest of the record. -/
theorem recorded_step_eq_some {s s' : State × List (Step State Event)} {e : Event} :
    M.recorded.step s e = some s' ↔
      ∃ next, M.step s.1 e = some next ∧ s' = (next, ⟨s.1, e, next⟩ :: s.2) := by
  unfold recorded
  rw [Option.map_eq_some_iff]
  constructor
  · rintro ⟨next, hNext, rfl⟩
    exact ⟨next, hNext, rfl⟩
  · rintro ⟨next, hNext, rfl⟩
    exact ⟨next, hNext, rfl⟩

/-- Assume and guarantee: if every step that meets `P` keeps the invariant and meets
`Q`, then in a run whose steps all meet `P` they all meet `Q`. -/
theorem Reachable.eachStep {P Q : List (Step State Event) → Step State Event → Prop}
    (Inv : State → List (Step State Event) → Prop)
    (hStart : ∀ s, M.start s → Inv s [])
    (hStep : ∀ s earlier e s', Inv s earlier → M.step s e = some s' →
      P earlier ⟨s, e, s'⟩ → Q earlier ⟨s, e, s'⟩ ∧ Inv s' (⟨s, e, s'⟩ :: earlier))
    {s : State × List (Step State Event)} (hReach : M.recorded.Reachable s)
    (hAll : EachStep P s.2) : EachStep Q s.2 := by
  -- the invariant is carried along, since it is what the next step needs
  have hBoth : EachStep P s.2 → EachStep Q s.2 ∧ Inv s.1 s.2 := by
    clear hAll
    induction hReach with
    | @start s hs =>
        obtain ⟨hs, hEmpty⟩ := hs
        rw [hEmpty]
        exact fun _ => ⟨trivial, hStart s.1 hs⟩
    | @step s s' e _ _ hNext ih =>
        obtain ⟨next, hs, rfl⟩ := recorded_step_eq_some.mp hNext
        rintro ⟨hp, hEarlier⟩
        obtain ⟨hq, hInv⟩ := ih hEarlier
        obtain ⟨hThis, hInv'⟩ := hStep s.1 s.2 e next hInv hs hp
        exact ⟨⟨hThis, hq⟩, hInv'⟩
  exact (hBoth hAll).1

end TransitionSystem

end Library
end DataApi
