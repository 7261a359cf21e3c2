import Mathlib.Data.List.Basic

/-!
# Machines that answer requests

A machine answers every request and moves on.  Two machines cannot be told apart by
their answers if a relation between their states is kept by every request and the
answers agree along it.
-/

namespace DataApi
namespace Library

/-- The answer to a request, and the state after it. -/
structure Machine (State Request Answer : Type*) where
  step : State → Request → Answer × State

namespace Machine

variable {State State' Request Answer : Type*}

/-- The answers to a list of requests, and the state after them. -/
def run (M : Machine State Request Answer) (s : State) :
    List Request → List Answer × State
  | [] => ([], s)
  | request :: rest =>
      ((M.step s request).1 :: (run M (M.step s request).2 rest).1,
        (run M (M.step s request).2 rest).2)

/-- Along `R`, the machines give the same answers and move on to states in `R`. -/
structure Refines (M : Machine State Request Answer) (N : Machine State' Request Answer)
    (R : State → State' → Prop) : Prop where
  answer : ∀ s t request, R s t → (M.step s request).1 = (N.step t request).1
  next : ∀ s t request, R s t → R (M.step s request).2 (N.step t request).2

variable {M : Machine State Request Answer} {N : Machine State' Request Answer}
  {R : State → State' → Prop}

/-- Related states answer every list of requests alike, and end in related states. -/
theorem Refines.run (hRefines : M.Refines N R) (requests : List Request) {s : State}
    {t : State'} (hRelated : R s t) :
    (M.run s requests).1 = (N.run t requests).1 ∧
      R (M.run s requests).2 (N.run t requests).2 := by
  induction requests generalizing s t with
  | nil => exact ⟨rfl, hRelated⟩
  | cons request rest ih =>
      obtain ⟨hAnswers, hStates⟩ := ih (hRefines.next s t request hRelated)
      refine ⟨?_, hStates⟩
      change (M.step s request).1 :: _ = (N.step t request).1 :: _
      rw [hRefines.answer s t request hRelated, hAnswers]

/-- The requests with their answers. -/
def history (M : Machine State Request Answer) (s : State) :
    List Request → List (Request × Answer)
  | [] => []
  | request :: rest =>
      (request, (M.step s request).1) :: M.history (M.step s request).2 rest

/-- What holds between the record of the answers and the state, if every request keeps
it. -/
theorem history_invariant {Inv : List (Request × Answer) → State → Prop}
    (hStep : ∀ record s request, Inv record s →
      Inv (record ++ [(request, (M.step s request).1)]) (M.step s request).2)
    (requests : List Request) {record : List (Request × Answer)} {s : State}
    (hStart : Inv record s) :
    Inv (record ++ M.history s requests) (M.run s requests).2 := by
  induction requests generalizing record s with
  | nil =>
      rw [history, List.append_nil]
      exact hStart
  | cons request rest ih =>
      have hRest := ih (hStep record s request hStart)
      rw [List.append_assoc] at hRest
      exact hRest

/-- What every request keeps holds after all of them. -/
theorem run_invariant {Inv : State → Prop}
    (hStep : ∀ s request, Inv s → Inv (M.step s request).2) (requests : List Request)
    {s : State} (hStart : Inv s) : Inv (M.run s requests).2 := by
  induction requests generalizing s with
  | nil => exact hStart
  | cons request rest ih => exact ih (hStep s request hStart)

/-- Machines that answer alike have the same record. -/
theorem Refines.history (hRefines : M.Refines N R) (requests : List Request) {s : State}
    {t : State'} (hRelated : R s t) : M.history s requests = N.history t requests := by
  induction requests generalizing s t with
  | nil => rfl
  | cons request rest ih =>
      rw [Machine.history, Machine.history, hRefines.answer s t request hRelated,
        ih (hRefines.next s t request hRelated)]

section Clients

variable {View Call Reply : Type*}

/-- A machine behind clients.  A client sees a view of the state; it replies at once, or
makes one request and replies to the answer. -/
def clients (M : Machine State Request Answer) (view : State → View)
    (client : Call → View → Except Reply (Request × (Answer → Reply))) :
    Machine State Call Reply where
  step s call :=
    match client call (view s) with
    | .error reply => (reply, s)
    | .ok request => (request.2 (M.step s request.1).1, (M.step s request.1).2)

/-- The clients of two machines reply alike if the machines answer alike and look alike. -/
theorem Refines.clients (hRefines : M.Refines N R) {view : State → View}
    {view' : State' → View} (hView : ∀ s t, R s t → view s = view' t)
    (client : Call → View → Except Reply (Request × (Answer → Reply))) :
    (M.clients view client).Refines (N.clients view' client) R := by
  refine ⟨fun s t call hRelated => ?_, fun s t call hRelated => ?_⟩
  · simp only [Machine.clients, hView s t hRelated]
    cases client call (view' t) with
    | error reply => rfl
    | ok request => exact congrArg request.2 (hRefines.answer s t request.1 hRelated)
  · simp only [Machine.clients, hView s t hRelated]
    cases client call (view' t) with
    | error reply => exact hRelated
    | ok request => exact hRefines.next s t request.1 hRelated

end Clients

end Machine

end Library
end DataApi
