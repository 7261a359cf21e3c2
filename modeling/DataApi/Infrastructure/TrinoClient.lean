import DataApi.Library.SharedSlot

/-!
# The engine of the Trino client

`TrinoPythonClient` shares one engine between all its calls.  It is created on
demand, and it is detached and disposed of by a query that fails, by the caller of a
query that times out, and by `close`.  Detaching happens under the engine lock, the
`dispose` call outside of it.  A query runs in a worker thread which goes on after
its caller has given up.

Each locked section, each `dispose` call and each query is one step, and the steps
of all threads interleave in any order.  The engines are the resources of a shared
slot (`Library.SharedSlot`), the threads its holders.
-/

namespace DataApi
namespace Infrastructure

open Library

/-- The threads: call `n` of `execute` has a worker and a caller that waits for it
in the event loop; call `n` of `close` runs in a thread of its own. -/
inductive Thread where
  | worker (call : Nat)
  | caller (call : Nat)
  | closer (call : Nat)
deriving DecidableEq

/-- What a thread does next. -/
inductive Phase (Engine : Type) where
  | getEngine
  | query (engine : Engine)
  -- in the `except` clause of `_execute_sync`, before the lock is taken
  | disposeEngine (engine : Engine)
  | waitFor
  -- in the `except TimeoutError` clause of `execute`
  | disposeCurrentEngine
  | closeSync
  -- the lock is released, `engine.dispose()` is still to come
  | dispose (engine : Engine)
  | returned
  | raised
deriving DecidableEq

/-- Where each thread starts. -/
def Thread.entry {Engine : Type} : Thread → Phase Engine
  | .worker _ => .getEngine
  | .caller _ => .waitFor
  | .closer _ => .closeSync

/-- How a thread ends after it has disposed of an engine: `_execute_sync` raises
again, `execute` raises ExternalServiceTimeoutError. -/
def Thread.afterDispose {Engine : Type} : Thread → Phase Engine
  | .worker _ => .raised
  | .caller _ => .raised
  | .closer _ => .returned

/-- The client: `_engine`, every engine the factory has made, every engine that
`dispose` was called on, and the threads. -/
structure ClientState (Engine : Type) where
  engine : Option Engine
  created : List Engine
  disposed : List Engine
  threads : Thread → Phase Engine

/-- One step of one thread.  `made` is what the factory returns if it is asked. -/
inductive ClientEvent (Engine : Type) where
  | getEngine (call : Nat) (made : Engine)
  | queryEnds (call : Nat) (raises : Bool)
  | disposeEngine (call : Nat)
  | waitEnds (call : Nat)
  | timeOut (call : Nat)
  | disposeCurrentEngine (call : Nat)
  | closeSync (call : Nat)
  | dispose (thread : Thread)

section Steps

variable {Engine : Type}

/-- Let a thread go on to a phase. -/
def ClientState.goTo (s : ClientState Engine) (thread : Thread) (phase : Phase Engine) :
    ClientState Engine :=
  { s with threads := Function.update s.threads thread phase }

/-- The locked section of `_get_engine`. -/
def ClientState.getEngine (s : ClientState Engine) (thread : Thread) (made : Engine) :
    ClientState Engine :=
  match s.engine with
  | none =>
      { s with engine := some made, created := made :: s.created }.goTo thread (.query made)
  | some engine => s.goTo thread (.query engine)

/-- The locked section of `_dispose_engine`. -/
def ClientState.disposeEngine [DecidableEq Engine] (s : ClientState Engine)
    (thread : Thread) (engine : Engine) : ClientState Engine :=
  if s.engine = some engine then
    { s with engine := none }.goTo thread (.dispose engine)
  else s.goTo thread (.dispose engine)

/-- Detach the current engine and dispose of it next, or go on to `idle`. -/
def ClientState.detach (s : ClientState Engine) (thread : Thread) (idle : Phase Engine) :
    ClientState Engine :=
  match s.engine with
  | none => s.goTo thread idle
  | some engine => { s with engine := none }.goTo thread (.dispose engine)

/-- The locked section of `_dispose_current_engine`. -/
def ClientState.disposeCurrentEngine (s : ClientState Engine) (thread : Thread) :
    ClientState Engine :=
  s.detach thread .raised

/-- The locked section of `_close_sync`. -/
def ClientState.closeSync (s : ClientState Engine) (thread : Thread) :
    ClientState Engine :=
  s.detach thread .returned

/-- The call of `engine.dispose()`. -/
def ClientState.dispose (s : ClientState Engine) (thread : Thread) (engine : Engine) :
    ClientState Engine :=
  { s with disposed := engine :: s.disposed }.goTo thread thread.afterDispose

/-- The step a thread takes, if it is at the point the event is about. -/
def clientStep [DecidableEq Engine] (s : ClientState Engine) :
    ClientEvent Engine → Option (ClientState Engine)
  | .getEngine call made =>
      match s.threads (.worker call) with
      | .getEngine => some (s.getEngine (.worker call) made)
      | _ => none
  | .queryEnds call raises =>
      match s.threads (.worker call) with
      | .query engine =>
          some (s.goTo (.worker call) (if raises then .disposeEngine engine else .returned))
      | _ => none
  | .disposeEngine call =>
      match s.threads (.worker call) with
      | .disposeEngine engine => some (s.disposeEngine (.worker call) engine)
      | _ => none
  -- `wait_for` passes on what the worker has come to
  | .waitEnds call =>
      match s.threads (.caller call), s.threads (.worker call) with
      | .waitFor, .returned => some (s.goTo (.caller call) .returned)
      | .waitFor, .raised => some (s.goTo (.caller call) .raised)
      | _, _ => none
  -- at any time, also when the worker has just ended, or has raised a TimeoutError
  | .timeOut call =>
      match s.threads (.caller call) with
      | .waitFor => some (s.goTo (.caller call) .disposeCurrentEngine)
      | _ => none
  | .disposeCurrentEngine call =>
      match s.threads (.caller call) with
      | .disposeCurrentEngine => some (s.disposeCurrentEngine (.caller call))
      | _ => none
  | .closeSync call =>
      match s.threads (.closer call) with
      | .closeSync => some (s.closeSync (.closer call))
      | _ => none
  | .dispose thread =>
      match s.threads thread with
      | .dispose engine => some (s.dispose thread engine)
      | _ => none

end Steps

/-- The runs of a client on which any number of `execute` and `close` calls are
made. -/
def trinoPythonClient (Engine : Type) [DecidableEq Engine] :
    TransitionSystem (ClientState Engine) (ClientEvent Engine) where
  start s := s = ⟨none, [], [], Thread.entry⟩
  step := clientStep

/-- What is assumed of the factory: when it is asked, it returns an engine that it
has not returned before. -/
def FreshEngine {Engine : Type} (s : ClientState Engine) : ClientEvent Engine → Prop
  | .getEngine _ made => s.engine = none → made ∉ s.created
  | _ => True

instance {Engine : Type} [DecidableEq Engine] (s : ClientState Engine) :
    (e : ClientEvent Engine) → Decidable (FreshEngine s e)
  | .getEngine _ made => inferInstanceAs (Decidable (s.engine = none → made ∉ s.created))
  | .queryEnds _ _ => isTrue trivial
  | .disposeEngine _ => isTrue trivial
  | .waitEnds _ => isTrue trivial
  | .timeOut _ => isTrue trivial
  | .disposeCurrentEngine _ => isTrue trivial
  | .closeSync _ => isTrue trivial
  | .dispose _ => isTrue trivial

section Inversion

variable {Engine : Type} [DecidableEq Engine]

/-- The steps that are taken, each with the phase its thread is in. -/
inductive StepTaken (s : ClientState Engine) :
    ClientEvent Engine → ClientState Engine → Prop where
  | getEngine (call : Nat) (made : Engine)
      (hPhase : s.threads (.worker call) = .getEngine) :
      StepTaken s (.getEngine call made) (s.getEngine (.worker call) made)
  | returns (call : Nat) (engine : Engine)
      (hPhase : s.threads (.worker call) = .query engine) :
      StepTaken s (.queryEnds call false) (s.goTo (.worker call) .returned)
  | raises (call : Nat) (engine : Engine)
      (hPhase : s.threads (.worker call) = .query engine) :
      StepTaken s (.queryEnds call true) (s.goTo (.worker call) (.disposeEngine engine))
  | disposeEngine (call : Nat) (engine : Engine)
      (hPhase : s.threads (.worker call) = .disposeEngine engine) :
      StepTaken s (.disposeEngine call) (s.disposeEngine (.worker call) engine)
  | waitEnds (call : Nat) (outcome : Phase Engine)
      (hPhase : s.threads (.caller call) = .waitFor)
      (hEnded : (outcome = .returned ∧ s.threads (.worker call) = .returned) ∨
        (outcome = .raised ∧ s.threads (.worker call) = .raised)) :
      StepTaken s (.waitEnds call) (s.goTo (.caller call) outcome)
  | timeOut (call : Nat) (hPhase : s.threads (.caller call) = .waitFor) :
      StepTaken s (.timeOut call) (s.goTo (.caller call) .disposeCurrentEngine)
  | disposeCurrentEngine (call : Nat)
      (hPhase : s.threads (.caller call) = .disposeCurrentEngine) :
      StepTaken s (.disposeCurrentEngine call) (s.disposeCurrentEngine (.caller call))
  | closeSync (call : Nat) (hPhase : s.threads (.closer call) = .closeSync) :
      StepTaken s (.closeSync call) (s.closeSync (.closer call))
  | dispose (thread : Thread) (engine : Engine)
      (hPhase : s.threads thread = .dispose engine) :
      StepTaken s (.dispose thread) (s.dispose thread engine)

/-- Inversion of the step function: later proofs do not unfold it. -/
theorem clientStep_taken {s s' : ClientState Engine} {e : ClientEvent Engine}
    (hStep : clientStep s e = some s') : StepTaken s e s' := by
  unfold clientStep at hStep
  cases e with
  | getEngine call made =>
      dsimp only at hStep
      split at hStep
      · rename_i hPhase
        cases hStep
        exact .getEngine call made hPhase
      · cases hStep
  | queryEnds call raises =>
      dsimp only at hStep
      split at hStep
      · rename_i engine hPhase
        cases hStep
        cases raises with
        | false => exact .returns call engine hPhase
        | true => exact .raises call engine hPhase
      · cases hStep
  | disposeEngine call =>
      dsimp only at hStep
      split at hStep
      · rename_i engine hPhase
        cases hStep
        exact .disposeEngine call engine hPhase
      · cases hStep
  | waitEnds call =>
      dsimp only at hStep
      split at hStep
      · rename_i hPhase hWorker
        cases hStep
        exact .waitEnds call .returned hPhase (.inl ⟨rfl, hWorker⟩)
      · rename_i hPhase hWorker
        cases hStep
        exact .waitEnds call .raised hPhase (.inr ⟨rfl, hWorker⟩)
      · cases hStep
  | timeOut call =>
      dsimp only at hStep
      split at hStep
      · rename_i hPhase
        cases hStep
        exact .timeOut call hPhase
      · cases hStep
  | disposeCurrentEngine call =>
      dsimp only at hStep
      split at hStep
      · rename_i hPhase
        cases hStep
        exact .disposeCurrentEngine call hPhase
      · cases hStep
  | closeSync call =>
      dsimp only at hStep
      split at hStep
      · rename_i hPhase
        cases hStep
        exact .closeSync call hPhase
      · cases hStep
  | dispose thread =>
      dsimp only at hStep
      split at hStep
      · rename_i engine hPhase
        cases hStep
        exact .dispose thread engine hPhase
      · cases hStep

end Inversion

section Accounting

variable {Engine : Type}

/-- The engine a thread is about to dispose of. -/
def Phase.pending : Phase Engine → Option Engine
  | .dispose engine => some engine
  | _ => none

/-- The engine a thread runs its query on, or has failed on. -/
def Phase.used : Phase Engine → Option Engine
  | .query engine => some engine
  | .disposeEngine engine => some engine
  | _ => none

/-- The shared slot that the client is. -/
def ClientState.slot (s : ClientState Engine) : Slot Engine Thread where
  current := s.engine
  created := s.created
  freed := s.disposed
  holders thread := (s.threads thread).pending

/-- Everything a step can do to the client. -/
inductive ClientMove (s : ClientState Engine) : ClientState Engine → Prop where
  | goTo (thread : Thread) (phase : Phase Engine)
      (hBefore : (s.threads thread).pending = none) (hAfter : phase.pending = none)
      (hUsed : ∀ engine, phase.used = some engine →
        s.engine = some engine ∨ (s.threads thread).used = some engine) :
      ClientMove s (s.goTo thread phase)
  | create (thread : Thread) (made : Engine)
      (hBefore : (s.threads thread).pending = none) (hEmpty : s.engine = none)
      (hFresh : made ∉ s.created) :
      ClientMove s
        ({ s with engine := some made, created := made :: s.created }.goTo thread
          (.query made))
  | detach (thread : Thread) (engine : Engine)
      (hBefore : (s.threads thread).pending = none) (hCurrent : s.engine = some engine) :
      ClientMove s ({ s with engine := none }.goTo thread (.dispose engine))
  | claim (thread : Thread) (engine : Engine)
      (hBefore : (s.threads thread).pending = none)
      (hUsed : (s.threads thread).used = some engine) (hGone : s.engine ≠ some engine) :
      ClientMove s (s.goTo thread (.dispose engine))
  | dispose (thread : Thread) (engine : Engine)
      (hPending : (s.threads thread).pending = some engine) :
      ClientMove s (s.dispose thread engine)

variable {s s' : ClientState Engine} {thread : Thread} {phase : Phase Engine}

/-- Detaching either takes the current engine or finds none. -/
theorem ClientMove.of_detach (hBefore : (s.threads thread).pending = none)
    (hPending : phase.pending = none) (hUsed : phase.used = none) :
    ClientMove s (s.detach thread phase) := by
  unfold ClientState.detach
  split
  · refine .goTo thread phase hBefore hPending fun engine hEngine => ?_
    rw [hUsed] at hEngine
    cases hEngine
  · rename_i engine hCurrent
    exact .detach thread engine hBefore hCurrent

/-- A step that is taken is one of the moves. -/
theorem clientStep_cases [DecidableEq Engine] {e : ClientEvent Engine}
    (hFresh : FreshEngine s e) (hStep : clientStep s e = some s') : ClientMove s s' := by
  cases clientStep_taken hStep with
  | getEngine call made hPhase =>
      unfold ClientState.getEngine
      split
      · rename_i hEmpty
        exact .create _ _ (by rw [hPhase]; rfl) hEmpty (hFresh hEmpty)
      · rename_i engine hCurrent
        refine .goTo _ _ (by rw [hPhase]; rfl) rfl fun used hUsed => .inl ?_
        rw [hCurrent]
        exact hUsed
  | returns call engine hPhase =>
      exact .goTo _ .returned (by rw [hPhase]; rfl) rfl (fun _ h => by cases h)
  | raises call engine hPhase =>
      refine .goTo _ (.disposeEngine engine) (by rw [hPhase]; rfl) rfl ?_
      intro used hUsed
      rw [hPhase]
      exact .inr hUsed
  | disposeEngine call engine hPhase =>
      unfold ClientState.disposeEngine
      split
      · rename_i hCurrent
        exact .detach _ _ (by rw [hPhase]; rfl) hCurrent
      · rename_i hGone
        -- the engine was detached, and perhaps replaced, while the query ran
        exact .claim _ _ (by rw [hPhase]; rfl) (by rw [hPhase]; rfl) hGone
  | waitEnds call outcome hPhase hEnded =>
      rcases hEnded with ⟨rfl, -⟩ | ⟨rfl, -⟩
      · exact .goTo _ _ (by rw [hPhase]; rfl) rfl (fun _ h => by cases h)
      · exact .goTo _ _ (by rw [hPhase]; rfl) rfl (fun _ h => by cases h)
  | timeOut call hPhase =>
      exact .goTo _ _ (by rw [hPhase]; rfl) rfl (fun _ h => by cases h)
  | disposeCurrentEngine call hPhase => exact .of_detach (by rw [hPhase]; rfl) rfl rfl
  | closeSync call hPhase => exact .of_detach (by rw [hPhase]; rfl) rfl rfl
  | dispose thread engine hPhase => exact .dispose _ _ (by rw [hPhase]; rfl)

/-- Every engine the client or one of its queries uses was created by the factory. -/
structure EnginesKnown (s : ClientState Engine) : Prop where
  current : ∀ engine, s.engine = some engine → engine ∈ s.created
  used : ∀ thread engine, (s.threads thread).used = some engine → engine ∈ s.created

theorem used_goTo {t : Thread} {engine : Engine}
    (hUsed : ((s.goTo thread phase).threads t).used = some engine) :
    phase.used = some engine ∨ (s.threads t).used = some engine := by
  by_cases hSame : t = thread
  · subst hSame
    exact .inl (by simpa [ClientState.goTo] using hUsed)
  · exact .inr (by simpa [ClientState.goTo, Function.update_of_ne hSame] using hUsed)

theorem EnginesKnown.move (hKnown : EnginesKnown s) (hMove : ClientMove s s') :
    EnginesKnown s' := by
  cases hMove with
  | goTo t phase _ _ hUsed =>
      refine ⟨hKnown.current, fun t' engine hEngine => ?_⟩
      rcases used_goTo hEngine with hNew | hOld
      · rcases hUsed engine hNew with hCurrent | hBefore
        · exact hKnown.current engine hCurrent
        · exact hKnown.used t engine hBefore
      · exact hKnown.used t' engine hOld
  | create t made =>
      constructor
      · intro engine hEngine
        cases hEngine
        exact List.mem_cons_self
      · intro t' engine hEngine
        rcases used_goTo hEngine with hNew | hOld
        · cases hNew
          exact List.mem_cons_self
        · exact List.mem_cons_of_mem _ (hKnown.used t' engine hOld)
  | detach t engine =>
      refine ⟨fun _ hNone => (by cases hNone), fun t' engine hEngine => ?_⟩
      rcases used_goTo hEngine with hNew | hOld
      · cases hNew
      · exact hKnown.used t' engine hOld
  | claim t engine =>
      refine ⟨hKnown.current, fun t' engine hEngine => ?_⟩
      rcases used_goTo hEngine with hNew | hOld
      · cases hNew
      · exact hKnown.used t' engine hOld
  | dispose t engine =>
      refine ⟨hKnown.current, fun t' engine hEngine => ?_⟩
      rcases used_goTo hEngine with hNew | hOld
      · cases t <;> cases hNew
      · exact hKnown.used t' engine hOld

/-- What a thread goes on to is what it holds. -/
theorem slot_goTo : (s.goTo thread phase).slot =
    { s.slot with holders := Function.update s.slot.holders thread phase.pending } := by
  simp only [ClientState.slot, ClientState.goTo, Slot.mk.injEq, true_and]
  exact Function.comp_update Phase.pending s.threads thread phase

/-- A move of the client is a move of the slot, or is not seen there. -/
theorem ClientMove.slot [DecidableEq Engine] (hKnown : EnginesKnown s)
    (hMove : ClientMove s s') :
    s'.slot = s.slot ∨ ∃ move, slotStep s.slot move = some s'.slot := by
  cases hMove with
  | goTo t phase hBefore hAfter _ =>
      left
      have hHolder : s.slot.holders t = none := hBefore
      rw [slot_goTo, hAfter, ← hHolder, Function.update_eq_self]
  | create t made hBefore hEmpty hFresh =>
      refine .inr ⟨.create made, ?_⟩
      have hHolder : s.slot.holders t = none := hBefore
      rw [slotStep, if_pos ⟨hEmpty, hFresh⟩, slot_goTo]
      refine congrArg some (congrArg (Slot.mk _ _ _) ?_)
      exact (Function.update_eq_self_iff.mpr hHolder.symm).symm
  | detach t engine hBefore hCurrent =>
      refine .inr ⟨.detach t, ?_⟩
      have hHolder : s.slot.holders t = none := hBefore
      have hSlot : s.slot.current = some engine := hCurrent
      rw [slotStep, if_pos hHolder, hSlot, slot_goTo]
      rfl
  | claim t engine hBefore hUsed hGone =>
      refine .inr ⟨.claim t engine, ?_⟩
      have hHolder : s.slot.holders t = none := hBefore
      rw [slotStep, if_pos ⟨hHolder, hKnown.used t engine hUsed, hGone⟩, slot_goTo]
      rfl
  | dispose t engine hPending =>
      refine .inr ⟨.free t, ?_⟩
      have hSlot : s.slot.holders t = some engine := hPending
      have hIdle : (t.afterDispose : Phase Engine).pending = none := by cases t <;> rfl
      rw [slotStep, hSlot, ClientState.dispose, slot_goTo, hIdle]
      rfl

end Accounting

section Runs

variable {Engine : Type} [DecidableEq Engine] {s : ClientState Engine}

/-- Every engine in use is known in every state that is reached. -/
theorem enginesKnown (hReach : (trinoPythonClient Engine).ReachableUnder FreshEngine s) :
    EnginesKnown s := by
  refine TransitionSystem.ReachableUnder.invariant ?_ ?_ hReach
  · rintro s rfl
    refine ⟨fun _ hNone => (by cases hNone), fun t engine hUsed => ?_⟩
    cases t <;> cases hUsed
  · intro s e s' hKnown hFresh hStep
    exact hKnown.move (clientStep_cases hFresh hStep)

/-- The client is a shared slot: its runs are runs of the slot. -/
theorem slot_reachable
    (hReach : (trinoPythonClient Engine).ReachableUnder FreshEngine s) :
    (slotSystem Engine Thread).Reachable s.slot := by
  refine hReach.simulation ClientState.slot (fun _ => enginesKnown) ?_ ?_
  · rintro s rfl
    refine congrArg (Slot.mk _ _ _) (funext fun t => ?_)
    cases t <;> rfl
  · intro s e s' hKnown hFresh hStep
    exact (clientStep_cases hFresh hStep).slot hKnown

/-- No engine is leaked, and the current one is not a disposed one. -/
structure EnginesAccounted (s : ClientState Engine) : Prop where
  /-- `dispose` was never called on the current engine, and nobody is about to. -/
  current_live : ∀ engine, s.engine = some engine →
    engine ∉ s.disposed ∧ ∀ thread, s.threads thread ≠ .dispose engine
  /-- Every other engine is disposed, or a thread disposes of it next. -/
  others : ∀ engine ∈ s.created, s.engine ≠ some engine →
    engine ∈ s.disposed ∨ ∃ thread, s.threads thread = .dispose engine
  /-- Between the calls of `dispose`, at most one engine is undisposed. -/
  live_unique : (∀ thread engine, s.threads thread ≠ .dispose engine) →
    ∀ engine ∈ s.created, ∀ other ∈ s.created,
      engine ∉ s.disposed → other ∉ s.disposed → engine = other

omit [DecidableEq Engine] in
theorem pending_eq_some {phase : Phase Engine} {engine : Engine} :
    phase.pending = some engine ↔ phase = .dispose engine := by
  cases phase <;> simp [Phase.pending]

/-- In every state that calls of `execute` and `close` reach, in any interleaving,
the engines are accounted for. -/
theorem enginesAccounted
    (hReach : (trinoPythonClient Engine).ReachableUnder FreshEngine s) :
    EnginesAccounted s := by
  have hAcc : SlotAccounted s.slot := slot_accounted (slot_reachable hReach)
  constructor
  · intro engine hCurrent
    obtain ⟨-, hLive, hNobody⟩ := hAcc.current_live engine hCurrent
    exact ⟨hLive, fun thread hThread => hNobody thread (pending_eq_some.mpr hThread)⟩
  · intro engine hCreated hOther
    rcases hAcc.others engine hCreated with hCurrent | hDisposed | ⟨thread, hHeld⟩
    · exact absurd hCurrent hOther
    · exact .inl hDisposed
    · exact .inr ⟨thread, pending_eq_some.mp hHeld⟩
  · intro hIdle engine hCreated other hCreated' hLive hLive'
    refine hAcc.live_unique (fun thread => ?_) hCreated hCreated' hLive hLive'
    exact Option.eq_none_iff_forall_ne_some.mpr fun engine hHeld =>
      hIdle thread engine (pending_eq_some.mp hHeld)

end Runs

/-- Call 0 times out while its query runs; call 1 works on a new engine when the
query of call 0 fails at last. -/
def lateFailure : List (ClientEvent Nat) :=
  [.getEngine 0 10, .timeOut 0, .disposeCurrentEngine 0, .dispose (.caller 0),
    .getEngine 1 11, .queryEnds 0 true, .disposeEngine 0]

theorem enginesAccounted_lateFailure :
    ∃ s, (trinoPythonClient Nat).runUnder FreshEngine ⟨none, [], [], Thread.entry⟩
        lateFailure = some s ∧
      s.engine = some 11 ∧ s.threads (.worker 0) = .dispose 10 ∧ EnginesAccounted s := by
  refine ⟨_, rfl, rfl, rfl, ?_⟩
  have hRun : (trinoPythonClient Nat).runUnder FreshEngine
      ⟨none, [], [], Thread.entry⟩ lateFailure = some _ := rfl
  exact enginesAccounted (TransitionSystem.ReachableUnder.run (.start rfl) hRun)

end Infrastructure
end DataApi
