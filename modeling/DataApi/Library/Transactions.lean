import Mathlib.Logic.Function.Basic
import DataApi.Library.TransitionSystem

/-!
# Interleaved transactions

Any number of transactions on one store.  A transaction is a script: queries,
each answered from the state that is committed when it runs, and at the end one
change, or none.  The change is flushed and committed in two steps, and the store
may refuse it at either of them.  Steps of different transactions interleave in
any order, and a transaction that has not committed may be aborted at any time.

Only a successful commit changes the store, and an invariant of the store is kept
if every change that a script can come to keeps it.
-/

namespace DataApi
namespace Library

/-- A store: what it answers to a query, and the state a change leads to, unless
the store refuses it. -/
structure Store (State Query Answer Change Refusal : Type*) where
  answer : State → Query → Answer
  apply : Change → State → Except Refusal State

/-- What a transaction does next. -/
inductive Script (Query Answer Change Refusal Error : Type*) where
  | select (query : Query) (next : Answer → Script Query Answer Change Refusal Error)
  | write (change : Change) (refused : Refusal → Error)
  | finish
  | raise (error : Error)

/-- How far a transaction is. -/
inductive Phase (Query Answer Change Refusal Error : Type*) where
  | running (script : Script Query Answer Change Refusal Error)
  | flushed (change : Change) (refused : Refusal → Error)
  | succeeded
  | failed (error : Error)

/-- A step of a transaction. -/
inductive Action (Error : Type*) where
  | select
  | finish
  | flush
  | commit
  | abort (error : Error)

/-- The committed state and all transactions. -/
structure SessionState (State Query Answer Change Refusal Error : Type*) where
  committed : State
  sessions : Nat → Phase Query Answer Change Refusal Error

section Sessions

variable {State Query Answer Change Refusal Error : Type*}

/-- One step of a transaction: the committed state and the phase it leads to. -/
def Phase.step (D : Store State Query Answer Change Refusal) (state : State) :
    Phase Query Answer Change Refusal Error → Action Error →
      Option (State × Phase Query Answer Change Refusal Error)
  | .running (.select query next), .select =>
      some (state, .running (next (D.answer state query)))
  | .running .finish, .finish => some (state, .succeeded)
  | .running (.raise error), .finish => some (state, .failed error)
  | .running (.write change refused), .flush =>
      match D.apply change state with
      | .ok _ => some (state, .flushed change refused)
      | .error refusal => some (state, .failed (refused refusal))
  -- the commit applies the change to the state as it is by then
  | .flushed change refused, .commit =>
      match D.apply change state with
      | .ok state' => some (state', .succeeded)
      | .error refusal => some (state, .failed (refused refusal))
  | .running _, .abort error => some (state, .failed error)
  | .flushed _ _, .abort error => some (state, .failed error)
  | _, _ => none

/-- One step of one of the transactions. -/
def sessionStep (D : Store State Query Answer Change Refusal)
    (s : SessionState State Query Answer Change Refusal Error)
    (e : Nat × Action Error) :
    Option (SessionState State Query Answer Change Refusal Error) :=
  ((s.sessions e.1).step D s.committed e.2).map fun result =>
    ⟨result.1, Function.update s.sessions e.1 result.2⟩

/-- The runs of a family of transactions from a state of the store. -/
def sessionSystem (D : Store State Query Answer Change Refusal) (state : State)
    (scripts : Nat → Script Query Answer Change Refusal Error) :
    TransitionSystem (SessionState State Query Answer Change Refusal Error)
      (Nat × Action Error) where
  start s := s = ⟨state, fun i => .running (scripts i)⟩
  step := sessionStep D

/-- In every state that satisfies `I`, a script comes to changes that satisfy `Q`
only. -/
def Script.Ensures (D : Store State Query Answer Change Refusal) (I : State → Prop)
    (Q : Change → Prop) : Script Query Answer Change Refusal Error → Prop
  | .select query next =>
      ∀ state, I state → (next (D.answer state query)).Ensures D I Q
  | .write change _ => Q change
  | .finish => True
  | .raise _ => True

/-- The changes a transaction may still come to satisfy `Q`. -/
def Phase.Ensures (D : Store State Query Answer Change Refusal) (I : State → Prop)
    (Q : Change → Prop) : Phase Query Answer Change Refusal Error → Prop
  | .running script => script.Ensures D I Q
  | .flushed change _ => Q change
  | .succeeded => True
  | .failed _ => True

variable {D : Store State Query Answer Change Refusal} {state state' : State}
  {phase phase' : Phase Query Answer Change Refusal Error} {action : Action Error}

/-- A transaction changes the store with a successful commit only. -/
theorem Phase.step_state (h : phase.step D state action = some (state', phase')) :
    state' = state ∨ phase' = .succeeded ∧
      ∃ change refused, phase = .flushed change refused ∧
        D.apply change state = .ok state' := by
  unfold Phase.step at h
  split at h
  -- a flush checks the change, a commit makes it
  case h_4 => split at h <;> cases h <;> exact .inl rfl
  case h_5 =>
      split at h
      · rename_i hApply
        cases h
        exact .inr ⟨rfl, _, _, rfl, hApply⟩
      · cases h
        exact .inl rfl
  all_goals cases h <;> exact .inl rfl

/-- A step keeps what a transaction may come to. -/
theorem Phase.step_ensures {I : State → Prop} {Q : Change → Prop} (hState : I state)
    (hPhase : phase.Ensures D I Q)
    (h : phase.step D state action = some (state', phase')) :
    phase'.Ensures D I Q := by
  unfold Phase.step at h
  split at h
  case h_1 =>
      cases h
      exact hPhase state hState
  case h_4 =>
      split at h <;> cases h
      · exact hPhase
      · trivial
  case h_5 => split at h <;> cases h <;> trivial
  all_goals cases h <;> trivial

theorem Phase.step_succeeded :
    (Phase.succeeded : Phase Query Answer Change Refusal Error).step D state action =
      none := by
  cases action <;> rfl

variable {s s' : SessionState State Query Answer Change Refusal Error}
  {e : Nat × Action Error}

/-- What a step can do: a step of its own transaction, and nothing to the others. -/
theorem sessionStep_cases (h : sessionStep D s e = some s') :
    ∃ phase, (s.sessions e.1).step D s.committed e.2 = some (s'.committed, phase) ∧
      s'.sessions e.1 = phase ∧ ∀ i ≠ e.1, s'.sessions i = s.sessions i := by
  obtain ⟨⟨state, phase⟩, hStep, rfl⟩ := Option.map_eq_some_iff.mp h
  exact ⟨phase, hStep, Function.update_self .., fun i hi => Function.update_of_ne hi ..⟩

/-- If the changes that the scripts come to keep `I`, every state that is ever
committed satisfies `I`. -/
theorem sessionSystem_invariant {I : State → Prop} {Q : Change → Prop}
    {scripts : Nat → Script Query Answer Change Refusal Error} (hState : I state)
    (hScripts : ∀ i, (scripts i).Ensures D I Q)
    (hApply : ∀ change state state', I state → Q change →
      D.apply change state = .ok state' → I state')
    (hReach : (sessionSystem D state scripts).Reachable s) : I s.committed := by
  -- together with the state, what every transaction may still come to is kept
  have hInv : I s.committed ∧ ∀ i, (s.sessions i).Ensures D I Q := by
    induction hReach with
    | start hStart =>
        cases hStart
        exact ⟨hState, hScripts⟩
    | @step s s' e _ _ hStep ih =>
        obtain ⟨hI, hAll⟩ := ih
        obtain ⟨phase, hOwn, hPhase, hOthers⟩ := sessionStep_cases hStep
        constructor
        · rcases Phase.step_state hOwn with hSame | ⟨-, change, refused, hFlushed, hApplied⟩
          · rw [hSame]
            exact hI
          · have hChange := hAll e.1
            rw [hFlushed] at hChange
            exact hApply change _ _ hI hChange hApplied
        · intro i
          by_cases hi : i = e.1
          · rw [hi, hPhase]
            exact Phase.step_ensures hI (hAll e.1) hOwn
          · rw [hOthers i hi]
            exact hAll i
  exact hInv.1

/-- What has succeeded stays so. -/
theorem succeeded_of_run {scripts : Nat → Script Query Answer Change Refusal Error}
    {events : List (Nat × Action Error)} {i : Nat} (hDone : s.sessions i = .succeeded)
    (hRun : (sessionSystem D state scripts).runUnder (fun _ _ => True) s events =
      some s') : s'.sessions i = .succeeded := by
  induction events generalizing s with
  | nil =>
      cases hRun
      exact hDone
  | cons e events ih =>
      rw [TransitionSystem.runUnder, if_pos trivial] at hRun
      obtain ⟨mid, hStep, hRest⟩ := Option.bind_eq_some_iff.mp hRun
      obtain ⟨phase, hOwn, -, hOthers⟩ := sessionStep_cases hStep
      refine ih ?_ hRest
      rw [hOthers i ?_, hDone]
      rintro rfl
      rw [hDone, Phase.step_succeeded] at hOwn
      cases hOwn

/-- A transaction that does not succeed changes nothing: if it has not succeeded at
the end of a run, each of its steps has left the store as it was. -/
theorem committed_of_not_succeeded
    {scripts : Nat → Script Query Answer Change Refusal Error}
    {events : List (Nat × Action Error)}
    {last : SessionState State Query Answer Change Refusal Error}
    (hStep : sessionStep D s e = some s')
    (hRun : (sessionSystem D state scripts).runUnder (fun _ _ => True) s' events =
      some last)
    (hLast : last.sessions e.1 ≠ .succeeded) : s'.committed = s.committed := by
  obtain ⟨phase, hOwn, hPhase, -⟩ := sessionStep_cases hStep
  rcases Phase.step_state hOwn with hSame | ⟨hDone, -⟩
  · exact hSame
  · exact absurd (succeeded_of_run (hPhase.trans hDone) hRun) hLast

/-! ### What transactions may come to, and what they have done -/

/-- The scripts that a script goes on with, whichever states its queries meet. -/
inductive Script.Leads (D : Store State Query Answer Change Refusal) :
    Script Query Answer Change Refusal Error → Script Query Answer Change Refusal Error → Prop
  | refl (script : Script Query Answer Change Refusal Error) : Leads D script script
  | select {query : Query} {next : Answer → Script Query Answer Change Refusal Error}
      {last : Script Query Answer Change Refusal Error} (state : State)
      (hLeads : Leads D (next (D.answer state query)) last) : Leads D (.select query next) last

/-- A script that starts with a query ends behind one of its answers. -/
theorem Script.Leads.of_select {query : Query}
    {next : Answer → Script Query Answer Change Refusal Error}
    {last : Script Query Answer Change Refusal Error}
    (h : (Script.select query next).Leads D last)
    (hEnd : ∀ query next, last ≠ .select query next) :
    ∃ state answer, D.answer state query = answer ∧ (next answer).Leads D last := by
  cases h with
  | refl _ => exact absurd rfl (hEnd query next)
  | select state h => exact ⟨state, _, rfl, h⟩

/-- A phase of a transaction with a script. -/
def Phase.Of (D : Store State Query Answer Change Refusal)
    (script : Script Query Answer Change Refusal Error) :
    Phase Query Answer Change Refusal Error → Prop
  | .running rest => script.Leads D rest
  | .flushed change refused => script.Leads D (.write change refused)
  | .succeeded => True
  | .failed _ => True

theorem Script.Leads.answered {script : Script Query Answer Change Refusal Error}
    {query : Query} {next : Answer → Script Query Answer Change Refusal Error}
    (h : script.Leads D (.select query next)) (state : State) :
    script.Leads D (next (D.answer state query)) := by
  generalize hLast : Script.select query next = last at h
  induction h with
  | refl _ =>
      subst hLast
      exact .select state (.refl _)
  | select state' _ ih => exact .select state' (ih hLast)

/-- A step keeps to the script. -/
theorem Phase.Of.step {script : Script Query Answer Change Refusal Error}
    (hPhase : phase.Of D script) (h : phase.step D state action = some (state', phase')) :
    phase'.Of D script := by
  unfold Phase.step at h
  split at h
  case h_1 =>
      cases h
      exact hPhase.answered _
  case h_4 =>
      split at h <;> cases h
      · exact hPhase
      · trivial
  case h_5 => split at h <;> cases h <;> trivial
  all_goals cases h <;> trivial

/-- In every run, each transaction keeps to its script. -/
theorem phase_of_reachable {scripts : Nat → Script Query Answer Change Refusal Error}
    (hReach : (sessionSystem D state scripts).Reachable s) (i : Nat) :
    (s.sessions i).Of D (scripts i) := by
  induction hReach with
  | start hStart =>
      cases hStart
      exact .refl _
  | @step s s' e _ _ hStep ih =>
      obtain ⟨phase, hOwn, hPhase, hOthers⟩ := sessionStep_cases hStep
      by_cases hi : i = e.1
      · subst hi
        rw [hPhase]
        exact ih.step hOwn
      · rw [hOthers i hi]
        exact ih

/-- A transaction that succeeds has come to the end of its script, or commits. -/
theorem Phase.step_finish (h : phase.step D state action = some (state', .succeeded)) :
    phase = .running .finish ∨ ∃ change refused, phase = .flushed change refused ∧
      D.apply change state = .ok state' := by
  unfold Phase.step at h
  split at h
  case h_2 => exact .inl rfl
  case h_5 =>
      split at h
      · rename_i hApply
        cases h
        exact .inr ⟨_, _, rfl, hApply⟩
      · cases h
  case h_4 => split at h <;> cases h
  all_goals cases h

/-- A flush or a commit asks the store about a change. -/
theorem Phase.step_apply (hAction : action = .flush ∨ action = .commit)
    (h : phase.step D state action = some (state', phase')) :
    ∃ change refused, (phase = .running (.write change refused) ∨
        phase = .flushed change refused) ∧
      ((∃ changed, D.apply change state = .ok changed ∧ ∀ error, phase' ≠ .failed error) ∨
        ∃ refusal, D.apply change state = .error refusal ∧
          phase' = .failed (refused refusal)) := by
  unfold Phase.step at h
  split at h
  case h_4 =>
      refine ⟨_, _, .inl rfl, ?_⟩
      split at h
      · rename_i hApply
        cases h
        exact .inl ⟨_, hApply, fun error hFailed => by cases hFailed⟩
      · rename_i hApply
        cases h
        exact .inr ⟨_, hApply, rfl⟩
  case h_5 =>
      refine ⟨_, _, .inr rfl, ?_⟩
      split at h
      · rename_i hApply
        cases h
        exact .inl ⟨_, hApply, fun error hFailed => by cases hFailed⟩
      · rename_i hApply
        cases h
        exact .inr ⟨_, hApply, rfl⟩
  -- no other step is a flush or a commit
  case h_8 => cases h
  all_goals rcases hAction with hSame | hSame <;> cases hSame

/-- If no script ends without a change, and each change keeps `I` between the
transactions that have succeeded and the state when its own transaction joins them, `I`
holds in every reachable state. -/
theorem sessionSystem_accounts {I : (Nat → Prop) → State → Prop}
    {scripts : Nat → Script Query Answer Change Refusal Error}
    (hStart : I (fun _ => False) state) (hWrites : ∀ i, ¬(scripts i).Leads D .finish)
    (hApply : ∀ succeeded i change refused state state', I succeeded state →
      (scripts i).Leads D (.write change refused) → D.apply change state = .ok state' →
        I (fun j => j = i ∨ succeeded j) state')
    (hReach : (sessionSystem D state scripts).Reachable s) :
    I (fun i => s.sessions i = .succeeded) s.committed := by
  induction hReach with
  | start hStart' =>
      cases hStart'
      have hNone : (fun i => (Phase.running (scripts i) : Phase Query Answer Change Refusal
          Error) = .succeeded) = fun _ => False := by
        funext i
        exact eq_false fun h => nomatch h
      change I (fun i => Phase.running (scripts i) = .succeeded) state
      rw [hNone]
      exact hStart
  | @step s s' e hBefore _ hStep ih =>
      obtain ⟨phase, hOwn, hPhase, hOthers⟩ := sessionStep_cases hStep
      have hBusy : s.sessions e.1 ≠ .succeeded := by
        intro hDone
        rw [hDone, Phase.step_succeeded] at hOwn
        cases hOwn
      by_cases hDone : phase = .succeeded
      · subst hDone
        have hJoined : (fun i => s'.sessions i = .succeeded) =
            fun i => i = e.1 ∨ s.sessions i = .succeeded := by
          funext i
          by_cases hi : i = e.1
          · subst hi
            exact propext (iff_of_true hPhase (.inl rfl))
          · rw [hOthers i hi]
            exact propext ⟨.inr, fun h => h.resolve_left hi⟩
        rw [hJoined]
        have hOf := phase_of_reachable hBefore e.1
        rcases Phase.step_finish hOwn with hFinish | ⟨change, refused, hFlushed, hApplied⟩
        · rw [hFinish] at hOf
          exact absurd hOf (hWrites e.1)
        · rw [hFlushed] at hOf
          exact hApply _ e.1 change refused _ _ ih hOf hApplied
      · have hKept : (fun i => s'.sessions i = .succeeded) =
            fun i => s.sessions i = .succeeded := by
          funext i
          by_cases hi : i = e.1
          · subst hi
            rw [hPhase]
            exact propext (iff_of_false hDone hBusy)
          · rw [hOthers i hi]
        rcases Phase.step_state hOwn with hSame | ⟨hSucceeded, -⟩
        · rw [hKept, hSame]
          exact ih
        · exact absurd hSucceeded hDone

/-! ### One transaction alone -/

/-- What a transaction does if no other one interleaves with it. -/
def Script.alone (D : Store State Query Answer Change Refusal) (state : State) :
    Script Query Answer Change Refusal Error → Except Error State
  | .select query next => (next (D.answer state query)).alone D state
  | .write change refused => (D.apply change state).mapError refused
  | .finish => .ok state
  | .raise error => .error error

/-- A phase at the end of a transaction, with the state that it leaves. -/
def Phase.Ends (before : State) :
    Except Error State → State × Phase Query Answer Change Refusal Error → Prop
  | .ok after, (state, phase) => state = after ∧ phase = .succeeded
  | .error error, (state, phase) => state = before ∧ phase = .failed error

/-- Alone, a transaction goes through one of the runs of the sessions. -/
theorem alone_run (scripts : Nat → Script Query Answer Change Refusal Error) (i : Nat)
    (script : Script Query Answer Change Refusal Error)
    (s : SessionState State Query Answer Change Refusal Error)
    (hRunning : s.sessions i = .running script) :
    ∃ events s', (sessionSystem D state scripts).runUnder (fun _ _ => True) s events = some s' ∧
      Phase.Ends s.committed (script.alone D s.committed) (s'.committed, s'.sessions i) ∧
      ∀ j ≠ i, s'.sessions j = s.sessions j := by
  -- a step of the transaction leads to the state with its next phase
  have hTake : ∀ (s : SessionState State Query Answer Change Refusal Error) action state' phase',
      (s.sessions i).step D s.committed action = some (state', phase') →
      sessionStep D s (i, action) = some ⟨state', Function.update s.sessions i phase'⟩ := by
    intro s action state' phase' hStep
    rw [sessionStep, hStep]
    rfl
  have hRun : ∀ (s s' : SessionState State Query Answer Change Refusal Error) e events last,
      sessionStep D s e = some s' →
      (sessionSystem D state scripts).runUnder (fun _ _ => True) s' events = some last →
      (sessionSystem D state scripts).runUnder (fun _ _ => True) s (e :: events) = some last := by
    intro s s' e events last hStep hRest
    rw [TransitionSystem.runUnder, if_pos trivial]
    exact Option.bind_eq_some_iff.mpr ⟨s', hStep, hRest⟩
  induction script generalizing s with
  | select query next ih =>
      have hStep := hTake s .select s.committed (.running (next (D.answer s.committed query)))
        (by rw [hRunning]; rfl)
      obtain ⟨events, last, hRest, hEnds, hOthers⟩ := ih (D.answer s.committed query)
        ⟨s.committed, Function.update s.sessions i (.running (next (D.answer s.committed query)))⟩
        (Function.update_self ..)
      refine ⟨(i, .select) :: events, last, hRun _ _ _ _ _ hStep hRest, hEnds, fun j hj => ?_⟩
      exact (hOthers j hj).trans (Function.update_of_ne hj ..)
  | write change refused =>
      cases hApply : D.apply change s.committed with
      | ok changed =>
          have hFlush := hTake s .flush s.committed (.flushed change refused)
            (by rw [hRunning]; simp [Phase.step, hApply])
          have hCommit := hTake
            ⟨s.committed, Function.update s.sessions i (.flushed change refused)⟩
            .commit changed .succeeded (by simp [Phase.step, hApply])
          refine ⟨[(i, .flush), (i, .commit)], _,
            hRun _ _ _ _ _ hFlush (hRun _ _ _ _ _ hCommit rfl), ?_, fun j hj => ?_⟩
          · simp [Script.alone, hApply, Except.mapError, Phase.Ends]
          · simp [Function.update_of_ne hj]
      | error refusal =>
          have hFlush := hTake s .flush s.committed (.failed (refused refusal))
            (by rw [hRunning]; simp [Phase.step, hApply])
          refine ⟨[(i, .flush)], _, hRun _ _ _ _ _ hFlush rfl, ?_, fun j hj => ?_⟩
          · simp [Script.alone, hApply, Except.mapError, Phase.Ends]
          · simp [Function.update_of_ne hj]
  | finish =>
      have hStep := hTake s .finish s.committed .succeeded (by rw [hRunning]; rfl)
      refine ⟨[(i, .finish)], _, hRun _ _ _ _ _ hStep rfl, ?_, fun j hj => ?_⟩
      · simp [Script.alone, Phase.Ends]
      · simp [Function.update_of_ne hj]
  | raise error =>
      have hStep := hTake s .finish s.committed (.failed error) (by rw [hRunning]; rfl)
      refine ⟨[(i, .finish)], _, hRun _ _ _ _ _ hStep rfl, ?_, fun j hj => ?_⟩
      · simp [Script.alone, Phase.Ends]
      · simp [Function.update_of_ne hj]

end Sessions

end Library
end DataApi
