import DataApi.Library.History
import DataApi.Library.Transactions

/-!
# The order of the commits

Interleaved transactions change the store one commit after the other.  A recorded run
says in which order, and what the latest commit of a kind has left behind is a function
of that order: this is the rule for statements about "the last one who wrote".

A transaction writes what it has computed from earlier states.  The rule therefore
tells a change that its transaction is not among those that have committed by then.
-/

namespace DataApi
namespace Library

section Commits

variable {State Query Answer Change Refusal Error : Type*}

/-- The step is a commit that succeeds. -/
def Step.commits
    (step : Step (SessionState State Query Answer Change Refusal Error) (Nat × Action Error)) :
    Bool :=
  match step.event.2, step.after.sessions step.event.1 with
  | .commit, .succeeded => true
  | _, _ => false

/-- The transactions that have committed in a recorded run, the latest first. -/
def commitOrder :
    List (Step (SessionState State Query Answer Change Refusal Error) (Nat × Action Error)) →
      List Nat
  | [] => []
  | step :: earlier =>
      if step.commits then step.event.1 :: commitOrder earlier else commitOrder earlier

variable {D : Store State Query Answer Change Refusal} {state : State}
  {s : SessionState State Query Answer Change Refusal Error}

/-- A step is a commit that makes the change, or leaves the store as it is. -/
theorem Phase.step_commit {phase phase' : Phase Query Answer Change Refusal Error}
    {action : Action Error} {state' : State}
    (h : phase.step D state action = some (state', phase')) :
    (action = .commit ∧ phase' = .succeeded ∧ ∃ change refused,
        phase = .flushed change refused ∧ D.apply change state = .ok state') ∨
      ¬(action = .commit ∧ phase' = .succeeded) ∧ state' = state := by
  unfold Phase.step at h
  split at h
  case h_5 =>
      split at h
      · rename_i hApply
        cases h
        exact .inl ⟨rfl, rfl, _, _, rfl, hApply⟩
      · cases h
        exact .inr ⟨by simp, rfl⟩
  case h_4 => split at h <;> cases h <;> exact .inr ⟨by simp, rfl⟩
  case h_8 => cases h
  all_goals
    cases h
    exact .inr ⟨by simp, rfl⟩

theorem Step.commits_iff
    {step : Step (SessionState State Query Answer Change Refusal Error) (Nat × Action Error)} :
    step.commits = true ↔
      step.event.2 = .commit ∧ step.after.sessions step.event.1 = .succeeded := by
  unfold Step.commits
  split
  · rename_i hAction hPhase
    simp [hAction, hPhase]
  · rename_i hNot
    simp only [Bool.false_eq_true, false_iff, not_and]
    exact hNot

/-- If every change that a transaction comes to in states from before its own commit
satisfies its condition, and such changes keep `J` between the order of the commits and
the state, then `J` holds in every recorded run. -/
theorem commitOrder_invariant {J : List Nat → State → Prop} {Q : Nat → Change → Prop}
    {scripts : Nat → Script Query Answer Change Refusal Error} (hStart : J [] state)
    (hScripts : ∀ i, (scripts i).Ensures D (fun state => ∃ done, i ∉ done ∧ J done state)
      (Q i))
    (hApply : ∀ done i change state state', J done state → i ∉ done → Q i change →
      D.apply change state = .ok state' → J (i :: done) state')
    {record : List (Step (SessionState State Query Answer Change Refusal Error)
      (Nat × Action Error))}
    (hReach : (sessionSystem D state scripts).recorded.Reachable (s, record)) :
    J (commitOrder record) s.committed := by
  -- whoever has committed is at the end, and everyone else may still come to its changes
  have hInv : J (commitOrder record) s.committed ∧
      (∀ i ∈ commitOrder record, s.sessions i = .succeeded) ∧
      ∀ i, (s.sessions i).Ensures D (fun state => ∃ done, i ∉ done ∧ J done state) (Q i) := by
    generalize hPair : (s, record) = pair at hReach
    induction hReach generalizing s record with
    | start hPairStart =>
        subst hPair
        obtain ⟨hState, hRecord⟩ := hPairStart
        cases hState
        cases hRecord
        exact ⟨hStart, fun i hi => absurd hi List.not_mem_nil, hScripts⟩
    | @step before after e _ _ hStep ih =>
        subst hPair
        obtain ⟨next, hNext, hAfter⟩ := TransitionSystem.recorded_step_eq_some.mp hStep
        cases hAfter
        obtain ⟨hJ, hDone, hAll⟩ := ih rfl
        have hSession : sessionStep D before.1 e = some s := hNext
        obtain ⟨phase, hOwn, hPhase, hOthers⟩ := sessionStep_cases hSession
        have hBusy : e.1 ∉ commitOrder before.2 := by
          intro hMem
          rw [hDone e.1 hMem, Phase.step_succeeded] at hOwn
          cases hOwn
        have hKept : ∀ i ∈ commitOrder before.2, s.sessions i = .succeeded := by
          intro i hi
          rw [hOthers i fun hSame => hBusy (hSame ▸ hi)]
          exact hDone i hi
        have hEnsures : ∀ i, (s.sessions i).Ensures D
            (fun state => ∃ done, i ∉ done ∧ J done state) (Q i) := by
          intro i
          by_cases hi : i = e.1
          · rw [hi, hPhase]
            exact Phase.step_ensures ⟨_, hBusy, hJ⟩ (hAll e.1) hOwn
          · rw [hOthers i hi]
            exact hAll i
        rcases Phase.step_commit hOwn with
          ⟨hAction, hSucceeded, change, refused, hFlushed, hApplied⟩ | ⟨hNot, hSame⟩
        · have hChange := hAll e.1
          rw [hFlushed] at hChange
          rw [commitOrder, if_pos (Step.commits_iff.mpr ⟨hAction, hPhase.trans hSucceeded⟩)]
          refine ⟨hApply _ _ _ _ _ hJ hBusy hChange hApplied, fun i hi => ?_, hEnsures⟩
          rcases List.mem_cons.mp hi with hOwnIndex | hEarlier
          · rw [hOwnIndex]
            exact hPhase.trans hSucceeded
          · exact hKept i hEarlier
        · have hNoCommit : ¬Step.commits ⟨before.1, e, s⟩ = true := by
            rw [Step.commits_iff, hPhase]
            exact hNot
          rw [commitOrder, if_neg hNoCommit, hSame]
          exact ⟨hJ, hKept, hEnsures⟩
  exact hInv.1

end Commits

end Library
end DataApi
