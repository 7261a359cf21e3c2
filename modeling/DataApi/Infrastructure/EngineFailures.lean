import DataApi.Library.History
import DataApi.Infrastructure.TrinoClient

/-!
# Which query takes down which engine

An engine is meant to go down with a query of its own: `_dispose_engine` detaches the
engine that the failed query obtained, and no other.  The timeout path does not look at
the engine of its query: `_dispose_current_engine` takes whatever engine is current
when the waiting coroutine wakes, which may be the replacement of the one the query
runs on.

The statements are about recorded runs (`Library.History`): who obtained which engine,
and who has failed, is read off the steps before.
-/

namespace DataApi
namespace Infrastructure

open Library

/-- A step of the client. -/
abbrev ClientStep (Engine : Type) := Step (ClientState Engine) (ClientEvent Engine)

/-- The steps of a run, the newest first. -/
abbrev ClientRecord (Engine : Type) := List (ClientStep Engine)

section Failures

variable {Engine : Type}

/-- The call that obtains an engine from `_get_engine` in a step, with that engine. -/
def obtainedIn (step : ClientStep Engine) : Option (Nat × Engine) :=
  match step.event with
  | .getEngine call _ => step.after.engine.map fun engine => (call, engine)
  | _ => none

/-- The call whose query raises in an event. -/
def raisedIn : ClientEvent Engine → Option Nat
  | .queryEnds call true => some call
  | _ => none

/-- The call that times out in an event. -/
def timedOutIn : ClientEvent Engine → Option Nat
  | .timeOut call => some call
  | _ => none

/-- The engines that were obtained, each with the call of its query. -/
def obtainedEngines (record : ClientRecord Engine) : List (Nat × Engine) :=
  record.filterMap obtainedIn

/-- The calls whose query has raised. -/
def raisedCalls (record : ClientRecord Engine) : List Nat :=
  record.filterMap fun step => raisedIn step.event

/-- The calls that have timed out. -/
def timedOutCalls (record : ClientRecord Engine) : List Nat :=
  record.filterMap fun step => timedOutIn step.event

/-- The query of a call obtained an engine, and has raised or timed out. -/
structure FailedOn (record : ClientRecord Engine) (call : Nat) (engine : Engine) : Prop where
  obtained : (call, engine) ∈ obtainedEngines record
  failed : call ∈ raisedCalls record ∨ call ∈ timedOutCalls record

/-- The steps of `close`. -/
def ClientEvent.ofClose : ClientEvent Engine → Prop
  | .closeSync _ => True
  | .dispose (.closer _) => True
  | _ => False

/-- A step detaches an engine, or disposes of it. -/
def TakesDown (step : ClientStep Engine) (engine : Engine) : Prop :=
  (step.before.engine = some engine ∧ step.after.engine ≠ some engine) ∨
    step.after.disposed = engine :: step.before.disposed

/-- Only an engine that some failed query obtained is taken down, `close` aside. -/
def OwnEngineOnly (earlier : ClientRecord Engine) (step : ClientStep Engine) : Prop :=
  ¬ step.event.ofClose → ∀ engine, TakesDown step engine →
    ∃ call, FailedOn earlier call engine

/-- The timeout of a query that ran on an engine already replaced leaves the
replacement in place. -/
def LeavesReplacement (earlier : ClientRecord Engine) (step : ClientStep Engine) : Prop :=
  ∀ call own engine, step.event = .disposeCurrentEngine call →
    (call, own) ∈ obtainedEngines earlier → step.before.engine = some engine →
    engine ≠ own → step.after.engine = some engine

/-- A step of a query that fails takes down no engine but its own. -/
def FailuresContained (earlier : ClientRecord Engine) (step : ClientStep Engine) : Prop :=
  OwnEngineOnly earlier step ∧ LeavesReplacement earlier step

/-- When a timeout enters its locked section it finds no engine, or the one that its own
query obtained, or, if this query has obtained none yet, one of a query that has failed. -/
def SafeTimeout (earlier : ClientRecord Engine) (step : ClientStep Engine) : Prop :=
  ∀ call engine, step.event = .disposeCurrentEngine call →
    step.before.engine = some engine →
    (call, engine) ∈ obtainedEngines earlier ∨
      ((∀ own, (call, own) ∉ obtainedEngines earlier) ∧
        ∃ other, FailedOn earlier other engine)

end Failures

section Justification

variable {Engine : Type} {s s' : ClientState Engine} {call : Nat} {engine : Engine}
  {thread : Thread} {phase : Phase Engine} {earlier : ClientRecord Engine}

/-- What the record says about the phase a thread is in: a query runs on the engine it
obtained, and who is about to dispose of an engine has a failed query to show. -/
def Justified (record : ClientRecord Engine) : Thread → Phase Engine → Prop
  | .worker call, .query engine => (call, engine) ∈ obtainedEngines record
  | .worker call, .disposeEngine engine => FailedOn record call engine
  | .worker _, .dispose engine => ∃ call, FailedOn record call engine
  | .caller call, .disposeCurrentEngine => call ∈ timedOutCalls record
  | .caller _, .dispose engine => ∃ call, FailedOn record call engine
  | _, _ => True

theorem obtainedEngines_cons (step : ClientStep Engine)
    (hOld : (call, engine) ∈ obtainedEngines earlier) :
    (call, engine) ∈ obtainedEngines (step :: earlier) :=
  (List.sublist_cons_self step earlier).filterMap _ |>.subset hOld

theorem timedOutCalls_cons (step : ClientStep Engine)
    (hOld : call ∈ timedOutCalls earlier) : call ∈ timedOutCalls (step :: earlier) :=
  (List.sublist_cons_self step earlier).filterMap _ |>.subset hOld

theorem raisedCalls_cons (step : ClientStep Engine)
    (hOld : call ∈ raisedCalls earlier) : call ∈ raisedCalls (step :: earlier) :=
  (List.sublist_cons_self step earlier).filterMap _ |>.subset hOld

/-- A query that has failed stays one that has. -/
theorem FailedOn.cons (step : ClientStep Engine) (hFailed : FailedOn earlier call engine) :
    FailedOn (step :: earlier) call engine where
  obtained := obtainedEngines_cons step hFailed.obtained
  failed := hFailed.failed.imp (raisedCalls_cons step) (timedOutCalls_cons step)

/-- What a record justifies, its extensions do. -/
theorem Justified.cons (step : ClientStep Engine) (hPhase : Justified earlier thread phase) :
    Justified (step :: earlier) thread phase := by
  cases thread with
  | worker call =>
      cases phase with
      | query engine => exact obtainedEngines_cons step hPhase
      | disposeEngine engine => exact FailedOn.cons step hPhase
      | dispose engine =>
          obtain ⟨failed, hFailed⟩ := hPhase
          exact ⟨failed, hFailed.cons step⟩
      | _ => trivial
  | caller call =>
      cases phase with
      | disposeCurrentEngine => exact timedOutCalls_cons step hPhase
      | dispose engine =>
          obtain ⟨failed, hFailed⟩ := hPhase
          exact ⟨failed, hFailed.cons step⟩
      | _ => trivial
  | closer call => trivial

/-- The phases of all threads are justified. -/
def AllJustified (record : ClientRecord Engine) (s : ClientState Engine) : Prop :=
  ∀ thread, Justified record thread (s.threads thread)

/-- Only the thread of the step needs a new justification. -/
theorem AllJustified.goTo (hAll : AllJustified earlier s) (step : ClientStep Engine)
    (hPhase : Justified (step :: earlier) thread phase) :
    AllJustified (step :: earlier) (s.goTo thread phase) := by
  intro t
  by_cases hSame : t = thread
  · subst hSame
    simpa [ClientState.goTo] using hPhase
  · simpa [ClientState.goTo, Function.update_of_ne hSame] using (hAll t).cons step

/-- Detaching needs a justification for the engine that is found. -/
theorem AllJustified.detach (hAll : AllJustified earlier s) (step : ClientStep Engine)
    (hIdle : Justified (step :: earlier) thread phase)
    (hCurrent : ∀ engine, s.engine = some engine →
      Justified (step :: earlier) thread (.dispose engine)) :
    AllJustified (step :: earlier) (s.detach thread phase) := by
  unfold ClientState.detach
  split
  · exact hAll.goTo step hIdle
  · rename_i engine hEngine
    have hDetached : AllJustified earlier { s with engine := none } := hAll
    exact hDetached.goTo step (hCurrent engine hEngine)

theorem justified_afterDispose (thread : Thread) :
    Justified earlier thread thread.afterDispose := by
  cases thread <;> trivial

/-- The engine that `_get_engine` returns is the current one. -/
theorem obtainedIn_getEngine {made : Engine} (hCurrent : s'.engine = some engine) :
    obtainedIn ⟨s, .getEngine call made, s'⟩ = some (call, engine) := by
  rw [obtainedIn, hCurrent]
  rfl

theorem mem_obtainedEngines {step : ClientStep Engine}
    (hSome : obtainedIn step = some (call, engine)) :
    (call, engine) ∈ obtainedEngines (step :: earlier) :=
  List.mem_filterMap.mpr ⟨step, List.mem_cons_self, hSome⟩

/-- The justification of the timeout path: its own query has failed, now that it has
timed out, or the engine is that of another one. -/
theorem SafeTimeout.failedOn {next : ClientState Engine}
    (hSafe : SafeTimeout earlier ⟨s, .disposeCurrentEngine call, next⟩)
    (hTimedOut : call ∈ timedOutCalls earlier) (hCurrent : s.engine = some engine) :
    ∃ failed, FailedOn earlier failed engine := by
  rcases hSafe call engine rfl hCurrent with hOwn | ⟨-, hOther⟩
  · exact ⟨call, hOwn, .inr hTimedOut⟩
  · exact hOther

/-- A step that leaves the engine, or finds none, and disposes of nothing takes down
nothing. -/
theorem not_takesDown {e : ClientEvent Engine}
    (hEngine : s'.engine = s.engine ∨ s.engine = none) (hDisposed : s'.disposed = s.disposed) :
    ¬ TakesDown ⟨s, e, s'⟩ engine := by
  rintro (⟨hCurrent, hGone⟩ | hMore)
  · rcases hEngine with hSame | hNone
    · exact hGone (hSame.trans hCurrent)
    · rw [hNone] at hCurrent
      cases hCurrent
  · rw [hDisposed] at hMore
    exact List.cons_ne_self engine s.disposed hMore.symm

/-- A step that disposes of nothing takes down nothing but the current engine. -/
theorem TakesDown.current {e : ClientEvent Engine} (hDown : TakesDown ⟨s, e, s'⟩ engine)
    (hDisposed : s'.disposed = s.disposed) : s.engine = some engine := by
  rcases hDown with ⟨hCurrent, -⟩ | hMore
  · exact hCurrent
  · rw [hDisposed] at hMore
    exact absurd hMore.symm (List.cons_ne_self engine s.disposed)

theorem detach_engine (idle : Phase Engine) : (s.detach thread idle).engine = none := by
  unfold ClientState.detach
  split
  · assumption
  · rfl

theorem detach_disposed (idle : Phase Engine) :
    (s.detach thread idle).disposed = s.disposed := by
  unfold ClientState.detach
  split <;> rfl

/-- A query asks for its engine once. -/
structure ObtainedOnce (record : ClientRecord Engine) (s : ClientState Engine) : Prop where
  asked : ∀ call engine, (call, engine) ∈ obtainedEngines record →
    s.threads (.worker call) ≠ .getEngine
  unique : ∀ call engine other, (call, engine) ∈ obtainedEngines record →
    (call, other) ∈ obtainedEngines record → engine = other

/-- No thread comes back to `_get_engine`. -/
theorem goTo_ne_getEngine {t : Thread} (hPhase : phase ≠ .getEngine)
    (hOther : s.threads t ≠ .getEngine) : (s.goTo thread phase).threads t ≠ .getEngine := by
  by_cases hSame : t = thread
  · subst hSame
    simpa [ClientState.goTo] using hPhase
  · simpa [ClientState.goTo, Function.update_of_ne hSame] using hOther

/-- A step in which no engine is obtained. -/
theorem ObtainedOnce.goTo (hOnce : ObtainedOnce earlier s) {step : ClientStep Engine}
    (hNone : obtainedIn step = none) (hPhase : phase ≠ .getEngine) :
    ObtainedOnce (step :: earlier) (s.goTo thread phase) := by
  have hSame : obtainedEngines (step :: earlier) = obtainedEngines earlier :=
    List.filterMap_cons_none hNone
  constructor
  · intro call engine hObtained
    rw [hSame] at hObtained
    exact goTo_ne_getEngine hPhase (hOnce.asked call engine hObtained)
  · rw [hSame]
    exact hOnce.unique

/-- A step in which a query obtains its engine. -/
theorem ObtainedOnce.query (hOnce : ObtainedOnce earlier s) {step : ClientStep Engine}
    (hSome : obtainedIn step = some (call, engine))
    (hPhase : s.threads (.worker call) = .getEngine) :
    ObtainedOnce (step :: earlier) (s.goTo (.worker call) (.query engine)) := by
  have hMore : obtainedEngines (step :: earlier) = (call, engine) :: obtainedEngines earlier :=
    List.filterMap_cons_some hSome
  have hNew : ∀ other, (call, other) ∉ obtainedEngines earlier :=
    fun other hObtained => hOnce.asked call other hObtained hPhase
  have hQuery : (Phase.query engine : Phase Engine) ≠ .getEngine := fun h => (by cases h)
  constructor
  · intro asked found hFound
    rw [hMore] at hFound
    rcases List.mem_cons.mp hFound with hThis | hOld
    · cases hThis
      simp [ClientState.goTo]
    · exact goTo_ne_getEngine hQuery (hOnce.asked asked found hOld)
  · intro asked found other hFound hOther
    rw [hMore] at hFound hOther
    rcases List.mem_cons.mp hFound with hThis | hOld
    · cases hThis
      rcases List.mem_cons.mp hOther with hThis' | hOld'
      · cases hThis'
        rfl
      · exact absurd hOld' (hNew other)
    · rcases List.mem_cons.mp hOther with hThis' | hOld'
      · cases hThis'
        exact absurd hOld (hNew found)
      · exact hOnce.unique asked found other hOld hOld'

theorem ObtainedOnce.detach (hOnce : ObtainedOnce earlier s) {step : ClientStep Engine}
    (hNone : obtainedIn step = none) (hPhase : phase ≠ .getEngine) :
    ObtainedOnce (step :: earlier) (s.detach thread phase) := by
  unfold ClientState.detach
  split
  · exact hOnce.goTo hNone hPhase
  · have hDetached : ObtainedOnce earlier { s with engine := none } := ⟨hOnce.asked, hOnce.unique⟩
    exact hDetached.goTo hNone fun h => (by cases h)

end Justification

section StepLemmas

variable {Engine : Type} [DecidableEq Engine] {s s' : ClientState Engine}
  {e : ClientEvent Engine} {earlier : ClientRecord Engine}

/-- In a run whose timeouts were safe so far, a step takes down an engine of a failed
query only. -/
theorem StepTaken.ownEngineOnly (hTaken : StepTaken s e s') (hAll : AllJustified earlier s)
    (hSafe : SafeTimeout earlier ⟨s, e, s'⟩) : OwnEngineOnly earlier ⟨s, e, s'⟩ := by
  intro hNotClose engine hDown
  cases hTaken with
  | getEngine call made hPhase =>
      refine absurd hDown (not_takesDown ?_ ?_)
      · unfold ClientState.getEngine
        split
        · rename_i hEmpty
          exact .inr hEmpty
        · exact .inl rfl
      · unfold ClientState.getEngine
        split <;> rfl
  | returns call _ hPhase => exact absurd hDown (not_takesDown (.inl rfl) rfl)
  | raises call _ hPhase => exact absurd hDown (not_takesDown (.inl rfl) rfl)
  | waitEnds call _ hPhase hEnded => exact absurd hDown (not_takesDown (.inl rfl) rfl)
  | timeOut call hPhase => exact absurd hDown (not_takesDown (.inl rfl) rfl)
  | disposeEngine call own hPhase =>
      -- `if self._engine is engine`: the only engine it detaches is its own
      have hFailed : Justified earlier (.worker call) (.disposeEngine own) := hPhase ▸ hAll _
      unfold ClientState.disposeEngine at hDown
      split at hDown
      · rename_i hOwn
        have hCurrent : s.engine = some engine := hDown.current rfl
        rw [hOwn] at hCurrent
        cases hCurrent
        exact ⟨call, hFailed⟩
      · exact absurd hDown (not_takesDown (.inl rfl) rfl)
  | disposeCurrentEngine call hPhase =>
      have hTimedOut : Justified earlier (.caller call) .disposeCurrentEngine := hPhase ▸ hAll _
      exact hSafe.failedOn hTimedOut (hDown.current (detach_disposed .raised))
  | closeSync call hPhase => exact absurd trivial hNotClose
  | dispose thread pending hPhase =>
      have hOwn : engine = pending := by
        rcases hDown with ⟨hCurrent, hGone⟩ | hMore
        · exact absurd hCurrent hGone
        · exact (List.cons.inj hMore).1.symm
      subst hOwn
      have hFailed : Justified earlier thread (.dispose engine) := hPhase ▸ hAll _
      cases thread with
      | worker call => exact hFailed
      | caller call => exact hFailed
      | closer call => exact absurd trivial hNotClose

/-- A step keeps the phases justified. -/
theorem StepTaken.allJustified (hTaken : StepTaken s e s') (hAll : AllJustified earlier s)
    (hSafe : SafeTimeout earlier ⟨s, e, s'⟩) : AllJustified (⟨s, e, s'⟩ :: earlier) s' := by
  cases hTaken with
  | getEngine call made hPhase =>
      unfold ClientState.getEngine
      split
      · have hCreated : AllJustified earlier
            { s with engine := some made, created := made :: s.created } := hAll
        exact hCreated.goTo _ (mem_obtainedEngines (obtainedIn_getEngine rfl))
      · rename_i engine hCurrent
        exact hAll.goTo _ (mem_obtainedEngines (obtainedIn_getEngine hCurrent))
  | returns call engine hPhase => exact hAll.goTo _ trivial
  | raises call engine hPhase =>
      have hObtained : Justified earlier (.worker call) (.query engine) := hPhase ▸ hAll _
      refine hAll.goTo _ ⟨obtainedEngines_cons _ hObtained, .inl ?_⟩
      exact List.mem_cons_self
  | waitEnds call outcome hPhase hEnded =>
      rcases hEnded with ⟨rfl, -⟩ | ⟨rfl, -⟩
      · exact hAll.goTo _ trivial
      · exact hAll.goTo _ trivial
  | timeOut call hPhase =>
      refine hAll.goTo _ ?_
      exact List.mem_cons_self
  | disposeEngine call own hPhase =>
      have hFailed : Justified earlier (.worker call) (.disposeEngine own) := hPhase ▸ hAll _
      unfold ClientState.disposeEngine
      split
      · have hDetached : AllJustified earlier { s with engine := none } := hAll
        exact hDetached.goTo _ ⟨call, FailedOn.cons _ hFailed⟩
      · exact hAll.goTo _ ⟨call, FailedOn.cons _ hFailed⟩
  | disposeCurrentEngine call hPhase =>
      have hTimedOut : Justified earlier (.caller call) .disposeCurrentEngine := hPhase ▸ hAll _
      unfold ClientState.disposeCurrentEngine
      refine hAll.detach _ trivial fun engine hCurrent => ?_
      obtain ⟨failed, hFailed⟩ := hSafe.failedOn hTimedOut hCurrent
      exact ⟨failed, hFailed.cons _⟩
  | closeSync call hPhase => exact hAll.detach _ trivial fun _ _ => trivial
  | dispose thread pending hPhase =>
      have hDisposed : AllJustified earlier { s with disposed := pending :: s.disposed } := hAll
      exact hDisposed.goTo _ (justified_afterDispose thread)

/-- A step keeps it that a query asks for its engine once. -/
theorem StepTaken.obtainedOnce (hTaken : StepTaken s e s') (hOnce : ObtainedOnce earlier s) :
    ObtainedOnce (⟨s, e, s'⟩ :: earlier) s' := by
  cases hTaken with
  | getEngine call made hPhase =>
      unfold ClientState.getEngine
      split
      · have hCreated : ObtainedOnce earlier
            { s with engine := some made, created := made :: s.created } :=
          ⟨hOnce.asked, hOnce.unique⟩
        exact hCreated.query (obtainedIn_getEngine rfl) hPhase
      · rename_i engine hCurrent
        exact hOnce.query (obtainedIn_getEngine hCurrent) hPhase
  | returns call engine hPhase => exact hOnce.goTo rfl fun h => (by cases h)
  | raises call engine hPhase => exact hOnce.goTo rfl fun h => (by cases h)
  | waitEnds call outcome hPhase hEnded =>
      rcases hEnded with ⟨rfl, -⟩ | ⟨rfl, -⟩
      · exact hOnce.goTo rfl fun h => (by cases h)
      · exact hOnce.goTo rfl fun h => (by cases h)
  | timeOut call hPhase => exact hOnce.goTo rfl fun h => (by cases h)
  | disposeEngine call own hPhase =>
      unfold ClientState.disposeEngine
      split
      · have hDetached : ObtainedOnce earlier { s with engine := none } :=
          ⟨hOnce.asked, hOnce.unique⟩
        exact hDetached.goTo rfl fun h => (by cases h)
      · exact hOnce.goTo rfl fun h => (by cases h)
  | disposeCurrentEngine call hPhase => exact hOnce.detach rfl fun h => (by cases h)
  | closeSync call hPhase => exact hOnce.detach rfl fun h => (by cases h)
  | dispose thread pending hPhase =>
      have hDisposed : ObtainedOnce earlier { s with disposed := pending :: s.disposed } :=
        ⟨hOnce.asked, hOnce.unique⟩
      exact hDisposed.goTo rfl fun h => (by cases thread <;> cases h)

omit [DecidableEq Engine] in
/-- The replacement of its engine is never what the query of a safe timeout finds. -/
theorem SafeTimeout.leavesReplacement (hSafe : SafeTimeout earlier ⟨s, e, s'⟩)
    (hOnce : ObtainedOnce earlier s) : LeavesReplacement earlier ⟨s, e, s'⟩ := by
  intro call own engine hEvent hOwn hCurrent hReplaced
  rcases hSafe call engine hEvent hCurrent with hSame | ⟨hNone, -⟩
  · exact absurd (hOnce.unique call engine own hSame hOwn) hReplaced
  · exact absurd hOwn (hNone own)

/-- A timeout that takes down no engine but its own is a safe one. -/
theorem StepTaken.safeTimeout (hTaken : StepTaken s e s')
    (hContained : FailuresContained earlier ⟨s, e, s'⟩) : SafeTimeout earlier ⟨s, e, s'⟩ := by
  intro call engine hEvent hCurrent
  obtain ⟨hOwnOnly, hLeaves⟩ := hContained
  subst hEvent
  cases hTaken with
  | disposeCurrentEngine call hPhase =>
      have hDetached : (s.disposeCurrentEngine (.caller call)).engine = none := detach_engine _
      have hGone : (s.disposeCurrentEngine (.caller call)).engine ≠ some engine := by
        rw [hDetached]
        exact fun h => (by cases h)
      by_cases hObtained : ∃ own, (call, own) ∈ obtainedEngines earlier
      · obtain ⟨own, hOwn⟩ := hObtained
        by_cases hSame : engine = own
        · subst hSame
          exact .inl hOwn
        · exact absurd (hLeaves call own engine rfl hOwn hCurrent hSame) hGone
      · refine .inr ⟨fun own hOwn => hObtained ⟨own, hOwn⟩, ?_⟩
        exact hOwnOnly (fun hClose => hClose) engine (.inl ⟨hCurrent, hGone⟩)

end StepLemmas

section Runs

variable {Engine : Type} [DecidableEq Engine] {s : ClientState Engine}
  {record : ClientRecord Engine}

omit [DecidableEq Engine] in
/-- A new client has no thread that needs a justification. -/
theorem allJustified_entry :
    AllJustified [] (⟨none, [], [], Thread.entry⟩ : ClientState Engine) := by
  intro thread
  cases thread <;> trivial

omit [DecidableEq Engine] in
theorem obtainedOnce_entry :
    ObtainedOnce [] (⟨none, [], [], Thread.entry⟩ : ClientState Engine) :=
  ⟨fun _ _ hNone => (by cases hNone), fun _ _ _ hNone => (by cases hNone)⟩

/-- In every run, in any interleaving: failures are contained exactly if every timeout is
a safe one. -/
theorem failuresContained_iff
    (hReach : (trinoPythonClient Engine).recorded.Reachable (s, record)) :
    EachStep FailuresContained record ↔ EachStep SafeTimeout record := by
  constructor
  · intro hContained
    refine TransitionSystem.Reachable.eachStep (fun _ _ => True) (fun _ _ => trivial) ?_
      hReach hContained
    intro s earlier e s' _ hStep hStepContained
    exact ⟨(clientStep_taken hStep).safeTimeout hStepContained, trivial⟩
  · intro hSafe
    refine TransitionSystem.Reachable.eachStep
      (fun s earlier => AllJustified earlier s ∧ ObtainedOnce earlier s) ?_ ?_ hReach hSafe
    · rintro s rfl
      exact ⟨allJustified_entry, obtainedOnce_entry⟩
    · rintro s earlier e s' ⟨hAll, hOnce⟩ hStep hStepSafe
      have hTaken : StepTaken s e s' := clientStep_taken hStep
      refine ⟨⟨hTaken.ownEngineOnly hAll hStepSafe, hStepSafe.leavesReplacement hOnce⟩, ?_⟩
      exact ⟨hTaken.allJustified hAll hStepSafe, hTaken.obtainedOnce hOnce⟩

end Runs

theorem failuresContained_lateFailure :
    ∃ s record, (trinoPythonClient Nat).recorded.runUnder (fun _ _ => True)
        (⟨none, [], [], Thread.entry⟩, []) lateFailure = some (s, record) ∧
      EachStep FailuresContained record := by
  have hRun : (trinoPythonClient Nat).recorded.runUnder (fun _ _ => True)
      (⟨none, [], [], Thread.entry⟩, []) lateFailure = some _ := rfl
  have hStart : (trinoPythonClient Nat).recorded.start (⟨none, [], [], Thread.entry⟩, []) :=
    ⟨rfl, rfl⟩
  refine ⟨_, _, hRun, (failuresContained_iff (.run (.start hStart) hRun)).mpr ?_⟩
  have hOwn : (0, 10) ∈ [(0, 10)] := List.mem_cons_self
  -- the one timeout is the fifth step from the end
  refine ⟨fun _ _ h => (by cases h), fun _ _ h => (by cases h), fun _ _ h => (by cases h),
    fun _ _ h => (by cases h), fun call engine hEvent hCurrent => ?_,
    fun _ _ h => (by cases h), fun _ _ h => (by cases h), trivial⟩
  cases hEvent
  cases hCurrent
  exact .inl hOwn

/-- Call 0 runs on engine 10 when call 1 fails on it; call 2 runs on the replacement, 11,
when call 0 times out. -/
def lateTimeout : List (ClientEvent Nat) :=
  [.getEngine 0 10, .getEngine 1 11, .queryEnds 1 true, .disposeEngine 1,
    .dispose (.worker 1), .getEngine 2 11, .timeOut 0, .disposeCurrentEngine 0]

theorem lateTimeout_not_contained :
    ∃ s record, (trinoPythonClient Nat).recorded.runUnder (fun _ _ => True)
        (⟨none, [], [], Thread.entry⟩, []) lateTimeout = some (s, record) ∧
      (trinoPythonClient Nat).recorded.Reachable (s, record) ∧
      ¬ EachStep OwnEngineOnly record ∧ ¬ EachStep LeavesReplacement record := by
  have hRun : (trinoPythonClient Nat).recorded.runUnder (fun _ _ => True)
      (⟨none, [], [], Thread.entry⟩, []) lateTimeout = some _ := rfl
  have hStart : (trinoPythonClient Nat).recorded.start (⟨none, [], [], Thread.entry⟩, []) :=
    ⟨rfl, rfl⟩
  refine ⟨_, _, hRun, .run (.start hStart) hRun, ?_, ?_⟩
  · rintro ⟨hOwn, -⟩
    obtain ⟨call, hObtained, hFailed⟩ :=
      hOwn (fun hClose => hClose) 11 (.inl ⟨rfl, fun hKept => (by cases hKept)⟩)
    have hCall : (call, 11) ∈ [(2, 11), (1, 10), (0, 10)] := hObtained
    have hNotFailed : call ∈ [1] ∨ call ∈ [0] := hFailed
    simp at hCall hNotFailed
    omega
  · rintro ⟨hLeaves, -⟩
    have hOwn : (0, 10) ∈ [(2, 11), (1, 10), (0, 10)] := by decide
    cases hLeaves 0 10 11 rfl hOwn rfl (by decide)

end Infrastructure
end DataApi
