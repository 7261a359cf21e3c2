import Mathlib.Logic.Function.Basic
import DataApi.Library.TransitionSystem
import DataApi.QueryEngine.RouteConfig

/-!
# Concurrent updates of a route

Any number of `update_route` requests on one stored route, each in a session of
its own.  A session loads the committed row; the flush writes the columns whose
assigned value differs from the loaded one into the row as it is by then, under
the lock of the row; the commit publishes it.  Nothing ties the flush to the
row that was loaded, so a committed row may mix two requests.
-/

namespace DataApi
namespace QueryEngine

open Library Schemas

/-- An `update_route` request. -/
structure UpdateRequest (P : Scalars) where
  payload : DynamicRouteWriteRequest P
  actor : Nat

/-- The row a request assigns, if its payload passes the checks. -/
def UpdateRequest.assigned? {P : Scalars} (U : Unicode) (S : Sqlglot)
    (J : JsonFormat P) (request : UpdateRequest P) : Option (RouteRow P.Float) :=
  match validatePayload U S request.payload with
  | .ok validated =>
      some ⟨.ofPayload J request.payload validated.canonicalSql, request.actor⟩
  | .error _ => none

theorem UpdateRequest.contract_of_assigned {P : Scalars} {U : Unicode} {S : Sqlglot}
    {J : JsonFormat P} {request : UpdateRequest P}
    {row : RouteRow P.Float} (h : request.assigned? U S J = some row) :
    RouteContract S row.config := by
  rw [UpdateRequest.assigned?] at h
  split at h
  · rename_i validated hValid
    cases h
    exact routeContract_ofPayload J hValid
  · cases h

/-- The session of a request; a flush without a changed column sends no
`UPDATE`. -/
inductive Session (F : Type) where
  | idle
  | loaded (row : RouteRow F)
  | flushed (pending : Option (RouteRow F))
  | committed
  | failed

/-- The committed row, the session that holds its lock, and all sessions. -/
structure UpdateState (F : Type) where
  committed : RouteRow F
  rowLock : Option Nat
  sessions : Nat → Session F

/-- The steps of the sessions. -/
inductive UpdateEvent where
  | load (request : Nat)
  | flush (request : Nat)
  | commit (request : Nat)
  | rollback (request : Nat)

namespace UpdateState

variable {F : Type}

/-- Put a session into a phase. -/
def withSession (s : UpdateState F) (i : Nat) (session : Session F) :
    UpdateState F :=
  { s with sessions := Function.update s.sessions i session }

theorem withSession_sessions (s : UpdateState F) (i j : Nat) (session : Session F) :
    (s.withSession i session).sessions j =
      if j = i then session else s.sessions j :=
  Function.update_apply s.sessions i session j

/-- Some request has committed. -/
def Settled (s : UpdateState F) : Prop := ∃ i, s.sessions i = .committed

theorem settled_withSession {s : UpdateState F} {i : Nat}
    (h : s.sessions i ≠ .committed) {session : Session F}
    (hSession : session ≠ .committed) :
    Settled (s.withSession i session) ↔ Settled s := by
  constructor
  · rintro ⟨j, hj⟩
    rw [withSession_sessions] at hj
    split at hj
    · exact absurd hj hSession
    · exact ⟨j, hj⟩
  · rintro ⟨j, hj⟩
    refine ⟨j, ?_⟩
    rw [withSession_sessions, if_neg]
    · exact hj
    · rintro rfl
      exact h hj

/-- The session that a step puts into a phase, or another one. -/
theorem sessions_cases {s : UpdateState F} {i j : Nat} {session session' : Session F}
    (h : (s.withSession i session).sessions j = session') :
    j = i ∧ session = session' ∨ j ≠ i ∧ s.sessions j = session' := by
  rw [withSession_sessions] at h
  split at h
  · rename_i hj
    exact .inl ⟨hj, h⟩
  · rename_i hj
    exact .inr ⟨hj, h⟩

theorem sessions_of_ne {s : UpdateState F} {i j : Nat} {session session' : Session F}
    (h : s.sessions i ≠ session') (hj : s.sessions j = session') :
    (s.withSession i session).sessions j = session' := by
  rw [withSession_sessions, if_neg]
  · exact hj
  · rintro rfl
    exact h hj

end UpdateState

section Updates

variable {P : Scalars} [DecidableEq P.Float]

/-- The row after the `UPDATE` of a flush. -/
def flushRow {F : Type} [DecidableEq F] (loaded assigned latest : RouteRow F) :
    RouteRow F where
  config := .ofColumns
    (writeChanged loaded.config.get assigned.config.get latest.config.get)
  updatedBy :=
    if assigned.updatedBy = loaded.updatedBy then latest.updatedBy
    else assigned.updatedBy

/-- One step of one session. -/
def updateStep (U : Unicode) (S : Sqlglot) (J : JsonFormat P)
    (requests : Nat → UpdateRequest P) (s : UpdateState P.Float) :
    UpdateEvent → Option (UpdateState P.Float)
  | .load i =>
      match s.sessions i with
      | .idle => some (s.withSession i (.loaded s.committed))
      | _ => none
  | .flush i =>
      match s.sessions i, (requests i).assigned? U S J with
      | .loaded row, some assigned =>
          -- without a dirty column the flush sends nothing
          if assigned = row then some (s.withSession i (.flushed none))
          else if s.rowLock = none then
            some { s.withSession i (.flushed (some (flushRow row assigned s.committed)))
              with rowLock := some i }
          else none
      | _, _ => none
  | .commit i =>
      match s.sessions i with
      | .flushed none => some (s.withSession i .committed)
      | .flushed (some row) =>
          some { s.withSession i .committed with committed := row, rowLock := none }
      | _ => none
  | .rollback i =>
      match s.sessions i with
      | .loaded _ => some (s.withSession i .failed)
      | .flushed none => some (s.withSession i .failed)
      | .flushed (some _) => some { s.withSession i .failed with rowLock := none }
      | _ => none

variable (U : Unicode) (S : Sqlglot) (J : JsonFormat P)
  (requests : Nat → UpdateRequest P)

/-- The runs that start with a route that satisfies its contract. -/
def concurrentUpdates : TransitionSystem (UpdateState P.Float) UpdateEvent where
  start s := RouteContract S s.committed.config ∧ s.rowLock = none ∧
    ∀ i, s.sessions i = .idle
  step := updateStep U S J requests

/-- The committed row is the configuration of one of the requests that have
committed, as soon as there is one, and satisfies the contract. -/
def SinglePayload (s : UpdateState P.Float) : Prop :=
  RouteContract S s.committed.config ∧
    ((∃ i, s.sessions i = .committed) →
      ∃ j row, s.sessions j = .committed ∧ (requests j).assigned? U S J = some row ∧
        s.committed.config = row.config)

/-- A flush is safe when, in the row as it is by then, the columns that the
request leaves alone hold its values, or the columns that it changes already
do. -/
def FlushSafe (s : UpdateState P.Float) : UpdateEvent → Prop
  | .flush i => ∀ row assigned, s.sessions i = .loaded row →
      (requests i).assigned? U S J = some assigned →
      KeptAgree row.config.get assigned.config.get s.committed.config.get ∨
        ChangedAgree row.config.get assigned.config.get s.committed.config.get
  | _ => True

/-- What holds in every state of a run whose flushes are safe.  Before the first
commit every session has loaded the committed row; a flushed session is going to
publish its own configuration, or the one that is committed already. -/
structure UpdateInvariant (s : UpdateState P.Float) : Prop where
  contract : RouteContract S s.committed.config
  locked : ∀ i row, s.sessions i = .flushed (some row) → s.rowLock = some i
  fresh : ¬s.Settled → ∀ i row, s.sessions i = .loaded row → row = s.committed
  flushed : ∀ i pending, s.sessions i = .flushed pending →
    ∃ assigned, (requests i).assigned? U S J = some assigned ∧
      ((pending.getD s.committed).config = assigned.config ∨
        s.Settled ∧ (pending.getD s.committed).config = s.committed.config)
  single : s.Settled → ∃ j row, s.sessions j = .committed ∧
    (requests j).assigned? U S J = some row ∧ s.committed.config = row.config

end Updates

section Steps

variable {P : Scalars} [DecidableEq P.Float] {U : Unicode} {S : Sqlglot}
  {J : JsonFormat P} {requests : Nat → UpdateRequest P} {s s' : UpdateState P.Float}

theorem updateStep_load {i : Nat}
    (h : updateStep U S J requests s (.load i) = some s') :
    s.sessions i = .idle ∧ s' = s.withSession i (.loaded s.committed) := by
  rw [updateStep] at h
  split at h
  · rename_i hIdle
    exact ⟨hIdle, (Option.some.inj h).symm⟩
  · cases h

/-- A flush sends nothing, or takes the lock and writes the changed columns. -/
theorem updateStep_flush {i : Nat}
    (h : updateStep U S J requests s (.flush i) = some s') :
    ∃ row assigned, s.sessions i = .loaded row ∧
      (requests i).assigned? U S J = some assigned ∧
      (assigned = row ∧ s' = s.withSession i (.flushed none) ∨
        s.rowLock = none ∧
          s' = { s.withSession i (.flushed (some (flushRow row assigned s.committed)))
            with rowLock := some i }) := by
  rw [updateStep] at h
  split at h
  · rename_i row assigned hLoaded hAssigned
    refine ⟨row, assigned, hLoaded, hAssigned, ?_⟩
    split at h
    · rename_i hSame
      exact .inl ⟨hSame, (Option.some.inj h).symm⟩
    · split at h
      · rename_i hLock
        exact .inr ⟨hLock, (Option.some.inj h).symm⟩
      · cases h
  · cases h

/-- A commit publishes the pending row and releases the lock it holds. -/
theorem updateStep_commit {i : Nat}
    (h : updateStep U S J requests s (.commit i) = some s') :
    ∃ pending, s.sessions i = .flushed pending ∧
      s' = { s.withSession i .committed with
        committed := pending.getD s.committed
        rowLock := if pending.isSome then none else s.rowLock } := by
  rw [updateStep] at h
  split at h
  · rename_i hFlushed
    exact ⟨none, hFlushed, (Option.some.inj h).symm⟩
  · rename_i row hFlushed
    exact ⟨some row, hFlushed, (Option.some.inj h).symm⟩
  · cases h

theorem updateStep_rollback {i : Nat}
    (h : updateStep U S J requests s (.rollback i) = some s') :
    s.sessions i ≠ .committed ∧
      (s' = s.withSession i .failed ∧ (∀ row, s.sessions i ≠ .flushed (some row)) ∨
        (∃ row, s.sessions i = .flushed (some row)) ∧
          s' = { s.withSession i .failed with rowLock := none }) := by
  rw [updateStep] at h
  split at h
  · rename_i hLoaded
    exact ⟨by simp [hLoaded], .inl ⟨(Option.some.inj h).symm, by simp [hLoaded]⟩⟩
  · rename_i hFlushed
    exact ⟨by simp [hFlushed], .inl ⟨(Option.some.inj h).symm, by simp [hFlushed]⟩⟩
  · rename_i row hFlushed
    exact ⟨by simp [hFlushed], .inr ⟨⟨row, hFlushed⟩, (Option.some.inj h).symm⟩⟩
  · cases h

open UpdateState

namespace UpdateInvariant

theorem start (hStart : (concurrentUpdates U S J requests).start s) :
    UpdateInvariant U S J requests s := by
  obtain ⟨hContract, -, hIdle⟩ := hStart
  refine ⟨hContract, fun i row h => ?_, fun _ i row h => ?_, fun i pending h => ?_, ?_⟩
  · rw [hIdle] at h
    cases h
  · rw [hIdle] at h
    cases h
  · rw [hIdle] at h
    cases h
  · rintro ⟨i, h⟩
    rw [hIdle] at h
    cases h

theorem load (hInv : UpdateInvariant U S J requests s) {i : Nat}
    (h : updateStep U S J requests s (.load i) = some s') :
    UpdateInvariant U S J requests s' := by
  obtain ⟨hIdle, rfl⟩ := updateStep_load h
  have hNe : s.sessions i ≠ .committed := by rw [hIdle]; exact nofun
  have hSettled : (s.withSession i (.loaded s.committed)).Settled ↔ s.Settled :=
    settled_withSession hNe nofun
  refine ⟨hInv.contract, fun j row hj => ?_, fun hNot j row hj => ?_,
    fun j pending hj => ?_, fun hSet => ?_⟩
  · rcases sessions_cases hj with ⟨-, hEq⟩ | ⟨-, hj⟩
    · cases hEq
    · exact hInv.locked j row hj
  · rcases sessions_cases hj with ⟨-, hEq⟩ | ⟨-, hj⟩
    · cases hEq
      rfl
    · exact hInv.fresh (fun hs => hNot (hSettled.mpr hs)) j row hj
  · rcases sessions_cases hj with ⟨-, hEq⟩ | ⟨-, hj⟩
    · cases hEq
    · rw [hSettled]
      exact hInv.flushed j pending hj
  · obtain ⟨j, row, hj, hAssigned, hConfig⟩ := hInv.single (hSettled.mp hSet)
    exact ⟨j, row, sessions_of_ne hNe hj, hAssigned, hConfig⟩

/-- What a flush leaves pending: the configuration of the request, or, once
something has committed, the committed one. -/
theorem flushRow_config (hInv : UpdateInvariant U S J requests s) {i : Nat}
    {row assigned : RouteRow P.Float} (hLoaded : s.sessions i = .loaded row)
    (hSafe : KeptAgree row.config.get assigned.config.get s.committed.config.get ∨
      ChangedAgree row.config.get assigned.config.get s.committed.config.get) :
    (flushRow row assigned s.committed).config = assigned.config ∨
      s.Settled ∧ (flushRow row assigned s.committed).config = s.committed.config := by
  by_cases hSet : s.Settled
  · rcases hSafe with hKept | hChanged
    · left
      apply RouteConfig.get_injective
      rw [flushRow, RouteConfig.get_ofColumns]
      exact writeChanged_eq_assigned_iff.mpr hKept
    · right
      refine ⟨hSet, ?_⟩
      apply RouteConfig.get_injective
      rw [flushRow, RouteConfig.get_ofColumns]
      exact writeChanged_eq_latest_iff.mpr hChanged
  · left
    apply RouteConfig.get_injective
    rw [flushRow, RouteConfig.get_ofColumns, hInv.fresh hSet i row hLoaded]
    exact writeChanged_loaded

theorem flush (hInv : UpdateInvariant U S J requests s) {i : Nat}
    (hSafe : FlushSafe U S J requests s (.flush i))
    (h : updateStep U S J requests s (.flush i) = some s') :
    UpdateInvariant U S J requests s' := by
  obtain ⟨row, assigned, hLoaded, hAssigned, hCase⟩ := updateStep_flush h
  have hNe : s.sessions i ≠ .committed := by rw [hLoaded]; exact nofun
  have hSettled : ∀ pending, (s.withSession i (.flushed pending)).Settled ↔ s.Settled :=
    fun pending => settled_withSession hNe nofun
  rcases hCase with ⟨rfl, rfl⟩ | ⟨hLock, rfl⟩
  · -- nothing is dirty: the session holds no lock and publishes nothing
    refine ⟨hInv.contract, fun j row hj => ?_, fun hNot j row hj => ?_,
      fun j pending hj => ?_, fun hSet => ?_⟩
    · rcases sessions_cases hj with ⟨-, hEq⟩ | ⟨-, hj⟩
      · cases hEq
      · exact hInv.locked j row hj
    · rcases sessions_cases hj with ⟨-, hEq⟩ | ⟨-, hj⟩
      · cases hEq
      · exact hInv.fresh (fun hs => hNot ((hSettled none).mpr hs)) j row hj
    · rw [hSettled]
      rcases sessions_cases hj with ⟨rfl, hEq⟩ | ⟨-, hj⟩
      · cases hEq
        refine ⟨assigned, hAssigned, ?_⟩
        by_cases hSet : s.Settled
        · exact .inr ⟨hSet, rfl⟩
        · rw [hInv.fresh hSet j assigned hLoaded]
          exact .inl rfl
      · exact hInv.flushed j pending hj
    · obtain ⟨j, row, hj, hConfig⟩ := hInv.single ((hSettled none).mp hSet)
      exact ⟨j, row, sessions_of_ne hNe hj, hConfig⟩
  · -- the `UPDATE` writes into the latest row, which others may have changed
    have hWritten := hInv.flushRow_config hLoaded (hSafe row assigned hLoaded hAssigned)
    refine ⟨hInv.contract, fun j row' hj => ?_, fun hNot j row' hj => ?_,
      fun j pending hj => ?_, fun hSet => ?_⟩
    · rcases sessions_cases hj with ⟨rfl, -⟩ | ⟨-, hj⟩
      · rfl
      · have := hInv.locked j row' hj
        rw [hLock] at this
        cases this
    · rcases sessions_cases hj with ⟨-, hEq⟩ | ⟨-, hj⟩
      · cases hEq
      · exact hInv.fresh (fun hs => hNot ((hSettled _).mpr hs)) j row' hj
    · have hIff := hSettled (some (flushRow row assigned s.committed))
      change ∃ assigned, _ ∧ (_ ∨ (s.withSession i _).Settled ∧ _)
      rw [hIff]
      rcases sessions_cases hj with ⟨rfl, hEq⟩ | ⟨-, hj⟩
      · cases hEq
        exact ⟨assigned, hAssigned, hWritten⟩
      · exact hInv.flushed j pending hj
    · obtain ⟨j, row', hj, hConfig⟩ := hInv.single ((hSettled _).mp hSet)
      exact ⟨j, row', sessions_of_ne hNe hj, hConfig⟩

theorem commit (hInv : UpdateInvariant U S J requests s) {i : Nat}
    (h : updateStep U S J requests s (.commit i) = some s') :
    UpdateInvariant U S J requests s' := by
  obtain ⟨pending, hFlushed, rfl⟩ := updateStep_commit h
  obtain ⟨assigned, hAssigned, hConfig⟩ := hInv.flushed i pending hFlushed
  have hNe : s.sessions i ≠ .committed := by rw [hFlushed]; exact nofun
  have hSelf : (s.withSession i .committed).sessions i = .committed := by
    rw [withSession_sessions, if_pos rfl]
  have hSingle : ∃ j row, (s.withSession i .committed).sessions j = .committed ∧
      (requests j).assigned? U S J = some row ∧
      (pending.getD s.committed).config = row.config := by
    rcases hConfig with hOwn | ⟨hSet, hSame⟩
    · exact ⟨i, assigned, hSelf, hAssigned, hOwn⟩
    · obtain ⟨j, row, hj, hRow, hCommitted⟩ := hInv.single hSet
      exact ⟨j, row, sessions_of_ne hNe hj, hRow, hSame.trans hCommitted⟩
  -- the lock admits one session with a pending row
  have hOther : ∀ j row, j ≠ i → s.sessions j = .flushed (some row) → pending = none := by
    intro j row hji hj
    cases pending with
    | none => rfl
    | some row' =>
        have hLock := (hInv.locked j row hj).symm.trans (hInv.locked i row' hFlushed)
        exact absurd (Option.some.inj hLock) hji
  refine ⟨?_, fun j row hj => ?_, fun hNot => absurd ⟨i, hSelf⟩ hNot,
    fun j pending' hj => ?_, fun _ => hSingle⟩
  · obtain ⟨j, row, -, hRow, hCommitted⟩ := hSingle
    change RouteContract S (pending.getD s.committed).config
    rw [hCommitted]
    exact UpdateRequest.contract_of_assigned hRow
  · rcases sessions_cases hj with ⟨-, hEq⟩ | ⟨hji, hj⟩
    · cases hEq
    · rw [hOther j row hji hj]
      exact hInv.locked j row hj
  · rcases sessions_cases hj with ⟨-, hEq⟩ | ⟨hji, hj⟩
    · cases hEq
    · obtain ⟨assigned', hAssigned', hConfig'⟩ := hInv.flushed j pending' hj
      refine ⟨assigned', hAssigned', ?_⟩
      cases pending' with
      | none => exact .inr ⟨⟨i, hSelf⟩, rfl⟩
      | some row =>
          obtain rfl := hOther j row hji hj
          rcases hConfig' with hOwn | ⟨-, hSame⟩
          · exact .inl hOwn
          · exact .inr ⟨⟨i, hSelf⟩, hSame⟩

theorem rollback (hInv : UpdateInvariant U S J requests s) {i : Nat}
    (h : updateStep U S J requests s (.rollback i) = some s') :
    UpdateInvariant U S J requests s' := by
  obtain ⟨hNe, hCase⟩ := updateStep_rollback h
  have hSettled : (s.withSession i .failed).Settled ↔ s.Settled :=
    settled_withSession hNe nofun
  have hLocked : ∀ j row, j ≠ i → s.sessions j = .flushed (some row) →
      s'.rowLock = some j := by
    intro j row hji hj
    rcases hCase with ⟨rfl, -⟩ | ⟨⟨row', hi⟩, rfl⟩
    · exact hInv.locked j row hj
    · have hLock := (hInv.locked j row hj).symm.trans (hInv.locked i row' hi)
      exact absurd (Option.some.inj hLock) hji
  have hSame : s'.committed = s.committed ∧
      s'.sessions = (s.withSession i .failed).sessions := by
    rcases hCase with ⟨rfl, -⟩ | ⟨-, rfl⟩
    · exact ⟨rfl, rfl⟩
    · exact ⟨rfl, rfl⟩
  have hSet' : s'.Settled ↔ s.Settled := by
    rw [← hSettled, Settled, Settled, hSame.2]
  refine ⟨?_, fun j row hj => ?_, fun hNot j row hj => ?_, fun j pending hj => ?_,
    fun hSet => ?_⟩
  · rw [hSame.1]
    exact hInv.contract
  · rw [hSame.2] at hj
    rcases sessions_cases hj with ⟨-, hEq⟩ | ⟨hji, hj⟩
    · cases hEq
    · exact hLocked j row hji hj
  · rw [hSame.2] at hj
    rw [hSame.1]
    rcases sessions_cases hj with ⟨-, hEq⟩ | ⟨-, hj⟩
    · cases hEq
    · exact hInv.fresh (fun hs => hNot (hSet'.mpr hs)) j row hj
  · rw [hSame.2] at hj
    rw [hSame.1, hSet']
    rcases sessions_cases hj with ⟨-, hEq⟩ | ⟨-, hj⟩
    · cases hEq
    · exact hInv.flushed j pending hj
  · obtain ⟨j, row, hj, hConfig⟩ := hInv.single (hSet'.mp hSet)
    rw [hSame.1, hSame.2]
    exact ⟨j, row, sessions_of_ne hNe hj, hConfig⟩

end UpdateInvariant

/-- In a run of safe flushes the invariant holds in every state. -/
theorem updateInvariant_of_reachable
    (h : (concurrentUpdates U S J requests).ReachableUnder
      (FlushSafe U S J requests) s) : UpdateInvariant U S J requests s := by
  refine h.invariant (fun _ => UpdateInvariant.start) ?_
  intro s e s' hInv hGuard hStep
  cases e with
  | load i => exact hInv.load hStep
  | flush i => exact hInv.flush hGuard hStep
  | commit i => exact hInv.commit hStep
  | rollback i => exact hInv.rollback hStep

end Steps

/-- In every run whose flushes are all safe, the committed row satisfies the
contract and, once a request has committed, is the configuration of one. -/
theorem singlePayload_of_flushSafe {P : Scalars} [DecidableEq P.Float] (U : Unicode)
    (S : Sqlglot) (J : JsonFormat P) (requests : Nat → UpdateRequest P)
    (s : UpdateState P.Float)
    (h : (concurrentUpdates U S J requests).ReachableUnder
      (FlushSafe U S J requests) s) : SinglePayload U S J requests s := by
  have hInv := updateInvariant_of_reachable h
  exact ⟨hInv.contract, hInv.single⟩

/-! ### Two requests that change different columns -/

/-- The tree of `SELECT :page`. -/
def selectPage : Expression := .node .select "" [.node .placeholder "page" []]

/-- A parser and generator for `SELECT 1` and `SELECT :page`. -/
def twoTexts : Sqlglot where
  parse _ sql :=
    if sql = "SELECT 1" then .ok [some selectOne]
    else if sql = "SELECT :page" then .ok [some selectPage]
    else .error (.parseError [])
  sql _ tree := if tree.placeholderNames = [] then "SELECT 1" else "SELECT :page"

/-- `SELECT 1`, paginated. -/
def paginatedRequest : UpdateRequest .plain where
  payload :=
    { routePrefix := "alice", path := "report", sql := "SELECT 1"
      responseType := .paginated, ok := by decide, lower := by simp [IsLower] }
  actor := 1

/-- `SELECT :page` with the parameter `page`, not paginated. -/
def pageRequest : UpdateRequest .plain where
  payload :=
    { routePrefix := "alice", path := "report", sql := "SELECT :page"
      params := Dict.empty.set "page" ⟨.integer, true, .none, "", trivial⟩
      ok := by decide, lower := by simp [IsLower] }
  actor := 2

/-- The two requests, the second one repeated. -/
def twoRequests : Nat → UpdateRequest .plain
  | 0 => paginatedRequest
  | _ => pageRequest

/-- The stored route: `SELECT 1`, not paginated. -/
def storedRoute : UpdateState Scalars.plain.Float where
  committed :=
    { config :=
        { routePrefix := "alice", path := "report", description := ""
          originalSql := "SELECT 1", canonicalSql := "SELECT 1"
          parameterDefinitions := ∅, dbType := .trino, piiType := none
          responseType := .data }
      updatedBy := 0 }
  rowLock := none
  sessions _ := .idle

theorem storedRoute_start :
    (concurrentUpdates .ascii twoTexts .plain twoRequests).start storedRoute :=
  ⟨⟨by decide, nofun⟩, rfl, fun _ => rfl⟩

/-- `SELECT 1` with a description. -/
def describedRequest (description : String) (actor : Nat) : UpdateRequest .plain where
  payload :=
    { routePrefix := "alice", path := "report", sql := "SELECT 1"
      description := description
      ok := by
        refine ⟨(by decide : PrefixOk "alice"), (by decide : PathOk "report"),
          (by decide : 1 ≤ "SELECT 1".length), fun name hName => ?_, fun hPaginated => ?_⟩
        · cases hName
        · cases hPaginated
      lower := by simp [IsLower] }
  actor := actor

/-- Two requests that change the description. -/
def describedRequests : Nat → UpdateRequest .plain
  | 0 => describedRequest "first" 1
  | _ => describedRequest "second" 2

/-- The state after some steps of the two requests. -/
def described (events : List UpdateEvent) : UpdateState Scalars.plain.Float :=
  ((concurrentUpdates .ascii twoTexts .plain describedRequests).runUnder (fun _ _ => True)
    storedRoute events).getD storedRoute

/-- Both requests load the row, and the second one flushes when the first one has
committed: what it leaves alone the first one has left alone too. -/
theorem described_singlePayload :
    SinglePayload .ascii twoTexts .plain describedRequests
      (described [.load 0, .load 1, .flush 0, .commit 0, .flush 1, .commit 1]) := by
  have hStart : (concurrentUpdates .ascii twoTexts .plain describedRequests).start
      storedRoute := ⟨storedRoute_start.1, rfl, fun _ => rfl⟩
  have hLoaded : (concurrentUpdates .ascii twoTexts .plain describedRequests).ReachableUnder
      (FlushSafe .ascii twoTexts .plain describedRequests) (described [.load 0, .load 1]) :=
    .step (e := .load 1) (.step (e := .load 0) (.start hStart) trivial rfl) trivial rfl
  have hFirst : (concurrentUpdates .ascii twoTexts .plain describedRequests).ReachableUnder
      (FlushSafe .ascii twoTexts .plain describedRequests)
      (described [.load 0, .load 1, .flush 0, .commit 0]) := by
    refine .step (e := .commit 0) (.step (e := .flush 0) hLoaded (fun row assigned hRow _ => ?_)
      rfl) trivial rfl
    cases hRow
    exact .inl fun c hKept => hKept.symm
  have hSecond : (concurrentUpdates .ascii twoTexts .plain describedRequests).ReachableUnder
      (FlushSafe .ascii twoTexts .plain describedRequests)
      (described [.load 0, .load 1, .flush 0, .commit 0, .flush 1]) := by
    refine .step (e := .flush 1) hFirst (fun row assigned hRow hAssigned => .inl ?_) rfl
    have hOwn : (describedRequests 1).assigned? .ascii twoTexts .plain =
        some ⟨.ofPayload .plain (describedRequest "second" 2).payload "SELECT 1", 2⟩ := rfl
    cases hRow
    cases hOwn.symm.trans hAssigned
    intro c hKept
    cases c with
    | description => exact absurd hKept (by decide)
    | _ => rfl
  exact singlePayload_of_flushSafe .ascii twoTexts .plain describedRequests _
    (.step (e := .commit 1) hSecond trivial rfl)

/-- The two requests load the same row; the result paginates a statement with a
parameter `page`. -/
theorem twoRequests_mix :
    ¬∀ s, (concurrentUpdates .ascii twoTexts .plain twoRequests).Reachable s →
      SinglePayload .ascii twoTexts .plain twoRequests s := by
  intro hSingle
  have hRun : ((concurrentUpdates .ascii twoTexts .plain twoRequests).runUnder
      (fun _ _ => True) storedRoute
      [.load 0, .load 1, .flush 0, .commit 0, .flush 1, .commit 1]).map
        (fun s => (s.committed.config.responseType,
          s.committed.config.parameterDefinitions.keys)) =
      some (.paginated, {"page"}) := by decide
  obtain ⟨s, hs, hMixed⟩ := Option.map_eq_some_iff.mp hRun
  have hReach := (TransitionSystem.ReachableUnder.start storedRoute_start).run hs
  obtain ⟨hPaginated, hKeys⟩ := Prod.mk.inj hMixed
  have hReserved := (hSingle s hReach).1.reserved hPaginated "page"
    (by rw [hKeys]; exact Finset.mem_singleton_self _)
  exact hReserved (by decide)

end QueryEngine
end DataApi
