import DataApi.Library.UniqueTable
import DataApi.QueryEngine.RouteSessions

/-!
# Conflicts of concurrent requests

A request that is answered with the conflict of an existing route has met one: the
database refuses its statement exactly if a committed route has the id, or the prefix
and path, that the statement would give to another.  The check constraints, which the
schema implies, never refuse it, whichever requests the columns of a row come from.
-/

namespace DataApi
namespace QueryEngine

open Library Schemas

section Conflicts

variable {P : Scalars} [DecidableEq P.Float] {U : Unicode} {S : Sqlglot} {J : JsonFormat P}
  {T : DatabaseText} {change : RouteChange P.Float} {refused : RouteRefusal → Raised}
  {request : ManageRequest P} {rows : List (StoredRoute P.Float)}
  {table : RouteTable T P.Float} {requests : Nat → ManageRequest P}

/-- A statement would give a row the id, or the prefix and path, of another row.  What an
`UPDATE` writes may have its prefix from one request and its path from another. -/
def RouteChange.Collides (rows : List (StoredRoute P.Float)) : RouteChange P.Float → Prop
  | .insert route => ∃ other ∈ rows, other.id = route.id ∨ other.key = route.key
  | .update loaded assigned => ∃ latest ∈ rows, latest.id = loaded.id ∧
      ∃ other ∈ rows, other.id ≠ loaded.id ∧
        other.key = (StoredRoute.write loaded assigned latest).key
  | .delete _ => False

omit [DecidableEq P.Float] in
/-- A path that the schema accepts passes the check constraints. -/
theorem pathCheck_of_pathOk {path : String} (h : PathOk path) : PathCheck path := by
  obtain ⟨hLength, -, -, hFirst, hLast, hSegments⟩ := h
  refine ⟨?_, ⟨hFirst, hLast⟩, ?_⟩
  · rintro rfl
    exact absurd hLength (by decide)
  · rintro ⟨front, rest, hPath⟩
    -- between two slashes there is an empty segment
    have hSplit : path.toList.splitOn '/' =
        front.splitOn '/' ++ ([] :: rest.splitOn '/') := by
      rw [← hPath, List.append_assoc]
      change (front ++ '/' :: ([] ++ '/' :: rest)).splitOn '/' = _
      rw [List.splitOn_append_cons_self, List.splitOn_append_cons_self, List.splitOn_nil]
      rfl
    refine hSegments "" ?_ List.mem_cons_self
    rw [pathSegments, hSplit]
    exact List.mem_map.mpr ⟨[], List.mem_append_right _ List.mem_cons_self, rfl⟩

omit [DecidableEq P.Float] in
/-- A prefix that the schema accepts passes the check constraint. -/
theorem lower_of_prefixOk (T : DatabaseText) {routePrefix : String} (h : PrefixOk routePrefix)
    (hLower : IsLower routePrefix) : routePrefix = T.lower routePrefix := by
  refine (T.lower_of_lower routePrefix fun c hc => ⟨?_, hLower c hc⟩).symm
  have hPrefix := List.all_eq_true.mp h.2.2.1 c hc
  rw [isPrefixChar, Bool.or_eq_true, Bool.or_eq_true] at hPrefix
  rcases hPrefix with (hName | hDot) | hDash
  · exact toNat_lt_of_isNameChar hName
  · rw [beq_iff_eq.mp hDot]
    decide
  · rw [beq_iff_eq.mp hDash]
    decide

omit [DecidableEq P.Float] in
theorem routeChecks_ofPayload (T : DatabaseText) (payload : DynamicRouteWriteRequest P)
    (canonicalSql : String) :
    RouteChecks T (RouteConfig.ofPayload J payload canonicalSql) :=
  ⟨lower_of_prefixOk T payload.ok.1 payload.lower, pathCheck_of_pathOk payload.ok.2.1⟩

/-- What is written passes the check constraints, whichever columns it takes. -/
theorem routeChecks_write {loaded assigned latest : StoredRoute P.Float}
    (hAssigned : RouteChecks T assigned.config) (hLatest : RouteChecks T latest.config) :
    RouteChecks T (StoredRoute.write loaded assigned latest).config := by
  have hPrefix := StoredRoute.write_column loaded assigned latest .routePrefix
  have hPath := StoredRoute.write_column loaded assigned latest .path
  constructor
  · change (StoredRoute.write loaded assigned latest).config.get .routePrefix =
      T.lower ((StoredRoute.write loaded assigned latest).config.get .routePrefix)
    rcases hPrefix with hSame | hSame <;> rw [hSame]
    · exact hLatest.1
    · exact hAssigned.1
  · change PathCheck ((StoredRoute.write loaded assigned latest).config.get .path)
    rcases hPath with hSame | hSame <;> rw [hSame]
    · exact hLatest.2
    · exact hAssigned.2

theorem apply_eq_integrity_iff_of_rows {rows' : List (StoredRoute P.Float)}
    (h : change.rows table.rows = .ok rows') :
    change.apply table = .error .integrity ↔ ¬RouteConstraints T rows' := by
  rw [RouteChange.apply, h]
  change (if _ : RouteConstraints T rows' then _ else _) = _ ↔ _
  split
  · rename_i hConstraints
    exact iff_of_false (fun hError => by cases hError) (not_not.mpr hConstraints)
  · rename_i hConstraints
    exact iff_of_true rfl hConstraints

/-- An `INSERT` is refused exactly if the id or the prefix and path are taken. -/
theorem insert_refused_iff {route : StoredRoute P.Float} (hRoute : RouteChecks T route.config) :
    (RouteChange.insert route).apply table = .error .integrity ↔
      (RouteChange.insert route).Collides table.rows := by
  rw [apply_eq_integrity_iff_of_rows rfl, not_iff_comm, RouteChange.Collides]
  push Not
  constructor
  · intro hFree
    refine ⟨?_, ?_, fun row hRow => ?_⟩
    · exact nodup_map_append_singleton_iff.mpr
        ⟨table.constraints.ids, fun other hOther => (hFree other hOther).1⟩
    · exact nodup_map_append_singleton_iff.mpr
        ⟨table.constraints.keys, fun other hOther => (hFree other hOther).2⟩
    · rcases List.mem_append.mp hRow with hOld | hNew
      · exact table.constraints.checks row hOld
      · rw [List.mem_singleton.mp hNew]
        exact hRoute
  · intro hRows other hOther
    exact ⟨(nodup_map_append_singleton_iff.mp hRows.ids).2 other hOther,
      (nodup_map_append_singleton_iff.mp hRows.keys).2 other hOther⟩

/-- Without a changed column the row stays as it is. -/
theorem StoredRoute.write_key {loaded assigned latest : StoredRoute P.Float}
    (h : assigned.toRouteRow = loaded.toRouteRow) :
    (StoredRoute.write loaded assigned latest).key = latest.key := by
  have hConfig : (StoredRoute.write loaded assigned latest).config = latest.config := by
    apply RouteConfig.get_injective
    change (RouteConfig.ofColumns _).get = _
    rw [RouteConfig.get_ofColumns, writeChanged_eq_latest_iff]
    intro c hChanged
    exact absurd (by rw [h]) hChanged
  rw [StoredRoute.key, StoredRoute.key, hConfig]

/-- An `UPDATE` is refused exactly if another route has the prefix and path that it would
leave behind. -/
theorem update_refused_iff {loaded assigned : StoredRoute P.Float}
    (hAssigned : RouteChecks T assigned.config) :
    (RouteChange.update loaded assigned).apply table = .error .integrity ↔
      (RouteChange.update loaded assigned).Collides table.rows := by
  by_cases hDirty : assigned.toRouteRow = loaded.toRouteRow
  · have hRows : (RouteChange.update loaded assigned).rows table.rows = .ok table.rows := by
      rw [RouteChange.rows, if_pos hDirty]
    rw [apply_eq_integrity_iff_of_rows hRows]
    refine iff_of_false (not_not.mpr table.constraints) ?_
    rintro ⟨latest, hLatest, hId, other, hOther, hNe, hKey⟩
    rw [StoredRoute.write_key hDirty] at hKey
    have hSame := List.inj_on_of_nodup_map table.constraints.keys hOther hLatest hKey
    exact hNe (hSame ▸ hId)
  by_cases hThere : loaded.id ∈ table.rows.map StoredRoute.id
  · have hRows : (RouteChange.update loaded assigned).rows table.rows =
        .ok (table.rows.map fun latest =>
          if latest.id = loaded.id then StoredRoute.write loaded assigned latest
          else latest) := by
      rw [RouteChange.rows, if_neg hDirty, if_pos hThere]
    have hKeys := nodup_map_rewrite_iff table.constraints.ids table.constraints.keys loaded.id
      (StoredRoute.write loaded assigned)
    rw [apply_eq_integrity_iff_of_rows hRows, not_iff_comm]
    constructor
    · intro hFree
      refine ⟨?_, hKeys.mpr fun latest hLatest hId other hOther hNe hKey => ?_,
        fun row hRow => ?_⟩
      · rw [List.map_map, List.map_congr_left (g := StoredRoute.id)]
        · exact table.constraints.ids
        · intro latest _
          rw [Function.comp_apply]
          split <;> rfl
      · exact hFree ⟨latest, hLatest, hId, other, hOther, hNe, hKey⟩
      · obtain ⟨latest, hLatest, rfl⟩ := List.mem_map.mp hRow
        split
        · exact routeChecks_write hAssigned (table.constraints.checks latest hLatest)
        · exact table.constraints.checks latest hLatest
    · rintro hConstraints ⟨latest, hLatest, hId, other, hOther, hNe, hKey⟩
      exact hKeys.mp hConstraints.keys latest hLatest hId other hOther hNe hKey
  · have hStale : (RouteChange.update loaded assigned).apply table = .error .stale := by
      rw [RouteChange.apply, RouteChange.rows, if_neg hDirty, if_neg hThere]
    rw [hStale]
    refine iff_of_false (fun hError => by cases hError) ?_
    rintro ⟨latest, hLatest, hId, -⟩
    exact hThere (hId ▸ List.mem_map_of_mem hLatest)

/-- The statement of a request is refused for a constraint exactly if it collides with a
committed route; the check constraints never refuse it. -/
theorem refused_iff_collides (h : request.Writes U S J change refused) :
    change.apply table = .error .integrity ↔ change.Collides table.rows := by
  cases h with
  | create payload actor newId clients validated hValid =>
      exact insert_refused_iff (routeChecks_ofPayload T payload _)
  | update payload actor clients validated loaded hValid =>
      exact update_refused_iff (routeChecks_ofPayload T payload _)
  | delete deleted =>
      rw [apply_eq_integrity_iff_of_rows rfl]
      refine iff_of_false (not_not.mpr ⟨?_, ?_, fun row hRow => ?_⟩) fun hNone => hNone
      · exact table.constraints.ids.sublist (List.filter_sublist.map _)
      · exact table.constraints.keys.sublist (List.filter_sublist.map _)
      · exact table.constraints.checks row (List.mem_of_mem_filter hRow)

omit [DecidableEq P.Float] in
theorem ManageRequest.Writes.integrity_of_routeExists {refusal : RouteRefusal}
    (h : request.Writes U S J change refused)
    (hExists : refused refusal = .app routeExists) : refusal = .integrity := by
  cases refusal with
  | integrity => rfl
  | stale => cases h <;> cases hExists

theorem ManageRequest.Writes.refused_of_collides (h : request.Writes U S J change refused)
    (hCollides : change.Collides rows) : refused = refusedWrite := by
  cases h with
  | create => rfl
  | update => rfl
  | delete => exact hCollides.elim

/-- In every run, a flush or a commit answers that the route exists exactly if, at that
moment, a committed route has the id, or the prefix and path, that the statement would
give to another one. -/
theorem conflict_iff_collides (U : Unicode) (S : Sqlglot) (J : JsonFormat P)
    (T : DatabaseText) (requests : Nat → ManageRequest P)
    (s s' : SessionState (RouteTable T P.Float) RouteQuery (Option (StoredRoute P.Float))
      (RouteChange P.Float) RouteRefusal Raised)
    (hReach : (routeSessions U S J T requests).Reachable s) (i : Nat)
    (action : Library.Action Raised)
    (hAction : action = .flush ∨ action = .commit)
    (hStep : (routeSessions U S J T requests).step s (i, action) = some s') :
    s'.sessions i = .failed (.app routeExists) ↔
      ∃ change refused, (s.sessions i = .running (.write change refused) ∨
        s.sessions i = .flushed change refused) ∧ change.Collides s.committed.rows := by
  obtain ⟨phase, hOwn, rfl, -⟩ := sessionStep_cases hStep
  obtain ⟨change, refused, hPhase, hOutcome⟩ := Phase.step_apply hAction hOwn
  have hLeads : ((requests i).script U S J).Leads (routeTable T P.Float)
      (.write change refused) := by
    have hOf := phase_of_reachable hReach i
    rcases hPhase with hRunning | hFlushed
    · rw [hRunning] at hOf
      exact hOf
    · rw [hFlushed] at hOf
      exact hOf
  have hWrites := writes_of_leads hLeads
  have hRefused : change.apply s.committed = .error .integrity ↔
      change.Collides s.committed.rows := refused_iff_collides hWrites
  constructor
  · intro hFailed
    refine ⟨change, refused, hPhase, hRefused.mp ?_⟩
    rcases hOutcome with ⟨_, -, hNot⟩ | ⟨refusal, hApply, hError⟩
    · exact absurd hFailed (hNot _)
    · rw [hError] at hFailed
      -- only a write that breaks a constraint is answered so
      have hSame := hWrites.integrity_of_routeExists (Phase.failed.inj hFailed)
      rw [hSame] at hApply
      exact hApply
  · rintro ⟨change', refused', hPhase', hCollides⟩
    obtain ⟨rfl, rfl⟩ : change = change' ∧ refused = refused' := by
      rcases hPhase with hRunning | hFlushed <;> rcases hPhase' with hRunning' | hFlushed'
      · cases hRunning.symm.trans hRunning'
        exact ⟨rfl, rfl⟩
      · cases hRunning.symm.trans hFlushed'
      · cases hFlushed.symm.trans hRunning'
      · cases hFlushed.symm.trans hFlushed'
        exact ⟨rfl, rfl⟩
    have hApply : (routeTable T P.Float).apply change s.committed = .error .integrity :=
      hRefused.mpr hCollides
    rcases hOutcome with ⟨_, hOk, -⟩ | ⟨refusal, hError, hFailed⟩
    · cases hApply.symm.trans hOk
    · cases hApply.symm.trans hError
      rw [hFailed, hWrites.refused_of_collides hCollides]
      rfl

end Conflicts

/-! ### Two sessions that create one route -/

/-- The exception that a session has failed with. -/
def failure {F : Type} :
    Phase RouteQuery (Option (StoredRoute F)) (RouteChange F) RouteRefusal Raised →
      Option Raised
  | .failed raised => some raised
  | _ => none

theorem failed_of_failure {F : Type} {raised : Raised}
    {phase : Phase RouteQuery (Option (StoredRoute F)) (RouteChange F) RouteRefusal Raised}
    (h : failure phase = some raised) : phase = .failed raised := by
  cases phase with
  | failed error => exact congrArg Phase.failed (Option.some.inj h)
  | running script => cases h
  | flushed change refused => cases h
  | succeeded => cases h

theorem conflict_iff_collides_reportRun :
    ∃ s s', (routeSessions .ascii twoTexts .plain .ascii reportRequests).runUnder
        (fun _ _ => True) reportStart reportRun = some s ∧
      (routeSessions .ascii twoTexts .plain .ascii reportRequests).step s (1, .commit) =
        some s' ∧
      ∃ change refused, (s.sessions 1 = .running (.write change refused) ∨
        s.sessions 1 = .flushed change refused) ∧ change.Collides s.committed.rows := by
  have hFailure : ((routeSessions .ascii twoTexts .plain .ascii reportRequests).runUnder
      (fun _ _ => True) reportStart reportRun).bind (fun s =>
        ((routeSessions .ascii twoTexts .plain .ascii reportRequests).step s
          (1, .commit)).map fun s' => failure (s'.sessions 1)) =
      some (some (.app routeExists)) := by
    decide +kernel
  obtain ⟨s, hRun, hCommit⟩ := Option.bind_eq_some_iff.mp hFailure
  obtain ⟨s', hStep, hFailed⟩ := Option.map_eq_some_iff.mp hCommit
  refine ⟨s, s', hRun, hStep, ?_⟩
  exact (conflict_iff_collides .ascii twoTexts .plain .ascii reportRequests s s'
    (.run (.start rfl) hRun) 1 .commit (.inr rfl) hStep).mp (failed_of_failure hFailed)

end QueryEngine
end DataApi
