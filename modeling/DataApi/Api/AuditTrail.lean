import DataApi.Api.AuditLengths
import DataApi.QueryEngine.RouteCatalogue

/-!
# The routes as the audit log tells them

`audit_logs` holds the records of all requests together: of the management of routes, of
the calls of guarded endpoints, whose query parameters end up in the record, and of
executions with missing mappings.  Reading the allowed records of the management one after
the other gives, for every id, the prefix and path of the route and who has created and
last updated it.

The reading is the table of routes (`trail_of_reachable`): each change has its record, a
refused request changes neither the table nor the reading, and no caller of another
endpoint can write a record that reads like a change, whatever the parameters.
-/

namespace DataApi
namespace Api

open Library QueryEngine Schemas Effect UniqueTable

/-! ### Reading the log -/

section Reading

variable {P : Scalars}

/-- A change of a route, as a record tells it. -/
structure RouteChange where
  action : List Char
  routeId : List Char
  routePrefix : List Char
  path : List Char
  userId : Nat

/-- What the trail says about a route. -/
structure TrailEntry where
  routePrefix : List Char
  path : List Char
  createdBy : Nat
  updatedBy : Nat
  deriving DecidableEq

/-- A text among the parameters of a record. -/
def AuditLog.text? (record : AuditLog P) (name : String) : Option (List Char) :=
  match record.parameters.get? name with
  | some (.text text) => some text
  | _ => none

/-- The change of a route that a record tells: it is allowed, and about a dynamic route. -/
def AuditLog.change? (record : AuditLog P) : Option RouteChange :=
  if record.allowed = true ∧ "dynamic-route:".toList <+: record.apiRoute then do
    let action ← record.text? "action"
    let routeId ← record.text? "route_id"
    let routePrefix ← record.text? "prefix"
    let path ← record.text? "path"
    return ⟨action, routeId, routePrefix, path, record.userId⟩
  else none

/-- A change applied to what is known of the route with an id. -/
def RouteChange.apply (id : List Char) (current : Option TrailEntry)
    (change : RouteChange) : Option TrailEntry :=
  if change.routeId ≠ id then current
  else if change.action = "create".toList then
    some ⟨change.routePrefix, change.path, change.userId, change.userId⟩
  else if change.action = "update".toList then
    current.map fun entry =>
      { entry with
        routePrefix := change.routePrefix, path := change.path, updatedBy := change.userId }
  else if change.action = "delete".toList then none
  else current

/-- What the log says about the route with an id. -/
def readTrail (auditLogs : List (AuditLog P)) (id : List Char) : Option TrailEntry :=
  (auditLogs.filterMap AuditLog.change?).foldl (RouteChange.apply id) none

/-- The columns of a route that the trail tells. -/
def entryOf (route : StoredRoute P.Float) : TrailEntry where
  routePrefix := route.config.routePrefix.toList
  path := route.config.path.toList
  createdBy := route.createdBy
  updatedBy := route.updatedBy

theorem readTrail_append (auditLogs : List (AuditLog P)) (record : AuditLog P)
    (id : List Char) :
    readTrail (auditLogs ++ [record]) id =
      record.change?.elim (readTrail auditLogs id)
        (RouteChange.apply id (readTrail auditLogs id)) := by
  rw [readTrail, List.filterMap_append, List.foldl_append, List.filterMap_cons,
    List.filterMap_nil]
  cases record.change? <;> rfl

theorem change?_of_not_allowed {record : AuditLog P} (h : record.allowed = false) :
    record.change? = none := by
  rw [AuditLog.change?, if_neg]
  rintro ⟨hAllowed, -⟩
  rw [h] at hAllowed
  cases hAllowed

/-- A change that was carried out is read off its record. -/
theorem change?_storedRecord (idText : Nat → String) (actor : Actor) (action : String)
    (route : StoredRoute P.Float) :
    (storedRecord idText actor action route).change? =
      some ⟨action.toList, (idText route.id).toList, route.config.routePrefix.toList,
        route.config.path.toList, actor.id⟩ := by
  have hLabel : "dynamic-route:".toList <+:
      (storedRecord idText actor action route).apiRoute := by
    change "dynamic-route:".toList <+: "dynamic-route:".toList ++ _ ++ _
    rw [List.append_assoc]
    exact List.prefix_append _ _
  have hAction : (storedRecord idText actor action route).text? "action" =
      some action.toList := by
    simp [AuditLog.text?, storedRecord, auditDynamicRouteAction, Dict.get?_set]
  have hId : (storedRecord idText actor action route).text? "route_id" =
      some (idText route.id).toList := by
    simp [AuditLog.text?, storedRecord, auditDynamicRouteAction, Dict.get?_set]
  have hPrefix : (storedRecord idText actor action route).text? "prefix" =
      some route.config.routePrefix.toList := by
    simp [AuditLog.text?, storedRecord, auditDynamicRouteAction, Dict.get?_set]
  have hPath : (storedRecord idText actor action route).text? "path" =
      some route.config.path.toList := by
    simp [AuditLog.text?, storedRecord, auditDynamicRouteAction]
  rw [AuditLog.change?, if_pos ⟨rfl, hLabel⟩, hAction, hId, hPrefix, hPath]
  rfl

/-- The path of a URL does not start like the label of a dynamic route. -/
theorem not_label_of_urlPath {checkNetloc : List Char → Bool} {request : HttpRequest}
    {path : List Char} (h : request.urlPath checkNetloc = some path) :
    ¬ "dynamic-route:".toList <+: path := by
  have hPath := urlsplit_path checkNetloc request.scheme.isScheme
    (request.host ++ request.path)
  rw [HttpRequest.urlPath_eq, Request.urlPath] at h
  rw [h] at hPath
  split at hPath
  · have hShown := Option.some.inj hPath
    generalize removeUnsafe _ = text at hShown
    -- a path is empty or starts with the slash that has ended the network location
    have hHead : ∀ c rest, path = c :: rest → c = '/' := by
      intro c rest hCons
      rw [hShown] at hCons
      cases hRest : text.dropWhile fun c => !isDelimiter c with
      | nil =>
          rw [hRest] at hCons
          cases hCons
      | cons d tail =>
          have hDelimiter : isDelimiter d = true := by
            have hNot := List.head?_dropWhile_not (fun c => !isDelimiter c) text
            rw [hRest] at hNot
            simpa using hNot
          rw [hRest, List.takeWhile_cons] at hCons
          split at hCons
          · rename_i hKept
            obtain ⟨rfl, -⟩ := List.cons.inj hCons
            simp only [isDelimiter, endsPath, Bool.or_eq_true, beq_iff_eq, Bool.not_eq_true',
              Bool.or_eq_false_iff, beq_eq_false_iff_ne] at hDelimiter hKept
            tauto
          · cases hCons
    rintro ⟨tail, hTail⟩
    have hFirst := hHead 'd' ("ynamic-route:".toList ++ tail) hTail.symm
    exact absurd hFirst (by decide)
  · cases hPath

theorem change?_auditedPermission {parseQuery : List Char → List (String × String)}
    {checkNetloc : List Char → Bool} {base : ApiV1Prefix} {actor : Actor}
    {request : HttpRequest} {route : ApiRoute} {elapsed : Nat} {record : AuditLog P}
    (h : record ∈ (auditedPermission parseQuery checkNetloc base actor request route
      elapsed).1) : record.change? = none := by
  rw [AuditLog.change?, if_neg]
  rintro ⟨-, hLabel⟩
  exact not_label_of_urlPath (auditedPermission_record h).1 hLabel

theorem change?_executionAudit {parseQuery : List Char → List (String × String)}
    {actor : Actor} {routePrefix path : String} {request : HttpRequest}
    {missing : List (MissingPiiMapping P)} {record : AuditLog P}
    (h : record ∈ executionAudit parseQuery actor routePrefix path request missing) :
    record.change? = none := by
  rw [executionAudit] at h
  split at h
  · cases h
  · cases List.mem_singleton.mp h
    exact change?_of_not_allowed rfl

end Reading

/-! ### The runs of the API -/

section Runs

variable {P : Scalars} (U : Unicode) (S : Sqlglot) (J : JsonFormat P) (idText : Nat → String)
  (parseQuery : List Char → List (String × String)) (checkNetloc : List Char → Bool)
  (base : ApiV1Prefix)

/-- The committed rows of `dynamic_routes` and `audit_logs`. -/
structure AuditedTables (P : Scalars) where
  routes : List (StoredRoute P.Float)
  auditLogs : List (AuditLog P)

/-- What writes to these tables: a create or update of a route, a delete, a call of an
endpoint behind `require_api_permission`, and the background audit of an execution. -/
inductive ApiEvent (P : Scalars) where
  | store (actor : Actor) (request : ManagementRequest P)
  | delete (actor : Actor) (id : Nat) (env : CallEnvironment P)
  | guarded (actor : Actor) (request : HttpRequest) (route : ApiRoute) (elapsed : Nat)
  | executed (actor : Actor) (routePrefix path : String) (request : HttpRequest)
      (missing : List (MissingPiiMapping P))

/-- An endpoint behind `require_roles(UserRole.admin)`. -/
def asAdmin {α : Type} (actor : Actor) (endpoint : Effect (AuditedStore P) Raised α) :
    Effect (AuditedStore P) Raised α := do
  .lift ((requireAdmin actor.user).mapError .app)
  endpoint

/-- What an event runs on its own session. -/
def runEvent : ApiEvent P → Effect (AuditedStore P) Raised Unit
  | .store actor request => asAdmin actor do
      let _ ← storeDynamicRoute U S J idText base actor request
      return ()
  | .delete actor id env => asAdmin actor (deleteDynamicRoute idText actor id env)
  | .guarded actor request route elapsed =>
      auditedAccess parseQuery checkNetloc base actor request route elapsed
  | .executed actor routePrefix path request missing =>
      writeAudits (executionAudit parseQuery actor routePrefix path request missing)

/-- What is committed when a session is closed. -/
def AuditedStore.closed (store : AuditedStore P) : AuditedTables P where
  routes := store.routes.committed
  auditLogs := store.auditLogs

/-- The API on empty tables. -/
def auditedApi : TransitionSystem (AuditedTables P) (ApiEvent P) where
  start s := s = ⟨[], []⟩
  step s e := some
    (runEvent U S J idText parseQuery checkNetloc base e (.opened s.routes s.auditLogs)).2.closed

/-- The record of a management request fits its column. -/
def ShortPath (_ : AuditedTables P) : ApiEvent P → Prop
  | .store _ request => request.payload.routePrefix.length + request.payload.path.length ≤ 485
  | _ => True

/-- Who asks for a change of the routes. -/
def ApiEvent.manager : ApiEvent P → Option Actor
  | .store actor _ => some actor
  | .delete actor _ _ => some actor
  | .guarded _ _ _ _ => none
  | .executed _ _ _ _ _ => none

/-- The table is as it was, and the new records tell no change of a route. -/
structure Quiet (s s' : AuditedTables P) : Prop where
  routes : s'.routes = s.routes
  records : ∃ records, s'.auditLogs = s.auditLogs ++ records ∧
    ∀ record ∈ records, record.change? = none

/-- What an event that goes from `s` to `s'` does to the table and to what the trail
tells: one of another endpoint writes no record that reads as a change, a manager without
the role leaves everything as it was, and an event that raises changes neither. -/
structure StepTold (e : ApiEvent P) (s s' : AuditedTables P) : Prop where
  other : e.manager = none → Quiet s s'
  role : ∀ actor, e.manager = some actor → actor.user.role ≠ .admin → s' = s
  refused : ∀ raised, (runEvent U S J idText parseQuery checkNetloc base e
      (.opened s.routes s.auditLogs)).1 = .error raised →
    s'.routes = s.routes ∧ readTrail s'.auditLogs = readTrail s.auditLogs

/-- The trail says of every id what the table has for it. -/
def TrailTold (idText : Nat → String) (s : AuditedTables P) : Prop :=
  ∀ id, readTrail s.auditLogs id =
    (s.routes.find? fun route => (idText route.id).toList = id).map entryOf

end Runs

section Invariant

variable {P : Scalars} {U : Unicode} {S : Sqlglot} {J : JsonFormat P} {idText : Nat → String}
  {parseQuery : List Char → List (String × String)} {checkNetloc : List Char → Bool}
  {base : ApiV1Prefix}

/-- The rows are those of a catalogue that the trail tells, and their records fit. -/
structure Trail (idText : Nat → String) (s : AuditedTables P)
    (catalogue : Catalogue P.Float) : Prop where
  rows : Represents s.routes catalogue
  told : ∀ id, readTrail s.auditLogs (idText id).toList =
    (catalogue.byIdent id).map entryOf
  unknown : ∀ text, (∀ id, (idText id).toList ≠ text) → readTrail s.auditLogs text = none
  short : ∀ route ∈ s.routes, route.config.routePrefix.length + route.config.path.length ≤ 485

theorem Trail.empty : Trail idText (⟨[], []⟩ : AuditedTables P) .empty where
  rows := .nil
  told id := by
    rw [byIdent_empty]
    rfl
  unknown _ _ := rfl
  short route hRoute := by cases hRoute

/-- The trail is the table. -/
theorem Trail.trailTold {s : AuditedTables P} {catalogue : Catalogue P.Float}
    (h : Trail idText s catalogue) : TrailTold idText s := by
  intro text
  cases hFound : s.routes.find? fun route => (idText route.id).toList = text with
  | some route =>
      have hId : (idText route.id).toList = text := by simpa using List.find?_some hFound
      have hMem : catalogue.byIdent route.id = some route :=
        catalogue.byIdent_eq_some_iff.mpr
          ⟨(h.rows.mem route).mp (List.mem_of_find?_eq_some hFound), rfl⟩
      rw [← hId, h.told, hMem]
  | none =>
      rw [List.find?_eq_none] at hFound
      by_cases hKnown : ∃ id, (idText id).toList = text
      · obtain ⟨id, rfl⟩ := hKnown
        rw [h.told]
        cases hGet : catalogue.byIdent id with
        | none => rfl
        | some route =>
            obtain ⟨hEntry, rfl⟩ := catalogue.byIdent_eq_some_iff.mp hGet
            exact absurd (decide_eq_true rfl) (hFound route ((h.rows.mem route).mpr hEntry))
      · push Not at hKnown
        exact h.unknown text hKnown

theorem Quiet.refl (s : AuditedTables P) : Quiet s s where
  routes := rfl
  records := ⟨[], (List.append_nil _).symm, by simp⟩

theorem Quiet.append (s : AuditedTables P) {record : AuditLog P}
    (hNone : record.change? = none) : Quiet s ⟨s.routes, s.auditLogs ++ [record]⟩ where
  routes := rfl
  records := ⟨[record], rfl, fun other hOther => by
    rw [List.mem_singleton.mp hOther]
    exact hNone⟩

theorem Quiet.trans {s s' s'' : AuditedTables P} (h : Quiet s s') (h' : Quiet s' s'') :
    Quiet s s'' := by
  obtain ⟨records, hRecords, hNone⟩ := h.records
  obtain ⟨records', hRecords', hNone'⟩ := h'.records
  refine ⟨h'.routes.trans h.routes, records ++ records', ?_, fun record hRecord => ?_⟩
  · rw [hRecords', hRecords, List.append_assoc]
  · rcases List.mem_append.mp hRecord with hFirst | hSecond
    · exact hNone record hFirst
    · exact hNone' record hSecond

/-- Records that tell no change leave the reading as it is. -/
theorem Quiet.readTrail_eq {s s' : AuditedTables P} (h : Quiet s s') :
    readTrail s'.auditLogs = readTrail s.auditLogs := by
  obtain ⟨records, hRecords, hNone⟩ := h.records
  funext id
  have hNil : records.filterMap AuditLog.change? = [] := by
    rw [List.filterMap_eq_nil_iff]
    exact hNone
  rw [readTrail, hRecords, List.filterMap_append, hNil, List.append_nil, readTrail]

/-- What is quiet keeps the trail. -/
theorem Trail.quiet {s s' : AuditedTables P} {catalogue : Catalogue P.Float}
    (h : Trail idText s catalogue) (hQuiet : Quiet s s') : Trail idText s' catalogue where
  rows := by
    rw [hQuiet.routes]
    exact h.rows
  told id := by rw [hQuiet.readTrail_eq, h.told]
  unknown text hText := by rw [hQuiet.readTrail_eq, h.unknown text hText]
  short route hRoute := by
    rw [hQuiet.routes] at hRoute
    exact h.short route hRoute

/-- A change of one route together with its record. -/
theorem Trail.change {s : AuditedTables P} {catalogue changed : Catalogue P.Float}
    (hText : Function.Injective idText) (h : Trail idText s catalogue)
    {rows : List (StoredRoute P.Float)} (hRows : Represents rows changed) {id : Nat}
    {after : Option (StoredRoute P.Float)}
    (hChanged : ∀ other, changed.byIdent other = if id = other then after
      else catalogue.byIdent other)
    (hShort : ∀ route ∈ after,
      route.config.routePrefix.length + route.config.path.length ≤ 485)
    {record : AuditLog P} {change : RouteChange} (hRecord : record.change? = some change)
    (hId : change.routeId = (idText id).toList)
    (hApply : change.apply (idText id).toList ((catalogue.byIdent id).map entryOf) =
      after.map entryOf) :
    Trail idText ⟨rows, s.auditLogs ++ [record]⟩ changed := by
  have hRead : ∀ text, readTrail (s.auditLogs ++ [record]) text =
      change.apply text (readTrail s.auditLogs text) := by
    intro text
    rw [readTrail_append, hRecord]
    rfl
  refine ⟨hRows, fun other => ?_, fun text hNew => ?_, fun route hRoute => ?_⟩
  · change readTrail (s.auditLogs ++ [record]) _ = _
    rw [hRead, h.told, hChanged]
    split
    · rename_i hSame
      rw [← hSame, hApply]
    · rename_i hOther
      rw [RouteChange.apply, if_pos]
      rw [hId]
      intro hSame
      exact hOther (hText (String.toList_inj.mp hSame))
  · change readTrail (s.auditLogs ++ [record]) _ = _
    rw [hRead, h.unknown text hNew, RouteChange.apply, if_pos]
    rw [hId]
    exact hNew id
  · have hGet : changed.byIdent route.id = some route :=
      changed.byIdent_eq_some_iff.mpr ⟨(hRows.mem route).mp hRoute, rfl⟩
    rw [hChanged] at hGet
    split at hGet
    · exact hShort route hGet
    · have hEntry := (catalogue.byIdent_eq_some_iff.mp hGet).1
      exact h.short route ((h.rows.mem route).mpr hEntry)

/-! ### One event -/

/-- A run on the tables `s` raises and is quiet, or returns and leaves tables that a trail
tells. -/
structure Outcome {α : Type} (idText : Nat → String) (s : AuditedTables P)
    (run : Except Raised α × AuditedStore P) : Prop where
  refused : ∀ raised, run.1 = .error raised → Quiet s run.2.closed
  returned : ∀ a, run.1 = .ok a → ∃ changed, Trail idText run.2.closed changed

section Outcomes

variable {α : Type} {s : AuditedTables P} {store : AuditedStore P}

theorem Outcome.error {raised : Raised} (h : Quiet s store.closed) :
    Outcome (α := α) idText s (.error raised, store) where
  refused _ _ := h
  returned _ hReturned := by cases hReturned

theorem Outcome.ok {a : α} (changed : Catalogue P.Float)
    (h : Trail idText store.closed changed) : Outcome idText s (.ok a, store) where
  refused _ hRaised := by cases hRaised
  returned _ _ := ⟨changed, h⟩

/-- The endpoint with its result left out. -/
theorem Outcome.discard {c : Effect (AuditedStore P) Raised α} (h : Outcome idText s (c store)) :
    Outcome idText s ((do
      let _ ← c
      return () : Effect (AuditedStore P) Raised Unit) store) := by
  cases hRun : c store with
  | mk result after =>
      rw [hRun] at h
      cases result with
      | ok a =>
          obtain ⟨changed, hChanged⟩ := h.returned a rfl
          rw [bind_of_ok hRun]
          exact .ok changed hChanged
      | error raised =>
          rw [bind_of_error hRun]
          exact .error (h.refused raised rfl)

/-- Either way there is a trail. -/
theorem Outcome.trail {run : Except Raised α × AuditedStore P} (h : Outcome idText s run)
    {catalogue : Catalogue P.Float} (hTrail : Trail idText s catalogue) :
    ∃ changed, Trail idText run.2.closed changed := by
  cases hResult : run.1 with
  | ok a => exact h.returned a hResult
  | error raised => exact ⟨catalogue, hTrail.quiet (h.refused raised hResult)⟩

end Outcomes

/-- A session without pending changes. -/
def Synced (uow : UnitOfWork P.Float) : Prop := uow.working = uow.committed

theorem committed_triple {α β : Type} (env : CallEnvironment P) (write : Action P.Float α)
    (f : α → β) :
    Triple (fun _ : UnitOfWork P.Float => True)
      (do
        let a ← write
        commit env
        return f a) (fun _ => Synced) (fun _ _ => True) := by
  have hWrite : Triple (fun _ : UnitOfWork P.Float => True) write (fun _ _ => True)
      (fun _ _ => True) := fun _ _ => ⟨fun _ _ _ => trivial, fun _ _ _ => trivial⟩
  refine hWrite.bind fun a => ?_
  refine Triple.bind (Q := fun _ => Synced) ?_ fun _ => Triple.pure fun _ h => h
  exact (mayRaise_triple env.commit fun _ _ _ => trivial).bind fun _ =>
    Triple.modify fun _ _ => rfl

/-- A transaction ends without pending changes: it is committed or rolled back. -/
theorem synced_transaction {α : Type} {body : Action P.Float α} (translate : Raised → Raised)
    (hBody : Triple (fun _ => True) body (fun _ => Synced) (fun _ _ => True)) :
    Triple Synced
      (tryCatch body fun raised => do
        rollback
        throw (translate raised)) (fun _ => Synced) (fun _ => Synced) :=
  (rolledBack_triple translate hBody fun _ _ _ => rfl).weaken fun _ _ => trivial

theorem synced_checked {α : Type} (x : Except AppError α) :
    Triple (Synced (P := P)) (checked x) (fun _ => Synced) (fun _ => Synced) :=
  Triple.lift (fun _ _ _ h => h) fun _ _ _ h => h

theorem runCall_synced (call : RouteCall P) :
    Triple Synced (runCall U S J call) (fun _ => Synced) (fun _ => Synced) := by
  have hLab : ∀ x : Except Raised Unit, Triple (fun _ : UnitOfWork P.Float => True)
      (Effect.lift x) (fun _ _ => True) (fun _ _ => True) :=
    fun x => Triple.lift (fun _ _ _ _ => trivial) fun _ _ _ _ => trivial
  cases call with
  | create payload actor env =>
      refine (synced_checked _).bind fun validated => ?_
      refine (read_triple _).bind fun existing => ?_
      refine (synced_checked _).bind fun _ => ?_
      refine synced_transaction conflictOfIntegrity ?_
      exact (hLab _).bind fun _ => committed_triple env _ _
  | update id payload actor env =>
      refine (getRoute_triple id).bind fun route => ?_
      refine (synced_checked _).bind fun validated => ?_
      refine (read_triple _).bind fun collision => ?_
      refine (synced_checked _).bind fun _ => ?_
      refine synced_transaction conflictOfIntegrity ?_
      exact (hLab _).bind fun _ => committed_triple env _ _
  | delete id env =>
      refine (getRoute_triple id).bind fun route => ?_
      exact synced_transaction (fun raised => raised) (committed_triple env _ _)

/-- A successful create or update of the catalogue, and what its record does to the
trail. -/
theorem apply_storedRecord {catalogue changed : Catalogue P.Float} {actor : Actor}
    {request : ManagementRequest P} {route : StoredRoute P.Float}
    (h : catalogue.runCall U S J (request.call actor) = .ok (route, changed))
    (idText : Nat → String) :
    (∀ other, changed.byIdent other = if route.id = other then some route
      else catalogue.byIdent other) ∧
    RouteChange.apply (idText route.id).toList ((catalogue.byIdent route.id).map entryOf)
      ⟨request.operation.action.toList, (idText route.id).toList,
        route.config.routePrefix.toList, route.config.path.toList, actor.id⟩ =
      some (entryOf route) := by
  have hOther : "update".toList ≠ "create".toList := by decide
  obtain ⟨operation, payload, env⟩ := request
  cases operation with
  | create =>
      obtain ⟨-, hCreated, hUpdated, hInsert⟩ := create_eq_ok h
      refine ⟨byIdent_of_insert? hInsert, ?_⟩
      rw [RouteChange.apply, if_neg (not_not.mpr rfl), Operation.action, if_pos rfl, entryOf,
        hCreated, hUpdated]
  | update id =>
      obtain ⟨-, old, hOld, hCreated, hUpdated, hReplace⟩ := update_eq_ok h
      refine ⟨byIdent_of_replace? hReplace, ?_⟩
      rw [RouteChange.apply, if_neg (not_not.mpr rfl), Operation.action, if_neg hOther,
        if_pos rfl, hOld, entryOf, hCreated, hUpdated]
      rfl

/-- A create or an update, and its record. -/
theorem Trail.store {s : AuditedTables P} {catalogue : Catalogue P.Float}
    (hText : Function.Injective idText) (h : Trail idText s catalogue) (actor : Actor)
    {request : ManagementRequest P}
    (hShort : request.payload.routePrefix.length + request.payload.path.length ≤ 485) :
    Outcome idText s (storeDynamicRoute U S J idText base actor request
      (.opened s.routes s.auditLogs)) := by
  cases hCollision : rejectStaticGetCollision base request.payload.routePrefix
      request.payload.path with
  | error error =>
      rw [storeDynamicRoute_of_collision hCollision]
      exact .error (.refl s)
  | ok u =>
      have hReaches : ReachesService base request := hCollision
      have hMatches := runCall_matches (U := U) (S := S) (J := J) h.rows (request.call actor)
      have hSynced := runCall_synced (U := U) (S := S) (J := J) (request.call actor)
        ⟨s.routes, s.routes⟩ rfl
      have hReturned := (told_runCall (U := U) (S := S) (J := J) actor request
        ⟨s.routes, s.routes⟩).1
      cases hCall : runCall U S J (request.call actor) ⟨s.routes, s.routes⟩ with
      | mk result uow =>
          rw [hCall] at hMatches hReturned
          cases hWrite : catalogue.runCall U S J (request.call actor) with
          | ok written =>
              obtain ⟨route, changed⟩ := written
              rw [hWrite] at hMatches
              cases result with
              | error raised => exact hMatches.elim
              | ok route' =>
                  obtain ⟨rfl, hRows⟩ := hMatches
                  obtain ⟨hPrefix, hPath⟩ := hReturned route' rfl
                  have hFits : route'.config.routePrefix.length +
                      route'.config.path.length ≤ 485 := by
                    rw [hPrefix, hPath]
                    exact hShort
                  have hWorking : uow.working = uow.committed := hSynced.1 route' uow hCall
                  obtain ⟨hChanged, hApply⟩ := apply_storedRecord hWrite idText
                  rw [storeDynamicRoute_of_ok (.opened s.routes s.auditLogs) hReaches hCall,
                    if_pos (fits_storedRecord.mpr hFits)]
                  rw [← hWorking] at hRows
                  refine .ok changed ?_
                  refine h.change hText hRows hChanged (fun other hSame => ?_)
                    (change?_storedRecord idText actor _ route') rfl hApply
                  cases hSame
                  exact hFits
          | error raised =>
              rw [hWrite] at hMatches
              cases result with
              | ok route' => exact hMatches.elim
              | error raised' =>
                  obtain ⟨rfl, hCommitted⟩ := hMatches
                  have hWorking : uow.working = uow.committed := hSynced.2 raised' uow hCall
                  by_cases hClass : ∃ error, raised' = .app error ∧ IsDynamicSqlError error
                  · obtain ⟨error, rfl, hError⟩ := hClass
                    rw [storeDynamicRoute_of_dynamicSqlError (.opened s.routes s.auditLogs)
                      hReaches hError hCall, if_pos (fits_refusedRecord.mpr hShort)]
                    refine .error ?_
                    change Quiet s ⟨uow.working, s.auditLogs ++
                      [refusedRecord idText actor request error.code]⟩
                    rw [hWorking, hCommitted]
                    exact .append s (change?_of_not_allowed rfl)
                  · push Not at hClass
                    rw [storeDynamicRoute_of_raised (.opened s.routes s.auditLogs) hReaches
                      hClass hCall]
                    refine .error ?_
                    change Quiet s ⟨uow.committed, s.auditLogs⟩
                    rw [hCommitted]
                    exact .refl s

theorem apply_delete {id : List Char} {current : Option TrailEntry} {change : RouteChange}
    (hId : change.routeId = id) (hAction : change.action = "delete".toList) :
    change.apply id current = none := by
  have hCreate : "delete".toList ≠ "create".toList := by decide
  have hUpdate : "delete".toList ≠ "update".toList := by decide
  rw [RouteChange.apply, if_neg (not_not.mpr hId), hAction, if_neg hCreate, if_neg hUpdate,
    if_pos rfl]

/-- A delete, and its record. -/
theorem Trail.delete {s : AuditedTables P} {catalogue : Catalogue P.Float}
    (hText : Function.Injective idText) (h : Trail idText s catalogue) (actor : Actor)
    (id : Nat) (env : CallEnvironment P) :
    Outcome idText s (deleteDynamicRoute idText actor id env
      (.opened s.routes s.auditLogs)) := by
  have hMatches := deleteRoute_matches h.rows id env
  have hSynced : Triple Synced (deleteRoute id env) (fun _ => Synced (P := P))
      (fun _ => Synced) :=
    (getRoute_triple id).bind fun route =>
      synced_transaction (fun raised => raised) (committed_triple env _ _)
  have hEnd := hSynced ⟨s.routes, s.routes⟩ rfl
  cases hCall : deleteRoute id env (⟨s.routes, s.routes⟩ : UnitOfWork P.Float) with
  | mk result uow =>
      rw [hCall] at hMatches
      cases hWrite : catalogue.delete id env with
      | ok written =>
          obtain ⟨route, changed⟩ := written
          rw [hWrite] at hMatches
          cases result with
          | error raised => exact hMatches.elim
          | ok route' =>
              obtain ⟨rfl, hRows⟩ := hMatches
              have hWorking : uow.working = uow.committed := hEnd.1 route' uow hCall
              obtain ⟨hFound, rfl⟩ := delete_eq_ok hWrite
              have hMem : route' ∈ s.routes :=
                (h.rows.mem route').mpr (catalogue.byIdent_eq_some_iff.mp hFound).1
              have hRun : onRoutes (deleteRoute id env) (.opened s.routes s.auditLogs) =
                  (.ok route', { routes := uow, auditLogs := s.auditLogs }) := onRoutes_of_eq hCall
              rw [deleteDynamicRoute, bind_of_ok hRun, writeAudit_eq,
                if_pos (fits_storedRecord.mpr (h.short route' hMem))]
              rw [← hWorking] at hRows
              refine .ok (catalogue.erase route'.id) ?_
              refine h.change hText hRows (catalogue.byIdent_erase route'.id)
                (fun other hSame => ?_) (change?_storedRecord idText actor "delete" route')
                rfl ?_
              · cases hSame
              · exact apply_delete rfl rfl
      | error raised =>
          rw [hWrite] at hMatches
          cases result with
          | ok route' => exact hMatches.elim
          | error raised' =>
              obtain ⟨rfl, hCommitted⟩ := hMatches
              have hRun : onRoutes (deleteRoute id env) (.opened s.routes s.auditLogs) =
                  (.error raised', { routes := uow, auditLogs := s.auditLogs }) :=
                onRoutes_of_eq hCall
              rw [deleteDynamicRoute, bind_of_error hRun]
              refine .error ?_
              change Quiet s ⟨uow.committed, s.auditLogs⟩
              rw [hCommitted]
              exact .refl s

/-- Records that tell no change, as far as they are written. -/
theorem quiet_writeAudits {records : List (AuditLog P)}
    (hNone : ∀ record ∈ records, record.change? = none) (s : AuditedTables P) :
    Quiet s (writeAudits records (.opened s.routes s.auditLogs)).2.closed := by
  induction records generalizing s with
  | nil => exact .refl s
  | cons record rest ih =>
      rw [List.forall_mem_cons] at hNone
      by_cases hFits : record.Fits
      · rw [writeAudits_cons_of_fits hFits]
        exact (Quiet.append s hNone.1).trans (ih hNone.2 ⟨s.routes, s.auditLogs ++ [record]⟩)
      · rw [writeAudits_cons_of_long hFits]
        exact .refl s

/-- An administrator reaches the endpoint. -/
theorem asAdmin_of_admin {α : Type} {actor : Actor} (hRole : actor.user.role = .admin)
    (endpoint : Effect (AuditedStore P) Raised α) (store : AuditedStore P) :
    asAdmin actor endpoint store = endpoint store := by
  rw [asAdmin, requireAdmin, if_pos hRole]
  rfl

/-- A refused role changes nothing. -/
theorem asAdmin_of_not_admin {α : Type} {actor : Actor} (hRole : actor.user.role ≠ .admin)
    (endpoint : Effect (AuditedStore P) Raised α) (store : AuditedStore P) :
    asAdmin actor endpoint store = (.error (.app authorizationError), store) := by
  rw [asAdmin, requireAdmin, if_neg hRole]
  rfl

/-- An event of the management, of an administrator or of anyone else. -/
theorem Outcome.asAdmin {α : Type} {s : AuditedTables P} (actor : Actor)
    {endpoint : Effect (AuditedStore P) Raised α}
    (h : Outcome idText s (endpoint (.opened s.routes s.auditLogs))) :
    Outcome idText s (Api.asAdmin actor endpoint (.opened s.routes s.auditLogs)) := by
  by_cases hRole : actor.user.role = .admin
  · rw [asAdmin_of_admin hRole]
    exact h
  · rw [asAdmin_of_not_admin hRole]
    exact .error (.refl s)

/-- An event of another endpoint is quiet, also where it raises. -/
theorem quiet_of_not_managed {e : ApiEvent P} (hOther : e.manager = none)
    (s : AuditedTables P) : Quiet s (runEvent U S J idText parseQuery checkNetloc base e
      (.opened s.routes s.auditLogs)).2.closed := by
  cases e with
  | store actor request => cases hOther
  | delete actor id env => cases hOther
  | guarded actor request route elapsed =>
      rw [runEvent, auditedAccess, bind_lift_snd]
      exact quiet_writeAudits (fun record hRecord => change?_auditedPermission hRecord) s
  | executed actor routePrefix path request missing =>
      exact quiet_writeAudits (fun record hRecord => change?_executionAudit hRecord) s

/-- What an event does. -/
theorem Trail.outcome {s : AuditedTables P} {catalogue : Catalogue P.Float}
    (hText : Function.Injective idText) (h : Trail idText s catalogue) {e : ApiEvent P}
    (hShort : ShortPath s e) :
    Outcome idText s (runEvent U S J idText parseQuery checkNetloc base e
      (.opened s.routes s.auditLogs)) := by
  have hQuiet : e.manager = none → Outcome idText s (runEvent U S J idText parseQuery
      checkNetloc base e (.opened s.routes s.auditLogs)) := by
    intro hOther
    have hStep : Quiet s (runEvent U S J idText parseQuery checkNetloc base e
        (.opened s.routes s.auditLogs)).2.closed := quiet_of_not_managed hOther s
    exact ⟨fun _ _ => hStep, fun _ _ => ⟨catalogue, h.quiet hStep⟩⟩
  cases e with
  | store actor request => exact .asAdmin actor (h.store hText actor hShort).discard
  | delete actor id env => exact .asAdmin actor (h.delete hText actor id env)
  | guarded actor request route elapsed => exact hQuiet rfl
  | executed actor routePrefix path request missing => exact hQuiet rfl

theorem Trail.step {s s' : AuditedTables P} {catalogue : Catalogue P.Float}
    (hText : Function.Injective idText) (h : Trail idText s catalogue) {e : ApiEvent P}
    (hShort : ShortPath s e)
    (hStep : (auditedApi U S J idText parseQuery checkNetloc base).step s e = some s') :
    ∃ changed, Trail idText s' changed := by
  cases hStep
  exact (h.outcome hText hShort).trail h

/-- The role of a manager is checked in front of everything else. -/
theorem closed_of_not_admin {e : ApiEvent P} {actor : Actor}
    (hManager : e.manager = some actor) (hRole : actor.user.role ≠ .admin)
    (s : AuditedTables P) : (runEvent U S J idText parseQuery checkNetloc base e
      (.opened s.routes s.auditLogs)).2.closed = s := by
  cases e with
  | store actor' request =>
      cases hManager
      rw [runEvent, asAdmin_of_not_admin hRole]
      rfl
  | delete actor' id env =>
      cases hManager
      rw [runEvent, asAdmin_of_not_admin hRole]
      rfl
  | guarded actor' request route elapsed => cases hManager
  | executed actor' routePrefix path request missing => cases hManager

/-- Each event does to the table what the trail tells, and nothing where it is refused. -/
theorem Trail.stepTold {s s' : AuditedTables P} {catalogue : Catalogue P.Float}
    (hText : Function.Injective idText) (h : Trail idText s catalogue) {e : ApiEvent P}
    (hShort : ShortPath s e)
    (hStep : (auditedApi U S J idText parseQuery checkNetloc base).step s e = some s') :
    StepTold U S J idText parseQuery checkNetloc base e s s' := by
  cases hStep
  refine ⟨fun hOther => quiet_of_not_managed hOther s, fun actor hManager hRole =>
    closed_of_not_admin hManager hRole s, fun raised hRaised => ?_⟩
  have hQuiet := (h.outcome hText hShort).refused raised hRaised
  exact ⟨hQuiet.routes, hQuiet.readTrail_eq⟩

/-- In every run whose management records fit, whoever asks for what and whatever fails,
the ids of the routes are distinct and the trail is the table; and whatever comes next, a
refused or other request leaves the table and what the trail tells as they are. -/
theorem trail_of_reachable (hText : Function.Injective idText) {s : AuditedTables P}
    (hReach : (auditedApi U S J idText parseQuery checkNetloc base).ReachableUnder
      ShortPath s) :
    (s.routes.map StoredRoute.id).Nodup ∧ TrailTold idText s ∧
      ∀ e s', ShortPath s e →
        (auditedApi U S J idText parseQuery checkNetloc base).step s e = some s' →
        StepTold U S J idText parseQuery checkNetloc base e s s' := by
  have hStart : ∀ s, (auditedApi U S J idText parseQuery checkNetloc base).start s →
      ∃ catalogue, Trail idText s catalogue := by
    rintro s rfl
    exact ⟨.empty, Trail.empty⟩
  have hStep : ∀ s e s', (∃ catalogue, Trail idText s catalogue) → ShortPath s e →
      (auditedApi U S J idText parseQuery checkNetloc base).step s e = some s' →
        ∃ catalogue, Trail idText s' catalogue := by
    rintro s e s' ⟨catalogue, hTrail⟩ hShort hRun
    exact hTrail.step hText hShort hRun
  obtain ⟨catalogue, hTrail⟩ := hReach.invariant hStart hStep
  refine ⟨hTrail.rows.idents, hTrail.trailTold, fun e s' hShort hRun => ?_⟩
  exact hTrail.stepTold hText hShort hRun

end Invariant

/-- The API with ids that are told apart by their length. -/
def letterApi : TransitionSystem (AuditedTables .plain) (ApiEvent .plain) :=
  auditedApi .ascii (oneText "SELECT 1" selectOne) .plain letterPath parseLetters
    (fun _ => true) .default

/-- The tables after a create of `alice/report`. -/
def reportTables : AuditedTables .plain :=
  (runEvent .ascii (oneText "SELECT 1" selectOne) .plain letterPath parseLetters
    (fun _ => true) .default (.store admin (createRequest reportPayload))
      (.opened [] [])).2.closed

theorem letterPath_injective : Function.Injective letterPath := fun m n h => by
  rw [← length_letterPath m, h, length_letterPath]

/-- After the create, the same create of a regular user is refused and leaves the tables
as they are. -/
theorem trail_of_reachable_reportTables :
    ((reportTables.routes.map StoredRoute.id).Nodup ∧ TrailTold letterPath reportTables) ∧
      reportTables.routes.map StoredRoute.id = [7] ∧
      ∀ s', letterApi.step reportTables
        (.store ⟨2, alice⟩ (createRequest reportPayload)) = some s' → s' = reportTables := by
  have hReach : letterApi.ReachableUnder ShortPath reportTables :=
    .step (e := .store admin (createRequest reportPayload)) (.start rfl)
      (by decide : reportPayload.routePrefix.length + reportPayload.path.length ≤ 485) rfl
  obtain ⟨hIds, hTold, hNext⟩ := trail_of_reachable letterPath_injective hReach
  refine ⟨⟨hIds, hTold⟩, by decide, fun s' hStep => ?_⟩
  have hShort : ShortPath reportTables (.store ⟨2, alice⟩ (createRequest reportPayload)) := by
    change reportPayload.routePrefix.length + reportPayload.path.length ≤ 485
    decide
  exact (hNext _ s' hShort hStep).role ⟨2, alice⟩ rfl (by decide)

end Api
end DataApi
