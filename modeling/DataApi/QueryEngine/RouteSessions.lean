import Mathlib.Data.List.Infix
import DataApi.Library.Transactions
import DataApi.QueryEngine.ConcurrentUpdates
import DataApi.QueryEngine.RouteService

/-!
# Concurrent requests on the table of routes

The writes of `DynamicRouteService` as scripts over the committed table, each in a
session of its own: the look-ups they make, and the statement of their flush, which the
database accepts or refuses under its constraints.  An `UPDATE` writes the changed
columns only, so a row may come from several requests; which requests it comes from, and
which rows a refused request has collided with, is what this module is about.
-/

namespace DataApi
namespace QueryEngine

open Library Schemas

/-- `lower` of the database, which knows ASCII like every other one. -/
structure DatabaseText where
  lower : String → String
  lower_of_lower : ∀ s, (∀ c ∈ s.toList, c.toNat < 128 ∧ c.isUpper = false) →
    lower s = s

/-- The check constraints of `path`. -/
def PathCheck (path : String) : Prop :=
  path ≠ "" ∧ (path.toList.head? ≠ some '/' ∧ path.toList.getLast? ≠ some '/') ∧
    ¬['/', '/'] <:+: path.toList

instance (path : String) : Decidable (PathCheck path) := by
  unfold PathCheck
  infer_instance

/-- The check constraints of a row. -/
def RouteChecks {F : Type} (T : DatabaseText) (config : RouteConfig F) : Prop :=
  config.routePrefix = T.lower config.routePrefix ∧ PathCheck config.path

instance {F : Type} (T : DatabaseText) (config : RouteConfig F) :
    Decidable (RouteChecks T config) := by
  unfold RouteChecks
  infer_instance

/-- The constraints of the table. -/
structure RouteConstraints {F : Type} (T : DatabaseText) (rows : List (StoredRoute F)) :
    Prop where
  ids : (rows.map StoredRoute.id).Nodup
  keys : (rows.map StoredRoute.key).Nodup
  checks : ∀ row ∈ rows, RouteChecks T row.config

instance {F : Type} (T : DatabaseText) (rows : List (StoredRoute F)) :
    Decidable (RouteConstraints T rows) :=
  decidable_of_iff ((rows.map StoredRoute.id).Nodup ∧ (rows.map StoredRoute.key).Nodup ∧
      ∀ row ∈ rows, RouteChecks T row.config)
    ⟨fun ⟨h₁, h₂, h₃⟩ => ⟨h₁, h₂, h₃⟩, fun ⟨h₁, h₂, h₃⟩ => ⟨h₁, h₂, h₃⟩⟩

/-- A table of routes that the database lets be committed. -/
structure RouteTable (T : DatabaseText) (F : Type) where
  rows : List (StoredRoute F)
  constraints : RouteConstraints T rows

theorem routeConstraints_nil {F : Type} (T : DatabaseText) :
    RouteConstraints T ([] : List (StoredRoute F)) := by
  refine ⟨List.nodup_nil, List.nodup_nil, fun row hRow => ?_⟩
  cases hRow

/-- The table without routes. -/
def RouteTable.empty (T : DatabaseText) (F : Type) : RouteTable T F :=
  ⟨[], routeConstraints_nil T⟩

/-- The look-ups of the repository that precede a write. -/
inductive RouteQuery where
  | byId (id : Nat)
  | byRoute (routePrefix path : String)

/-- The `WHERE` clause of a look-up. -/
def RouteQuery.selects {F : Type} : RouteQuery → StoredRoute F → Bool
  | .byId id, route => route.id == id
  | .byRoute routePrefix path, route => route.key == (routePrefix, path)

/-- The statement of a flush. -/
inductive RouteChange (F : Type) where
  | insert (route : StoredRoute F)
  | update (loaded assigned : StoredRoute F)
  | delete (id : Nat)

/-- Why a statement fails. -/
inductive RouteRefusal where
  | integrity
  | stale

/-- What the handlers of `create_route` and `update_route` make of a failed statement. -/
def refusedWrite : RouteRefusal → Raised
  | .integrity => .app routeExists
  | .stale => .other "StaleDataError"

/-- What the handler of `delete_route` makes of it. -/
def refusedDelete : RouteRefusal → Raised
  | .integrity => .other "IntegrityError"
  | .stale => .other "StaleDataError"

/-- A write of the service, step by step. -/
abbrev RouteScript (F : Type) :=
  Script RouteQuery (Option (StoredRoute F)) (RouteChange F) RouteRefusal Raised

/-- A request to write, with the id that a new route gets and the clients of the lab
test. -/
inductive ManageRequest (P : Scalars) where
  | create (payload : DynamicRouteWriteRequest P) (actor newId : Nat) (clients : Clients P)
  | update (id : Nat) (payload : DynamicRouteWriteRequest P) (actor : Nat)
      (clients : Clients P)
  | delete (id : Nat)

section Statements

variable {F : Type} [DecidableEq F] {T : DatabaseText}

/-- The row after the `UPDATE` of the columns in which `assigned` differs from
`loaded`. -/
def StoredRoute.write (loaded assigned latest : StoredRoute F) : StoredRoute F :=
  { flushRow loaded.toRouteRow assigned.toRouteRow latest.toRouteRow with
    id := latest.id, createdBy := latest.createdBy }

/-- The rows after a statement, up to the constraints.  Without a changed column there is
no `UPDATE`; one that finds no row is an error of the session, which a `DELETE` is not. -/
def RouteChange.rows (rows : List (StoredRoute F)) :
    RouteChange F → Except RouteRefusal (List (StoredRoute F))
  | .insert route => .ok (rows ++ [route])
  | .update loaded assigned =>
      if assigned.toRouteRow = loaded.toRouteRow then .ok rows
      else if loaded.id ∈ rows.map StoredRoute.id then
        .ok (rows.map fun latest =>
          if latest.id = loaded.id then StoredRoute.write loaded assigned latest else latest)
      else .error .stale
  | .delete id => .ok (rows.filter fun row => row.id ≠ id)

/-- The table after a statement. -/
def RouteChange.apply (change : RouteChange F) (table : RouteTable T F) :
    Except RouteRefusal (RouteTable T F) :=
  match change.rows table.rows with
  | .ok rows => if h : RouteConstraints T rows then .ok ⟨rows, h⟩ else .error .integrity
  | .error refusal => .error refusal

/-- The table of routes as a store. -/
def routeTable (T : DatabaseText) (F : Type) [DecidableEq F] :
    Store (RouteTable T F) RouteQuery (Option (StoredRoute F)) (RouteChange F)
      RouteRefusal where
  answer table query := table.rows.find? query.selects
  apply := RouteChange.apply

end Statements

section Scripts

variable {P : Scalars} (U : Unicode) (S : Sqlglot) (J : JsonFormat P)

/-- The lab test, and the write behind it; an exception goes through the handler. -/
def labTested (clients : Clients P) (payload : DynamicRouteWriteRequest P)
    (canonicalSql : String) (change : RouteChange P.Float) : RouteScript P.Float :=
  match runLabTestIfRequested U clients payload canonicalSql with
  | .ok _ => .write change refusedWrite
  | .error raised => .raise (conflictOfIntegrity raised)

/-- `create_route`. -/
def createScript (payload : DynamicRouteWriteRequest P) (actor newId : Nat)
    (clients : Clients P) : RouteScript P.Float :=
  match validatePayload U S payload with
  | .error e => .raise (.app e)
  | .ok validated =>
      .select (.byRoute payload.routePrefix payload.path) fun existing =>
        match existing with
        | some _ => .raise (.app routeExists)
        | none => labTested U clients payload validated.canonicalSql (.insert
            { config := .ofPayload J payload validated.canonicalSql, updatedBy := actor
              id := newId, createdBy := actor })

/-- `update_route`. -/
def updateScript (id : Nat) (payload : DynamicRouteWriteRequest P) (actor : Nat)
    (clients : Clients P) : RouteScript P.Float :=
  .select (.byId id) fun found =>
    match found with
    | none => .raise (.app (notFoundError "Dynamic route"))
    | some route =>
        match validatePayload U S payload with
        | .error e => .raise (.app e)
        | .ok validated =>
            .select (.byRoute payload.routePrefix payload.path) fun collision =>
              if ∃ other ∈ collision, other.id ≠ route.id then .raise (.app routeExists)
              else labTested U clients payload validated.canonicalSql (.update route
                { route with
                  config := .ofPayload J payload validated.canonicalSql
                  updatedBy := actor })

/-- `delete_route`. -/
def deleteScript (id : Nat) : RouteScript P.Float :=
  .select (.byId id) fun found =>
    match found with
    | none => .raise (.app (notFoundError "Dynamic route"))
    | some route => .write (.delete route.id) refusedDelete

/-- What a request does. -/
def ManageRequest.script : ManageRequest P → RouteScript P.Float
  | .create payload actor newId clients => createScript U S J payload actor newId clients
  | .update id payload actor clients => updateScript U S J id payload actor clients
  | .delete id => deleteScript id

/-- The runs of a family of requests on an empty table. -/
def routeSessions [DecidableEq P.Float] (T : DatabaseText) (requests : Nat → ManageRequest P) :=
  sessionSystem (routeTable T P.Float) (RouteTable.empty T P.Float) fun i =>
    (requests i).script U S J

end Scripts

/-! ### The statements of a request -/

/-- The statement that a request comes to, and the handler of its refusal. -/
inductive ManageRequest.Writes {P : Scalars} (U : Unicode) (S : Sqlglot)
    (J : JsonFormat P) : ManageRequest P → RouteChange P.Float → (RouteRefusal → Raised) → Prop
  | create (payload : DynamicRouteWriteRequest P) (actor newId : Nat) (clients : Clients P)
      (validated : ValidatedSql) (hValid : validatePayload U S payload = .ok validated) :
      Writes U S J (.create payload actor newId clients)
        (.insert
          { config := .ofPayload J payload validated.canonicalSql, updatedBy := actor
            id := newId, createdBy := actor })
        refusedWrite
  | update (payload : DynamicRouteWriteRequest P) (actor : Nat) (clients : Clients P)
      (validated : ValidatedSql) (loaded : StoredRoute P.Float)
      (hValid : validatePayload U S payload = .ok validated) :
      Writes U S J (.update loaded.id payload actor clients)
        (.update loaded
          { loaded with
            config := .ofPayload J payload validated.canonicalSql, updatedBy := actor })
        refusedWrite
  | delete (id : Nat) : Writes U S J (.delete id) (.delete id) refusedDelete

section Writes

variable {P : Scalars} [DecidableEq P.Float] {U : Unicode} {S : Sqlglot} {J : JsonFormat P}
  {T : DatabaseText} {change change' : RouteChange P.Float} {refused : RouteRefusal → Raised}
  {request : ManageRequest P}

theorem leads_labTested {clients : Clients P} {payload : DynamicRouteWriteRequest P}
    {sql : String} {last : RouteScript P.Float}
    (h : (labTested U clients payload sql change).Leads (routeTable T P.Float) last) :
    (∃ raised, last = .raise raised) ∨ last = .write change refusedWrite := by
  unfold labTested at h
  split at h
  · cases h
    exact .inr rfl
  · cases h
    exact .inl ⟨_, rfl⟩

/-- A look-up by id finds a row with the id. -/
theorem id_of_answer {table : RouteTable T P.Float} {id : Nat} {route : StoredRoute P.Float}
    (h : (routeTable T P.Float).answer table (.byId id) = some route) :
    route ∈ table.rows ∧ route.id = id := by
  have hFind : table.rows.find? (RouteQuery.byId id).selects = some route := h
  have hSelected : (RouteQuery.byId id).selects route = true := List.find?_some hFind
  exact ⟨List.mem_of_find?_eq_some hFind, beq_iff_eq.mp hSelected⟩

/-- A look-up by prefix and path finds a row that has them. -/
theorem key_of_answer {table : RouteTable T P.Float} {routePrefix path : String}
    {route : StoredRoute P.Float}
    (h : (routeTable T P.Float).answer table (.byRoute routePrefix path) = some route) :
    route ∈ table.rows ∧ route.key = (routePrefix, path) := by
  have hFind : table.rows.find? (RouteQuery.byRoute routePrefix path).selects = some route := h
  have hSelected : (RouteQuery.byRoute routePrefix path).selects route = true :=
    List.find?_some hFind
  exact ⟨List.mem_of_find?_eq_some hFind, beq_iff_eq.mp hSelected⟩

/-- Where the script of a request may end: with an error, or with its statement. -/
theorem ends_of_leads {last : RouteScript P.Float}
    (hEnd : ∀ query next, last ≠ .select query next)
    (h : (request.script U S J).Leads (routeTable T P.Float) last) :
    (∃ raised, last = .raise raised) ∨
      ∃ change refused, last = .write change refused ∧ request.Writes U S J change refused := by
  cases request with
  | create payload actor newId clients =>
      change (createScript U S J payload actor newId clients).Leads _ _ at h
      unfold createScript at h
      split at h
      · cases h
        exact .inl ⟨_, rfl⟩
      · rename_i validated hValid
        obtain ⟨_, existing, -, hRest⟩ := h.of_select hEnd
        cases existing with
        | some _ =>
            cases hRest
            exact .inl ⟨_, rfl⟩
        | none =>
            refine (leads_labTested hRest).imp_right fun hWrite => ?_
            exact ⟨_, _, hWrite, .create payload actor newId clients validated hValid⟩
  | update id payload actor clients =>
      obtain ⟨_, found, hFound, hRest⟩ := Script.Leads.of_select h hEnd
      cases found with
      | none =>
          cases hRest
          exact .inl ⟨_, rfl⟩
      | some route =>
          obtain ⟨-, rfl⟩ := id_of_answer hFound
          cases hValid : validatePayload U S payload with
          | error e =>
              rw [hValid] at hRest
              cases hRest
              exact .inl ⟨_, rfl⟩
          | ok validated =>
              rw [hValid] at hRest
              obtain ⟨_, collision, -, hLast⟩ := hRest.of_select hEnd
              split at hLast
              · cases hLast
                exact .inl ⟨_, rfl⟩
              · refine (leads_labTested hLast).imp_right fun hWrite => ?_
                exact ⟨_, _, hWrite, .update payload actor clients validated route hValid⟩
  | delete id =>
      obtain ⟨_, found, hFound, hRest⟩ := Script.Leads.of_select h hEnd
      cases found with
      | none =>
          cases hRest
          exact .inl ⟨_, rfl⟩
      | some route =>
          obtain ⟨-, rfl⟩ := id_of_answer hFound
          cases hRest
          exact .inr ⟨_, _, rfl, .delete route.id⟩

/-- The statement that a request comes to is the one it writes. -/
theorem writes_of_leads
    (h : (request.script U S J).Leads (routeTable T P.Float) (.write change refused)) :
    request.Writes U S J change refused := by
  have hEnd : ∀ query next, Script.write change refused ≠
      (.select query next : RouteScript P.Float) := by
    intro query next hSame
    cases hSame
  rcases ends_of_leads hEnd h with ⟨_, hRaise⟩ | ⟨_, _, hWrite, hWrites⟩
  · cases hRaise
  · cases hWrite
    exact hWrites

/-- No request succeeds without a statement. -/
theorem not_leads_finish (request : ManageRequest P) :
    ¬(request.script U S J).Leads (routeTable T P.Float) .finish := by
  intro h
  have hEnd : ∀ query next, Script.finish ≠ (.select query next : RouteScript P.Float) := by
    intro query next hSame
    cases hSame
  rcases ends_of_leads hEnd h with ⟨_, hRaise⟩ | ⟨_, _, hWrite, -⟩
  · cases hRaise
  · cases hWrite

end Writes

/-! ### Where the columns come from -/

section Accounts

variable {P : Scalars} (U : Unicode) (S : Sqlglot) (J : JsonFormat P)

/-- The id of the route that a request is about. -/
def ManageRequest.routeId : ManageRequest P → Nat
  | .create _ _ newId _ => newId
  | .update id _ _ _ => id
  | .delete id => id

/-- The columns that a request assigns, if its payload passes the checks. -/
def ManageRequest.assigned? : ManageRequest P → Option (RouteRow P.Float)
  | .create payload actor _ _ => UpdateRequest.assigned? U S J ⟨payload, actor⟩
  | .update _ payload actor _ => UpdateRequest.assigned? U S J ⟨payload, actor⟩
  | .delete _ => none

/-- A part of a row that was assigned by a request about its route which has
succeeded. -/
def AssignedBy {Value : Type} (requests : Nat → ManageRequest P) (succeeded : Nat → Prop)
    (part : RouteRow P.Float → Value) (row : StoredRoute P.Float) : Prop :=
  ∃ i assigned, succeeded i ∧ (requests i).routeId = row.id ∧
    (requests i).assigned? U S J = some assigned ∧ part row.toRouteRow = part assigned

/-- The committed rows, accounted for by the requests that have succeeded: each row was
created by one of them, and has each of its columns from one that was about it; a created
route is there, unless a request to delete it has succeeded. -/
structure RoutesAccounted (requests : Nat → ManageRequest P) (succeeded : Nat → Prop)
    (rows : List (StoredRoute P.Float)) : Prop where
  creator : ∀ row ∈ rows, ∃ i payload clients, succeeded i ∧
    requests i = .create payload row.createdBy row.id clients
  column : ∀ row ∈ rows, ∀ c,
    AssignedBy U S J requests succeeded (fun columns => columns.config.get c) row
  updatedBy : ∀ row ∈ rows, AssignedBy U S J requests succeeded RouteRow.updatedBy row
  kept : ∀ i payload actor id clients, succeeded i →
    requests i = .create payload actor id clients →
    id ∈ rows.map StoredRoute.id ∨ ∃ j, succeeded j ∧ requests j = .delete id

/-- Columns that the schema and the validator accept, each by itself. -/
structure ColumnsValid {F : Type} (U : Unicode) (S : Sqlglot) (config : RouteConfig F) :
    Prop where
  routePrefix : PrefixOk config.routePrefix ∧ IsLower config.routePrefix
  path : PathOk config.path
  canonicalSql : ∃ sql dialect validated, validate U S sql dialect = .ok validated ∧
    config.canonicalSql = validated.canonicalSql

variable {U : Unicode} {S : Sqlglot} {J : JsonFormat P} {refused : RouteRefusal → Raised}
  {request : ManageRequest P}

theorem assigned?_of_validatePayload {payload : DynamicRouteWriteRequest P}
    {validated : ValidatedSql} (h : validatePayload U S payload = .ok validated)
    (actor : Nat) : UpdateRequest.assigned? U S J ⟨payload, actor⟩ =
      some ⟨.ofPayload J payload validated.canonicalSql, actor⟩ := by
  rw [UpdateRequest.assigned?, h]

/-- A row is inserted by the request that creates it. -/
theorem writes_insert {route : StoredRoute P.Float}
    (h : request.Writes U S J (.insert route) refused) :
    request.assigned? U S J = some route.toRouteRow ∧
      ∃ payload clients, request = .create payload route.createdBy route.id clients := by
  cases h with
  | create payload actor newId clients validated hValid =>
      exact ⟨assigned?_of_validatePayload hValid actor, payload, clients, rfl⟩

/-- An update assigns its columns to the row with its id. -/
theorem writes_update {loaded assigned : StoredRoute P.Float}
    (h : request.Writes U S J (.update loaded assigned) refused) :
    request.routeId = loaded.id ∧ request.assigned? U S J = some assigned.toRouteRow := by
  cases h with
  | update payload actor clients validated loaded hValid =>
      exact ⟨rfl, assigned?_of_validatePayload hValid actor⟩

theorem writes_delete {id : Nat} (h : request.Writes U S J (.delete id) refused) :
    request = .delete id := by
  cases h
  rfl

/-- A request to create inserts its row. -/
theorem create_writes {payload : DynamicRouteWriteRequest P} {actor id : Nat}
    {clients : Clients P} {change : RouteChange P.Float}
    (h : (ManageRequest.create payload actor id clients).Writes U S J change refused) :
    ∃ route, change = .insert route ∧ route.id = id := by
  cases h
  exact ⟨_, rfl, rfl⟩

theorem RoutesAccounted.nil (requests : Nat → ManageRequest P) :
    RoutesAccounted U S J requests (fun _ => False) [] := by
  refine ⟨fun row hRow => ?_, fun row hRow => ?_, fun row hRow => ?_,
    fun i _ _ _ _ h => h.elim⟩
  all_goals cases hRow

theorem assigned?_eq_some {assigned : RouteRow P.Float}
    (h : request.assigned? U S J = some assigned) :
    ∃ (payload : DynamicRouteWriteRequest P) (validated : ValidatedSql),
      validatePayload U S payload = .ok validated ∧
        assigned.config = .ofPayload J payload validated.canonicalSql := by
  have hPayload : ∀ payload actor, UpdateRequest.assigned? U S J ⟨payload, actor⟩ =
      some assigned → ∃ (payload : DynamicRouteWriteRequest P) (validated : ValidatedSql),
        validatePayload U S payload = .ok validated ∧
          assigned.config = .ofPayload J payload validated.canonicalSql := by
    intro payload actor hAssigned
    rw [UpdateRequest.assigned?] at hAssigned
    split at hAssigned
    · rename_i validated hValid
      cases hAssigned
      exact ⟨payload, validated, hValid, rfl⟩
    · cases hAssigned
  cases request with
  | create payload actor _ _ => exact hPayload payload actor h
  | update _ payload actor _ => exact hPayload payload actor h
  | delete _ => cases h

/-- The columns that are accounted for were accepted by the schema and the validator. -/
theorem RoutesAccounted.columnsValid {requests : Nat → ManageRequest P}
    {succeeded : Nat → Prop} {rows : List (StoredRoute P.Float)}
    (h : RoutesAccounted U S J requests succeeded rows) :
    ∀ row ∈ rows, ColumnsValid U S row.config := by
  intro row hRow
  constructor
  · obtain ⟨_, assigned, -, -, hAssigned, hSame⟩ := h.column row hRow .routePrefix
    obtain ⟨payload, validated, -, hConfig⟩ := assigned?_eq_some hAssigned
    change row.config.routePrefix = assigned.config.routePrefix at hSame
    rw [hSame, hConfig]
    exact ⟨payload.ok.1, payload.lower⟩
  · obtain ⟨_, assigned, -, -, hAssigned, hSame⟩ := h.column row hRow .path
    obtain ⟨payload, validated, -, hConfig⟩ := assigned?_eq_some hAssigned
    change row.config.path = assigned.config.path at hSame
    rw [hSame, hConfig]
    exact payload.ok.2.1
  · obtain ⟨_, assigned, -, -, hAssigned, hSame⟩ := h.column row hRow .canonicalSql
    obtain ⟨payload, validated, hValid, hConfig⟩ := assigned?_eq_some hAssigned
    change row.config.canonicalSql = assigned.config.canonicalSql at hSame
    refine ⟨payload.sql, payload.dbType, validated, (validatePayload_eq_ok_iff.mp hValid).1, ?_⟩
    rw [hSame, hConfig]
    rfl

end Accounts

section Runs

variable {P : Scalars} [DecidableEq P.Float] {U : Unicode} {S : Sqlglot} {J : JsonFormat P}
  {T : DatabaseText} {change : RouteChange P.Float} {refused : RouteRefusal → Raised}
  {request : ManageRequest P} {rows rows' : List (StoredRoute P.Float)}
  {table table' : RouteTable T P.Float} {requests : Nat → ManageRequest P}
  {succeeded : Nat → Prop}

/-- The rows after a statement: rows that were there, the inserted row, and the row into
which changed columns were written. -/
theorem RouteChange.mem_rows (h : change.rows rows = .ok rows') {row : StoredRoute P.Float}
    (hRow : row ∈ rows') :
    row ∈ rows ∨ change = .insert row ∨
      ∃ loaded assigned latest, change = .update loaded assigned ∧ latest ∈ rows ∧
        latest.id = loaded.id ∧ row = StoredRoute.write loaded assigned latest := by
  cases change with
  | insert route =>
      cases h
      rcases List.mem_append.mp hRow with hOld | hNew
      · exact .inl hOld
      · rw [List.mem_singleton.mp hNew]
        exact .inr (.inl rfl)
  | update loaded assigned =>
      rw [RouteChange.rows] at h
      split at h
      · cases h
        exact .inl hRow
      · split at h
        · cases h
          obtain ⟨latest, hLatest, rfl⟩ := List.mem_map.mp hRow
          split
          · rename_i hId
            exact .inr (.inr ⟨loaded, assigned, latest, rfl, hLatest, hId, rfl⟩)
          · exact .inl hLatest
        · cases h
  | delete id =>
      cases h
      exact .inl (List.mem_of_mem_filter hRow)

/-- An id goes with the `DELETE` of its route only. -/
theorem RouteChange.mem_ids (h : change.rows rows = .ok rows') {id : Nat}
    (hId : id ∈ rows.map StoredRoute.id) :
    id ∈ rows'.map StoredRoute.id ∨ change = .delete id := by
  obtain ⟨row, hRow, rfl⟩ := List.mem_map.mp hId
  cases change with
  | insert route =>
      cases h
      exact .inl (List.mem_map_of_mem (List.mem_append_left _ hRow))
  | update loaded assigned =>
      rw [RouteChange.rows] at h
      split at h
      · cases h
        exact .inl hId
      · split at h
        · cases h
          refine .inl (List.mem_map.mpr ⟨_, List.mem_map_of_mem hRow, ?_⟩)
          split <;> rfl
        · cases h
  | delete id =>
      cases h
      by_cases hSame : row.id = id
      · exact .inr (by rw [hSame])
      · refine .inl (List.mem_map_of_mem (List.mem_filter.mpr ⟨hRow, ?_⟩))
        exact decide_eq_true hSame

theorem RouteChange.rows_of_apply (h : change.apply table = .ok table') :
    change.rows table.rows = .ok table'.rows := by
  rw [RouteChange.apply] at h
  split at h
  · rename_i rows hRows
    split at h
    · cases h
      exact hRows
    · cases h
  · cases h

/-- A column of a written row is the latest one or the assigned one. -/
theorem StoredRoute.write_column (loaded assigned latest : StoredRoute P.Float)
    (c : RouteColumn) :
    (StoredRoute.write loaded assigned latest).config.get c = latest.config.get c ∨
      (StoredRoute.write loaded assigned latest).config.get c = assigned.config.get c := by
  change (RouteConfig.ofColumns _).get c = _ ∨ (RouteConfig.ofColumns _).get c = _
  rw [RouteConfig.get_ofColumns]
  exact (writeChanged_cases c).imp_right fun h => h.2

theorem StoredRoute.write_updatedBy (loaded assigned latest : StoredRoute P.Float) :
    (StoredRoute.write loaded assigned latest).updatedBy = latest.updatedBy ∨
      (StoredRoute.write loaded assigned latest).updatedBy = assigned.updatedBy := by
  change (if _ then _ else _) = _ ∨ (if _ then _ else _) = _
  split
  · exact .inl rfl
  · exact .inr rfl

/-- What a statement leaves alone or assigns is assigned by a request that has succeeded,
its own included. -/
theorem AssignedBy.write {Value : Type} {part : RouteRow P.Float → Value}
    (hPart : ∀ loaded assigned latest : StoredRoute P.Float,
      part (StoredRoute.write loaded assigned latest).toRouteRow = part latest.toRouteRow ∨
        part (StoredRoute.write loaded assigned latest).toRouteRow = part assigned.toRouteRow)
    (hRows : ∀ row ∈ rows, AssignedBy U S J requests succeeded part row) {i : Nat}
    (hWrites : (requests i).Writes U S J change refused) (h : change.rows rows = .ok rows') :
    ∀ row ∈ rows', AssignedBy U S J requests (fun j => j = i ∨ succeeded j) part row := by
  intro row hRow
  have hOld : ∀ old ∈ rows,
      AssignedBy U S J requests (fun j => j = i ∨ succeeded j) part old := by
    intro old hMem
    obtain ⟨j, assigned, hDone, hAssigned⟩ := hRows old hMem
    exact ⟨j, assigned, .inr hDone, hAssigned⟩
  rcases RouteChange.mem_rows h hRow with
    hMem | rfl | ⟨loaded, assigned, latest, rfl, hLatest, hId, rfl⟩
  · exact hOld row hMem
  · obtain ⟨hAssigned, payload, clients, hCreate⟩ := writes_insert hWrites
    exact ⟨i, _, .inl rfl, by rw [hCreate, ManageRequest.routeId], hAssigned, rfl⟩
  · rcases hPart loaded assigned latest with hKept | hWritten
    · obtain ⟨j, source, hDone, hAbout, hAssigned, hSame⟩ := hOld latest hLatest
      exact ⟨j, source, hDone, hAbout, hAssigned, hKept.trans hSame⟩
    · obtain ⟨hAbout, hAssigned⟩ := writes_update hWrites
      exact ⟨i, _, .inl rfl, hAbout.trans hId.symm, hAssigned, hWritten⟩

/-- The statement of a request keeps the account when the request joins those that have
succeeded. -/
theorem RoutesAccounted.write (hRows : RoutesAccounted U S J requests succeeded rows) {i : Nat}
    (hWrites : (requests i).Writes U S J change refused) (h : change.rows rows = .ok rows') :
    RoutesAccounted U S J requests (fun j => j = i ∨ succeeded j) rows' := by
  constructor
  · intro row hRow
    have hOld : ∀ old ∈ rows, ∃ j payload clients, (j = i ∨ succeeded j) ∧
        requests j = .create payload old.createdBy old.id clients := by
      intro old hMem
      obtain ⟨j, payload, clients, hDone, hCreate⟩ := hRows.creator old hMem
      exact ⟨j, payload, clients, .inr hDone, hCreate⟩
    rcases RouteChange.mem_rows h hRow with
      hMem | rfl | ⟨loaded, assigned, latest, rfl, hLatest, -, rfl⟩
    · exact hOld row hMem
    · obtain ⟨-, payload, clients, hCreate⟩ := writes_insert hWrites
      exact ⟨i, payload, clients, .inl rfl, hCreate⟩
    · exact hOld latest hLatest
  · intro row hRow c
    refine AssignedBy.write (fun loaded assigned latest => ?_)
      (fun old hMem => hRows.column old hMem c) hWrites h row hRow
    exact StoredRoute.write_column loaded assigned latest c
  · exact AssignedBy.write StoredRoute.write_updatedBy hRows.updatedBy hWrites h
  · intro j payload actor id clients hDone hCreate
    rcases hDone with rfl | hDone
    · rw [hCreate] at hWrites
      obtain ⟨route, rfl, rfl⟩ := create_writes hWrites
      cases h
      exact .inl (List.mem_map_of_mem (List.mem_append_right _ (List.mem_singleton_self _)))
    · rcases hRows.kept j payload actor id clients hDone hCreate with
        hThere | ⟨k, hDeleted, hDelete⟩
      · refine (RouteChange.mem_ids h hThere).imp_right fun hChange => ?_
        rw [hChange] at hWrites
        exact ⟨i, .inl rfl, writes_delete hWrites⟩
      · exact .inr ⟨k, .inr hDeleted, hDelete⟩

/-- In every run the committed table is accounted for. -/
theorem accounted_of_reachable {s : SessionState (RouteTable T P.Float) RouteQuery
      (Option (StoredRoute P.Float)) (RouteChange P.Float) RouteRefusal Raised}
    (hReach : (routeSessions U S J T requests).Reachable s) :
    RoutesAccounted U S J requests (fun i => s.sessions i = .succeeded) s.committed.rows := by
  have hApply : ∀ (succeeded : Nat → Prop) i change refused (table table' : RouteTable T P.Float),
      RoutesAccounted U S J requests succeeded table.rows →
      ((requests i).script U S J).Leads (routeTable T P.Float) (.write change refused) →
      (routeTable T P.Float).apply change table = .ok table' →
      RoutesAccounted U S J requests (fun j => j = i ∨ succeeded j) table'.rows :=
    fun _ _ _ _ _ _ hRows hLeads h =>
      hRows.write (writes_of_leads hLeads) (RouteChange.rows_of_apply h)
  have hStart : RoutesAccounted U S J requests (fun _ => False)
      (RouteTable.empty T P.Float).rows := .nil requests
  exact sessionSystem_accounts (I := fun succeeded (table : RouteTable T P.Float) =>
    RoutesAccounted U S J requests succeeded table.rows) hStart
    (fun i => not_leads_finish (requests i)) hApply hReach

/-- Whatever the interleaving of the requests, and whichever of them are aborted, no two
committed routes share an id or a prefix and path, every row is accounted for by requests
that have succeeded, and its columns were validated. -/
theorem routesAccounted_of_reachable (U : Unicode) (S : Sqlglot) (J : JsonFormat P)
    (T : DatabaseText) (requests : Nat → ManageRequest P)
    (s : SessionState (RouteTable T P.Float) RouteQuery (Option (StoredRoute P.Float))
      (RouteChange P.Float) RouteRefusal Raised)
    (hReach : (routeSessions U S J T requests).Reachable s) :
    (s.committed.rows.map StoredRoute.id).Nodup ∧
      (s.committed.rows.map StoredRoute.key).Nodup ∧
      RoutesAccounted U S J requests (fun i => s.sessions i = .succeeded) s.committed.rows ∧
      ∀ row ∈ s.committed.rows, ColumnsValid U S row.config :=
  ⟨s.committed.constraints.ids, s.committed.constraints.keys, accounted_of_reachable hReach,
    (accounted_of_reachable hReach).columnsValid⟩

end Runs

/-! ### Two sessions that create one route -/

/-- A database that knows ASCII only. -/
def DatabaseText.ascii : DatabaseText := ⟨Unicode.ascii.lower, Unicode.ascii.lower_of_lower⟩

/-- Every request creates the route `alice/report`. -/
def reportRequests (i : Nat) : ManageRequest .plain :=
  .create paginatedRequest.payload i i ⟨fun _ _ => .ok [], none⟩

/-- Both sessions find the path free, and both flushes pass. -/
def reportRun : List (Nat × Library.Action Raised) :=
  [(0, .select), (1, .select), (0, .flush), (1, .flush), (0, .commit)]

/-- The state in which they start. -/
def reportStart : SessionState (RouteTable .ascii Scalars.plain.Float) RouteQuery
    (Option (StoredRoute Scalars.plain.Float)) (RouteChange Scalars.plain.Float)
    RouteRefusal Raised where
  committed := .empty .ascii _
  sessions i := .running ((reportRequests i).script .ascii twoTexts .plain)

theorem routesAccounted_reportRun :
    ∃ s, (routeSessions .ascii twoTexts .plain .ascii reportRequests).runUnder
        (fun _ _ => True) reportStart reportRun = some s ∧
      s.committed.rows.map StoredRoute.id = [0] ∧
      RoutesAccounted .ascii twoTexts .plain reportRequests
        (fun i => s.sessions i = .succeeded) s.committed.rows := by
  have hIds : ((routeSessions .ascii twoTexts .plain .ascii reportRequests).runUnder
      (fun _ _ => True) reportStart reportRun).map
        (fun s => s.committed.rows.map StoredRoute.id) = some [0] := by
    decide +kernel
  obtain ⟨s, hRun, hRows⟩ := Option.map_eq_some_iff.mp hIds
  refine ⟨s, hRun, hRows, ?_⟩
  exact (routesAccounted_of_reachable .ascii twoTexts .plain .ascii reportRequests s
    (.run (.start rfl) hRun)).2.2.1

end QueryEngine
end DataApi
