import DataApi.Api.Registration
import DataApi.Users.UserService

/-!
# What users can do to users

Requests of the API, as far as they concern the table of users: the route that a
request is dispatched to, the user of its token, the permission checks in front of
the endpoint, and the operation behind it.  Requests run in concurrent sessions.

A user of role `user` passes the check for `PATCH /users/me` only under the username
`users`.  Such a user may take another name, and with it another prefix; nobody else
may, and no role ever changes (`namespace_of_reachable`).
-/

namespace DataApi
namespace Users

open Library Schemas Api

/-- The body of a request; a profile update as it was sent. -/
inductive Body (U : Unicode) where
  | nothing
  | create (payload : UserAdminCreate U)
  | profile (username : Option (Option (List Char)))
  | update (payload : UserAdminUpdate U)
  | password (payload : ChangePasswordRequest)

/-- A request with the token of a user.  A handler that needs a new key, or a salt,
gets it from the request. -/
structure ApiRequest (U : Unicode) where
  request : Request
  subject : Nat
  body : Body U
  newId : Nat := 0
  salt : Nat := 0

/-- The endpoints that do not ask for the current user. -/
def publicEndpoints : List Endpoint := [.healthCheck, .login, .token, .refreshToken]

section Endpoints

variable {U : Unicode} (passwords : Passwords) (parseId : List Char → Option Nat)
  (checkNetloc : List Char → Bool) (base : ApiV1Prefix)

/-- `user_id`. -/
def userId (m : RouteMatch) (next : Nat → UserScript) : UserScript :=
  match m.params.head?.bind parseId with
  | some id => next id
  | none => .raise validationError

/-- The endpoint functions; those that are not in the list do not write to the
table of users. -/
def endpoint (call : ApiRequest U) (m : RouteMatch) (current : UserRow) : UserScript :=
  match m.route.endpoint, call.body with
  | .createUser, .create payload => createUser passwords payload call.newId call.salt
  | .createUser, _ => .raise validationError
  | .updateMe, .profile raw =>
      match UserUpdate.validate raw with
      | some payload => updateProfile current payload
      | none => .raise validationError
  | .updateMe, _ => .raise validationError
  | .deleteMe, _ => deleteAccount current
  | .updateUser, .update payload =>
      userId parseId m fun id => updateUser passwords id payload call.salt
  | .updateUser, _ => .raise validationError
  | .deleteUser, _ => userId parseId m deleteUser
  | .changePassword, .password payload =>
      changePassword passwords current payload call.salt
  | .changePassword, _ => .raise validationError
  | _, _ => .finish

/-- The checks in front of an endpoint. -/
def permit (m : RouteMatch) (user : User) (request : Request) : Except AppError Unit :=
  (if m.route.apiPermission then requireApiPermission checkNetloc base user request
    else .ok ()) >>= fun _ =>
  if m.route.adminOnly then requireAdmin user else .ok ()

/-- What a request does. -/
def ApiRequest.script (call : ApiRequest U) : UserScript :=
  match appDispatch base call.request.method call.request.path with
  | some (.api m) =>
      if m.route.endpoint ∈ publicEndpoints then .finish
      else currentUser call.subject fun row =>
        match row.user? with
        | some user =>
            match permit checkNetloc base m user call.request with
            | .ok _ => endpoint passwords parseId call m row
            | .error error => .raise error
        | none => .raise internalServerError
  | some (.page _) => .finish
  | none => .raise ⟨404, "http_error", "Not Found", []⟩

/-- The runs of a family of requests on a table. -/
def apiSessions (table : UserTable) (calls : Nat → ApiRequest U) :=
  sessionSystem (userStore U) table fun i =>
    (calls i).script passwords parseId checkNetloc base

end Endpoints

/-- Usernames as the schemas write them. -/
def UserTable.Lower (table : UserTable) : Prop :=
  ∀ row ∈ table.rows, ∀ username ∈ row.username, username.IsLower

/-- The token of the request is one of a user of role `user`. -/
def ByUser {U : Unicode} (initial : UserTable) (call : ApiRequest U) : Prop :=
  ∀ row ∈ initial.rows, row.id = call.subject → row.role = some .user

/-- The `Host` header does not itself name the user of the token. -/
def PlainHost {U : Unicode} (checkNetloc : List Char → Bool) (base : ApiV1Prefix)
    (initial : UserTable) (call : ApiRequest U) : Prop :=
  ∀ row ∈ initial.rows, row.id = call.subject → ∀ username ∈ row.username,
    ¬HostNames checkNetloc base call.request.host (username.text.map Char.toLower)

/-- The username is that of the users router. -/
def UserRow.NamedUsers (row : UserRow) : Prop :=
  row.username.map Username.text = some "users".toList

/-- A row that still has the role it had at the start, and the username, unless that
was `users`. -/
def UserRow.Kept (initial : UserTable) (row : UserRow) : Prop :=
  ∃ old ∈ initial.rows, old.id = row.id ∧ row.role = old.role ∧
    (row.username = old.username ∨ old.NamedUsers)

section Runs

variable {U : Unicode} {passwords : Passwords} {parseId : List Char → Option Nat}
  {checkNetloc : List Char → Bool} {base : ApiV1Prefix} {initial table table' : UserTable}

/-- A statement by which rows that are kept stay so. -/
def Change.Keeps (initial : UserTable) : Change → Prop
  | .insert _ => False
  | .update loaded assigned => assigned.role = loaded.role ∧
      (assigned.username = loaded.username ∨
        ∃ old ∈ initial.rows, old.id = loaded.id ∧ old.NamedUsers)
  | .delete _ => True

theorem kept_apply {change : Change} (hTable : ∀ row ∈ table.rows, row.Kept initial)
    (hChange : change.Keeps initial) (h : change.apply table = .ok table') :
    ∀ row ∈ table'.rows, row.Kept initial := by
  intro row hRow
  rcases Change.mem_rows (Change.rows_of_apply h) hRow with
    hOld | rfl | ⟨loaded, assigned, latest, rfl, hLatest, hId, rfl⟩
  · exact hTable row hOld
  · exact absurd hChange id
  · obtain ⟨hRole, hUsername⟩ := hChange
    obtain ⟨old, hOld, hSame, hOldRole, hOldName⟩ := hTable latest hLatest
    refine ⟨old, hOld, hSame, ?_, ?_⟩
    · change writeChanged loaded.get assigned.get latest.get .role = _
      rw [← hOldRole]
      exact if_pos hRole
    · change writeChanged loaded.get assigned.get latest.get .username = _ ∨ _
      rcases UserRow.written_cases loaded assigned latest .username with
        hKept | ⟨hWritten, -⟩
      · rw [hKept]
        exact hOldName
      · -- a name is written into the row of the user who was called `users`
        rcases hUsername with hSameName | ⟨first, hFirst, hFirstId, hNamed⟩
        · exact absurd hSameName hWritten
        · have hEq : first = old :=
            List.inj_on_of_nodup_map initial.constraints.ids hFirst hOld
              (hFirstId.trans (hId.symm.trans hSame.symm))
          exact .inr (hEq ▸ hNamed)

/-- The routes that write to users other than the current one are for
administrators. -/
theorem adminOnly_of_endpoint : ∀ route ∈ apiRouter,
    route.endpoint ∈ [Endpoint.createUser, .updateUser, .deleteUser] →
      route.adminOnly = true := by
  decide

/-- `update_me` is guarded by the permission check, below `users`. -/
theorem updateMe_route : ∀ route ∈ apiRouter, route.endpoint = .updateMe →
    route.apiPermission = true ∧ route.segments = [lit "users", lit "me"] := by
  decide

theorem permit_eq_ok {m : RouteMatch} {user : User} {request : Request}
    (h : permit checkNetloc base m user request = .ok ()) :
    (m.route.apiPermission = true →
        requireApiPermission checkNetloc base user request = .ok ()) ∧
      (m.route.adminOnly = true → requireAdmin user = .ok ()) := by
  unfold permit at h
  obtain ⟨_, hPermission, hAdmin⟩ := bind_eq_ok_iff.mp h
  refine ⟨fun hGuard => ?_, fun hGuard => ?_⟩
  · rwa [if_pos hGuard] at hPermission
  · rwa [if_pos hGuard] at hAdmin

/-- A user of role `user` who passes the check for `update_me` was called `users` at
the start. -/
theorem namedUsers_of_permit {m : RouteMatch} {request : Request} {row old : UserRow}
    {user : User} (hLower : initial.Lower) (hOld : old ∈ initial.rows)
    (hKept : row.username = old.username ∨ old.NamedUsers)
    (hUser : row.user? = some user) (hRole : user.role = .user)
    (hHost : ∀ username ∈ old.username,
      ¬HostNames checkNetloc base request.host (username.text.map Char.toLower))
    (hMatch : m.route.match? base request.method request.path = some m)
    (hRoute : m.route.apiPermission = true ∧ m.route.segments = [lit "users", lit "me"])
    (hPermit : permit checkNetloc base m user request = .ok ()) : old.NamedUsers := by
  rcases hKept with hSame | hNamed
  · -- the check compares the first segment with the lower-cased name
    obtain ⟨username, hUsername, hText, -⟩ := UserRow.user?_eq_some hUser
    have hHeld : username ∈ old.username := hSame ▸ hUsername
    have hSameLower : username.text.map Char.toLower = username.text :=
      hLower old hOld username hHeld
    have hLowered : user.lowered = username.text := by
      rw [User.lowered, hText, hSameLower]
    obtain ⟨tail, hPath, hTail, -⟩ :=
      ApiRoute.segment_of_match? hRoute.2 (by decide) hMatch
    have hName := eq_lowered_of_permitted hRole (by decide) hPath hTail
      ((permit_eq_ok hPermit).1 hRoute.1)
      (by rw [hLowered, ← hSameLower]; exact hHost username hHeld)
    rw [UserRow.NamedUsers, Option.mem_def.mp hHeld, Option.map_some, ← hLowered, ← hName]
  · exact hNamed

theorem role_profileUpdates (current : UserRow) (payload : UserUpdate) :
    (profileUpdates current payload).role = current.role := by
  unfold profileUpdates
  split <;> rfl

/-- A request with the token of a user of role `user` comes to statements that keep
the rows. -/
theorem ApiRequest.ensures_keeps (hLower : initial.Lower) (call : ApiRequest U)
    (hUser : ByUser initial call) (hHost : PlainHost checkNetloc base initial call) :
    (call.script passwords parseId checkNetloc base).Ensures (userStore U)
      (fun table => ∀ row ∈ table.rows, row.Kept initial) (Change.Keeps initial) := by
  unfold ApiRequest.script
  split
  · rename_i m hDispatch
    obtain ⟨hRoute, hMatch⟩ := appDispatch_api hDispatch
    split
    · trivial
    · refine ensures_select_byId fun table row hTable hRow hId => ?_
      obtain ⟨old, hOld, hSame, hOldRole, hOldName⟩ := hTable row hRow
      have hRole : row.role = some .user :=
        hOldRole.trans (hUser old hOld (hSame.trans hId))
      split
      · rename_i user hUserOk
        have hUserRole : user.role = .user := by
          obtain ⟨-, -, -, hStored⟩ := UserRow.user?_eq_some hUserOk
          exact Option.some.inj (hStored.symm.trans hRole)
        split
        · rename_i hPermit
          -- the routes of administrators are closed
          have hAdmin : ¬m.route.endpoint ∈
              [Endpoint.createUser, .updateUser, .deleteUser] := by
            intro hMem
            have hRequire := (permit_eq_ok hPermit).2
              (adminOnly_of_endpoint m.route hRoute hMem)
            rw [requireAdmin, hUserRole] at hRequire
            cases hRequire
          unfold endpoint
          split
          -- creating, updating and deleting other users is for administrators
          case h_1 hEndpoint _ => exact absurd (by rw [hEndpoint]; decide) hAdmin
          case h_2 => trivial
          -- `update_me` below `users`, which only a user of that name may call
          case h_3 hEndpoint _ =>
              split
              · refine ensures_updateProfile ⟨role_profileUpdates row _, .inr ?_⟩
                refine ⟨old, hOld, hSame, ?_⟩
                exact namedUsers_of_permit hLower hOld hOldName hUserOk hUserRole
                  (hHost old hOld (hSame.trans hId)) hMatch
                  (updateMe_route m.route hRoute hEndpoint) hPermit
              · trivial
          case h_4 => trivial
          case h_5 => trivial
          case h_6 hEndpoint _ => exact absurd (by rw [hEndpoint]; decide) hAdmin
          case h_7 => trivial
          case h_8 hEndpoint => exact absurd (by rw [hEndpoint]; decide) hAdmin
          case h_9 => exact ensures_changePassword passwords fun _ => ⟨rfl, .inl rfl⟩
          case h_10 => trivial
          case h_11 => trivial
        · trivial
      · trivial
  · trivial
  · trivial

/-- In every run of requests with tokens of users of role `user`, every user that is
still there has the role of the start, and the username of the start unless that was
`users`. -/
theorem namespace_of_reachable (hLower : initial.Lower) (calls : Nat → ApiRequest U)
    (hUser : ∀ i, ByUser initial (calls i))
    (hHost : ∀ i, PlainHost checkNetloc base initial (calls i))
    {s : SessionState UserTable UserQuery (Option UserRow) Change Refusal AppError}
    (hReach : (apiSessions passwords parseId checkNetloc base initial calls).Reachable s) :
    ∀ row ∈ s.committed.rows, row.Kept initial := by
  have hStart : ∀ row ∈ initial.rows, row.Kept initial := fun row hRow =>
    ⟨row, hRow, rfl, rfl, .inl rfl⟩
  exact sessionSystem_invariant hStart
    (fun i => (calls i).ensures_keeps hLower (hUser i) (hHost i))
    (fun _ _ _ hTable hChange h => kept_apply hTable hChange h) hReach

theorem usersName_ok : UsernameOk "users".toList := by
  decide

/-- A user `users` of role `user`. -/
def usersRow : UserRow where
  id := 0
  email := none
  username := some ⟨"users".toList, usersName_ok⟩
  hashedPassword := ""
  role := some .user

theorem usersRow_constraints : Constraints [usersRow] := by
  decide

/-- The table with this user. -/
def usersTable : UserTable where
  rows := [usersRow]
  constraints := usersRow_constraints

/-- `PATCH /api/v1/users/me` with the name `power_bi`. -/
def renameCall : ApiRequest .ascii where
  request := ⟨.patch, .http, "example.com".toList, "/api/v1/users/me".toList⟩
  subject := 0
  body := .profile (some (some "power_bi".toList))

/-- What the request does, with a check of hosts that passes. -/
def renameScript : UserScript :=
  renameCall.script plainPasswords (fun _ => none) (fun _ => true) .default

/-- The requests of the user. -/
abbrev renameSessions :=
  apiSessions plainPasswords (fun _ => none) (fun _ => true) .default usersTable
    fun _ => renameCall

/-- The look-ups of the request, its flush and its commit. -/
def renameRun : List (Nat × Action AppError) :=
  [(0, .select), (0, .select), (0, .flush), (0, .commit)]

theorem usersTable_lower : usersTable.Lower := by
  intro row hRow username hUsername
  cases List.mem_singleton.mp hRow
  cases hUsername
  decide

theorem renameCall_byUser : ByUser usersTable renameCall := by
  intro row hRow _
  cases List.mem_singleton.mp hRow
  rfl

theorem renameCall_plainHost :
    PlainHost (fun _ => true) .default usersTable renameCall := by
  rintro row - - username - ⟨-, path, hPath, -⟩
  cases hPath

/-- After the request, the user has the name. -/
theorem renameRun_renames : ∃ s, renameSessions.Reachable s ∧
    ∃ row ∈ s.committed.rows, row.id = usersRow.id ∧
      row.username.map Username.text = some "power_bi".toList := by
  have hNames : (renameSessions.runUnder (fun _ _ => True)
      ⟨usersTable, fun _ => .running renameScript⟩ renameRun).map
        (fun s => s.committed.rows.map fun row => (row.id, row.username.map Username.text)) =
      some [(0, some "power_bi".toList)] := by
    rfl
  obtain ⟨s, hRun, hRows⟩ := Option.map_eq_some_iff.mp hNames
  obtain ⟨row, hRow, hValue⟩ :=
    List.mem_map.mp (hRows ▸ List.mem_singleton_self (0, some "power_bi".toList))
  exact ⟨s, .run (.start rfl) hRun, row, hRow, congrArg Prod.fst hValue,
    congrArg Prod.snd hValue⟩

theorem namespace_of_renameRun : ∃ s, renameSessions.Reachable s ∧
    ∀ row ∈ s.committed.rows, row.Kept usersTable := by
  obtain ⟨s, hReach, -⟩ := renameRun_renames
  exact ⟨s, hReach, namespace_of_reachable usersTable_lower (fun _ => renameCall)
    (fun _ => renameCall_byUser) (fun _ => renameCall_plainHost) hReach⟩

/-- A user of role `user` changes the username, and with it the prefix. -/
theorem users_takes_other_name : usersTable.Lower ∧ ByUser usersTable renameCall ∧
    ∃ s, renameSessions.Reachable s ∧ ∃ row ∈ s.committed.rows,
      ∃ old ∈ usersTable.rows, row.id = old.id ∧ row.username ≠ old.username := by
  obtain ⟨s, hReach, row, hRow, hId, hName⟩ := renameRun_renames
  refine ⟨usersTable_lower, renameCall_byUser, s, hReach, row, hRow, usersRow,
    List.mem_singleton_self _, hId, fun hSame => ?_⟩
  rw [hSame] at hName
  exact absurd hName (by decide)

end Runs

end Users
end DataApi
