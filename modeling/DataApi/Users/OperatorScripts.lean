import DataApi.Users.Directory

/-!
# The scripts of the operator

Three scripts create or update a user, delete one, and reset a password.  Each looks a user
up, makes one request to the service of the users, and prints the user with the password, if
it has generated one.

They are clients of the service like the API.  Whatever is asked and done, one after the other
in any order, everything is answered and printed as the directory of accounts does.  What a
script sets is then what a login needs: the user that was printed logs in with the password
that the script was told or has printed, and nobody else's login changes.
-/

namespace DataApi
namespace Users

open Library Schemas Api

/-- Why a script fails: an error of the service or of a payload, one that it raises, or an
exception that it does not catch. -/
inductive ScriptError where
  | app (error : AppError)
  | validation
  | value (message : String)
  | uncaught
  deriving DecidableEq

/-- What a script prints, up to the layout. -/
structure Printed where
  action : String
  user : Option UserRead
  temporaryPassword : Option String
  deriving DecidableEq

/-- How a script is told which user is meant. -/
inductive Identity where
  | username (value : String)
  | email (value : String)

/-- A call of `create_user.sh`, `delete_user.sh` or `reset_user_password.sh`, with the value
of the environment variable of the password, and the password that would be generated. -/
inductive ScriptCall where
  | createUser (username : String) (email : Option String) (role : UserRole)
      (password passwordEnv : Option String) (generated : String) (id salt : Nat)
  | deleteUser (identity : Identity) (yes : Bool) (typed : String)
  | resetUserPassword (identity : Identity) (password passwordEnv : Option String)
      (generated : String) (salt : Nat)

/-- A text that is given and not empty. -/
def givenText (value : Option String) : Option String := value.filter (· ≠ "")

/-- `password_from_args`. -/
def passwordFromArgs (password passwordEnv : Option String) : Option String :=
  (givenText password).or (givenText passwordEnv)

/-- The length bounds of a password. -/
def PasswordOk (value : String) : Prop := 12 ≤ value.length ∧ value.length ≤ 128

instance (value : String) : Decidable (PasswordOk value) := by
  unfold PasswordOk
  infer_instance

/-- The field `password` of a payload. -/
def validatePassword (value : String) : Option String :=
  if PasswordOk value then some value else none

/-- The password that a script is told to set. -/
def ScriptCall.password : ScriptCall → Option String
  | .createUser _ _ _ password passwordEnv _ _ _ => passwordFromArgs password passwordEnv
  | .deleteUser _ _ _ => none
  | .resetUserPassword _ password passwordEnv _ _ => passwordFromArgs password passwordEnv

section Scripts

variable (U : Unicode) (check : String → Option String)

/-- `value.strip().lower()`. -/
def stripLower (value : String) : String := U.lower (strip value)

/-- `UserAdminCreate(...)`. -/
def adminCreate (email : Option String) (username password : String) (role : UserRole) :
    Except ScriptError (UserAdminCreate U) :=
  match email.mapM (validateEmail U check), validateUsername username.toList,
      validatePassword password with
  | some email, some username, some password => .ok ⟨email, username, password, role⟩
  | _, _, _ => .error .validation

/-- `UserAdminUpdate(...)`, with the fields that are given. -/
def adminUpdate (email username password : Option String) (role : Option UserRole) :
    Except ScriptError (UserAdminUpdate U) :=
  match email.mapM (validateEmail U check),
      username.mapM (fun value => validateUsername value.toList),
      password.mapM validatePassword with
  | some email, some username, some password =>
      .ok ⟨email.map some, username.map some, password.map some, role.map some⟩
  | _, _, _ => .error .validation

/-- `get_existing_user`. -/
def getExistingUser (find : UserQuery → Option UserRead) (username : String) :
    Option String → Except ScriptError (Option UserRead)
  | none => .ok (find (.byUsername username))
  | some email =>
      match find (.byUsername username), find (.byEmail email) with
      | some usernameUser, some emailUser =>
          if usernameUser.id ≠ emailUser.id then
            .error (.value "username and email belong to different users")
          else .ok (some usernameUser)
      | usernameUser, emailUser => .ok (usernameUser.or emailUser)

/-- `get_user` of a script, with the error for `None`. -/
def Identity.getUser (find : UserQuery → Option UserRead) :
    Identity → Except ScriptError UserRead
  | .username value => (find (.byUsername (stripLower U value))).elim
      (.error (.value "user not found")) .ok
  | .email value => (find (.byEmail (stripLower U value))).elim
      (.error (.value "user not found")) .ok

/-- The user in an answer of the service. -/
def UserAnswer.user? : UserAnswer → Option UserRead
  | .user read => some read
  | _ => none

/-- What a script asks of the service, and what it will print: the user that the service
returns, or else the one that was found. -/
structure ScriptRequest where
  call : ServiceCall U
  action : String
  found : Option UserRead := none
  temporaryPassword : Option String := none

variable {U} in
/-- The end of a script. -/
def ScriptRequest.print (request : ScriptRequest U) :
    Except AppError UserAnswer → Except ScriptError Printed
  | .ok answer =>
      .ok ⟨request.action, answer.user?.or request.found, request.temporaryPassword⟩
  | .error error => .error (if error = internalServerError then .uncaught else .app error)

/-- `create_or_update_user`, up to the request to the service. -/
def createOrUpdateUser (find : UserQuery → Option UserRead) (username : String)
    (email : Option String) (role : UserRole) (password : Option String) (generated : String)
    (id salt : Nat) : Except ScriptError (ScriptRequest U) := do
  let existingUser ← getExistingUser find username email
  match existingUser with
  | none =>
      let payload ← adminCreate U check email username (password.getD generated) role
      return { call := .createUser payload id salt, action := "Created user",
               temporaryPassword := if password.isNone then some generated else none }
  | some user =>
      let payload ← adminUpdate U check email (some username) password (some role)
      return { call := .updateUser user.id payload salt, action := "Updated user" }

/-- A script, up to its request to the service. -/
def ScriptCall.request (call : ScriptCall) (find : UserQuery → Option UserRead) :
    Except ScriptError (ScriptRequest U) :=
  match call with
  | .createUser username email role password passwordEnv generated id salt =>
      createOrUpdateUser U check find (stripLower U username)
        ((givenText email).map (stripLower U)) role (passwordFromArgs password passwordEnv)
        generated id salt
  | .deleteUser identity yes typed => do
      let user ← identity.getUser U find
      if yes ∨ typed = String.ofList user.username.text then
        return { call := .deleteUser user.id, action := "Deleted user", found := some user }
      else .error (.value "delete confirmation did not match username")
  | .resetUserPassword identity password passwordEnv generated salt => do
      let chosen := passwordFromArgs password passwordEnv
      let user ← identity.getUser U find
      let payload ← adminUpdate U check none none (some (chosen.getD generated)) none
      return { call := .updateUser user.id payload salt, action := "Reset password for user"
               temporaryPassword := if chosen.isNone then some generated else none }

/-- A request to the running system: one of the API, or a script of the operator. -/
inductive OperatedCall (U : Unicode) where
  | api (call : ServiceCall U)
  | script (call : ScriptCall)

/-- What comes back. -/
inductive Reply where
  | api (answer : Except AppError UserAnswer)
  | script (printed : Except ScriptError Printed)

/-- Both are clients of the service. -/
def OperatedCall.client (call : OperatedCall U) (find : UserQuery → Option UserRead) :
    Except Reply (ServiceCall U × (Except AppError UserAnswer → Reply)) :=
  match call with
  | .api call => .ok (call, .api)
  | .script call =>
      match call.request U check find with
      | .ok request => .ok (request.call, fun answer => .script (request.print answer))
      | .error error => .error (.script (.error error))

/-- A look-up of the repository, as the scripts read the user. -/
def UserTable.load (table : UserTable) (query : UserQuery) : Option UserRead :=
  -- the columns are not nullable, so that every row that is found can be read
  (table.find U query).bind UserRow.read?

/-- The services on the table of users, with the scripts that call them. -/
def operatedService (passwords : Passwords) (J : Jwt) (ids : IdText)
    (settings : TokenSettings) : Machine UserTable (OperatedCall U) Reply :=
  (userService passwords J ids settings).clients (UserTable.load U)
    (OperatedCall.client U check)

/-- A look-up in the directory. -/
noncomputable def Directory.lookup (directory : Directory) : UserQuery → Option UserRead
  | .byId id => (directory.entry id).map fun account => account.read id
  | .byEmail email => (directory.byAttr .email (U.lower email)).map fun found =>
      found.2.read found.1
  | .byUsername username =>
      (directory.byAttr .username (U.lower username).toList).map fun found =>
        found.2.read found.1

/-- The directory, with the scripts. -/
noncomputable def operatedDirectory (prepare : String → List UInt8) :
    Machine Directory (OperatedCall U) Reply :=
  (directoryService prepare).clients (Directory.lookup U) (OperatedCall.client U check)

end Scripts

/-! ### The scripts on the table and on the directory -/

section Refinement

open UniqueMap

variable {U : Unicode} {B : Bcrypt} {prepare : String → List UInt8} {table : UserTable}
  {directory : Directory}

theorem read?_of_shows {row : UserRow} {account : Account} (h : Shows B prepare row account) :
    row.read? = some (account.read row.id) := by
  simp [UserRow.read?, h.username, h.role, h.email, Account.read]

/-- A look-up by a unique attribute finds the row of the account that has it. -/
theorem load_byAttr (h : RowsShow B prepare table.rows directory) {query : UserQuery}
    {c : AccountKey} {v : c.Value}
    (hQuery : ∀ row account, Shows B prepare row account →
      (query.matches U row = true ↔ account.attr c = some v)) :
    table.load U query = (directory.byAttr c v).map fun found => found.2.read found.1 := by
  rw [UserTable.load]
  cases hFound : table.find U query with
  | none =>
      have hNone : directory.byAttr c v = none := by
        refine byAttr_eq_none_iff.mpr fun id account hEntry hValue => ?_
        obtain ⟨row, hRow, -, hShows⟩ := h.row_of_entry hEntry
        exact List.find?_eq_none.mp hFound row hRow ((hQuery row account hShows).mpr hValue)
      rw [hNone]
      rfl
  | some row =>
      obtain ⟨hRow, hMatch⟩ := find_mem U hFound
      obtain ⟨account, hEntry, hShows⟩ := h.entry row hRow
      have hBy : directory.byAttr c v = some (row.id, account) :=
        byAttr_eq_some_iff.mpr ⟨hEntry, (hQuery row account hShows).mp hMatch⟩
      rw [hBy, Option.bind_some, Option.map_some]
      exact read?_of_shows hShows

/-- The look-ups of the repository are those of the directory. -/
theorem load_eq_lookup (h : RowsShow B prepare table.rows directory) :
    table.load U = directory.lookup U := by
  funext query
  cases query with
  | byId id =>
      rw [UserTable.load, Directory.lookup]
      rcases find_byId_cases (U := U) h id with
        ⟨hFound, hEntry⟩ | ⟨row, account, hFound, -, rfl, hEntry, hShows⟩
      · rw [hFound, hEntry]
        rfl
      · rw [hFound, hEntry, Option.bind_some, Option.map_some]
        exact read?_of_shows hShows
  | byEmail email =>
      refine load_byAttr h fun row account hShows => ?_
      rw [UserQuery.matches, hShows.email, beq_iff_eq]
      rfl
  | byUsername username => exact load_byAttr h fun row account hShows => matches_username_iff hShows

/-- Through the API and with the scripts, the services on the table answer what the directory
answers. -/
theorem operatedService_refines (hB : B.Sound)
    (hPrepare : ∀ password, Bcrypt.IsKey (prepare password))
    (hLower : ∀ value, U.lower (U.lower value) = U.lower value)
    (check : String → Option String) (J : Jwt) (ids : IdText) (settings : TokenSettings) :
    (operatedService U check (bcryptPasswords B prepare) J ids settings).Refines
      (operatedDirectory U check prepare) (RepresentsDirectory B prepare U) := by
  have hLookup : ∀ table directory, RepresentsDirectory B prepare U table directory →
      table.load U = directory.lookup U := by
    intro table directory hRelated
    exact load_eq_lookup hRelated.rows
  exact (userService_refines hB hPrepare hLower J ids settings).clients hLookup
    (OperatedCall.client U check)

/-! ### Who logs in after a script -/

/-- The directory after a request that gives an account the password; the answer is that
account, and the other ones are as before. -/
def SetsPassword (directory : Directory) (chosen : String) (answer : UserAnswer)
    (changed : Directory) : Prop :=
  ∃ id account, answer = .user (account.read id) ∧ changed.entry id = some account ∧
    account.password = chosen ∧ ∀ other, other ≠ id → changed.entry other = directory.entry other

theorem write_eq_ok {id : Nat} {error : AppError} {changed? : Option Account}
    {written : Account × Directory} (h : directory.write id error changed? = .ok written) :
    changed? = some written.1 ∧ written.2.entry id = some written.1 ∧
      ∀ other, other ≠ id → written.2.entry other = directory.entry other := by
  cases changed? with
  | none => cases h
  | some account =>
      rw [Directory.write] at h
      split at h
      · rename_i hFree
        cases h
        exact ⟨rfl, entry_put_self _ hFree, fun other hOther => entry_put_of_ne _ hFree hOther⟩
      · cases h

/-- What the directory does with a new user. -/
theorem createUser_eq_ok {payload : UserAdminCreate U} {id salt : Nat} {answer : UserAnswer}
    {changed : Directory}
    (h : directory.answer prepare (.createUser payload id salt) = .ok (answer, changed)) :
    ∃ account, account = Account.mk (payload.email.map Subtype.val) payload.username.val
        payload.password payload.role ∧ answer = .user (account.read id) ∧
      changed.entry id = some account ∧
      ∀ other, other ≠ id → changed.entry other = directory.entry other := by
  obtain ⟨-, -, hChecked⟩ := bind_eq_ok_iff.mp h
  obtain ⟨-, -, hNew⟩ := bind_eq_ok_iff.mp hChecked
  obtain ⟨written, hWritten, hAnswer⟩ := bind_eq_ok_iff.mp hNew
  obtain ⟨hAccount, hEntry, hOthers⟩ := write_eq_ok hWritten
  cases hAnswer
  exact ⟨written.1, (Option.some.inj hAccount).symm, rfl, hEntry, hOthers⟩

/-- What the directory does with an update of an administrator. -/
theorem updateUser_eq_ok {payload : UserAdminUpdate U} {id salt : Nat} {answer : UserAnswer}
    {changed : Directory}
    (h : directory.answer prepare (.updateUser id payload salt) = .ok (answer, changed)) :
    ∃ old account, Account.adminUpdates old payload = some account ∧
      answer = .user (account.read id) ∧ changed.entry id = some account ∧
      ∀ other, other ≠ id → changed.entry other = directory.entry other := by
  obtain ⟨old, -, hFound⟩ := bind_eq_ok_iff.mp h
  obtain ⟨-, -, hChecked⟩ := bind_eq_ok_iff.mp hFound
  obtain ⟨written, hWritten, hAnswer⟩ := bind_eq_ok_iff.mp hChecked
  obtain ⟨hAccount, hEntry, hOthers⟩ := write_eq_ok hWritten
  cases hAnswer
  exact ⟨old, written.1, hAccount, rfl, hEntry, hOthers⟩

theorem validatePassword_eq_some {value checked : String}
    (h : validatePassword value = some checked) : PasswordOk value ∧ checked = value := by
  rw [validatePassword] at h
  split at h
  · rename_i hOk
    exact ⟨hOk, (Option.some.inj h).symm⟩
  · cases h

/-- An optional field is there after its check exactly if it was there before. -/
theorem mapM_eq_some {α β : Type} {f : α → Option β} {value : Option α} {checked : Option β}
    (h : value.mapM f = some checked) :
    (value = none ∧ checked = none) ∨
      ∃ told result, value = some told ∧ f told = some result ∧ checked = some result := by
  cases value with
  | none => exact .inl ⟨rfl, (Option.some.inj h).symm⟩
  | some told =>
      have hMap : (f told).map some = some checked := h
      obtain ⟨result, hResult, rfl⟩ := Option.map_eq_some_iff.mp hMap
      exact .inr ⟨told, result, rfl, hResult, rfl⟩

theorem adminCreate_eq_ok {check : String → Option String} {email : Option String}
    {username password : String} {role : UserRole} {payload : UserAdminCreate U}
    (h : adminCreate U check email username password role = .ok payload) :
    email.mapM (validateEmail U check) = some payload.email ∧
      validateUsername username.toList = some payload.username ∧
      (PasswordOk password ∧ payload.password = password) ∧ payload.role = role := by
  unfold adminCreate at h
  split at h
  · rename_i hEmail hUsername hPassword
    cases h
    exact ⟨hEmail, hUsername, validatePassword_eq_some hPassword, rfl⟩
  · cases h

theorem adminUpdate_eq_ok {check : String → Option String}
    {email username password : Option String} {role : Option UserRole}
    {payload : UserAdminUpdate U}
    (h : adminUpdate U check email username password role = .ok payload) :
    ∃ address name checked, payload = ⟨Option.map some address, Option.map some name,
        Option.map some checked, role.map some⟩ ∧
      email.mapM (validateEmail U check) = some address ∧
      username.mapM (fun value => validateUsername value.toList) = some name ∧
      password.mapM validatePassword = some checked := by
  unfold adminUpdate at h
  split at h
  · rename_i address name checked hEmail hUsername hPassword
    cases h
    exact ⟨address, name, checked, rfl, hEmail, hUsername, hPassword⟩
  · cases h

theorem sets_of_createUser {check : String → Option String} {email : Option String}
    {username password : String} {role : UserRole} {payload : UserAdminCreate U} {id salt : Nat}
    {answer : UserAnswer} {changed : Directory}
    (hPayload : adminCreate U check email username password role = .ok payload)
    (h : directory.answer prepare (.createUser payload id salt) = .ok (answer, changed)) :
    SetsPassword directory password answer changed := by
  obtain ⟨account, hAccount, hAnswer, hEntry, hOthers⟩ := createUser_eq_ok h
  obtain ⟨-, -, ⟨-, hPassword⟩, -⟩ := adminCreate_eq_ok hPayload
  refine ⟨id, account, hAnswer, hEntry, ?_, hOthers⟩
  rw [hAccount]
  exact hPassword

theorem sets_of_updateUser {check : String → Option String} {email username : Option String}
    {password : String} {role : Option UserRole} {payload : UserAdminUpdate U} {id salt : Nat}
    {answer : UserAnswer} {changed : Directory}
    (hPayload : adminUpdate U check email username (some password) role = .ok payload)
    (h : directory.answer prepare (.updateUser id payload salt) = .ok (answer, changed)) :
    SetsPassword directory password answer changed := by
  obtain ⟨old, account, hAccount, hAnswer, hEntry, hOthers⟩ := updateUser_eq_ok h
  obtain ⟨address, name, checked, rfl, -, -, hChecked⟩ := adminUpdate_eq_ok hPayload
  refine ⟨id, account, hAnswer, hEntry, ?_, hOthers⟩
  rcases mapM_eq_some hChecked with ⟨hNone, -⟩ | ⟨told, result, hTold, hValid, rfl⟩
  · cases hNone
  · cases hTold
    rw [Account.adminUpdates] at hAccount
    split at hAccount
    · cases hAccount
      exact (validatePassword_eq_some hValid).2
    · cases hAccount

/-- A password that is given, or else generated and printed, is the one that was drawn. -/
theorem getD_of_chosen {password : Option String} {generated chosen : String}
    (h : password.or (if password.isNone then some generated else none) = some chosen) :
    password.getD generated = chosen := by
  cases password with
  | none => exact Option.some.inj h
  | some given => exact Option.some.inj h

section Requests

variable {check : String → Option String} {find : UserQuery → Option UserRead}
  {request : ScriptRequest U} {answer : UserAnswer} {changed : Directory} {chosen : String}

/-- `create_user.sh` sets the password of the user it creates, or updates. -/
theorem sets_of_createOrUpdateUser {username : String} {email password : Option String}
    {role : UserRole} {generated : String} {id salt : Nat}
    (hRequest : createOrUpdateUser U check find username email role password generated id salt =
      .ok request)
    (hAnswer : directory.answer prepare request.call = .ok (answer, changed))
    (hChosen : password.or request.temporaryPassword = some chosen) :
    SetsPassword directory chosen answer changed := by
  obtain ⟨existing, -, hPayload⟩ := bind_eq_ok_iff.mp hRequest
  cases existing with
  | none =>
      obtain ⟨payload, hValid, hMade⟩ := bind_eq_ok_iff.mp hPayload
      cases hMade
      rw [getD_of_chosen hChosen] at hValid
      exact sets_of_createUser hValid hAnswer
  | some user =>
      obtain ⟨payload, hValid, hMade⟩ := bind_eq_ok_iff.mp hPayload
      cases hMade
      rw [Option.or_none] at hChosen
      rw [hChosen] at hValid
      exact sets_of_updateUser hValid hAnswer

/-- A script that was told a password, or prints one, sets it. -/
theorem sets_of_request {call : ScriptCall}
    (hRequest : call.request U check find = .ok request)
    (hAnswer : directory.answer prepare request.call = .ok (answer, changed))
    (hChosen : call.password.or request.temporaryPassword = some chosen) :
    SetsPassword directory chosen answer changed := by
  cases call with
  | createUser username email role password passwordEnv generated id salt =>
      exact sets_of_createOrUpdateUser hRequest hAnswer hChosen
  | deleteUser identity yes typed =>
      -- no password is told, and none is printed
      obtain ⟨user, -, hConfirmed⟩ := bind_eq_ok_iff.mp hRequest
      split at hConfirmed
      · cases hConfirmed
        cases hChosen
      · cases hConfirmed
  | resetUserPassword identity password passwordEnv generated salt =>
      obtain ⟨user, -, hPayload⟩ := bind_eq_ok_iff.mp hRequest
      obtain ⟨payload, hValid, hMade⟩ := bind_eq_ok_iff.mp hPayload
      cases hMade
      have hGiven : (passwordFromArgs password passwordEnv).getD generated = chosen :=
        getD_of_chosen hChosen
      rw [hGiven] at hValid
      exact sets_of_updateUser hValid hAnswer

end Requests

/-- What a script that prints something asked of the service. -/
theorem request_of_printed {check : String → Option String} {call : ScriptCall}
    {printed : Printed}
    (h : ((operatedDirectory U check prepare).step directory (.script call)).1 =
      .script (.ok printed)) :
    ∃ request answer, call.request U check (directory.lookup U) = .ok request ∧
      directory.answer prepare request.call = .ok
        (answer, ((operatedDirectory U check prepare).step directory (.script call)).2) ∧
      printed.user = answer.user?.or request.found ∧
      printed.temporaryPassword = request.temporaryPassword := by
  simp only [operatedDirectory, Machine.clients, OperatedCall.client] at h ⊢
  cases hRequest : call.request U check (directory.lookup U) with
  | error error =>
      simp only [hRequest] at h
      cases h
  | ok request =>
      simp only [hRequest, directoryService] at h ⊢
      have hPrinted := Reply.script.inj h
      cases hAnswer : directory.answer prepare request.call with
      | ok answered =>
          rw [hAnswer] at hPrinted
          cases hPrinted
          exact ⟨request, answered.1, rfl, hAnswer, rfl, rfl⟩
      | error error =>
          rw [hAnswer] at hPrinted
          cases hPrinted

/-- Whom the directory signs in. -/
theorem answer_login_eq_ok_iff {now : Nat} {jtis : String × String} {name password : String}
    {id : Nat} {changed : Directory} :
    directory.answer prepare (.login now jtis name password : ServiceCall U) =
        .ok (.signedIn id, changed) ↔
      (∃ account, directory.entry id = some account ∧
        account.attr .username = some (U.lower (U.lower (strip name))).toList ∧
        prepare password = prepare account.password) ∧ changed = directory := by
  constructor
  · intro h
    obtain ⟨found, hFound, hChecked⟩ := bind_eq_ok_iff.mp h
    obtain ⟨done, hRaise, hSigned⟩ := bind_eq_ok_iff.mp hChecked
    have hSame := not_not.mp (raiseIf_eq_ok_iff.mp hRaise)
    cases hSigned
    cases hBy : directory.byAttr .username (U.lower (U.lower (strip name))).toList with
    | none =>
        rw [hBy] at hFound
        cases hFound
    | some entry =>
        rw [hBy] at hFound
        cases hFound
        obtain ⟨hEntry, hName⟩ := byAttr_eq_some_iff.mp hBy
        exact ⟨⟨found.2, hEntry, hName, hSame⟩, rfl⟩
  · intro h
    obtain ⟨⟨account, hEntry, hName, hSame⟩, rfl⟩ := h
    rw [Directory.answer, byAttr_eq_some_iff.mpr ⟨hEntry, hName⟩]
    change (raiseIf (prepare password ≠ prepare account.password) _ >>= _) = _
    rw [raiseIf, if_neg (not_not.mpr hSame)]
    rfl

/-- A login with the name and the password signs the user in. -/
def SignsIn (J : Jwt) (ids : IdText) (U : Unicode) (settings : TokenSettings)
    (passwords : Passwords) (table : UserTable) (name password : String) (id : Nat)
    (now : Nat) (jtis : String × String) : Prop :=
  ∃ pair, login J ids U settings passwords table now jtis name password = .ok pair ∧
    pair.userId = id

/-- The table signs in the users of the accounts with the name and the password. -/
theorem signsIn_iff (hB : B.Sound) (hPrepare : ∀ password, Bcrypt.IsKey (prepare password))
    (hTable : RepresentsDirectory B prepare U table directory) {J : Jwt} {ids : IdText}
    {settings : TokenSettings} {name password : String} {id now : Nat}
    {jtis : String × String} :
    SignsIn J ids U settings (bcryptPasswords B prepare) table name password id now jtis ↔
      ∃ account, directory.entry id = some account ∧
        account.attr .username = some (U.lower (U.lower (strip name))).toList ∧
        prepare password = prepare account.password := by
  have hDirectory : SignsIn J ids U settings (bcryptPasswords B prepare) table name password id
      now jtis ↔ directory.answer prepare (.login now jtis name password : ServiceCall U) =
        .ok (.signedIn id, directory) := by
    rw [SignsIn]
    rcases login_answers hB hPrepare hTable J ids settings now jtis name password with
      ⟨pair, hLogin, hAnswer⟩ | ⟨error, hLogin, hAnswer⟩
    · rw [hLogin, hAnswer]
      constructor
      · intro h
        obtain ⟨other, hPair, rfl⟩ := h
        cases hPair
        rfl
      · intro h
        cases h
        exact ⟨pair, rfl, rfl⟩
    · rw [hLogin, hAnswer]
      constructor
      · intro h
        obtain ⟨other, hPair, -⟩ := h
        cases hPair
      · intro h
        cases h
  rw [hDirectory, answer_login_eq_ok_iff]
  exact and_iff_left rfl

/-- After a script that was told a password or printed one, that is the password of the user
that it printed, and all the others log in as before. -/
theorem signsIn_of_script (hB : B.Sound) (hPrepare : ∀ password, Bcrypt.IsKey (prepare password))
    (hLower : ∀ value, U.lower (U.lower value) = U.lower value) {check : String → Option String}
    {J : Jwt} {ids : IdText} {settings : TokenSettings}
    (hTable : RepresentsDirectory B prepare U table directory) {call : ScriptCall}
    {printed : Printed} {table' : UserTable}
    (hStep : (operatedService U check (bcryptPasswords B prepare) J ids settings).step table
      (.script call) = (.script (.ok printed), table'))
    {chosen : String} (hChosen : call.password.or printed.temporaryPassword = some chosen) :
    ∃ read, printed.user = some read ∧ ∀ name password now jtis,
      (SignsIn J ids U settings (bcryptPasswords B prepare) table' name password read.id now
          jtis ↔
        (U.lower (U.lower (strip name))).toList = read.username.text ∧
          prepare password = prepare chosen) ∧
      ∀ other, other ≠ read.id →
        (SignsIn J ids U settings (bcryptPasswords B prepare) table' name password other now
            jtis ↔
          SignsIn J ids U settings (bcryptPasswords B prepare) table name password other now
            jtis) := by
  have hRefines := operatedService_refines hB hPrepare hLower check J ids settings
  have hAnswer := hRefines.answer table directory (.script call) hTable
  have hNext := hRefines.next table directory (.script call) hTable
  rw [hStep] at hAnswer hNext
  obtain ⟨request, answer, hRequest, hServed, hUser, hTemporary⟩ :=
    request_of_printed hAnswer.symm
  rw [hTemporary] at hChosen
  obtain ⟨id, account, rfl, hEntry, hPassword, hOthers⟩ :=
    sets_of_request hRequest hServed hChosen
  refine ⟨account.read id, hUser, fun name password now jtis => ⟨?_, fun other hOther => ?_⟩⟩
  · rw [signsIn_iff hB hPrepare hNext]
    constructor
    · intro h
      obtain ⟨found, hFound, hName, hSame⟩ := h
      have hSameAccount : some account = some found := hEntry.symm.trans hFound
      cases hSameAccount
      exact ⟨(Option.some.inj hName).symm, hSame.trans (congrArg prepare hPassword)⟩
    · intro h
      obtain ⟨hName, hSame⟩ := h
      exact ⟨account, hEntry, congrArg some hName.symm,
        hSame.trans (congrArg prepare hPassword.symm)⟩
  · rw [signsIn_iff hB hPrepare hNext, signsIn_iff hB hPrepare hTable, hOthers other hOther]

/-- From the empty table on, whatever has been asked through the API and done with the
scripts: after a script that was told a password or printed one, the user that it printed
logs in with exactly this password, and everybody else as before. -/
theorem script_setsPassword (hB : B.Sound)
    (hPrepare : ∀ password, Bcrypt.IsKey (prepare password))
    (hLower : ∀ value, U.lower (U.lower value) = U.lower value) (check : String → Option String)
    (J : Jwt) (ids : IdText) (settings : TokenSettings) (calls : List (OperatedCall U))
    (call : ScriptCall) (printed : Printed) (table' : UserTable)
    (hStep : (operatedService U check (bcryptPasswords B prepare) J ids settings).step
      ((operatedService U check (bcryptPasswords B prepare) J ids settings).run .empty calls).2
      (.script call) = (.script (.ok printed), table'))
    (chosen : String) (hChosen : call.password.or printed.temporaryPassword = some chosen) :
    ∃ read, printed.user = some read ∧ ∀ name password now jtis,
      (SignsIn J ids U settings (bcryptPasswords B prepare) table' name password read.id now
          jtis ↔
        (U.lower (U.lower (strip name))).toList = read.username.text ∧
          prepare password = prepare chosen) ∧
      ∀ other, other ≠ read.id →
        (SignsIn J ids U settings (bcryptPasswords B prepare) table' name password other now
            jtis ↔
          SignsIn J ids U settings (bcryptPasswords B prepare)
            ((operatedService U check (bcryptPasswords B prepare) J ids settings).run .empty
              calls).2 name password other now jtis) := by
  have hEmpty : RepresentsDirectory B prepare U .empty .empty := represents_empty
  have hRun := (operatedService_refines hB hPrepare hLower check J ids settings).run calls hEmpty
  exact signsIn_of_script hB hPrepare hLower hRun.2 hStep hChosen

end Refinement

/-! ### `create_user.sh` -/

/-- The users whom the operator creates, one of them twice. -/
def carolScripts : List (OperatedCall .ascii) :=
  [.script (.createUser "dave" none .admin none (some "") "generated for dave" 3 1),
    .script (.createUser " Carol" none .user (some "correct horse") none "" 7 2)]

/-- A new password for `carol`. -/
def carolReset : ScriptCall :=
  .resetUserPassword (.username "CAROL ") none (some "battery staple") "" 3

/-- The table after it. -/
def carolTable : UserTable :=
  ((operatedService .ascii some (bcryptPasswords .shown firstBytes) Jwt.plain .decimal {}).run
    .empty (carolScripts ++ [.script carolReset])).2

/-- What the script prints. -/
def carolPrinted : Printed :=
  ⟨"Reset password for user", some ⟨7, none, ⟨"carol".toList, carolName_ok⟩, .user⟩, none⟩

theorem script_setsPassword_carolReset :
    SignsIn Jwt.plain .decimal .ascii {} (bcryptPasswords .shown firstBytes) carolTable " Carol "
        "battery staple" 7 100 ("a", "b") ∧
      ¬SignsIn Jwt.plain .decimal .ascii {} (bcryptPasswords .shown firstBytes) carolTable
        "carol" "correct horse" 7 100 ("a", "b") := by
  obtain ⟨read, hUser, hSigns⟩ := script_setsPassword Bcrypt.shown_sound isKey_firstBytes
    Unicode.ascii_lower_lower some Jwt.plain .decimal {} carolScripts carolReset carolPrinted
    carolTable rfl "battery staple" rfl
  cases hUser
  refine ⟨(hSigns _ _ _ _).1.mpr ⟨by decide, rfl⟩, fun hSigned => ?_⟩
  exact absurd ((hSigns _ _ _ _).1.mp hSigned).2 (by decide)

end Users
end DataApi
