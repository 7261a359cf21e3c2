import DataApi.Users.UserTable

/-!
# The user service

The operations of `UserService` as scripts: the look-ups each of them makes, in
order, and the row it writes at the end.  A refused statement becomes a
`ConflictError` where the operation catches the `IntegrityError`; what it does not
catch is an error of the server.
-/

namespace DataApi
namespace Users

open Library Schemas Api

/-- An operation on the table of users. -/
abbrev UserScript := Script UserQuery (Option UserRow) Change Refusal AppError

/-- `hash_password`, with the salt it draws, and `verify_password`. -/
structure Passwords where
  hash : Nat → String → String
  verify : String → String → Bool

/-- Hashes that are the passwords. -/
def plainPasswords : Passwords where
  hash _ password := password
  verify password hashed := password == hashed

/-- `except IntegrityError: raise ConflictError(message)`. -/
def orConflict (message : String) : Refusal → AppError
  | .integrity => conflictError message
  | .stale => internalServerError

/-- A statement whose errors are not caught. -/
def uncaught (_ : Refusal) : AppError := internalServerError

/-- `ConflictError("Email is already registered", code="email_exists")`. -/
def emailExists : AppError := conflictError "Email is already registered" "email_exists"

/-- `ConflictError("Username is already registered", code="username_exists")`. -/
def usernameExists : AppError :=
  conflictError "Username is already registered" "username_exists"

/-- A look-up that raises an error if it finds another user than the current one. -/
def lookupFree (query : UserQuery) (current : Option UserRow) (error : AppError)
    (next : UserScript) : UserScript :=
  .select query fun existing =>
    match existing with
    | some row => if current.map UserRow.id = some row.id then next else .raise error
    | none => next

/-- `_ensure_unique_identity`, from the look-up of the username on. -/
def ensureUniqueUsername (username : Option Username) (current : Option UserRow)
    (next : UserScript) : UserScript :=
  match username with
  | some username =>
      if current.map UserRow.username = some (some username) then next
      else lookupFree (.byUsername (String.ofList username.text)) current usernameExists
        next
  | none => next

/-- `_ensure_unique_identity`. -/
def ensureUniqueIdentity (email : Option String) (username : Option Username)
    (current : Option UserRow) (next : UserScript) : UserScript :=
  match email with
  | some email =>
      if current.map UserRow.email = some (some email) then
        ensureUniqueUsername username current next
      else lookupFree (.byEmail email) current emailExists
        (ensureUniqueUsername username current next)
  | none => ensureUniqueUsername username current next

variable {U : Unicode} (passwords : Passwords)

/-- The `User` that `create_user` adds. -/
def newUser (payload : UserAdminCreate U) (id salt : Nat) : UserRow where
  id := id
  email := payload.email.map Subtype.val
  username := some payload.username.val
  hashedPassword := passwords.hash salt payload.password
  role := some payload.role

/-- `create_user`. -/
def createUser (payload : UserAdminCreate U) (id salt : Nat) : UserScript :=
  ensureUniqueIdentity (payload.email.map Subtype.val) (some payload.username.val) none
    (.write (.insert (newUser passwords payload id salt)) (orConflict "User already exists"))

/-- The attributes that `update_profile` sets. -/
def profileUpdates (current : UserRow) (payload : UserUpdate) : UserRow :=
  match payload.username with
  | some value => { current with username := value.map Subtype.val }
  | none => current

/-- `str(updates["username"])`. -/
def usernameText : Option LowerUsername → String
  | some username => String.ofList username.val.text
  | none => "None"

/-- `update_profile`. -/
def updateProfile (current : UserRow) (payload : UserUpdate) : UserScript :=
  let update : UserScript := .write (.update current (profileUpdates current payload))
    (orConflict "User profile conflicts with existing data")
  match payload.username with
  | some value =>
      if value.map Subtype.val = current.username then update
      else lookupFree (.byUsername (usernameText value)) (some current) usernameExists
        update
  | none => update

/-- The attributes that `update_user` sets. -/
def adminUpdates (user : UserRow) (payload : UserAdminUpdate U) (salt : Nat) :
    UserRow where
  id := user.id
  email := (payload.email.map fun value => value.map Subtype.val).getD user.email
  username := (payload.username.map fun value => value.map Subtype.val).getD user.username
  hashedPassword :=
    match payload.password.join with
    | some password => passwords.hash salt password
    | none => user.hashedPassword
  role := payload.role.getD user.role

/-- `update_user`. -/
def updateUser (id : Nat) (payload : UserAdminUpdate U) (salt : Nat) : UserScript :=
  .select (.byId id) fun found =>
    match found with
    | some user =>
        ensureUniqueIdentity (payload.email.join.map Subtype.val)
          (payload.username.join.map Subtype.val) (some user)
          (.write (.update user (adminUpdates passwords user payload salt))
            (orConflict "User conflicts with existing data"))
    | none => .raise (notFoundError "User")

/-- `delete_account`. -/
def deleteAccount (current : UserRow) : UserScript := .write (.delete current.id) uncaught

/-- `delete_user`. -/
def deleteUser (id : Nat) : UserScript :=
  .select (.byId id) fun found =>
    match found with
    | some user => .write (.delete user.id) uncaught
    | none => .raise (notFoundError "User")

/-- `change_password`. -/
def changePassword (current : UserRow) (payload : ChangePasswordRequest) (salt : Nat) :
    UserScript :=
  if passwords.verify payload.currentPassword current.hashedPassword then
    .write (.update current
      { current with hashedPassword := passwords.hash salt payload.newPassword }) uncaught
  else .raise (authenticationError "Invalid current password")

/-- `get_current_user`, behind the decoding of the token. -/
def currentUser (subject : Nat) (next : UserRow → UserScript) : UserScript :=
  .select (.byId subject) fun found =>
    match found with
    | some user => next user
    | none => .raise (authenticationError "Invalid authentication credentials")

section Ensures

variable {I : UserTable → Prop} {Q : Change → Prop}

theorem ensures_lookupFree {query : UserQuery} {current : Option UserRow}
    {error : AppError} {next : UserScript} (h : next.Ensures (userStore U) I Q) :
    (lookupFree query current error next).Ensures (userStore U) I Q := by
  intro table _
  change Script.Ensures (userStore U) I Q
    (match table.find U query with
      | some row => if current.map UserRow.id = some row.id then next else .raise error
      | none => next)
  split
  · split
    · exact h
    · trivial
  · exact h

/-- The uniqueness check comes to what is behind it, if to anything. -/
theorem ensures_ensureUniqueIdentity {email : Option String} {username : Option Username}
    {current : Option UserRow} {next : UserScript}
    (h : next.Ensures (userStore U) I Q) :
    (ensureUniqueIdentity email username current next).Ensures (userStore U) I Q := by
  have hUsername :
      (ensureUniqueUsername username current next).Ensures (userStore U) I Q := by
    unfold ensureUniqueUsername
    split
    · split
      · exact h
      · exact ensures_lookupFree h
    · exact h
  unfold ensureUniqueIdentity
  split
  · split
    · exact hUsername
    · exact ensures_lookupFree hUsername
  · exact hUsername

/-- A look-up by the key goes on with a row of the table, or raises an error. -/
theorem ensures_select_byId {id : Nat} {next : UserRow → UserScript} {error : AppError}
    (h : ∀ table row, I table → row ∈ table.rows → row.id = id →
      (next row).Ensures (userStore U) I Q) :
    Script.Ensures (userStore U) I Q (.select (.byId id) fun found =>
      match found with
      | some row => next row
      | none => .raise error) := by
  intro table hTable
  change Script.Ensures (userStore U) I Q
    (match table.find U (.byId id) with
      | some row => next row
      | none => .raise error)
  split
  · rename_i row hFound
    obtain ⟨hMem, hId⟩ := (find_byId_iff U).mp hFound
    exact h table row hTable hMem hId
  · trivial

theorem ensures_createUser {payload : UserAdminCreate U} {id salt : Nat}
    (h : Q (.insert (newUser passwords payload id salt))) :
    (createUser passwords payload id salt).Ensures (userStore U) I Q :=
  ensures_ensureUniqueIdentity h

theorem ensures_updateProfile {current : UserRow} {payload : UserUpdate}
    (h : Q (.update current (profileUpdates current payload))) :
    (updateProfile current payload).Ensures (userStore U) I Q := by
  unfold updateProfile
  split
  · split
    · exact h
    · exact ensures_lookupFree h
  · exact h

theorem ensures_updateUser {id salt : Nat} {payload : UserAdminUpdate U}
    (h : ∀ table row, I table → row ∈ table.rows → row.id = id →
      Q (.update row (adminUpdates passwords row payload salt))) :
    (updateUser passwords id payload salt).Ensures (userStore U) I Q := by
  refine ensures_select_byId fun table row hTable hRow hId => ?_
  exact ensures_ensureUniqueIdentity (h table row hTable hRow hId)

theorem ensures_deleteUser {id : Nat} (h : Q (.delete id)) :
    (deleteUser id).Ensures (userStore U) I Q := by
  refine ensures_select_byId fun table row _ _ hId => ?_
  rw [← hId] at h
  exact h

theorem ensures_changePassword {current : UserRow} {payload : ChangePasswordRequest}
    {salt : Nat} (h : ∀ hashed, Q (.update current { current with hashedPassword := hashed })) :
    (changePassword passwords current payload salt).Ensures (userStore U) I Q := by
  unfold changePassword
  split
  · exact h _
  · trivial

end Ensures

end Users
end DataApi
