import DataApi.Library.AnsweringMachine
import DataApi.Library.UniqueMap
import DataApi.Users.PasswordLedger
import DataApi.Users.SessionLifetime
import DataApi.Users.UserSessions

/-!
# The directory of accounts

What the services on the table of users are for: a directory of accounts by their key,
in which usernames and email addresses are unique.  An account has the password that it
was given, and no column of it is null.  Each operation checks what it is asked for
against the other accounts and changes one account, or none.

The services keep the directory in a table of rows with hashes, look texts up in lower
case, and leave it to the constraints of the table to refuse what the look-ups let pass.
Request by request, they answer what the directory answers, up to the times of the rows
(`userService_answers`).
-/

namespace DataApi
namespace Users

open Library Schemas Api

/-- An account. -/
structure Account where
  email : Option String
  username : Username
  password : String
  role : UserRole

/-- The attributes of an account that are unique. -/
inductive AccountKey where
  | email
  | username

/-- The values of an attribute. -/
@[reducible] def AccountKey.Value : AccountKey → Type
  | email => String
  | username => List Char

/-- The value of an attribute, if the account has one. -/
def Account.attr : ∀ c : AccountKey, Account → Option c.Value
  | .email, account => account.email
  | .username, account => some account.username.text

/-- The accounts by their keys. -/
abbrev Directory := UniqueMap Nat Account.attr

/-- `UserRead`, up to the timestamps. -/
structure UserRead where
  id : Nat
  email : Option String
  username : Username
  role : UserRole
  deriving DecidableEq

/-- What the services return. -/
inductive UserAnswer where
  | user (read : UserRead)
  | done
  | signedIn (id : Nat)
  deriving DecidableEq

/-- A request to one of the services; a login comes with what its tokens are made of. -/
inductive ServiceCall (U : Unicode) where
  | createUser (payload : UserAdminCreate U) (id salt : Nat)
  | getUser (id : Nat)
  | updateProfile (subject : Nat) (payload : UserUpdate)
  | changePassword (subject : Nat) (payload : ChangePasswordRequest) (salt : Nat)
  | updateUser (id : Nat) (payload : UserAdminUpdate U) (salt : Nat)
  | deleteAccount (subject : Nat)
  | deleteUser (id : Nat)
  | login (now : Nat) (jtis : String × String) (username password : String)

/-- `get_user`. -/
def getUser (id : Nat) : UserScript :=
  .select (.byId id) fun found =>
    match found with
    | some _ => .finish
    | none => .raise (notFoundError "User")

section Service

variable {U : Unicode} (passwords : Passwords)

/-- The operation of a request; the one of a login is `login`. -/
def ServiceCall.script : ServiceCall U → UserScript
  | .createUser payload id salt => Users.createUser passwords payload id salt
  | .getUser id => Users.getUser id
  | .updateProfile subject payload =>
      currentUser subject fun current => Users.updateProfile current payload
  | .changePassword subject payload salt =>
      currentUser subject fun current => Users.changePassword passwords current payload salt
  | .updateUser id payload salt => Users.updateUser passwords id payload salt
  | .deleteAccount subject =>
      currentUser subject fun current => Users.deleteAccount current
  | .deleteUser id => Users.deleteUser id
  | .login _ _ _ _ => .finish

/-- The user whose row is read back for the answer. -/
def ServiceCall.returned : ServiceCall U → Option Nat
  | .createUser _ id _ => some id
  | .getUser id => some id
  | .updateProfile subject _ => some subject
  | .updateUser id _ _ => some id
  | _ => none

/-- A row as `UserRead` accepts it. -/
def UserRow.read? (row : UserRow) : Option UserRead :=
  match row.username, row.role with
  | some username, some role => some ⟨row.id, row.email, username, role⟩
  | _, _ => none

variable (U) in
/-- The answer of a request that has succeeded. -/
def readBack (table : UserTable) : Option Nat → Except AppError UserAnswer
  | some id => ((table.find U (.byId id)).bind UserRow.read?).elim
      (.error internalServerError) fun read => .ok (.user read)
  | none => .ok .done

variable (U) in
/-- The answer to an operation, and the table after it. -/
def served (table : UserTable) (returned : Option Nat) :
    Except AppError UserTable → Except AppError UserAnswer × UserTable
  | .ok changed => (readBack U changed returned, changed)
  | .error error => (.error error, table)

variable (J : Jwt) (ids : IdText) (settings : TokenSettings)

/-- The services on the table of users, one request after the other. -/
def userService : Machine UserTable (ServiceCall U) (Except AppError UserAnswer) where
  step table call :=
    match call with
    | .login now jtis username password =>
        ((login J ids U settings passwords table now jtis username password).map
          fun pair => .signedIn pair.userId, table)
    | call => served U table call.returned ((call.script passwords).alone (userStore U) table)

end Service

/-! ### The directory as a machine -/

section Directory

/-- The account with the attributes of an administrator's update; `none` where it sets a
name or a role to null. -/
def Account.adminUpdates {U : Unicode} (account : Account) (payload : UserAdminUpdate U) :
    Option Account :=
  match (payload.username.map fun value => value.map Subtype.val).getD (some account.username),
      payload.role.getD (some account.role) with
  | some username, some role => some
      { email := (payload.email.map fun value => value.map Subtype.val).getD account.email
        username := username
        password := payload.password.join.getD account.password
        role := role }
  | _, _ => none

/-- The account with the attributes of a profile update. -/
def Account.profileUpdates (account : Account) (payload : UserUpdate) : Option Account :=
  match payload.username with
  | some value => value.map fun username => { account with username := username.val }
  | none => some account

/-- The account under a key. -/
def Directory.get (directory : Directory) (id : Nat) (error : AppError) :
    Except AppError Account :=
  (directory.entry id).elim (.error error) .ok

/-- The account of the user of a token. -/
def Directory.current (directory : Directory) (subject : Nat) : Except AppError Account :=
  directory.get subject (authenticationError "Invalid authentication credentials")

open Classical in
/-- No other account has the email address, and none has the name. -/
noncomputable def Directory.ensureUnique (directory : Directory) (except : Option Nat)
    (email : Option String) (username : Option (List Char)) : Except AppError Unit := do
  raiseIf (directory.Held except .email email) emailExists
  raiseIf (directory.Held except .username username) usernameExists

open Classical in
/-- Put an account under a key, if it is one and is free. -/
noncomputable def Directory.write (directory : Directory) (id : Nat) (error : AppError) :
    Option Account → Except AppError (Account × Directory)
  | some account =>
      if h : directory.Free id account then .ok (account, directory.put id account h)
      else .error error
  | none => .error error

/-- An account as it is returned. -/
def Account.read (id : Nat) (account : Account) : UserRead :=
  ⟨id, account.email, account.username, account.role⟩

variable {U : Unicode} (prepare : String → List UInt8)

open Classical in
/-- What the directory answers, and the directory after it. -/
noncomputable def Directory.answer (directory : Directory) :
    ServiceCall U → Except AppError (UserAnswer × Directory)
  | .createUser payload id _ => do
      let account : Account := ⟨payload.email.map Subtype.val, payload.username.val,
        payload.password, payload.role⟩
      directory.ensureUnique none account.email (some account.username.text)
      raiseIf (directory.entry id ≠ none) (conflictError "User already exists")
      let written ← directory.write id (conflictError "User already exists") (some account)
      return (.user (written.1.read id), written.2)
  | .getUser id => do
      let account ← directory.get id (notFoundError "User")
      return (.user (account.read id), directory)
  | .updateProfile subject payload => do
      let account ← directory.current subject
      -- a null is looked up as the text that Python makes of it
      directory.ensureUnique (some subject) none
        (payload.username.map fun value => (U.lower (usernameText value)).toList)
      let written ← directory.write subject
        (conflictError "User profile conflicts with existing data")
        (account.profileUpdates payload)
      return (.user (written.1.read subject), written.2)
  | .changePassword subject payload _ => do
      let account ← directory.current subject
      raiseIf (prepare payload.currentPassword ≠ prepare account.password)
        (authenticationError "Invalid current password")
      let written ← directory.write subject internalServerError
        (some { account with password := payload.newPassword })
      return (.done, written.2)
  | .updateUser id payload _ => do
      let account ← directory.get id (notFoundError "User")
      directory.ensureUnique (some id) (payload.email.join.map Subtype.val)
        (payload.username.join.map fun username => username.val.text)
      let written ← directory.write id (conflictError "User conflicts with existing data")
        (account.adminUpdates payload)
      return (.user (written.1.read id), written.2)
  | .deleteAccount subject => do
      let _ ← directory.current subject
      return (.done, directory.erase subject)
  | .deleteUser id => do
      let _ ← directory.get id (notFoundError "User")
      return (.done, directory.erase id)
  | .login _ _ username password => do
      let found ← (directory.byAttr .username (U.lower (U.lower (strip username))).toList).elim
        (.error (authenticationError "Invalid username or password")) .ok
      raiseIf (prepare password ≠ prepare found.2.password)
        (authenticationError "Invalid username or password")
      return (.signedIn found.1, directory)

/-- The answer, and the directory after it: what raises changes nothing. -/
def Directory.settle (directory : Directory) :
    Except AppError (UserAnswer × Directory) → Except AppError UserAnswer × Directory
  | .ok (answer, changed) => (.ok answer, changed)
  | .error error => (.error error, directory)

/-- The directory as a machine. -/
noncomputable def directoryService :
    Machine Directory (ServiceCall U) (Except AppError UserAnswer) where
  step directory call := directory.settle (directory.answer prepare call)

end Directory

/-! ### The services answer like the directory -/

section Refinement

open UniqueMap

variable {U : Unicode} (B : Bcrypt) (prepare : String → List UInt8)

/-- A row of an account. -/
structure Shows (row : UserRow) (account : Account) : Prop where
  email : row.email = account.email
  username : row.username = some account.username
  role : row.role = some account.role
  password : ∃ salt, row.hashedPassword =
    (bcryptPasswords B prepare).hash salt account.password

/-- The rows of the accounts of a directory. -/
structure RowsShow (rows : List UserRow) (directory : Directory) : Prop where
  ids : (rows.map UserRow.id).Nodup
  entry : ∀ row ∈ rows, ∃ account, directory.entry row.id = some account ∧
    Shows B prepare row account
  row : ∀ id account, directory.entry id = some account → ∃ row ∈ rows, row.id = id

/-- A table of the accounts of a directory, with texts in lower case. -/
structure RepresentsDirectory (U : Unicode) (table : UserTable) (directory : Directory) :
    Prop where
  normalized : table.Normalized U
  rows : RowsShow B prepare table.rows directory

variable {B prepare} {rows : List UserRow} {directory : Directory} {row : UserRow}
  {account : Account} {table : UserTable}

theorem RowsShow.nodup (h : RowsShow B prepare rows directory) : rows.Nodup :=
  .of_map _ h.ids

theorem RowsShow.eq_of_id (h : RowsShow B prepare rows directory) {a b : UserRow} (ha : a ∈ rows)
    (hb : b ∈ rows) (hId : a.id = b.id) : a = b :=
  List.inj_on_of_nodup_map h.ids ha hb hId

/-- The row of an account. -/
theorem RowsShow.row_of_entry (h : RowsShow B prepare rows directory) {id : Nat}
    (hEntry : directory.entry id = some account) :
    ∃ row ∈ rows, row.id = id ∧ Shows B prepare row account := by
  obtain ⟨row, hRow, rfl⟩ := h.row id account hEntry
  obtain ⟨shown, hShown, hShows⟩ := h.entry row hRow
  rw [hEntry] at hShown
  cases hShown
  exact ⟨row, hRow, rfl, hShows⟩

/-- Rows of accounts satisfy the constraints. -/
theorem RowsShow.constraints (h : RowsShow B prepare rows directory) : Constraints rows := by
  refine ⟨h.ids, fun row hRow => ?_, fun row hRow => ?_, ?_, ?_⟩
  · obtain ⟨account, -, hShows⟩ := h.entry row hRow
    rw [hShows.username]
    exact Option.some_ne_none _
  · obtain ⟨account, -, hShows⟩ := h.entry row hRow
    rw [hShows.role]
    exact Option.some_ne_none _
  · refine (nodup_filterMap_iff h.nodup).mpr fun a ha b hb username hA hB => ?_
    obtain ⟨x, hX, hShowsA⟩ := h.entry a ha
    obtain ⟨y, hY, hShowsB⟩ := h.entry b hb
    rw [hShowsA.username] at hA
    rw [hShowsB.username] at hB
    cases hA
    exact h.eq_of_id ha hb (directory.unique .username _ _ _ _ x.username.text hX hY rfl
      (congrArg (Option.map Username.text) hB))
  · refine (nodup_filterMap_iff h.nodup).mpr fun a ha b hb email hA hB => ?_
    obtain ⟨x, hX, hShowsA⟩ := h.entry a ha
    obtain ⟨y, hY, hShowsB⟩ := h.entry b hb
    exact h.eq_of_id ha hb (directory.unique .email _ _ _ _ email hX hY
      (hShowsA.email.symm.trans hA) (hShowsB.email.symm.trans hB))

/-- If rows satisfy the constraints, the account of one of them has no attribute of the
account of another one. -/
theorem eq_of_constraints (h : Constraints rows) {a b : UserRow} (ha : a ∈ rows) (hb : b ∈ rows)
    {x y : Account} (hX : Shows B prepare a x) (hY : Shows B prepare b y) {c : AccountKey}
    (hSome : Account.attr c x ≠ none) (hSame : Account.attr c x = Account.attr c y) : a = b := by
  have hNodup : rows.Nodup := .of_map _ h.ids
  cases c with
  | email =>
      obtain ⟨email, hEmail⟩ := Option.ne_none_iff_exists'.mp hSome
      exact (nodup_filterMap_iff hNodup).mp h.emails a ha b hb email (hX.email.trans hEmail)
        (hY.email.trans (hSame.symm.trans hEmail))
  | username =>
      have hText : x.username = y.username := Username.eq_of_text (Option.some.inj hSame)
      exact (nodup_filterMap_iff hNodup).mp h.usernames a ha b hb x.username hX.username
        (hText ▸ hY.username)

/-- The rows with another one are those of the directory with its account. -/
theorem RowsShow.append (h : RowsShow B prepare rows directory)
    (hNew : directory.entry row.id = none) (hShows : Shows B prepare row account)
    (hFree : directory.Free row.id account) :
    RowsShow B prepare (rows ++ [row]) (directory.put row.id account hFree) := by
  have hOther : ∀ old ∈ rows, old.id ≠ row.id := by
    intro old hOld hId
    obtain ⟨shown, hEntry, -⟩ := h.entry old hOld
    rw [hId, hNew] at hEntry
    cases hEntry
  refine ⟨?_, fun old hOld => ?_, fun id shown hEntry => ?_⟩
  · rw [List.map_append, List.nodup_append]
    refine ⟨h.ids, by simp, fun id hId id' hId' => ?_⟩
    obtain ⟨old, hOld, rfl⟩ := List.mem_map.mp hId
    rw [List.map_singleton, List.mem_singleton] at hId'
    rw [hId']
    exact hOther old hOld
  · rcases List.mem_append.mp hOld with hOld | hOld
    · rw [entry_put_of_ne _ hFree (hOther old hOld)]
      exact h.entry old hOld
    · rw [List.mem_singleton.mp hOld, entry_put_self]
      exact ⟨account, rfl, hShows⟩
  · by_cases hId : id = row.id
    · exact ⟨row, by simp, hId.symm⟩
    · rw [entry_put_of_ne _ hFree hId] at hEntry
      obtain ⟨old, hOld, hSame⟩ := h.row id shown hEntry
      exact ⟨old, List.mem_append_left _ hOld, hSame⟩

/-- The rows in which one is rewritten are those of the directory with the account that it
then shows. -/
theorem RowsShow.rewrite (h : RowsShow B prepare rows directory) {old : UserRow} (hOld : old ∈ rows)
    (hId : row.id = old.id) (hShows : Shows B prepare row account)
    (hFree : directory.Free old.id account) :
    RowsShow B prepare (rows.map fun latest => if latest.id = old.id then row else latest)
      (directory.put old.id account hFree) := by
  have hIds : (rows.map fun latest => if latest.id = old.id then row else latest).map UserRow.id =
      rows.map UserRow.id := by
    rw [List.map_map]
    refine List.map_congr_left fun latest _ => ?_
    simp only [Function.comp_apply]
    split
    · rename_i hSame
      exact hId.trans hSame.symm
    · rfl
  refine ⟨hIds ▸ h.ids, fun written hWritten => ?_, fun id shown hEntry => ?_⟩
  · obtain ⟨latest, hLatest, rfl⟩ := List.mem_map.mp hWritten
    split
    · rw [hId, entry_put_self]
      exact ⟨account, rfl, hShows⟩
    · rename_i hOther
      rw [entry_put_of_ne _ hFree hOther]
      exact h.entry latest hLatest
  · have hThere : id ∈ rows.map UserRow.id := by
      by_cases hSame : id = old.id
      · rw [hSame]
        exact List.mem_map_of_mem hOld
      · rw [entry_put_of_ne _ hFree hSame] at hEntry
        obtain ⟨latest, hLatest, rfl⟩ := h.row id shown hEntry
        exact List.mem_map_of_mem hLatest
    rw [← hIds] at hThere
    exact List.mem_map.mp hThere

/-- The rows without one are those of the directory without its account. -/
theorem RowsShow.filter (h : RowsShow B prepare rows directory) (id : Nat) :
    RowsShow B prepare (rows.filter fun row => row.id != id) (directory.erase id) := by
  refine ⟨h.ids.sublist (List.filter_sublist.map _), fun row hRow => ?_,
    fun other shown hEntry => ?_⟩
  · obtain ⟨hOld, hOther⟩ := List.mem_filter.mp hRow
    rw [entry_erase_of_ne _ (by simpa using hOther)]
    exact h.entry row hOld
  · by_cases hSame : other = id
    · rw [hSame, entry_erase_self] at hEntry
      cases hEntry
    · rw [entry_erase_of_ne _ hSame] at hEntry
      obtain ⟨row, hRow, hId⟩ := h.row other shown hEntry
      refine ⟨row, List.mem_filter.mpr ⟨hRow, ?_⟩, hId⟩
      rw [bne_iff_ne, hId]
      exact hSame

/-! ### Look-ups -/

/-- A look-up by the key finds the row of the account, if there is one. -/
theorem find_byId_cases (h : RowsShow B prepare table.rows directory) (id : Nat) :
    (table.find U (.byId id) = none ∧ directory.entry id = none) ∨
      ∃ row account, table.find U (.byId id) = some row ∧ row ∈ table.rows ∧ row.id = id ∧
        directory.entry id = some account ∧ Shows B prepare row account := by
  cases hFound : table.find U (.byId id) with
  | some row =>
      obtain ⟨hRow, rfl⟩ := (find_byId_iff U).mp hFound
      obtain ⟨account, hEntry, hShows⟩ := h.entry row hRow
      exact .inr ⟨row, account, rfl, hRow, rfl, hEntry, hShows⟩
  | none =>
      refine .inl ⟨rfl, ?_⟩
      cases hEntry : directory.entry id with
      | none => rfl
      | some account =>
          obtain ⟨row, hRow, hId⟩ := h.row id account hEntry
          rw [(find_byId_iff U).mpr ⟨hRow, hId⟩] at hFound
          cases hFound

/-- The current user of a uniqueness check has a row in the table. -/
def CurrentIn (table : UserTable) (current : Option UserRow) : Prop :=
  ∀ row ∈ current, row ∈ table.rows

theorem currentIn_none : CurrentIn table none := by
  intro row hRow
  cases hRow

theorem currentIn_some (hRow : row ∈ table.rows) : CurrentIn table (some row) := by
  intro current hCurrent
  cases hCurrent
  exact hRow

open Classical in
/-- A look-up that raises an error if another user is found asks whether the value is
held. -/
theorem lookupFree_alone (h : RowsShow B prepare table.rows directory) {query : UserQuery}
    {c : AccountKey} {v : c.Value}
    (hQuery : ∀ row account, Shows B prepare row account →
      (query.matches U row = true ↔ account.attr c = some v))
    (current : Option UserRow) (error : AppError) (next : UserScript) :
    (lookupFree query current error next).alone (userStore U) table =
      (do
        raiseIf (directory.Held (current.map UserRow.id) c (some v)) error
        next.alone (userStore U) table) := by
  have hAnswer : (userStore U).answer table query = table.find U query := rfl
  rw [lookupFree, Script.alone, hAnswer]
  cases hFound : table.find U query with
  | none =>
      -- nobody has the value
      have hFree : ¬directory.Held (current.map UserRow.id) c (some v) := by
        intro hHeld
        obtain ⟨i, account, -, hEntry, -, hValue⟩ := hHeld
        obtain ⟨row, hRow, -, hShows⟩ := h.row_of_entry hEntry
        exact List.find?_eq_none.mp hFound row hRow ((hQuery row account hShows).mpr hValue)
      rw [raiseIf, if_neg hFree]
      rfl
  | some row =>
      obtain ⟨hRow, hMatch⟩ := find_mem U hFound
      obtain ⟨account, hEntry, hShows⟩ := h.entry row hRow
      have hValue : account.attr c = some v := (hQuery row account hShows).mp hMatch
      by_cases hOwn : current.map UserRow.id = some row.id
      · have hFree : ¬directory.Held (current.map UserRow.id) c (some v) := by
          rw [hOwn, ← hValue]
          exact not_held_of_entry hEntry c
        rw [raiseIf, if_neg hFree]
        dsimp only
        rw [if_pos hOwn]
        rfl
      · have hHeld : directory.Held (current.map UserRow.id) c (some v) :=
          ⟨row.id, account, hOwn, hEntry, Option.some_ne_none v, hValue⟩
        rw [raiseIf, if_pos hHeld]
        dsimp only
        rw [if_neg hOwn]
        rfl

/-- A name that satisfies the pattern, in lower case, is its own lower case. -/
theorem lower_username (username : LowerUsername) :
    U.lower (String.ofList username.val.text) = String.ofList username.val.text := by
  refine U.lower_of_lower _ fun c hc => ?_
  rw [String.toList_ofList] at hc
  have hPlain := List.all_eq_true.mp username.val.ok.2.2 c hc
  constructor
  · rw [isPrefixChar, Bool.or_eq_true, Bool.or_eq_true] at hPlain
    rcases hPlain with (hName | hDot) | hDash
    · exact toNat_lt_of_isNameChar hName
    · rw [beq_iff_eq.mp hDot]
      decide
    · rw [beq_iff_eq.mp hDash]
      decide
  · have hSame : username.val.text.map Char.toLower = username.val.text.map id := by
      rw [List.map_id]
      exact username.property
    have hLower : Char.toLower c = c := List.map_inj_left.mp hSame c hc
    rw [← hLower]
    exact Char.isUpper_toLower_eq_false c

theorem matches_email_iff {email : String} (hLower : U.lower email = email)
    (hShows : Shows B prepare row account) :
    (UserQuery.byEmail email).matches U row = true ↔ account.attr .email = some email := by
  rw [UserQuery.matches, hLower, hShows.email, beq_iff_eq]
  rfl

theorem matches_username_iff {name : String} (hShows : Shows B prepare row account) :
    (UserQuery.byUsername name).matches U row = true ↔
      account.attr .username = some (U.lower name).toList := by
  rw [UserQuery.matches, hShows.username, beq_iff_eq]
  rfl

/-- A value that is not asked for is not held. -/
theorem not_held_none (except : Option Nat) (c : AccountKey) :
    ¬directory.Held except c none := by
  intro hHeld
  obtain ⟨-, -, -, -, hSome, -⟩ := hHeld
  exact hSome rfl

theorem ensureUnique_nothing (except : Option Nat) :
    directory.ensureUnique except none none = .ok () := by
  rw [Directory.ensureUnique, raiseIf, if_neg (not_held_none except .email), raiseIf,
    if_neg (not_held_none except .username)]
  rfl

/-- The attribute of the current user is held by nobody else. -/
theorem not_held_current (h : RowsShow B prepare table.rows directory) {current : Option UserRow}
    (hCurrent : CurrentIn table current) {c : AccountKey} {v : c.Value}
    (hValue : ∃ row, current = some row ∧
      ∀ account, Shows B prepare row account → account.attr c = some v) :
    ¬directory.Held (current.map UserRow.id) c (some v) := by
  obtain ⟨row, rfl, hShown⟩ := hValue
  obtain ⟨account, hEntry, hShows⟩ := h.entry row (hCurrent row rfl)
  rw [← hShown account hShows]
  exact not_held_of_entry hEntry c

open Classical in
theorem ensureUniqueUsername_alone (h : RowsShow B prepare table.rows directory)
    {current : Option UserRow} (hCurrent : CurrentIn table current)
    (username : Option LowerUsername) (next : UserScript) :
    (ensureUniqueUsername (username.map Subtype.val) current next).alone (userStore U) table =
      (do
        raiseIf (directory.Held (current.map UserRow.id) .username
          (username.map fun name => name.val.text)) usernameExists
        next.alone (userStore U) table) := by
  cases username with
  | none =>
      simp only [Option.map_none]
      rw [raiseIf, if_neg (not_held_none _ .username)]
      rfl
  | some name =>
      change Script.alone (userStore U) table
        (if current.map UserRow.username = some (some name.val) then next
          else lookupFree (.byUsername (String.ofList name.val.text)) current usernameExists
            next) = _
      by_cases hOwn : current.map UserRow.username = some (some name.val)
      · have hFree : ¬directory.Held (current.map UserRow.id) .username (some name.val.text) := by
          refine not_held_current h hCurrent ?_
          obtain ⟨row, hRow, hName⟩ := Option.map_eq_some_iff.mp hOwn
          refine ⟨row, hRow, fun account hShows => ?_⟩
          rw [hShows.username] at hName
          exact congrArg (Option.map Username.text) hName
        rw [if_pos hOwn, Option.map_some, raiseIf, if_neg hFree]
        rfl
      · rw [if_neg hOwn]
        refine lookupFree_alone h (fun row account hShows => ?_) current usernameExists next
        rw [matches_username_iff hShows, lower_username, String.toList_ofList]

/-- The uniqueness check of the service is the one of the directory. -/
theorem ensureUniqueIdentity_alone (h : RowsShow B prepare table.rows directory)
    {current : Option UserRow} (hCurrent : CurrentIn table current) {email : Option String}
    (hEmail : ∀ address ∈ email, U.lower address = address) (username : Option LowerUsername)
    (next : UserScript) :
    (ensureUniqueIdentity email (username.map Subtype.val) current next).alone (userStore U)
        table =
      (do
        directory.ensureUnique (current.map UserRow.id) email
          (username.map fun name => name.val.text)
        next.alone (userStore U) table) := by
  have hUsername := ensureUniqueUsername_alone (U := U) h hCurrent username next
  rw [Directory.ensureUnique, bind_assoc]
  cases email with
  | none =>
      rw [raiseIf, if_neg (not_held_none _ .email)]
      exact hUsername
  | some address =>
      change Script.alone (userStore U) table
        (if current.map UserRow.email = some (some address) then
            ensureUniqueUsername (username.map Subtype.val) current next
          else lookupFree (.byEmail address) current emailExists
            (ensureUniqueUsername (username.map Subtype.val) current next)) = _
      by_cases hOwn : current.map UserRow.email = some (some address)
      · have hFree : ¬directory.Held (current.map UserRow.id) .email (some address) := by
          refine not_held_current h hCurrent ?_
          obtain ⟨row, hRow, hAddress⟩ := Option.map_eq_some_iff.mp hOwn
          exact ⟨row, hRow, fun account hShows => hShows.email.symm.trans hAddress⟩
        rw [if_pos hOwn, raiseIf, if_neg hFree]
        exact hUsername
      · rw [if_neg hOwn]
        have hLookup := lookupFree_alone h
          (fun row account hShows => matches_email_iff (hEmail address rfl) hShows) current
          emailExists (ensureUniqueUsername (username.map Subtype.val) current next)
        rw [hLookup, hUsername]

/-! ### Writes -/

/-- An operation did what the directory does: it succeeds with the same answer, read back
from a table of the changed directory, or raises the same error. -/
def Answers (U : Unicode) (B : Bcrypt) (prepare : String → List UInt8) (returned : Option Nat) :
    Except AppError (UserAnswer × Directory) → Except AppError UserTable → Prop
  | .ok (answer, changed), .ok table =>
      readBack U table returned = .ok answer ∧ RepresentsDirectory B prepare U table changed
  | .error error, .error raised => raised = error
  | _, _ => False

/-- Both go on behind the same step. -/
theorem Answers.bind {β : Type} {returned : Option Nat} {x : Except AppError β}
    {f : β → Except AppError (UserAnswer × Directory)} {g : β → Except AppError UserTable}
    (h : ∀ b, x = .ok b → Answers U B prepare returned (f b) (g b)) :
    Answers U B prepare returned (x >>= f) (x >>= g) := by
  cases x with
  | ok b => exact h b rfl
  | error error => exact rfl

/-- The row of an account is read back as the account. -/
theorem readBack_eq (h : RowsShow B prepare table.rows directory) {id : Nat}
    (hEntry : directory.entry id = some account) :
    readBack U table (some id) = .ok (.user (account.read id)) := by
  obtain ⟨row, hRow, rfl, hShows⟩ := h.row_of_entry hEntry
  have hFound : table.find U (.byId row.id) = some row := (find_byId_iff U).mpr ⟨hRow, rfl⟩
  simp [readBack, hFound, UserRow.read?, hShows.username, hShows.role, hShows.email,
    Account.read]

variable {change : Change} {refused : Refusal → AppError} {rows' : List UserRow}

theorem write_alone_of_constraints (hRows : change.rows table.rows = .ok rows')
    (hConstraints : Constraints rows') :
    (Script.write change refused).alone (userStore U) table = .ok ⟨rows', hConstraints⟩ := by
  have hApply : (userStore U).apply change table = .ok ⟨rows', hConstraints⟩ := by
    change change.apply table = _
    simp [Change.apply, hRows, hConstraints]
  rw [Script.alone, hApply]
  rfl

theorem write_alone_of_not_constraints (hRows : change.rows table.rows = .ok rows')
    (hConstraints : ¬Constraints rows') :
    (Script.write change refused).alone (userStore U) table = .error (refused .integrity) := by
  have hApply : (userStore U).apply change table = .error .integrity := by
    change change.apply table = _
    simp [Change.apply, hRows, hConstraints]
  rw [Script.alone, hApply]
  rfl

/-- A statement after which the rows satisfy the constraints exactly if the directory can
take the account, and then are the rows of the directory with it. -/
theorem write_answers (hTable : RepresentsDirectory B prepare U table directory)
    (hRows : change.rows table.rows = .ok rows') (hNormal : change.Normalized U)
    {id : Nat} {changed : Option Account} {returned : Option Nat} (reply : Account → UserAnswer)
    (hShow : ∀ account, changed = some account → ∀ hFree : directory.Free id account,
      RowsShow B prepare rows' (directory.put id account hFree))
    (hFree : Constraints rows' → ∃ account, changed = some account ∧ directory.Free id account)
    (hReply : ∀ account table' hFree,
      RowsShow B prepare table'.rows (directory.put id account hFree) →
        readBack U table' returned = .ok (reply account)) :
    Answers U B prepare returned
      (do
        let written ← directory.write id (refused .integrity) changed
        return (reply written.1, written.2))
      ((Script.write change refused).alone (userStore U) table) := by
  by_cases hConstraints : Constraints rows'
  · obtain ⟨account, rfl, hAccount⟩ := hFree hConstraints
    have hShown := hShow account rfl hAccount
    have hWrite : directory.write id (refused .integrity) (some account) =
        .ok (account, directory.put id account hAccount) := by
      rw [Directory.write, dif_pos hAccount]
    have hApply : change.apply table = .ok ⟨rows', hConstraints⟩ := by
      simp [Change.apply, hRows, hConstraints]
    rw [hWrite, write_alone_of_constraints hRows hConstraints]
    exact And.intro (hReply account ⟨rows', hConstraints⟩ hAccount hShown)
      (RepresentsDirectory.mk (hTable.normalized.apply hNormal hApply) hShown)
  · have hWrite : directory.write id (refused .integrity) changed =
        .error (refused .integrity) := by
      cases changed with
      | none => rfl
      | some account =>
          rw [Directory.write, dif_neg]
          intro hAccount
          exact hConstraints (hShow account rfl hAccount).constraints
    rw [hWrite, write_alone_of_not_constraints hRows hConstraints]
    exact rfl

/-! ### The operations -/

theorem lower_email (hLower : ∀ value, U.lower (U.lower value) = U.lower value)
    (email : Option (Email U)) : ∀ address ∈ email.map Subtype.val, U.lower address = address := by
  intro address hAddress
  obtain ⟨email, -, rfl⟩ := Option.mem_map.mp hAddress
  obtain ⟨value, hValue⟩ := email.property
  rw [hValue]
  exact hLower value

/-- The `INSERT` of a user. -/
theorem insert_answers (hTable : RepresentsDirectory B prepare U table directory)
    (row : UserRow) (account : Account) (hNormal : row.Normalized U)
    (hShows : Shows B prepare row account) (refused : Refusal → AppError) :
    Answers U B prepare (some row.id)
      (do
        raiseIf (directory.entry row.id ≠ none) (refused .integrity)
        let written ← directory.write row.id (refused .integrity) (some account)
        return (.user (written.1.read row.id), written.2))
      ((Script.write (.insert row) refused).alone (userStore U) table) := by
  by_cases hNew : directory.entry row.id = none
  · have hRows : Change.rows table.rows (.insert row) = .ok (table.rows ++ [row]) := rfl
    have hChange : (Change.insert row).Normalized U := hNormal
    rw [raiseIf, if_neg (not_not.mpr hNew)]
    refine write_answers hTable hRows hChange (fun account => .user (account.read row.id))
      ?_ ?_ ?_
    · intro shown hShown hFree
      cases hShown
      exact hTable.rows.append hNew hShows hFree
    · intro hConstraints
      refine ⟨account, rfl, fun c hHeld => ?_⟩
      obtain ⟨id, other, hNe, hEntry, hSome, hSame⟩ := hHeld
      obtain ⟨old, hOld, hId, hOther⟩ := hTable.rows.row_of_entry hEntry
      -- an account with the value would have to be the new row
      have hEq : row = old := eq_of_constraints hConstraints (by simp)
        (List.mem_append_left _ hOld) hShows hOther hSome hSame.symm
      exact hNe (congrArg some ((congrArg UserRow.id hEq).trans hId))
    · intro shown table' hFree hRows
      exact readBack_eq hRows (entry_put_self _ hFree)
  · have hTaken : ¬Constraints (table.rows ++ [row]) := by
      intro hConstraints
      obtain ⟨other, hEntry⟩ := Option.ne_none_iff_exists'.mp hNew
      obtain ⟨old, hOld, hId⟩ := hTable.rows.row row.id other hEntry
      have hIds := hConstraints.ids
      rw [List.map_append, List.nodup_append] at hIds
      exact hIds.2.2 old.id (List.mem_map_of_mem hOld) row.id (by simp) hId
    rw [raiseIf, if_pos hNew, write_alone_of_not_constraints rfl hTaken]
    exact rfl

theorem UserRow.write_self {loaded assigned : UserRow} (hId : assigned.id = loaded.id) :
    UserRow.write loaded assigned loaded = assigned := by
  have hColumns : writeChanged loaded.get assigned.get loaded.get = assigned.get :=
    writeChanged_eq_assigned_iff.mpr fun c hKept => hKept.symm
  obtain ⟨id, email, username, hashedPassword, role⟩ := assigned
  rw [UserRow.write, hColumns, ← hId]
  rfl

/-- The `UPDATE` of a user who has just been loaded: the assigned row is one of the
changed account, or has a null where there must not be one. -/
theorem update_answers (hTable : RepresentsDirectory B prepare U table directory)
    {loaded assigned : UserRow} (hLoaded : loaded ∈ table.rows) (hId : assigned.id = loaded.id)
    (hNormal : assigned.Normalized U) {changed : Option Account}
    (hShows : ∀ account, changed = some account → Shows B prepare assigned account)
    (hNull : changed = none → assigned.username = none ∨ assigned.role = none)
    (refused : Refusal → AppError) {returned : Option Nat} (reply : Account → UserAnswer)
    (hReply : ∀ account table' (hFree : directory.Free loaded.id account),
      RowsShow B prepare table'.rows (directory.put loaded.id account hFree) →
        readBack U table' returned = .ok (reply account)) :
    Answers U B prepare returned
      (do
        let written ← directory.write loaded.id (refused .integrity) changed
        return (reply written.1, written.2))
      ((Script.write (.update loaded assigned) refused).alone (userStore U) table) := by
  have hRows : Change.rows table.rows (.update loaded assigned) =
      .ok (table.rows.map fun latest => if latest.id = loaded.id then assigned else latest) := by
    rw [Change.rows, if_pos (List.mem_map_of_mem hLoaded), Except.ok.injEq]
    refine List.map_congr_left fun latest hLatest => ?_
    split
    · rename_i hSame
      rw [hTable.rows.eq_of_id hLatest hLoaded hSame, UserRow.write_self hId]
    · rfl
  have hWritten : assigned ∈ table.rows.map fun latest =>
      if latest.id = loaded.id then assigned else latest :=
    List.mem_map.mpr ⟨loaded, hLoaded, if_pos rfl⟩
  have hChange : (Change.update loaded assigned).Normalized U := hNormal
  refine write_answers hTable hRows hChange reply ?_ ?_ hReply
  · intro account hAccount hFree
    exact hTable.rows.rewrite hLoaded hId (hShows account hAccount) hFree
  · intro hConstraints
    cases hChanged : changed with
    | none =>
        rcases hNull hChanged with hUsername | hRole
        · exact absurd hUsername (hConstraints.username_not_null assigned hWritten)
        · exact absurd hRole (hConstraints.role_not_null assigned hWritten)
    | some account =>
        refine ⟨account, rfl, fun c hHeld => ?_⟩
        obtain ⟨id, other, hNe, hEntry, hSome, hSame⟩ := hHeld
        obtain ⟨old, hOld, hOldId, hOther⟩ := hTable.rows.row_of_entry hEntry
        have hDifferent : old.id ≠ loaded.id := fun hSameId =>
          hNe (congrArg some (hSameId.symm.trans hOldId))
        have hEq : assigned = old := eq_of_constraints hConstraints hWritten
          (List.mem_map.mpr ⟨old, hOld, if_neg hDifferent⟩) (hShows account hChanged) hOther hSome
          hSame.symm
        exact hDifferent ((congrArg UserRow.id hEq).symm.trans hId)

theorem delete_answers (hTable : RepresentsDirectory B prepare U table directory) (id : Nat)
    (refused : Refusal → AppError) :
    Answers U B prepare none (.ok (.done, directory.erase id))
      ((Script.write (.delete id) refused).alone (userStore U) table) := by
  have hRows := hTable.rows.filter id
  have hChange : (Change.delete id).Normalized U := trivial
  have hApply : (Change.delete id).apply table = .ok ⟨_, hRows.constraints⟩ := by
    simp [Change.apply, Change.rows, hRows.constraints]
  rw [write_alone_of_constraints rfl hRows.constraints]
  exact And.intro rfl (RepresentsDirectory.mk (hTable.normalized.apply hChange hApply) hRows)

theorem createUser_answers (hLower : ∀ value, U.lower (U.lower value) = U.lower value)
    (hTable : RepresentsDirectory B prepare U table directory) (payload : UserAdminCreate U)
    (id salt : Nat) :
    Answers U B prepare (some id) (directory.answer prepare (.createUser payload id salt))
      ((createUser (bcryptPasswords B prepare) payload id salt).alone (userStore U) table) := by
  have hCheck := ensureUniqueIdentity_alone hTable.rows currentIn_none
    (lower_email hLower payload.email) (some payload.username)
    (.write (.insert (newUser (bcryptPasswords B prepare) payload id salt))
      (orConflict "User already exists"))
  change Answers U B prepare (some id) _ (Script.alone (userStore U) table
    (ensureUniqueIdentity (payload.email.map Subtype.val)
      ((some payload.username).map Subtype.val) none _))
  rw [hCheck]
  refine Answers.bind fun _ _ => ?_
  exact insert_answers hTable (newUser (bcryptPasswords B prepare) payload id salt)
    ⟨payload.email.map Subtype.val, payload.username.val, payload.password, payload.role⟩
    (normalized_newUser _ payload id salt) ⟨rfl, rfl, rfl, salt, rfl⟩
    (orConflict "User already exists")

/-- The row that an administrator's update assigns is one of the account with the
update. -/
theorem shows_adminUpdates (hShows : Shows B prepare row account) (payload : UserAdminUpdate U)
    (salt : Nat) {changed : Account} (hChanged : account.adminUpdates payload = some changed) :
    Shows B prepare (adminUpdates (bcryptPasswords B prepare) row payload salt) changed := by
  unfold Account.adminUpdates at hChanged
  split at hChanged
  · rename_i username role hUsername hRole
    cases hChanged
    refine ⟨?_, ?_, ?_, ?_⟩
    · simp only [adminUpdates, hShows.email]
    · simp only [adminUpdates, hShows.username, hUsername]
    · simp only [adminUpdates, hShows.role, hRole]
    · cases hPassword : payload.password.join with
      | some password => exact ⟨salt, by simp [adminUpdates, hPassword]⟩
      | none =>
          obtain ⟨old, hHash⟩ := hShows.password
          exact ⟨old, by simp [adminUpdates, hPassword, hHash]⟩
  · cases hChanged

/-- An update that is none of an account sets the name or the role to null. -/
theorem null_of_adminUpdates (hShows : Shows B prepare row account) (payload : UserAdminUpdate U)
    (salt : Nat) (hChanged : account.adminUpdates payload = none) :
    (adminUpdates (bcryptPasswords B prepare) row payload salt).username = none ∨
      (adminUpdates (bcryptPasswords B prepare) row payload salt).role = none := by
  simp only [adminUpdates, hShows.username, hShows.role]
  unfold Account.adminUpdates at hChanged
  split at hChanged
  · cases hChanged
  · rename_i hNot
    by_contra hBoth
    obtain ⟨hUsername, hRole⟩ := not_or.mp hBoth
    obtain ⟨username, hUsername⟩ := Option.ne_none_iff_exists'.mp hUsername
    obtain ⟨role, hRole⟩ := Option.ne_none_iff_exists'.mp hRole
    exact hNot username role hUsername hRole

theorem updateUser_answers (hLower : ∀ value, U.lower (U.lower value) = U.lower value)
    (hTable : RepresentsDirectory B prepare U table directory) (id : Nat)
    (payload : UserAdminUpdate U) (salt : Nat) :
    Answers U B prepare (some id) (directory.answer prepare (.updateUser id payload salt))
      ((updateUser (bcryptPasswords B prepare) id payload salt).alone (userStore U) table) := by
  have hAnswer : (userStore U).answer table (.byId id) = table.find U (.byId id) := rfl
  rw [updateUser, Script.alone, hAnswer, Directory.answer, Directory.get]
  rcases find_byId_cases (U := U) hTable.rows id with
    ⟨hFound, hEntry⟩ | ⟨row, account, hFound, hRow, hId, hEntry, hShows⟩
  · rw [hFound, hEntry]
    exact rfl
  · rw [hFound, hEntry]
    dsimp only
    rw [ensureUniqueIdentity_alone hTable.rows (currentIn_some hRow)
      (lower_email hLower payload.email.join)]
    subst hId
    change Answers U B prepare (some row.id) (directory.ensureUnique (some row.id) _ _ >>= _)
      (directory.ensureUnique (some row.id) _ _ >>= _)
    refine Answers.bind fun _ _ => ?_
    have hSameId : (adminUpdates (bcryptPasswords B prepare) row payload salt).id = row.id := rfl
    exact update_answers hTable hRow hSameId
      ((hTable.normalized row hRow).adminUpdates _ payload salt)
      (fun changed hChanged => shows_adminUpdates hShows payload salt hChanged)
      (fun hNone => null_of_adminUpdates hShows payload salt hNone)
      (orConflict "User conflicts with existing data")
      (fun account => .user (account.read row.id))
      (fun changed table' hFree hRows => readBack_eq hRows (entry_put_self _ hFree))

theorem deleteUser_answers (hTable : RepresentsDirectory B prepare U table directory) (id : Nat) :
    Answers U B prepare none (directory.answer prepare (.deleteUser id : ServiceCall U))
      ((deleteUser id).alone (userStore U) table) := by
  have hAnswer : (userStore U).answer table (.byId id) = table.find U (.byId id) := rfl
  rw [deleteUser, Script.alone, hAnswer, Directory.answer, Directory.get]
  rcases find_byId_cases (U := U) hTable.rows id with
    ⟨hFound, hEntry⟩ | ⟨row, account, hFound, -, hId, hEntry, -⟩
  · rw [hFound, hEntry]
    exact rfl
  · rw [hFound, hEntry]
    subst hId
    exact delete_answers hTable row.id uncaught

theorem getUser_answers (hTable : RepresentsDirectory B prepare U table directory) (id : Nat) :
    Answers U B prepare (some id) (directory.answer prepare (.getUser id : ServiceCall U))
      ((getUser id).alone (userStore U) table) := by
  have hAnswer : (userStore U).answer table (.byId id) = table.find U (.byId id) := rfl
  rw [getUser, Script.alone, hAnswer, Directory.answer, Directory.get]
  rcases find_byId_cases (U := U) hTable.rows id with
    ⟨hFound, hEntry⟩ | ⟨row, account, hFound, -, -, hEntry, -⟩
  · rw [hFound, hEntry]
    exact rfl
  · rw [hFound, hEntry]
    exact And.intro (readBack_eq hTable.rows hEntry) hTable

/-- What a request with a token does, for the account of its user if there is one. -/
theorem currentUser_answers (hTable : RepresentsDirectory B prepare U table directory)
    {subject : Nat} {returned : Option Nat} {next : UserRow → UserScript}
    {next' : Account → Except AppError (UserAnswer × Directory)}
    (h : ∀ row account, row ∈ table.rows → row.id = subject →
      directory.entry subject = some account → Shows B prepare row account →
        Answers U B prepare returned (next' account) ((next row).alone (userStore U) table)) :
    Answers U B prepare returned (directory.current subject >>= next')
      ((currentUser subject next).alone (userStore U) table) := by
  have hAnswer : (userStore U).answer table (.byId subject) = table.find U (.byId subject) := rfl
  rw [currentUser, Script.alone, hAnswer, Directory.current, Directory.get]
  rcases find_byId_cases (U := U) hTable.rows subject with
    ⟨hFound, hEntry⟩ | ⟨row, account, hFound, hRow, hId, hEntry, hShows⟩
  · rw [hFound, hEntry]
    exact rfl
  · rw [hFound, hEntry]
    exact h row account hRow hId hEntry hShows

theorem deleteAccount_answers (hTable : RepresentsDirectory B prepare U table directory)
    (subject : Nat) :
    Answers U B prepare none (directory.answer prepare (.deleteAccount subject : ServiceCall U))
      ((currentUser subject fun current => deleteAccount current).alone (userStore U) table) := by
  refine currentUser_answers hTable fun row account _ hId _ _ => ?_
  subst hId
  exact delete_answers hTable row.id uncaught

theorem changePassword_answers (hB : B.Sound)
    (hPrepare : ∀ password, Bcrypt.IsKey (prepare password))
    (hTable : RepresentsDirectory B prepare U table directory) (subject : Nat)
    (payload : ChangePasswordRequest) (salt : Nat) :
    Answers U B prepare none
      (directory.answer prepare (.changePassword subject payload salt : ServiceCall U))
      ((currentUser subject fun current =>
        changePassword (bcryptPasswords B prepare) current payload salt).alone (userStore U)
          table) := by
  refine currentUser_answers hTable fun row account hRow hId _ hShows => ?_
  obtain ⟨old, hHash⟩ := hShows.password
  have hVerify : (bcryptPasswords B prepare).verify payload.currentPassword row.hashedPassword =
      true ↔ prepare payload.currentPassword = prepare account.password := by
    rw [hHash]
    exact hB.checkpw_hashpw old _ _ (hPrepare _) (hPrepare _)
  by_cases hSame : prepare payload.currentPassword = prepare account.password
  · rw [changePassword, if_pos (hVerify.mpr hSame), raiseIf, if_neg (not_not.mpr hSame)]
    have hRowId : ({ row with hashedPassword :=
        (bcryptPasswords B prepare).hash salt payload.newPassword } : UserRow).id = row.id := rfl
    have hNormal := hTable.normalized row hRow
    have hShown : ∀ changed, some { account with password := payload.newPassword } = some changed →
        Shows B prepare { row with hashedPassword :=
          (bcryptPasswords B prepare).hash salt payload.newPassword } changed := by
      intro changed hChanged
      cases hChanged
      exact ⟨hShows.email, hShows.username, hShows.role, salt, rfl⟩
    subst hId
    exact update_answers hTable hRow hRowId ⟨hNormal.username, hNormal.email⟩ hShown
      (fun h => by cases h) uncaught (fun _ => .done) (fun _ _ _ _ => rfl)
  · rw [changePassword, if_neg fun h => hSame (hVerify.mp h), raiseIf, if_pos hSame]
    exact rfl

/-- The look-up in front of a profile update. -/
theorem profileCheck_alone (hTable : RepresentsDirectory B prepare U table directory)
    (hRow : row ∈ table.rows) (hShows : Shows B prepare row account) (payload : UserUpdate) :
    (updateProfile row payload).alone (userStore U) table =
      (do
        directory.ensureUnique (some row.id) none
          (payload.username.map fun value => (U.lower (usernameText value)).toList)
        (Script.write (.update row (profileUpdates row payload))
          (orConflict "User profile conflicts with existing data")).alone (userStore U) table) := by
  rw [updateProfile]
  cases hPayload : payload.username with
  | none =>
      rw [Option.map_none, ensureUnique_nothing]
      rfl
  | some value =>
      rw [Option.map_some, Directory.ensureUnique, raiseIf, if_neg (not_held_none _ .email)]
      dsimp only
      by_cases hOwn : value.map Subtype.val = row.username
      · obtain ⟨name, rfl, hName⟩ : ∃ name : LowerUsername, value = some name ∧
            name.val = account.username := by
          rw [hShows.username] at hOwn
          exact Option.map_eq_some_iff.mp hOwn
        obtain ⟨shown, hEntry, hShown⟩ := hTable.rows.entry row hRow
        have hFree : ¬directory.Held (some row.id) .username
            (some (U.lower (usernameText (some name))).toList) := by
          rw [usernameText, lower_username, String.toList_ofList]
          refine not_held_current hTable.rows (currentIn_some hRow)
            ⟨row, rfl, fun other hOther => ?_⟩
          have hSame : other.username = account.username :=
            Option.some.inj (hOther.username.symm.trans hShows.username)
          change some other.username.text = some name.val.text
          rw [hSame, hName]
        rw [if_pos hOwn, raiseIf, if_neg hFree]
        rfl
      · rw [if_neg hOwn]
        exact lookupFree_alone hTable.rows
          (fun other shown hShown => matches_username_iff hShown) (some row) usernameExists _

theorem updateProfile_answers (hTable : RepresentsDirectory B prepare U table directory)
    (subject : Nat) (payload : UserUpdate) :
    Answers U B prepare (some subject)
      (directory.answer prepare (.updateProfile subject payload : ServiceCall U))
      ((currentUser subject fun current => updateProfile current payload).alone (userStore U)
        table) := by
  refine currentUser_answers hTable fun row account hRow hId _ hShows => ?_
  rw [profileCheck_alone hTable hRow hShows payload]
  subst hId
  refine Answers.bind fun _ _ => ?_
  have hRowId : (profileUpdates row payload).id = row.id := by
    unfold profileUpdates
    split <;> rfl
  refine update_answers hTable hRow hRowId ((hTable.normalized row hRow).profileUpdates payload)
    ?_ ?_ (orConflict "User profile conflicts with existing data")
    (fun account => .user (account.read row.id))
    (fun changed table' hFree hRows => readBack_eq hRows (entry_put_self _ hFree))
  · intro changed hChanged
    cases hPayload : payload.username with
    | none =>
        simp only [Account.profileUpdates, hPayload, Option.some.injEq] at hChanged
        subst hChanged
        simp only [profileUpdates, hPayload]
        exact hShows
    | some value =>
        simp only [Account.profileUpdates, hPayload, Option.map_eq_some_iff] at hChanged
        obtain ⟨name, rfl, rfl⟩ := hChanged
        simp only [profileUpdates, hPayload]
        exact ⟨hShows.email, rfl, hShows.role, hShows.password⟩
  · intro hNone
    cases hPayload : payload.username with
    | none =>
        simp only [Account.profileUpdates, hPayload] at hNone
        cases hNone
    | some value =>
        simp only [Account.profileUpdates, hPayload, Option.map_eq_none_iff] at hNone
        simp only [profileUpdates, hPayload, hNone, Option.map_none, true_or]

/-- A login finds the account of the name, and compares the passwords. -/
theorem login_answers (hB : B.Sound) (hPrepare : ∀ password, Bcrypt.IsKey (prepare password))
    (hTable : RepresentsDirectory B prepare U table directory) (J : Jwt) (ids : IdText)
    (settings : TokenSettings) (now : Nat) (jtis : String × String) (username password : String) :
    (∃ pair, login J ids U settings (bcryptPasswords B prepare) table now jtis username password =
        .ok pair ∧
      directory.answer prepare (.login now jtis username password : ServiceCall U) =
        .ok (.signedIn pair.userId, directory)) ∨
      ∃ error, login J ids U settings (bcryptPasswords B prepare) table now jtis username password =
          .error error ∧
        directory.answer prepare (.login now jtis username password : ServiceCall U) =
          .error error := by
  unfold login
  rw [Directory.answer]
  cases hFound : table.find U (.byUsername (U.lower (strip username))) with
  | none =>
      have hNone :
          directory.byAttr .username (U.lower (U.lower (strip username))).toList = none := by
        refine byAttr_eq_none_iff.mpr fun id account hEntry hName => ?_
        obtain ⟨row, hRow, -, hShows⟩ := hTable.rows.row_of_entry hEntry
        exact List.find?_eq_none.mp hFound row hRow ((matches_username_iff hShows).mpr hName)
      rw [hNone]
      exact .inr ⟨_, rfl, rfl⟩
  | some row =>
      obtain ⟨hRow, hMatch⟩ := find_mem U hFound
      obtain ⟨account, hEntry, hShows⟩ := hTable.rows.entry row hRow
      have hByName : directory.byAttr .username (U.lower (U.lower (strip username))).toList =
          some (row.id, account) :=
        byAttr_eq_some_iff.mpr ⟨hEntry, (matches_username_iff hShows).mp hMatch⟩
      obtain ⟨salt, hHash⟩ := hShows.password
      have hVerify : (bcryptPasswords B prepare).verify password row.hashedPassword = true ↔
          prepare password = prepare account.password := by
        rw [hHash]
        exact hB.checkpw_hashpw salt _ _ (hPrepare _) (hPrepare _)
      rw [hByName]
      dsimp only
      by_cases hSame : prepare password = prepare account.password
      · obtain ⟨pair, hPair, hOwner⟩ := createTokenPair_ok J ids settings hRow now jtis
        refine .inl ⟨pair, ?_, ?_⟩
        · rw [if_pos (hVerify.mpr hSame), hPair]
        · change (raiseIf (prepare password ≠ prepare account.password) _ >>= _) = _
          rw [raiseIf, if_neg (not_not.mpr hSame), hOwner]
          rfl
      · refine .inr ⟨authenticationError "Invalid username or password", ?_, ?_⟩
        · rw [if_neg fun h => hSame (hVerify.mp h)]
        · change (raiseIf (prepare password ≠ prepare account.password) _ >>= _) = _
          rw [raiseIf, if_pos hSame]
          rfl

/-- Each operation answers like the directory. -/
theorem script_answers (hB : B.Sound) (hPrepare : ∀ password, Bcrypt.IsKey (prepare password))
    (hLower : ∀ value, U.lower (U.lower value) = U.lower value)
    (hTable : RepresentsDirectory B prepare U table directory) (call : ServiceCall U)
    (hCall : ∀ now jtis username password, call ≠ .login now jtis username password) :
    Answers U B prepare call.returned (directory.answer prepare call)
      ((call.script (bcryptPasswords B prepare)).alone (userStore U) table) := by
  cases call with
  | createUser payload id salt => exact createUser_answers hLower hTable payload id salt
  | getUser id => exact getUser_answers hTable id
  | updateProfile subject payload => exact updateProfile_answers hTable subject payload
  | changePassword subject payload salt =>
      exact changePassword_answers hB hPrepare hTable subject payload salt
  | updateUser id payload salt => exact updateUser_answers hLower hTable id payload salt
  | deleteAccount subject => exact deleteAccount_answers hTable subject
  | deleteUser id => exact deleteUser_answers hTable id
  | login now jtis username password => exact absurd rfl (hCall now jtis username password)

/-- Operations that answer alike leave a table of the directory. -/
theorem Answers.served (hTable : RepresentsDirectory B prepare U table directory)
    {returned : Option Nat} {x : Except AppError (UserAnswer × Directory)}
    {y : Except AppError UserTable} (h : Answers U B prepare returned x y) :
    (served U table returned y).1 = (directory.settle x).1 ∧
      RepresentsDirectory B prepare U (Users.served U table returned y).2
        (directory.settle x).2 := by
  cases x with
  | ok answered =>
      cases y with
      | ok changed => exact h
      | error raised => exact h.elim
  | error error =>
      cases y with
      | ok changed => exact h.elim
      | error raised => exact ⟨congrArg Except.error h, hTable⟩

/-- Request by request, the services on the table answer what the directory answers. -/
theorem userService_refines (hB : B.Sound) (hPrepare : ∀ password, Bcrypt.IsKey (prepare password))
    (hLower : ∀ value, U.lower (U.lower value) = U.lower value) (J : Jwt) (ids : IdText)
    (settings : TokenSettings) :
    (userService (U := U) (bcryptPasswords B prepare) J ids settings).Refines
      (directoryService prepare) (RepresentsDirectory B prepare U) := by
  have hStep : ∀ table directory (call : ServiceCall U),
      RepresentsDirectory B prepare U table directory →
        ((userService (bcryptPasswords B prepare) J ids settings).step table call).1 =
            ((directoryService prepare).step directory call).1 ∧
          RepresentsDirectory B prepare U
            ((userService (bcryptPasswords B prepare) J ids settings).step table call).2
            ((directoryService prepare).step directory call).2 := by
    intro table directory call hTable
    have hScript : (∀ now jtis username password, call ≠ .login now jtis username password) →
        _ := fun hCall => (script_answers hB hPrepare hLower hTable call hCall).served hTable
    cases call with
    | login now jtis username password =>
        rcases login_answers hB hPrepare hTable J ids settings now jtis username password with
          ⟨pair, hLogin, hAnswer⟩ | ⟨error, hLogin, hAnswer⟩
        · simp only [userService, directoryService, hLogin, hAnswer]
          exact ⟨rfl, hTable⟩
        · simp only [userService, directoryService, hLogin, hAnswer]
          exact ⟨rfl, hTable⟩
    | _ => exact hScript fun _ _ _ _ h => by cases h
  exact ⟨fun table directory call hTable => (hStep table directory call hTable).1,
    fun table directory call hTable => (hStep table directory call hTable).2⟩

/-- Whatever is asked of the services, in any order: from a table of a directory on, they
answer every request as the directory does, errors included and up to the times of the
rows, and leave a table of the directory that is left. -/
theorem userService_answers (hB : B.Sound) (hPrepare : ∀ password, Bcrypt.IsKey (prepare password))
    (hLower : ∀ value, U.lower (U.lower value) = U.lower value) (J : Jwt) (ids : IdText)
    (settings : TokenSettings) (table : UserTable) (directory : Directory)
    (hTable : RepresentsDirectory B prepare U table directory) (calls : List (ServiceCall U)) :
    ((userService (bcryptPasswords B prepare) J ids settings).run table calls).1 =
        ((directoryService prepare).run directory calls).1 ∧
      RepresentsDirectory B prepare U
        ((userService (bcryptPasswords B prepare) J ids settings).run table calls).2
        ((directoryService prepare).run directory calls).2 :=
  (userService_refines hB hPrepare hLower J ids settings).run calls hTable

/-- The empty table is one of the empty directory. -/
theorem represents_empty : RepresentsDirectory B prepare U .empty .empty := by
  refine ⟨fun row hRow => ?_, .nil, fun row hRow => ?_, fun id account hEntry => ?_⟩
  · cases hRow
  · cases hRow
  · cases hEntry

/-- A request that changes the table is one of the runs of the sessions. -/
theorem userService_run (passwords : Passwords) (J : Jwt) (ids : IdText)
    (settings : TokenSettings) (table : UserTable) (call : ServiceCall U)
    (hCall : ∀ now jtis username password, call ≠ .login now jtis username password) :
    ∃ events s, (sessionSystem (userStore U) table fun _ => call.script passwords).runUnder
        (fun _ _ => True) ⟨table, fun _ => .running (call.script passwords)⟩ events = some s ∧
      s.committed = ((userService passwords J ids settings).step table call).2 := by
  obtain ⟨events, s, hRun, hEnds, -⟩ := alone_run (fun _ => call.script passwords) 0
    (call.script passwords) ⟨table, fun _ => .running (call.script passwords)⟩ rfl
  refine ⟨events, s, hRun, ?_⟩
  have hStep : (userService passwords J ids settings).step table call =
      served U table call.returned ((call.script passwords).alone (userStore U) table) := by
    cases call with
    | login now jtis username password => exact absurd rfl (hCall now jtis username password)
    | _ => rfl
  rw [hStep]
  cases hAlone : (call.script passwords).alone (userStore U) table with
  | ok changed =>
      rw [hAlone] at hEnds
      exact hEnds.1
  | error error =>
      rw [hAlone] at hEnds
      exact hEnds.1

end Refinement

/-! ### A name that is taken, and a new password -/

theorem carolUsername_isLower : Username.IsLower ⟨"carol".toList, carolName_ok⟩ := by
  decide

/-- The username `carol`. -/
def carolUsername : LowerUsername := ⟨_, carolUsername_isLower⟩

/-- `carol` is created twice, changes her password, and logs in with the old and the new
one. -/
def carolCalls : List (ServiceCall .ascii) :=
  [.createUser { username := carolUsername, password := "correct horse" } 7 1,
    .createUser { username := carolUsername, password := "battery staple" } 8 2,
    .changePassword 7 ⟨"correct horse", "incorrect horse"⟩ 3,
    .login 100 ("a", "b") " Carol " "correct horse",
    .login 100 ("a", "b") " Carol " "incorrect horse"]

theorem userService_answers_carolCalls :
    ((directoryService firstBytes).run .empty carolCalls).1 =
      [.ok (.user ⟨7, none, ⟨"carol".toList, carolName_ok⟩, .user⟩), .error usernameExists,
        .ok .done, .error (authenticationError "Invalid username or password"),
        .ok (.signedIn 7)] := by
  rw [← (userService_answers Bcrypt.shown_sound isKey_firstBytes Unicode.ascii_lower_lower
    Jwt.plain .decimal {} .empty .empty represents_empty carolCalls).1]
  rfl

end Users
end DataApi
