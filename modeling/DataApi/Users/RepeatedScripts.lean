import DataApi.Users.OperatorScripts

/-!
# `create_user.sh`, once more

The script creates a user or updates the one that is there.  Its look-ups find the user that
an earlier run has made, by the name that both were told, and the update then sets what is set
already: running the script again with its arguments changes nothing that is asked for later,
although it has another password at hand and draws another salt.  The row may change: a new
hash is written, and `updated_at` moves with it.  The times are no part of the model, and the
results are up to them.
-/

namespace DataApi
namespace Users

open Library Schemas Api UniqueMap

section Again

variable {U : Unicode} {B : Bcrypt} {prepare : String → List UInt8}
  {check : String → Option String} {directory changed : Directory} {username : String}
  {email password : Option String} {role : UserRole} {account : Account}

/-- An account as `create_user.sh` was told to make it. -/
structure AsTold (U : Unicode) (check : String → Option String) (username : String)
    (email password : Option String) (role : UserRole) (account : Account) : Prop where
  username : ∃ name, validateUsername username.toList = some name ∧ account.username = name.val
  email : ∀ told ∈ email, ∃ address, validateEmail U check told = some address ∧
    account.email = some address.val
  password : ∀ told ∈ password, PasswordOk told ∧ account.password = told
  role : account.role = role

/-- A new user is as told. -/
theorem asTold_of_adminCreate {generated : String} {payload : UserAdminCreate U}
    (h : adminCreate U check email username (password.getD generated) role = .ok payload) :
    AsTold U check username email password role
      ⟨payload.email.map Subtype.val, payload.username.val, payload.password, payload.role⟩ := by
  obtain ⟨hEmail, hUsername, ⟨hOk, hSame⟩, hRole⟩ := adminCreate_eq_ok h
  refine ⟨⟨payload.username, hUsername, rfl⟩, fun told hTold => ?_, fun told hTold => ?_, hRole⟩
  · rcases mapM_eq_some hEmail with ⟨rfl, -⟩ | ⟨other, address, rfl, hValid, hAddress⟩
    · cases hTold
    · cases hTold
      refine ⟨address, hValid, ?_⟩
      change payload.email.map Subtype.val = some address.val
      rw [hAddress]
      rfl
  · cases hTold
    exact ⟨hOk, hSame⟩

/-- A user is as told after the update. -/
theorem asTold_of_adminUpdate {payload : UserAdminUpdate U} {updated : Account}
    (h : adminUpdate U check email (some username) password (some role) = .ok payload)
    (hUpdated : account.adminUpdates payload = some updated) :
    AsTold U check username email password role updated := by
  obtain ⟨address, checkedName, checked, rfl, hEmail, hUsername, hPassword⟩ :=
    adminUpdate_eq_ok h
  rcases mapM_eq_some hUsername with ⟨hNone, -⟩ | ⟨given, name, hGiven, hName, rfl⟩
  · cases hNone
  cases hGiven
  rw [Account.adminUpdates] at hUpdated
  cases hUpdated
  refine ⟨⟨name, hName, rfl⟩, fun told hTold => ?_, fun told hTold => ?_, rfl⟩
  · rcases mapM_eq_some hEmail with ⟨rfl, -⟩ | ⟨other, result, rfl, hValid, rfl⟩
    · cases hTold
    · cases hTold
      exact ⟨result, hValid, rfl⟩
  · rcases mapM_eq_some hPassword with ⟨rfl, -⟩ | ⟨other, result, rfl, hValid, rfl⟩
    · cases hTold
    · cases hTold
      exact validatePassword_eq_some hValid

/-- An optional field passes its check if the value does. -/
theorem exists_mapM {α β : Type} {f : α → Option β} {P : β → Prop} {value : Option α}
    (h : ∀ told ∈ value, ∃ result, f told = some result ∧ P result) :
    ∃ checked, value.mapM f = some checked ∧ ∀ result ∈ checked, P result := by
  cases value with
  | none => exact ⟨none, rfl, fun result hResult => by cases hResult⟩
  | some told =>
      obtain ⟨result, hResult, hP⟩ := h told rfl
      refine ⟨some result, ?_, fun other hOther => ?_⟩
      · change (f told).map some = _
        rw [hResult]
        rfl
      · cases hOther
        exact hP

/-- Updating an account that is as told changes nothing. -/
theorem adminUpdates_of_asTold (h : AsTold U check username email password role account) :
    ∃ payload, adminUpdate U check email (some username) password (some role) = .ok payload ∧
      account.adminUpdates payload = some account ∧
      (∀ address ∈ payload.email.join, account.email = some address.val) ∧
      ∀ name ∈ payload.username.join, account.username = name.val := by
  obtain ⟨name, hName, hUsername⟩ := h.username
  have hEmail : ∃ address, email.mapM (validateEmail U check) = some address ∧
      ∀ told ∈ address, account.email = some told.val := exists_mapM h.email
  have hPassword : ∃ checked, password.mapM validatePassword = some checked ∧
      ∀ told ∈ checked, account.password = told := by
    refine exists_mapM fun told hTold => ?_
    obtain ⟨hOk, hSame⟩ := h.password told hTold
    exact ⟨told, if_pos hOk, hSame⟩
  obtain ⟨address, hAddress, hSameEmail⟩ := hEmail
  obtain ⟨checked, hChecked, hSamePassword⟩ := hPassword
  refine ⟨⟨address.map some, some (some name), checked.map some, some (some role)⟩, ?_, ?_, ?_, ?_⟩
  · have hMapM : (some username).mapM (fun value => validateUsername value.toList) =
        some (some name) := by
      change (validateUsername username.toList).map some = _
      rw [hName]
      rfl
    rw [adminUpdate, hAddress, hMapM, hChecked]
    rfl
  · have hEmailSame : ((address.map some).map fun value => value.map Subtype.val).getD
        account.email = account.email := by
      cases address with
      | none => rfl
      | some told => exact (hSameEmail told rfl).symm
    have hPasswordSame : (checked.map some).join.getD account.password = account.password := by
      cases checked with
      | none => rfl
      | some told => exact (hSamePassword told rfl).symm
    change some (Account.mk (((address.map some).map fun value => value.map Subtype.val).getD
      account.email) name.val ((checked.map some).join.getD account.password) role) = some account
    rw [hEmailSame, hPasswordSame, ← hUsername, ← h.role]
  · intro other hOther
    cases address with
    | none => cases hOther
    | some told =>
        cases hOther
        exact hSameEmail _ rfl
  · intro other hOther
    cases hOther
    exact hUsername

/-- The existing user is the one who has the email address, if somebody has. -/
theorem getExistingUser_eq_ok {find : UserQuery → Option UserRead} {existing : Option UserRead}
    (h : getExistingUser find username email = .ok existing) :
    ∀ told ∈ email, ∀ found, find (.byEmail told) = some found →
      ∃ user, existing = some user ∧ found.id = user.id := by
  intro told hTold found hFound
  cases hTold
  cases hUsername : find (.byUsername username) with
  | none =>
      simp only [getExistingUser, hUsername, hFound, Except.ok.injEq] at h
      exact ⟨found, h.symm, rfl⟩
  | some named =>
      simp only [getExistingUser, hUsername, hFound] at h
      split at h
      · cases h
      · rename_i hSame
        cases h
        exact ⟨named, rfl, (not_not.mp hSame).symm⟩

/-- A user with the name, and nobody else with the email address. -/
theorem getExistingUser_of_found {find : UserQuery → Option UserRead} {user : UserRead}
    (hUsername : find (.byUsername username) = some user)
    (hEmail : ∀ told ∈ email, ∀ found, find (.byEmail told) = some found → found.id = user.id) :
    getExistingUser find username email = .ok (some user) := by
  cases email with
  | none => exact congrArg Except.ok hUsername
  | some address =>
      cases hFound : find (.byEmail address) with
      | none =>
          simp only [getExistingUser, hUsername, hFound]
          rfl
      | some found =>
          have hSame : user.id = found.id := (hEmail address rfl found hFound).symm
          simp only [getExistingUser, hUsername, hFound]
          rw [if_neg (not_not.mpr hSame)]

/-- What `create_user.sh` leaves: the account that it answers is as told, the other ones are
as before, and none of them had the email address. -/
theorem told_of_createOrUpdateUser {generated : String} {id salt : Nat}
    {request : ScriptRequest U} {answer : UserAnswer}
    (hRequest : createOrUpdateUser U check (directory.lookup U) username email role password
      generated id salt = .ok request)
    (hAnswer : directory.answer prepare request.call = .ok (answer, changed)) :
    ∃ key account, answer = .user (account.read key) ∧ changed.entry key = some account ∧
      AsTold U check username email password role account ∧
      (∀ other, other ≠ key → changed.entry other = directory.entry other) ∧
      ∀ told ∈ email, ∀ found, directory.lookup U (.byEmail told) = some found →
        found.id = key := by
  obtain ⟨existing, hExisting, hPayload⟩ := bind_eq_ok_iff.mp hRequest
  have hFound := getExistingUser_eq_ok hExisting
  cases existing with
  | none =>
      obtain ⟨payload, hValid, hMade⟩ := bind_eq_ok_iff.mp hPayload
      cases hMade
      obtain ⟨account, hAccount, hAnswered, hEntry, hOthers⟩ := createUser_eq_ok hAnswer
      refine ⟨id, account, hAnswered, hEntry, ?_, hOthers, fun told hTold found hSome => ?_⟩
      · rw [hAccount]
        exact asTold_of_adminCreate hValid
      · obtain ⟨user, hUser, -⟩ := hFound told hTold found hSome
        cases hUser
  | some user =>
      obtain ⟨payload, hValid, hMade⟩ := bind_eq_ok_iff.mp hPayload
      cases hMade
      obtain ⟨old, account, hAccount, hAnswered, hEntry, hOthers⟩ := updateUser_eq_ok hAnswer
      refine ⟨user.id, account, hAnswered, hEntry, asTold_of_adminUpdate hValid hAccount, hOthers,
        fun told hTold found hSome => ?_⟩
      obtain ⟨other, hUser, hSame⟩ := hFound told hTold found hSome
      cases hUser
      exact hSame

theorem text_of_validateUsername {value : List Char} {name : LowerUsername}
    (h : validateUsername value = some name) :
    UsernameOk value ∧ name.val.text = normalizeUsername value := by
  unfold validateUsername at h
  split at h
  · rename_i hOk
    rw [Option.some.injEq] at h
    subst h
    refine ⟨hOk, ?_⟩
    dsimp only
  · cases h

/-- The name that `create_user.sh` was told is found as the name of the account. -/
theorem lookup_byUsername_of_asTold (hLower : U.lower username = username) {key : Nat}
    (hEntry : directory.entry key = some account)
    (hTold : AsTold U check username email password role account) :
    directory.lookup U (.byUsername username) = some (account.read key) := by
  obtain ⟨name, hName, hUsername⟩ := hTold.username
  obtain ⟨hOk, hNormal⟩ := text_of_validateUsername hName
  -- the name comes in lower case, so that the schema leaves it as it is
  have hPlain : ∀ c ∈ username.toList, c.isUpper = false := by
    intro c hc
    rw [← hLower] at hc
    exact U.lower_not_upper username c hc
  have hMap : username.toList.map Char.toLower = username.toList.map id :=
    List.map_congr_left fun c hc => Char.toLower_eq_of_not_isUpper (by simp [hPlain c hc])
  have hText : name.val.text = username.toList := by
    rw [hNormal, normalizeUsername_eq hOk, hMap, List.map_id]
  have hAttr : account.attr .username = some (U.lower username).toList := by
    rw [hLower, ← hText]
    exact congrArg (fun found : Username => some found.text) hUsername
  rw [Directory.lookup, byAttr_eq_some_iff.mpr ⟨hEntry, hAttr⟩]
  rfl

/-- An update that changes nothing is answered with the account. -/
theorem answer_updateUser_same {key salt : Nat} (hEntry : directory.entry key = some account)
    {payload : UserAdminUpdate U} (hSame : account.adminUpdates payload = some account)
    (hEmail : ∀ address ∈ payload.email.join, account.email = some address.val)
    (hUsername : ∀ name ∈ payload.username.join, account.username = name.val) :
    directory.answer prepare (.updateUser key payload salt) =
      .ok (.user (account.read key), directory) := by
  have hFreeEmail : ¬directory.Held (some key) .email (payload.email.join.map Subtype.val) := by
    cases hGiven : payload.email.join with
    | none => exact not_held_none _ _
    | some address =>
        have hAttr : account.attr .email = some address.val := hEmail address hGiven
        rw [Option.map_some, ← hAttr]
        exact not_held_of_entry hEntry .email
  have hFreeName : ¬directory.Held (some key) .username
      (payload.username.join.map fun username => username.val.text) := by
    cases hGiven : payload.username.join with
    | none => exact not_held_none _ _
    | some name =>
        have hAttr : account.attr .username = some name.val.text :=
          congrArg (fun found : Username => some found.text) (hUsername name hGiven)
        rw [Option.map_some, ← hAttr]
        exact not_held_of_entry hEntry .username
  have hFree : directory.Free key account := fun c => not_held_of_entry hEntry c
  rw [Directory.answer, Directory.get, hEntry, Directory.ensureUnique, raiseIf,
    if_neg hFreeEmail, raiseIf, if_neg hFreeName]
  change (directory.write key _ (account.adminUpdates payload) >>= _) = _
  rw [hSame, Directory.write, dif_pos hFree, put_of_entry hEntry hFree]
  rfl

/-- `create_user.sh` for an account that is as told already. -/
theorem createOrUpdateUser_again (prepare : String → List UInt8)
    (hLower : U.lower username = username) {key : Nat}
    (hEntry : directory.entry key = some account)
    (hTold : AsTold U check username email password role account)
    (hEmail : ∀ told ∈ email, ∀ found, directory.lookup U (.byEmail told) = some found →
      found.id = key) (generated : String) (id salt : Nat) :
    ∃ request, createOrUpdateUser U check (directory.lookup U) username email role password
        generated id salt = .ok request ∧
      directory.answer prepare request.call = .ok (.user (account.read key), directory) ∧
      request.action = "Updated user" ∧ request.found = none ∧
      request.temporaryPassword = none := by
  obtain ⟨payload, hValid, hSame, hAddress, hName⟩ := adminUpdates_of_asTold hTold
  have hExisting : getExistingUser (directory.lookup U) username email =
      .ok (some (account.read key)) :=
    getExistingUser_of_found (lookup_byUsername_of_asTold hLower hEntry hTold) hEmail
  refine ⟨{ call := .updateUser key payload salt, action := "Updated user" }, ?_,
    answer_updateUser_same hEntry hSame hAddress hName, rfl, rfl, rfl⟩
  rw [createOrUpdateUser, hExisting]
  change (adminUpdate U check email (some username) password (some role) >>= _) = _
  rw [hValid]
  rfl

/-- After `create_user.sh` has ended well, running it again prints the same user and leaves the
directory as it is. -/
theorem createUser_again_directory (hLower : ∀ value, U.lower (U.lower value) = U.lower value)
    {name : String} {address given givenEnv : Option String} {generated : String} {id salt : Nat}
    {printed : Printed}
    (h : ((operatedDirectory U check prepare).step directory (.script
      (.createUser name address role given givenEnv generated id salt))).1 =
        .script (.ok printed)) (generated' : String) (id' salt' : Nat) :
    (operatedDirectory U check prepare).step
        ((operatedDirectory U check prepare).step directory (.script
          (.createUser name address role given givenEnv generated id salt))).2
        (.script (.createUser name address role given givenEnv generated' id' salt')) =
      (.script (.ok ⟨"Updated user", printed.user, none⟩),
        ((operatedDirectory U check prepare).step directory (.script
          (.createUser name address role given givenEnv generated id salt))).2) := by
  obtain ⟨request, answer, hRequest, hAnswer, hUser, -⟩ := request_of_printed h
  generalize ((operatedDirectory U check prepare).step directory (.script
    (.createUser name address role given givenEnv generated id salt))).2 = changed at hAnswer ⊢
  obtain ⟨key, account, rfl, hEntry, hTold, hOthers, hEmail⟩ :=
    told_of_createOrUpdateUser hRequest hAnswer
  -- nobody else has got the email address meanwhile
  have hStill : ∀ told ∈ (givenText address).map (stripLower U), ∀ found,
      changed.lookup U (.byEmail told) = some found → found.id = key := by
    intro told hGiven found hFound
    obtain ⟨⟨other, shown⟩, hBy, rfl⟩ := Option.map_eq_some_iff.mp hFound
    obtain ⟨hShown, hAttr⟩ := byAttr_eq_some_iff.mp hBy
    by_contra hOther
    have hOld : directory.entry other = some shown := (hOthers other hOther).symm.trans hShown
    have hOldBy := byAttr_eq_some_iff.mpr ⟨hOld, hAttr⟩
    exact hOther (hEmail told hGiven (shown.read other) (Option.map_eq_some_iff.mpr
      ⟨(other, shown), hOldBy, rfl⟩))
  obtain ⟨again, hAgain, hSame, hAction, hFoundNone, hTemporary⟩ :=
    createOrUpdateUser_again prepare (hLower (strip name)) hEntry hTold hStill generated' id'
      salt'
  have hRequestAgain : ScriptCall.request U check
      (.createUser name address role given givenEnv generated' id' salt') (changed.lookup U) =
        .ok again := hAgain
  simp only [operatedDirectory, Machine.clients, OperatedCall.client, hRequestAgain,
    directoryService, hSame, Directory.settle, ScriptRequest.print, hAction, hFoundNone,
    hTemporary]
  rw [hUser]
  rfl

/-- From the empty table on, whatever has been asked and done: after `create_user.sh` has ended
well, running it again with the same arguments updates the same user, prints no password, and
leaves a table that nothing asked or done later can tell from the one before, up to the
times. -/
theorem createUser_again (hB : B.Sound) (hPrepare : ∀ password, Bcrypt.IsKey (prepare password))
    (hLower : ∀ value, U.lower (U.lower value) = U.lower value) (check : String → Option String)
    (J : Jwt) (ids : IdText) (settings : TokenSettings) (calls : List (OperatedCall U))
    (name : String) (address given givenEnv : Option String) (role : UserRole)
    (generated : String) (id salt : Nat) (printed : Printed) (table' : UserTable)
    (hStep : (operatedService U check (bcryptPasswords B prepare) J ids settings).step
      ((operatedService U check (bcryptPasswords B prepare) J ids settings).run .empty calls).2
      (.script (.createUser name address role given givenEnv generated id salt)) =
        (.script (.ok printed), table')) (generated' : String) (id' salt' : Nat) :
    ∃ again, (operatedService U check (bcryptPasswords B prepare) J ids settings).step table'
        (.script (.createUser name address role given givenEnv generated' id' salt')) =
          (.script (.ok ⟨"Updated user", printed.user, none⟩), again) ∧
      ∀ later,
        ((operatedService U check (bcryptPasswords B prepare) J ids settings).run again later).1 =
          ((operatedService U check (bcryptPasswords B prepare) J ids settings).run table'
            later).1 := by
  have hRefines := operatedService_refines hB hPrepare hLower check J ids settings
  have hEmpty : RepresentsDirectory B prepare U .empty .empty := represents_empty
  have hBefore := (hRefines.run calls hEmpty).2
  have hPrinted := hRefines.answer _ _
    (.script (.createUser name address role given givenEnv generated id salt)) hBefore
  have hTable := hRefines.next _ _
    (.script (.createUser name address role given givenEnv generated id salt)) hBefore
  rw [hStep] at hPrinted hTable
  have hDirectory := createUser_again_directory hLower hPrinted.symm generated' id' salt'
  have hAnswer := hRefines.answer _ _
    (.script (.createUser name address role given givenEnv generated' id' salt')) hTable
  have hAgain := hRefines.next _ _
    (.script (.createUser name address role given givenEnv generated' id' salt')) hTable
  rw [hDirectory] at hAnswer hAgain
  refine ⟨_, Prod.ext hAnswer rfl, fun later => ?_⟩
  exact (hRefines.run later hAgain).1.trans (hRefines.run later hTable).1.symm

end Again

/-! ### A user without a password -/

theorem daveName_ok : UsernameOk "dave".toList := by
  decide

/-- A run that is told no password. -/
def daveScript (generated : String) (id salt : Nat) : ScriptCall :=
  .createUser "Dave" none .admin none (some "") generated id salt

/-- The table after it. -/
def daveTable : UserTable :=
  ((operatedService .ascii some (bcryptPasswords .shown firstBytes) Jwt.plain .decimal {}).step
    .empty (.script (daveScript "generated for dave" 3 1))).2

/-- The user that it prints. -/
def daveRead : UserRead := ⟨3, none, ⟨"dave".toList, daveName_ok⟩, .admin⟩

theorem createUser_again_dave : ∃ again,
    (operatedService .ascii some (bcryptPasswords .shown firstBytes) Jwt.plain .decimal {}).step
        daveTable (.script (daveScript "generated again" 4 2)) =
      (.script (.ok ⟨"Updated user", some daveRead, none⟩), again) ∧
    ∀ later,
      ((operatedService .ascii some (bcryptPasswords .shown firstBytes) Jwt.plain .decimal
        {}).run again later).1 =
      ((operatedService .ascii some (bcryptPasswords .shown firstBytes) Jwt.plain .decimal
        {}).run daveTable later).1 :=
  createUser_again Bcrypt.shown_sound isKey_firstBytes Unicode.ascii_lower_lower some Jwt.plain
    .decimal {} [] "Dave" none none (some "") .admin "generated for dave" 3 1
    ⟨"Created user", some daveRead, some "generated for dave"⟩ daveTable rfl "generated again" 4 2

end Users
end DataApi
