import DataApi.Library.CommitOrder
import DataApi.Users.SelfService
import DataApi.Users.Tokens

/-!
# Which password logs in

Only hashes of passwords are stored, and each hash is written by a request that may
have loaded the row long before.  The ledger of a run is the abstract account of the
same thing, with passwords instead of hashes: every request that gives a user a
password enters it when it commits, and the latest entry counts.

`login` agrees with the ledger in every run (`login_iff_ledger`).  What carries the proof
is that each request draws a salt of its own: the `UPDATE` leaves out a column whose
value is the loaded one, and a fresh salt makes sure that a hash is never left out.
-/

namespace DataApi
namespace Users

open Library Schemas Api

/-- `bcrypt`: `hashpw` of some bytes under a salt, and `checkpw`. -/
structure Bcrypt where
  hashpw : Nat → List UInt8 → String
  checkpw : List UInt8 → String → Bool

/-- Bytes that are a key as a whole: up to 72 of them, and none of them `NUL`, at which
`bcrypt` starts over. -/
def Bcrypt.IsKey (bytes : List UInt8) : Prop := bytes.length ≤ 72 ∧ 0 ∉ bytes

/-- What the library promises: keys are compared as a whole, and the salt can be read off
a hash. -/
structure Bcrypt.Sound (B : Bcrypt) : Prop where
  checkpw_hashpw : ∀ salt given hashed, Bcrypt.IsKey given → Bcrypt.IsKey hashed →
    (B.checkpw given (B.hashpw salt hashed) = true ↔ given = hashed)
  salt_eq : ∀ salt salt' hashed hashed',
    B.hashpw salt hashed = B.hashpw salt' hashed' → salt = salt'

/-- `hash_password` and `verify_password`, over `_prepare_password`. -/
def bcryptPasswords (B : Bcrypt) (prepare : String → List UInt8) : Passwords where
  hash salt password := B.hashpw salt (prepare password)
  verify password hashed := B.checkpw (prepare password) hashed

section Ledger

variable {U : Unicode} (parseId : List Char → Option Nat) (base : ApiV1Prefix)

/-- The user to whom a request gives a password, and the password: a new user, another
one on behalf of an administrator, or the current one. -/
def ApiRequest.grant (call : ApiRequest U) : Option (Nat × String) :=
  match appDispatch base call.request.method call.request.path with
  | some (.api m) =>
      match m.route.endpoint, call.body with
      | .createUser, .create payload => some (call.newId, payload.password)
      | .updateUser, .update payload =>
          (m.params.head?.bind parseId).bind fun id =>
            payload.password.join.map fun password => (id, password)
      | .changePassword, .password payload => some (call.subject, payload.newPassword)
      | _, _ => none
  | _ => none

/-- The password of a user by the ledger: what the latest of the requests in `done` has
given, or else the password of the start. -/
def ledger (calls : Nat → ApiRequest U) (known : Nat → Option String) :
    List Nat → Nat → Option String
  | [], id => known id
  | i :: done, id =>
      match (calls i).grant parseId base with
      | some (granted, password) =>
          if granted = id then some password else ledger calls known done id
      | none => ledger calls known done id

variable {parseId base} {calls : Nat → ApiRequest U} {known : Nat → Option String}

theorem ledger_of_grant {i id : Nat} {password : String} {done : List Nat}
    (h : (calls i).grant parseId base = some (id, password)) :
    ledger parseId base calls known (i :: done) id = some password := by
  simp [ledger, h]

theorem ledger_of_other {i id other : Nat} {password : String} {done : List Nat}
    (h : (calls i).grant parseId base = some (other, password)) (hOther : other ≠ id) :
    ledger parseId base calls known (i :: done) id =
      ledger parseId base calls known done id := by
  simp [ledger, h, hOther]

theorem ledger_of_no_grant {i id : Nat} {done : List Nat}
    (h : (calls i).grant parseId base = none) :
    ledger parseId base calls known (i :: done) id =
      ledger parseId base calls known done id := by
  simp [ledger, h]

end Ledger

section Accounts

variable {U : Unicode} (passwords : Passwords) (parseId : List Char → Option Nat)
  (base : ApiV1Prefix) (calls : Nat → ApiRequest U) (known : Nat → Option String)

/-- A row whose hash is of the password that the ledger has for its user, under a salt
that no request still has to draw. -/
def Ledgered (done : List Nat) (row : UserRow) : Prop :=
  ∃ salt password, row.hashedPassword = passwords.hash salt password ∧
    ledger parseId base calls known done row.id = some password ∧
    ∀ i, i ∉ done → (calls i).salt ≠ salt

/-- What a request may write into the column of the hashes: the password that it
grants, hashed under its salt, or nothing at all. -/
def Grants (i : Nat) : Change → Prop
  | .insert row => ∃ password, (calls i).grant parseId base = some (row.id, password) ∧
      row.hashedPassword = passwords.hash (calls i).salt password
  | .update loaded assigned =>
      (calls i).grant parseId base = none ∧ assigned.hashedPassword = loaded.hashedPassword ∨
        ∃ password, (calls i).grant parseId base = some (loaded.id, password) ∧
          assigned.hashedPassword = passwords.hash (calls i).salt password ∧
          assigned.hashedPassword ≠ loaded.hashedPassword
  | .delete _ => (calls i).grant parseId base = none

variable {passwords parseId base calls known} {done : List Nat} {row : UserRow} {i : Nat}

/-- A row that a commit leaves alone stays in the ledger. -/
theorem Ledgered.kept (h : Ledgered passwords parseId base calls known done row)
    (hOther : ∀ id password, (calls i).grant parseId base = some (id, password) → id ≠ row.id) :
    Ledgered passwords parseId base calls known (i :: done) row := by
  obtain ⟨salt, password, hHash, hEntry, hFresh⟩ := h
  refine ⟨salt, password, hHash, ?_, fun j hj => hFresh j fun hMem => hj (.tail i hMem)⟩
  rw [← hEntry]
  cases hGrant : (calls i).grant parseId base with
  | none => exact ledger_of_no_grant hGrant
  | some grant => exact ledger_of_other hGrant (hOther grant.1 grant.2 hGrant)

/-- A row with the password of the commit is in the ledger. -/
theorem Ledgered.granted (hSalts : ∀ i j, (calls i).salt = (calls j).salt → i = j)
    {password : String} (hGrant : (calls i).grant parseId base = some (row.id, password))
    (hHash : row.hashedPassword = passwords.hash (calls i).salt password) :
    Ledgered passwords parseId base calls known (i :: done) row := by
  refine ⟨(calls i).salt, password, hHash, ledger_of_grant hGrant, fun j hj hSame => hj ?_⟩
  rw [hSalts j i hSame]
  exact .head done

/-- Rows with the hash and the key of each other are in the ledger together. -/
theorem Ledgered.congr {row' : UserRow} (h : Ledgered passwords parseId base calls known done row)
    (hId : row'.id = row.id) (hHash : row'.hashedPassword = row.hashedPassword) :
    Ledgered passwords parseId base calls known done row' := by
  obtain ⟨salt, password, hSalted, hEntry, hFresh⟩ := h
  exact ⟨salt, password, hHash.trans hSalted, hId ▸ hEntry, hFresh⟩

variable {rows rows' : List UserRow} {change : Change}

/-- The rows that a statement leaves are in the ledger with the commit. -/
theorem ledgered_rows (hSalts : ∀ i j, (calls i).salt = (calls j).salt → i = j)
    (hTable : ∀ row ∈ rows, Ledgered passwords parseId base calls known done row)
    (hChange : Grants passwords parseId base calls i change)
    (hRows : change.rows rows = .ok rows') (hIds : (rows'.map UserRow.id).Nodup) :
    ∀ row ∈ rows', Ledgered passwords parseId base calls known (i :: done) row := by
  intro row hRow
  cases change with
  | insert new =>
      obtain ⟨password, hGrant, hHash⟩ := hChange
      cases hRows
      rcases List.mem_append.mp hRow with hOld | hNew
      · refine (hTable row hOld).kept fun id granted hSame hOwn => ?_
        -- the key of the new row is not the key of another one
        rw [hGrant] at hSame
        cases hSame
        rw [List.map_append, List.nodup_append] at hIds
        exact hIds.2.2 row.id (List.mem_map_of_mem hOld) new.id (by simp) hOwn.symm
      · rw [List.mem_singleton.mp hNew]
        exact .granted hSalts hGrant hHash
  | update loaded assigned =>
      rw [Change.rows] at hRows
      split at hRows
      · cases hRows
        obtain ⟨latest, hLatest, rfl⟩ := List.mem_map.mp hRow
        have hEntry := hTable latest hLatest
        split
        · rename_i hId
          rcases hChange with ⟨hNone, hSame⟩ | ⟨password, hGrant, hHash, hChanged⟩
          · -- the column of the hashes is not in the statement
            have hKept : (UserRow.write loaded assigned latest).hashedPassword =
                latest.hashedPassword := if_pos hSame
            refine (hEntry.kept fun id granted hSome => ?_).congr rfl hKept
            rw [hNone] at hSome
            cases hSome
          · have hWritten : (UserRow.write loaded assigned latest).hashedPassword =
                assigned.hashedPassword := if_neg hChanged
            refine .granted hSalts ?_ (hWritten.trans hHash)
            rw [hGrant, ← hId]
            rfl
        · rename_i hId
          refine hEntry.kept fun id granted hSome hOwn => hId ?_
          rcases hChange with ⟨hNone, -⟩ | ⟨password, hGrant, -⟩
          · rw [hNone] at hSome
            cases hSome
          · rw [hGrant] at hSome
            cases hSome
            exact hOwn.symm
      · cases hRows
  | delete id =>
      cases hRows
      refine (hTable row (List.mem_of_mem_filter hRow)).kept fun other granted hSome => ?_
      rw [show (calls i).grant parseId base = none from hChange] at hSome
      cases hSome

/-- What a request knows about a table from before its commit: no hash there has its
salt. -/
theorem salt_ne_of_ledgered {B : Bcrypt} {prepare : String → List UInt8} (hB : B.Sound)
    (hRow : Ledgered (bcryptPasswords B prepare) parseId base calls known done row)
    (hi : i ∉ done) (password : String) :
    (bcryptPasswords B prepare).hash (calls i).salt password ≠ row.hashedPassword := by
  obtain ⟨salt, stored, hHash, -, hFresh⟩ := hRow
  rw [hHash]
  intro hSame
  exact hFresh i hi (hB.salt_eq _ _ _ _ hSame)

theorem hashedPassword_profileUpdates (current : UserRow) (payload : UserUpdate) :
    (profileUpdates current payload).hashedPassword = current.hashedPassword := by
  unfold profileUpdates
  split <;> rfl

variable {B : Bcrypt} {prepare : String → List UInt8} {checkNetloc : List Char → Bool}

/-- A request comes to statements that write the password it grants, or none. -/
theorem ApiRequest.ensures_grants (hB : B.Sound) (i : Nat) :
    ((calls i).script (bcryptPasswords B prepare) parseId checkNetloc base).Ensures (userStore U)
      (fun table => ∃ done, i ∉ done ∧ ∀ row ∈ table.rows,
        Ledgered (bcryptPasswords B prepare) parseId base calls known done row)
      (Grants (bcryptPasswords B prepare) parseId base calls i) := by
  unfold ApiRequest.script
  split
  · rename_i m hDispatch
    split
    · trivial
    · refine ensures_select_byId fun table row hTable hRow hId => ?_
      obtain ⟨done, hi, hLedger⟩ := hTable
      split
      · split
        · unfold endpoint
          split
          case h_1 payload hEndpoint hBody =>
              refine ensures_createUser _ ⟨payload.password, ?_, rfl⟩
              simp [ApiRequest.grant, hDispatch, hEndpoint, hBody, newUser]
          case h_3 hEndpoint hBody =>
              split
              · refine ensures_updateProfile (.inl ⟨?_, hashedPassword_profileUpdates row _⟩)
                simp [ApiRequest.grant, hDispatch, hEndpoint]
              · trivial
          case h_5 hEndpoint => 
              change (calls i).grant parseId base = none
              simp [ApiRequest.grant, hDispatch, hEndpoint]
          case h_6 payload hEndpoint hBody =>
              unfold userId
              split
              · rename_i id hParam
                refine ensures_updateUser _ fun later user hLater hUser hUserId => ?_
                obtain ⟨done', hi', hLedger'⟩ := hLater
                cases hPassword : payload.password.join with
                | none =>
                    refine .inl ⟨?_, ?_⟩
                    · simp [ApiRequest.grant, hDispatch, hEndpoint, hBody, hParam, hPassword]
                    · simp [adminUpdates, hPassword]
                | some password =>
                    refine .inr ⟨password, ?_, ?_, ?_⟩
                    · simp [ApiRequest.grant, hDispatch, hEndpoint, hBody, hParam, hPassword,
                        hUserId]
                    · simp [adminUpdates, hPassword]
                    · simpa [adminUpdates, hPassword] using
                        salt_ne_of_ledgered hB (hLedger' user hUser) hi' password
              · trivial
          case h_8 hEndpoint =>
              unfold userId
              split
              · refine ensures_deleteUser ?_
                change (calls i).grant parseId base = none
                simp [ApiRequest.grant, hDispatch, hEndpoint]
              · trivial
          case h_9 payload hEndpoint hBody =>
              unfold changePassword
              split
              · refine .inr ⟨payload.newPassword, ?_, rfl, ?_⟩
                · simp [ApiRequest.grant, hDispatch, hEndpoint, hBody, hId]
                · exact salt_ne_of_ledgered hB (hLedger row hRow) hi payload.newPassword
              · trivial
          all_goals trivial
        · trivial
      · trivial
  · trivial
  · trivial

/-- In every recorded run, the table is in the ledger of the commits. -/
theorem ledgered_of_reachable (hB : B.Sound)
    (hSalts : ∀ i j, (calls i).salt = (calls j).salt → i = j) {initial : UserTable}
    (hInitial : ∀ row ∈ initial.rows,
      Ledgered (bcryptPasswords B prepare) parseId base calls known [] row)
    {s : SessionState UserTable UserQuery (Option UserRow) Change Refusal AppError}
    {record : List (Step (SessionState UserTable UserQuery (Option UserRow) Change Refusal
      AppError) (Nat × Action AppError))}
    (hReach : (apiSessions (bcryptPasswords B prepare) parseId checkNetloc base initial
      calls).recorded.Reachable (s, record)) :
    ∀ row ∈ s.committed.rows, Ledgered (bcryptPasswords B prepare) parseId base calls known
      (commitOrder record) row := by
  refine commitOrder_invariant hInitial (fun i => ApiRequest.ensures_grants hB i) ?_ hReach
  intro done i change table table' hTable hi hChange hApply
  exact ledgered_rows hSalts hTable hChange (Change.rows_of_apply hApply)
    table'.constraints.ids

/-- A look-up by name matches the rows that have it. -/
theorem matches_byUsername_iff {name : String} {row : UserRow} :
    (UserQuery.byUsername name).matches U row = true ↔
      row.username.map Username.text = some (U.lower name).toList :=
  beq_iff_eq

/-- What `login` does on a table that is in the ledger. -/
theorem login_of_ledgered (hB : B.Sound) (hPrepare : ∀ password, Bcrypt.IsKey (prepare password))
    {table : UserTable} (hTable : ∀ row ∈ table.rows,
      Ledgered (bcryptPasswords B prepare) parseId base calls known done row)
    (J : Jwt) (ids : IdText) (settings : TokenSettings) (now : Nat) (jtis : String × String)
    (username password : String) :
    (∃ row ∈ table.rows, ∃ granted pair,
      row.username.map Username.text = some (U.lower (U.lower (strip username))).toList ∧
      ledger parseId base calls known done row.id = some granted ∧
      prepare password = prepare granted ∧ pair.userId = row.id ∧
      login J ids U settings (bcryptPasswords B prepare) table now jtis username password =
        .ok pair) ∨
    (∀ row ∈ table.rows,
      row.username.map Username.text = some (U.lower (U.lower (strip username))).toList →
      ∀ granted, ledger parseId base calls known done row.id = some granted →
        prepare password ≠ prepare granted) ∧
      login J ids U settings (bcryptPasswords B prepare) table now jtis username password =
        .error (authenticationError "Invalid username or password") := by
  unfold login
  cases hFound : table.find U (.byUsername (U.lower (strip username))) with
  | none =>
      refine .inr ⟨fun row hRow hName => ?_, rfl⟩
      have hNone := List.find?_eq_none.mp hFound row hRow
      exact absurd (matches_byUsername_iff.mpr hName) hNone
  | some row =>
      obtain ⟨hRow, hMatch⟩ := find_mem U hFound
      obtain ⟨salt, granted, hHash, hEntry, -⟩ := hTable row hRow
      have hVerify : (bcryptPasswords B prepare).verify password row.hashedPassword = true ↔
          prepare password = prepare granted := by
        rw [hHash]
        exact hB.checkpw_hashpw salt _ _ (hPrepare password) (hPrepare granted)
      by_cases hSame : prepare password = prepare granted
      · -- no column that the pair is made of is null
        obtain ⟨name, hName⟩ :=
          Option.ne_none_iff_exists'.mp (table.constraints.username_not_null row hRow)
        obtain ⟨role, hRole⟩ :=
          Option.ne_none_iff_exists'.mp (table.constraints.role_not_null row hRow)
        have hPair : ∃ pair, createTokenPair J ids settings now jtis row = .ok pair := by
          simp [createTokenPair, UserRow.user?, hName, hRole]
        obtain ⟨pair, hPair⟩ := hPair
        refine .inl ⟨row, hRow, granted, pair, matches_byUsername_iff.mp hMatch, hEntry, hSame,
          (minted_createTokenPair hPair).2, ?_⟩
        simp [hVerify.mpr hSame, hPair]
      · refine .inr ⟨fun other hOther hName entry hGranted => ?_, ?_⟩
        · have hOne : other = row :=
            UserQuery.matches_unique U hOther hRow (matches_byUsername_iff.mpr hName) hMatch
          rw [hOne, hEntry] at hGranted
          cases hGranted
          exact hSame
        · simp [hVerify, hSame]

/-- In every recorded run of any requests, whatever the order of their look-ups, flushes
and commits, a login returns a pair for a user exactly if the user has the name, and the
password is the one of the ledger: that of the latest commit that has given the user one.
Any other login has one and the same error. -/
theorem login_iff_ledger (hB : B.Sound)
    (hPrepare : ∀ password, Bcrypt.IsKey (prepare password))
    (hSalts : ∀ i j, (calls i).salt = (calls j).salt → i = j) (initial : UserTable)
    (hInitial : ∀ row ∈ initial.rows,
      Ledgered (bcryptPasswords B prepare) parseId base calls known [] row)
    (s : SessionState UserTable UserQuery (Option UserRow) Change Refusal AppError)
    (record : List (Step (SessionState UserTable UserQuery (Option UserRow) Change Refusal
      AppError) (Nat × Action AppError)))
    (hReach : (apiSessions (bcryptPasswords B prepare) parseId checkNetloc base initial
      calls).recorded.Reachable (s, record))
    (J : Jwt) (ids : IdText) (settings : TokenSettings) (now : Nat) (jtis : String × String)
    (username password : String) :
    (∀ id, (∃ pair, login J ids U settings (bcryptPasswords B prepare) s.committed now jtis
        username password = .ok pair ∧ pair.userId = id) ↔
      ∃ row ∈ s.committed.rows, row.id = id ∧
        row.username.map Username.text = some (U.lower (U.lower (strip username))).toList ∧
        ∃ granted, ledger parseId base calls known (commitOrder record) id = some granted ∧
          prepare password = prepare granted) ∧
      ∀ error, login J ids U settings (bcryptPasswords B prepare) s.committed now jtis
        username password = .error error →
          error = authenticationError "Invalid username or password" := by
  have hTable := ledgered_of_reachable hB hSalts hInitial hReach
  rcases login_of_ledgered hB hPrepare hTable J ids settings now jtis username password with
    ⟨row, hRow, granted, pair, hName, hEntry, hSame, hOwner, hLogin⟩ | ⟨hNot, hLogin⟩
  · refine ⟨fun id => ⟨?_, ?_⟩, fun error hError => ?_⟩
    · rintro ⟨other, hOther, hId⟩
      rw [hLogin] at hOther
      cases hOther
      have hUser : row.id = id := hOwner.symm.trans hId
      exact ⟨row, hRow, hUser, hName, granted, hUser ▸ hEntry, hSame⟩
    · rintro ⟨other, hOther, hId, hOtherName, -⟩
      have hOne : other = row := UserQuery.matches_unique U hOther hRow
        (matches_byUsername_iff.mpr hOtherName) (matches_byUsername_iff.mpr hName)
      exact ⟨pair, hLogin, hOwner.trans (hOne ▸ hId)⟩
    · rw [hLogin] at hError
      cases hError
  · refine ⟨fun id => ⟨?_, ?_⟩, fun error hError => ?_⟩
    · rintro ⟨other, hOther, -⟩
      rw [hLogin] at hOther
      cases hOther
    · rintro ⟨other, hOther, hId, hOtherName, granted, hGranted, hSame⟩
      exact absurd hSame (hNot other hOther hOtherName granted (hId ▸ hGranted))
    · rw [hLogin] at hError
      cases hError
      rfl

end Accounts

/-! ### Two changes of one password -/

/-- Hashes that show the salt, in a row of marks, and the bytes. -/
def Bcrypt.shown : Bcrypt where
  hashpw salt bytes := String.ofList
    (List.replicate salt '$' ++ '.' :: bytes.map fun byte => Char.ofNat byte.toNat)
  checkpw bytes hashed := hashed.toList.dropWhile (· == '$') ==
    '.' :: bytes.map fun byte => Char.ofNat byte.toNat

theorem charOfNat_injective {a b : UInt8} (h : Char.ofNat a.toNat = Char.ofNat b.toNat) :
    a = b := by
  have hSmall : ∀ byte : UInt8, (Char.ofNat byte.toNat).toNat = byte.toNat := by
    intro byte
    have hLt : byte.toNat < 256 := byte.toNat_lt
    rw [Char.toNat_ofNat, if_pos]
    exact .inl (by omega)
  rw [← UInt8.toNat_inj, ← hSmall a, ← hSmall b, h]

theorem dropWhile_shown (salt : Nat) (bytes : List Char) :
    (List.replicate salt '$' ++ '.' :: bytes).dropWhile (· == '$') = '.' :: bytes := by
  simp

theorem takeWhile_shown (salt : Nat) (bytes : List Char) :
    (List.replicate salt '$' ++ '.' :: bytes).takeWhile (· == '$') =
      List.replicate salt '$' := by
  simp

theorem Bcrypt.shown_sound : Bcrypt.shown.Sound := by
  refine ⟨fun salt given hashed _ _ => ?_, fun salt salt' hashed hashed' h => ?_⟩
  · simp only [Bcrypt.shown, String.toList_ofList, dropWhile_shown, beq_iff_eq,
      List.cons.injEq, true_and]
    exact (List.map_injective_iff.mpr fun _ _ => charOfNat_injective).eq_iff.trans eq_comm
  · have hTexts := congrArg (fun text => (text.toList.takeWhile (· == '$')).length) h
    simpa [Bcrypt.shown, takeWhile_shown] using hTexts

/-- The first bytes of a password, in place of a digest in base 64. -/
def firstBytes (password : String) : List UInt8 :=
  ((password.toList.map fun c => c.toNat.toUInt8).filter fun byte => byte ≠ 0).take 44

theorem isKey_firstBytes (password : String) : Bcrypt.IsKey (firstBytes password) := by
  constructor
  · have hLength := List.length_take_le 44
      ((password.toList.map fun c => c.toNat.toUInt8).filter fun byte => byte ≠ 0)
    rw [firstBytes]
    omega
  · intro hMem
    have hFilter := List.mem_filter.mp (List.mem_of_mem_take hMem)
    simp at hFilter

/-- The passwords of the example. -/
abbrev shownPasswords : Passwords := bcryptPasswords .shown firstBytes

/-- `carol` with the password that she has at the start. -/
def carolHashed : UserRow := { carolRow with
  hashedPassword := shownPasswords.hash 0 "correct horse" }

theorem carolHashed_constraints : Constraints [carolHashed] := by
  decide

/-- Each request of `carol` changes the password. -/
def carolChange (i : Nat) : ApiRequest .ascii where
  request := ⟨.post, .http, "example.com".toList, "/api/v1/auth/change-password".toList⟩
  subject := 7
  body := .password ⟨"correct horse", if i = 0 then "battery staple" else "incorrect horse"⟩
  salt := i + 1

/-- What `carol` has at the start. -/
def carolKnown (id : Nat) : Option String :=
  if id = 7 then some "correct horse" else none

/-- Two of the requests verify the old password before either of them commits. -/
def carolRun : List (Nat × Action AppError) :=
  [(0, .select), (1, .select), (1, .flush), (0, .flush), (1, .commit), (0, .commit)]

/-- The requests of `carol`, recorded. -/
abbrev carolSessions :=
  (apiSessions shownPasswords (fun _ => none) (fun _ => true) .default
    ⟨[carolHashed], carolHashed_constraints⟩ carolChange).recorded

/-- The state in which they start. -/
def carolReady :
    SessionState UserTable UserQuery (Option UserRow) Change Refusal AppError where
  committed := ⟨[carolHashed], carolHashed_constraints⟩
  sessions i := .running
    ((carolChange i).script shownPasswords (fun _ => none) (fun _ => true) .default)

theorem carolHashed_ledgered : ∀ row ∈ [carolHashed],
    Ledgered shownPasswords (fun _ => none) .default carolChange carolKnown [] row := by
  intro row hRow
  cases List.mem_singleton.mp hRow
  refine ⟨0, "correct horse", rfl, rfl, fun i _ hSalt => ?_⟩
  cases hSalt

theorem carolChange_salts (i j : Nat) (h : (carolChange i).salt = (carolChange j).salt) :
    i = j :=
  Nat.succ.inj h

/-- The later commit counts: `carol` logs in with the password of request 0. -/
theorem login_iff_ledger_carolRun : ∃ s record, carolSessions.Reachable (s, record) ∧
    ledger (fun _ => none) .default carolChange carolKnown (commitOrder record) 7 =
      some "battery staple" ∧
    ∀ password, (∃ pair, login .plain .decimal .ascii {} shownPasswords s.committed 0
        ("a", "b") "carol" password = .ok pair ∧ pair.userId = 7) →
      firstBytes password = firstBytes "battery staple" := by
  have hOrder : (carolSessions.runUnder (fun _ _ => True) (carolReady, []) carolRun).map
      (fun result => commitOrder result.2) = some [0, 1] := by
    rfl
  obtain ⟨⟨s, record⟩, hRun, hCommits⟩ := Option.map_eq_some_iff.mp hOrder
  have hReach : carolSessions.Reachable (s, record) :=
    .run (.start (s := (carolReady, [])) ⟨rfl, rfl⟩) hRun
  have hEntry : ledger (fun _ => none) .default carolChange carolKnown (commitOrder record) 7 =
      some "battery staple" := by
    rw [show commitOrder record = [0, 1] from hCommits]
    rfl
  refine ⟨s, record, hReach, hEntry, fun password hLogin => ?_⟩
  obtain ⟨-, -, -, -, granted, hGranted, hSame⟩ :=
    ((login_iff_ledger Bcrypt.shown_sound isKey_firstBytes carolChange_salts _
      carolHashed_ledgered s record hReach .plain .decimal {} 0 ("a", "b") "carol"
      password).1 7).mp hLogin
  rw [hEntry] at hGranted
  cases hGranted
  exact hSame

end Users
end DataApi
