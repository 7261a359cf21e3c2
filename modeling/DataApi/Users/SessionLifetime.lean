import DataApi.Library.History
import DataApi.Users.Tokens

/-!
# How long a login lasts

The refresh half of a pair can be turned into another pair, so a login lives on in a
chain of pairs.  In every run, the tokens that are accepted are exactly the halves of
pairs in such a chain that are still in their window, as long as the user is there
(`accepted_iff_rooted`).  Nothing else ends a login: not a new password, not another
name, and not another role.

One direction is about forgery and rests on what `jwt.decode` refuses; the other one is
about what it has to let pass.
-/

namespace DataApi
namespace Users

open Library Schemas Api

/-- What the library promises the other way round: a payload whose subject is a text
decodes in its window, from the time it was issued at. -/
def Jwt.Complete (J : Jwt) : Prop :=
  ∀ (now : Nat) (payload : Payload) (subject : String) (issued start stop : Nat),
    payload.get? "sub" = some (.text subject) →
    payload.get? "iat" = some (.time issued) → issued ≤ now →
    payload.get? "nbf" = some (.time start) → start ≤ now →
    payload.get? "exp" = some (.time stop) → now < stop →
    J.decode now (J.encode payload) = some payload

/-- The steps of a run, the newest first. -/
abbrev AuthRecord (J : Jwt) := List (Step (AuthState J) (AuthEvent J))

section Lifetime

variable {J : Jwt} (ids : IdText) (U : Unicode) (settings : TokenSettings)
  (passwords : Passwords)

/-- A pair that goes back to a login: it was given out for the name and the password of
a stored user, or for the refresh half of such a pair, in its window and while the user
of the pair was stored. -/
inductive Rooted : AuthRecord J → TokenPair J → Prop
  | login {earlier : AuthRecord J} {step : Step (AuthState J) (AuthEvent J)}
      {jtis : String × String} {username password : String} {row : UserRow}
      {pair : TokenPair J} (hEvent : step.event = .login jtis username password)
      (hRow : row ∈ step.before.users.committed.rows)
      (hName : row.username.map Username.text =
        some (U.lower (U.lower (strip username))).toList)
      (hPassword : passwords.verify password row.hashedPassword = true)
      (hPair : createTokenPair J ids settings step.before.clock jtis row = .ok pair) :
      Rooted (step :: earlier) pair
  | refresh {earlier : AuthRecord J} {step : Step (AuthState J) (AuthEvent J)}
      {jtis : String × String} {row : UserRow} {parent pair : TokenPair J}
      (hParent : Rooted earlier parent)
      (hEvent : step.event = .refresh jtis parent.refreshToken)
      (hInTime : step.before.clock < parent.issuedAt + settings.lifetime .refresh)
      (hRow : row ∈ step.before.users.committed.rows) (hUser : parent.userId = row.id)
      (hPair : createTokenPair J ids settings step.before.clock jtis row = .ok pair) :
      Rooted (step :: earlier) pair
  | older {earlier : AuthRecord J} {step : Step (AuthState J) (AuthEvent J)}
      {pair : TokenPair J} (hPair : Rooted earlier pair) : Rooted (step :: earlier) pair

variable {ids U settings passwords} {record : AuthRecord J} {pair : TokenPair J}
  {s : AuthState J}

/-- A pair that goes back to a login was made by `_create_token_pair`. -/
theorem Rooted.created (h : Rooted ids U settings passwords record pair) :
    ∃ now jtis row, createTokenPair J ids settings now jtis row = .ok pair := by
  induction h with
  | login _ _ _ _ hPair => exact ⟨_, _, _, hPair⟩
  | refresh _ _ _ _ _ hPair _ => exact ⟨_, _, _, hPair⟩
  | older _ ih => exact ih

/-- The login at the root is one of the user of the pair. -/
theorem Rooted.signedIn (h : Rooted ids U settings passwords record pair) :
    ∃ step ∈ record, ∃ jtis username password, step.event = .login jtis username password ∧
      ∃ row ∈ step.before.users.committed.rows, row.id = pair.userId ∧
        row.username.map Username.text = some (U.lower (U.lower (strip username))).toList ∧
        passwords.verify password row.hashedPassword = true := by
  induction h with
  | login hEvent hRow hName hPassword hPair =>
      exact ⟨_, .head _, _, _, _, hEvent, _, hRow, (minted_createTokenPair hPair).2.symm, hName,
        hPassword⟩
  | refresh _ _ _ _ hUser hPair ih =>
      -- the user stays the same along the chain
      obtain ⟨step, hStep, jtis, username, password, hEvent, row, hRow, hId, hRest⟩ := ih
      have hSame := (minted_createTokenPair hPair).2
      exact ⟨step, .tail _ hStep, jtis, username, password, hEvent, row, hRow,
        hId.trans (hUser.trans hSame.symm), hRest⟩
  | older _ ih =>
      obtain ⟨step, hStep, hRest⟩ := ih
      exact ⟨step, .tail _ hStep, hRest⟩

/-- A half of a pair as the library made it: the subject, the times and the type that
can be read off it. -/
theorem half_createTokenPair {now : Nat} {jtis : String × String} {row : UserRow}
    (h : createTokenPair J ids settings now jtis row = .ok pair) (tokenType : TokenType) :
    pair.issuedAt = now ∧ ∃ payload : Payload, pair.half tokenType = J.encode payload ∧
      payload.get? "sub" = some (.text (ids.text pair.userId)) ∧
      payload.get? "iat" = some (.time now) ∧ payload.get? "nbf" = some (.time now) ∧
      payload.get? "exp" = some (.time (now + settings.lifetime tokenType)) ∧
      payload.get? "typ" = some (.text tokenType.text) := by
  unfold createTokenPair at h
  split at h
  · rename_i user hUser
    cases h
    have hToken : ∀ jti,
        (createToken settings (ids.text row.id) now jti tokenType (extraClaims user)).get? "sub" =
          some (.text (ids.text row.id)) ∧
        (createToken settings (ids.text row.id) now jti tokenType (extraClaims user)).get? "iat" =
          some (.time now) ∧
        (createToken settings (ids.text row.id) now jti tokenType (extraClaims user)).get? "nbf" =
          some (.time now) ∧
        (createToken settings (ids.text row.id) now jti tokenType (extraClaims user)).get? "exp" =
          some (.time (now + settings.lifetime tokenType)) ∧
        (createToken settings (ids.text row.id) now jti tokenType (extraClaims user)).get? "typ" =
          some (.text tokenType.text) := by
      intro jti
      unfold createToken
      -- the role and the username do not hide any of these claims
      rw [Dict.get?_update_of_notMem _ (by simp [extraClaims, Dict.keys]),
        Dict.get?_update_of_notMem _ (by simp [extraClaims, Dict.keys]),
        Dict.get?_update_of_notMem _ (by simp [extraClaims, Dict.keys]),
        Dict.get?_update_of_notMem _ (by simp [extraClaims, Dict.keys]),
        Dict.get?_update_of_notMem _ (by simp [extraClaims, Dict.keys])]
      exact ⟨rfl, rfl, rfl, rfl, rfl⟩
    cases tokenType with
    | access => exact ⟨rfl, _, rfl, hToken jtis.1⟩
    | refresh => exact ⟨rfl, _, rfl, hToken jtis.2⟩
  · cases h

/-- A pair goes to the row for which it is asked, and a stored row always gets one. -/
theorem createTokenPair_ok (J : Jwt) (ids : IdText) (settings : TokenSettings)
    {table : UserTable} {row : UserRow} (hRow : row ∈ table.rows) (now : Nat)
    (jtis : String × String) :
    ∃ pair, createTokenPair J ids settings now jtis row = .ok pair ∧ pair.userId = row.id := by
  obtain ⟨name, hName⟩ :=
    Option.ne_none_iff_exists'.mp (table.constraints.username_not_null row hRow)
  obtain ⟨role, hRole⟩ :=
    Option.ne_none_iff_exists'.mp (table.constraints.role_not_null row hRow)
  have hPair : ∃ pair, createTokenPair J ids settings now jtis row = .ok pair := by
    simp [createTokenPair, UserRow.user?, hName, hRole]
  obtain ⟨pair, hPair⟩ := hPair
  exact ⟨pair, hPair, (minted_createTokenPair hPair).2⟩

/-- The half of the type that is asked for stands for the stored user of its pair, from
the time it was issued to the end of its window. -/
theorem tokenUser_half (hComplete : J.Complete) {issued now : Nat} {jtis : String × String}
    {owner row : UserRow} (hPair : createTokenPair J ids settings issued jtis owner = .ok pair)
    (hIssued : issued ≤ now) {tokenType : TokenType}
    (hNow : now < pair.issuedAt + settings.lifetime tokenType) {table : UserTable}
    (hRow : row ∈ table.rows) (hId : pair.userId = row.id) (error : AppError) :
    tokenUser J ids U table now (pair.half tokenType) tokenType error = .ok row := by
  obtain ⟨hAt, payload, hHalf, hSub, hIat, hNbf, hExp, hTyp⟩ := half_createTokenPair hPair tokenType
  rw [hAt] at hNow
  have hDecode : J.decode now (pair.half tokenType) = some payload := by
    rw [hHalf]
    exact hComplete now payload _ _ _ _ hSub hIat hIssued hNbf hIssued hExp hNow
  have hPayload : decodeToken J now (pair.half tokenType) tokenType = .ok payload := by
    simp [decodeToken, hDecode, hTyp]
  have hFound : table.find U (.byId pair.userId) = some row :=
    (find_byId_iff U).mpr ⟨hRow, hId.symm⟩
  refine bind_eq_ok_iff.mpr ⟨payload, hPayload,
    bind_eq_ok_iff.mpr ⟨pair.userId, subjectId_of_text hSub, ?_⟩⟩
  simp [hFound]

/-- What a run has given out: pairs that go back to a login, none of them from the
future. -/
structure Sessions (ids : IdText) (U : Unicode) (settings : TokenSettings)
    (passwords : Passwords) (s : AuthState J) (record : AuthRecord J) : Prop where
  rooted : ∀ pair ∈ s.issued, Rooted ids U settings passwords record pair
  issued : ∀ pair ∈ s.issued, pair.issuedAt ≤ s.clock

/-- A step that gives out nothing keeps the sessions. -/
theorem Sessions.kept (h : Sessions ids U settings passwords s record) {s' : AuthState J}
    (hIssued : s'.issued = s.issued) (hClock : s.clock ≤ s'.clock)
    (step : Step (AuthState J) (AuthEvent J)) :
    Sessions ids U settings passwords s' (step :: record) := by
  constructor
  · intro pair hPair
    rw [hIssued] at hPair
    exact .older (h.rooted pair hPair)
  · intro pair hPair
    rw [hIssued] at hPair
    exact le_trans (h.issued pair hPair) hClock

/-- So does a step that gives out a pair that goes back to a login, if it gives out
one. -/
theorem Sessions.issue (h : Sessions ids U settings passwords s record)
    {result : Except AppError (TokenPair J)} {step : Step (AuthState J) (AuthEvent J)}
    (hResult : ∀ pair, result = .ok pair →
      Rooted ids U settings passwords (step :: record) pair ∧ pair.issuedAt = s.clock) :
    Sessions ids U settings passwords (s.issue result) (step :: record) := by
  cases result with
  | error error => exact h.kept rfl (le_refl _) step
  | ok fresh =>
      obtain ⟨hFresh, hNow⟩ := hResult fresh rfl
      constructor
      · intro pair hPair
        rcases List.mem_append.mp hPair with hOld | hNew
        · exact .older (h.rooted pair hOld)
        · rw [List.mem_singleton.mp hNew]
          exact hFresh
      · intro pair hPair
        change pair.issuedAt ≤ s.clock
        rcases List.mem_append.mp hPair with hOld | hNew
        · exact h.issued pair hOld
        · rw [List.mem_singleton.mp hNew, hNow]

/-- The pair of a login goes back to it. -/
theorem rooted_of_login {jtis : String × String} {username password : String} {now : Nat}
    {table : UserTable}
    (h : login J ids U settings passwords table now jtis username password = .ok pair)
    {step : Step (AuthState J) (AuthEvent J)} (hEvent : step.event = .login jtis username password)
    (hTable : step.before.users.committed = table) (hClock : step.before.clock = now) :
    Rooted ids U settings passwords (step :: record) pair ∧ pair.issuedAt = now := by
  unfold login at h
  split at h
  · rename_i row hFound
    split at h
    · rename_i hPassword
      obtain ⟨hRow, hMatch⟩ := find_mem U hFound
      subst hTable hClock
      exact ⟨.login hEvent hRow (beq_iff_eq.mp hMatch) hPassword h,
        (half_createTokenPair h .access).1⟩
    · cases h
  · cases h

/-- In every run, every pair that has been given out goes back to a login. -/
theorem sessions_of_reachable (hSound : J.Sound)
    (hReach : (authSystem J ids U settings passwords).recorded.ReachableUnder
      (fun s => Unforged s.1) (s, record)) :
    Sessions ids U settings passwords s record := by
  generalize hPair : (s, record) = pair at hReach
  induction hReach generalizing s record with
  | start hStart =>
      subst hPair
      obtain ⟨hStart, hRecord⟩ := hStart
      have hNone : s.issued = [] := hStart.1
      constructor
      · intro pair hMem
        rw [hNone] at hMem
        cases hMem
      · intro pair hMem
        rw [hNone] at hMem
        cases hMem
  | @step before after e _ hGuard hStep ih =>
      subst hPair
      obtain ⟨next, hNext, hAfter⟩ := TransitionSystem.recorded_step_eq_some.mp hStep
      cases hAfter
      have hBefore := ih rfl
      cases e with
      | advance seconds =>
          cases hNext
          refine hBefore.kept ?_ ?_ _
          · rfl
          · exact Nat.le_add_right _ _
      | users e =>
          obtain ⟨users, -, rfl⟩ := Option.map_eq_some_iff.mp hNext
          refine hBefore.kept ?_ ?_ _
          · rfl
          · exact le_refl _
      | login jtis username password =>
          cases hNext
          exact hBefore.issue fun pair hPair => rooted_of_login hPair rfl rfl rfl
      | refresh jtis token =>
          cases hNext
          refine hBefore.issue fun pair hPair => ?_
          obtain ⟨row, hRow, hCreated⟩ := bind_eq_ok_iff.mp hPair
          have hMinted : ∀ pair ∈ before.1.issued, Minted ids settings pair := by
            intro pair hMem
            obtain ⟨_, _, _, hCreated⟩ := (hBefore.rooted pair hMem).created
            exact (minted_createTokenPair hCreated).1
          obtain ⟨hStored, parent, hParent, rfl, hUser, hInTime⟩ :=
            tokenUser_sound hSound hMinted hGuard hRow
          exact ⟨.refresh (hBefore.rooted parent hParent) rfl hInTime hStored hUser hCreated,
            (half_createTokenPair hCreated .access).1⟩

/-- In every run and for every token that is not forged: `get_current_user` returns a row
exactly if the row is stored and the token is the access half, in its window, of a pair
for it that goes back to a login; and `refresh` returns a pair for a user exactly if the
user is stored and the token is such a refresh half. -/
theorem accepted_iff_rooted (hSound : J.Sound) (hComplete : J.Complete)
    (hReach : (authSystem J ids U settings passwords).recorded.ReachableUnder
      (fun s => Unforged s.1) (s, record)) (token : J.Token) (hToken : Genuine s token) :
    (∀ row, getCurrentUser J ids U s.users.committed s.clock token = .ok row ↔
      row ∈ s.users.committed.rows ∧ ∃ pair ∈ s.issued,
        Rooted ids U settings passwords record pair ∧ pair.accessToken = token ∧
        pair.userId = row.id ∧ s.clock < pair.issuedAt + settings.lifetime .access) ∧
      ∀ jtis id, (∃ fresh, fresh.userId = id ∧
          refresh J ids U settings s.users.committed s.clock jtis token = .ok fresh) ↔
        (∃ row ∈ s.users.committed.rows, row.id = id) ∧ ∃ pair ∈ s.issued,
          Rooted ids U settings passwords record pair ∧ pair.refreshToken = token ∧
          pair.userId = id ∧ s.clock < pair.issuedAt + settings.lifetime .refresh := by
  have hSessions := sessions_of_reachable hSound hReach
  have hMinted : ∀ pair ∈ s.issued, Minted ids settings pair := by
    intro pair hPair
    obtain ⟨_, _, _, hCreated⟩ := (hSessions.rooted pair hPair).created
    exact (minted_createTokenPair hCreated).1
  -- both functions accept the half of their type
  have hAccepts : ∀ tokenType error row,
      tokenUser J ids U s.users.committed s.clock token tokenType error = .ok row ↔
        row ∈ s.users.committed.rows ∧ ∃ pair ∈ s.issued,
          Rooted ids U settings passwords record pair ∧ pair.half tokenType = token ∧
          pair.userId = row.id ∧ s.clock < pair.issuedAt + settings.lifetime tokenType := by
    intro tokenType error row
    constructor
    · intro hRow
      obtain ⟨hStored, pair, hPair, hHalf, hUser, hInTime⟩ :=
        tokenUser_sound hSound hMinted hToken hRow
      exact ⟨hStored, pair, hPair, hSessions.rooted pair hPair, hHalf, hUser, hInTime⟩
    · intro hAccepted
      obtain ⟨hStored, pair, hPair, hRooted, hHalf, hUser, hInTime⟩ := hAccepted
      obtain ⟨issued, jtis, owner, hCreated⟩ := hRooted.created
      have hIssued : issued ≤ s.clock := by
        rw [← (half_createTokenPair hCreated tokenType).1]
        exact hSessions.issued pair hPair
      rw [← hHalf]
      exact tokenUser_half hComplete hCreated hIssued hInTime hStored hUser error
  refine ⟨fun row => hAccepts .access _ row, fun jtis id => ⟨?_, ?_⟩⟩
  · intro hIssued
    obtain ⟨fresh, hId, hFresh⟩ := hIssued
    obtain ⟨row, hRow, hCreated⟩ := bind_eq_ok_iff.mp hFresh
    obtain ⟨hStored, pair, hPair, hRooted, hHalf, hUser, hInTime⟩ :=
      (hAccepts .refresh _ row).mp hRow
    have hOwner : row.id = id := (minted_createTokenPair hCreated).2.symm.trans hId
    exact ⟨⟨row, hStored, hOwner⟩, pair, hPair, hRooted, hHalf, hUser.trans hOwner, hInTime⟩
  · intro hAccepted
    obtain ⟨⟨row, hStored, hOwner⟩, pair, hPair, hRooted, hHalf, hUser, hInTime⟩ := hAccepted
    have hRow := (hAccepts .refresh (authenticationError "Invalid refresh token") row).mpr
      ⟨hStored, pair, hPair, hRooted, hHalf, hUser.trans hOwner.symm, hInTime⟩
    obtain ⟨fresh, hFresh, hSame⟩ := createTokenPair_ok J ids settings hStored s.clock jtis
    exact ⟨fresh, hSame.trans hOwner, bind_eq_ok_iff.mpr ⟨row, hRow, hFresh⟩⟩

end Lifetime

/-! ### A login outlives its password -/

theorem Jwt.plain_complete : Jwt.plain.Complete := by
  intro now payload subject issued start stop _ _ _ hNbf hStart hExp hStop
  simp [Jwt.plain, hNbf, hExp, hStart, hStop]

/-- The table with `carol`, and a request that changes her password. -/
def carolChanging : AuthState Jwt.plain where
  clock := 100
  users := ⟨⟨[carolRow], carolRow_constraints⟩, fun _ => .running
    (changePassword plainPasswords carolRow ⟨"secret", "another secret"⟩ 1)⟩
  issued := []

/-- `carol` logs in, changes her password, and half an hour goes by. -/
def carolEvents : List (AuthEvent Jwt.plain) :=
  [.login ("a", "b") "carol" "secret", .users (0, .flush), .users (0, .commit), .advance 1800]

/-- The recorded run of these events. -/
abbrev carolLogins := (authSystem Jwt.plain .decimal .ascii {} plainPasswords).recorded

theorem carolEvents_unforged : ∀ (s : AuthState Jwt.plain), ∀ e ∈ carolEvents, Unforged s e := by
  intro s e hEvent
  simp only [carolEvents, List.mem_cons, List.not_mem_nil, or_false] at hEvent
  rcases hEvent with rfl | rfl | rfl | rfl <;> trivial

/-- The refresh half of the first pair still gives a pair for `carol`. -/
theorem accepted_iff_rooted_carolEvents : ∃ s : AuthState Jwt.plain, s.clock = 1900 ∧
    s.users.committed.rows.map UserRow.hashedPassword = ["another secret"] ∧
    ∃ fresh, fresh.userId = 7 ∧ refresh Jwt.plain .decimal .ascii {} s.users.committed
      s.clock ("c", "d") carolPair.refreshToken = .ok fresh := by
  have hEnd : (carolLogins.runUnder (fun _ _ => True) (carolChanging, []) carolEvents).map
      (fun result => (result.1.clock, result.1.issued,
        result.1.users.committed.rows.map fun row => (row.id, row.hashedPassword))) =
      some (1900, [carolPair], [(7, "another secret")]) := by
    rfl
  obtain ⟨⟨s, record⟩, hRun, hState⟩ := Option.map_eq_some_iff.mp hEnd
  obtain ⟨hClock, hIssued, hRows⟩ : s.clock = 1900 ∧ s.issued = [carolPair] ∧
      s.users.committed.rows.map (fun row => (row.id, row.hashedPassword)) =
        [(7, "another secret")] := by
    simpa using hState
  have hReach : carolLogins.ReachableUnder (fun s => Unforged s.1) (s, record) :=
    .run_of_forall (.start (s := (carolChanging, [])) ⟨⟨rfl, _, _, rfl⟩, rfl⟩)
      (fun s => carolEvents_unforged s.1) hRun
  have hPair : carolPair ∈ s.issued := hIssued ▸ List.mem_singleton_self _
  obtain ⟨row, hRow, hSame⟩ :=
    List.mem_map.mp (hRows ▸ List.mem_singleton_self (7, "another secret"))
  refine ⟨s, hClock, ?_, ((accepted_iff_rooted Jwt.plain_sound Jwt.plain_complete hReach
    carolPair.refreshToken fun _ => ⟨carolPair, hPair, .refresh, rfl⟩).2 ("c", "d") 7).mpr
    ⟨⟨row, hRow, congrArg Prod.fst hSame⟩, carolPair, hPair,
      (sessions_of_reachable Jwt.plain_sound hReach).rooted carolPair hPair, rfl, rfl, ?_⟩⟩
  · simpa [Function.comp_def] using congrArg (List.map Prod.snd) hRows
  · rw [hClock]
    decide

end Users
end DataApi
