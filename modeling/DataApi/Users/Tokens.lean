import DataApi.Library.Dict
import DataApi.Users.UserService

/-!
# Tokens and accounts

Token pairs that `login` and `refresh` give out, while users are created, changed and
deleted and time goes by.  A token is a signed payload with the user's key as its
subject, the type of the token and a window of validity; the role and the username of
that moment are merged in behind them.  Nothing but the subject is read from a token:
what it may do is decided by the row of the user at the time it is shown.
-/

namespace DataApi
namespace Users

open Library Schemas Api

/-- A claim of a token; times are in seconds. -/
inductive Claim where
  | text (value : String)
  | time (value : Nat)
  deriving DecidableEq

/-- The payload of a token. -/
abbrev Payload := Dict String Claim

/-- `TokenType`. -/
inductive TokenType where
  | access
  | refresh
  deriving DecidableEq

/-- The text of a token type. -/
def TokenType.text : TokenType → String
  | .access => "access"
  | .refresh => "refresh"

/-- The settings of the tokens. -/
structure TokenSettings where
  accessTokenExpireMinutes : Nat := 15
  refreshTokenExpireMinutes : Nat := 60 * 24 * 7

/-- How long a token is valid, in seconds. -/
def TokenSettings.lifetime (settings : TokenSettings) : TokenType → Nat
  | .access => settings.accessTokenExpireMinutes * 60
  | .refresh => settings.refreshTokenExpireMinutes * 60

/-- `jwt.encode` and, at a time, `jwt.decode`, with the key of the settings; `none` is
the `InvalidTokenError`. -/
structure Jwt where
  Token : Type
  encode : Payload → Token
  decode : Nat → Token → Option Payload

/-- A payload in its window. -/
def Payload.Valid (payload : Payload) (now : Nat) : Prop :=
  (∀ start, payload.get? "nbf" = some (.time start) → start ≤ now) ∧
    ∀ stop, payload.get? "exp" = some (.time stop) → now < stop

/-- What the library promises: a token decodes to the payload it was made of, and
only in its window. -/
structure Jwt.Sound (J : Jwt) : Prop where
  decode_encode : ∀ now payload decoded,
    J.decode now (J.encode payload) = some decoded → decoded = payload
  window : ∀ now token payload, J.decode now token = some payload → payload.Valid now

/-- `str` and `UUID` on the keys of users. -/
structure IdText where
  text : Nat → String
  parse : String → Option Nat
  parse_text : ∀ id, parse (text id) = some id

/-- The claims that every token has. -/
def baseClaims (subject : String) (now lifetime : Nat) (jti : String)
    (tokenType : TokenType) : Payload where
  entries := [("sub", .text subject), ("iat", .time now), ("nbf", .time now),
    ("exp", .time (now + lifetime)), ("jti", .text jti), ("typ", .text tokenType.text)]
  nodup := by simp

/-- `create_token`, up to the encoding. -/
def createToken (settings : TokenSettings) (subject : String) (now : Nat) (jti : String)
    (tokenType : TokenType) (extraClaims : Payload) : Payload :=
  (baseClaims subject now (settings.lifetime tokenType) jti tokenType).update extraClaims

/-- `decode_token`. -/
def decodeToken (J : Jwt) (now : Nat) (token : J.Token) (expected : TokenType) :
    Except AppError Payload :=
  match J.decode now token with
  | some payload =>
      if payload.get? "typ" = some (.text expected.text) then .ok payload
      else .error (authenticationError "Invalid token type")
  | none => .error (authenticationError "Invalid or expired token")

/-- The key in the subject of a payload. -/
def subjectId (ids : IdText) (payload : Payload) : Except AppError Nat :=
  match payload.get? "sub" with
  | some (.text subject) =>
      match ids.parse subject with
      | some id => .ok id
      | none => .error (authenticationError "Invalid token subject")
  | _ => .error (authenticationError "Invalid token subject")

/-- The stored user of a token of a type. -/
def tokenUser (J : Jwt) (ids : IdText) (U : Unicode) (table : UserTable) (now : Nat)
    (token : J.Token) (expected : TokenType) (error : AppError) :
    Except AppError UserRow := do
  let payload ← decodeToken J now token expected
  let id ← subjectId ids payload
  match table.find U (.byId id) with
  | some row => .ok row
  | none => .error error

/-- `get_current_user`. -/
def getCurrentUser (J : Jwt) (ids : IdText) (U : Unicode) (table : UserTable) (now : Nat)
    (token : J.Token) : Except AppError UserRow :=
  tokenUser J ids U table now token .access
    (authenticationError "Invalid authentication credentials")

/-- A pair of tokens, with the user and the time it was made for. -/
structure TokenPair (J : Jwt) where
  userId : Nat
  issuedAt : Nat
  accessToken : J.Token
  refreshToken : J.Token

/-- A half of a pair. -/
def TokenPair.half {J : Jwt} (pair : TokenPair J) : TokenType → J.Token
  | .access => pair.accessToken
  | .refresh => pair.refreshToken

/-- The text of a role. -/
def roleText : UserRole → String
  | .user => "user"
  | .admin => "admin"

/-- The claims that `_create_token_pair` adds. -/
def extraClaims (user : User) : Payload where
  entries := [("role", .text (roleText user.role)),
    ("username", .text (String.ofList user.username))]
  nodup := by simp

/-- `_create_token_pair`. -/
def createTokenPair (J : Jwt) (ids : IdText) (settings : TokenSettings) (now : Nat)
    (jtis : String × String) (row : UserRow) : Except AppError (TokenPair J) :=
  match row.user? with
  | some user =>
      let create jti tokenType := J.encode
        (createToken settings (ids.text row.id) now jti tokenType (extraClaims user))
      .ok ⟨row.id, now, create jtis.1 .access, create jtis.2 .refresh⟩
  | none => .error internalServerError

/-- `login`; the name is normalized by the schema. -/
def login (J : Jwt) (ids : IdText) (U : Unicode) (settings : TokenSettings)
    (passwords : Passwords) (table : UserTable) (now : Nat) (jtis : String × String)
    (username password : String) : Except AppError (TokenPair J) :=
  match table.find U (.byUsername (U.lower (strip username))) with
  | some row =>
      if passwords.verify password row.hashedPassword then
        createTokenPair J ids settings now jtis row
      else .error (authenticationError "Invalid username or password")
  | none => .error (authenticationError "Invalid username or password")

/-- `refresh`. -/
def refresh (J : Jwt) (ids : IdText) (U : Unicode) (settings : TokenSettings)
    (table : UserTable) (now : Nat) (jtis : String × String) (token : J.Token) :
    Except AppError (TokenPair J) := do
  let row ← tokenUser J ids U table now token .refresh
    (authenticationError "Invalid refresh token")
  createTokenPair J ids settings now jtis row

/-- `require_roles`. -/
def requireRoles (J : Jwt) (ids : IdText) (U : Unicode) (allowed : List UserRole)
    (table : UserTable) (now : Nat) (token : J.Token) : Except AppError UserRow := do
  let row ← getCurrentUser J ids U table now token
  match row.user? with
  | some user => if user.role ∈ allowed then .ok row else .error authorizationError
  | none => .error internalServerError

/-- `check_api_permission` on the current user. -/
def checkTokenPermission (J : Jwt) (ids : IdText) (U : Unicode) (routePath : List Char)
    (table : UserTable) (now : Nat) (token : J.Token) : Except AppError Unit := do
  let row ← getCurrentUser J ids U table now token
  match row.user? with
  | some user => checkApiPermission user routePath
  | none => .error internalServerError

/-- The clock, the sessions of the user requests, and the pairs that `login` and
`refresh` have given out. -/
structure AuthState (J : Jwt) where
  clock : Nat
  users : SessionState UserTable UserQuery (Option UserRow) Change Refusal AppError
  issued : List (TokenPair J)

/-- A step: time goes by, a session of a user request takes a step, or a pair is asked
for. -/
inductive AuthEvent (J : Jwt) where
  | advance (seconds : Nat)
  | users (e : Nat × Action AppError)
  | login (jtis : String × String) (username password : String)
  | refresh (jtis : String × String) (token : J.Token)

section Runs

variable (J : Jwt) (ids : IdText) (U : Unicode) (settings : TokenSettings)
  (passwords : Passwords)

/-- Give out the pair of a call that returns one. -/
def AuthState.issue {J : Jwt} (s : AuthState J) :
    Except AppError (TokenPair J) → AuthState J
  | .ok pair => { s with issued := s.issued ++ [pair] }
  | .error _ => s

/-- One step. -/
def authStep (s : AuthState J) : AuthEvent J → Option (AuthState J)
  | .advance seconds => some { s with clock := s.clock + seconds }
  | .users e => (sessionStep (userStore U) s.users e).map fun users =>
      { s with users := users }
  | .login jtis username password =>
      some (s.issue (login J ids U settings passwords s.users.committed s.clock jtis
        username password))
  | .refresh jtis token =>
      some (s.issue (refresh J ids U settings s.users.committed s.clock jtis token))

/-- The runs from any table of users, with any operations on it, and before any token
is given out. -/
def authSystem : TransitionSystem (AuthState J) (AuthEvent J) where
  start s := s.issued = [] ∧ ∃ table, ∃ scripts : Nat → UserScript,
    s.users = ⟨table, fun i => .running (scripts i)⟩
  step := authStep J ids U settings passwords

/-- Tokens cannot be forged: what decodes has been given out. -/
def Genuine {J : Jwt} (s : AuthState J) (token : J.Token) : Prop :=
  (∃ now payload, J.decode now token = some payload) →
    ∃ pair ∈ s.issued, ∃ tokenType, pair.half tokenType = token

/-- The runs in which the tokens that are shown are genuine. -/
def Unforged {J : Jwt} (s : AuthState J) : AuthEvent J → Prop
  | .refresh _ token => Genuine s token
  | _ => True

variable {J}

/-- What is true of a token for which `get_current_user` returns a row. -/
structure AccessGranted (s : AuthState J) (token : J.Token) (row : UserRow) : Prop where
  issued : ∃ pair ∈ s.issued, pair.accessToken = token ∧ pair.userId = row.id ∧
    s.clock < pair.issuedAt + settings.lifetime .access
  stored : row ∈ s.users.committed.rows
  roles : ∀ allowed, requireRoles J ids U allowed s.users.committed s.clock token =
    match row.user? with
    | some user => if user.role ∈ allowed then .ok row else .error authorizationError
    | none => .error internalServerError
  permission : ∀ routePath,
    checkTokenPermission J ids U routePath s.users.committed s.clock token =
      match row.user? with
      | some user => checkApiPermission user routePath
      | none => .error internalServerError

/-- What is true of a token for which `refresh` returns a pair. -/
structure RefreshGranted (s : AuthState J) (token : J.Token) (fresh : TokenPair J) :
    Prop where
  issued : ∃ pair ∈ s.issued, pair.refreshToken = token ∧ pair.userId = fresh.userId ∧
    s.clock < pair.issuedAt + settings.lifetime .refresh
  stored : ∃ row ∈ s.users.committed.rows, row.id = fresh.userId

/-- A pair as `_create_token_pair` makes it. -/
def Minted (pair : TokenPair J) : Prop :=
  ∃ (jti : TokenType → String) (claims : Payload),
    "sub" ∉ claims.keys ∧ "exp" ∉ claims.keys ∧ "typ" ∉ claims.keys ∧
      ∀ tokenType, pair.half tokenType = J.encode (createToken settings
        (ids.text pair.userId) pair.issuedAt (jti tokenType) tokenType claims)

variable {ids U settings passwords} {s : AuthState J} {token : J.Token}

theorem minted_createTokenPair {now : Nat} {jtis : String × String} {row : UserRow}
    {pair : TokenPair J} (h : createTokenPair J ids settings now jtis row = .ok pair) :
    Minted ids settings pair ∧ pair.userId = row.id := by
  unfold createTokenPair at h
  split at h
  · rename_i user hUser
    cases h
    refine ⟨⟨fun | .access => jtis.1 | .refresh => jtis.2, extraClaims user,
      by simp [extraClaims, Dict.keys], by simp [extraClaims, Dict.keys],
      by simp [extraClaims, Dict.keys], fun tokenType => ?_⟩, rfl⟩
    cases tokenType <;> rfl
  · cases h

/-- The claims that are merged in leave the others as they are. -/
theorem createToken_claims {subject jti : String} {now : Nat} {tokenType : TokenType}
    {claims : Payload} (hSub : "sub" ∉ claims.keys) (hExp : "exp" ∉ claims.keys)
    (hTyp : "typ" ∉ claims.keys) :
    (createToken settings subject now jti tokenType claims).get? "sub" =
        some (.text subject) ∧
      (createToken settings subject now jti tokenType claims).get? "exp" =
        some (.time (now + settings.lifetime tokenType)) ∧
      (createToken settings subject now jti tokenType claims).get? "typ" =
        some (.text tokenType.text) := by
  unfold createToken
  rw [Dict.get?_update_of_notMem _ hSub, Dict.get?_update_of_notMem _ hExp,
    Dict.get?_update_of_notMem _ hTyp]
  exact ⟨rfl, rfl, rfl⟩

theorem minted_of_login {table : UserTable} {now : Nat} {jtis : String × String}
    {username password : String} {pair : TokenPair J}
    (h : login J ids U settings passwords table now jtis username password = .ok pair) :
    Minted ids settings pair := by
  unfold login at h
  split at h
  · split at h
    · exact (minted_createTokenPair h).1
    · cases h
  · cases h

theorem minted_of_refresh {table : UserTable} {now : Nat} {jtis : String × String}
    {pair : TokenPair J} (h : refresh J ids U settings table now jtis token = .ok pair) :
    Minted ids settings pair := by
  obtain ⟨row, -, hPair⟩ := bind_eq_ok_iff.mp h
  exact (minted_createTokenPair hPair).1

/-- Every pair that was given out was made by `_create_token_pair`. -/
theorem minted_of_reachable
    (hReach : (authSystem J ids U settings passwords).ReachableUnder Unforged s) :
    ∀ pair ∈ s.issued, Minted ids settings pair := by
  induction hReach with
  | start hStart =>
      rw [hStart.1]
      exact fun pair hPair => nomatch hPair
  | @step s s' e _ _ hStep ih =>
      -- only `login` and `refresh` add a pair, and both mint it
      have hIssue : ∀ result : Except AppError (TokenPair J),
          (∀ pair, result = .ok pair → Minted ids settings pair) →
          ∀ pair ∈ (s.issue result).issued, Minted ids settings pair := by
        intro result hResult pair hPair
        cases result with
        | ok fresh =>
            rcases List.mem_append.mp hPair with hOld | hNew
            · exact ih pair hOld
            · rw [List.mem_singleton.mp hNew]
              exact hResult fresh rfl
        | error error => exact ih pair hPair
      cases e with
      | advance seconds =>
          cases hStep
          exact ih
      | users e =>
          obtain ⟨users, -, rfl⟩ := Option.map_eq_some_iff.mp hStep
          exact ih
      | login jtis username password =>
          cases hStep
          exact hIssue _ fun pair hPair => minted_of_login hPair
      | refresh jtis token =>
          cases hStep
          exact hIssue _ fun pair hPair => minted_of_refresh hPair

theorem decodeToken_eq_ok {now : Nat} {expected : TokenType} {payload : Payload}
    (h : decodeToken J now token expected = .ok payload) :
    J.decode now token = some payload ∧
      payload.get? "typ" = some (.text expected.text) := by
  unfold decodeToken at h
  split at h
  · rename_i decoded hDecoded
    split at h
    · rename_i hType
      cases h
      exact ⟨hDecoded, hType⟩
    · cases h
  · cases h

theorem subjectId_of_text {payload : Payload} {id : Nat}
    (h : payload.get? "sub" = some (.text (ids.text id))) :
    subjectId ids payload = .ok id := by
  simp only [subjectId, h, ids.parse_text]

theorem TokenType.text_injective {a b : TokenType} (h : a.text = b.text) : a = b := by
  cases a <;> cases b <;> first | rfl | exact absurd h (by decide)

/-- A genuine token that decodes is the half of its type of a pair for its subject, and
has not expired. -/
theorem half_of_decodeToken (hJwt : J.Sound)
    (hMinted : ∀ pair ∈ s.issued, Minted ids settings pair) (hToken : Genuine s token)
    {expected : TokenType} {payload : Payload}
    (h : decodeToken J s.clock token expected = .ok payload) :
    ∃ pair ∈ s.issued, pair.half expected = token ∧
      subjectId ids payload = .ok pair.userId ∧
      s.clock < pair.issuedAt + settings.lifetime expected := by
  obtain ⟨hDecode, hType⟩ := decodeToken_eq_ok h
  obtain ⟨pair, hPair, tokenType, hHalf⟩ := hToken ⟨_, _, hDecode⟩
  obtain ⟨jti, claims, hSub, hExp, hTyp, hEncode⟩ := hMinted pair hPair
  have hPayload : payload = createToken settings (ids.text pair.userId) pair.issuedAt
      (jti tokenType) tokenType claims := by
    refine hJwt.decode_encode s.clock _ _ ?_
    rw [← hEncode tokenType, hHalf]
    exact hDecode
  have hClaims : payload.get? "sub" = some (.text (ids.text pair.userId)) ∧
      payload.get? "exp" = some (.time (pair.issuedAt + settings.lifetime tokenType)) ∧
      payload.get? "typ" = some (.text tokenType.text) := by
    rw [hPayload]
    exact createToken_claims hSub hExp hTyp
  obtain ⟨hSubClaim, hExpClaim, hTypClaim⟩ := hClaims
  -- the type claim tells the halves apart
  have hSame : tokenType = expected := by
    rw [hType] at hTypClaim
    exact TokenType.text_injective (Claim.text.inj (Option.some.inj hTypClaim)).symm
  refine ⟨pair, hPair, hSame ▸ hHalf, subjectId_of_text hSubClaim, ?_⟩
  rw [← hSame]
  exact (hJwt.window s.clock token payload hDecode).2 _ hExpClaim

/-- A genuine token that stands for a user of the table is the half of its type of a
pair for that user. -/
theorem tokenUser_sound (hJwt : J.Sound)
    (hMinted : ∀ pair ∈ s.issued, Minted ids settings pair) (hToken : Genuine s token)
    {expected : TokenType} {error : AppError} {row : UserRow}
    (h : tokenUser J ids U s.users.committed s.clock token expected error = .ok row) :
    row ∈ s.users.committed.rows ∧ ∃ pair ∈ s.issued, pair.half expected = token ∧
      pair.userId = row.id ∧ s.clock < pair.issuedAt + settings.lifetime expected := by
  obtain ⟨payload, hDecode, hRest⟩ := bind_eq_ok_iff.mp h
  obtain ⟨id, hSubject, hFind⟩ := bind_eq_ok_iff.mp hRest
  obtain ⟨pair, hPair, hHalf, hUser, hClock⟩ :=
    half_of_decodeToken hJwt hMinted hToken hDecode
  split at hFind
  · rename_i found hFound
    cases hFind
    obtain ⟨hMem, hId⟩ := (find_byId_iff U).mp hFound
    rw [hUser] at hSubject
    exact ⟨hMem, pair, hPair, hHalf, (Except.ok.inj hSubject).trans hId.symm, hClock⟩
  · cases hFind

/-- Over all runs: `get_current_user` and `refresh` accept the half of their type of a
pair that was given out, before it expires and while the user is there, and the checks
behind them read the stored row. -/
theorem tokens_of_reachable (hJwt : J.Sound)
    (hReach : (authSystem J ids U settings passwords).ReachableUnder Unforged s)
    (hToken : Genuine s token) :
    (∀ row, getCurrentUser J ids U s.users.committed s.clock token = .ok row →
        AccessGranted ids U settings s token row) ∧
      ∀ jtis fresh,
        refresh J ids U settings s.users.committed s.clock jtis token = .ok fresh →
          RefreshGranted settings s token fresh := by
  have hMinted := minted_of_reachable hReach
  constructor
  · intro row hRow
    obtain ⟨hMem, pair, hPair, hHalf, hUser, hClock⟩ :=
      tokenUser_sound hJwt hMinted hToken hRow
    refine ⟨⟨pair, hPair, hHalf, hUser, hClock⟩, hMem, fun allowed => ?_,
      fun routePath => ?_⟩
    · rw [requireRoles, hRow]
      rfl
    · rw [checkTokenPermission, hRow]
      rfl
  · intro jtis fresh hFresh
    obtain ⟨row, hRow, hPair⟩ := bind_eq_ok_iff.mp hFresh
    obtain ⟨hMem, pair, hIssued, hHalf, hUser, hClock⟩ :=
      tokenUser_sound hJwt hMinted hToken hRow
    obtain ⟨-, hSame⟩ := minted_createTokenPair hPair
    exact ⟨⟨pair, hIssued, hHalf, hUser.trans hSame.symm, hClock⟩, row, hMem, hSame.symm⟩

/-- Tokens that are their payloads. -/
def Jwt.plain : Jwt where
  Token := Payload
  encode payload := payload
  decode now payload :=
    match payload.get? "nbf", payload.get? "exp" with
    | some (.time start), some (.time stop) =>
        if start ≤ now ∧ now < stop then some payload else none
    | _, _ => none

theorem Jwt.plain_sound : Jwt.plain.Sound := by
  have hDecode : ∀ {now payload decoded},
      Jwt.plain.decode now payload = some decoded →
        decoded = payload ∧ Payload.Valid payload now := by
    intro now payload decoded h
    change (match payload.get? "nbf", payload.get? "exp" with
      | some (.time start), some (.time stop) =>
          if start ≤ now ∧ now < stop then some payload else none
      | _, _ => none) = some decoded at h
    split at h
    · rename_i start stop hNbf hExp
      split at h
      · rename_i hWindow
        cases h
        refine ⟨rfl, fun start' hStart => ?_, fun stop' hStop => ?_⟩
        · rw [hNbf] at hStart
          cases hStart
          exact hWindow.1
        · rw [hExp] at hStop
          cases hStop
          exact hWindow.2
      · cases h
    · cases h
  refine ⟨fun now payload decoded h => (hDecode h).1, fun now token payload h => ?_⟩
  rw [(hDecode h).1]
  exact (hDecode h).2

/-- Keys in decimal. -/
def IdText.decimal : IdText where
  text := Nat.repr
  parse := String.toNat?
  parse_text := Nat.toNat?_repr

theorem carolName_ok : UsernameOk "carol".toList := by
  decide

/-- A user `carol`. -/
def carolRow : UserRow where
  id := 7
  email := none
  username := some ⟨"carol".toList, carolName_ok⟩
  hashedPassword := "secret"
  role := some .user

theorem carolRow_constraints : Constraints [carolRow] := by
  decide

/-- The table with this user, at time 100 and before any token is given out. -/
def carolStart : AuthState Jwt.plain where
  clock := 100
  users := ⟨⟨[carolRow], carolRow_constraints⟩, fun _ => .running .finish⟩
  issued := []

/-- `carol` as the permission checks read the row. -/
def carol : User where
  username := "carol".toList
  role := .user
  length_ge := carolName_ok.1
  length_le := carolName_ok.2.1
  pattern := carolName_ok.2.2

/-- The pair of a login of `carol`. -/
def carolPair : TokenPair Jwt.plain where
  userId := 7
  issuedAt := 100
  accessToken := createToken {} "7" 100 "a" .access (extraClaims carol)
  refreshToken := createToken {} "7" 100 "b" .refresh (extraClaims carol)

/-- The state behind the login. -/
def carolLoggedIn : AuthState Jwt.plain := { carolStart with issued := [carolPair] }

theorem carolLoggedIn_reachable :
    (authSystem Jwt.plain .decimal .ascii {} plainPasswords).ReachableUnder Unforged
      carolLoggedIn := by
  refine .step (e := .login ("a", "b") "carol" "secret") (.start (s := carolStart) ?_)
    trivial rfl
  exact ⟨rfl, _, _, rfl⟩

theorem tokenUser_carol (tokenType : TokenType) (error : AppError) :
    tokenUser Jwt.plain .decimal .ascii carolLoggedIn.users.committed carolLoggedIn.clock
      (carolPair.half tokenType) tokenType error = .ok carolRow := by
  have hDecode : decodeToken Jwt.plain carolLoggedIn.clock (carolPair.half tokenType)
      tokenType = .ok (carolPair.half tokenType) := by
    cases tokenType <;> rfl
  have hSubject : subjectId .decimal (carolPair.half tokenType) = .ok 7 := by
    apply subjectId_of_text
    cases tokenType <;> rfl
  exact bind_eq_ok_iff.mpr ⟨_, hDecode, bind_eq_ok_iff.mpr ⟨_, hSubject, rfl⟩⟩

theorem tokens_of_carolPair :
    AccessGranted .decimal .ascii {} carolLoggedIn carolPair.accessToken carolRow ∧
      ∃ fresh, RefreshGranted {} carolLoggedIn carolPair.refreshToken fresh := by
  have hAccess : Genuine carolLoggedIn carolPair.accessToken := fun _ =>
    ⟨carolPair, List.mem_singleton_self _, .access, rfl⟩
  have hRefresh : Genuine carolLoggedIn carolPair.refreshToken := fun _ =>
    ⟨carolPair, List.mem_singleton_self _, .refresh, rfl⟩
  constructor
  · exact (tokens_of_reachable Jwt.plain_sound carolLoggedIn_reachable hAccess).1
      carolRow (tokenUser_carol .access _)
  · exact ⟨_, (tokens_of_reachable Jwt.plain_sound carolLoggedIn_reachable hRefresh).2
      ("c", "d") _ (bind_eq_ok_iff.mpr ⟨carolRow, tokenUser_carol .refresh _, rfl⟩)⟩

end Runs

end Users
end DataApi
