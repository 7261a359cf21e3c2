import DataApi.Users.UserService

/-!
# Concurrent user requests

Requests on the table of users in concurrent sessions.  The look-up in front of a
write is no protection against another session, and the unique indexes compare the
stored texts; that no two users share a username or an email address in different
case is due to every write storing what the schemas have lower-cased.
-/

namespace DataApi
namespace Users

open Library Schemas Api

/-- A request to the user service; a new user gets a key and a salt, and `subject` is
the user of the token. -/
inductive UserRequest (U : Unicode) where
  | createUser (payload : UserAdminCreate U) (id salt : Nat)
  | updateUser (id : Nat) (payload : UserAdminUpdate U) (salt : Nat)
  | updateProfile (subject : Nat) (payload : UserUpdate)
  | deleteUser (id : Nat)
  | deleteAccount (subject : Nat)

/-- What a request does. -/
def UserRequest.script {U : Unicode} (passwords : Passwords) :
    UserRequest U → UserScript
  | .createUser payload id salt => Users.createUser passwords payload id salt
  | .updateUser id payload salt => Users.updateUser passwords id payload salt
  | .updateProfile subject payload =>
      currentUser subject fun current => Users.updateProfile current payload
  | .deleteUser id => Users.deleteUser id
  | .deleteAccount subject =>
      currentUser subject fun current => Users.deleteAccount current

/-- The runs of a family of requests on a table. -/
def userSessions {U : Unicode} (passwords : Passwords) (table : UserTable)
    (requests : Nat → UserRequest U) :=
  sessionSystem (userStore U) table fun i => (requests i).script passwords

/-- A row whose texts the schemas have lower-cased. -/
structure UserRow.Normalized (U : Unicode) (row : UserRow) : Prop where
  username : ∀ username ∈ row.username, username.IsLower
  email : ∀ email ∈ row.email, ∃ value, email = U.lower value

/-- A statement that writes such a row. -/
def Change.Normalized (U : Unicode) : Change → Prop
  | .insert row => row.Normalized U
  | .update _ assigned => assigned.Normalized U
  | .delete _ => True

/-- A table of such rows. -/
def UserTable.Normalized (U : Unicode) (table : UserTable) : Prop :=
  ∀ row ∈ table.rows, row.Normalized U

/-- Usernames are there and lower-case, email addresses are lower-case, and no two
users have usernames or email addresses that differ in case only. -/
structure UniqueIgnoringCase (U : Unicode) (table : UserTable) : Prop where
  username_lower : ∀ row ∈ table.rows,
    ∃ username, row.username = some username ∧ username.IsLower
  email_lower : ∀ row ∈ table.rows, ∀ email ∈ row.email, U.lower email = email
  username_unique : ∀ a ∈ table.rows, ∀ b ∈ table.rows, ∀ u ∈ a.username,
    ∀ v ∈ b.username, u.text.map Char.toLower = v.text.map Char.toLower → a = b
  email_unique : ∀ a ∈ table.rows, ∀ b ∈ table.rows, ∀ u ∈ a.email, ∀ v ∈ b.email,
    U.lower u = U.lower v → a = b

section Requests

variable {U : Unicode} {table table' : UserTable} {change : Change}

theorem UserRow.Normalized.write {loaded assigned latest : UserRow}
    (hAssigned : assigned.Normalized U) (hLatest : latest.Normalized U) :
    (UserRow.write loaded assigned latest).Normalized U := by
  constructor
  · intro username hUsername
    change username ∈ writeChanged loaded.get assigned.get latest.get .username at hUsername
    rcases UserRow.written_cases loaded assigned latest .username with
      hKept | ⟨-, hWritten⟩
    · rw [hKept] at hUsername
      exact hLatest.username username hUsername
    · rw [hWritten] at hUsername
      exact hAssigned.username username hUsername
  · intro email hEmail
    change email ∈ writeChanged loaded.get assigned.get latest.get .email at hEmail
    rcases UserRow.written_cases loaded assigned latest .email with
      hKept | ⟨-, hWritten⟩
    · rw [hKept] at hEmail
      exact hLatest.email email hEmail
    · rw [hWritten] at hEmail
      exact hAssigned.email email hEmail

/-- A normalized statement keeps the table normalized. -/
theorem UserTable.Normalized.apply (hTable : table.Normalized U)
    (hChange : change.Normalized U) (h : change.apply table = .ok table') :
    table'.Normalized U := by
  intro row hRow
  rcases Change.mem_rows (Change.rows_of_apply h) hRow with
    hOld | rfl | ⟨loaded, assigned, latest, rfl, hLatest, -, rfl⟩
  · exact hTable row hOld
  · exact hChange
  · exact UserRow.Normalized.write hChange (hTable latest hLatest)

theorem normalized_newUser (passwords : Passwords) (payload : UserAdminCreate U)
    (id salt : Nat) : (newUser passwords payload id salt).Normalized U := by
  constructor
  · rintro username ⟨⟩
    exact payload.username.property
  · intro email hEmail
    obtain ⟨address, -, rfl⟩ := Option.mem_map.mp hEmail
    exact address.property

theorem UserRow.Normalized.profileUpdates {current : UserRow}
    (h : current.Normalized U) (payload : UserUpdate) :
    (profileUpdates current payload).Normalized U := by
  unfold Users.profileUpdates
  split
  · refine ⟨fun username hUsername => ?_, h.email⟩
    obtain ⟨value, -, rfl⟩ := Option.mem_map.mp hUsername
    exact value.property
  · exact h

theorem UserRow.Normalized.adminUpdates {user : UserRow} (h : user.Normalized U)
    (passwords : Passwords) (payload : UserAdminUpdate U) (salt : Nat) :
    (adminUpdates passwords user payload salt).Normalized U := by
  constructor
  · intro username hUsername
    cases hSet : payload.username with
    | none =>
        -- the column is not assigned
        rw [Users.adminUpdates, hSet] at hUsername
        exact h.username username hUsername
    | some value =>
        rw [Users.adminUpdates, hSet] at hUsername
        obtain ⟨lower, -, rfl⟩ := Option.mem_map.mp hUsername
        exact lower.property
  · intro email hEmail
    cases hSet : payload.email with
    | none =>
        rw [Users.adminUpdates, hSet] at hEmail
        exact h.email email hEmail
    | some value =>
        rw [Users.adminUpdates, hSet] at hEmail
        obtain ⟨address, -, rfl⟩ := Option.mem_map.mp hEmail
        exact address.property

/-- On a normalized table, every request comes to normalized statements only. -/
theorem UserRequest.ensures_normalized (passwords : Passwords) (request : UserRequest U) :
    (request.script passwords).Ensures (userStore U) (UserTable.Normalized U)
      (Change.Normalized U) := by
  cases request with
  | createUser payload id salt =>
      exact ensures_createUser passwords (normalized_newUser passwords payload id salt)
  | updateUser id payload salt =>
      refine ensures_updateUser passwords fun table row hTable hRow _ => ?_
      exact (hTable row hRow).adminUpdates passwords payload salt
  | updateProfile subject payload =>
      refine ensures_select_byId fun table row hTable hRow _ => ?_
      exact ensures_updateProfile ((hTable row hRow).profileUpdates payload)
  | deleteUser id => exact ensures_deleteUser trivial
  | deleteAccount subject =>
      exact ensures_select_byId fun _ _ _ _ _ => trivial

/-- In a normalized table, the unique indexes ignore case. -/
theorem UserTable.Normalized.uniqueIgnoringCase
    (hLower : ∀ value, U.lower (U.lower value) = U.lower value)
    (h : table.Normalized U) : UniqueIgnoringCase U table := by
  -- lower-casing twice changes nothing, so stored texts are their own lower case
  have hEmail : ∀ row ∈ table.rows, ∀ email ∈ row.email, U.lower email = email := by
    intro row hRow email hMem
    obtain ⟨value, rfl⟩ := (h row hRow).email email hMem
    exact hLower value
  refine ⟨fun row hRow => ?_, hEmail, fun a ha b hb u hu v hv hSame => ?_,
    fun a ha b hb u hu v hv hSame => ?_⟩
  · obtain ⟨username, hUsername⟩ :=
      Option.ne_none_iff_exists'.mp (table.constraints.username_not_null row hRow)
    exact ⟨username, hUsername, (h row hRow).username username hUsername⟩
  · have hu' := (h a ha).username u hu
    have hv' := (h b hb).username v hv
    rw [Username.IsLower] at hu' hv'
    rw [hu', hv'] at hSame
    have hUv : u = v := Username.eq_of_text hSame
    exact eq_of_nodup_filterMap table.constraints.usernames ha hb hu (hUv ▸ hv)
  · rw [hEmail a ha u hu, hEmail b hb v hv] at hSame
    exact eq_of_nodup_filterMap table.constraints.emails ha hb hu (hSame ▸ hv)

/-- Whatever the order in which the look-ups, flushes and commits of the requests
interleave, usernames and email addresses in the committed table are unique ignoring
case, and a request that does not succeed has not changed the table. -/
theorem uniqueIgnoringCase_of_reachable (passwords : Passwords)
    (hLower : ∀ value, U.lower (U.lower value) = U.lower value)
    (requests : Nat → UserRequest U)
    {s : SessionState UserTable UserQuery (Option UserRow) Change Refusal AppError}
    (hReach : (userSessions passwords .empty requests).Reachable s) :
    UniqueIgnoringCase U s.committed ∧
      ∀ e s' events last, (userSessions passwords .empty requests).step s e = some s' →
        (userSessions passwords .empty requests).runUnder (fun _ _ => True) s' events =
          some last →
        last.sessions e.1 ≠ .succeeded → s'.committed = s.committed := by
  constructor
  · have hEmpty : UserTable.Normalized U .empty := fun row hRow => nomatch hRow
    have hNormalized := sessionSystem_invariant hEmpty
      (fun i => (requests i).ensures_normalized passwords)
      (fun _ _ _ hTable hChange h => hTable.apply hChange h) hReach
    exact hNormalized.uniqueIgnoringCase hLower
  · intro e s' events last hStep hRun hLast
    exact committed_of_not_succeeded hStep hRun hLast

theorem aliceName_ok : UsernameOk "alice".toList := by
  decide

theorem aliceName_isLower : Username.IsLower ⟨"alice".toList, aliceName_ok⟩ := by
  decide

/-- The username `alice`. -/
def aliceName : LowerUsername := ⟨_, aliceName_isLower⟩

/-- Every request creates a user `alice`. -/
def aliceRequests (i : Nat) : UserRequest .ascii :=
  .createUser { username := aliceName, password := "correct horse battery" } i 0

/-- Two of them, which both find the username free. -/
def aliceRun : List (Nat × Action AppError) :=
  [(0, .select), (1, .select), (0, .flush), (1, .flush), (0, .commit), (1, .commit)]

/-- The state in which they start. -/
def aliceStart :
    SessionState UserTable UserQuery (Option UserRow) Change Refusal AppError where
  committed := .empty
  sessions i := .running ((aliceRequests i).script plainPasswords)

/-- One of the two is refused at its commit. -/
theorem uniqueIgnoringCase_aliceRun :
    ∃ s, (userSessions plainPasswords .empty aliceRequests).runUnder (fun _ _ => True)
        aliceStart aliceRun = some s ∧
      s.committed.rows.map UserRow.id = [0] ∧ UniqueIgnoringCase .ascii s.committed := by
  have hIds : ((userSessions plainPasswords .empty aliceRequests).runUnder
      (fun _ _ => True) aliceStart aliceRun).map
        (fun s => s.committed.rows.map UserRow.id) = some [0] := by
    rfl
  obtain ⟨s, hRun, hRows⟩ := Option.map_eq_some_iff.mp hIds
  refine ⟨s, hRun, hRows, ?_⟩
  exact (uniqueIgnoringCase_of_reachable plainPasswords Unicode.ascii_lower_lower aliceRequests
    (.run (.start rfl) hRun)).1

end Requests

end Users
end DataApi
