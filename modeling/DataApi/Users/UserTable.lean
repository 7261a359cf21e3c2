import DataApi.Library.ColumnMerge
import DataApi.Library.Transactions
import DataApi.Schemas.User

/-!
# The table of users

Rows as the database and the session hold them, where any column but the key and
the password hash may be null, and the table with what the database enforces:
columns that are not null, a primary key, and the unique indexes on `username` and
`email`, which compare the stored texts.

A change is one statement of a flush.  It is refused with an `IntegrityError` where
the table would violate a constraint, and with an error of the session where the row
to be updated is gone.
-/

namespace DataApi
namespace Users

open Library Schemas Api

/-- A row of `users`. -/
structure UserRow where
  id : Nat
  email : Option String
  username : Option Username
  hashedPassword : String
  role : Option UserRole
  deriving DecidableEq

/-- The columns that a request assigns. -/
inductive UserColumn where
  | email
  | username
  | hashedPassword
  | role
  deriving DecidableEq

/-- The type of a column. -/
@[reducible] def UserColumn.Value : UserColumn → Type
  | email => Option String
  | username => Option Username
  | hashedPassword => String
  | role => Option UserRole

instance : ∀ c : UserColumn, DecidableEq c.Value
  | .email => inferInstanceAs (DecidableEq (Option String))
  | .username => inferInstanceAs (DecidableEq (Option Username))
  | .hashedPassword => inferInstanceAs (DecidableEq String)
  | .role => inferInstanceAs (DecidableEq (Option UserRole))

/-- The value of a column. -/
def UserRow.get (row : UserRow) : ∀ c : UserColumn, c.Value
  | .email => row.email
  | .username => row.username
  | .hashedPassword => row.hashedPassword
  | .role => row.role

/-- The row `latest` after the `UPDATE` of the columns in which `assigned` differs
from `loaded`. -/
def UserRow.write (loaded assigned latest : UserRow) : UserRow where
  id := latest.id
  email := writeChanged loaded.get assigned.get latest.get .email
  username := writeChanged loaded.get assigned.get latest.get .username
  hashedPassword := writeChanged loaded.get assigned.get latest.get .hashedPassword
  role := writeChanged loaded.get assigned.get latest.get .role

/-- A written column keeps its latest value, or was changed and has the assigned
one. -/
theorem UserRow.written_cases (loaded assigned latest : UserRow) (c : UserColumn) :
    writeChanged loaded.get assigned.get latest.get c = latest.get c ∨
      assigned.get c ≠ loaded.get c ∧
        writeChanged loaded.get assigned.get latest.get c = assigned.get c :=
  writeChanged_cases c

/-- The row as the permission checks read it. -/
def UserRow.user? (row : UserRow) : Option User :=
  match row.username, row.role with
  | some username, some role =>
      some ⟨username.text, role, username.ok.1, username.ok.2.1, username.ok.2.2⟩
  | _, _ => none

theorem UserRow.user?_eq_some {row : UserRow} {user : User} (h : row.user? = some user) :
    ∃ username, row.username = some username ∧ user.username = username.text ∧
      row.role = some user.role := by
  unfold UserRow.user? at h
  split at h
  · rename_i username role hUsername hRole
    cases h
    exact ⟨username, hUsername, rfl, hRole⟩
  · cases h

/-- The constraints of the table. -/
structure Constraints (rows : List UserRow) : Prop where
  ids : (rows.map UserRow.id).Nodup
  username_not_null : ∀ row ∈ rows, row.username ≠ none
  role_not_null : ∀ row ∈ rows, row.role ≠ none
  usernames : (rows.filterMap UserRow.username).Nodup
  emails : (rows.filterMap UserRow.email).Nodup

instance (rows : List UserRow) : Decidable (Constraints rows) :=
  decidable_of_iff ((rows.map UserRow.id).Nodup ∧ (∀ row ∈ rows, row.username ≠ none) ∧
      (∀ row ∈ rows, row.role ≠ none) ∧ (rows.filterMap UserRow.username).Nodup ∧
      (rows.filterMap UserRow.email).Nodup)
    ⟨fun ⟨h₁, h₂, h₃, h₄, h₅⟩ => ⟨h₁, h₂, h₃, h₄, h₅⟩,
      fun h => ⟨h.ids, h.username_not_null, h.role_not_null, h.usernames, h.emails⟩⟩

/-- A table that the database lets be committed. -/
structure UserTable where
  rows : List UserRow
  constraints : Constraints rows

/-- The table without users. -/
def UserTable.empty : UserTable where
  rows := []
  constraints := ⟨.nil, nofun, nofun, .nil, .nil⟩

/-- The look-ups of the repository. -/
inductive UserQuery where
  | byId (id : Nat)
  | byEmail (email : String)
  | byUsername (username : String)

/-- The `WHERE` clause of a look-up; the argument is lower-cased, the column is
not. -/
def UserQuery.matches (U : Unicode) : UserQuery → UserRow → Bool
  | .byId id, row => row.id == id
  | .byEmail email, row => row.email == some (U.lower email)
  | .byUsername username, row =>
      row.username.map Username.text == some (U.lower username).toList

/-- The row that a look-up finds. -/
def UserTable.find (U : Unicode) (table : UserTable) (query : UserQuery) :
    Option UserRow :=
  table.rows.find? (query.matches U)

/-- A statement of a flush. -/
inductive Change where
  | insert (row : UserRow)
  | update (loaded assigned : UserRow)
  | delete (id : Nat)

/-- Why a statement fails. -/
inductive Refusal where
  | integrity
  | stale
  deriving DecidableEq

/-- The rows after a statement, up to the constraints. -/
def Change.rows (rows : List UserRow) : Change → Except Refusal (List UserRow)
  | .insert row => .ok (rows ++ [row])
  | .update loaded assigned =>
      -- an `UPDATE` that matches no row is a `StaleDataError` of the session
      if loaded.id ∈ rows.map UserRow.id then
        .ok (rows.map fun latest =>
          if latest.id = loaded.id then UserRow.write loaded assigned latest else latest)
      else .error .stale
  | .delete id => .ok (rows.filter fun row => row.id != id)

/-- The table after a statement. -/
def Change.apply (change : Change) (table : UserTable) : Except Refusal UserTable :=
  match change.rows table.rows with
  | .ok rows => if h : Constraints rows then .ok ⟨rows, h⟩ else .error .integrity
  | .error refusal => .error refusal

/-- The table of users as a store. -/
def userStore (U : Unicode) :
    Store UserTable UserQuery (Option UserRow) Change Refusal where
  answer := UserTable.find U
  apply := Change.apply

section Rows

variable {table table' : UserTable} {rows rows' : List UserRow} {row : UserRow}
  {change : Change}

/-- Values that are unique among those a partial function has on a list belong to one
element. -/
theorem eq_of_nodup_filterMap {α β : Type} {f : α → Option β} {l : List α}
    (h : (l.filterMap f).Nodup) {a b : α} (ha : a ∈ l) (hb : b ∈ l) {value : β}
    (hA : f a = some value) (hB : f b = some value) : a = b := by
  by_contra hNe
  -- in a list without duplicates, two elements have two values
  have hPairs := List.pairwise_filterMap.mp h
  have hSymm : Std.Symm fun x y => ∀ u, f x = some u → ∀ v, f y = some v → u ≠ v :=
    ⟨fun x y hxy u hu v hv => (hxy v hv u hu).symm⟩
  exact hPairs.forall ha hb hNe value hA value hB rfl

/-- A look-up has one result at most. -/
theorem UserQuery.matches_unique (U : Unicode) {query : UserQuery} {a b : UserRow}
    (ha : a ∈ table.rows) (hb : b ∈ table.rows) (hA : query.matches U a = true)
    (hB : query.matches U b = true) : a = b := by
  cases query with
  | byId id =>
      simp only [UserQuery.matches, beq_iff_eq] at hA hB
      exact List.inj_on_of_nodup_map table.constraints.ids ha hb (hA.trans hB.symm)
  | byEmail email =>
      simp only [UserQuery.matches, beq_iff_eq] at hA hB
      exact eq_of_nodup_filterMap table.constraints.emails ha hb hA hB
  | byUsername username =>
      simp only [UserQuery.matches, beq_iff_eq, Option.map_eq_some_iff] at hA hB
      obtain ⟨u, hu, hUText⟩ := hA
      obtain ⟨v, hv, hVText⟩ := hB
      have hSame : u = v := Username.eq_of_text (hUText.trans hVText.symm)
      exact eq_of_nodup_filterMap table.constraints.usernames ha hb hu (hSame ▸ hv)

theorem find_mem (U : Unicode) {query : UserQuery} (h : table.find U query = some row) :
    row ∈ table.rows ∧ query.matches U row = true :=
  ⟨List.mem_of_find?_eq_some h, List.find?_some h⟩

/-- A look-up by the key finds the row with the key. -/
theorem find_byId_iff (U : Unicode) {id : Nat} :
    table.find U (.byId id) = some row ↔ row ∈ table.rows ∧ row.id = id := by
  constructor
  · intro h
    obtain ⟨hMem, hMatch⟩ := find_mem U h
    exact ⟨hMem, beq_iff_eq.mp hMatch⟩
  · rintro ⟨hMem, rfl⟩
    cases hFind : table.find U (.byId row.id) with
    | none =>
        have hNone := List.find?_eq_none.mp hFind row hMem
        exact absurd (beq_self_eq_true row.id) hNone
    | some found =>
        obtain ⟨hFound, hMatch⟩ := find_mem U hFind
        rw [UserQuery.matches_unique U hFound hMem hMatch (beq_self_eq_true row.id)]

/-- The rows after a statement: rows that were there, the inserted row, and rows into
which changed columns were written. -/
theorem Change.mem_rows (h : change.rows rows = .ok rows') (hRow : row ∈ rows') :
    row ∈ rows ∨ change = .insert row ∨
      ∃ loaded assigned latest, change = .update loaded assigned ∧ latest ∈ rows ∧
        latest.id = loaded.id ∧ row = UserRow.write loaded assigned latest := by
  cases change with
  | insert new =>
      cases h
      rcases List.mem_append.mp hRow with hOld | hNew
      · exact .inl hOld
      · rw [List.mem_singleton.mp hNew]
        exact .inr (.inl rfl)
  | update loaded assigned =>
      rw [Change.rows] at h
      split at h
      · cases h
        obtain ⟨latest, hLatest, rfl⟩ := List.mem_map.mp hRow
        split
        · rename_i hId
          exact .inr (.inr ⟨loaded, assigned, latest, rfl, hLatest, hId, rfl⟩)
        · exact .inl hLatest
      · cases h
  | delete id =>
      cases h
      exact .inl (List.mem_of_mem_filter hRow)

theorem Change.rows_of_apply (h : change.apply table = .ok table') :
    change.rows table.rows = .ok table'.rows := by
  rw [Change.apply] at h
  split at h
  · rename_i rows hRows
    split at h
    · cases h
      exact hRows
    · cases h
  · cases h

end Rows

end Users
end DataApi
