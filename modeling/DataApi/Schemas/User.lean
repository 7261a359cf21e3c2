import DataApi.Api.Permission

/-!
# The user schemas

A username is checked against its pattern first and normalized afterwards, an
email address likewise.  Both come out lower-cased, and the types of the payload
fields say so: what the schemas have not normalized cannot be written.

A field of a partial update may be left out, null, or a value.
-/

namespace DataApi
namespace Schemas

open Library

/-- The length bounds and the pattern of a username. -/
def UsernameOk (value : List Char) : Prop :=
  3 ≤ value.length ∧ value.length ≤ 50 ∧ value.all isPrefixChar = true

instance (value : List Char) : Decidable (UsernameOk value) := by
  unfold UsernameOk
  infer_instance

/-- A username that satisfies the pattern. -/
structure Username where
  text : List Char
  ok : UsernameOk text
  deriving DecidableEq

/-- Usernames with one text are one username. -/
theorem Username.eq_of_text {u v : Username} (h : u.text = v.text) : u = v := by
  cases u
  cases v
  cases h
  rfl

/-- A username in lower case. -/
def Username.IsLower (username : Username) : Prop :=
  username.text.map Char.toLower = username.text

instance (username : Username) : Decidable username.IsLower :=
  inferInstanceAs (Decidable (username.text.map Char.toLower = username.text))

/-- A username as the schemas pass it on. -/
abbrev LowerUsername := {username : Username // username.IsLower}

/-- `normalize_username`: the pattern admits ASCII characters only. -/
def normalizeUsername (value : List Char) : List Char :=
  (strip (String.ofList value)).toList.map Char.toLower

/-- What the pattern admits is no white space. -/
theorem isSpace_of_isPrefixChar {c : Char} (h : isPrefixChar c = true) :
    isSpace c = false := by
  have hName : isNameChar c = true ∨ c = '.' ∨ c = '-' := by
    simp only [isPrefixChar, isNameChar, Bool.or_eq_true, beq_iff_eq] at h ⊢
    tauto
  rcases hName with hName | rfl | rfl
  · simp only [isNameChar, Char.isAlphanum, Char.isAlpha, Char.isUpper, Char.isLower,
      Char.isDigit, Bool.or_eq_true, Bool.and_eq_true, decide_eq_true_eq, beq_iff_eq,
      UInt32.le_iff_toNat_le] at hName
    have hRange : 48 ≤ c.toNat ∧ c.toNat ≤ 122 := by
      rcases hName with ((⟨hLow, hHigh⟩ | ⟨hLow, hHigh⟩) | ⟨hLow, hHigh⟩) | rfl
      · exact ⟨le_trans (by decide) hLow, le_trans hHigh (by decide)⟩
      · exact ⟨le_trans (by decide) hLow, le_trans hHigh (by decide)⟩
      · exact ⟨hLow, le_trans hHigh (by decide)⟩
      · decide
    simp only [isSpace, Bool.or_eq_false_iff, Bool.and_eq_false_iff, decide_eq_false_iff_not,
      beq_eq_false_iff_ne]
    omega
  · decide
  · decide

theorem strip_of_no_space {value : List Char} (h : ∀ c ∈ value, isSpace c = false) :
    (strip (String.ofList value)).toList = value := by
  have hText : (String.ofList value).toList = value := String.toList_ofList
  rw [strip_of_forall (hText.symm ▸ h), hText]

/-- On a username that satisfies the pattern, normalizing is lower-casing. -/
theorem normalizeUsername_eq {value : List Char} (h : UsernameOk value) :
    normalizeUsername value = value.map Char.toLower := by
  rw [normalizeUsername, strip_of_no_space fun c hc =>
    isSpace_of_isPrefixChar (List.all_eq_true.mp h.2.2 c hc)]

theorem isPrefixChar_toLower {c : Char} (h : isPrefixChar c = true) :
    isPrefixChar c.toLower = true := by
  by_cases hUpper : c.isUpper = true
  · have hAlpha : c.toLower.isAlpha = true := by
      rw [Char.isAlpha_toLower_eq_isAlpha, Char.isAlpha, hUpper, Bool.true_or]
    rw [isPrefixChar, Char.isAlphanum, hAlpha]
    rfl
  · rw [Char.toLower_eq_of_not_isUpper hUpper]
    exact h

/-- Normalizing keeps the pattern and gives lower case. -/
theorem normalizeUsername_ok {value : List Char} (h : UsernameOk value) :
    UsernameOk (normalizeUsername value) := by
  rw [normalizeUsername_eq h]
  refine ⟨by rw [List.length_map]; exact h.1, by rw [List.length_map]; exact h.2.1, ?_⟩
  rw [List.all_eq_true]
  intro c hc
  obtain ⟨d, hd, rfl⟩ := List.mem_map.mp hc
  exact isPrefixChar_toLower (List.all_eq_true.mp h.2.2 d hd)

theorem map_toLower_normalizeUsername (value : List Char) :
    (normalizeUsername value).map Char.toLower = normalizeUsername value := by
  rw [normalizeUsername, List.map_map]
  apply List.map_congr_left
  intro c _
  exact Char.toLower_toLower_eq_toLower c

theorem isLower_normalizeUsername {value : List Char} (h : UsernameOk value) :
    Username.IsLower ⟨normalizeUsername value, normalizeUsername_ok h⟩ := by
  rw [Username.IsLower]
  generalize normalizeUsername_ok h = hOk
  dsimp only
  exact map_toLower_normalizeUsername value

/-- The field `username` of a payload. -/
def validateUsername (value : List Char) : Option LowerUsername :=
  if h : UsernameOk value then some ⟨_, isLower_normalizeUsername h⟩ else none

/-- An email address as the schemas pass it on: the result of lower-casing. -/
abbrev Email (U : Unicode) := {text : String // ∃ value, text = U.lower value}

/-- The field `email` of a payload; `check` is the check of `EmailStr`, which gives
the address in its normal form. -/
def validateEmail (U : Unicode) (check : String → Option String) (value : String) :
    Option (Email U) :=
  (check value).map fun address => ⟨U.lower address, address, rfl⟩

/-- `UserAdminCreate`. -/
structure UserAdminCreate (U : Unicode) where
  email : Option (Email U) := none
  username : LowerUsername
  password : String
  role : Api.UserRole := .user

/-- `UserUpdate`, with the fields that were set. -/
structure UserUpdate where
  username : Option (Option LowerUsername)

/-- `UserAdminUpdate`, with the fields that were set. -/
structure UserAdminUpdate (U : Unicode) where
  email : Option (Option (Email U))
  username : Option (Option LowerUsername)
  password : Option (Option String)
  role : Option (Option Api.UserRole)

/-- `ChangePasswordRequest`. -/
structure ChangePasswordRequest where
  currentPassword : String
  newPassword : String

/-- The validation of a `UserUpdate`: a username that is set and not null has to
pass its check. -/
def UserUpdate.validate : Option (Option (List Char)) → Option UserUpdate
  | none => some ⟨none⟩
  | some none => some ⟨some none⟩
  | some (some value) => (validateUsername value).map fun username =>
      ⟨some (some username)⟩

end Schemas
end DataApi
