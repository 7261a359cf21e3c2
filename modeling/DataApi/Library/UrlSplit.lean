import Mathlib

/-!
# `urllib.parse.urlsplit`

The split of a URL into its components.  Leading control characters are
stripped and tabs and line ends are removed before anything else; the network
location ends at the first of the delimiters `/`, `?` and `#`, the path at the
first `?` or `#`.  Whether a network location is refused (unbalanced brackets,
characters that normalize to a delimiter) is a parameter.
-/

namespace DataApi
namespace Library

/-- The control characters and the space that are stripped from the front. -/
def isC0OrSpace (c : Char) : Bool := decide (c.toNat ≤ 32)

/-- Tab, carriage return and line feed, which are removed. -/
def isRemoved (c : Char) : Bool := c == '\t' || c == '\r' || c == '\n'

/-- The characters of a scheme. -/
def isSchemeChar (c : Char) : Bool :=
  c.isAlphanum || c == '+' || c == '-' || c == '.'

/-- The characters that end the network location. -/
def isDelimiter (c : Char) : Bool := c == '/' || c == '?' || c == '#'

/-- The characters that end the path. -/
def endsPath (c : Char) : Bool := c == '?' || c == '#'

/-- The text without tabs and line ends. -/
def removeUnsafe (url : List Char) : List Char := url.filter fun c => !isRemoved c

/-- `SplitResult`. -/
structure SplitResult where
  scheme : List Char
  netloc : List Char
  path : List Char
  query : List Char
  fragment : List Char
  deriving DecidableEq

/-- The text before the first `c` and the text behind it. -/
def cutAt (c : Char) (text : List Char) : List Char × List Char :=
  (text.takeWhile (· != c), (text.dropWhile (· != c)).drop 1)

/-- The scheme in front of a colon, if its characters are those of a scheme. -/
def splitScheme (url : List Char) : List Char × List Char :=
  let front := url.takeWhile (· != ':')
  if front.length < url.length ∧ front.head?.any Char.isAlpha ∧
      front.all isSchemeChar then
    (front.map Char.toLower, url.drop (front.length + 1))
  else ([], url)

/-- The network location behind two slashes. -/
def splitNetloc (url : List Char) : List Char × List Char :=
  match url with
  | '/' :: '/' :: rest =>
      (rest.takeWhile fun c => !isDelimiter c, rest.dropWhile fun c => !isDelimiter c)
  | url => ([], url)

/-- `urlsplit`; `none` is a `ValueError`. -/
def urlsplit (checkNetloc : List Char → Bool) (url : List Char) :
    Option SplitResult :=
  let url := removeUnsafe (url.dropWhile isC0OrSpace)
  let (scheme, url) := splitScheme url
  let (netloc, url) := splitNetloc url
  let (url, fragment) := cutAt '#' url
  let (path, query) := cutAt '?' url
  if checkNetloc netloc then some ⟨scheme, netloc, path, query, fragment⟩ else none

theorem removeUnsafe_append (a b : List Char) :
    removeUnsafe (a ++ b) = removeUnsafe a ++ removeUnsafe b :=
  List.filter_append _ _

theorem removeUnsafe_of_forall {text : List Char}
    (h : ∀ c ∈ text, isRemoved c = false) : removeUnsafe text = text :=
  List.filter_eq_self.mpr fun c hc => by rw [h c hc]; rfl

/-- Cutting the fragment and then the query leaves the text up to the first of
the two delimiters. -/
theorem cutAt_cutAt (text : List Char) :
    (cutAt '?' (cutAt '#' text).1).1 = text.takeWhile fun c => !endsPath c := by
  change (text.takeWhile (· != '#')).takeWhile (· != '?') = _
  rw [List.takeWhile_takeWhile]
  congr 1
  funext c
  rw [Bool.eq_iff_iff]
  simp [endsPath]

/-- What follows a character that stops a search does not change what is found. -/
theorem takeWhile_append_stop {p : Char → Bool} {c : Char} (h : p c = false)
    (text rest : List Char) : (text ++ c :: rest).takeWhile p = text.takeWhile p := by
  induction text with
  | nil => rw [List.nil_append, List.takeWhile_cons_of_neg (by simp [h]), List.takeWhile_nil]
  | cons d text ih =>
      by_cases hd : p d = true
      · rw [List.cons_append, List.takeWhile_cons_of_pos hd, List.takeWhile_cons_of_pos hd, ih]
      · rw [List.cons_append, List.takeWhile_cons_of_neg hd, List.takeWhile_cons_of_neg hd]

theorem dropWhile_append_stop {p : Char → Bool} {c : Char} (h : p c = false)
    (text rest : List Char) :
    (text ++ c :: rest).dropWhile p = text.dropWhile p ++ c :: rest := by
  induction text with
  | nil => rw [List.nil_append, List.dropWhile_cons_of_neg (by simp [h]), List.dropWhile_nil,
      List.nil_append]
  | cons d text ih =>
      by_cases hd : p d = true
      · rw [List.cons_append, List.dropWhile_cons_of_pos hd, List.dropWhile_cons_of_pos hd, ih]
      · rw [List.cons_append, List.dropWhile_cons_of_neg hd, List.dropWhile_cons_of_neg hd,
          List.cons_append]

/-- A scheme: a letter and then characters of a scheme. -/
def IsScheme (scheme : List Char) : Prop :=
  scheme.head?.any Char.isAlpha = true ∧ scheme.all isSchemeChar = true

theorem not_removed_of_isSchemeChar {c : Char} (h : isSchemeChar c = true) :
    isRemoved c = false ∧ isC0OrSpace c = false ∧ c ≠ ':' := by
  by_cases hSpace : c.toNat ≤ 32 ∨ c = ':'
  · exfalso
    revert h
    rcases hSpace with hSpace | rfl
    · have hAll : ∀ n < 33, isSchemeChar (Char.ofNat n) = false := by decide
      rw [← Char.ofNat_toNat c, hAll c.toNat (by omega)]
      exact Bool.false_ne_true
    · decide
  · rw [not_or, not_le] at hSpace
    refine ⟨?_, by simpa [isC0OrSpace] using hSpace.1, hSpace.2⟩
    rw [isRemoved, Bool.or_eq_false_iff, Bool.or_eq_false_iff]
    refine ⟨⟨?_, ?_⟩, ?_⟩ <;> rw [beq_eq_false_iff_ne] <;> rintro rfl <;>
      exact absurd hSpace.1 (by decide)

/-- The path of a URL with a scheme and a network location. -/
theorem urlsplit_path (checkNetloc : List Char → Bool) {scheme : List Char}
    (hScheme : IsScheme scheme) (rest : List Char) :
    (urlsplit checkNetloc (scheme ++ ':' :: '/' :: '/' :: rest)).map
        SplitResult.path =
      if checkNetloc ((removeUnsafe rest).takeWhile fun c => !isDelimiter c) then
        some (((removeUnsafe rest).dropWhile fun c => !isDelimiter c).takeWhile
          fun c => !endsPath c)
      else none := by
  have hChars : ∀ c ∈ scheme, isSchemeChar c = true := List.all_eq_true.mp hScheme.2
  have hNe : scheme ≠ [] := by
    rintro rfl
    cases hScheme.1
  have hFront : (scheme ++ ':' :: '/' :: '/' :: rest).dropWhile isC0OrSpace =
      scheme ++ ':' :: '/' :: '/' :: rest := by
    obtain ⟨c, cs, rfl⟩ := List.exists_cons_of_ne_nil hNe
    rw [List.cons_append, List.dropWhile_cons_of_neg]
    rw [(not_removed_of_isSchemeChar (hChars c List.mem_cons_self)).2.1]
    exact Bool.false_ne_true
  have hRemove : removeUnsafe (scheme ++ ':' :: '/' :: '/' :: rest) =
      scheme ++ ':' :: '/' :: '/' :: removeUnsafe rest := by
    rw [removeUnsafe_append, removeUnsafe_of_forall fun c hc =>
      (not_removed_of_isSchemeChar (hChars c hc)).1]
    rfl
  have hColon : (scheme ++ ':' :: '/' :: '/' :: removeUnsafe rest).takeWhile
      (· != ':') = scheme := by
    rw [List.takeWhile_append_of_pos fun c hc => by
      simpa using (not_removed_of_isSchemeChar (hChars c hc)).2.2]
    simp
  have hSplit : splitScheme (scheme ++ ':' :: '/' :: '/' :: removeUnsafe rest) =
      (scheme.map Char.toLower, '/' :: '/' :: removeUnsafe rest) := by
    rw [splitScheme, hColon, if_pos ⟨by simp, hScheme.1, hScheme.2⟩]
    simp
  have hNetloc : splitNetloc ('/' :: '/' :: removeUnsafe rest) =
      ((removeUnsafe rest).takeWhile fun c => !isDelimiter c,
        (removeUnsafe rest).dropWhile fun c => !isDelimiter c) := rfl
  simp only [urlsplit, hFront, hRemove, hSplit, hNetloc, cutAt_cutAt]
  split <;> rfl

/-- The query of a URL does not change its path. -/
theorem urlsplit_path_query (checkNetloc : List Char → Bool) {scheme : List Char}
    (hScheme : IsScheme scheme) (rest query : List Char) :
    (urlsplit checkNetloc (scheme ++ ':' :: '/' :: '/' :: (rest ++ '?' :: query))).map
        SplitResult.path =
      (urlsplit checkNetloc (scheme ++ ':' :: '/' :: '/' :: rest)).map
        SplitResult.path := by
  have hQuery : removeUnsafe ('?' :: query) = '?' :: removeUnsafe query := rfl
  rw [urlsplit_path checkNetloc hScheme, urlsplit_path checkNetloc hScheme,
    removeUnsafe_append, hQuery, takeWhile_append_stop (by decide),
    dropWhile_append_stop (by decide), takeWhile_append_stop (by decide)]

end Library
end DataApi
