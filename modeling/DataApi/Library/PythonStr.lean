import Mathlib

/-!
# Python strings

The part of `str` the code relies on: which characters `strip` removes, ASCII
identifiers, and the Unicode tables of the interpreter.  The tables are too
large to write down and differ between releases, so they are a parameter that
carries the facts every release satisfies.
-/

namespace DataApi
namespace Library

/-- The Unicode tables of a Python release: the general category, the word
characters of `re`, the value of decimal digits, and lower-casing. -/
structure Unicode where
  category : Char → String
  isWord : Char → Bool
  decimal : Char → Option Nat
  lower : String → String
  isWord_ascii : ∀ c, c.toNat < 128 → isWord c = (c.isAlphanum || c == '_')
  lower_not_upper : ∀ s, ∀ c ∈ (lower s).toList, c.isUpper = false
  lower_of_lower : ∀ s, (∀ c ∈ s.toList, c.toNat < 128 ∧ c.isUpper = false) →
    lower s = s

/-- `str.isspace` for one character. -/
def isSpace (c : Char) : Bool :=
  let n := c.toNat
  (9 ≤ n && n ≤ 13) || (28 ≤ n && n ≤ 32) || n == 0x85 || n == 0xa0 ||
    n == 0x1680 || (0x2000 ≤ n && n ≤ 0x200a) || n == 0x2028 || n == 0x2029 ||
    n == 0x202f || n == 0x205f || n == 0x3000

/-- `str.strip()`. -/
def strip (s : String) : String :=
  String.ofList ((s.toList.dropWhile isSpace).reverse.dropWhile isSpace).reverse

/-- A stripped text does not end with white space. -/
theorem isSpace_getLast?_strip (s : String) :
    ∀ c ∈ (strip s).toList.getLast?, isSpace c = false := by
  intro c hc
  rw [strip, String.toList_ofList, List.getLast?_reverse] at hc
  have hHead := List.head?_dropWhile_not isSpace (s.toList.dropWhile isSpace).reverse
  rw [Option.mem_def] at hc
  rw [hc] at hHead
  simpa using hHead

/-- A stripped text begins as the text behind the leading white space does. -/
theorem dropWhile_strip (s : String) :
    (strip s).toList.dropWhile isSpace = (strip s).toList := by
  set front := s.toList.dropWhile isSpace with hFront
  have hStrip : (strip s).toList = front.rdropWhile isSpace := String.toList_ofList
  cases hCons : (strip s).toList with
  | nil => rfl
  | cons c rest =>
      obtain ⟨tail, hTail⟩ := List.rdropWhile_prefix isSpace front
      have hNot := List.head?_dropWhile_not isSpace s.toList
      rw [← hFront, ← hTail, ← hStrip, hCons] at hNot
      exact List.dropWhile_cons_of_neg (by simpa using hNot)

/-- A stripped text does not begin with white space. -/
theorem isSpace_head?_strip (s : String) :
    ∀ c ∈ (strip s).toList.head?, isSpace c = false := by
  intro c hc
  have hNot := List.head?_dropWhile_not isSpace (strip s).toList
  rw [dropWhile_strip, Option.mem_def.mp hc] at hNot
  simpa using hNot

/-- Stripping twice is stripping once. -/
theorem strip_strip (s : String) : strip (strip s) = strip s := by
  have hStrip : (strip s).toList = (s.toList.dropWhile isSpace).rdropWhile isSpace :=
    String.toList_ofList
  refine String.toList_inj.mp ?_
  calc (strip (strip s)).toList
      = ((strip s).toList.dropWhile isSpace).rdropWhile isSpace := String.toList_ofList
    _ = (strip s).toList.rdropWhile isSpace := by rw [dropWhile_strip]
    _ = (strip s).toList := by rw [hStrip, List.rdropWhile_idempotent]

/-- A text without white space at its ends is not stripped. -/
theorem strip_of_ends {s : String} (hFirst : ∀ c ∈ s.toList.head?, isSpace c = false)
    (hLast : ∀ c ∈ s.toList.getLast?, isSpace c = false) : strip s = s := by
  have hKeep : ∀ chars : List Char, (∀ c ∈ chars.head?, isSpace c = false) →
      chars.dropWhile isSpace = chars := by
    intro chars hChars
    cases chars with
    | nil => rfl
    | cons c rest => exact List.dropWhile_cons_of_neg (by simp [hChars c rfl])
  rw [← List.head?_reverse] at hLast
  rw [strip, hKeep _ hFirst, hKeep _ hLast, List.reverse_reverse, String.ofList_toList]

/-- A text without white space is not stripped. -/
theorem strip_of_forall {s : String} (h : ∀ c ∈ s.toList, isSpace c = false) : strip s = s :=
  strip_of_ends (fun c hc => h c (List.mem_of_head? hc))
    (fun c hc => h c (List.mem_of_getLast? hc))

/-- Stripping adds no character. -/
theorem mem_of_mem_strip {s : String} {c : Char} (hc : c ∈ (strip s).toList) :
    c ∈ s.toList := by
  rw [strip, String.toList_ofList, List.mem_reverse] at hc
  have hKept := List.mem_reverse.mp ((List.dropWhile_sublist isSpace).subset hc)
  exact (List.dropWhile_sublist isSpace).subset hKept

/-- The characters `[A-Za-z_]`. -/
def isNameStart (c : Char) : Bool := c.isAlpha || c == '_'

/-- The characters `[A-Za-z0-9_]`. -/
def isNameChar (c : Char) : Bool := c.isAlphanum || c == '_'

/-- A full match of `[A-Za-z_][A-Za-z0-9_]*`. -/
def isIdentifier : List Char → Bool
  | [] => false
  | c :: rest => isNameStart c && rest.all isNameChar

theorem isNameChar_of_isNameStart {c : Char} (h : isNameStart c = true) :
    isNameChar c = true := by
  simp only [isNameStart, isNameChar, Char.isAlphanum, Bool.or_eq_true] at *
  tauto

/-- Every character of an identifier is an identifier character. -/
theorem isNameChar_of_isIdentifier {name : List Char}
    (h : isIdentifier name = true) : ∀ c ∈ name, isNameChar c = true := by
  cases name with
  | nil => cases h
  | cons c rest =>
      rw [isIdentifier, Bool.and_eq_true, List.all_eq_true] at h
      intro d hd
      rcases List.mem_cons.mp hd with rfl | hd
      · exact isNameChar_of_isNameStart h.1
      · exact h.2 d hd

theorem ne_nil_of_isIdentifier {name : List Char} (h : isIdentifier name = true) :
    name ≠ [] := by
  rintro rfl
  cases h

theorem toNat_lt_of_isNameChar {c : Char} (h : isNameChar c = true) :
    c.toNat < 128 := by
  simp only [isNameChar, Char.isAlphanum, Char.isAlpha, Char.isUpper,
    Char.isLower, Char.isDigit, Bool.or_eq_true, Bool.and_eq_true,
    decide_eq_true_eq, beq_iff_eq, Char.toNat, UInt32.le_iff_toNat_le] at *
  rcases h with ((⟨-, h⟩ | ⟨-, h⟩) | ⟨-, h⟩) | rfl
  · exact h.trans_lt (by decide)
  · exact h.trans_lt (by decide)
  · exact h.trans_lt (by decide)
  · decide

/-- Identifier characters are word characters in every release. -/
theorem Unicode.isWord_of_isNameChar (U : Unicode) {c : Char}
    (h : isNameChar c = true) : U.isWord c = true := by
  rw [U.isWord_ascii c (toNat_lt_of_isNameChar h)]
  exact h

/-- Tables that know the ASCII characters only. -/
def Unicode.ascii : Unicode where
  category c := if c.toNat < 32 || c.toNat == 127 then "Cc" else "L"
  isWord := isNameChar
  decimal c := if c.isDigit then some (c.toNat - '0'.toNat) else none
  lower s := String.ofList (s.toList.map Char.toLower)
  isWord_ascii _ _ := rfl
  lower_not_upper s c hc := by
    rw [String.toList_ofList, List.mem_map] at hc
    obtain ⟨d, -, rfl⟩ := hc
    exact Char.isUpper_toLower_eq_false d
  lower_of_lower s hs := by
    have hMap : s.toList.map Char.toLower = s.toList.map id :=
      List.map_congr_left fun c hc =>
        Char.toLower_eq_of_not_isUpper (Bool.eq_false_iff.mp (hs c hc).2)
    rw [hMap, List.map_id, String.ofList_toList]

/-- Lower-casing ASCII twice is lower-casing it once. -/
theorem Unicode.ascii_lower_lower (s : String) :
    Unicode.ascii.lower (Unicode.ascii.lower s) = Unicode.ascii.lower s := by
  change String.ofList (List.map Char.toLower (String.ofList _).toList) = String.ofList _
  rw [String.toList_ofList, List.map_map]
  exact congrArg String.ofList
    (List.map_congr_left fun c _ => Char.toLower_toLower_eq_toLower c)

end Library
end DataApi
