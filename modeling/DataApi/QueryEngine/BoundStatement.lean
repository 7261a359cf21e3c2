import Mathlib.Data.List.TakeWhile
import DataApi.QueryEngine.DynamicParameters

/-!
# Binding the parameters of a statement

SQLAlchemy's `text()` finds the binds of a statement with a regular expression
that knows nothing of quotes.  `build_bound_statement` declares a bind for each
parameter definition, and `bindparams` refuses one the text does not have.
-/

namespace DataApi
namespace QueryEngine

open Library

/-- The symbols in front of a colon that keep it from being a bind. -/
def blocksBind (isWord : Char → Bool) (c : Char) : Bool :=
  c == ':' || c.toNat == 92 || isWord c

/-- The match of `(\w+)(?!:)`: the repetition gives back one word character
when a colon follows the longest match. -/
def bindName (isWord : Char → Bool) (rest : List Char) : List Char :=
  if (rest.dropWhile isWord).head? = some ':' then
    (rest.takeWhile isWord).dropLast
  else rest.takeWhile isWord

/-- The pattern `(?<![:\w\\]):(\w+)(?!:)` of `text()`. -/
def bindMatcher (isWord : Char → Bool) : Matcher Char (List Char)
  | prev, ':' :: rest =>
      if prev.any (blocksBind isWord) ∨ bindName isWord rest = [] then none
      else some ((bindName isWord rest).length, bindName isWord rest)
  | _, _ => none

/-- The column types of the binds. -/
inductive SqlType where
  | string
  | integer
  | float
  | boolean
  | date
  | datetimeTz
  deriving DecidableEq

/-- `bindparam(name, expanding=..., type_=...)`. -/
structure BindParam where
  name : String
  expanding : Bool
  type : SqlType
  deriving DecidableEq

/-- `TextClause`: the text with its binds, and the declared parameters. -/
structure TextClause where
  items : List (Scanned Char (List Char))
  declared : List BindParam

/-- `text(sql)`. -/
def text (U : Unicode) (sql : String) : TextClause :=
  ⟨scan (bindMatcher U.isWord) sql.toList, []⟩

/-- The names of the binds the text has. -/
def TextClause.bindNames (t : TextClause) : List String :=
  (matchesOf t.items).map String.ofList

/-- `TextClause.bindparams`: a bind that is not in the text is an
`ArgumentError`. -/
def TextClause.bindparams (t : TextClause) (binds : List BindParam) :
    Except Raised TextClause :=
  if ∀ bind ∈ binds, bind.name ∈ t.bindNames then .ok { t with declared := binds }
  else .error (.other "ArgumentError")

/-- `_sqlalchemy_type`, with the type of the items of a list. -/
def sqlalchemyType : DynamicParameterType → SqlType
  | .string => .string
  | .integer => .integer
  | .float => .float
  | .boolean => .boolean
  | .date => .date
  | .datetime => .datetimeTz
  | .stringList => .string

/-- `build_bound_statement`. -/
def buildBoundStatement {P : Scalars} (U : Unicode) (canonicalSql : String)
    (definitions : Dict String (DynamicParameterDefinition P)) :
    Except Raised TextClause :=
  (text U canonicalSql).bindparams (definitions.entries.map fun entry =>
    ⟨entry.1, entry.2.type = .stringList, sqlalchemyType entry.2.type⟩)

/-- A statement can be built exactly when its text has every defined name. -/
theorem buildBoundStatement_eq_ok_iff {P : Scalars} {U : Unicode} {sql : String}
    {definitions : Dict String (DynamicParameterDefinition P)} :
    (∃ statement, buildBoundStatement U sql definitions = .ok statement) ↔
      ∀ name ∈ definitions.keys, name ∈ (text U sql).bindNames := by
  rw [buildBoundStatement, TextClause.bindparams]
  simp only [List.forall_mem_map, Dict.keys]
  split
  · rename_i hAll
    exact iff_of_true ⟨_, rfl⟩ hAll
  · rename_i hAll
    exact iff_of_false (fun h => nomatch h) hAll

/-- Declaring parameters changes neither the text nor its binds. -/
theorem items_of_buildBoundStatement {P : Scalars} {U : Unicode} {sql : String}
    {definitions : Dict String (DynamicParameterDefinition P)}
    {statement : TextClause}
    (h : buildBoundStatement U sql definitions = .ok statement) :
    statement.items = (text U sql).items := by
  rw [buildBoundStatement, TextClause.bindparams] at h
  split at h
  · cases h
    rfl
  · cases h

section BindMatcher

variable {isWord : Char → Bool}

/-- Two symbols between which no bind and no `%(name)s` can run on. -/
structure Apart (isWord : Char → Bool) (a b : Char) : Prop where
  word_word : ¬ (isWord a = true ∧ isWord b = true)
  colon_word : ¬ (a = ':' ∧ isWord b = true)
  before_colon : ¬ (blocksBind isWord a = true ∧ b = ':')
  percent_paren : ¬ (a = '%' ∧ b = '(')

theorem length_bindName_le (isWord : Char → Bool) (rest : List Char) :
    (bindName isWord rest).length ≤ rest.length := by
  have hWord := (List.takeWhile_prefix isWord (l := rest)).length_le
  rw [bindName]
  split
  · rw [List.length_dropLast]
    omega
  · exact hWord

theorem bindMatcher_bounded : (bindMatcher isWord).Bounded := by
  intro prev a rest extra b h
  rw [bindMatcher.eq_def] at h
  split at h
  · rename_i rest' hEq
    obtain ⟨rfl, rfl⟩ := List.cons.inj hEq
    split_ifs at h
    cases h
    exact length_bindName_le isWord rest
  · cases h

/-- Text that is apart from a colon and the word behind it does not prolong the
word, and follows it with a colon only if the word is empty. -/
theorem head_of_apart {rest tail : List Char} (hAll : ∀ c ∈ rest, isWord c = true)
    (h : ∀ a ∈ (':' :: rest).getLast?, ∀ b ∈ tail.head?, Apart isWord a b) :
    ∀ b ∈ tail.head?, ¬ isWord b = true ∧ (b = ':' → rest = []) := by
  intro b hb
  rcases List.eq_nil_or_concat rest with rfl | ⟨front, a, hRest⟩
  · exact ⟨fun hWord => (h ':' rfl b hb).colon_word ⟨rfl, hWord⟩, fun _ => rfl⟩
  · have hLast : (':' :: rest).getLast? = some a := by
      rw [hRest, List.concat_eq_append, ← List.cons_append, List.getLast?_concat]
    have hWord : isWord a = true := hAll a (by simp [hRest])
    have hab := h a hLast b hb
    refine ⟨fun hb => hab.word_word ⟨hWord, hb⟩, fun hColon => ?_⟩
    exact absurd ⟨by simp [blocksBind, hWord], hColon⟩ hab.before_colon

/-- A name ends where it did when text follows that is apart from it. -/
theorem bindName_append {rest tail : List Char}
    (h : ∀ a ∈ (':' :: rest).getLast?, ∀ b ∈ tail.head?, Apart isWord a b) :
    bindName isWord (rest ++ tail) = bindName isWord rest := by
  by_cases hAll : ∀ c ∈ rest, isWord c = true
  · have hHead := head_of_apart hAll h
    have hSelf : bindName isWord rest = rest := by
      rw [bindName, List.dropWhile_eq_nil_iff.mpr hAll,
        List.takeWhile_eq_self_iff.mpr hAll]
      rfl
    rw [hSelf, bindName, List.takeWhile_append_of_pos hAll,
      List.dropWhile_append_of_pos hAll]
    cases tail with
    | nil => simp
    | cons b tail =>
        obtain ⟨hWord, hColon⟩ := hHead b rfl
        rw [List.takeWhile_cons_of_neg hWord, List.dropWhile_cons_of_neg hWord,
          List.append_nil]
        split
        · rename_i hb
          rw [hColon (Option.some.inj hb), List.dropLast_nil]
        · rfl
  · have hRest : rest.dropWhile isWord ≠ [] := fun hNil =>
      hAll (List.dropWhile_eq_nil_iff.mp hNil)
    have hShort : (rest.takeWhile isWord).length ≠ rest.length := fun hLen =>
      hAll (List.takeWhile_eq_self_iff.mp
        ((List.takeWhile_prefix isWord).eq_of_length hLen))
    have hDrop : (rest ++ tail).dropWhile isWord = rest.dropWhile isWord ++ tail := by
      rw [List.dropWhile_append, if_neg (by rwa [List.isEmpty_iff])]
    obtain ⟨c, cs, hcs⟩ := List.exists_cons_of_ne_nil hRest
    rw [bindName, bindName, hDrop, List.takeWhile_append, if_neg hShort, hcs]
    rfl

theorem bindMatcher_stable {part tail : List Char}
    (h : ∀ a ∈ part.getLast?, ∀ b ∈ tail.head?, Apart isWord a b) :
    (bindMatcher isWord).Stable part tail := by
  rintro prev a rest ⟨front, rfl⟩
  by_cases ha : a = ':'
  · subst ha
    rw [List.getLast?_append_of_ne_nil _ (List.cons_ne_nil _ _)] at h
    rw [List.cons_append, bindMatcher, bindMatcher, bindName_append h]
  · simp [bindMatcher, ha]

theorem bindMatcher_prev {a b : Char} (h : Apart isWord a b) (rest : List Char) :
    bindMatcher isWord (some a) (b :: rest) = bindMatcher isWord none (b :: rest) := by
  by_cases hb : b = ':'
  · subst hb
    have ha : blocksBind isWord a = false :=
      Bool.eq_false_iff.mpr fun hBlocks => h.before_colon ⟨hBlocks, rfl⟩
    simp [bindMatcher, ha]
  · simp [bindMatcher, hb]

/-- Texts that are apart are scanned one after the other. -/
theorem scan_append {front back : List Char}
    (h : ∀ a ∈ front.getLast?, ∀ b ∈ back.head?, Apart isWord a b) :
    scan (bindMatcher isWord) (front ++ back) =
      scan (bindMatcher isWord) front ++ scan (bindMatcher isWord) back := by
  rw [scan, scanFrom_append bindMatcher_bounded (bindMatcher_stable h) none (Nat.zero_le _),
    Option.or_none]
  refine congrArg _ (scanFrom_congr_prev ?_)
  cases back with
  | nil => rfl
  | cons b rest =>
      cases hLast : front.getLast? with
      | none => rfl
      | some a => exact bindMatcher_prev (h a hLast b rfl) rest

end BindMatcher

/-! ### Wrapped statements -/

section Wrapped

variable (U : Unicode)

/-- Nothing runs on between an opening parenthesis and what follows it. -/
theorem apart_open (b : Char) : Apart U.isWord '(' b := by
  have hWord : U.isWord '(' = false := U.isWord_ascii '(' (by decide)
  exact ⟨by simp [hWord], by simp, by simp [blocksBind, hWord], by simp⟩

/-- Nothing runs on between a text and a closing parenthesis. -/
theorem apart_close (a : Char) : Apart U.isWord a ')' := by
  have hWord : U.isWord ')' = false := U.isWord_ascii ')' (by decide)
  exact ⟨by simp [hWord], by simp [hWord], by simp, by simp⟩

/-- A statement in parentheses keeps its binds. -/
theorem items_wrapped {front back : String} (sql : String)
    (hFront : front.toList.getLast? = some '(') (hBack : back.toList.head? = some ')') :
    (text U (front ++ sql ++ back)).items =
      (text U front).items ++ (text U sql).items ++ (text U back).items := by
  have hClose : scan (bindMatcher U.isWord) (sql.toList ++ back.toList) = _ :=
    scan_append fun a _ b hb => by
      rw [hBack] at hb
      cases hb
      exact apart_close U a
  have hOpen : scan (bindMatcher U.isWord)
      (front.toList ++ (sql.toList ++ back.toList)) = _ :=
    scan_append fun a ha b _ => by
      rw [hFront] at ha
      cases ha
      exact apart_open U b
  rw [text, String.toList_append, String.toList_append, List.append_assoc, hOpen, hClose,
    ← List.append_assoc]
  rfl

theorem mem_bindNames_wrapped {front back sql : String}
    (hFront : front.toList.getLast? = some '(') (hBack : back.toList.head? = some ')')
    {name : String} (h : name ∈ (text U sql).bindNames) :
    name ∈ (text U (front ++ sql ++ back)).bindNames := by
  rw [TextClause.bindNames, items_wrapped U sql hFront hBack, matchesOf_append,
    matchesOf_append, List.map_append, List.map_append]
  exact List.mem_append_left _ (List.mem_append_right _ h)

end Wrapped

end QueryEngine
end DataApi
