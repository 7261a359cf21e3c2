import DataApi.QueryEngine.PiiMapper

/-!
# What PII mapping returns

The rule of 32 and 33 characters is stated on texts: a cached token stands for its
value, also when one more character follows both.  From it comes what a ruled column
holds after mapping, and which fields are reported as missing.
-/

namespace DataApi
namespace QueryEngine

open Library PiiCache

section Tokens

variable {piiCache : Dict String String} {token mapped : String}

/-- A cached token stands for its value, and so do the two when the same character
follows both. -/
inductive TokenMapsTo (piiCache : Dict String String) : String → String → Prop where
  | whole {token mapped : String} (hLength : token.length = 32)
      (hCached : piiCache.get? token = some mapped) : TokenMapsTo piiCache token mapped
  | suffixed {token mapped : String} (last : Char) (hLength : token.length = 32)
      (hCached : piiCache.get? token = some mapped) :
      TokenMapsTo piiCache (token.push last) (mapped.push last)

/-- What a text stands for is a cached value, possibly with one more character. -/
theorem TokenMapsTo.cached (hMaps : TokenMapsTo piiCache token mapped) :
    ∃ t m, piiCache.get? t = some m ∧ (mapped = m ∨ ∃ last, mapped = m.push last) := by
  cases hMaps with
  | whole _ hCached => exact ⟨token, mapped, hCached, .inl rfl⟩
  | @suffixed token mapped last _ hCached =>
      exact ⟨token, mapped, hCached, .inr ⟨last, rfl⟩⟩

theorem push_eq_append (s : String) (c : Char) : s.push c = s ++ String.ofList [c] :=
  String.toList_inj.mp (by simp)

/-- A text of 33 characters is 32 characters and one more. -/
theorem exists_push_of_length (h : token.length = 33) :
    ∃ last, token.toList.drop 32 = [last] ∧
      (String.ofList (token.toList.take 32)).push last = token := by
  rw [← String.length_toList] at h
  obtain ⟨last, hLast⟩ := List.length_eq_one_iff.mp
    (by rw [List.length_drop, h] : (token.toList.drop 32).length = 1)
  refine ⟨last, hLast, String.toList_inj.mp ?_⟩
  rw [String.toList_push, String.toList_ofList, ← hLast, List.take_append_drop]

/-- The computed mapping is the one of the rule. -/
theorem mapToken_eq_some : mapToken piiCache token = some mapped ↔
    TokenMapsTo piiCache token mapped := by
  constructor
  · intro hMap
    unfold mapToken at hMap
    split at hMap
    · rename_i hLength
      exact .whole hLength hMap
    · split at hMap
      · rename_i hLength
        obtain ⟨value, hCached, rfl⟩ := Option.map_eq_some_iff.mp hMap
        obtain ⟨last, hLast, hPush⟩ := exists_push_of_length hLength
        rw [hLast, ← push_eq_append]
        conv => arg 2; rw [← hPush]
        refine .suffixed last ?_ hCached
        rw [← String.length_toList, String.toList_ofList, List.length_take,
          String.length_toList, hLength]
        rfl
      · cases hMap
  · intro hMaps
    cases hMaps with
    | whole hLength hCached => rw [mapToken, if_pos hLength, hCached]
    | @suffixed token mapped last hLength hCached =>
        have hTake : token.toList.length = 32 := by rw [String.length_toList, hLength]
        have hPush : (token.push last).length = 33 := by rw [String.length_push, hLength]
        rw [mapToken, if_neg (by omega), if_pos hPush, String.toList_push,
          List.take_left' hTake, List.drop_left' hTake, String.ofList_toList, hCached,
          push_eq_append]
        rfl

end Tokens

section Fields

variable {P : Scalars} (B : Builtins P) (piiCache : Dict String String)

/-- What a ruled field becomes: null stays null, a value becomes what its text stands
for, or null if the text stands for nothing. -/
inductive FieldMapsTo : PyValue P → PyValue P → Prop where
  | null : FieldMapsTo .none .none
  | value {value : PyValue P} {mapped : String} (hValue : value ≠ .none)
      (hMaps : TokenMapsTo piiCache (B.str value) mapped) :
      FieldMapsTo value (.str mapped)
  | missing {value : PyValue P} (hValue : value ≠ .none)
      (hMissing : ∀ mapped, ¬ TokenMapsTo piiCache (B.str value) mapped) :
      FieldMapsTo value .none

/-- The value that is written to a ruled field. -/
def mapField (value : PyValue P) : PyValue P :=
  (transformByTokenLength B value piiCache).getD .none

theorem transformByTokenLength_of_ne_none {value : PyValue P} (hValue : value ≠ .none) :
    transformByTokenLength B value piiCache =
      (mapToken piiCache (B.str value)).map .str := by
  cases value <;> first | rfl | exact absurd rfl hValue

theorem fieldMapsTo_mapField (value : PyValue P) :
    FieldMapsTo B piiCache value (mapField B piiCache value) := by
  by_cases hValue : value = .none
  · subst hValue
    exact .null
  · rw [mapField, transformByTokenLength_of_ne_none B piiCache hValue]
    cases hMap : mapToken piiCache (B.str value) with
    | some mapped => exact .value hValue (mapToken_eq_some.mp hMap)
    | none =>
        refine .missing hValue fun mapped hMaps => ?_
        rw [mapToken_eq_some.mpr hMaps] at hMap
        cases hMap

/-- What a field held before it was turned into null, if it was. -/
def turnedNull : Option (PyValue P) → Option (PyValue P) → Option (PyValue P)
  | some .none, _ => none
  | some value, some .none => some value
  | _, _ => none

/-- The fields of a row that were turned into null, in the order of the columns. -/
def nulledFields (columns : List String) (row row' : Row P) :
    List (MissingPiiMapping P) :=
  columns.filterMap fun column =>
    (turnedNull (row.get? column) (row'.get? column)).map (MissingPiiMapping.mk column)

/-- Every rule is the one by token length. -/
def ByTokenLength (rules : List (String × PiiColumnRule P)) : Prop :=
  ∀ entry ∈ rules, entry.2.transformer = transformByTokenLength B

variable {B} {columnName : String} {rule : PiiColumnRule P}
  {rules : List (String × PiiColumnRule P)}

/-- One rule: it keeps the keys, changes its own column only, and reports the field if
it turns it into null. -/
theorem mapColumn_spec (row : Row P)
    (hRule : rule.transformer = transformByTokenLength B) :
    (mapColumn piiCache columnName rule row).1.keys = row.keys ∧
    (∀ column, (mapColumn piiCache columnName rule row).1.get? column =
      if column = columnName then (row.get? column).map (mapField B piiCache)
      else row.get? column) ∧
    (mapColumn piiCache columnName rule row).2 =
      ((turnedNull (row.get? columnName)
        ((row.get? columnName).map (mapField B piiCache))).map
          (MissingPiiMapping.mk columnName)).toList := by
  unfold mapColumn
  split
  · rename_i hAbsent
    refine ⟨rfl, fun column => ?_, by rw [hAbsent]; rfl⟩
    split
    · rename_i hColumn
      rw [hColumn, hAbsent]
      rfl
    · rfl
  · rename_i hNull
    refine ⟨rfl, fun column => ?_, by rw [hNull]; rfl⟩
    split
    · rename_i hColumn
      rw [hColumn, hNull]
      rfl
    · rfl
  · rename_i value hNe hGet
    have hMem : columnName ∈ row.keys := (row.mem_keys_iff columnName).mpr ⟨value, hGet⟩
    have hTransformed := transformByTokenLength_of_ne_none B piiCache hNe
    rw [hRule, hGet, Option.map_some, mapField, hTransformed]
    cases hMap : mapToken piiCache (B.str value) with
    | some mapped =>
        refine ⟨Dict.keys_set_of_mem _ hMem, fun column => ?_, ?_⟩
        · rw [Option.map_some, Dict.get?_set]
          split
          · rename_i hColumn
            rw [hColumn, hGet, Option.map_some, mapField, hTransformed, hMap]
            rfl
          · rfl
        · cases value <;> rfl
    | none =>
        refine ⟨Dict.keys_set_of_mem _ hMem, fun column => ?_, ?_⟩
        · rw [Option.map_none, Dict.get?_set]
          split
          · rename_i hColumn
            rw [hColumn, hGet, Option.map_some, mapField, hTransformed, hMap]
            rfl
          · rfl
        · cases value <;> first | rfl | exact absurd rfl hNe

/-- All rules: the keys are kept, each ruled column is mapped once, and the fields
turned into null are reported in the order of the rules. -/
theorem mapRow_spec (row : Row P) (hRules : ByTokenLength B rules)
    (hNodup : (rules.map Prod.fst).Nodup) :
    (mapRow piiCache rules row).1.keys = row.keys ∧
    (∀ column, (mapRow piiCache rules row).1.get? column =
      if column ∈ rules.map Prod.fst then (row.get? column).map (mapField B piiCache)
      else row.get? column) ∧
    (mapRow piiCache rules row).2 = (rules.map Prod.fst).filterMap fun column =>
      (turnedNull (row.get? column)
        ((row.get? column).map (mapField B piiCache))).map
          (MissingPiiMapping.mk column) := by
  induction rules generalizing row with
  | nil => exact ⟨rfl, fun column => (by simp [mapRow]), rfl⟩
  | cons entry rest ih =>
      obtain ⟨columnName, rule⟩ := entry
      rw [List.map_cons, List.nodup_cons] at hNodup
      obtain ⟨hKeys, hGet, hMissing⟩ :=
        mapColumn_spec piiCache row (hRules (columnName, rule) List.mem_cons_self)
      obtain ⟨hKeys', hGet', hMissing'⟩ :=
        ih (mapColumn piiCache columnName rule row).1
          (fun e he => hRules e (List.mem_cons_of_mem _ he)) hNodup.2
      -- the first rule leaves the columns of the others as they are
      have hOther : ∀ column ∈ rest.map Prod.fst,
          (mapColumn piiCache columnName rule row).1.get? column = row.get? column := by
        intro column hColumn
        rw [hGet, if_neg]
        rintro rfl
        exact hNodup.1 hColumn
      refine ⟨hKeys'.trans hKeys, fun column => ?_, ?_⟩
      · rw [mapRow, hGet']
        by_cases hRest : column ∈ rest.map Prod.fst
        · rw [if_pos hRest, hOther column hRest, if_pos]
          exact List.mem_cons_of_mem _ hRest
        · rw [if_neg hRest, hGet]
          simp only [List.map_cons, List.mem_cons, hRest, or_false]
      · rw [mapRow, hMissing', hMissing, List.map_cons, List.filterMap_cons]
        rw [List.filterMap_congr fun column hColumn => by rw [hOther column hColumn]]
        generalize (turnedNull (row.get? columnName) _).map _ = reported
        cases reported <;> rfl

/-- A mapped row: the keys of the row in their order, the columns without a rule as they
were, and the ruled ones mapped. -/
structure MappedRow (B : Builtins P) (piiCache : Dict String String)
    (columns : List String) (row row' : Row P) : Prop where
  keys : row'.keys = row.keys
  unruled : ∀ column, column ∉ columns → row'.get? column = row.get? column
  ruled : ∀ column ∈ columns, ∀ value, row.get? column = some value →
    ∃ value', row'.get? column = some value' ∧ FieldMapsTo B piiCache value value'

theorem mappedRow_mapRow (row : Row P) (hRules : ByTokenLength B rules)
    (hNodup : (rules.map Prod.fst).Nodup) :
    MappedRow B piiCache (rules.map Prod.fst) row (mapRow piiCache rules row).1 := by
  obtain ⟨hKeys, hGet, -⟩ := mapRow_spec piiCache row hRules hNodup
  refine ⟨hKeys, fun column hColumn => ?_, fun column hColumn value hValue => ?_⟩
  · rw [hGet, if_neg hColumn]
  · refine ⟨mapField B piiCache value, ?_, fieldMapsTo_mapField B piiCache value⟩
    rw [hGet, if_pos hColumn, hValue, Option.map_some]

/-- What is reported for a row are the fields that were turned into null. -/
theorem mapRow_missing (row : Row P) (hRules : ByTokenLength B rules)
    (hNodup : (rules.map Prod.fst).Nodup) :
    (mapRow piiCache rules row).2 =
      nulledFields (rules.map Prod.fst) row (mapRow piiCache rules row).1 := by
  obtain ⟨-, hGet, hMissing⟩ := mapRow_spec piiCache row hRules hNodup
  rw [hMissing, nulledFields]
  refine List.filterMap_congr fun column hColumn => ?_
  rw [hGet, if_pos hColumn]

/-- No token is left in a mapped field: it is null, or the text is the value of a cached
token, possibly with one more character. -/
def HoldsNoToken (piiCache : Dict String String) (value : PyValue P) : Prop :=
  value = .none ∨ ∃ token mapped, piiCache.get? token = some mapped ∧
    (value = .str mapped ∨ ∃ last, value = .str (mapped.push last))

theorem FieldMapsTo.holdsNoToken {value value' : PyValue P}
    (hMaps : FieldMapsTo B piiCache value value') : HoldsNoToken piiCache value' := by
  cases hMaps with
  | null => exact .inl rfl
  | missing => exact .inl rfl
  | value _ hToken =>
      obtain ⟨token, base, hCached, hText | ⟨last, hText⟩⟩ := hToken.cached
      · exact .inr ⟨token, base, hCached, .inl (congrArg PyValue.str hText)⟩
      · exact .inr ⟨token, base, hCached, .inr ⟨last, congrArg PyValue.str hText⟩⟩

end Fields

section Results

variable {P : Scalars} {B : Builtins P} {cache : AccountMapInMemory} {spec : QuerySpec P}

/-- What `map_pii_fields` returns: the rows one by one mapped, and the fields that were
turned into null in row order and then rule order; no token is left. -/
structure MappingSpec (B : Builtins P) (cache : AccountMapInMemory) (spec : QuerySpec P)
    (rows mapped : List (Row P)) (missing : List (MissingPiiMapping P)) : Prop where
  mappedRows : List.Forall₂ (MappedRow B cache.tokenToValue spec.columnPiiRules.keys)
    rows mapped
  nulled : missing =
    (List.zipWith (nulledFields spec.columnPiiRules.keys) rows mapped).flatten
  noToken : ∀ row ∈ mapped, ∀ column ∈ spec.columnPiiRules.keys, ∀ value,
    row.get? column = some value → HoldsNoToken cache.tokenToValue value

/-- `map_pii_fields` does what PII mapping is specified to do. -/
theorem mapPiiFields_mappingSpec (rows : List (Row P))
    (hRules : ByTokenLength B spec.columnPiiRules.entries)
    (hNonempty : spec.columnPiiRules.entries ≠ []) :
    ∃ mapped missing, mapPiiFields cache rows spec = .ok (mapped, missing) ∧
      MappingSpec B cache spec rows mapped missing := by
  have hRow := fun row => mappedRow_mapRow cache.tokenToValue row hRules
    spec.columnPiiRules.nodup
  refine ⟨_, _, by rw [mapPiiFields, if_neg hNonempty], ?_, ?_, ?_⟩
  · rw [List.map_map, List.forall₂_map_right_iff]
    exact List.forall₂_same.mpr fun row _ => hRow row
  · rw [List.map_map, List.map_map, List.zipWith_map_right, List.zipWith_self]
    refine congrArg List.flatten (List.map_congr_left fun row _ => ?_)
    exact mapRow_missing cache.tokenToValue row hRules spec.columnPiiRules.nodup
  · intro row' hRow' column hColumn value' hValue'
    rw [List.map_map] at hRow'
    obtain ⟨row, -, rfl⟩ := List.mem_map.mp hRow'
    -- a field that is there after the mapping was there before it
    have hMem : column ∈ row.keys := by
      rw [← (hRow row).keys]
      exact (Dict.mem_keys_iff _ _).mpr ⟨value', hValue'⟩
    obtain ⟨value, hValue⟩ := (row.mem_keys_iff column).mp hMem
    obtain ⟨mapped, hMapped, hMaps⟩ := (hRow row).ruled column hColumn value hValue
    rw [Function.comp_apply, hMapped] at hValue'
    cases hValue'
    exact hMaps.holdsNoToken

theorem byTokenLength_singleRule (columnName : String) :
    ByTokenLength B (singleRule B columnName).entries := by
  intro entry hEntry
  cases List.mem_singleton.mp hEntry
  rfl

/-- A cached token and a number, mapped by the rule of their column. -/
theorem mapPiiFields_mappingSpec_twoRows :
    ∃ mapped missing,
      mapPiiFields
        (AccountMapInMemory.new.addRecord
          ⟨"0123456789abcdef0123456789abcdef", "uuid-1", none⟩)
        [Dict.empty.set "accountid" (.str "0123456789abcdef0123456789abcdef"),
          Dict.empty.set "accountid" (.int 7)]
        ⟨"accounts", singleRule Builtins.plain "accountid"⟩ = .ok (mapped, missing) ∧
      MappingSpec Builtins.plain
        (AccountMapInMemory.new.addRecord
          ⟨"0123456789abcdef0123456789abcdef", "uuid-1", none⟩)
        ⟨"accounts", singleRule Builtins.plain "accountid"⟩
        [Dict.empty.set "accountid" (.str "0123456789abcdef0123456789abcdef"),
          Dict.empty.set "accountid" (.int 7)] mapped missing :=
  mapPiiFields_mappingSpec _ (byTokenLength_singleRule "accountid") (List.cons_ne_nil _ _)

end Results

end QueryEngine
end DataApi
