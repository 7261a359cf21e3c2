import DataApi.Schemas.PowerBi

/-!
# The two parsers of lists

`_split_filter_values` drops blank items, `_cast_string_list` refuses them.  For both,
repeated and comma-separated values are interchangeable: the outcome depends on the values
joined with commas only.
-/

namespace DataApi
namespace QueryEngine

open Library Schemas

/-- What repeated and comma-separated values have in common: `parse` gives the same list
for both or refuses both, the items it gives are clean, and it reads its own result as it
is.  `listOf` is the result with given items. -/
structure GroupingFree {P : Scalars} {Error Result : Type} (listOf : List String → Result)
    (parse : List (PyValue P) → Except Error Result) : Prop where
  grouping : ∀ first second : List String, first ≠ [] → second ≠ [] →
    ",".intercalate first = ",".intercalate second →
    parse (first.map .str) = parse (second.map .str)
  items : ∀ (values : List String) (result : Result), parse (values.map .str) = .ok result →
    ∃ items : List String, result = listOf items ∧ (∀ item ∈ items, CleanItem item) ∧
      (items ≠ [] → parse (items.map .str) = .ok result)

section Parsers

variable {P : Scalars}

/-- The cast of a list of texts, by its items. -/
theorem castStringList_texts (name : String) (texts : List String) :
    castStringList (texts.map .str : List (PyValue P)) name =
      if commaSeparated.items texts = [] ∨ "" ∈ commaSeparated.items texts then
        .error (.app (dynamicParameterError "dynamic_parameter_invalid"
          ("Parameter '" ++ name ++ "' must contain non-empty strings")
          [("parameter", .text name)]))
      else .ok (.list ((commaSeparated.items texts).map .str)) := by
  rw [castStringList, castListParts_texts]
  rfl

/-- Values that are joined to one text have the same items. -/
theorem items_eq_of_intercalate {first second : List String} (hFirst : first ≠ [])
    (hSecond : second ≠ []) (hJoin : ",".intercalate first = ",".intercalate second) :
    commaSeparated.items first = commaSeparated.items second :=
  SeparatedText.items_eq_of_join hFirst hSecond hJoin

/-- Blank items are dropped. -/
theorem splitFilterValues_groupingFree (fieldName : String) :
    GroupingFree (P := P) id (splitFilterValues fieldName) where
  grouping first second hFirst hSecond hJoin := by
    rw [splitFilterValues_texts, splitFilterValues_texts,
      items_eq_of_intercalate hFirst hSecond hJoin]
  items values result hResult := by
    have hClean := clean_of_splitFilterValues hResult
    exact ⟨result, rfl, hClean, fun _ => splitFilterValues_clean fieldName hClean⟩

/-- Blank items are refused. -/
theorem castStringList_groupingFree (name : String) :
    GroupingFree (P := P) (fun items => .list (items.map .str))
      (fun values => castStringList values name) where
  grouping first second hFirst hSecond hJoin := by
    rw [castStringList_texts, castStringList_texts,
      items_eq_of_intercalate hFirst hSecond hJoin]
  items values result hResult := by
    rw [castStringList_texts] at hResult
    split at hResult
    · cases hResult
    · rename_i hFilled
      cases hResult
      rw [not_or] at hFilled
      have hItem : ∀ item ∈ commaSeparated.items values, commaSeparated.IsItem item :=
        fun item hMem => SeparatedText.isItem_of_mem hMem
      refine ⟨commaSeparated.items values, rfl, fun item hMem => ?_, fun hSome => ?_⟩
      · exact cleanItem_of_isItem (hItem item hMem) fun hBlank => hFilled.2 (hBlank ▸ hMem)
      · rw [castStringList_texts, SeparatedText.items_of_isItem hItem]
        exact if_neg (not_or.mpr hFilled)

/-- Repeated and comma-separated values are interchangeable in both parsers, and the first
one gives a list for all of them. -/
theorem listParsers_groupingFree (P : Scalars) (fieldName name : String) :
    GroupingFree (P := P) id (splitFilterValues fieldName) ∧
      (∀ values : List String, ∃ items,
        splitFilterValues fieldName (values.map .str : List (PyValue P)) = .ok items) ∧
      GroupingFree (P := P) (fun items => .list (items.map .str))
        (fun values => castStringList values name) :=
  ⟨splitFilterValues_groupingFree fieldName,
    fun values => ⟨_, splitFilterValues_texts fieldName values⟩,
    castStringList_groupingFree name⟩

end Parsers

end QueryEngine
end DataApi
