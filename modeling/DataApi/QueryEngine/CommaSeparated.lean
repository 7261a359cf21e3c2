import DataApi.Library.SeparatedText
import DataApi.QueryEngine.ParameterValues

/-!
# Comma-separated values

The texts of Python as separated texts: `",".join`, `split(",")` and `strip`.  The list
cast of the dynamic parameters reads the items of the texts it is given, and refuses
blank ones.
-/

namespace DataApi
namespace QueryEngine

open Library

section Texts

theorem splitComma_intercalate (texts : List String) (hSome : texts ≠ []) :
    splitComma (",".intercalate texts) = texts.flatMap splitComma := by
  have hJoined : (",".intercalate texts).toList = [','].intercalate (texts.map String.toList) :=
    String.toList_intercalate
  have hChars : texts.map String.toList ≠ [] := fun hNone => hSome (List.map_eq_nil_iff.mp hNone)
  have hSplit : ([','].intercalate (texts.map String.toList)).splitOn ',' =
      (texts.map String.toList).flatMap fun text => text.splitOn ',' :=
    splitOn_intercalate_flatMap hChars
  rw [splitComma, hJoined, hSplit, List.flatMap_map, List.map_flatMap]
  rfl

theorem noComma_of_mem_splitComma (text piece : String) (hPiece : piece ∈ splitComma text) :
    ',' ∉ piece.toList := by
  obtain ⟨chars, hChars, rfl⟩ := List.mem_map.mp hPiece
  rw [String.toList_ofList]
  exact not_mem_of_mem_splitOn hChars

theorem splitComma_of_noComma (piece : String) (hPiece : ',' ∉ piece.toList) :
    splitComma piece = [piece] := by
  rw [splitComma, List.splitOn_eq_singleton hPiece, List.map_singleton, String.ofList_toList]

theorem noComma_strip (piece : String) (hPiece : ',' ∉ piece.toList) :
    ',' ∉ (strip piece).toList :=
  fun hMem => hPiece (mem_of_mem_strip hMem)

/-- Texts with commas between their items. -/
def commaSeparated : SeparatedText String where
  split := splitComma
  join := ",".intercalate
  trim := strip
  IsPiece piece := ',' ∉ piece.toList
  split_join := splitComma_intercalate
  isPiece_of_mem_split := noComma_of_mem_splitComma
  split_of_isPiece := splitComma_of_noComma
  isPiece_trim := noComma_strip
  trim_trim := strip_strip

/-- A text that is not empty and has no comma and no white space at its ends. -/
structure CleanItem (item : String) : Prop where
  filled : item ≠ ""
  noComma : ',' ∉ item.toList
  noLeading : ∀ c ∈ item.toList.head?, isSpace c = false
  noTrailing : ∀ c ∈ item.toList.getLast?, isSpace c = false

/-- The items that are not blank are clean. -/
theorem cleanItem_of_isItem {item : String} (hItem : commaSeparated.IsItem item)
    (hFilled : item ≠ "") : CleanItem item := by
  obtain ⟨hPiece, hStripped⟩ := hItem
  have hSame : strip item = item := hStripped
  exact ⟨hFilled, hPiece, hSame ▸ isSpace_head?_strip item, hSame ▸ isSpace_getLast?_strip item⟩

theorem CleanItem.isItem {item : String} (hClean : CleanItem item) :
    commaSeparated.IsItem item :=
  ⟨hClean.noComma, strip_of_ends hClean.noLeading hClean.noTrailing⟩

end Texts

section Cast

variable {P : Scalars}

/-- The parts of a list of texts are its items. -/
theorem castListParts_texts (name : String) (texts : List String) :
    castListParts name (texts.map .str : List (PyValue P)) = .ok (commaSeparated.items texts) := by
  induction texts with
  | nil => rfl
  | cons text rest ih =>
      rw [List.map_cons, castListParts, ih]
      rfl

end Cast

end QueryEngine
end DataApi
