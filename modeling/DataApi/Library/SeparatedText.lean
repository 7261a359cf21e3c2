import Mathlib.Data.List.Basic

/-!
# Texts with separators

A list of values may come as one text with separators, as several texts, or as a mixture
of both.  Reading it means to split every text at the separators and to trim the pieces.
The items that are read depend on the joined text only, not on the way in which the
values are grouped, and reading the items again gives the items.
-/

namespace DataApi
namespace Library

section Split

variable {α : Type*} [BEq α] [LawfulBEq α] {sep : α}

/-- Splitting what was joined is splitting the parts. -/
theorem splitOn_intercalate_flatMap {texts : List (List α)} (hSome : texts ≠ []) :
    ([sep].intercalate texts).splitOn sep = texts.flatMap fun text => text.splitOn sep := by
  induction texts with
  | nil => exact absurd rfl hSome
  | cons text rest ih =>
      cases rest with
      | nil => simp
      | cons next rest =>
          calc ([sep].intercalate (text :: next :: rest)).splitOn sep
              = (text ++ sep :: [sep].intercalate (next :: rest)).splitOn sep := by simp
            _ = text.splitOn sep ++ ([sep].intercalate (next :: rest)).splitOn sep :=
                List.splitOn_append_cons_self _ _
            _ = (text :: next :: rest).flatMap fun text => text.splitOn sep := by
                rw [ih (List.cons_ne_nil _ _)]
                exact List.flatMap_cons.symm

/-- No piece of a split contains the separator. -/
theorem not_mem_of_mem_splitOn {text piece : List α} (hPiece : piece ∈ text.splitOn sep) :
    sep ∉ piece := by
  induction text generalizing piece with
  | nil =>
      rw [List.splitOn_nil, List.mem_singleton] at hPiece
      subst hPiece
      exact List.not_mem_nil
  | cons c text ih =>
      rw [List.splitOn_cons_eq_if_modifyHead] at hPiece
      split at hPiece
      · rcases List.mem_cons.mp hPiece with rfl | hRest
        · exact List.not_mem_nil
        · exact ih hRest
      · rename_i hOther
        -- the character goes to the first piece of the rest
        obtain ⟨first, others, hSplit⟩ := List.exists_cons_of_ne_nil (List.splitOn_ne_nil sep text)
        rw [hSplit, List.modifyHead_cons] at hPiece
        rcases List.mem_cons.mp hPiece with rfl | hRest
        · have hFirst : sep ∉ first := ih (hSplit ▸ List.mem_cons_self)
          intro hMem
          rcases List.mem_cons.mp hMem with rfl | hMem
          · exact hOther BEq.rfl
          · exact hFirst hMem
        · exact ih (hSplit ▸ List.mem_cons_of_mem _ hRest)

end Split

/-- Texts that can be split and joined, and the trimming of the pieces.  The pieces are
the texts without a separator. -/
structure SeparatedText (Text : Type*) where
  split : Text → List Text
  join : List Text → Text
  trim : Text → Text
  IsPiece : Text → Prop
  split_join : ∀ texts, texts ≠ [] → split (join texts) = texts.flatMap split
  isPiece_of_mem_split : ∀ text, ∀ piece ∈ split text, IsPiece piece
  split_of_isPiece : ∀ piece, IsPiece piece → split piece = [piece]
  isPiece_trim : ∀ piece, IsPiece piece → IsPiece (trim piece)
  trim_trim : ∀ text, trim (trim text) = trim text

namespace SeparatedText

variable {Text : Type*} (S : SeparatedText Text)

/-- The items of a list of texts: the trimmed pieces. -/
def items (texts : List Text) : List Text :=
  texts.flatMap fun text => (S.split text).map S.trim

/-- A piece with nothing to trim. -/
def IsItem (item : Text) : Prop := S.IsPiece item ∧ S.trim item = item

variable {S}

theorem items_cons (text : Text) (rest : List Text) :
    S.items (text :: rest) = (S.split text).map S.trim ++ S.items rest :=
  List.flatMap_cons

/-- The items of several texts are those of the joined text. -/
theorem items_eq_join {texts : List Text} (hSome : texts ≠ []) :
    S.items texts = (S.split (S.join texts)).map S.trim := by
  rw [S.split_join texts hSome, items, List.map_flatMap]

/-- The grouping does not matter. -/
theorem items_eq_of_join {first second : List Text} (hFirst : first ≠ [])
    (hSecond : second ≠ []) (hJoin : S.join first = S.join second) :
    S.items first = S.items second := by
  rw [items_eq_join hFirst, items_eq_join hSecond, hJoin]

theorem isItem_of_mem {texts : List Text} {item : Text} (hItem : item ∈ S.items texts) :
    S.IsItem item := by
  obtain ⟨text, -, hText⟩ := List.mem_flatMap.mp hItem
  obtain ⟨piece, hPiece, rfl⟩ := List.mem_map.mp hText
  exact ⟨S.isPiece_trim piece (S.isPiece_of_mem_split text piece hPiece), S.trim_trim piece⟩

/-- Items are read as they are. -/
theorem items_of_isItem {texts : List Text} (hItems : ∀ item ∈ texts, S.IsItem item) :
    S.items texts = texts := by
  have hOne : ∀ item ∈ texts, (S.split item).map S.trim = [item] := by
    intro item hItem
    obtain ⟨hPiece, hTrim⟩ := hItems item hItem
    rw [S.split_of_isPiece item hPiece, List.map_singleton, hTrim]
  rw [items, List.flatMap_congr hOne]
  exact List.flatMap_singleton' texts

end SeparatedText

end Library
end DataApi
