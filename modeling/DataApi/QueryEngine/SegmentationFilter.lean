import DataApi.QueryEngine.PowerBiService
import DataApi.Schemas.PowerBi

/-!
# The segmentation filter

The names of banks are compared without regard to case: Trino lower-cases the name of the
row, Python casefolds the requested values.  The two agree on ASCII, but not everywhere:
casefolding `ß` gives `ss`, and lower-casing leaves it.
-/

namespace DataApi
namespace QueryEngine

open Library Schemas

/-- What the Unicode tables say about `lower` and `casefold`: casefolding takes away every
difference of case, its own result included. -/
structure FoldsCase (lower casefold : String → String) : Prop where
  casefold_casefold : ∀ s, casefold (casefold s) = casefold s
  casefold_lower : ∀ s, casefold (lower s) = casefold s

section Filter

variable {P : Scalars} (E : Trino) (U : Unicode)

/-- The segmentation filter of a query. -/
def Trino.passesSegmentation (query : DeeplinkQuery) (event : EventRow) : Bool :=
  inFilters query.segmentationFilters ((elementAt event "bank_name").map E.lower)

/-- The rows of a bank pass the filter if and only if the name of the bank is requested, up
to lower case. -/
def SegmentationExact (query : DeeplinkQuery) (requested : List String) : Prop :=
  ∀ bankName, CleanItem bankName → ∀ event, Trino.elementAt event "bank_name" = some bankName →
    (E.passesSegmentation query event = true ↔
      ∃ value ∈ requested, U.lower bankName = U.lower value)

/-- An event that has the name of a bank and nothing else. -/
def bankEvent (bankName : String) : EventRow where
  timestamp := none
  segmentation := some ⟨[("bank_name", some bankName)], List.nodup_singleton _⟩
  accountid := none
  userAgent := none
  key := none

theorem elementAt_bankEvent (bankName : String) :
    Trino.elementAt (bankEvent bankName) "bank_name" = some bankName := rfl

/-- The filter is one of the conditions on an event, and the others do not depend on it. -/
theorem Trino.selects_eq (query : DeeplinkQuery) (event : EventRow) :
    E.selects query event =
      (E.selects { query with segmentationFilters := [] } event &&
        E.passesSegmentation query event) := by
  have hNone : ∀ value, inFilters [] value = true := fun _ => rfl
  unfold Trino.selects Trino.passesSegmentation
  rw [hNone, Bool.and_true]
  exact Bool.and_right_comm _ _ _

variable {E U} {query : DeeplinkQuery} {requested : List String}

/-- The rows that pass: their name in lower case is a casefolded value. -/
theorem passesSegmentation_iff (hFilters : query.segmentationFilters = requested.map P.casefold)
    (hSome : requested ≠ []) {event : EventRow} {bankName : String}
    (hBank : Trino.elementAt event "bank_name" = some bankName) :
    E.passesSegmentation query event = true ↔
      E.lower bankName ∈ requested.map P.casefold := by
  have hFilled : (requested.map P.casefold).isEmpty = false := by
    rw [List.isEmpty_eq_false_iff]
    exact fun hNone => hSome (List.map_eq_nil_iff.mp hNone)
  rw [Trino.passesSegmentation, hFilters, hBank, Trino.inFilters, hFilled]
  simp

/-- If both ways to take away the case agree on the requested values, the filter compares
lower case with lower case. -/
theorem segmentationExact_of_agree (hLower : E.lower = U.lower)
    (hFilters : query.segmentationFilters = requested.map P.casefold)
    (hSome : requested ≠ []) (hAgree : ∀ value ∈ requested, P.casefold value = U.lower value) :
    SegmentationExact E U query requested := by
  intro bankName _ event hBank
  rw [passesSegmentation_iff hFilters hSome hBank, hLower, List.map_congr_left hAgree,
    List.mem_map]
  constructor
  · rintro ⟨value, hValue, hSame⟩
    exact ⟨value, hValue, hSame.symm⟩
  · rintro ⟨value, hValue, hSame⟩
    exact ⟨value, hValue, hSame.symm⟩

/-- A filter that returns the rows of every requested bank is built from values on which
the two agree. -/
theorem agree_of_segmentationExact (hLower : E.lower = U.lower)
    (hFold : FoldsCase U.lower P.casefold)
    (hFilters : query.segmentationFilters = requested.map P.casefold)
    (hClean : ∀ value ∈ requested, CleanItem value)
    (hExact : SegmentationExact E U query requested) :
    ∀ value ∈ requested, P.casefold value = U.lower value := by
  intro value hValue
  have hSome : requested ≠ [] := List.ne_nil_of_mem hValue
  have hBank := elementAt_bankEvent value
  -- the value itself is the name of a bank, whose rows have to pass
  have hPasses := (hExact value (hClean value hValue) _ hBank).mpr ⟨value, hValue, rfl⟩
  rw [passesSegmentation_iff hFilters hSome hBank, hLower, List.mem_map] at hPasses
  obtain ⟨other, -, hOther⟩ := hPasses
  calc P.casefold value
      = P.casefold (U.lower value) := (hFold.casefold_lower value).symm
    _ = P.casefold (P.casefold other) := by rw [hOther]
    _ = U.lower value := by rw [hFold.casefold_casefold, hOther]

/-- For every request, the segmentation filter is exact up to lower case if and only if
casefolding and lower-casing agree on the requested values. -/
theorem segmentationExact_iff (hLower : E.lower = U.lower)
    (hFold : FoldsCase U.lower P.casefold) {today : Int} {payload : DeeplinkPayload P}
    {request : PowerBiDeeplinkRequest}
    (hRequested : normalizeFilterValues "segmentation" payload.segmentation = .ok requested)
    (hSome : requested ≠ [])
    (hValid : PowerBiDeeplinkRequest.modelValidate today payload = .ok request)
    (eventKey : String) (status : Option String) (accountIdFilters : List String) :
    SegmentationExact E U
        (buildPowerBiDeeplinkQuery P.casefold eventKey status request.arguments
          accountIdFilters) requested ↔
      ∀ value ∈ requested, P.casefold value = U.lower value := by
  obtain ⟨-, hSegmentation, -⟩ := modelValidate_eq_ok.mp hValid
  have hSame : requested = request.segmentation.1 :=
    Except.ok.inj (hRequested.symm.trans (validateFilter_eq_ok.mp hSegmentation))
  subst hSame
  exact ⟨agree_of_segmentationExact hLower hFold rfl request.segmentation.2,
    segmentationExact_of_agree hLower rfl hSome⟩

end Filter

/-! ### Two banks, and one that is not found -/

/-- The data of a request for the rows of some banks, on the day of the epoch. -/
def bankPayload (P : Scalars) (values : List String) : DeeplinkPayload P where
  startDate := some 0
  endDate := some 0
  segmentation := .list (values.map .str)

/-- The request with these data. -/
theorem modelValidate_bankPayload {P : Scalars} {values items : List String}
    (hItems : normalizeFilterValues "segmentation" (bankPayload P values).segmentation =
      .ok items) :
    ∃ request, PowerBiDeeplinkRequest.modelValidate 0 (bankPayload P values) = .ok request ∧
      request.arguments = ⟨0, 0, none, items, [], []⟩ := by
  have hNone : ∀ n ∈ (none : Option Nat), 1 ≤ n := fun _ h => (by cases h)
  have hNoItem : ∀ item ∈ ([] : List String), CleanItem item :=
    fun _ h => absurd h List.not_mem_nil
  refine ⟨⟨0, 0, ⟨none, hNone⟩, ⟨items, clean_of_normalizeFilterValues hItems⟩, ⟨[], hNoItem⟩,
    ⟨[], hNoItem⟩, le_refl 0⟩, ?_, rfl⟩
  exact modelValidate_eq_ok.mpr ⟨rfl, validateFilter_eq_ok.mpr hItems, rfl, rfl, rfl, rfl⟩

/-- On ASCII the two are one function. -/
theorem foldsCase_ascii : FoldsCase Unicode.ascii.lower Scalars.plain.casefold :=
  ⟨Unicode.ascii_lower_lower, Unicode.ascii_lower_lower⟩

theorem segmentationExact_twoBanks :
    ∃ request, PowerBiDeeplinkRequest.modelValidate 0 (bankPayload .plain ["VCB,ACB"]) =
        .ok request ∧
      SegmentationExact .plain .ascii
        (Deeplink.deeplink2.query .plain request.arguments []) ["VCB", "ACB"] := by
  have hItems : normalizeFilterValues "segmentation"
      (bankPayload .plain ["VCB,ACB"]).segmentation = .ok ["VCB", "ACB"] := by decide
  obtain ⟨request, hValid, -⟩ := modelValidate_bankPayload hItems
  refine ⟨request, hValid, ?_⟩
  exact (segmentationExact_iff rfl foldsCase_ascii hItems (List.cons_ne_nil _ _) hValid _ _ _).mpr
    fun value _ => rfl

/-- The casefolding of ASCII characters and of `ß`. -/
def casefoldSharpS (c : Char) : List Char := if c = 'ß' then ['s', 's'] else [c.toLower]

/-- Casefolding that knows `ß`. -/
def Scalars.sharpS : Scalars :=
  { Scalars.plain with casefold := fun s => String.ofList (s.toList.flatMap casefoldSharpS) }

theorem casefoldSharpS_toLower (c : Char) : casefoldSharpS c.toLower = casefoldSharpS c := by
  by_cases hSharp : c = 'ß'
  · subst hSharp
    decide
  · have hLower : c.toLower ≠ 'ß' := by
      intro hSame
      have hAlpha : c.isAlpha = false := by
        rw [← Char.isAlpha_toLower_eq_isAlpha, hSame]
        decide
      rw [Char.isAlpha, Bool.or_eq_false_iff] at hAlpha
      have hNotUpper : ¬ c.isUpper = true := Bool.eq_false_iff.mp hAlpha.1
      exact hSharp (Char.toLower_eq_of_not_isUpper hNotUpper ▸ hSame)
    rw [casefoldSharpS, casefoldSharpS, if_neg hLower, if_neg hSharp,
      Char.toLower_toLower_eq_toLower]

theorem casefoldSharpS_casefoldSharpS (c : Char) :
    (casefoldSharpS c).flatMap casefoldSharpS = casefoldSharpS c := by
  by_cases hSharp : c = 'ß'
  · subst hSharp
    decide
  · have hFold : casefoldSharpS c = [c.toLower] := if_neg hSharp
    rw [hFold, List.flatMap_singleton, casefoldSharpS_toLower, hFold]

theorem foldsCase_sharpS : FoldsCase Unicode.ascii.lower Scalars.sharpS.casefold where
  casefold_casefold s := by
    change String.ofList ((String.ofList (s.toList.flatMap casefoldSharpS)).toList.flatMap
      casefoldSharpS) = String.ofList (s.toList.flatMap casefoldSharpS)
    rw [String.toList_ofList, List.flatMap_assoc]
    exact congrArg String.ofList
      (List.flatMap_congr fun c _ => casefoldSharpS_casefoldSharpS c)
  casefold_lower s := by
    change String.ofList ((String.ofList (s.toList.map Char.toLower)).toList.flatMap
      casefoldSharpS) = String.ofList (s.toList.flatMap casefoldSharpS)
    rw [String.toList_ofList, List.flatMap_map]
    exact congrArg String.ofList (List.flatMap_congr fun c _ => casefoldSharpS_toLower c)

/-- A deeplink to the bank `Straße`. -/
def strasseEvent : EventRow where
  timestamp := some 0
  segmentation :=
    some ⟨[("bank_method", some "deeplink"), ("bank_name", some "Straße")], by decide⟩
  accountid := none
  userAgent := none
  key := some "topup_bank_app"

/-- Requesting exactly this bank does not return its row. -/
theorem strasse_lost :
    ∃ request, PowerBiDeeplinkRequest.modelValidate 0 (bankPayload .sharpS ["Straße"]) =
        .ok request ∧
      FoldsCase Unicode.ascii.lower Scalars.sharpS.casefold ∧ CleanItem "Straße" ∧
      Trino.plain.selects
        (Deeplink.deeplink2.query .sharpS
          { request.arguments with segmentationFilters := [] } []) strasseEvent = true ∧
      Trino.plain.selects (Deeplink.deeplink2.query .sharpS request.arguments [])
        strasseEvent = false ∧
      ¬ SegmentationExact .plain .ascii
        (Deeplink.deeplink2.query .sharpS request.arguments []) ["Straße"] := by
  have hItems : normalizeFilterValues "segmentation"
      (bankPayload .sharpS ["Straße"]).segmentation = .ok ["Straße"] := by decide
  have hClean : CleanItem "Straße" :=
    clean_of_normalizeFilterValues hItems "Straße" List.mem_cons_self
  obtain ⟨request, hValid, hArguments⟩ := modelValidate_bankPayload hItems
  have hFails : Trino.plain.passesSegmentation
      (Deeplink.deeplink2.query .sharpS request.arguments []) strasseEvent = false := by
    rw [hArguments]
    decide
  refine ⟨request, hValid, foldsCase_sharpS, hClean, ?_, ?_, fun hExact => ?_⟩
  · rw [hArguments]
    decide
  · rw [Trino.selects_eq, hFails, Bool.and_false]
  · have hPasses := (hExact "Straße" hClean strasseEvent rfl).mpr
      ⟨"Straße", List.mem_cons_self, rfl⟩
    cases hFails.symm.trans hPasses

end QueryEngine
end DataApi
