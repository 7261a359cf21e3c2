import DataApi.QueryEngine.CommaSeparated
import DataApi.QueryEngine.PowerBiQuery

/-!
# The schema of a deeplink request

`PowerBiDeeplinkRequest` splits the values of its three filters and checks the limit and
the order of the dates.  The values it holds are clean items, which their type says; a
request with a limit below 1, or whose dates are in the wrong order, cannot be built.

Dates are day numbers; that a payload has dates, an integer as its limit and values of
Python as its filters has been checked before.
-/

namespace DataApi
namespace Schemas

open Library QueryEngine

/-- An error of the validation: the field, or no field for the whole request, and the
message. -/
structure FieldError where
  loc : List String
  message : String
  deriving DecidableEq

/-- A `ValueError` that a validator raises. -/
def valueError (loc : List String) (message : String) : FieldError :=
  ⟨loc, "Value error, " ++ message⟩

section Filters

variable {P : Scalars}

/-- `_split_filter_values`; the error is the message of the `ValueError`. -/
def splitFilterValues (fieldName : String) :
    List (PyValue P) → Except String (List String)
  | [] => .ok []
  | .str value :: rest => do
      let normalized ← splitFilterValues fieldName rest
      return ((splitComma value).map strip).filter (· ≠ "") ++ normalized
  | _ :: _ => .error (fieldName ++ " must contain only strings")

/-- `normalize_filter_values`. -/
def normalizeFilterValues (fieldName : String) :
    PyValue P → Except String (List String)
  | .none => .ok []
  | .str value => splitFilterValues fieldName [(.str value : PyValue P)]
  | .list values => splitFilterValues fieldName values
  | _ => .error (fieldName ++ " must be a string or list of strings")

/-- Of a list of texts, the items that are not blank. -/
theorem splitFilterValues_texts (fieldName : String) (texts : List String) :
    splitFilterValues fieldName (texts.map .str : List (PyValue P)) =
      .ok ((commaSeparated.items texts).filter (· ≠ "")) := by
  induction texts with
  | nil => rfl
  | cons text rest ih =>
      rw [List.map_cons, splitFilterValues, ih, SeparatedText.items_cons, List.filter_append]
      rfl

/-- Only lists of texts are split. -/
theorem texts_of_splitFilterValues {fieldName : String} {values : List (PyValue P)}
    {items : List String} (hSplit : splitFilterValues fieldName values = .ok items) :
    ∃ texts : List String, values = texts.map .str := by
  induction values generalizing items with
  | nil => exact ⟨[], rfl⟩
  | cons value rest ih =>
      cases value with
      | str text =>
          rw [splitFilterValues, bind_eq_ok_iff] at hSplit
          obtain ⟨normalized, hRest, -⟩ := hSplit
          obtain ⟨texts, rfl⟩ := ih hRest
          exact ⟨text :: texts, rfl⟩
      | none | bool | int | float | date | datetime | list | other => cases hSplit

/-- What is left after splitting is clean. -/
theorem clean_of_splitFilterValues {fieldName : String} {values : List (PyValue P)}
    {items : List String} (hSplit : splitFilterValues fieldName values = .ok items) :
    ∀ item ∈ items, CleanItem item := by
  obtain ⟨texts, rfl⟩ := texts_of_splitFilterValues hSplit
  rw [splitFilterValues_texts] at hSplit
  cases hSplit
  intro item hItem
  obtain ⟨hMem, hFilled⟩ := List.mem_filter.mp hItem
  exact cleanItem_of_isItem (SeparatedText.isItem_of_mem hMem) (of_decide_eq_true hFilled)

end Filters

section Request

/-- A limit, which is left out or at least 1. -/
abbrev DeeplinkLimit := {limit : Option Nat // ∀ n ∈ limit, 1 ≤ n}

/-- The values of a filter. -/
abbrev FilterValues := {items : List String // ∀ item ∈ items, CleanItem item}

/-- `PowerBiDeeplinkRequest`. -/
structure PowerBiDeeplinkRequest where
  startDate : Int
  endDate : Int
  limit : DeeplinkLimit
  segmentation : FilterValues
  userAgent : FilterValues
  customerId : FilterValues
  ordered : startDate ≤ endDate

/-- The data of a request; a field that is left out has its default. -/
structure DeeplinkPayload (P : Scalars) where
  startDate : Option Int := none
  endDate : Option Int := none
  limit : Option Int := none
  segmentation : PyValue P := .list []
  userAgent : PyValue P := .list []
  customerId : PyValue P := .list []

variable {P : Scalars}

/-- `ge=1` of the limit. -/
def validateLimit : Option Int → Except FieldError DeeplinkLimit
  | none => .ok ⟨none, fun _ hNone => (by cases hNone)⟩
  | some n =>
      if hAtLeast : 1 ≤ n then
        .ok ⟨some n.toNat, fun m hSome => by cases hSome; omega⟩
      else .error ⟨["limit"], "Input should be greater than or equal to 1"⟩

/-- The outcome of `normalize_filter_values`. -/
theorem clean_of_normalizeFilterValues {fieldName : String} {value : PyValue P}
    {items : List String} (hNormalized : normalizeFilterValues fieldName value = .ok items) :
    ∀ item ∈ items, CleanItem item := by
  cases value with
  | none =>
      cases hNormalized
      exact fun item hItem => absurd hItem List.not_mem_nil
  | str value => exact clean_of_splitFilterValues hNormalized
  | list values => exact clean_of_splitFilterValues hNormalized
  | bool | int | float | date | datetime | other => cases hNormalized

/-- The validation of a filter. -/
def validateFilter (fieldName : String) (value : PyValue P) :
    Except FieldError FilterValues :=
  match hNormalized : normalizeFilterValues fieldName value with
  | .ok items => .ok ⟨items, clean_of_normalizeFilterValues hNormalized⟩
  | .error message => .error (valueError [fieldName] message)

/-- The error of a field, if there is one. -/
def errorsOf {α : Type} : Except FieldError α → List FieldError
  | .ok _ => []
  | .error error => [error]

/-- `model_validate`: the errors of all fields, or, when there are none, the one of
`validate_date_range`. -/
def PowerBiDeeplinkRequest.modelValidate (today : Int) (payload : DeeplinkPayload P) :
    Except (List FieldError) PowerBiDeeplinkRequest :=
  let startDate := payload.startDate.getD (today - 1)
  let endDate := payload.endDate.getD today
  match validateLimit payload.limit, validateFilter "segmentation" payload.segmentation,
    validateFilter "user_agent" payload.userAgent,
    validateFilter "customer_id" payload.customerId with
  | .ok limit, .ok segmentation, .ok userAgent, .ok customerId =>
      if ordered : startDate ≤ endDate then
        .ok ⟨startDate, endDate, limit, segmentation, userAgent, customerId, ordered⟩
      else .error [valueError [] "start_date must be before or equal to end_date"]
  | limit, segmentation, userAgent, customerId =>
      .error (errorsOf limit ++ errorsOf segmentation ++ errorsOf userAgent ++
        errorsOf customerId)

/-- What the endpoints hand to the service. -/
def PowerBiDeeplinkRequest.arguments (request : PowerBiDeeplinkRequest) :
    DeeplinkArguments where
  startDate := request.startDate
  endDate := request.endDate
  limit := request.limit.1
  segmentationFilters := request.segmentation.1
  userAgentFilters := request.userAgent.1
  customerIds := request.customerId.1

/-- What a filter is validated to. -/
theorem validateFilter_eq_ok {fieldName : String} {value : PyValue P} {items : FilterValues} :
    validateFilter fieldName value = .ok items ↔
      normalizeFilterValues fieldName value = .ok items.1 := by
  unfold validateFilter
  split
  · rename_i found hNormalized
    constructor
    · intro hValid
      cases hValid
      exact hNormalized
    · intro hItems
      have hSame : found = items.1 := Except.ok.inj (hNormalized.symm.trans hItems)
      exact congrArg Except.ok (Subtype.ext hSame)
  · rename_i message hNormalized
    exact ⟨fun hError => (by cases hError),
      fun hItems => (by cases hNormalized.symm.trans hItems)⟩

/-- A request is accepted when its fields are, and its dates are in order. -/
theorem modelValidate_eq_ok {today : Int} {payload : DeeplinkPayload P}
    {request : PowerBiDeeplinkRequest} :
    PowerBiDeeplinkRequest.modelValidate today payload = .ok request ↔
      validateLimit payload.limit = .ok request.limit ∧
        validateFilter "segmentation" payload.segmentation = .ok request.segmentation ∧
        validateFilter "user_agent" payload.userAgent = .ok request.userAgent ∧
        validateFilter "customer_id" payload.customerId = .ok request.customerId ∧
        payload.startDate.getD (today - 1) = request.startDate ∧
        payload.endDate.getD today = request.endDate := by
  unfold PowerBiDeeplinkRequest.modelValidate
  constructor
  · intro hValid
    split at hValid
    · rename_i limit segmentation userAgent customerId hLimit hSegmentation hUserAgent hCustomer
      dsimp only at hValid
      split at hValid
      · cases hValid
        exact ⟨hLimit, hSegmentation, hUserAgent, hCustomer, rfl, rfl⟩
      · cases hValid
    · cases hValid
  · rintro ⟨hLimit, hSegmentation, hUserAgent, hCustomer, hStart, hEnd⟩
    rw [hLimit, hSegmentation, hUserAgent, hCustomer, hStart, hEnd]
    exact dif_pos request.ordered

theorem loc_of_validateLimit {limit : Option Int} {error : FieldError}
    (hError : error ∈ errorsOf (validateLimit limit)) : error.loc = ["limit"] := by
  cases limit with
  | none => exact absurd hError List.not_mem_nil
  | some n =>
      by_cases hAtLeast : 1 ≤ n
      · rw [validateLimit, dif_pos hAtLeast] at hError
        exact absurd hError List.not_mem_nil
      · rw [validateLimit, dif_neg hAtLeast] at hError
        rw [List.mem_singleton.mp hError]

theorem loc_of_validateFilter {fieldName : String} {value : PyValue P} {error : FieldError}
    (hError : error ∈ errorsOf (validateFilter fieldName value)) : error.loc = [fieldName] := by
  unfold validateFilter at hError
  split at hError
  · exact absurd hError List.not_mem_nil
  · rw [List.mem_singleton.mp hError, valueError]

/-- Every error is about a field of the request, or about its dates. -/
theorem loc_of_modelValidate {today : Int} {payload : DeeplinkPayload P}
    {errors : List FieldError}
    (hErrors : PowerBiDeeplinkRequest.modelValidate today payload = .error errors) :
    ∀ error ∈ errors, error.loc ∈
      [[], ["limit"], ["segmentation"], ["user_agent"], ["customer_id"]] := by
  intro error hError
  unfold PowerBiDeeplinkRequest.modelValidate at hErrors
  split at hErrors
  · dsimp only at hErrors
    split at hErrors
    · cases hErrors
    · cases hErrors
      rw [List.mem_singleton.mp hError]
      decide
  · cases hErrors
    simp only [List.mem_append] at hError
    rcases hError with ((hLimit | hSegmentation) | hUserAgent) | hCustomer
    · rw [loc_of_validateLimit hLimit]
      decide
    · rw [loc_of_validateFilter hSegmentation]
      decide
    · rw [loc_of_validateFilter hUserAgent]
      decide
    · rw [loc_of_validateFilter hCustomer]
      decide

/-- A request as the data of a request. -/
def PowerBiDeeplinkRequest.payload (P : Scalars) (request : PowerBiDeeplinkRequest) :
    DeeplinkPayload P where
  startDate := some request.startDate
  endDate := some request.endDate
  limit := request.limit.1.map Int.ofNat
  segmentation := .list (request.segmentation.1.map .str)
  userAgent := .list (request.userAgent.1.map .str)
  customerId := .list (request.customerId.1.map .str)

/-- Clean items are split into themselves. -/
theorem splitFilterValues_clean (fieldName : String) {items : List String}
    (hClean : ∀ item ∈ items, CleanItem item) :
    splitFilterValues fieldName (items.map .str : List (PyValue P)) = .ok items := by
  have hItems : commaSeparated.items items = items :=
    SeparatedText.items_of_isItem fun item hItem => (hClean item hItem).isItem
  have hFilled : items.filter (· ≠ "") = items :=
    List.filter_eq_self.mpr fun item hItem => decide_eq_true (hClean item hItem).filled
  rw [splitFilterValues_texts, hItems, hFilled]

theorem validateLimit_limit (limit : DeeplinkLimit) :
    validateLimit (limit.1.map Int.ofNat) = .ok limit := by
  obtain ⟨limit, hLimit⟩ := limit
  cases limit with
  | none => rfl
  | some n =>
      have hAtLeast : (1 : Int) ≤ Int.ofNat n := Int.ofNat_le.mpr (hLimit n rfl)
      exact dif_pos hAtLeast

/-- A validated request is validated again to itself. -/
theorem modelValidate_payload (today : Int) (request : PowerBiDeeplinkRequest) :
    PowerBiDeeplinkRequest.modelValidate today (request.payload P) = .ok request := by
  have hFilter : ∀ (fieldName : String) (items : FilterValues),
      validateFilter fieldName (.list (items.1.map .str) : PyValue P) = .ok items :=
    fun fieldName items => validateFilter_eq_ok.mpr (splitFilterValues_clean fieldName items.2)
  exact modelValidate_eq_ok.mpr ⟨validateLimit_limit request.limit, hFilter _ _, hFilter _ _,
    hFilter _ _, rfl, rfl⟩

end Request

end Schemas
end DataApi
