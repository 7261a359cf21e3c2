import DataApi.QueryEngine.StoredDefinitions
import DataApi.QueryEngine.CommaSeparated

/-!
# What the casts accept

Which raw values stand for a value of a parameter type is stated apart from the casts.
`cast_parameter_values` returns exactly on raw values that meet the definitions, and
raises its own error on the others, with one exception: `float(n)` raises an
`OverflowError` for an integer that is too large, and the handler around the casts
catches `TypeError` and `ValueError` only.
-/

namespace DataApi
namespace QueryEngine

open Library

section Values

variable {P : Scalars}

/-- A value of the type: a finite number for `float`, a non-empty list of non-empty
trimmed strings for `string_list`. -/
def HasType : DynamicParameterType → PyValue P → Prop
  | .string, .str _ => True
  | .integer, .int _ => True
  | .float, .float x => P.isFinite x = true
  | .boolean, .bool _ => True
  | .date, .date _ => True
  | .datetime, .datetime _ => True
  | .stringList, .list items => ∃ parts : List String, items = parts.map .str ∧
      parts ≠ [] ∧ ∀ part ∈ parts, part ≠ "" ∧ strip part = part
  | _, _ => False

/-- The raw values that were supplied for a name stand for a value of the type: a single
value for a scalar, and for `string_list` texts, each of which may hold several strings
between commas. -/
inductive Denotes : DynamicParameterType → List (PyValue P) → PyValue P → Prop where
  | string (s : String) : Denotes .string [.str s] (.str s)
  | integer (n : Int) : Denotes .integer [.int n] (.int n)
  | integerText {s : String} {n : Int} (hRead : integerOfStr s = some n) :
      Denotes .integer [.str s] (.int n)
  | float {x : P.Float} (hFinite : P.isFinite x = true) : Denotes .float [.float x] (.float x)
  | floatInt {n : Int} {x : P.Float} (hRead : P.floatOfInt n = some x)
      (hFinite : P.isFinite x = true) : Denotes .float [.int n] (.float x)
  | floatText {s : String} {x : P.Float} (hRead : P.floatOfStr s = some x)
      (hFinite : P.isFinite x = true) : Denotes .float [.str s] (.float x)
  | boolean (b : Bool) : Denotes .boolean [.bool b] (.bool b)
  | booleanText {s : String} {b : Bool} (hRead : booleanOfStr P s = some b) :
      Denotes .boolean [.str s] (.bool b)
  | date (d : P.Date) : Denotes .date [.date d] (.date d)
  | dateText {s : String} {d : P.Date} (hRead : P.dateOfIso s = some d) :
      Denotes .date [.str s] (.date d)
  | datetime (t : P.Datetime) : Denotes .datetime [.datetime t] (.datetime t)
  | datetimeText {s : String} {t : P.Datetime} (hRead : P.datetimeOfIso s = some t) :
      Denotes .datetime [.str s] (.datetime t)
  | stringList {values : List (PyValue P)} {texts parts : List String}
      (hTexts : values = texts.map .str)
      (hParts : parts = texts.flatMap fun text => (splitComma text).map strip)
      (hSome : parts ≠ []) (hFull : "" ∉ parts) :
      Denotes .stringList values (.list (parts.map .str))

/-- The integer is too large for a float. -/
def TooLarge (P : Scalars) (parameterType : DynamicParameterType)
    (values : List (PyValue P)) : Prop :=
  parameterType = .float ∧ ∃ n, values = [.int n] ∧ P.floatOfInt n = none

/-- The class of `DynamicParameterError`. -/
def IsParameterError (raised : Raised) : Prop :=
  ∃ code message details, raised = .app (dynamicParameterError code message details)

theorem isParameterError_castError (parameterType : DynamicParameterType) (name : String) :
    IsParameterError (castError parameterType name) :=
  ⟨_, _, _, rfl⟩

theorem not_isParameterError_other (className : String) :
    ¬ IsParameterError (.other className) := by
  rintro ⟨code, message, details, h⟩
  cases h

end Values

section Casts

variable {P : Scalars} {name : String}

/-- What stands for a value of a type stands for one that has the type. -/
theorem Denotes.hasType {parameterType : DynamicParameterType} {values : List (PyValue P)}
    {value : PyValue P} (h : Denotes parameterType values value) :
    HasType parameterType value := by
  cases h with
  | float hFinite => exact hFinite
  | floatInt _ hFinite => exact hFinite
  | floatText _ hFinite => exact hFinite
  | stringList hTexts hParts hSome hFull =>
      refine ⟨_, rfl, hSome, fun part hPart => ⟨?_, ?_⟩⟩
      · rintro rfl
        exact hFull hPart
      · rw [hParts] at hPart
        obtain ⟨text, -, hPart⟩ := List.mem_flatMap.mp hPart
        obtain ⟨piece, -, rfl⟩ := List.mem_map.mp hPart
        exact strip_strip piece
  | _ => trivial

/-- A value of a scalar type stands on one raw value. -/
theorem Denotes.length_eq_one {parameterType : DynamicParameterType}
    {values : List (PyValue P)} {value : PyValue P} (h : Denotes parameterType values value)
    (hScalar : parameterType ≠ .stringList) : values.length = 1 := by
  cases h with
  | stringList => exact absurd rfl hScalar
  | _ => rfl

/-- How a cast may end: with a value, with the error of the parameter, or with the one
exception that it lets through. -/
inductive CastEnd (parameterType : DynamicParameterType) (values : List (PyValue P)) :
    Except Raised (PyValue P) → Prop where
  | value {value : PyValue P} (hDenotes : Denotes parameterType values value) :
      CastEnd parameterType values (.ok value)
  | refused {raised : Raised} (hError : IsParameterError raised)
      (hNothing : ∀ value, ¬ Denotes parameterType values value)
      (hSmall : ¬ TooLarge P parameterType values) :
      CastEnd parameterType values (.error raised)
  | overflow (hLarge : TooLarge P parameterType values) :
      CastEnd parameterType values (.error (.other "OverflowError"))

/-- An optional reading of a value that is not too large. -/
theorem castEnd_orCastError {α : Type} {parameterType : DynamicParameterType}
    {values : List (PyValue P)} (errorType : DynamicParameterType) (read : Option α)
    (wrap : α → PyValue P)
    (hRead : ∀ value, Denotes parameterType values value ↔ ∃ a, read = some a ∧ value = wrap a)
    (hSmall : ¬ TooLarge P parameterType values) :
    CastEnd parameterType values ((orCastError errorType name read).map wrap) := by
  cases read with
  | some a => exact .value ((hRead _).mpr ⟨a, rfl, rfl⟩)
  | none =>
      refine .refused (isParameterError_castError errorType name) (fun value h => ?_) hSmall
      obtain ⟨a, hNone, -⟩ := (hRead value).mp h
      cases hNone

theorem castEnd_castFloat {values : List (PyValue P)} (converted : Option P.Float)
    (hRead : ∀ value, Denotes .float values value ↔
      ∃ x, converted = some x ∧ P.isFinite x = true ∧ value = .float x)
    (hSmall : ¬ TooLarge P .float values) :
    CastEnd .float values (castFloat converted name) := by
  refine castEnd_orCastError .float _ PyValue.float (fun value => (hRead value).trans ?_) hSmall
  constructor
  · rintro ⟨x, hx, hFinite, hValue⟩
    exact ⟨x, Option.filter_eq_some_iff.mpr ⟨hx, hFinite⟩, hValue⟩
  · rintro ⟨x, hx, hValue⟩
    obtain ⟨hx, hFinite⟩ := Option.filter_eq_some_iff.mp hx
    exact ⟨x, hx, hFinite, hValue⟩

/-- A value of another kind is refused. -/
theorem castEnd_castError {parameterType : DynamicParameterType} {value : PyValue P}
    (hNothing : ∀ result, ¬ Denotes parameterType [value] result)
    (hSmall : ¬ TooLarge P parameterType [value]) :
    CastEnd parameterType [value] (.error (castError parameterType name)) :=
  .refused (isParameterError_castError parameterType name) hNothing hSmall

theorem not_tooLarge {parameterType : DynamicParameterType} {value : PyValue P}
    (h : parameterType ≠ .float ∨ ∀ n, value ≠ .int n) :
    ¬ TooLarge P parameterType [value] := by
  rintro ⟨hType, n, hValue, -⟩
  rcases h with h | h
  · exact h hType
  · exact h n (List.singleton_inj.mp hValue)

/-- The cast of a single value to a scalar type. -/
theorem castValue_end (name : String) {parameterType : DynamicParameterType}
    (hScalar : parameterType ≠ .stringList) (value : PyValue P) :
    CastEnd parameterType [value] (castValue parameterType value name) := by
  -- one case for each arm of `castValue`, in its order
  unfold castValue
  split
  · exact .value (.string _)
  · exact .value (.integer _)
  · refine castEnd_orCastError .integer _ PyValue.int (fun result => ⟨fun h => ?_, ?_⟩)
      (not_tooLarge (.inl (by decide)))
    · cases h with
      | integerText hRead => exact ⟨_, hRead, rfl⟩
    · rintro ⟨n, hRead, rfl⟩
      exact .integerText hRead
  · refine castEnd_castFloat _ (fun result => ⟨fun h => ?_, ?_⟩)
      (not_tooLarge (.inr fun n h => by cases h))
    · cases h with
      | floatText hRead hFinite => exact ⟨_, hRead, hFinite, rfl⟩
    · rintro ⟨x, hRead, hFinite, rfl⟩
      exact .floatText hRead hFinite
  · rename_i n
    split
    · rename_i x hRead
      refine castEnd_castFloat _ (fun result => ⟨fun h => ?_, ?_⟩) ?_
      · cases h with
        | floatInt hRead' hFinite => exact ⟨_, hRead.symm.trans hRead', hFinite, rfl⟩
      · rintro ⟨x', hSame, hFinite, rfl⟩
        exact .floatInt (hRead.trans hSame) hFinite
      · rintro ⟨-, n', hSame, hNone⟩
        cases hSame
        cases hRead.symm.trans hNone
    · rename_i hRead
      exact .overflow ⟨rfl, n, rfl, hRead⟩
  · refine castEnd_castFloat _ (fun result => ⟨fun h => ?_, ?_⟩)
      (not_tooLarge (.inr fun n h => by cases h))
    · cases h with
      | float hFinite => exact ⟨_, rfl, hFinite, rfl⟩
    · rintro ⟨x, hSame, hFinite, rfl⟩
      cases hSame
      exact .float hFinite
  · exact .value (.boolean _)
  · refine castEnd_orCastError .boolean _ PyValue.bool (fun result => ⟨fun h => ?_, ?_⟩)
      (not_tooLarge (.inl (by decide)))
    · cases h with
      | booleanText hRead => exact ⟨_, hRead, rfl⟩
    · rintro ⟨b, hRead, rfl⟩
      exact .booleanText hRead
  · exact .value (.date _)
  · refine castEnd_orCastError .date _ PyValue.date (fun result => ⟨fun h => ?_, ?_⟩)
      (not_tooLarge (.inl (by decide)))
    · cases h with
      | dateText hRead => exact ⟨_, hRead, rfl⟩
    · rintro ⟨d, hRead, rfl⟩
      exact .dateText hRead
  · exact .value (.datetime _)
  · refine castEnd_orCastError .datetime _ PyValue.datetime (fun result => ⟨fun h => ?_, ?_⟩)
      (not_tooLarge (.inl (by decide)))
    · cases h with
      | datetimeText hRead => exact ⟨_, hRead, rfl⟩
    · rintro ⟨t, hRead, rfl⟩
      exact .datetimeText hRead
  · exact absurd rfl hScalar
  · -- no other pair of a type and a value is cast
    refine castEnd_castError (fun result h => ?_) ?_
    · cases h <;> simp_all
    · rintro ⟨hType, n, hValue, -⟩
      cases List.singleton_inj.mp hValue
      simp_all

/-- The strings of a list, split and stripped; the list has nothing else. -/
theorem castListParts_end (name : String) (values : List (PyValue P)) :
    (∃ texts : List String, values = texts.map .str ∧ castListParts name values =
      .ok (texts.flatMap fun text => (splitComma text).map strip)) ∨
    (∃ raised, IsParameterError raised ∧ castListParts name values = .error raised) ∧
      ∀ texts : List String, values ≠ texts.map .str := by
  induction values with
  | nil => exact .inl ⟨[], rfl, rfl⟩
  | cons value rest ih =>
      cases value with
      | str s =>
          rcases ih with ⟨texts, rfl, -⟩ | ⟨⟨raised, hError, hParts⟩, hNot⟩
          · exact .inl ⟨s :: texts, rfl, castListParts_texts name (s :: texts)⟩
          · refine .inr ⟨⟨raised, hError, by rw [castListParts, hParts]; rfl⟩, fun texts h => ?_⟩
            cases texts with
            | nil => cases h
            | cons text texts => exact hNot texts (List.cons.inj h).2
      | none | bool | int | float | date | datetime | list | other =>
          refine .inr ⟨⟨_, ⟨_, _, _, rfl⟩, rfl⟩, fun texts h => ?_⟩
          cases texts with
          | nil => cases h
          | cons text texts => cases (List.cons.inj h).1

/-- The cast of the values of a list. -/
theorem castStringList_end (name : String) (values : List (PyValue P)) :
    CastEnd .stringList values (castStringList values name) := by
  have hSmall : ¬ TooLarge P .stringList values := fun h => by cases h.1
  rw [castStringList]
  rcases castListParts_end name values with
    ⟨texts, rfl, hParts⟩ | ⟨⟨raised, hError, hParts⟩, hNot⟩
  · rw [hParts]
    change CastEnd _ _ (if _ then _ else _)
    split
    · rename_i hBad
      refine .refused ⟨_, _, _, rfl⟩ (fun value h => ?_) hSmall
      cases h with
      | stringList hTexts hSame hSome hFull =>
          have hTexts := List.map_injective_iff.mpr (fun _ _ => PyValue.str.inj) hTexts
          subst hTexts hSame
          exact hBad.elim hSome hFull
    · rename_i hGood
      rw [not_or] at hGood
      exact .value (.stringList rfl rfl hGood.1 hGood.2)
  · rw [hParts]
    refine .refused hError (fun value h => ?_) hSmall
    cases h with
    | stringList hTexts => exact hNot _ hTexts

/-- No raw values stand for a value of `float` when their integer is too large. -/
theorem TooLarge.not_denotes {parameterType : DynamicParameterType}
    {values : List (PyValue P)} (hLarge : TooLarge P parameterType values)
    (value : PyValue P) : ¬ Denotes parameterType values value := by
  obtain ⟨rfl, n, rfl, hNone⟩ := hLarge
  intro h
  cases h with
  | floatInt hRead => cases hNone.symm.trans hRead

end Casts

/-! ### The parameters of a request -/

section Parameters

variable {P : Scalars}

/-- The raw values that were supplied under a name: the values of the pairs of a query
string, the items of a list, or another value of a mapping. -/
def RawValues.supplied : RawValues P → String → Option (List (PyValue P))
  | .queryParams items, name =>
      if name ∈ items.map Prod.fst then
        some ((items.filter fun item => item.1 = name).map fun item => .str item.2)
      else none
  | .mapping values, name => (values.get? name).map rawItems

theorem get?_collectRawValues (rawValues : RawValues P) (name : String) :
    (collectRawValues rawValues).get? name = rawValues.supplied name := by
  cases rawValues with
  | queryParams items => exact get?_collectRawValues_queryParams items name
  | mapping values => exact get?_collectRawValues_mapping values name

/-- A request does not meet the definition of a parameter. -/
inductive Unmet (rawValues : RawValues P) (name : String)
    (definition : DynamicParameterDefinition P) : Prop where
  | missing (hOmitted : rawValues.supplied name = none)
      (hRequired : definition.required = true)
  | notOnce {values : List (PyValue P)} (hSupplied : rawValues.supplied name = some values)
      (hScalar : definition.type ≠ .stringList) (hCount : values.length ≠ 1)
  | notOfType {values : List (PyValue P)} (hSupplied : rawValues.supplied name = some values)
      (hNothing : ∀ value, ¬ Denotes definition.type values value)

/-- The value that a parameter has: what was supplied, else the cast default, or `None`
for an optional parameter without default. -/
inductive Given (rawValues : RawValues P) (name : String)
    (definition : DynamicParameterDefinition P) : PyValue P → Prop where
  | supplied {values : List (PyValue P)} {value : PyValue P}
      (hSupplied : rawValues.supplied name = some values)
      (hDenotes : Denotes definition.type values value)
      (hType : HasType definition.type value) : Given rawValues name definition value
  | default {value : PyValue P} (hOmitted : rawValues.supplied name = none)
      (hOptional : definition.required = false)
      (hCast : castValue definition.type definition.default = .ok value)
      (hType : HasType definition.type value) : Given rawValues name definition value
  | none (hOmitted : rawValues.supplied name = none) (hOptional : definition.required = false)
      (hDefault : definition.default = .none) : Given rawValues name definition .none

/-- A `float` parameter is supplied as an integer that is too large. -/
def Overflows (rawValues : RawValues P) (name : String)
    (definition : DynamicParameterDefinition P) : Prop :=
  ∃ values, rawValues.supplied name = some values ∧ TooLarge P definition.type values

theorem Overflows.unmet {rawValues : RawValues P} {name : String}
    {definition : DynamicParameterDefinition P} (h : Overflows rawValues name definition) :
    Unmet rawValues name definition := by
  obtain ⟨values, hSupplied, hLarge⟩ := h
  exact .notOfType hSupplied hLarge.not_denotes

theorem Given.not_unmet {rawValues : RawValues P} {name : String}
    {definition : DynamicParameterDefinition P} {value : PyValue P}
    (hGiven : Given rawValues name definition value) :
    ¬ Unmet rawValues name definition := by
  intro hUnmet
  cases hGiven with
  | supplied hSupplied hDenotes =>
      cases hUnmet with
      | missing hOmitted => cases hOmitted.symm.trans hSupplied
      | notOnce hSame hScalar hCount =>
          cases hSame.symm.trans hSupplied
          exact hCount (hDenotes.length_eq_one hScalar)
      | notOfType hSame hNothing =>
          cases hSame.symm.trans hSupplied
          exact hNothing _ hDenotes
  | default hOmitted hOptional | none hOmitted hOptional =>
      cases hUnmet with
      | missing _ hRequired => cases hRequired.symm.trans hOptional
      | notOnce hSupplied | notOfType hSupplied => cases hOmitted.symm.trans hSupplied

/-- How the cast of a declared parameter may end. -/
inductive ParameterEnd (rawValues : RawValues P) (name : String)
    (definition : DynamicParameterDefinition P) : Except Raised (PyValue P) → Prop where
  | given {value : PyValue P} (hGiven : Given rawValues name definition value) :
      ParameterEnd rawValues name definition (.ok value)
  | refused {raised : Raised} (hError : IsParameterError raised)
      (hUnmet : Unmet rawValues name definition)
      (hSmall : ¬ Overflows rawValues name definition) :
      ParameterEnd rawValues name definition (.error raised)
  | overflow (hLarge : Overflows rawValues name definition) :
      ParameterEnd rawValues name definition (.error (.other "OverflowError"))

/-- What a cast of the supplied values does, the cast of the parameter does. -/
theorem CastEnd.parameterEnd {rawValues : RawValues P} {name : String}
    {definition : DynamicParameterDefinition P} {values : List (PyValue P)}
    {result : Except Raised (PyValue P)} (hSupplied : rawValues.supplied name = some values)
    (hEnd : CastEnd definition.type values result) :
    ParameterEnd rawValues name definition result := by
  cases hEnd with
  | value hDenotes => exact .given (.supplied hSupplied hDenotes hDenotes.hasType)
  | refused hError hNothing hSmall =>
      refine .refused hError (.notOfType hSupplied hNothing) ?_
      rintro ⟨values', hSame, hLarge⟩
      cases hSame.symm.trans hSupplied
      exact hSmall hLarge
  | overflow hLarge => exact .overflow ⟨values, hSupplied, hLarge⟩

/-- The cast of a value that is no list of strings, and of one that is, has the type. -/
theorem hasType_of_castValue {parameterType : DynamicParameterType} {value result : PyValue P}
    (h : castValue parameterType value = .ok result) : HasType parameterType result := by
  by_cases hScalar : parameterType = .stringList
  · subst hScalar
    cases value with
    | list items =>
        have hEnd := castStringList_end "default" items
        change castStringList items "default" = .ok result at h
        rw [h] at hEnd
        cases hEnd with
        | value hDenotes => exact hDenotes.hasType
    | none | bool | int | float | str | date | datetime | other => cases h
  · have hEnd := castValue_end "default" hScalar value
    rw [h] at hEnd
    cases hEnd with
    | value hDenotes => exact hDenotes.hasType

/-- An optional parameter that is not supplied has a value. -/
theorem given_of_omitted {rawValues : RawValues P} {name : String}
    {definition : DynamicParameterDefinition P} (hOmitted : rawValues.supplied name = none)
    (hOptional : definition.required = false) :
    ∃ value, castDefault definition.type definition.default = .ok value ∧
      Given rawValues name definition value := by
  obtain ⟨parameterType, required, default, description, hAccepted⟩ := definition
  by_cases hNone : default = .none
  · subst hNone
    exact ⟨.none, rfl, .none hOmitted hOptional rfl⟩
  · have hDefault : castDefault parameterType default = castValue parameterType default ∧
        CastOk parameterType default := by
      cases default with
      | none => exact absurd rfl hNone
      | _ => exact ⟨rfl, hAccepted.2⟩
    obtain ⟨hSame, value, hCast⟩ := hDefault
    exact ⟨value, hSame.trans hCast,
      .default hOmitted hOptional hCast (hasType_of_castValue hCast)⟩

/-- A scalar parameter that is not supplied exactly once. -/
theorem castParameter_of_notOnce {supplied : Dict String (List (PyValue P))} {name : String}
    {definition : DynamicParameterDefinition P} {values : List (PyValue P)}
    (hSupplied : supplied.get? name = some values) (hScalar : definition.type ≠ .stringList)
    (hCount : values.length ≠ 1) :
    ∃ raised, IsParameterError raised ∧
      castParameter supplied name definition = .error raised := by
  refine ⟨.app (dynamicParameterError "dynamic_parameter_invalid"
    ("Parameter '" ++ name ++ "' must be supplied once") [("parameter", .text name)]),
    ⟨_, _, _, rfl⟩, ?_⟩
  rw [castParameter, hSupplied]
  cases hType : definition.type with
  | stringList => exact absurd hType hScalar
  | _ =>
      cases values with
      | nil => rfl
      | cons value rest =>
          cases rest with
          | nil => exact absurd rfl hCount
          | cons => rfl

/-- A scalar parameter that is supplied once. -/
theorem castParameter_of_once {supplied : Dict String (List (PyValue P))} {name : String}
    {definition : DynamicParameterDefinition P} {value : PyValue P}
    (hSupplied : supplied.get? name = some [value]) (hScalar : definition.type ≠ .stringList) :
    castParameter supplied name definition = castValue definition.type value name := by
  rw [castParameter, hSupplied]
  cases hType : definition.type with
  | stringList => exact absurd hType hScalar
  | _ => rfl

/-- The cast of a declared parameter. -/
theorem castParameter_end (rawValues : RawValues P) (name : String)
    (definition : DynamicParameterDefinition P) :
    ParameterEnd rawValues name definition
      (castParameter (collectRawValues rawValues) name definition) := by
  have hGet := get?_collectRawValues rawValues name
  cases hSupplied : rawValues.supplied name with
  | none =>
      rw [hSupplied] at hGet
      have hSmall : ¬ Overflows rawValues name definition := by
        rintro ⟨values, hSame, -⟩
        cases hSame.symm.trans hSupplied
      cases hRequired : definition.required with
      | true =>
          rw [castParameter, hGet, hRequired]
          exact .refused ⟨_, _, _, rfl⟩ (.missing hSupplied hRequired) hSmall
      | false =>
          rw [castParameter_of_missing hGet hRequired]
          obtain ⟨value, hCast, hGiven⟩ := given_of_omitted hSupplied hRequired
          rw [hCast]
          exact .given hGiven
  | some values =>
      rw [hSupplied] at hGet
      by_cases hList : definition.type = .stringList
      · have hEnd := castStringList_end name values
        rw [← hList] at hEnd
        rw [castParameter, hGet, hList]
        exact hEnd.parameterEnd hSupplied
      · by_cases hOnce : values.length = 1
        · obtain ⟨value, rfl⟩ := List.length_eq_one_iff.mp hOnce
          rw [castParameter_of_once hGet hList]
          exact (castValue_end name hList value).parameterEnd hSupplied
        · obtain ⟨raised, hError, hCast⟩ := castParameter_of_notOnce hGet hList hOnce
          rw [hCast]
          refine .refused hError (.notOnce hSupplied hList hOnce) ?_
          rintro ⟨values', hSame, -, n, rfl, -⟩
          cases hSame.symm.trans hSupplied
          exact hOnce rfl

end Parameters

/-! ### The contract -/

section Contract

variable {P : Scalars} {definitions : Dict String (DynamicParameterDefinition P)}
  {rawValues : RawValues P}

/-- Why a request is refused. -/
def Refused (definitions : Dict String (DynamicParameterDefinition P))
    (rawValues : RawValues P) : Prop :=
  (∃ name values, rawValues.supplied name = some values ∧ definitions.get? name = none) ∨
    ∃ name definition, definitions.get? name = some definition ∧
      Unmet rawValues name definition

/-- What is returned: a value for each definition, and nothing else. -/
structure ReturnsValues (definitions : Dict String (DynamicParameterDefinition P))
    (rawValues : RawValues P) (parameters : Dict String (PyValue P)) : Prop where
  keys_eq : parameters.keys = definitions.keys
  given : ∀ name definition, definitions.get? name = some definition →
    ∃ value, parameters.get? name = some value ∧ Given rawValues name definition value

/-- The casts of a request return the values of its parameters, or raise an error of
their own class, and they do the latter exactly on the requests that are refused. -/
structure CastContract (definitions : Dict String (DynamicParameterDefinition P))
    (rawValues : RawValues P) : Prop where
  outcome : (∃ parameters, castParameterValues definitions rawValues = .ok parameters ∧
      ReturnsValues definitions rawValues parameters) ∨
    ∃ raised, castParameterValues definitions rawValues = .error raised ∧
      IsParameterError raised
  refused_iff : (∃ raised, castParameterValues definitions rawValues = .error raised ∧
    IsParameterError raised) ↔ Refused definitions rawValues

/-- Every supplied name is declared. -/
def AllDeclared (definitions : Dict String (DynamicParameterDefinition P))
    (rawValues : RawValues P) : Prop :=
  ∀ name values, rawValues.supplied name = some values →
    ∃ definition, definitions.get? name = some definition

/-- The first parameter that is not met is a `float` supplied as an integer that is too
large, and no name is undeclared. -/
def CastOverflows (definitions : Dict String (DynamicParameterDefinition P))
    (rawValues : RawValues P) : Prop :=
  AllDeclared definitions rawValues ∧
  ∃ before entry after, definitions.entries = before ++ entry :: after ∧
    (∀ earlier ∈ before, ¬ Unmet rawValues earlier.1 earlier.2) ∧
    Overflows rawValues entry.1 entry.2

theorem unknown_eq_empty_iff :
    (collectRawValues rawValues).keys.toFinset \ definitions.keys.toFinset = ∅ ↔
      AllDeclared definitions rawValues := by
  rw [Finset.sdiff_eq_empty_iff_subset]
  constructor
  · intro hSubset name values hSupplied
    refine (definitions.mem_keys_iff name).mp (List.mem_toFinset.mp (hSubset ?_))
    exact List.mem_toFinset.mpr ((Dict.mem_keys_iff _ name).mpr
      ⟨values, (get?_collectRawValues rawValues name).trans hSupplied⟩)
  · intro hDeclared name hName
    obtain ⟨values, hGet⟩ := (Dict.mem_keys_iff _ name).mp (List.mem_toFinset.mp hName)
    rw [get?_collectRawValues] at hGet
    exact List.mem_toFinset.mpr ((definitions.mem_keys_iff name).mpr
      (hDeclared name values hGet))

/-- An undeclared name is refused before anything is cast. -/
theorem castParameterValues_of_undeclared (h : ¬ AllDeclared definitions rawValues) :
    ∃ raised, castParameterValues definitions rawValues = .error raised ∧
      IsParameterError raised := by
  rw [castParameterValues, if_pos (fun hEmpty => h (unknown_eq_empty_iff.mp hEmpty))]
  exact ⟨_, rfl, _, _, _, rfl⟩

/-- When all names are declared, the definitions are cast in their order. -/
theorem castParameterValues_of_declared (h : AllDeclared definitions rawValues) :
    castParameterValues definitions rawValues =
      Dict.collectM (castParameter (collectRawValues rawValues)) definitions.entries
        .empty := by
  rw [castParameterValues, if_neg (not_not.mpr (unknown_eq_empty_iff.mpr h))]
  rfl

/-- A parameter can be cast exactly when it is met. -/
theorem exists_castParameter_iff {name : String} {definition : DynamicParameterDefinition P} :
    (∃ value, castParameter (collectRawValues rawValues) name definition = .ok value) ↔
      ¬ Unmet rawValues name definition := by
  have hEnd := castParameter_end rawValues name definition
  generalize castParameter (collectRawValues rawValues) name definition = result at hEnd ⊢
  cases hEnd with
  | given hGiven => exact iff_of_true ⟨_, rfl⟩ hGiven.not_unmet
  | refused hError hUnmet =>
      refine iff_of_false ?_ (not_not.mpr hUnmet)
      rintro ⟨value, h⟩
      cases h
  | overflow hLarge =>
      refine iff_of_false ?_ (not_not.mpr hLarge.unmet)
      rintro ⟨value, h⟩
      cases h

theorem castParameter_eq_overflow_iff {name : String}
    {definition : DynamicParameterDefinition P} :
    castParameter (collectRawValues rawValues) name definition =
      .error (.other "OverflowError") ↔ Overflows rawValues name definition := by
  have hEnd := castParameter_end rawValues name definition
  generalize castParameter (collectRawValues rawValues) name definition = result at hEnd ⊢
  cases hEnd with
  | given hGiven =>
      exact iff_of_false (fun h => by cases h) fun hLarge => hGiven.not_unmet hLarge.unmet
  | refused hError hUnmet hSmall =>
      refine iff_of_false (fun h => ?_) hSmall
      cases h
      exact not_isParameterError_other _ hError
  | overflow hLarge => exact iff_of_true rfl hLarge

/-- The casts of the declared parameters, up to the first that ends with an error. -/
theorem castParameterValues_eq_error_iff (h : AllDeclared definitions rawValues)
    (raised : Raised) :
    castParameterValues definitions rawValues = .error raised ↔
      ∃ before entry after, definitions.entries = before ++ entry :: after ∧
        (∀ earlier ∈ before, ¬ Unmet rawValues earlier.1 earlier.2) ∧
        castParameter (collectRawValues rawValues) entry.1 entry.2 = .error raised := by
  rw [castParameterValues_of_declared h, Dict.collectM_eq_error_iff]
  simp only [exists_castParameter_iff]

/-- The exception that escapes. -/
theorem castParameterValues_eq_overflow_iff :
    castParameterValues definitions rawValues = .error (.other "OverflowError") ↔
      CastOverflows definitions rawValues := by
  by_cases hDeclared : AllDeclared definitions rawValues
  · rw [castParameterValues_eq_error_iff hDeclared, CastOverflows]
    simp only [castParameter_eq_overflow_iff, hDeclared, true_and]
  · refine iff_of_false (fun h => ?_) fun h => hDeclared h.1
    obtain ⟨raised, hRaised, hError⟩ := castParameterValues_of_undeclared hDeclared
    cases h.symm.trans hRaised
    exact not_isParameterError_other _ hError

/-- What is returned was given, and then nothing is a reason to refuse. -/
theorem returned_of_castParameterValues {parameters : Dict String (PyValue P)}
    (h : castParameterValues definitions rawValues = .ok parameters) :
    ReturnsValues definitions rawValues parameters ∧ ¬ Refused definitions rawValues := by
  have hDeclared : AllDeclared definitions rawValues := by
    by_contra hNot
    obtain ⟨raised, hRaised, -⟩ := castParameterValues_of_undeclared hNot
    cases h.symm.trans hRaised
  have hGiven : ∀ name definition, definitions.get? name = some definition →
      ∃ value, parameters.get? name = some value ∧ Given rawValues name definition value := by
    intro name definition hGet
    obtain ⟨value, hCast, hValue⟩ := (casts_of_castParameterValues h).declared
      (name, definition) ((definitions.mem_entries_iff _ _).mpr hGet)
    have hEnd := castParameter_end rawValues name definition
    rw [hCast] at hEnd
    cases hEnd with
    | given hGiven => exact ⟨value, hValue, hGiven⟩
  refine ⟨⟨?_, hGiven⟩, ?_⟩
  · rw [castParameterValues_of_declared hDeclared] at h
    exact Dict.keys_of_collectM h definitions.nodup fun _ _ hMem => by cases hMem
  · rintro (⟨name, values, hSupplied, hNone⟩ | ⟨name, definition, hGet, hUnmet⟩)
    · obtain ⟨definition, hGet⟩ := hDeclared name values hSupplied
      cases hNone.symm.trans hGet
    · obtain ⟨value, -, hValue⟩ := hGiven name definition hGet
      exact hValue.not_unmet hUnmet

/-- An error of the class has a reason; the only other one is the overflow. -/
theorem refused_of_castParameterValues {raised : Raised}
    (h : castParameterValues definitions rawValues = .error raised)
    (hSmall : ¬ CastOverflows definitions rawValues) :
    IsParameterError raised ∧ Refused definitions rawValues := by
  by_cases hDeclared : AllDeclared definitions rawValues
  · obtain ⟨before, ⟨name, definition⟩, after, hSplit, hBefore, hCast⟩ :=
      (castParameterValues_eq_error_iff hDeclared raised).mp h
    have hEnd := castParameter_end rawValues name definition
    rw [hCast] at hEnd
    cases hEnd with
    | refused hError hUnmet =>
        refine ⟨hError, .inr ⟨name, definition, ?_, hUnmet⟩⟩
        refine (definitions.mem_entries_iff _ _).mp ?_
        rw [hSplit]
        exact List.mem_append_right _ List.mem_cons_self
    | overflow hLarge =>
        exact absurd ⟨hDeclared, before, _, after, hSplit, hBefore, hLarge⟩ hSmall
  · obtain ⟨raised', hRaised, hError⟩ := castParameterValues_of_undeclared hDeclared
    cases h.symm.trans hRaised
    refine ⟨hError, .inl ?_⟩
    simp only [AllDeclared, not_forall, not_exists] at hDeclared
    obtain ⟨name, values, hSupplied, hNone⟩ := hDeclared
    exact ⟨name, values, hSupplied, Option.eq_none_iff_forall_ne_some.mpr hNone⟩

/-- The casts meet their contract exactly when no integer overflows. -/
theorem castContract_iff :
    CastContract definitions rawValues ↔ ¬ CastOverflows definitions rawValues := by
  constructor
  · intro hContract hOverflow
    have hRaised := castParameterValues_eq_overflow_iff.mpr hOverflow
    rcases hContract.outcome with ⟨parameters, hOk, -⟩ | ⟨raised, hError, hClass⟩
    · cases hRaised.symm.trans hOk
    · cases hRaised.symm.trans hError
      exact not_isParameterError_other _ hClass
  · intro hSmall
    cases hResult : castParameterValues definitions rawValues with
    | ok parameters =>
        obtain ⟨hReturned, hNot⟩ := returned_of_castParameterValues hResult
        refine ⟨.inl ⟨parameters, hResult, hReturned⟩, iff_of_false ?_ hNot⟩
        rintro ⟨raised, hRaised, -⟩
        cases hResult.symm.trans hRaised
    | error raised =>
        obtain ⟨hError, hRefused⟩ := refused_of_castParameterValues hResult hSmall
        exact ⟨.inr ⟨raised, hResult, hError⟩, iff_of_true ⟨raised, hResult, hError⟩ hRefused⟩

/-- The values of a query string are texts, so none of them overflows. -/
theorem castContract_queryParams (items : List (String × String)) :
    CastContract definitions (.queryParams items) := by
  refine castContract_iff.mpr ?_
  rintro ⟨-, -, entry, -, -, -, values, hSupplied, -, n, rfl, -⟩
  rw [RawValues.supplied] at hSupplied
  split at hSupplied
  · obtain ⟨item, -, hItem⟩ := List.map_eq_singleton_iff.mp (Option.some.inj hSupplied)
    cases hItem
  · cases hSupplied

end Contract

/-! ### The default of a definition -/

section Default

variable {P : Scalars}

/-- The validation of a default returns, or raises the error that is reported. -/
def DefaultContract (parameterType : DynamicParameterType) (required : Bool)
    (default : PyValue P) : Prop :=
  ∀ raised, validateDefault parameterType required default = .error raised →
    raised = .other "ValidationError"

/-- The default of an optional `float` is an integer that is too large. -/
def DefaultOverflows (parameterType : DynamicParameterType) (required : Bool)
    (default : PyValue P) : Prop :=
  required = false ∧ TooLarge P parameterType [default]

/-- The errors of a cast. -/
theorem castValue_error {parameterType : DynamicParameterType} {value : PyValue P}
    {raised : Raised} (h : castValue parameterType value = .error raised) :
    IsParameterError raised ∨ TooLarge P parameterType [value] := by
  by_cases hScalar : parameterType = .stringList
  · subst hScalar
    cases value with
    | list items =>
        have hEnd := castStringList_end "default" items
        change castStringList items "default" = .error raised at h
        rw [h] at hEnd
        cases hEnd with
        | refused hError => exact .inl hError
        | overflow hLarge => cases hLarge.1
    | none | bool | int | float | str | date | datetime | other =>
        cases h
        exact .inl ⟨_, _, _, rfl⟩
  · have hEnd := castValue_end "default" hScalar value
    rw [h] at hEnd
    cases hEnd with
    | refused hError => exact .inl hError
    | overflow hLarge => exact .inr hLarge

/-- The validation of a default fails in its own way exactly when it does not overflow. -/
theorem defaultContract_iff {parameterType : DynamicParameterType} {required : Bool}
    {default : PyValue P} :
    DefaultContract parameterType required default ↔
      ¬ DefaultOverflows parameterType required default := by
  constructor
  · rintro hContract ⟨rfl, rfl, n, hDefault, hNone⟩
    cases List.singleton_inj.mp hDefault
    have hRaised : validateDefault .float false (.int n : PyValue P) =
        .error (.other "OverflowError") := by
      simp only [validateDefault, castValue, hNone, if_neg Bool.false_ne_true]
    exact absurd (hContract _ hRaised) (by decide)
  · intro hSmall raised hRaised
    unfold validateDefault at hRaised
    split at hRaised
    · cases hRaised
    · split at hRaised
      · exact (Except.error.inj hRaised).symm
      · rename_i hOptional
        rw [Bool.not_eq_true] at hOptional
        split at hRaised
        · cases hRaised
        · exact (Except.error.inj hRaised).symm
        · rename_i className hCast
          rcases castValue_error hCast with hError | hLarge
          · exact absurd hError (not_isParameterError_other className)
          · exact absurd ⟨hOptional, hLarge⟩ hSmall

/-- The casts of a request and the validation of a default let no other exception
escape, and do what they promise, except on an integer too large for `float`. -/
theorem castContract_defaultContract_iff
    (definitions : Dict String (DynamicParameterDefinition P)) (rawValues : RawValues P)
    (parameterType : DynamicParameterType) (required : Bool) (default : PyValue P) :
    (CastContract definitions rawValues ↔ ¬ CastOverflows definitions rawValues) ∧
      (DefaultContract parameterType required default ↔
        ¬ DefaultOverflows parameterType required default) :=
  ⟨castContract_iff, defaultContract_iff⟩

end Default

/-! ### An integer of 401 digits -/

/-- From here on an integer rounds to no finite double. -/
@[irreducible] def doubleBound : Nat := 2 ^ 1024 - 2 ^ 970

/-- `float(n)` for the plain values, within the bound of a double. -/
def doubleOfInt (n : Int) : Option Int :=
  if n.natAbs < doubleBound then some n else none

theorem doubleOfInt_eq_none {n : Int} (hLarge : ¬ n.natAbs < doubleBound) :
    doubleOfInt n = none := by
  rw [doubleOfInt, if_neg hLarge]

/-- The plain values, with the bound of a double. -/
def Scalars.double : Scalars :=
  { Scalars.plain with floatOfInt := doubleOfInt }

/-- One required parameter `x` of type `float`. -/
def floatDefinitions : Dict String (DynamicParameterDefinition .double) :=
  ⟨[("x", ⟨.float, true, .none, "", trivial⟩)], by decide⟩

/-- `10 ** 400`. -/
def hugeInteger : Int := 10 ^ 200 * 10 ^ 200

/-- The mapping `{"x": 10 ** 400}`. -/
def hugeValues : RawValues .double :=
  .mapping ⟨[("x", .int hugeInteger)], by decide⟩

theorem doubleBound_le_hugeInteger : ¬ hugeInteger.natAbs < doubleBound := by
  decide +kernel

theorem tooLarge_hugeInteger : TooLarge .double .float [.int hugeInteger] :=
  ⟨rfl, hugeInteger, rfl, doubleOfInt_eq_none doubleBound_le_hugeInteger⟩

/-- An accepted definition and a JSON integer on which another exception escapes, and a
default on which the validation lets it escape. -/
theorem overflowError_escapes :
    ¬ CastContract floatDefinitions hugeValues ∧
      ¬ DefaultContract .float false (.int hugeInteger : PyValue .double) := by
  constructor
  · rw [castContract_iff, not_not]
    refine ⟨fun name values hSupplied => ?_, [], _, [], rfl, fun _ h => (by cases h), _, rfl,
      tooLarge_hugeInteger⟩
    obtain ⟨value, hGet, -⟩ := Option.map_eq_some_iff.mp hSupplied
    have hName := (Dict.mem_keys_iff _ name).mpr ⟨value, hGet⟩
    exact (floatDefinitions.mem_keys_iff name).mp hName
  · rw [defaultContract_iff, not_not]
    exact ⟨rfl, tooLarge_hugeInteger⟩

end QueryEngine
end DataApi
