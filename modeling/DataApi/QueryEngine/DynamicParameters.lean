import Mathlib.Data.Finset.Sort
import Mathlib.Data.String.Basic
import DataApi.Library.Dict
import DataApi.QueryEngine.ParameterValues
import DataApi.QueryEngine.SqlSafety

/-!
# Parameter definitions and their contract

A definition whose default its own type would refuse cannot be built.  The
contract of a statement asks that the defined names are identifiers and are
exactly the placeholders of the statement.
-/

namespace DataApi
namespace QueryEngine

open Library

section Definitions

variable {P : Scalars}

/-- `validate_default`: a required parameter has no default, and the default of
an optional one casts to the type.  A default of `None` is no default. -/
def DefaultAccepted (parameterType : DynamicParameterType) (required : Bool)
    (default : PyValue P) : Prop :=
  match default with
  | .none => True
  | value => required = false ∧ CastOk parameterType value

/-- `DynamicParameterDefinition`. -/
structure DynamicParameterDefinition (P : Scalars) where
  type : DynamicParameterType
  required : Bool := true
  default : PyValue P := .none
  description : String := ""
  accepted : DefaultAccepted type required default

/-- `sorted` of a set of names. -/
def sorted (names : Finset String) : List String := names.sort

/-- The names of a mapping of definitions that are no identifiers. -/
def invalidNames (definitions : Dict String (DynamicParameterDefinition P)) :
    List String :=
  definitions.keys.filter fun name => !isParameterName name

/-- `validate_parameter_contract`. -/
def validateParameterContract (parameterNames : Finset String)
    (definitions : Dict String (DynamicParameterDefinition P)) :
    Except AppError Unit := do
  raiseIf (invalidNames definitions ≠ [])
    (dynamicParameterError "dynamic_parameter_invalid_name"
      "Parameter names must be ASCII identifiers"
      [("invalid_names", .names (sorted (invalidNames definitions).toFinset))])
  let definitionNames := definitions.keys.toFinset
  let missing := parameterNames \ definitionNames
  let unused := definitionNames \ parameterNames
  raiseIf (missing ≠ ∅ ∨ unused ≠ ∅)
    (dynamicParameterError "dynamic_parameter_contract_mismatch"
      "SQL placeholders and parameter definitions must match exactly"
      [("missing_definitions", .names (sorted missing)),
        ("unused_definitions", .names (sorted unused))])

/-- A mapping that satisfies the contract of a statement. -/
structure MeetsContract (parameterNames : Finset String)
    (definitions : Dict String (DynamicParameterDefinition P)) : Prop where
  identifiers : ∀ name ∈ definitions.keys, isParameterName name = true
  names_eq : parameterNames = definitions.keys.toFinset

theorem validateParameterContract_eq_ok_iff {parameterNames : Finset String}
    {definitions : Dict String (DynamicParameterDefinition P)} {u : Unit} :
    validateParameterContract parameterNames definitions = .ok u ↔
      MeetsContract parameterNames definitions := by
  simp only [validateParameterContract, bind_eq_ok_iff, raiseIf_eq_ok_iff,
    not_or, not_not, Finset.sdiff_eq_empty_iff_subset]
  constructor
  · rintro ⟨-, hInvalid, hMissing, hUnused⟩
    refine ⟨fun name hName => ?_, hMissing.antisymm hUnused⟩
    by_contra hBad
    have hMem : name ∈ invalidNames definitions :=
      List.mem_filter.mpr ⟨hName, by simpa using hBad⟩
    rw [hInvalid] at hMem
    cases hMem
  · rintro ⟨hIdents, hNames⟩
    refine ⟨(), List.filter_eq_nil_iff.mpr fun name hName => ?_, hNames.subset,
      hNames.symm.subset⟩
    simp [hIdents name hName]

end Definitions

/-! ### Casting the values of a request -/

section Casting

variable {P : Scalars}

/-- The two kinds of raw values: the pairs of a query string, in which a name
may occur several times, and a mapping. -/
inductive RawValues (P : Scalars) where
  | queryParams (items : List (String × String))
  | mapping (values : Dict String (PyValue P))

/-- The dictionary of the given keys. -/
def dictOfKeys {V : Type} (value : String → V) (keys : List String) :
    Dict String V :=
  keys.foldl (fun d key => d.set key (value key)) .empty

/-- `_collect_raw_values`. -/
def collectRawValues : RawValues P → Dict String (List (PyValue P))
  | .queryParams items =>
      dictOfKeys
        (fun key => (items.filter fun item => item.1 = key).map fun item =>
          .str item.2)
        (items.map Prod.fst)
  | .mapping values =>
      values.entries.foldl
        (fun collected entry => collected.set entry.1
          (match entry.2 with
            | .list items => items
            | value => [value]))
        .empty

/-- The value of one declared parameter. -/
def castParameter (supplied : Dict String (List (PyValue P))) (name : String)
    (definition : DynamicParameterDefinition P) : Except Raised (PyValue P) :=
  match supplied.get? name with
  | none =>
      if definition.required then
        .error (.app (dynamicParameterError "dynamic_parameter_missing"
          ("Required parameter '" ++ name ++ "' is missing")
          [("parameter", .text name)]))
      else
        match definition.default with
        | .none => .ok .none
        | value => castValue definition.type value
  | some values =>
      match definition.type, values with
      | .stringList, values => castStringList values name
      | parameterType, [value] => castValue parameterType value name
      | _, _ => .error (.app (dynamicParameterError "dynamic_parameter_invalid"
          ("Parameter '" ++ name ++ "' must be supplied once")
          [("parameter", .text name)]))

/-- `cast_parameter_values`. -/
def castParameterValues (definitions : Dict String (DynamicParameterDefinition P))
    (rawValues : RawValues P) : Except Raised (Dict String (PyValue P)) :=
  let supplied := collectRawValues rawValues
  let unknown := supplied.keys.toFinset \ definitions.keys.toFinset
  if unknown ≠ ∅ then
    .error (.app (dynamicParameterError "dynamic_parameter_unknown"
      "Request contains undeclared parameters"
      [("parameters", .names (sorted unknown))]))
  else
    definitions.entries.foldlM
      (fun result entry => do
        let value ← castParameter supplied entry.1 entry.2
        return result.set entry.1 value)
      .empty

/-- The values a name of a mapping stands for: a list its items, another value
itself. -/
def rawItems : PyValue P → List (PyValue P)
  | .list items => items
  | value => [value]

theorem get?_collectRawValues_mapping (values : Dict String (PyValue P)) (name : String) :
    (collectRawValues (.mapping values)).get? name = (values.get? name).map rawItems := by
  change (values.entries.foldl (fun (collected : Dict String (List (PyValue P))) entry =>
    collected.set entry.1 (rawItems entry.2)) .empty).get? name = _
  cases hGet : values.get? name with
  | none =>
      refine Dict.get?_foldl_set_of_notMem Prod.fst (fun entry => rawItems entry.2) _ ?_
      rintro ⟨name', value⟩ hEntry rfl
      rw [(values.mem_entries_iff _ _).mp hEntry] at hGet
      cases hGet
  | some value =>
      refine Dict.get?_foldl_set_of_mem Prod.fst (fun entry => rawItems entry.2) _
        ⟨_, (values.mem_entries_iff name value).mpr hGet, rfl⟩ ?_
      rintro ⟨name', value'⟩ hEntry rfl
      rw [(values.mem_entries_iff _ _).mp hEntry] at hGet
      cases hGet
      rfl

theorem get?_dictOfKeys {V : Type} (value : String → V) (keys : List String)
    (key : String) :
    (dictOfKeys value keys).get? key = if key ∈ keys then some (value key) else none := by
  rw [dictOfKeys]
  split
  · rename_i hMem
    refine Dict.get?_foldl_set_of_mem id value _ ⟨key, hMem, rfl⟩ ?_
    rintro key' - rfl
    rfl
  · rename_i hMem
    refine Dict.get?_foldl_set_of_notMem id value _ ?_
    rintro key' hKey rfl
    exact hMem hKey

theorem get?_collectRawValues_queryParams (items : List (String × String)) (name : String) :
    (collectRawValues (.queryParams items : RawValues P)).get? name =
      if name ∈ items.map Prod.fst then
        some ((items.filter fun item => item.1 = name).map fun item => .str item.2)
      else none :=
  get?_dictOfKeys _ _ name

/-- The value of an optional parameter that is not supplied. -/
def castDefault (parameterType : DynamicParameterType) (default : PyValue P) :
    Except Raised (PyValue P) :=
  match default with
  | .none => .ok .none
  | value => castValue parameterType value

theorem castParameter_of_missing {supplied : Dict String (List (PyValue P))} {name : String}
    (h : supplied.get? name = none) {definition : DynamicParameterDefinition P}
    (hOptional : definition.required = false) :
    castParameter supplied name definition =
      castDefault definition.type definition.default := by
  rw [castParameter, h, hOptional]
  rfl

/-- What `cast_parameter_values` has done when it returns: no name is unknown,
and every declared parameter has its cast value. -/
structure Casts (definitions : Dict String (DynamicParameterDefinition P))
    (supplied : Dict String (List (PyValue P))) (parameters : Dict String (PyValue P)) :
    Prop where
  known : ∀ name ∈ supplied.keys, name ∈ definitions.keys
  declared : ∀ entry ∈ definitions.entries, ∃ value,
    castParameter supplied entry.1 entry.2 = .ok value ∧
      parameters.get? entry.1 = some value
  others : ∀ name, name ∉ definitions.keys → parameters.get? name = none

theorem casts_of_castParameterValues
    {definitions : Dict String (DynamicParameterDefinition P)} {rawValues : RawValues P}
    {parameters : Dict String (PyValue P)}
    (h : castParameterValues definitions rawValues = .ok parameters) :
    Casts definitions (collectRawValues rawValues) parameters := by
  rw [castParameterValues] at h
  split at h
  · cases h
  · rename_i hUnknown
    rw [not_not, Finset.sdiff_eq_empty_iff_subset] at hUnknown
    obtain ⟨hDeclared, hOthers⟩ :=
      Dict.get?_of_collectM (castParameter (collectRawValues rawValues)) h definitions.nodup
    exact ⟨fun name hName =>
      List.mem_toFinset.mp (hUnknown (List.mem_toFinset.mpr hName)), hDeclared, hOthers⟩

/-- It returns if no name is unknown and every declared parameter can be cast. -/
theorem exists_castParameterValues
    {definitions : Dict String (DynamicParameterDefinition P)} {rawValues : RawValues P}
    (hKnown : ∀ name ∈ (collectRawValues rawValues).keys, name ∈ definitions.keys)
    (hCasts : ∀ entry ∈ definitions.entries, ∃ value,
      castParameter (collectRawValues rawValues) entry.1 entry.2 = .ok value) :
    ∃ parameters, castParameterValues definitions rawValues = .ok parameters := by
  rw [castParameterValues, if_neg]
  · exact Dict.exists_collectM _ _ hCasts
  · rw [not_not, Finset.sdiff_eq_empty_iff_subset]
    intro name hName
    exact List.mem_toFinset.mpr (hKnown name (List.mem_toFinset.mp hName))

end Casting

end QueryEngine
end DataApi
