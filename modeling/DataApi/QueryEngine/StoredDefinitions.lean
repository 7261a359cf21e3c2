import Mathlib.Data.Finmap
import Mathlib.Data.Prod.Lex
import DataApi.QueryEngine.DynamicParameters

/-!
# Stored parameter definitions

The column `parameter_definitions` holds the JSON dump of the definitions of a
route.  A JSONB object is a finite map: it does not keep the order in which its
keys were written, and gives them back sorted by length and then by value.

`DynamicParameterDefinition` accepts its own dump, so what was serialized can
be deserialized (`deserializeDefinitions_serializeDefinitions`).
-/

namespace DataApi
namespace QueryEngine

open Library

/-- A default as JSON holds it. -/
inductive JsonDefault (F : Type) where
  | null
  | bool (value : Bool)
  | int (value : Int)
  | float (value : F)
  | str (value : String)
  | strings (items : List String)
  deriving DecidableEq

/-- The JSON object of a definition. -/
structure StoredDefinition (F : Type) where
  type : String
  required : Bool
  default : JsonDefault F
  description : String
  deriving DecidableEq

/-- The JSONB column. -/
abbrev StoredDefinitions (F : Type) := Finmap fun _ : String => StoredDefinition F

/-- How JSON and the column give back numbers and times: dates and times as ISO
texts, a finite float as a number that may have become an integer. -/
structure JsonFormat (P : Scalars) where
  dateIso : P.Date → String
  datetimeIso : P.Datetime → String
  number : P.Float → JsonDefault P.Float
  dateOfIso_dateIso : ∀ d, (P.dateOfIso (dateIso d)).isSome = true
  datetimeOfIso_datetimeIso : ∀ t, (P.datetimeOfIso (datetimeIso t)).isSome = true
  number_finite : ∀ x, P.isFinite x = true →
    (∃ y, number x = .float y ∧ P.isFinite y = true) ∨
      ∃ n y, number x = .int n ∧ P.floatOfInt n = some y ∧ P.isFinite y = true

/-- The format of the plain values. -/
def JsonFormat.plain : JsonFormat .plain where
  dateIso := id
  datetimeIso := id
  number := .float
  dateOfIso_dateIso _ := rfl
  datetimeOfIso_datetimeIso _ := rfl
  number_finite x _ := .inl ⟨x, rfl, rfl⟩

instance : DecidableEq Scalars.plain.Float := inferInstanceAs (DecidableEq Int)

section Dump

variable {P : Scalars} (J : JsonFormat P)

/-- The text of a string of a list. -/
def stringItem : PyValue P → Option String
  | .str s => some s
  | _ => none

/-- A default in the dump; values that are no defaults do not occur. -/
def jsonDefault : PyValue P → JsonDefault P.Float
  | .none => .null
  | .bool b => .bool b
  | .int n => .int n
  | .float x => J.number x
  | .str s => .str s
  | .date d => .str (J.dateIso d)
  | .datetime t => .str (J.datetimeIso t)
  | .list items => .strings (items.filterMap stringItem)
  | .other _ => .null

/-- `definition.model_dump(mode="json")`. -/
def modelDump (definition : DynamicParameterDefinition P) :
    StoredDefinition P.Float :=
  ⟨definition.type.value, definition.required, jsonDefault J definition.default,
    definition.description⟩

/-- `_serialize_definitions`. -/
def serializeDefinitions
    (definitions : Dict String (DynamicParameterDefinition P)) :
    StoredDefinitions P.Float :=
  (definitions.entries.map fun entry =>
    (⟨entry.1, modelDump J entry.2⟩ : Sigma fun _ : String => _)).toFinmap

theorem keys_serializeDefinitions
    (definitions : Dict String (DynamicParameterDefinition P)) :
    (serializeDefinitions J definitions).keys = definitions.keys.toFinset := by
  ext name
  rw [Finmap.mem_keys, serializeDefinitions, Finmap.mem_list_toFinmap]
  simp [Dict.keys]

end Dump

section Load

variable {P : Scalars}

/-- The value of a default that was read. -/
def JsonDefault.value : JsonDefault P.Float → PyValue P
  | .null => .none
  | .bool b => .bool b
  | .int n => .int n
  | .float x => .float x
  | .str s => .str s
  | .strings items => .list (items.map .str)

/-- The members of the enumeration. -/
def parameterTypes : List DynamicParameterType :=
  [.string, .integer, .float, .boolean, .date, .datetime, .stringList]

/-- `DynamicParameterType(value)`. -/
def parameterTypeOfValue (value : String) : Option DynamicParameterType :=
  parameterTypes.find? fun parameterType => parameterType.value = value

/-- `validate_default`: `ValidationError`, or the exception of another class
that the cast lets through. -/
def validateDefault (parameterType : DynamicParameterType) (required : Bool)
    (default : PyValue P) : Except Raised Unit :=
  match default with
  | .none => .ok ()
  | value =>
      if required then .error (.other "ValidationError")
      else
        match castValue parameterType value with
        | .ok _ => .ok ()
        | .error (.app _) => .error (.other "ValidationError")
        | .error (.other className) => .error (.other className)

/-- A default is looked at where it is not null. -/
theorem defaultAccepted_iff {parameterType : DynamicParameterType} {required : Bool}
    {default : PyValue P} (hNone : default ≠ .none) :
    DefaultAccepted parameterType required default ↔
      required = false ∧ CastOk parameterType default := by
  cases default <;> first | exact Iff.rfl | exact absurd rfl hNone

theorem validateDefault_of_required {parameterType : DynamicParameterType}
    {default : PyValue P} (hNone : default ≠ .none) :
    validateDefault parameterType true default = .error (.other "ValidationError") := by
  cases default <;> first | rfl | exact absurd rfl hNone

/-- An optional default passes if it casts. -/
theorem validateDefault_of_cast {parameterType : DynamicParameterType}
    {default result : PyValue P} (hNone : default ≠ .none)
    (hCast : castValue parameterType default = .ok result) :
    validateDefault parameterType false default = .ok () := by
  cases default <;> first | exact absurd rfl hNone | simp [validateDefault, hCast]

theorem validateDefault_of_raised {parameterType : DynamicParameterType}
    {default : PyValue P} {raised : Raised} (hNone : default ≠ .none)
    (hCast : castValue parameterType default = .error raised) :
    ∃ className, validateDefault parameterType false default = .error (.other className) := by
  cases raised with
  | app error =>
      refine ⟨"ValidationError", ?_⟩
      cases default <;> first | exact absurd rfl hNone | simp [validateDefault, hCast]
  | other className =>
      refine ⟨className, ?_⟩
      cases default <;> first | exact absurd rfl hNone | simp [validateDefault, hCast]

theorem validateDefault_eq_ok_iff {parameterType : DynamicParameterType}
    {required : Bool} {default : PyValue P} {u : Unit} :
    validateDefault parameterType required default = .ok u ↔
      DefaultAccepted parameterType required default := by
  by_cases hNone : default = .none
  · subst hNone
    exact iff_of_true rfl trivial
  · rw [defaultAccepted_iff hNone]
    cases required with
    | true =>
        rw [validateDefault_of_required hNone]
        refine iff_of_false (fun h => ?_) fun h => Bool.noConfusion h.1
        cases h
    | false =>
        cases hCast : castValue parameterType default with
        | ok result =>
            exact iff_of_true (validateDefault_of_cast hNone hCast) ⟨rfl, result, hCast⟩
        | error raised =>
            obtain ⟨className, hRaised⟩ := validateDefault_of_raised hNone hCast
            rw [hRaised]
            refine iff_of_false (fun h => ?_) fun h => ?_
            · cases h
            · obtain ⟨-, result, hOk⟩ := h
              cases hCast.symm.trans hOk

/-- `DynamicParameterDefinition.model_validate`. -/
def modelValidate (stored : StoredDefinition P.Float) :
    Except Raised (DynamicParameterDefinition P) :=
  match parameterTypeOfValue stored.type with
  | none => .error (.other "ValidationError")
  | some parameterType =>
      match h : validateDefault parameterType stored.required stored.default.value with
      | .error raised => .error raised
      | .ok _ => .ok ⟨parameterType, stored.required, stored.default.value,
          stored.description, validateDefault_eq_ok_iff.mp h⟩

/-- The position of a key in a JSONB object. -/
def jsonbPosition (name : String) : ℕ ×ₗ String := toLex (name.length, name)

/-- The order of the keys of a JSONB object. -/
def jsonbLe (a b : String) : Prop := jsonbPosition a ≤ jsonbPosition b

instance : DecidableRel jsonbLe := fun a b =>
  inferInstanceAs (Decidable (jsonbPosition a ≤ jsonbPosition b))

instance : IsTrans String jsonbLe := ⟨fun _ _ _ h h' => le_trans h h'⟩

instance : Std.Total jsonbLe := ⟨fun _ _ => le_total _ _⟩

instance : Std.Antisymm jsonbLe := ⟨fun _ _ h h' =>
  congrArg (fun p => (ofLex p).2) (le_antisymm h h')⟩

/-- The entries of a JSONB object as they are read. -/
def storedEntries (stored : StoredDefinitions P.Float) :
    List (String × StoredDefinition P.Float) :=
  (stored.keys.sort jsonbLe).filterMap fun name =>
    (stored.lookup name).map fun definition => (name, definition)

theorem mem_storedEntries {stored : StoredDefinitions P.Float} {name : String}
    {definition : StoredDefinition P.Float} :
    (name, definition) ∈ storedEntries stored ↔
      stored.lookup name = some definition := by
  simp only [storedEntries, List.mem_filterMap, Finset.mem_sort, Option.map_eq_some_iff,
    Prod.mk.injEq]
  constructor
  · rintro ⟨_, -, _, hLookup, rfl, rfl⟩
    exact hLookup
  · intro hLookup
    exact ⟨name, Finmap.mem_keys.mpr (Finmap.mem_of_lookup_eq_some hLookup), definition,
      hLookup, rfl, rfl⟩

/-- The definitions of a list of stored entries, added to a dictionary. -/
def loadEntries (entries : List (String × StoredDefinition P.Float))
    (loaded : Dict String (DynamicParameterDefinition P)) :
    Except Raised (Dict String (DynamicParameterDefinition P)) :=
  match entries with
  | [] => .ok loaded
  | entry :: rest => do
      let definition ← modelValidate entry.2
      loadEntries rest (loaded.set entry.1 definition)

/-- `_deserialize_definitions`: a `ValidationError` becomes a
`DynamicSqlError`, other exceptions pass. -/
def deserializeDefinitions (stored : StoredDefinitions P.Float) :
    Except Raised (Dict String (DynamicParameterDefinition P)) :=
  match loadEntries (storedEntries stored) .empty with
  | .ok definitions => .ok definitions
  | .error (.other "ValidationError") =>
      .error (.app (dynamicSqlError "dynamic_sql_invalid_parameter_contract"
        "Stored parameter contract is invalid"))
  | .error raised => .error raised

end Load

section RoundTrip

variable {P : Scalars} (J : JsonFormat P)

theorem castListParts_eq_ok {name : String} {items : List (PyValue P)}
    {parts : List String} (h : castListParts name items = .ok parts) :
    (items.filterMap stringItem).map .str = items := by
  induction items generalizing parts with
  | nil => rfl
  | cons item rest ih =>
      cases item with
      | str s =>
          rw [castListParts, bind_eq_ok_iff] at h
          obtain ⟨restParts, hRest, -⟩ := h
          have hItem : stringItem (.str s : PyValue P) = some s := rfl
          rw [List.filterMap_cons_some hItem, List.map_cons, ih hRest]
      | none | bool | int | float | date | datetime | list | other => cases h

theorem castFloat_ok {x : P.Float} (h : P.isFinite x = true) :
    castFloat (some x) "default" = .ok (.float x) := by
  rw [castFloat, Option.filter_some_pos h]
  rfl

theorem isFinite_of_castFloat {x : P.Float} {result : PyValue P}
    (h : castFloat (some x) "default" = .ok result) : P.isFinite x = true := by
  by_contra hInfinite
  rw [castFloat, Option.filter_some_neg (by simpa using hInfinite)] at h
  cases h

/-- A default comes back from JSON as it was, unless it is a number, a date or
a time. -/
theorem jsonDefault_value_cases {parameterType : DynamicParameterType}
    {value : PyValue P} (h : CastOk parameterType value) :
    (jsonDefault J value).value = value ∨
      (∃ x, parameterType = .float ∧ value = .float x ∧ P.isFinite x = true) ∨
      (∃ d, parameterType = .date ∧ value = .date d) ∨
      ∃ t, parameterType = .datetime ∧ value = .datetime t := by
  obtain ⟨result, h⟩ := h
  -- one case for each arm of `castValue`, in its order
  unfold castValue at h
  split at h
  · exact .inl rfl
  · exact .inl rfl
  · exact .inl rfl
  · exact .inl rfl
  · exact .inl rfl
  · exact .inr (.inl ⟨_, rfl, rfl, isFinite_of_castFloat h⟩)
  · exact .inl rfl
  · exact .inl rfl
  · exact .inr (.inr (.inl ⟨_, rfl, rfl⟩))
  · exact .inl rfl
  · exact .inr (.inr (.inr ⟨_, rfl, rfl⟩))
  · exact .inl rfl
  · rw [castStringList, bind_eq_ok_iff] at h
    obtain ⟨parts, hParts, -⟩ := h
    exact .inl (congrArg PyValue.list (castListParts_eq_ok hParts))
  · cases h

/-- A value that casts to a type still does when it comes back from JSON. -/
theorem castOk_jsonDefault {parameterType : DynamicParameterType} {value : PyValue P}
    (h : CastOk parameterType value) :
    CastOk parameterType (jsonDefault J value).value := by
  rcases jsonDefault_value_cases J h with
    hSame | ⟨x, rfl, rfl, hFinite⟩ | ⟨d, rfl, rfl⟩ | ⟨t, rfl, rfl⟩
  · rw [hSame]
    exact h
  · -- a float comes back as a finite float or as an integer that converts to one
    rcases J.number_finite x hFinite with ⟨y, hNumber, hy⟩ | ⟨n, y, hNumber, hn, hy⟩
    · refine ⟨.float y, ?_⟩
      rw [jsonDefault, hNumber]
      exact castFloat_ok hy
    · refine ⟨.float y, ?_⟩
      rw [jsonDefault, hNumber]
      simp only [JsonDefault.value, castValue, hn]
      exact castFloat_ok hy
  · obtain ⟨d', hd⟩ := Option.isSome_iff_exists.mp (J.dateOfIso_dateIso d)
    refine ⟨.date d', ?_⟩
    simp only [jsonDefault, JsonDefault.value, castValue, hd]
    rfl
  · obtain ⟨t', ht⟩ := Option.isSome_iff_exists.mp (J.datetimeOfIso_datetimeIso t)
    refine ⟨.datetime t', ?_⟩
    simp only [jsonDefault, JsonDefault.value, castValue, ht]
    rfl

/-- A format that loses nothing: dates and times are read back, and a finite
float comes back as itself or as an integer that converts to it. -/
structure JsonFormat.Exact (J : JsonFormat P) : Prop where
  date : ∀ d, P.dateOfIso (J.dateIso d) = some d
  datetime : ∀ t, P.datetimeOfIso (J.datetimeIso t) = some t
  number : ∀ x, P.isFinite x = true →
    J.number x = .float x ∨ ∃ n, J.number x = .int n ∧ P.floatOfInt n = some x

/-- Under such a format a default casts to what it did before. -/
theorem castValue_jsonDefault {J : JsonFormat P} (hJ : J.Exact)
    {parameterType : DynamicParameterType} {value result : PyValue P}
    (h : castValue parameterType value = .ok result) :
    castValue parameterType (jsonDefault J value).value = .ok result := by
  rcases jsonDefault_value_cases J ⟨result, h⟩ with
    hSame | ⟨x, rfl, rfl, hFinite⟩ | ⟨d, rfl, rfl⟩ | ⟨t, rfl, rfl⟩
  · rw [hSame]
    exact h
  · -- a float without a fraction may come back as an integer
    rcases hJ.number x hFinite with hNumber | ⟨n, hNumber, hn⟩
    · rw [jsonDefault, hNumber]
      exact h
    · rw [jsonDefault, hNumber]
      simp only [JsonDefault.value, castValue, hn]
      exact h
  · simp only [jsonDefault, JsonDefault.value, castValue, hJ.date]
    exact h
  · simp only [jsonDefault, JsonDefault.value, castValue, hJ.datetime]
    exact h

theorem castValue_none_ne_ok (parameterType : DynamicParameterType) (result : PyValue P) :
    castValue parameterType .none ≠ .ok result := by
  cases parameterType <;> exact nofun

/-- So does an optional parameter that is not supplied. -/
theorem castDefault_jsonDefault {J : JsonFormat P} (hJ : J.Exact)
    {parameterType : DynamicParameterType} {default result : PyValue P}
    (h : castDefault parameterType default = .ok result) :
    castDefault parameterType (jsonDefault J default).value = .ok result := by
  unfold castDefault at h
  split at h
  · exact h
  · have hCast := castValue_jsonDefault hJ h
    unfold castDefault
    split
    · rename_i hNone
      rw [hNone] at hCast
      exact absurd hCast (castValue_none_ne_ok _ _)
    · exact hCast

theorem parameterTypeOfValue_value (parameterType : DynamicParameterType) :
    parameterTypeOfValue parameterType.value = some parameterType := by
  cases parameterType <;> decide

/-- A definition accepts its own dump; what is read differs in the default. -/
theorem modelValidate_modelDump (definition : DynamicParameterDefinition P) :
    ∃ loaded, modelValidate (modelDump J definition) = .ok loaded ∧
      loaded.type = definition.type ∧ loaded.required = definition.required ∧
      loaded.default = (jsonDefault J definition.default).value := by
  have hAccepted : DefaultAccepted definition.type definition.required
      (jsonDefault J definition.default).value := by
    have h := definition.accepted
    unfold DefaultAccepted at h
    split at h
    · rename_i hDefault
      rw [hDefault]
      trivial
    · have hCast := castOk_jsonDefault J h.2
      unfold DefaultAccepted
      split
      · trivial
      · exact ⟨h.1, hCast⟩
  have hValidate := validateDefault_eq_ok_iff (u := ()).mpr hAccepted
  simp only [modelValidate, modelDump, parameterTypeOfValue_value]
  split
  · rename_i hError
    rw [hValidate] at hError
    cases hError
  · exact ⟨_, rfl, rfl, rfl, rfl⟩

theorem nodup_storedEntries (stored : StoredDefinitions P.Float) :
    ((storedEntries stored).map Prod.fst).Nodup := by
  rw [storedEntries, List.map_filterMap]
  refine (Finset.sort_nodup _ _).filterMap fun name name' key hName hName' => ?_
  simp only [Option.mem_def, Option.map_map, Option.map_eq_some_iff,
    Function.comp_apply] at hName hName'
  obtain ⟨-, -, rfl⟩ := hName
  obtain ⟨-, -, rfl⟩ := hName'
  rfl

theorem loadEntries_eq_collectM (entries : List (String × StoredDefinition P.Float))
    (loaded : Dict String (DynamicParameterDefinition P)) :
    loadEntries entries loaded = Dict.collectM (fun _ => modelValidate) entries loaded := by
  induction entries generalizing loaded with
  | nil => rfl
  | cons entry rest ih =>
      rw [loadEntries, Dict.collectM, List.foldlM_cons]
      cases modelValidate entry.2 with
      | error raised => rfl
      | ok definition => exact ih _

theorem deserializeDefinitions_eq_ok_iff {stored : StoredDefinitions P.Float}
    {loaded : Dict String (DynamicParameterDefinition P)} :
    deserializeDefinitions stored = .ok loaded ↔
      loadEntries (storedEntries stored) .empty = .ok loaded := by
  unfold deserializeDefinitions
  split <;> simp_all

/-- The stored entries are the dumps of the definitions. -/
theorem mem_storedEntries_serializeDefinitions
    {definitions : Dict String (DynamicParameterDefinition P)} {name : String}
    {stored : StoredDefinition P.Float} :
    (name, stored) ∈ storedEntries (serializeDefinitions J definitions) ↔
      ∃ definition, definitions.get? name = some definition ∧
        stored = modelDump J definition := by
  have hKeys : (definitions.entries.map fun entry =>
      (⟨entry.1, modelDump J entry.2⟩ : Sigma fun _ : String => _)).NodupKeys := by
    rw [List.NodupKeys, List.keys, List.map_map]
    exact definitions.nodup
  rw [mem_storedEntries, serializeDefinitions, Finmap.dlookup_list_toFinmap,
    ← Option.mem_def, List.mem_dlookup_iff hKeys, List.mem_map]
  constructor
  · rintro ⟨⟨name', definition⟩, hEntry, hEq⟩
    cases hEq
    exact ⟨definition, (definitions.mem_entries_iff _ _).mp hEntry, rfl⟩
  · rintro ⟨definition, hGet, rfl⟩
    exact ⟨(name, definition), (definitions.mem_entries_iff _ _).mpr hGet, rfl⟩

/-- What was serialized can be deserialized. -/
theorem deserializeDefinitions_serializeDefinitions
    (definitions : Dict String (DynamicParameterDefinition P)) :
    ∃ loaded, deserializeDefinitions (serializeDefinitions J definitions) = .ok loaded := by
  simp only [deserializeDefinitions_eq_ok_iff, loadEntries_eq_collectM]
  refine Dict.exists_collectM _ _ ?_
  rintro ⟨name, stored⟩ hEntry
  obtain ⟨definition, -, rfl⟩ := (mem_storedEntries_serializeDefinitions J).mp hEntry
  obtain ⟨loaded, hLoaded, -⟩ := modelValidate_modelDump J definition
  exact ⟨loaded, hLoaded⟩

/-- Every definition is read back under its name, and no other is there. -/
theorem get?_of_deserializeDefinitions
    {definitions loaded : Dict String (DynamicParameterDefinition P)}
    (h : deserializeDefinitions (serializeDefinitions J definitions) = .ok loaded)
    (name : String) :
    (∀ definition, definitions.get? name = some definition →
      ∃ again, modelValidate (modelDump J definition) = .ok again ∧
        loaded.get? name = some again) ∧
      (definitions.get? name = none → loaded.get? name = none) := by
  rw [deserializeDefinitions_eq_ok_iff, loadEntries_eq_collectM] at h
  obtain ⟨hRead, hOthers⟩ := Dict.get?_of_collectM _ h (nodup_storedEntries _)
  constructor
  · intro definition hGet
    exact hRead (name, modelDump J definition)
      ((mem_storedEntries_serializeDefinitions J).mpr ⟨definition, hGet, rfl⟩)
  · intro hNone
    refine hOthers name fun hMem => ?_
    obtain ⟨⟨name', stored⟩, hEntry, rfl⟩ := List.mem_map.mp hMem
    obtain ⟨definition, hGet, -⟩ := (mem_storedEntries_serializeDefinitions J).mp hEntry
    rw [hGet] at hNone
    cases hNone

/-- The names are the same. -/
theorem mem_keys_of_deserializeDefinitions
    {definitions loaded : Dict String (DynamicParameterDefinition P)}
    (h : deserializeDefinitions (serializeDefinitions J definitions) = .ok loaded)
    (name : String) : name ∈ loaded.keys ↔ name ∈ definitions.keys := by
  obtain ⟨hRead, hOthers⟩ := get?_of_deserializeDefinitions J h name
  rw [Dict.mem_keys_iff, Dict.mem_keys_iff]
  constructor
  · rintro ⟨again, hAgain⟩
    by_contra hNone
    rw [hOthers (Option.eq_none_iff_forall_ne_some.mpr fun d hd => hNone ⟨d, hd⟩)] at hAgain
    cases hAgain
  · rintro ⟨definition, hGet⟩
    obtain ⟨again, -, hAgain⟩ := hRead definition hGet
    exact ⟨again, hAgain⟩

end RoundTrip

end QueryEngine
end DataApi
