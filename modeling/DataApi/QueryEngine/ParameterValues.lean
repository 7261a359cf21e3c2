import DataApi.Core.Exceptions
import DataApi.Library.PythonStr

/-!
# Parameter values and their casts

A parameter has one of seven types.  `_cast_value` turns a raw or default
value into a value of the type, or raises `DynamicParameterError`; the one
exception of another class it lets through is the `OverflowError` of
`float(n)` for a huge integer.

Floating-point numbers, dates and times are kept abstract: the casts only
convert, test and print them.
-/

namespace DataApi
namespace QueryEngine

open Library

/-- The value types of the interpreter that the casts pass on, with the
conversions they use.  `none` is a `ValueError`; for `floatOfInt` it is the
`OverflowError`.  `Other` are the values of all other classes, such as `Decimal`
and `UUID`. -/
structure Scalars where
  Float : Type
  Date : Type
  Datetime : Type
  Other : Type
  floatOfStr : String → Option Float
  floatOfInt : Int → Option Float
  isFinite : Float → Bool
  dateOfIso : String → Option Date
  datetimeOfIso : String → Option Datetime
  casefold : String → String

/-- Integers in the place of floating-point numbers, and texts in the place of
dates and times and of all other values. -/
def Scalars.plain : Scalars where
  Float := Int
  Date := String
  Datetime := String
  Other := String
  floatOfStr := String.toInt?
  floatOfInt := some
  isFinite _ := true
  dateOfIso := some
  datetimeOfIso := some
  casefold s := String.ofList (s.toList.map Char.toLower)

/-- A Python value, as a JSON document, a query string or a driver gives it;
`other` holds the values no parameter type accepts. -/
inductive PyValue (P : Scalars) where
  | none
  | bool (value : Bool)
  | int (value : Int)
  | float (value : P.Float)
  | str (value : String)
  | date (value : P.Date)
  | datetime (value : P.Datetime)
  | list (items : List (PyValue P))
  | other (value : P.Other)

/-- `DynamicParameterType`. -/
inductive DynamicParameterType where
  | string
  | integer
  | float
  | boolean
  | date
  | datetime
  | stringList
  deriving DecidableEq

/-- The value of the enumeration member. -/
def DynamicParameterType.value : DynamicParameterType → String
  | .string => "string"
  | .integer => "integer"
  | .float => "float"
  | .boolean => "boolean"
  | .date => "date"
  | .datetime => "datetime"
  | .stringList => "string_list"

/-- `DynamicParameterError`. -/
def dynamicParameterError (code message : String)
    (details : List (String × ErrorDetail)) : AppError :=
  ⟨422, code, message, details⟩

/-- An exception: an application error, or one of another class. -/
inductive Raised where
  | app (error : AppError)
  | other (className : String)
  deriving DecidableEq

/-- The digits of `[0-9]+`, as a number; `int` refuses more than 4300. -/
def digitsValue (digits : List Char) : Option Nat :=
  if digits ≠ [] ∧ digits.length ≤ 4300 ∧ digits.all Char.isDigit then
    some (digits.foldl (fun n c => 10 * n + (c.toNat - '0'.toNat)) 0)
  else none

/-- `int(value)` for a full match of `[+-]?[0-9]+`. -/
def integerOfStr (s : String) : Option Int :=
  match s.toList with
  | '+' :: digits => (digitsValue digits).map Int.ofNat
  | '-' :: digits => (digitsValue digits).map fun n => -Int.ofNat n
  | digits => (digitsValue digits).map Int.ofNat

/-- `value.split(",")`. -/
def splitComma (s : String) : List String :=
  (s.toList.splitOn ',').map String.ofList

section Casts

variable {P : Scalars}

/-- The error of the handler around the casts. -/
def castError (parameterType : DynamicParameterType) (name : String) : Raised :=
  .app (dynamicParameterError "dynamic_parameter_invalid"
    ("Parameter '" ++ name ++ "' is not a valid " ++ parameterType.value)
    [("parameter", .text name), ("expected_type", .text parameterType.value)])

/-- The parts of the strings of a list; the first value that is not a string
is refused. -/
def castListParts (name : String) :
    List (PyValue P) → Except Raised (List String)
  | [] => .ok []
  | .str value :: rest => do
      let parts ← castListParts name rest
      return (splitComma value).map strip ++ parts
  | _ :: _ => .error (.app (dynamicParameterError "dynamic_parameter_invalid"
      ("Parameter '" ++ name ++ "' must contain only strings")
      [("parameter", .text name)]))

/-- `_cast_string_list`. -/
def castStringList (values : List (PyValue P)) (name : String) :
    Except Raised (PyValue P) := do
  let result ← castListParts name values
  if result = [] ∨ "" ∈ result then
    .error (.app (dynamicParameterError "dynamic_parameter_invalid"
      ("Parameter '" ++ name ++ "' must contain non-empty strings")
      [("parameter", .text name)]))
  else .ok (.list (result.map .str))

/-- A conversion that raises `ValueError`, inside the handler. -/
def orCastError {α : Type} (parameterType : DynamicParameterType) (name : String) :
    Option α → Except Raised α
  | some a => .ok a
  | none => .error (castError parameterType name)

/-- `float(value)` followed by the test for finiteness. -/
def castFloat (converted : Option P.Float) (name : String) :
    Except Raised (PyValue P) :=
  (orCastError .float name (converted.filter P.isFinite)).map .float

/-- The strings the boolean cast accepts. -/
def booleanOfStr (P : Scalars) (s : String) : Option Bool :=
  let normalized := P.casefold s
  if normalized = "true" ∨ normalized = "1" then some true
  else if normalized = "false" ∨ normalized = "0" then some false
  else none

/-- `_cast_value`. -/
def castValue (parameterType : DynamicParameterType) (value : PyValue P)
    (name : String := "default") : Except Raised (PyValue P) :=
  match parameterType, value with
  | .string, .str s => .ok (.str s)
  | .integer, .int n => .ok (.int n)
  | .integer, .str s =>
      (orCastError .integer name (integerOfStr s)).map .int
  | .float, .str s => castFloat (P.floatOfStr s) name
  | .float, .int n =>
      match P.floatOfInt n with
      | some x => castFloat (some x) name
      | none => .error (.other "OverflowError")
  | .float, .float x => castFloat (some x) name
  | .boolean, .bool b => .ok (.bool b)
  | .boolean, .str s =>
      (orCastError .boolean name (booleanOfStr P s)).map .bool
  | .date, .date d => .ok (.date d)
  | .date, .str s => (orCastError .date name (P.dateOfIso s)).map .date
  | .datetime, .datetime t => .ok (.datetime t)
  | .datetime, .str s =>
      (orCastError .datetime name (P.datetimeOfIso s)).map .datetime
  | .stringList, .list items => castStringList items name
  | parameterType, _ => .error (castError parameterType name)

/-- The cast of a value succeeds. -/
def CastOk (parameterType : DynamicParameterType) (value : PyValue P) : Prop :=
  ∃ result, castValue parameterType value = .ok result

end Casts

end QueryEngine
end DataApi
