import Mathlib.Data.String.Basic
import Mathlib.Logic.Basic

/-!
# Application errors

The exceptions that carry a status, a stable code, a message and details, and
the rule for peeling a computation that may raise one.
-/

namespace DataApi

/-- A value in the details of an error. -/
inductive ErrorDetail where
  | text (value : String)
  | names (values : List String)
  deriving DecidableEq

/-- `AppError`. -/
structure AppError where
  statusCode : Nat
  code : String
  message : String
  details : List (String × ErrorDetail) := []
  deriving DecidableEq

/-- `ConflictError`. -/
def conflictError (message : String) (code : String := "conflict") : AppError :=
  ⟨409, code, message, []⟩

/-- `AuthenticationError`. -/
def authenticationError (message : String := "Authentication failed") : AppError :=
  ⟨401, "authentication_failed", message, []⟩

/-- `AuthorizationError`. -/
def authorizationError (message : String := "Not enough permissions") : AppError :=
  ⟨403, "not_enough_permissions", message, []⟩

/-- `NotFoundError`. -/
def notFoundError (resource : String := "Resource") : AppError :=
  ⟨404, "not_found", resource ++ " not found", []⟩

/-- `ExternalServiceTimeoutError`. -/
def externalServiceTimeoutError (serviceName : String) : AppError :=
  ⟨504, "external_service_timeout", serviceName ++ " timed out", []⟩

/-- The answer to an exception that no handler of its own takes. -/
def internalServerError : AppError :=
  ⟨500, "internal_server_error", "Internal server error", []⟩

/-- The answer to a request that the schemas or the path parameters refuse. -/
def validationError : AppError :=
  ⟨422, "validation_error", "Invalid request payload", []⟩

/-- `if condition: raise error`. -/
def raiseIf (condition : Prop) [Decidable condition] (error : AppError) :
    Except AppError Unit :=
  if condition then .error error else .ok ()

theorem raiseIf_eq_ok_iff {condition : Prop} [Decidable condition]
    {error : AppError} {u : Unit} :
    raiseIf condition error = .ok u ↔ ¬ condition := by
  rw [raiseIf]
  split
  · rename_i hCondition
    exact iff_of_false (fun h => nomatch h) (not_not.mpr hCondition)
  · rename_i hCondition
    exact iff_of_true rfl hCondition

/-- A computation in sequence returns when both parts do. -/
theorem bind_eq_ok_iff {ε α β : Type} {x : Except ε α} {f : α → Except ε β}
    {b : β} : x >>= f = .ok b ↔ ∃ a, x = .ok a ∧ f a = .ok b := by
  cases x with
  | error e =>
      constructor
      · intro h
        cases h
      · rintro ⟨a, h, -⟩
        cases h
  | ok a =>
      constructor
      · exact fun h => ⟨a, rfl, h⟩
      · rintro ⟨a', h, hf⟩
        cases h
        exact hf

/-- Every error of a computation satisfies `E`. -/
def RaisesOnly {ε α : Type} (E : ε → Prop) (x : Except ε α) : Prop :=
  ∀ e, x = .error e → E e

namespace RaisesOnly

variable {ε α β : Type} {E : ε → Prop}

theorem ok (a : α) : RaisesOnly E (.ok a : Except ε α) := by
  intro e h
  cases h

theorem error {e : ε} (h : E e) : RaisesOnly E (.error e : Except ε α) := by
  intro _ hRaised
  cases hRaised
  exact h

/-- Errors of a sequence are errors of its parts. -/
theorem bind {x : Except ε α} {f : α → Except ε β} (hx : RaisesOnly E x)
    (hf : ∀ a, RaisesOnly E (f a)) : RaisesOnly E (x >>= f) := by
  intro e hEq
  cases x with
  | ok a => exact hf a e hEq
  | error error =>
      cases hEq
      exact hx e rfl

theorem raiseIf {E : AppError → Prop} {condition : Prop} [Decidable condition]
    {e : AppError} (h : E e) : RaisesOnly E (raiseIf condition e) := by
  rw [DataApi.raiseIf]
  split
  · exact .error h
  · exact .ok _

/-- A weaker property suffices. -/
theorem mono {x : Except ε α} {F : ε → Prop} (hx : RaisesOnly E x)
    (h : ∀ e, E e → F e) : RaisesOnly F x :=
  fun e hEq => h e (hx e hEq)

end RaisesOnly

end DataApi
