import Mathlib.Logic.Basic

/-!
# Writing the changed columns of a row

A row is a value for every column.  A session that has loaded a row and
assigned new values writes the columns whose value it has changed, into the row
as it is by then.  The result is the assigned row, or the row that was there,
only if the columns it does not write, or those it does, have the right value
already.
-/

namespace DataApi
namespace Library

variable {Column : Type*} {Value : Column → Type*} [∀ c, DecidableEq (Value c)]

/-- The row after the columns that were changed are written into `latest`. -/
def writeChanged (loaded assigned latest : ∀ c, Value c) (c : Column) : Value c :=
  if assigned c = loaded c then latest c else assigned c

/-- The columns that were left alone hold the assigned value in `latest`. -/
def KeptAgree (loaded assigned latest : ∀ c, Value c) : Prop :=
  ∀ c, assigned c = loaded c → latest c = assigned c

/-- The columns that were changed already hold the assigned value in `latest`. -/
def ChangedAgree (loaded assigned latest : ∀ c, Value c) : Prop :=
  ∀ c, assigned c ≠ loaded c → latest c = assigned c

variable {loaded assigned latest : ∀ c, Value c}

/-- A column keeps its value in `latest`, or was changed and has the assigned one. -/
theorem writeChanged_cases (c : Column) :
    writeChanged loaded assigned latest c = latest c ∨
      assigned c ≠ loaded c ∧ writeChanged loaded assigned latest c = assigned c := by
  rw [writeChanged]
  by_cases hKept : assigned c = loaded c
  · rw [if_pos hKept]
    exact .inl rfl
  · rw [if_neg hKept]
    exact .inr ⟨hKept, rfl⟩

/-- The assigned row is written exactly when the columns that are not written
agree with it. -/
theorem writeChanged_eq_assigned_iff :
    writeChanged loaded assigned latest = assigned ↔
      KeptAgree loaded assigned latest := by
  rw [funext_iff]
  constructor
  · intro h c hKept
    have hc := h c
    rwa [writeChanged, if_pos hKept] at hc
  · intro h c
    rw [writeChanged]
    split
    · rename_i hKept
      exact h c hKept
    · rfl

/-- The row stays as it is exactly when the columns that are written agree with
it. -/
theorem writeChanged_eq_latest_iff :
    writeChanged loaded assigned latest = latest ↔
      ChangedAgree loaded assigned latest := by
  rw [funext_iff]
  constructor
  · intro h c hChanged
    have hc := h c
    rw [writeChanged, if_neg hChanged] at hc
    exact hc.symm
  · intro h c
    rw [writeChanged]
    split
    · rfl
    · rename_i hChanged
      exact (h c hChanged).symm

/-- Into the row that was loaded, the assigned row is written. -/
theorem writeChanged_loaded : writeChanged loaded assigned loaded = assigned :=
  writeChanged_eq_assigned_iff.mpr fun _ hKept => hKept.symm

end Library
end DataApi
