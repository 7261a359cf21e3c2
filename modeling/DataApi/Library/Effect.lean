import Mathlib.Logic.Basic

/-!
# Computations with a state and exceptions

A computation reads and writes a state and returns or raises; what it has
written stays written when it raises, until a handler undoes it.

A triple states what holds of the state when a computation returns and when it
raises.  The rules follow the constructs of the monad.
-/

namespace DataApi
namespace Library

/-- A computation on states `σ` that raises values of `ε`. -/
def Effect (σ ε α : Type) : Type := σ → Except ε α × σ

namespace Effect

variable {σ ε α β : Type}

/-- Return without touching the state. -/
def ret (a : α) : Effect σ ε α := fun s => (.ok a, s)

/-- Run the second computation on the result of the first. -/
def andThen (c : Effect σ ε α) (f : α → Effect σ ε β) : Effect σ ε β := fun s =>
  match c s with
  | (.ok a, s') => f a s'
  | (.error e, s') => (.error e, s')

/-- Raise an exception. -/
def raise (e : ε) : Effect σ ε α := fun s => (.error e, s)

/-- Run a handler on the exception and on the state it was raised in. -/
def handle (c : Effect σ ε α) (handler : ε → Effect σ ε α) : Effect σ ε α := fun s =>
  match c s with
  | (.ok a, s') => (.ok a, s')
  | (.error e, s') => handler e s'

/-- A result that does not depend on the state. -/
def lift (x : Except ε α) : Effect σ ε α := fun s => (x, s)

/-- A result read off the state. -/
def read (f : σ → Except ε α) : Effect σ ε α := fun s => (f s, s)

/-- Write the state. -/
def modify (f : σ → σ) : Effect σ ε Unit := fun s => (.ok (), f s)

instance : Monad (Effect σ ε) where
  pure := ret
  bind := andThen

instance : MonadExceptOf ε (Effect σ ε) where
  throw := raise
  tryCatch := handle

/-! ### One run -/

section Run

variable {c : Effect σ ε α} {f : α → Effect σ ε β} {handler : ε → Effect σ ε α}
  {s s' : σ} {a : α} {e : ε}

theorem bind_of_ok (h : c s = (.ok a, s')) : (c >>= f) s = f a s' := by
  change andThen c f s = f a s'
  rw [andThen, h]

theorem bind_of_error (h : c s = (.error e, s')) : (c >>= f) s = (.error e, s') := by
  change andThen c f s = (.error e, s')
  rw [andThen, h]

theorem bind_bind {γ : Type} (c : Effect σ ε α) (f : α → Effect σ ε β)
    (g : β → Effect σ ε γ) : (c >>= f) >>= g = c >>= fun a => f a >>= g := by
  funext s
  cases hRun : c s with
  | mk outcome s' =>
      cases outcome with
      | ok a =>
          rw [bind_of_ok hRun]
          change andThen (andThen c f) g s = andThen (f a) g s'
          rw [andThen, andThen, hRun]
          rfl
      | error e =>
          rw [bind_of_error hRun]
          exact bind_of_error (bind_of_error hRun)

/-- A result that is only worked up leaves the state as it is. -/
theorem bind_lift_snd (c : Effect σ ε α) (f : α → Except ε β) (s : σ) :
    ((c >>= fun a => lift (f a)) s).2 = (c s).2 := by
  cases hRun : c s with
  | mk outcome s' =>
      cases outcome with
      | ok a =>
          rw [bind_of_ok hRun]
          rfl
      | error e => rw [bind_of_error hRun]

theorem tryCatch_of_ok (h : c s = (.ok a, s')) :
    (MonadExcept.tryCatch c handler : Effect σ ε α) s = (.ok a, s') := by
  change handle c handler s = (.ok a, s')
  rw [handle, h]

theorem tryCatch_of_error (h : c s = (.error e, s')) :
    (MonadExcept.tryCatch c handler : Effect σ ε α) s = handler e s' := by
  change handle c handler s = handler e s'
  rw [handle, h]

end Run

/-- From a state with `pre`, a return leads to `post` and an exception to
`fail`. -/
def Triple (pre : σ → Prop) (c : Effect σ ε α) (post : α → σ → Prop)
    (fail : ε → σ → Prop) : Prop :=
  ∀ s, pre s → (∀ a s', c s = (.ok a, s') → post a s') ∧
    ∀ e s', c s = (.error e, s') → fail e s'

namespace Triple

variable {pre : σ → Prop} {post : α → σ → Prop} {fail : ε → σ → Prop}

theorem pure {a : α} (h : ∀ s, pre s → post a s) :
    Triple pre (Pure.pure a) post fail := by
  intro s hs
  constructor
  · intro a' s' hEq
    cases hEq
    exact h s hs
  · intro e s' hEq
    cases hEq

theorem throw {e : ε} (h : ∀ s, pre s → fail e s) :
    Triple pre (MonadExcept.throw e : Effect σ ε α) post fail := by
  intro s hs
  constructor
  · intro a s' hEq
    cases hEq
  · intro e' s' hEq
    cases hEq
    exact h s hs

theorem lift {x : Except ε α} (hOk : ∀ a s, x = .ok a → pre s → post a s)
    (hError : ∀ e s, x = .error e → pre s → fail e s) :
    Triple pre (Effect.lift x) post fail := by
  intro s hs
  constructor
  · intro a s' hEq
    obtain ⟨hx, rfl⟩ := Prod.mk.inj hEq
    exact hOk a s hx hs
  · intro e s' hEq
    obtain ⟨hx, rfl⟩ := Prod.mk.inj hEq
    exact hError e s hx hs

theorem read {f : σ → Except ε α} (hOk : ∀ a s, f s = .ok a → pre s → post a s)
    (hError : ∀ e s, f s = .error e → pre s → fail e s) :
    Triple pre (Effect.read f) post fail := by
  intro s hs
  constructor
  · intro a s' hEq
    obtain ⟨hf, rfl⟩ := Prod.mk.inj hEq
    exact hOk a s hf hs
  · intro e s' hEq
    obtain ⟨hf, rfl⟩ := Prod.mk.inj hEq
    exact hError e s hf hs

theorem modify {f : σ → σ} {post : Unit → σ → Prop} (h : ∀ s, pre s → post () (f s)) :
    Triple pre (Effect.modify f : Effect σ ε Unit) post fail := by
  intro s hs
  constructor
  · intro u s' hEq
    obtain ⟨-, rfl⟩ := Prod.mk.inj hEq
    exact h s hs
  · intro e s' hEq
    cases hEq

/-- The rule of sequencing: `Q` holds between the two computations. -/
theorem bind {c : Effect σ ε α} {f : α → Effect σ ε β} {Q : α → σ → Prop}
    {post : β → σ → Prop} (hc : Triple pre c Q fail)
    (hf : ∀ a, Triple (Q a) (f a) post fail) : Triple pre (c >>= f) post fail := by
  intro s hs
  have hFirst := hc s hs
  change (∀ b s', andThen c f s = (.ok b, s') → post b s') ∧
    ∀ e s', andThen c f s = (.error e, s') → fail e s'
  unfold andThen
  split
  · rename_i a s' hEq
    exact hf a s' (hFirst.1 a s' hEq)
  · rename_i e s' hEq
    constructor
    · intro b s'' hb
      cases hb
    · intro e' s'' he
      cases he
      exact hFirst.2 e s' hEq

/-- The rule of a handler: what the exception leaves behind is what the handler
starts from. -/
theorem tryCatch {c : Effect σ ε α} {handler : ε → Effect σ ε α}
    {Q : ε → σ → Prop} (hc : Triple pre c post Q)
    (hHandler : ∀ e, Triple (Q e) (handler e) post fail) :
    Triple pre (MonadExcept.tryCatch c handler) post fail := by
  intro s hs
  have hBody := hc s hs
  change (∀ a s', handle c handler s = (.ok a, s') → post a s') ∧
    ∀ e s', handle c handler s = (.error e, s') → fail e s'
  unfold handle
  split
  · rename_i a s' hEq
    constructor
    · intro a' s'' ha
      cases ha
      exact hBody.1 a s' hEq
    · intro e s'' he
      cases he
  · rename_i e s' hEq
    exact hHandler e s' (hBody.2 e s' hEq)

/-- A stronger precondition suffices. -/
theorem weaken {pre' : σ → Prop} {c : Effect σ ε α} (hc : Triple pre c post fail)
    (h : ∀ s, pre' s → pre s) : Triple pre' c post fail :=
  fun s hs => hc s (h s hs)

/-- Exceptions may be left out of account. -/
theorem forget {c : Effect σ ε α} (hc : Triple pre c post fail) :
    Triple pre c post fun _ _ => True :=
  fun s hs => ⟨(hc s hs).1, fun _ _ _ => trivial⟩

end Triple

end Effect

end Library
end DataApi
