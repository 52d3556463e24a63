import Mathlib.Tactic.Basic

/-!
# Fallible state-changing code

A body that changes a state and may stop with an error keeps the changes it
made so far.  A specification of such a body has a precondition, a
postcondition for its value and the state it leaves, and a condition on the
state that an error leaves; the rules below compose specifications the way
the bodies are composed.
-/

namespace Rustylink.Foundation

variable {State Error α β : Type}

def leaves : EStateM.Result Error State α → State
  | .ok _ s => s
  | .error _ s => s

def Meets (Q : α → State → Prop) (E : State → Prop) :
    EStateM.Result Error State α → Prop
  | .ok a s => Q a s
  | .error _ s => E s

/-- From `P` the body ends in `Q`, or fails in `E`. -/
def Spec (P : State → Prop) (m : EStateM Error State α)
    (Q : α → State → Prop) (E : State → Prop) : Prop :=
  ∀ s, P s → Meets Q E (m s)

theorem run_bind (m : EStateM Error State α) (f : α → EStateM Error State β)
    (s : State) :
    (m >>= f) s =
      match m s with
      | .ok a s₁ => f a s₁
      | .error e s₁ => .error e s₁ := by
  show EStateM.bind m f s = _
  unfold EStateM.bind
  cases m s <;> rfl

@[simp] theorem run_pure (a : α) (s : State) :
    (pure a : EStateM Error State α) s = .ok a s := rfl

@[simp] theorem run_throw (e : Error) (s : State) :
    (throw e : EStateM Error State α) s = .error e s := rfl

@[simp] theorem run_modify (f : State → State) (s : State) :
    (modify f : EStateM Error State PUnit) s = .ok ⟨⟩ (f s) := rfl

@[simp] theorem run_get (s : State) :
    (get : EStateM Error State State) s = .ok s s := rfl

theorem bind_eq_ok {m : Except Error α} {f : α → Except Error β} {b : β} :
    m >>= f = .ok b ↔ ∃ a, m = .ok a ∧ f a = .ok b := by
  cases m with
  | error e => exact iff_of_false nofun nofun
  | ok a =>
      constructor
      · exact fun h => ⟨a, rfl, h⟩
      · rintro ⟨value, hvalue, h⟩
        cases hvalue
        exact h

theorem mapError_eq_ok {Error' : Type} {m : Except Error α}
    {f : Error → Error'} {a : α} :
    m.mapError f = .ok a ↔ m = .ok a := by
  cases m with
  | error e => exact iff_of_false nofun nofun
  | ok b =>
      constructor <;> intro h <;> cases h <;> rfl

def succeeds : EStateM.Result Error State α → Bool
  | .ok .. => true
  | .error .. => false

theorem eq_ok_of_succeeds {r : EStateM.Result Error State Unit}
    (h : succeeds r = true) : r = .ok () (leaves r) := by
  cases r with
  | ok a s => rfl
  | error e s => cases h

theorem eq_error_of_not_succeeds {r : EStateM.Result Error State α}
    (h : succeeds r = false) : ∃ e, r = .error e (leaves r) := by
  cases r with
  | ok a s => cases h
  | error e s => exact ⟨e, rfl⟩

def resultOf : EStateM.Result Error State α → Option α
  | .ok a _ => some a
  | .error .. => none

theorem eq_ok_of_any {r : EStateM.Result Error State α} {p : α → Bool}
    (h : (resultOf r).any p = true) :
    ∃ a, r = .ok a (leaves r) ∧ p a = true := by
  cases r with
  | ok a s => exact ⟨a, rfl, h⟩
  | error e s => cases h

theorem Meets.leaves {Q : State → Prop} {r : EStateM.Result Error State α}
    (h : Meets (fun _ => Q) Q r) : Q (leaves r) := by
  cases r <;> exact h

namespace Spec

variable {P : State → Prop} {Q : α → State → Prop} {E : State → Prop}

theorem pure {a : α} (h : ∀ s, P s → Q a s) :
    Spec P (Pure.pure a : EStateM Error State α) Q E := h

theorem throw {e : Error} (h : ∀ s, P s → E s) :
    Spec P (MonadExcept.throw e : EStateM Error State α) Q E := h

theorem get {Q : State → State → Prop} (h : ∀ s, P s → Q s s) :
    Spec P (MonadState.get : EStateM Error State State) Q E := h

theorem modify {f : State → State} {Q : PUnit → State → Prop}
    (h : ∀ s, P s → Q ⟨⟩ (f s)) :
    Spec P (modifyThe State f : EStateM Error State PUnit) Q E := h

theorem ofExcept {x : Except Error α} (hok : ∀ a s, x = .ok a → P s → Q a s)
    (herror : ∀ s, P s → E s) :
    Spec P (MonadExcept.ofExcept x : EStateM Error State α) Q E := by
  cases x with
  | ok a => exact fun s hs => hok a s rfl hs
  | error e => exact herror

theorem bind {m : EStateM Error State α} {f : α → EStateM Error State β}
    {R : β → State → Prop} (hm : Spec P m Q E)
    (hf : ∀ a, Spec (Q a) (f a) R E) :
    Spec P (m >>= f) R E := by
  intro s hs
  have hfirst := hm s hs
  rw [run_bind]
  cases hrun : m s with
  | ok a s₁ =>
      rw [hrun] at hfirst
      exact hf a s₁ hfirst
  | error e s₁ =>
      rw [hrun] at hfirst
      exact hfirst

theorem bind_ofExcept {x : Except Error α} {f : α → EStateM Error State β}
    {R : β → State → Prop} (hok : ∀ a, x = .ok a → Spec P (f a) R E)
    (herror : ∀ s, P s → E s) : Spec P (MonadExcept.ofExcept x >>= f) R E := by
  cases x with
  | ok a => exact hok a rfl
  | error e => exact herror

theorem extract {m : EStateM Error State α} {c : Prop} (h : c → Spec P m Q E) :
    Spec (fun s => P s ∧ c) m Q E :=
  fun s hs => h hs.2 s hs.1

theorem pre {m : EStateM Error State α} {P' : State → Prop}
    (hP : ∀ s, P' s → P s) (h : Spec P m Q E) : Spec P' m Q E :=
  fun s hs => h s (hP s hs)

theorem weaken {m : EStateM Error State α} {P' : State → Prop}
    {Q' : α → State → Prop} {E' : State → Prop} (h : Spec P m Q E)
    (hP : ∀ s, P' s → P s) (hQ : ∀ a s, Q a s → Q' a s)
    (hE : ∀ s, E s → E' s) : Spec P' m Q' E' := by
  intro s hs
  have hrun := h s (hP s hs)
  cases hm : m s with
  | ok a t =>
      rw [hm] at hrun
      exact hQ a t hrun
  | error e t =>
      rw [hm] at hrun
      exact hE t hrun

theorem ok {m : EStateM Error State α} {s t : State} {a : α}
    (h : Spec P m Q E) (hs : P s) (hrun : m s = .ok a t) : Q a t := by
  have hmeets := h s hs
  rw [hrun] at hmeets
  exact hmeets

end Spec

end Rustylink.Foundation
