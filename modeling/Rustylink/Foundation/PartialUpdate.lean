import Mathlib.Data.Option.Basic

/-!
# Partial updates

A setting is stored in a normal form of what is written, and shown in the form
that it could be written in.  An update names it or leaves it alone.
-/

namespace Rustylink.Foundation

structure Setting (Written Stored : Type) where
  normal : Written → Stored
  shown : Stored → Option Written

namespace Setting

variable {Written Stored : Type} (setting : Setting Written Stored)

def put (u : Option Written) (old : Stored) : Stored :=
  match u with
  | some written => setting.normal written
  | none => old

@[simp] theorem put_none (old : Stored) : setting.put none old = old := rfl

@[simp] theorem put_some (written : Written) (old : Stored) :
    setting.put (some written) old = setting.normal written := rfl

@[simp] theorem put_put (u : Option Written) (old : Stored) :
    setting.put u (setting.put u old) = setting.put u old := by
  cases u <;> rfl

theorem put_of {P : Stored → Prop}
    (hnormal : ∀ written, P (setting.normal written)) {old : Stored}
    (hold : P old) (u : Option Written) : P (setting.put u old) := by
  cases u with
  | none => exact hold
  | some written => exact hnormal written

theorem put_shown (old : Stored)
    (h : ∀ written, setting.shown old = some written →
      setting.normal written = old) :
    setting.put (setting.shown old) old = old := by
  cases hshown : setting.shown old with
  | none => rfl
  | some written => exact h written hshown

end Setting

end Rustylink.Foundation
