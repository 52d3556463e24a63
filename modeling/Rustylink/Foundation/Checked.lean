import Mathlib.Algebra.Group.Nat.Defs
import Mathlib.Algebra.Ring.Int.Defs
import Mathlib.Tactic.Basic

/-!
# Signed 64-bit arithmetic that must not overflow

Each operation gives the machine's result if that is the exact one, and fails
otherwise; a build without overflow checks goes on with the wrapped result.
-/

namespace Rustylink.Foundation

inductive Overflow where
  | overflow
  deriving DecidableEq, Repr

def FitsInt64 (n : Int) : Prop := -2 ^ 63 ≤ n ∧ n < 2 ^ 63

instance (n : Int) :
    Decidable (FitsInt64 n) := inferInstanceAs (Decidable (_ ∧ _))

def checkedAdd (a b : Int64) : Except Overflow Int64 :=
  if FitsInt64 (a.toInt + b.toInt) then .ok (a + b) else .error .overflow

def checkedSub (a b : Int64) : Except Overflow Int64 :=
  if FitsInt64 (a.toInt - b.toInt) then .ok (a - b) else .error .overflow

theorem fitsInt64_toInt (a : Int64) : FitsInt64 a.toInt :=
  ⟨a.le_toInt, a.toInt_lt⟩

theorem FitsInt64.bmod_eq {n : Int} (h : FitsInt64 n) :
    n.bmod (2 ^ 64) = n := by
  obtain ⟨hlow, hhigh⟩ := h
  exact Int.bmod_eq_of_le_mul_two (by omega) (by omega)

theorem exact_eq_ok {n : Int} {wrapped c : Int64}
    (hwrap : wrapped.toInt = n.bmod (2 ^ 64)) :
    (if FitsInt64 n then .ok wrapped else .error .overflow : Except Overflow
      Int64) = .ok c ↔
      c.toInt = n := by
  split
  · rename_i hfits
    rw [Except.ok.injEq, ← Int64.toInt_inj, hwrap, hfits.bmod_eq, eq_comm]
  · rename_i hfits
    refine iff_of_false nofun ?_
    rintro rfl
    exact hfits (fitsInt64_toInt c)

theorem checkedAdd_eq_ok {a b c : Int64} :
    checkedAdd a b = .ok c ↔ c.toInt = a.toInt + b.toInt :=
  exact_eq_ok (Int64.toInt_add a b)

theorem checkedSub_eq_ok {a b c : Int64} :
    checkedSub a b = .ok c ↔ c.toInt = a.toInt - b.toInt :=
  exact_eq_ok (Int64.toInt_sub a b)

theorem exists_toInt_eq {n : Int} :
    (∃ a : Int64, a.toInt = n) ↔ FitsInt64 n := by
  constructor
  · rintro ⟨a, rfl⟩
    exact fitsInt64_toInt a
  · rintro ⟨hlow, hhigh⟩
    exact ⟨.ofInt n, Int64.toInt_ofInt_of_le hlow hhigh⟩

end Rustylink.Foundation
