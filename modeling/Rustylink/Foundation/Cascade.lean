import Mathlib.Data.List.Basic

/-!
# Cascades

Every item of one wave causes the items of the next wave.  A cascade ends when
some wave is empty; it never does while an item keeps causing itself.
-/

namespace Rustylink.Foundation

variable {α : Type}

/-- The items after `n` rounds; `next k` is what an item of wave `k` causes. -/
def wave (next : Nat → α → List α) (start : List α) : Nat → List α
  | 0 => start
  | n + 1 => (wave next start n).flatMap (next n)

def Ends (next : Nat → α → List α) (start : List α) : Prop :=
  ∃ n, ∀ m, n ≤ m → wave next start m = []

variable {next : Nat → α → List α} {start : List α}

theorem wave_eq_nil_of_le {n m : Nat} (h : wave next start n = [])
    (hle : n ≤ m) :
    wave next start m = [] := by
  induction hle with
  | refl => exact h
  | step _ ih => simp [wave, ih]

theorem ends_of_barren (h : ∀ a ∈ start, next 0 a = []) : Ends next start := by
  have hfirst : wave next start 1 = [] := by
    simp only [wave, List.flatMap_eq_nil_iff]
    exact h
  exact ⟨1, fun m hm => wave_eq_nil_of_le hfirst hm⟩

theorem mem_wave_of_recurs {a : α} (hstart : a ∈ start)
    (hnext : ∀ n, a ∈ next n a) (n : Nat) : a ∈ wave next start n := by
  induction n with
  | zero => exact hstart
  | succ n ih =>
      simp only [wave, List.mem_flatMap]
      exact ⟨a, ih, hnext n⟩

theorem not_ends_of_recurs {a : α} (hstart : a ∈ start)
    (hnext : ∀ n, a ∈ next n a) : ¬ Ends next start := by
  rintro ⟨n, hends⟩
  have hmem := mem_wave_of_recurs hstart hnext n
  rw [hends n (Nat.le_refl n)] at hmem
  cases hmem

end Rustylink.Foundation
