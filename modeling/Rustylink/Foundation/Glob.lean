import Mathlib.Data.List.Infix

/-!
# Glob patterns

The standard meaning of a pattern in which `*` stands for any text, also none,
and `?` for one character.
-/

namespace Rustylink.Foundation

def globMatch : List Char → List Char → Bool
  | [], text => text.isEmpty
  | c :: pattern, text =>
      if c = '*' then text.tails.any fun rest => globMatch pattern rest
      else
        match text with
        | [] => false
        | d :: text => (c = '?' || c = d) && globMatch pattern text

variable {c : Char} {pattern text : List Char}

theorem globMatch_star :
    globMatch ('*' :: pattern) text = true ↔
      ∃ rest, rest <:+ text ∧ globMatch pattern rest = true := by
  simp [globMatch, List.any_eq_true]

theorem globMatch_literal (h : ∀ c ∈ pattern, c ≠ '*' ∧ c ≠ '?') :
    globMatch pattern text = true ↔ text = pattern := by
  induction pattern generalizing text with
  | nil => simp [globMatch]
  | cons c pattern ih =>
      obtain ⟨hstar, hany⟩ := h c List.mem_cons_self
      have hrest : ∀ c ∈ pattern, c ≠ '*' ∧ c ≠ '?' := fun c hc =>
        h c (List.mem_cons_of_mem _ hc)
      cases text with
      | nil => simp [globMatch, hstar]
      | cons d text => simp [globMatch, hstar, hany, ih hrest,
            eq_comm (a := c) (b := d)]

theorem globMatch_star_literal (h : ∀ c ∈ pattern, c ≠ '*' ∧ c ≠ '?') :
    globMatch ('*' :: pattern) text = true ↔ pattern <:+ text := by
  rw [globMatch_star]
  constructor
  · rintro ⟨rest, hrest, hmatch⟩
    rwa [← (globMatch_literal h).mp hmatch]
  · intro hsuffix
    exact ⟨pattern, hsuffix, (globMatch_literal h).mpr rfl⟩

end Rustylink.Foundation
