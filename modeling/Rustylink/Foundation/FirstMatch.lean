import Mathlib.Data.List.Perm.Basic
import Mathlib.Data.Option.Basic

/-!
# First matches

A scan that takes the first match gives answers that agree in every order of
the list exactly when any two matches agree.
-/

namespace Rustylink.Foundation

variable {α β : Type}

theorem exists_perm_cons {a : α} {l : List α} (h : a ∈ l) :
    ∃ rest, (a :: rest).Perm l := by
  obtain ⟨before, after, rfl⟩ := List.append_of_mem h
  exact ⟨before ++ after, List.perm_middle.symm⟩

theorem find?_cons_filterMap {f : α → Option β} {p : β → Bool} {a : α} {b : β}
    (ha : f a = some b) (hb : p b = true) (rest : List α) :
    ((a :: rest).filterMap f).find? p = some b := by
  rw [List.filterMap_cons_some ha, List.find?_cons_of_pos hb]

theorem find?_rel_of_perm {R : β → β → Prop} {p : β → Bool} {l l₁ l₂ : List β}
    (hagree : ∀ a ∈ l, ∀ b ∈ l, p a = true → p b = true → R a b)
    (h₁ : l₁.Perm l) (h₂ : l₂.Perm l) :
    Option.Rel R (l₁.find? p) (l₂.find? p) := by
  cases hfind₁ : l₁.find? p with
  | none =>
      have hnone : l₂.find? p = none := by
        rw [List.find?_eq_none] at hfind₁ ⊢
        intro b hb
        exact hfind₁ b (h₁.mem_iff.mpr (h₂.mem_iff.mp hb))
      rw [hnone]
      exact .none
  | some a =>
      have hmem := List.mem_of_find?_eq_some hfind₁
      have ha := List.find?_some hfind₁
      cases hfind₂ : l₂.find? p with
      | none =>
          have hnot :=
            List.find?_eq_none.mp hfind₂ a (h₂.mem_iff.mpr (h₁.mem_iff.mp hmem))
          exact absurd ha hnot
      | some b =>
          have hmem₂ := List.mem_of_find?_eq_some hfind₂
          exact .some (hagree a (h₁.mem_iff.mp hmem) b (h₂.mem_iff.mp hmem₂) ha
            (List.find?_some hfind₂))

theorem agree_of_find?_rel {R : β → β → Prop} {f : α → Option β}
    {p : β → Bool} {l : List α} (h : ∀ l₁ l₂ : List α, l₁.Perm l → l₂.Perm l →
      Option.Rel R ((l₁.filterMap f).find? p) ((l₂.filterMap f).find? p)) :
    ∀ a ∈ l.filterMap f, ∀ b ∈ l.filterMap f, p a = true →
      p b = true → R a b := by
  intro a ha b hb hpa hpb
  obtain ⟨a', ha', hfa⟩ := List.mem_filterMap.mp ha
  obtain ⟨b', hb', hfb⟩ := List.mem_filterMap.mp hb
  obtain ⟨rest₁, hperm₁⟩ := exists_perm_cons ha'
  obtain ⟨rest₂, hperm₂⟩ := exists_perm_cons hb'
  have hrel := h _ _ hperm₁ hperm₂
  rw [find?_cons_filterMap hfa hpa, find?_cons_filterMap hfb hpb] at hrel
  cases hrel with
  | some hagree => exact hagree

end Rustylink.Foundation
