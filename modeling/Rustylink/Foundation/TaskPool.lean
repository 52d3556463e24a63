import Mathlib.Data.List.Basic

/-!
# Pools of tasks

Concurrent tasks are kept in spawn order: a task's identifier is its position,
spawning appends, and a step of one task overwrites its entry.  A task is never
removed, so an identifier handed out earlier (a join handle) stays valid.
-/

namespace Rustylink.Foundation

variable {Task : Type}

def EveryTask (P : Nat → Task → Prop) (pool : List Task) : Prop :=
  ∀ i t, pool[i]? = some t → P i t

theorem get_spawn {pool : List Task} {new t : Task} {i : Nat} :
    (pool ++ [new])[i]? = some t ↔
      pool[i]? = some t ∨ (i = pool.length ∧ t = new) := by
  rcases Nat.lt_trichotomy i pool.length with hlt | heq | hgt
  · rw [List.getElem?_append_left hlt]
    constructor
    · exact Or.inl
    · rintro (h | ⟨h, -⟩)
      · exact h
      · omega
  · subst heq
    simp [eq_comm]
  · rw [List.getElem?_eq_none (by simpa using Nat.succ_le_of_lt hgt),
      List.getElem?_eq_none (Nat.le_of_lt hgt)]
    constructor
    · intro h
      contradiction
    · rintro (h | ⟨h, -⟩)
      · contradiction
      · omega

theorem get_set {pool : List Task} {new old t : Task} {i j : Nat}
    (hi : pool[i]? = some old) :
    (pool.set i new)[j]? = some t ↔
      (j = i ∧ t = new) ∨ (j ≠ i ∧ pool[j]? = some t) := by
  have hlt : i < pool.length := (List.getElem?_eq_some_iff.mp hi).1
  rw [List.getElem?_set]
  by_cases h : i = j
  · subst h
    simp [hlt, eq_comm]
  · simp [h, Ne.symm h]

theorem get_set_self {pool : List Task} {new old : Task} {i : Nat}
    (hi : pool[i]? = some old) : (pool.set i new)[i]? = some new :=
  (get_set hi).mpr (.inl ⟨rfl, rfl⟩)

theorem mem_set_of_ne {pool : List Task} {new old t : Task} {i : Nat}
    (hi : pool[i]? = some old) (ht : t ∈ pool) (hne : t ≠ old) :
    t ∈ pool.set i new := by
  obtain ⟨j, hj⟩ := List.mem_iff_getElem?.mp ht
  apply List.mem_iff_getElem?.mpr
  refine ⟨j, (get_set hi).mpr (.inr ⟨?_, hj⟩)⟩
  rintro rfl
  rw [hi] at hj
  exact hne (Option.some.inj hj).symm

theorem EveryTask.spawn {P : Nat → Task → Prop} {pool : List Task} {new : Task}
    (h : EveryTask P pool) (hnew : P pool.length new) :
    EveryTask P (pool ++ [new]) := by
  intro i t ht
  rcases get_spawn.mp ht with hold | ⟨rfl, rfl⟩
  · exact h i t hold
  · exact hnew

end Rustylink.Foundation
