import Mathlib.Data.List.Nodup
import Mathlib.Logic.Function.Basic

/-!
# Tables with a record of what was added

A table gives at most one value for a key.  Who adds entries and records their
keys can take them out again: if none of the recorded keys was there before,
dropping them all restores the table, and otherwise it does not.
-/

namespace Rustylink.Foundation

abbrev Table (Key Value : Type) := Key → Option Value

namespace Table

variable {Key Value : Type} [DecidableEq Key]

def put (k : Key) (v : Value) (table : Table Key Value) : Table Key Value :=
  Function.update table k (some v)

def drop (k : Key) (table : Table Key Value) : Table Key Value :=
  Function.update table k none

def dropAll : List Key → Table Key Value → Table Key Value
  | [], table => table
  | k :: keys, table => dropAll keys (table.drop k)

variable {table now : Table Key Value} {keys : List Key}
  {k other : Key} {v : Value}

@[simp] theorem put_same : table.put k v k = some v := Function.update_self ..

@[simp] theorem put_of_ne (h : other ≠ k) : table.put k v other = table other :=
  Function.update_of_ne h ..

@[simp] theorem drop_same : table.drop k k = none := Function.update_self ..

@[simp] theorem drop_of_ne (h : other ≠ k) : table.drop k other = table other :=
  Function.update_of_ne h ..

theorem drop_of_none (h : table k = none) : table.drop k = table := by
  rw [drop, ← h]
  exact Function.update_eq_self k table

theorem dropAll_apply (keys : List Key) (table : Table Key Value) (k : Key) :
    table.dropAll keys k = if k ∈ keys then none else table k := by
  induction keys generalizing table with
  | nil => simp [dropAll]
  | cons first keys ih =>
      rw [dropAll, ih]
      by_cases hkeys : k ∈ keys
      · simp [hkeys]
      · by_cases hfirst : k = first
        · subst hfirst
          simp
        · simp [hkeys, hfirst]

theorem dropAll_eq_iff (hsame : ∀ k, k ∉ keys → now k = table k) :
    now.dropAll keys = table ↔ ∀ k ∈ keys, table k = none := by
  constructor
  · intro h k hk
    rw [← h, dropAll_apply, if_pos hk]
  · intro h
    funext k
    rw [dropAll_apply]
    split
    · rename_i hk
      exact (h k hk).symm
    · rename_i hk
      exact hsame k hk

/--
`now` is the table with entries for the keys, which were not there before.
-/
structure GrownBy (table : Table Key Value) (keys : List Key)
    (now : Table Key Value) : Prop where
  fresh : ∀ k ∈ keys, table k = none
  there : ∀ k ∈ keys, (now k).isSome = true
  same : ∀ k, k ∉ keys → now k = table k
  nodup : keys.Nodup

namespace GrownBy

omit [DecidableEq Key] in
theorem refl (table : Table Key Value) : GrownBy table [] table where
  fresh := by simp
  there := by simp
  same _ _ := rfl
  nodup := List.nodup_nil

theorem put (h : GrownBy table keys now) (hk : now k = none) (v : Value) :
    GrownBy table (keys ++ [k]) (now.put k v) := by
  have hnew : k ∉ keys := fun hmem => by
    have hthere := h.there k hmem
    rw [hk] at hthere
    cases hthere
  refine ⟨?_, ?_, ?_, ?_⟩
  · intro other hother
    rcases List.mem_append.mp hother with hold | hnow
    · exact h.fresh other hold
    · rw [List.mem_singleton.mp hnow, ← h.same k hnew, hk]
  · intro other hother
    by_cases hsame : other = k
    · simp [hsame]
    · rw [put_of_ne hsame]
      exact h.there other (by simpa [hsame] using hother)
  · intro other hother
    rw [List.mem_append, List.mem_singleton, not_or] at hother
    rw [put_of_ne hother.2]
    exact h.same other hother.1
  · rw [List.nodup_append]
    refine ⟨h.nodup, List.nodup_singleton k, fun a ha b hb heq => hnew ?_⟩
    rwa [← List.mem_singleton.mp hb, ← heq]

omit [DecidableEq Key] in
theorem keeps (h : GrownBy table keys now) (hk : table k = some v) :
    now k = some v := by
  rw [h.same k, hk]
  intro hmem
  rw [h.fresh k hmem] at hk
  cases hk

theorem undo {dropped : List Key} (h : GrownBy table keys now)
    (hperm : dropped.Perm keys) :
    now.dropAll dropped = table := by
  rw [dropAll_eq_iff fun k hk => h.same k fun hmem =>
    hk (hperm.mem_iff.mpr hmem)]
  exact fun k hk => h.fresh k (hperm.mem_iff.mp hk)

end GrownBy

end Table

end Rustylink.Foundation
