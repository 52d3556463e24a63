import Mathlib.Data.List.Sort

/-!
# Stable sorts by a key

The sort of a list by a two-valued key puts what the key prefers in front and
keeps the order otherwise, so its head can be said without sorting.
-/

namespace Rustylink.Foundation

variable {α : Type}

theorem head?_orderedInsert (r : α → α → Prop) [DecidableRel r] (a : α)
    (l : List α) :
    (l.orderedInsert r a).head? = match l.head? with
      | none => some a
      | some b => if r a b then some a else some b := by
  cases l with
  | nil => rfl
  | cons b l =>
      by_cases h : r a b <;> simp [h]

theorem head?_insertionSort_bool (key : α → Bool) (l : List α) :
    (l.insertionSort fun a b => key a ≤ key b).head? =
      (l.find? fun a => !key a).or l.head? := by
  induction l with
  | nil => rfl
  | cons a l ih =>
      rw [List.insertionSort_cons, head?_orderedInsert, ih]
      cases hkey : key a with
      | false =>
          cases l.find? (fun a => !key a) <;> cases l.head? <;> simp [hkey]
      | true =>
          simp only [List.find?_cons, hkey, Bool.not_true, List.head?_cons]
          cases hfind : l.find? fun a => !key a with
          | none =>
              cases hhead : l.head? with
              | none => simp
              | some b =>
                  have hb : key b = true := by
                    have hmem := List.mem_of_head? hhead
                    simpa using List.find?_eq_none.mp hfind b hmem
                  simp [hb]
          | some b =>
              have hb : key b = false := by simpa using List.find?_some hfind
              simp [hb]

end Rustylink.Foundation
