import Mathlib.Order.Lattice
import Mathlib.Data.List.Basic

/-!
# Maps as lists sorted by their keys

A map is the list of its entries in the order of the keys, as an ordered map
iterates over them.  Two sorted lists are the same map when they give the same
value for every key.
-/

namespace Rustylink.Foundation

variable {Key Value : Type} [LinearOrder Key]

def SortedKeys (m : List (Key × Value)) : Prop :=
  m.Pairwise fun a b => a.1 < b.1

def insertKey (k : Key) (v : Value) : List (Key × Value) → List (Key × Value)
  | [] => [(k, v)]
  | (k', v') :: rest =>
      if k = k' then (k, v) :: rest
      else if k < k' then (k, v) :: (k', v') :: rest
      else (k', v') :: insertKey k v rest

def mergeKeys (updates m : List (Key × Value)) : List (Key × Value) :=
  updates.foldl (fun m update => insertKey update.1 update.2 m) m

variable {k : Key} {v : Value} {m m' updates : List (Key × Value)}

@[simp] theorem lookup_entry (other : Key) :
    List.lookup other ((k, v) :: m) =
      if other = k then some v else m.lookup other := by
  by_cases h : other = k
  · simp [h]
  · rw [List.lookup_cons, beq_eq_false_iff_ne.mpr h, if_neg h]

theorem lookup_insertKey (other : Key) :
    (insertKey k v m).lookup other =
      if other = k then some v else m.lookup other := by
  induction m with
  | nil => simp [insertKey]
  | cons entry rest ih =>
      obtain ⟨k', v'⟩ := entry
      simp only [insertKey]
      split
      · rename_i hkey
        subst hkey
        by_cases h : other = k <;> simp [h]
      · split
        · simp
        · rename_i hne _
          by_cases h : other = k'
          · simp [h, Ne.symm hne]
          · simp [h, ih]

theorem mem_insertKey {entry : Key × Value} (h : entry ∈ insertKey k v m) :
    entry = (k, v) ∨ entry ∈ m := by
  induction m with
  | nil => simpa [insertKey] using h
  | cons head rest ih =>
      obtain ⟨k', v'⟩ := head
      simp only [insertKey] at h
      split at h
      · rcases List.mem_cons.mp h with hnew | hold
        · exact .inl hnew
        · exact .inr (List.mem_cons_of_mem _ hold)
      · split at h
        · exact List.mem_cons.mp h
        · rcases List.mem_cons.mp h with hhead | htail
          · exact .inr (hhead ▸ List.mem_cons_self)
          · rcases ih htail with hnew | hold
            · exact .inl hnew
            · exact .inr (List.mem_cons_of_mem _ hold)

theorem SortedKeys.insertKey (h : SortedKeys m) :
    SortedKeys (insertKey k v m) := by
  induction m with
  | nil => exact List.pairwise_singleton _ _
  | cons head rest ih =>
      obtain ⟨k', v'⟩ := head
      obtain ⟨hhead, hrest⟩ := List.pairwise_cons.mp h
      simp only [Foundation.insertKey]
      split
      · rename_i hkey
        subst hkey
        exact List.pairwise_cons.mpr ⟨hhead, hrest⟩
      · split
        · rename_i hlt
          refine List.pairwise_cons.mpr ⟨fun entry hentry => ?_, h⟩
          rcases List.mem_cons.mp hentry with rfl | hold
          · exact hlt
          · exact lt_trans hlt (hhead entry hold)
        · rename_i hne hnlt
          refine List.pairwise_cons.mpr ⟨fun entry hentry => ?_, ih hrest⟩
          rcases mem_insertKey hentry with rfl | hold
          · exact lt_of_le_of_ne (not_lt.mp hnlt) (Ne.symm hne)
          · exact hhead entry hold

theorem SortedKeys.mergeKeys (h : SortedKeys m) :
    SortedKeys (mergeKeys updates m) := by
  induction updates generalizing m with
  | nil => exact h
  | cons update rest ih => exact ih h.insertKey

theorem mergeKeys_append (more : List (Key × Value)) :
    mergeKeys (updates ++ more) m = mergeKeys more (mergeKeys updates m) :=
  List.foldl_append

theorem lookup_eq_none_of_lt (h : ∀ entry ∈ m, k < entry.1) :
    m.lookup k = none := by
  rw [List.lookup_eq_none_iff]
  intro entry hentry
  simpa using ne_of_lt (h entry hentry)

theorem SortedKeys.ext (h : SortedKeys m) (h' : SortedKeys m')
    (hlookup : ∀ k, m.lookup k = m'.lookup k) : m = m' := by
  induction m generalizing m' with
  | nil =>
      cases m' with
      | nil => rfl
      | cons entry rest =>
          obtain ⟨k, v⟩ := entry
          simpa using hlookup k
  | cons entry rest ih =>
      obtain ⟨k, v⟩ := entry
      obtain ⟨hfirst, hrest⟩ := List.pairwise_cons.mp h
      cases m' with
      | nil => simpa using hlookup k
      | cons entry' rest' =>
          obtain ⟨k', v'⟩ := entry'
          obtain ⟨hfirst', hrest'⟩ := List.pairwise_cons.mp h'
          have hkey : k = k' := by
            rcases lt_trichotomy k k' with hlt | heq | hgt
            · have hmissing := lookup_eq_none_of_lt fun entry hentry =>
                lt_trans hlt (hfirst' entry hentry)
              have hat := hlookup k
              simp [ne_of_lt hlt, hmissing] at hat
            · exact heq
            · have hmissing := lookup_eq_none_of_lt fun entry hentry =>
                lt_trans hgt (hfirst entry hentry)
              have hat := hlookup k'
              simp [ne_of_lt hgt, hmissing] at hat
          subst hkey
          have hvalue : v = v' := by simpa using hlookup k
          subst hvalue
          congr 1
          apply ih hrest hrest'
          intro other
          by_cases hother : other = k
          · subst hother
            rw [lookup_eq_none_of_lt hfirst, lookup_eq_none_of_lt hfirst']
          · simpa [hother] using hlookup other

theorem SortedKeys.insertKey_eq_self (h : SortedKeys m)
    (hlookup : m.lookup k = some v) :
    Foundation.insertKey k v m = m := by
  apply h.insertKey.ext h
  intro other
  rw [lookup_insertKey]
  split
  · rename_i heq
    rw [heq, hlookup]
  · rfl

theorem SortedKeys.mergeKeys_eq_iff (h : SortedKeys m) (h' : SortedKeys m') :
    Foundation.mergeKeys updates m = Foundation.mergeKeys updates m' ↔
      ∀ k, k ∉ updates.map Prod.fst → m.lookup k = m'.lookup k := by
  induction updates generalizing m m' with
  | nil =>
      constructor
      · rintro rfl k -
        rfl
      · intro hlookup
        exact h.ext h' fun k => hlookup k (by simp)
  | cons update rest ih =>
      have hnext := ih (h.insertKey (k := update.1) (v := update.2))
        (h'.insertKey (k := update.1) (v := update.2))
      unfold Foundation.mergeKeys at hnext ⊢
      rw [List.foldl_cons, List.foldl_cons, hnext]
      simp only [lookup_insertKey, List.map_cons, List.mem_cons, not_or]
      constructor
      · rintro hall k ⟨hne, hrest⟩
        simpa [hne] using hall k hrest
      · intro hall k hrest
        split
        · rfl
        · rename_i hne
          exact hall k ⟨hne, hrest⟩

end Rustylink.Foundation
