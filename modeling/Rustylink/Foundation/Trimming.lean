import Mathlib.Data.List.DropRight
import Rustylink.Foundation.Text

/-!
# Trimming

A list is trimmed at both ends of the elements of a class, and what is left is
clean: its ends are not of the class.  What was trimmed away is known by its
elements alone, so of layers around a clean list one is trimmed off with all its
elements.
-/

namespace Rustylink.Foundation

variable {α : Type} {p : α → Bool} {xs ys : List α}

def trimList (p : α → Bool) (xs : List α) : List α :=
  (xs.dropWhile p).rdropWhile p

structure Clean (p : α → Bool) (xs : List α) : Prop where
  head : ∀ x ∈ xs.head?, p x = false
  last : ∀ x ∈ xs.getLast?, p x = false

theorem Clean.nil : Clean p [] := ⟨by simp, by simp⟩

theorem Clean.of_forall (h : ∀ x ∈ xs, p x = false) : Clean p xs :=
  ⟨fun x hx => h x (List.mem_of_mem_head? hx), fun x hx =>
    h x (List.mem_of_mem_getLast? hx)⟩

theorem Clean.append (hxs : Clean p xs) (hys : Clean p ys) :
    Clean p (xs ++ ys) := by
  constructor
  · intro x hx
    rw [List.head?_append] at hx
    cases xs with
    | nil => exact hys.head x hx
    | cons y xs => exact hxs.head x hx
  · intro x hx
    rw [List.getLast?_append] at hx
    cases hlast : ys.getLast? with
    | none =>
        rw [hlast] at hx
        exact hxs.last x hx
    | some y =>
        rw [hlast] at hx
        exact hys.last x (hlast.trans hx)

/-! ## What is left -/

theorem dropWhile_eq_self (h : ∀ x ∈ xs.head?, p x = false) :
    xs.dropWhile p = xs := by
  cases xs with
  | nil => rfl
  | cons x xs => simp [h x rfl]

theorem rdropWhile_eq_self (h : ∀ x ∈ xs.getLast?, p x = false) :
    xs.rdropWhile p = xs := by
  rw [List.rdropWhile_eq_self_iff]
  intro hne
  simp [h (xs.getLast hne) (List.getLast?_eq_some_getLast hne)]

theorem head_dropWhile : ∀ x ∈ (xs.dropWhile p).head?, p x = false := by
  intro x hx
  have hhead := List.head?_dropWhile_not p xs
  rw [Option.mem_def.mp hx] at hhead
  exact hhead

theorem last_rdropWhile : ∀ x ∈ (xs.rdropWhile p).getLast?, p x = false := by
  intro x hx
  have hne : xs.rdropWhile p ≠ [] := by
    intro hnil
    rw [hnil] at hx
    cases hx
  have hlast := List.rdropWhile_last_not p xs hne
  rw [List.getLast?_eq_some_getLast hne, Option.mem_some_iff] at hx
  rw [hx] at hlast
  simpa using hlast

theorem clean_trimList (p : α → Bool) (xs : List α) :
    Clean p (trimList p xs) := by
  refine ⟨fun x hx => ?_, last_rdropWhile⟩
  obtain ⟨back, hback⟩ := List.rdropWhile_prefix p (xs.dropWhile p)
  have hmem : x ∈ (xs.dropWhile p).head? := by
    rw [← hback, List.head?_append]
    exact Option.or_eq_some_iff.mpr (.inl hx)
  exact head_dropWhile x hmem

theorem trimList_of_clean (h : Clean p xs) : trimList p xs = xs := by
  rw [trimList, dropWhile_eq_self h.head, rdropWhile_eq_self h.last]

theorem trimList_idem : trimList p (trimList p xs) = trimList p xs :=
  trimList_of_clean (clean_trimList p xs)

theorem clean_of_trimList_eq (h : trimList p xs = xs) :
    Clean p xs := h ▸ clean_trimList p xs

/-! ## What was there -/

theorem exists_dropWhile (p : α → Bool) (xs : List α) :
    ∃ front, xs = front ++ xs.dropWhile p ∧ ∀ x ∈ front, p x = true :=
  ⟨xs.takeWhile p, List.takeWhile_append_dropWhile.symm, fun _ =>
    List.mem_takeWhile_imp⟩

theorem exists_rdropWhile (p : α → Bool) (xs : List α) :
    ∃ back, xs = xs.rdropWhile p ++ back ∧ ∀ x ∈ back, p x = true :=
  ⟨xs.rtakeWhile p, List.rdropWhile_append_rtakeWhile.symm,
    fun _ => List.mem_rtakeWhile_imp⟩

theorem dropWhile_append_of_head (hxs : ∀ x ∈ xs, p x = true)
    (hys : ∀ y ∈ ys.head?, p y = false) : (xs ++ ys).dropWhile p = ys := by
  rw [List.dropWhile_append_of_pos hxs, dropWhile_eq_self hys]

theorem rdropWhile_append_of_last (hxs : ∀ x ∈ xs.getLast?, p x = false)
    (hys : ∀ y ∈ ys, p y = true) : (xs ++ ys).rdropWhile p = xs := by
  rw [List.rdropWhile, List.reverse_append,
    List.dropWhile_append_of_pos fun y hy => hys y (List.mem_reverse.mp hy)]
  exact rdropWhile_eq_self hxs

theorem trimList_append {front back : List α} (hxs : Clean p xs)
    (hfront : ∀ x ∈ front, p x = true) (hback : ∀ x ∈ back, p x = true) :
    trimList p (front ++ xs ++ back) = xs := by
  cases xs with
  | nil =>
      have hall : ∀ x ∈ front ++ [] ++ back, p x = true := by
        intro x hx
        rw [List.append_nil] at hx
        exact (List.mem_append.mp hx).elim (hfront x) (hback x)
      rw [trimList, List.dropWhile_eq_nil_iff.mpr hall, List.rdropWhile_nil]
  | cons x xs =>
      have hhead : ∀ y ∈ (x :: xs ++ back).head?, p y = false := hxs.head
      rw [trimList, List.append_assoc, dropWhile_append_of_head hfront hhead,
        rdropWhile_append_of_last hxs.last hback]

/-! ## Layers -/

/-- The inner list stands between elements of the class. -/
def Around (p : α → Bool) (inner xs : List α) : Prop :=
  ∃ front back, xs = front ++ inner ++ back ∧ (∀ x ∈ front, p x = true) ∧
    ∀ x ∈ back, p x = true

variable {q : α → Bool} {inner : List α}

theorem around_trimList (p : α → Bool) (xs : List α) :
    Around p (trimList p xs) xs := by
  obtain ⟨front, hxs, hfront⟩ := exists_dropWhile p xs
  obtain ⟨back, hrest, hback⟩ := exists_rdropWhile p (xs.dropWhile p)
  refine ⟨front, back, ?_, hfront, hback⟩
  rw [List.append_assoc, trimList, ← hrest]
  exact hxs

theorem Around.trimList_eq (h : Around p inner xs) (hclean : Clean p inner) :
    trimList p xs = inner := by
  obtain ⟨front, back, rfl, hfront, hback⟩ := h
  exact trimList_append hclean hfront hback

theorem Around.clean (h : Around p inner xs) (hclean : Clean q inner)
    (hother : ∀ x, p x = true → q x = false) : Clean q xs := by
  obtain ⟨front, back, rfl, hfront, hback⟩ := h
  have hends : ∀ part : List α, (∀ x ∈ part, p x = true) → Clean q part :=
    fun part hpart => .of_forall fun x hx => hother x (hpart x hx)
  exact ((hends front hfront).append hclean).append (hends back hback)

theorem Around.mono (h : Around p inner xs)
    (hpq : ∀ x, p x = true → q x = true) :
    Around q inner xs := by
  obtain ⟨front, back, hxs, hfront, hback⟩ := h
  exact ⟨front, back, hxs, fun x hx => hpq x (hfront x hx), fun x hx =>
    hpq x (hback x hx)⟩

theorem Around.trans {middle : List α} (h : Around p inner middle)
    (h' : Around p middle xs) :
    Around p inner xs := by
  obtain ⟨front, back, rfl, hfront, hback⟩ := h
  obtain ⟨front', back', rfl, hfront', hback'⟩ := h'
  refine ⟨front' ++ front,
    back ++ back', by simp only [List.append_assoc], ?_, ?_⟩
  · exact fun x hx => (List.mem_append.mp hx).elim (hfront' x) (hfront x)
  · exact fun x hx => (List.mem_append.mp hx).elim (hback x) (hback' x)

theorem trimList_sublist (p : α → Bool) (xs : List α) :
    (trimList p xs).Sublist xs :=
  (List.rdropWhile_prefix p _).sublist.trans (List.dropWhile_sublist p)

theorem eq_self_of_comp {f g : List α → List α} (hf : ∀ xs, (f xs).Sublist xs)
    (hg : ∀ xs, (g xs).Sublist xs) (h : f (g xs) = xs) :
    g xs = xs ∧ f xs = xs := by
  have hback : xs.Sublist (g xs) := by
    have hsub := hf (g xs)
    rwa [h] at hsub
  have hinner : g xs = xs := (hg xs).antisymm hback
  rw [hinner] at h
  exact ⟨hinner, h⟩

/-! ## Pairs in front -/

variable {a b c : Char} {cs : List Char}

theorem pair_prefix_iff {x y : Char} :
    [a, b] <+: x :: y :: cs ↔ x = a ∧ y = b := by
  rw [List.cons_prefix_cons, List.cons_prefix_cons]
  simp [eq_comm]

theorem dropPairs_eq_self (h : ¬ [a, b] <+: cs) : dropPairs a b cs = cs := by
  fun_cases dropPairs a b cs with
  | case1 x y cs hpair => exact absurd (pair_prefix_iff.mpr hpair) h
  | case2 x y cs hpair => rfl
  | case3 cs hshort => rfl

theorem dropPairs_not_prefix (a b : Char) (cs : List Char) :
    ¬ [a, b] <+: dropPairs a b cs := by
  fun_induction dropPairs a b cs with
  | case1 x y cs hpair ih => exact ih
  | case2 x y cs hpair => exact fun hfront => hpair (pair_prefix_iff.mp hfront)
  | case3 cs hshort =>
      rintro ⟨rest, rfl⟩
      exact hshort a b rest rfl

@[simp] theorem dropPairs_pair (a b : Char) (cs : List Char) :
    dropPairs a b (a :: b :: cs) = dropPairs a b cs := by
  simp [dropPairs]

theorem exists_dropPairs (a b : Char) (cs : List Char) :
    ∃ n, cs = (List.replicate n [a, b]).flatten ++ dropPairs a b cs := by
  fun_induction dropPairs a b cs with
  | case1 x y cs hpair ih =>
      obtain ⟨n, hn⟩ := ih
      obtain ⟨rfl, rfl⟩ := hpair
      refine ⟨n + 1, ?_⟩
      rw [List.replicate_succ, List.flatten_cons, List.append_assoc, ← hn]
      rfl
  | case2 x y cs hpair => exact ⟨0, rfl⟩
  | case3 cs hshort => exact ⟨0, rfl⟩

theorem mem_pairs {n : Nat} (h : c ∈ (List.replicate n [a, b]).flatten) :
    c = a ∨ c = b := by
  obtain ⟨pair, hpair, hc⟩ := List.mem_flatten.mp h
  rw [(List.mem_replicate.mp hpair).2] at hc
  simpa using hc

theorem dropPairs_replicate (a b : Char) (n : Nat) (cs : List Char) :
    dropPairs a b ((List.replicate n [a, b]).flatten ++ cs) =
      dropPairs a b cs := by
  induction n with
  | zero => rfl
  | succ n ih =>
      rw [List.replicate_succ, List.flatten_cons, List.append_assoc, ← ih]
      exact dropPairs_pair a b _

theorem dropPairs_sublist (a b : Char) (cs : List Char) :
    (dropPairs a b cs).Sublist cs := by
  fun_induction dropPairs a b cs with
  | case1 x y cs hpair ih => exact (ih.cons y).cons x
  | case2 x y cs hpair => exact .refl _
  | case3 cs hshort => exact .refl _

/-! ## Texts -/

theorem toList_trimMatches (p : Char → Bool) (s : String) :
    (trimMatches p s).toList = trimList p s.toList :=
  String.toList_ofList

theorem trim_of_clean {s : String} (h : Clean isWhitespace s.toList) :
    trim s = s := by
  apply String.toList_injective
  rw [trim, toList_trimMatches, trimList_of_clean h]

theorem trim_trim (s : String) : trim (trim s) = trim s := by
  apply String.toList_injective
  rw [trim, trim, toList_trimMatches, toList_trimMatches, trimList_idem]

end Rustylink.Foundation
