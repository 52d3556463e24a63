import Mathlib.Data.List.Forall2

/-!
# String operations of the Rust standard library

Only the ones the modelled functions call, with their documented behaviour,
on the list of a string's characters.
-/

namespace Rustylink.Foundation

/-- The `White_Space` property, as `char::is_whitespace` tests it. -/
def isWhitespace (c : Char) : Bool :=
  let n := c.toNat
  (9 ≤ n && n ≤ 13) || n = 0x20 || n = 0x85 || n = 0xA0 || n = 0x1680 ||
    (0x2000 ≤ n && n ≤ 0x200A) || n = 0x2028 || n = 0x2029 || n = 0x202F ||
    n = 0x205F || n = 0x3000

def dropEndWhile (p : Char → Bool) (cs : List Char) : List Char :=
  (cs.reverse.dropWhile p).reverse

def trimMatches (p : Char → Bool) (s : String) : String :=
  String.ofList (dropEndWhile p (s.toList.dropWhile p))

def trim (s : String) : String := trimMatches isWhitespace s

def trimStartMatches (p : Char → Bool) (s : String) : String :=
  String.ofList (s.toList.dropWhile p)

def trimEndMatches (p : Char → Bool) (s : String) : String :=
  String.ofList (dropEndWhile p s.toList)

def dropPairs (a b : Char) : List Char → List Char
  | x :: y :: cs => if x = a ∧ y = b then dropPairs a b cs else x :: y :: cs
  | cs => cs

/-- `trim_start_matches` with the two-character text `ab` as its pattern. -/
def trimStartPair (a b : Char) (s : String) : String :=
  String.ofList (dropPairs a b s.toList)

def splitChars (p : Char → Bool) : List Char → List (List Char)
  | [] => [[]]
  | c :: cs =>
      if p c then [] :: splitChars p cs
      else
        match splitChars p cs with
        | [] => [[c]]
        | piece :: pieces => (c :: piece) :: pieces

def split (p : Char → Bool) (s : String) : List String :=
  (splitChars p s.toList).map String.ofList

def toAsciiLowercase (s : String) : String :=
  String.ofList (s.toList.map Char.toLower)

def containsChar (c : Char) (s : String) : Bool := s.toList.contains c

def containsText (pattern s : String) : Bool :=
  s.toList.tails.any fun rest => pattern.toList.isPrefixOf rest

/-! ## ASCII case -/

def InAnyCase (text word : String) : Prop :=
  List.Forall₂ (fun c d => c = d ∨ c = d.toUpper) text.toList word.toList

theorem toNat_toLower (c : Char) :
    c.toLower.toNat =
      if 65 ≤ c.toNat ∧ c.toNat ≤ 90 then c.toNat + 32 else c.toNat := by
  have hfirst : 'A'.val.toNat = 65 := rfl
  have hlast : 'Z'.val.toNat = 90 := rfl
  have hshift : ('a'.val - 'A'.val).toNat = 32 := rfl
  have hval : c.val.toNat = c.toNat := rfl
  unfold Char.toLower
  simp only [ge_iff_le, UInt32.le_iff_toNat_le, hfirst, hlast, hval]
  split
  · show (c.val + ('a'.val - 'A'.val)).toNat = _
    rw [UInt32.toNat_add, hshift, hval]
    omega
  · rfl

theorem toNat_toUpper (c : Char) :
    c.toUpper.toNat =
      if 97 ≤ c.toNat ∧ c.toNat ≤ 122 then c.toNat - 32 else c.toNat := by
  have hfirst : 'a'.val.toNat = 97 := rfl
  have hlast : 'z'.val.toNat = 122 := rfl
  have hshift : ('A'.val - 'a'.val).toNat = 2 ^ 32 - 32 := rfl
  have hval : c.val.toNat = c.toNat := rfl
  unfold Char.toUpper
  simp only [UInt32.le_iff_toNat_le, hfirst, hlast, hval]
  split
  · show (c.val + ('A'.val - 'a'.val)).toNat = _
    rw [UInt32.toNat_add, hshift, hval]
    omega
  · rfl

theorem toAsciiLowercase_idem (text : String) :
    toAsciiLowercase (toAsciiLowercase text) = toAsciiLowercase text := by
  have hchar (c : Char) : c.toLower.toLower = c.toLower := by
    rw [← Char.toNat_inj, toNat_toLower c.toLower, if_neg]
    rw [toNat_toLower]
    split <;> omega
  simp [toAsciiLowercase, Function.comp_def, hchar]

theorem toLower_eq_iff {c d : Char} (h : d.toLower = d) :
    c.toLower = d ↔ c = d ∨ c = d.toUpper := by
  simp only [← Char.toNat_inj, toNat_toLower, toNat_toUpper] at *
  split at h <;> split <;> split <;> omega

theorem map_toLower_eq_iff {cs ds : List Char} (h : ∀ d ∈ ds, d.toLower = d) :
    cs.map Char.toLower = ds ↔
      List.Forall₂ (fun c d => c = d ∨ c = d.toUpper) cs ds := by
  induction ds generalizing cs with
  | nil => simp [List.forall₂_nil_right_iff]
  | cons d ds ih =>
      cases cs with
      | nil => simp [List.forall₂_nil_left_iff]
      | cons c cs =>
          rw [List.map_cons, List.cons.injEq, List.forall₂_cons]
          rw [toLower_eq_iff (h d (by simp)), ih fun e he => h e (by simp [he])]

theorem toAsciiLowercase_eq_iff {text word : String}
    (h : word.toList.map Char.toLower = word.toList) :
    toAsciiLowercase text = word ↔ InAnyCase text word := by
  have hlower : ∀ d ∈ word.toList, d.toLower = d :=
    List.map_inj_left.mp (h.trans (List.map_id word.toList).symm)
  unfold toAsciiLowercase InAnyCase
  rw [← map_toLower_eq_iff hlower, ← String.toList_inj, String.toList_ofList]

end Rustylink.Foundation
