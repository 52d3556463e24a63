import Mathlib.Data.List.TakeWhile
import Rustylink.Foundation.Framing
import Rustylink.Foundation.Text

/-!
# Texts as bytes

The UTF-8 encoding of a text, and what can be said of a text from its bytes:
whether it is ASCII, and what is left of an ASCII text without the blanks
around it.
-/

namespace Rustylink.Foundation

/-- `str::as_bytes`. -/
def utf8 (s : String) : ByteString := s.toByteArray.data.toList

theorem utf8_eq_flatMap (s : String) :
    utf8 s = s.toList.flatMap String.utf8EncodeChar := by
  rw [utf8, ← String.utf8Encode_toList, List.utf8Encode, List.data_toByteArray]

def IsAscii (s : String) : Prop := ∀ c ∈ s.toList, c.toNat < 128

instance (s : String) : Decidable (IsAscii s) :=
  List.decidableBAll (fun c : Char => c.toNat < 128) s.toList

theorem utf8EncodeChar_ascii {c : Char} (h : c.toNat < 128) :
    String.utf8EncodeChar c = [UInt8.ofNat c.toNat] := by
  have hval : c.val.toNat = c.toNat := rfl
  have hle : c.toNat ≤ 127 := by omega
  simp [String.utf8EncodeChar, hval, hle]

theorem utf8EncodeChar_high {c : Char} (h : 128 ≤ c.toNat) :
    ∀ b ∈ String.utf8EncodeChar c, 128 ≤ b.toNat := by
  have hval : c.val.toNat = c.toNat := rfl
  have hlead : ¬ c.toNat ≤ 127 := by omega
  intro b hb
  simp only [String.utf8EncodeChar, hval, hlead, if_false] at hb
  split_ifs at hb <;>
    simp only [List.mem_cons, List.not_mem_nil, or_false] at hb <;>
    rcases hb with rfl | rfl | rfl | rfl <;>
    rw [UInt8.toNat_ofNat'] <;> omega

theorem utf8EncodeChar_ne_nil (c : Char) : String.utf8EncodeChar c ≠ [] := by
  rw [← List.length_pos_iff, String.length_utf8EncodeChar]
  exact Char.utf8Size_pos c

theorem isAscii_iff_utf8 {s : String} :
    IsAscii s ↔ ∀ b ∈ utf8 s, b.toNat < 128 := by
  constructor
  · intro h b hb
    rw [utf8_eq_flatMap] at hb
    obtain ⟨c, hc, hbc⟩ := List.mem_flatMap.mp hb
    rw [utf8EncodeChar_ascii (h c hc), List.mem_singleton] at hbc
    have hlt := h c hc
    rw [hbc, UInt8.toNat_ofNat']
    omega
  · intro h c hc
    by_contra hhigh
    obtain ⟨b, hb⟩ := List.exists_mem_of_ne_nil _ (utf8EncodeChar_ne_nil c)
    have hge := utf8EncodeChar_high (by omega) b hb
    rw [utf8_eq_flatMap] at h
    have hlt := h b (List.mem_flatMap.mpr ⟨c, hc, hb⟩)
    omega

theorem isAscii_append {s t : String} :
    IsAscii (s ++ t) ↔ IsAscii s ∧ IsAscii t := by
  simp [IsAscii, or_imp, forall_and]

theorem isAscii_intercalate {separator : String} {texts : List String}
    (hseparator : IsAscii separator) :
    IsAscii (separator.intercalate texts) ↔ ∀ text ∈ texts, IsAscii text := by
  induction texts with
  | nil => simp [IsAscii]
  | cons text texts ih =>
      cases texts with
      | nil => simp
      | cons next rest =>
          rw [String.intercalate_cons_cons, isAscii_append, isAscii_append, ih]
          simp [hseparator]

theorem utf8_ne_nil {s : String} (h : ¬ IsAscii s) : utf8 s ≠ [] := by
  rintro hnil
  exact h (isAscii_iff_utf8.mpr (by simp [hnil]))

theorem utf8_ascii {s : String} (h : IsAscii s) :
    utf8 s = s.toList.map fun c => UInt8.ofNat c.toNat := by
  rw [utf8_eq_flatMap, List.map_eq_flatMap]
  exact List.flatMap_congr fun c hc => utf8EncodeChar_ascii (h c hc)

def asciiText (bytes : ByteString) : String :=
  String.ofList (bytes.map fun b => Char.ofNat b.toNat)

theorem asciiText_utf8 {s : String} (h : IsAscii s) :
    asciiText (utf8 s) = s := by
  have hchars : s.toList.map ((fun b : UInt8 => Char.ofNat b.toNat) ∘
      fun c : Char => UInt8.ofNat c.toNat) = s.toList := by
    refine (List.map_congr_left fun c hc => ?_).trans (List.map_id _)
    have hlow := h c hc
    have hbyte : (UInt8.ofNat c.toNat).toNat = c.toNat := by
      rw [UInt8.toNat_ofNat']
      omega
    rw [Function.comp_apply, hbyte, Char.ofNat_toNat, id]
  rw [asciiText, utf8_ascii h, List.map_map, hchars, String.ofList_toList]

/-! ## Blanks around an ASCII text -/

def isBlankByte (b : UInt8) : Bool :=
  (9 ≤ b.toNat && b.toNat ≤ 13) || b.toNat = 32

def trimBytes (bytes : ByteString) : ByteString :=
  ((bytes.dropWhile isBlankByte).reverse.dropWhile isBlankByte).reverse

theorem isBlankByte_ascii {c : Char} (h : c.toNat < 128) :
    isBlankByte (UInt8.ofNat c.toNat) = isWhitespace c := by
  have hbyte : (UInt8.ofNat c.toNat).toNat = c.toNat := by
    rw [UInt8.toNat_ofNat']
    omega
  rw [Bool.eq_iff_iff]
  simp only [isBlankByte, isWhitespace, hbyte, Bool.or_eq_true,
    Bool.and_eq_true, decide_eq_true_eq]
  omega

theorem dropWhile_ascii {cs : List Char} (h : ∀ c ∈ cs, c.toNat < 128) :
    (cs.map fun c => UInt8.ofNat c.toNat).dropWhile isBlankByte =
      (cs.dropWhile isWhitespace).map fun c => UInt8.ofNat c.toNat := by
  induction cs with
  | nil => rfl
  | cons c cs ih =>
      rw [List.map_cons, List.dropWhile_cons, List.dropWhile_cons,
        isBlankByte_ascii (h c (by simp))]
      split
      · exact ih fun d hd => h d (by simp [hd])
      · rfl

theorem trim_ascii {s : String} (h : IsAscii s) : IsAscii (trim s) := by
  intro c hc
  apply h c
  simp only [trim, trimMatches, dropEndWhile, String.toList_ofList,
    List.mem_reverse] at hc
  have hfront := (List.dropWhile_suffix _).mem hc
  rw [List.mem_reverse] at hfront
  exact (List.dropWhile_suffix _).mem hfront

theorem utf8_trim {s : String} (h : IsAscii s) :
    utf8 (trim s) = trimBytes (utf8 s) := by
  have hfront : ∀ c ∈ (s.toList.dropWhile isWhitespace).reverse,
      c.toNat < 128 := by
    intro c hc
    exact h c ((List.dropWhile_suffix _).mem (List.mem_reverse.mp hc))
  rw [utf8_ascii (trim_ascii h), utf8_ascii h, trimBytes, dropWhile_ascii h,
    ← List.map_reverse, dropWhile_ascii hfront, ← List.map_reverse, trim,
    trimMatches, String.toList_ofList, dropEndWhile]

theorem trimBytes_ne_nil {bytes : ByteString} {b : UInt8} (hb : b ∈ bytes)
    (hblank : isBlankByte b = false) : trimBytes bytes ≠ [] := by
  have hkept {cs : ByteString} (h : b ∈ cs) : b ∈ cs.dropWhile isBlankByte := by
    rw [← List.takeWhile_append_dropWhile (p := isBlankByte) (l := cs)] at h
    rcases List.mem_append.mp h with hdropped | hkept
    · have hdropped := List.mem_takeWhile_imp hdropped
      rw [hdropped] at hblank
      cases hblank
    · exact hkept
  have hmem : b ∈ trimBytes bytes :=
    List.mem_reverse.mpr (hkept (List.mem_reverse.mpr (hkept hb)))
  exact List.ne_nil_of_mem hmem

theorem trimBytes_utf8_ne_nil {s : String} (h : ¬ IsAscii s) :
    trimBytes (utf8 s) ≠ [] := by
  rw [isAscii_iff_utf8] at h
  push Not at h
  obtain ⟨b, hb, hhigh⟩ := h
  refine trimBytes_ne_nil hb ?_
  simp only [isBlankByte, Bool.or_eq_false_iff, Bool.and_eq_false_iff,
    decide_eq_false_iff_not]
  omega

end Rustylink.Foundation
