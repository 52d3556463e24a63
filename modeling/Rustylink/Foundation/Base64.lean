import Rustylink.Foundation.Hex

/-!
# Base64

The standard alphabet with padding.  A decoder that takes canonical padding
only reads back what the encoder writes.
-/

namespace Rustylink.Foundation.Base64

open Rustylink.Foundation

def alphabet : List Char :=
  "ABCDEFGHIJKLMNOPQRSTUVWXYZabcdefghijklmnopqrstuvwxyz0123456789+/".toList

def digit (n : Nat) : Char := alphabet.getD n '='

def value (c : Char) : Option Nat := alphabet.findIdx? (· = c)

def encodeChars : ByteString → List Char
  | [] => []
  | [a] => [digit (a.toNat / 4), digit (a.toNat % 4 * 16), '=', '=']
  | [a, b] =>
      [digit (a.toNat / 4), digit (a.toNat % 4 * 16 + b.toNat / 16),
        digit (b.toNat % 16 * 4), '=']
  | a :: b :: c :: rest =>
      digit (a.toNat / 4) :: digit (a.toNat % 4 * 16 + b.toNat / 16) ::
        digit (b.toNat % 16 * 4 + c.toNat / 64) :: digit (c.toNat % 64) ::
          encodeChars rest

/-- The bits that the padding stands for must be zero. -/
def decodeChars : List Char → Option ByteString
  | [] => some []
  | w :: x :: y :: z :: rest => do
      let first ← value w
      let second ← value x
      if rest = [] ∧ y = '=' ∧ z = '=' then
        if second % 16 = 0 then return [UInt8.ofNat (first * 4 + second / 16)]
          else none
      else
        let third ← value y
        if rest = [] ∧ z = '=' then
          if third % 4 = 0 then
            return [UInt8.ofNat (first * 4 + second / 16),
              UInt8.ofNat (second % 16 * 16 + third / 4)]
          else none
        else
          let fourth ← value z
          let bytes ← decodeChars rest
          return UInt8.ofNat (first * 4 + second / 16) ::
            UInt8.ofNat (second % 16 * 16 + third / 4) ::
            UInt8.ofNat (third % 4 * 64 + fourth) :: bytes
  | _ => none

def encode (bytes : ByteString) : String := String.ofList (encodeChars bytes)

def decode (text : String) : Option ByteString := decodeChars text.toList

/-! ## Digits -/

theorem digits_checked :
    ((List.range 64).all fun n =>
      value (digit n) = some n && digit n ≠ '=' && (digit n).toNat < 128) =
        true := by
  decide +kernel

theorem digit_spec {n : Nat} (h : n < 64) :
    value (digit n) = some n ∧ digit n ≠ '=' ∧ (digit n).toNat < 128 := by
  have hchecked := List.all_eq_true.mp digits_checked n (List.mem_range.mpr h)
  simpa [and_assoc] using hchecked

theorem value_digit {n : Nat} (h : n < 64) : value (digit n) = some n :=
  (digit_spec h).1

theorem digit_ne_pad {n : Nat} (h : n < 64) :
    digit n ≠ '=' := (digit_spec h).2.1

theorem alphabet_length : alphabet.length = 64 := by decide +kernel

theorem digit_of_le {n : Nat} (h : 64 ≤ n) : digit n = '=' := by
  rw [← alphabet_length] at h
  rw [digit, List.getD_eq_getElem?_getD, List.getElem?_eq_none h,
    Option.getD_none]

theorem digit_ascii (n : Nat) : (digit n).toNat < 128 := by
  by_cases h : n < 64
  · exact (digit_spec h).2.2
  · rw [digit_of_le (by omega)]
    decide

/-! ## Round trip -/

theorem ofNat_eq {n : Nat} {b : UInt8} (h : n = b.toNat) :
    UInt8.ofNat n = b := by
  rw [h, UInt8.ofNat_toNat]

theorem decodeChars_encodeChars (bytes : ByteString) :
    decodeChars (encodeChars bytes) = some bytes := by
  fun_induction encodeChars bytes with
  | case1 => rfl
  | case2 a =>
      have ha := a.toNat_lt
      have hbyte : a.toNat / 4 * 4 + a.toNat % 4 * 16 / 16 = a.toNat := by omega
      have hpad : a.toNat % 4 * 16 % 16 = 0 := by omega
      simp only [decodeChars, value_digit (show a.toNat / 4 < 64 by omega),
        value_digit (show a.toNat % 4 * 16 < 64 by omega), Option.bind_eq_bind,
        Option.bind_some, and_self, if_true, hpad, ofNat_eq hbyte]
      rfl
  | case3 a b =>
      have ha := a.toNat_lt
      have hb := b.toNat_lt
      have hthird : b.toNat % 16 * 4 < 64 := by omega
      have hfirst : a.toNat / 4 * 4 + (a.toNat % 4 * 16 + b.toNat / 16) / 16 =
          a.toNat := by omega
      have hsecond : (a.toNat % 4 * 16 + b.toNat / 16) % 16 * 16 +
          b.toNat % 16 * 4 / 4 =
          b.toNat := by omega
      have hpad : b.toNat % 16 * 4 % 4 = 0 := by omega
      simp only [decodeChars, value_digit (show a.toNat / 4 < 64 by omega),
        value_digit (show a.toNat % 4 * 16 + b.toNat / 16 < 64 by omega),
        value_digit hthird, digit_ne_pad hthird, Option.bind_eq_bind,
        Option.bind_some, and_true, true_and, if_true, if_false, hpad,
        ofNat_eq hfirst, ofNat_eq hsecond]
      rfl
  | case4 a b c rest ih =>
      have ha := a.toNat_lt
      have hb := b.toNat_lt
      have hc := c.toNat_lt
      have hthird : b.toNat % 16 * 4 + c.toNat / 64 < 64 := by omega
      have hfourth : c.toNat % 64 < 64 := by omega
      have hfirst : a.toNat / 4 * 4 + (a.toNat % 4 * 16 + b.toNat / 16) / 16 =
          a.toNat := by omega
      have hsecond : (a.toNat % 4 * 16 + b.toNat / 16) % 16 * 16 +
          (b.toNat % 16 * 4 + c.toNat / 64) / 4 = b.toNat := by omega
      have hlast : (b.toNat % 16 * 4 + c.toNat / 64) % 4 * 64 + c.toNat % 64 =
          c.toNat := by omega
      simp only [decodeChars, value_digit (show a.toNat / 4 < 64 by omega),
        value_digit (show a.toNat % 4 * 16 + b.toNat / 16 < 64 by omega),
        value_digit hthird, value_digit hfourth, digit_ne_pad hfourth,
        Option.bind_eq_bind, Option.bind_some, and_false, if_false, ih,
        ofNat_eq hfirst, ofNat_eq hsecond, ofNat_eq hlast]
      rfl

theorem decode_encode (bytes : ByteString) :
    decode (encode bytes) = some bytes := by
  rw [decode, encode, String.toList_ofList, decodeChars_encodeChars]

theorem encode_ascii (bytes : ByteString) : IsAscii (encode bytes) := by
  intro c hc
  rw [encode, String.toList_ofList] at hc
  fun_induction encodeChars bytes with
  | case1 => cases hc
  | case2 a | case3 a b =>
      simp only [List.mem_cons, List.not_mem_nil, or_false] at hc
      rcases hc with rfl | rfl | rfl | rfl <;>
        first | exact digit_ascii _ | decide
  | case4 a b d rest ih =>
      simp only [List.mem_cons] at hc
      rcases hc with rfl | rfl | rfl | rfl | hrest
      · exact digit_ascii _
      · exact digit_ascii _
      · exact digit_ascii _
      · exact digit_ascii _
      · exact ih hrest

theorem digit_not_whitespace (n : Nat) : isWhitespace (digit n) = false := by
  by_cases h : n < 64
  · have hall : ∀ n < 64, isWhitespace (digit n) = false := by decide +kernel
    exact hall n h
  · rw [digit_of_le (by omega)]
    decide

theorem encode_not_whitespace (bytes : ByteString) :
    ∀ c ∈ (encode bytes).toList, isWhitespace c = false := by
  intro c hc
  rw [encode, String.toList_ofList] at hc
  fun_induction encodeChars bytes with
  | case1 => cases hc
  | case2 a | case3 a b =>
      simp only [List.mem_cons, List.not_mem_nil, or_false] at hc
      rcases hc with rfl | rfl | rfl | rfl <;>
        first | exact digit_not_whitespace _ | decide
  | case4 a b d rest ih =>
      simp only [List.mem_cons] at hc
      rcases hc with rfl | rfl | rfl | rfl | hrest
      · exact digit_not_whitespace _
      · exact digit_not_whitespace _
      · exact digit_not_whitespace _
      · exact digit_not_whitespace _
      · exact ih hrest

/-! ## What the decoder reads -/

theorem digit_value {c : Char} {n : Nat} (h : value c = some n) :
    digit n = c ∧ n < 64 := by
  obtain ⟨hn, hc, -⟩ := List.findIdx?_eq_some_iff_getElem.mp h
  refine ⟨?_, alphabet_length ▸ hn⟩
  rw [digit, List.getD_eq_getElem?_getD, List.getElem?_eq_getElem hn]
  exact of_decide_eq_true hc

theorem toNat_ofNat {n : Nat} (h : n < 256) : (UInt8.ofNat n).toNat = n :=
  UInt8.toNat_ofNat_of_lt' h

theorem encodeChars_of_decodeChars {cs : List Char} {bytes : ByteString}
    (h : decodeChars cs = some bytes) : encodeChars bytes = cs := by
  fun_induction decodeChars cs generalizing bytes with
  | case1 =>
      cases h
      rfl
  | case2 w x y z rest ih =>
      simp only [Option.bind_eq_bind, Option.bind_eq_some_iff] at h
      obtain ⟨first, hfirst, second, hsecond, h⟩ := h
      obtain ⟨hw, hfirst⟩ := digit_value hfirst
      obtain ⟨hx, hsecond⟩ := digit_value hsecond
      have hhead : first * 4 + second / 16 < 256 := by omega
      have hquot : (first * 4 + second / 16) / 4 = first := by omega
      split at h
      · rename_i hpad
        obtain ⟨rfl, rfl, rfl⟩ := hpad
        split at h
        · rename_i hzero
          cases h
          have hlow : (first * 4 + second / 16) % 4 * 16 = second := by omega
          rw [encodeChars, toNat_ofNat hhead, hquot, hlow, hw, hx]
        · cases h
      · rw [Option.bind_eq_some_iff] at h
        obtain ⟨third, hthird, h⟩ := h
        obtain ⟨hy, hthird⟩ := digit_value hthird
        have hmid : second % 16 * 16 + third / 4 < 256 := by omega
        have hsecond' : (first * 4 + second / 16) % 4 * 16 +
            (second % 16 * 16 + third / 4) / 16 = second := by omega
        split at h
        · rename_i hpad
          obtain ⟨rfl, rfl⟩ := hpad
          split at h
          · rename_i hzero
            cases h
            have hlow : (second % 16 * 16 + third / 4) % 16 * 4 = third := by
              omega
            rw [encodeChars, toNat_ofNat hhead, toNat_ofNat hmid, hquot,
              hsecond', hlow, hw, hx, hy]
          · cases h
        · simp only [Option.bind_eq_some_iff] at h
          obtain ⟨fourth, hfourth, bytes', hrest, h⟩ := h
          obtain ⟨hz, hfourth⟩ := digit_value hfourth
          cases h
          have hlast : third % 4 * 64 + fourth < 256 := by omega
          have hthird' : (second % 16 * 16 + third / 4) % 16 * 4 +
              (third % 4 * 64 + fourth) / 64 = third := by omega
          have hfourth' : (third % 4 * 64 + fourth) % 64 = fourth := by omega
          rw [encodeChars, toNat_ofNat hhead, toNat_ofNat hmid,
            toNat_ofNat hlast, hquot, hsecond', hthird', hfourth', ih hrest, hw,
            hx, hy, hz]
  | case3 => cases h

theorem decode_eq_some_iff {text : String} {bytes : ByteString} :
    decode text = some bytes ↔ text = encode bytes := by
  constructor
  · intro h
    rw [encode, encodeChars_of_decodeChars h, String.ofList_toList]
  · rintro rfl
    exact decode_encode bytes

theorem encode_inj {bytes bytes' : ByteString} :
    encode bytes = encode bytes' ↔ bytes = bytes' := by
  refine ⟨fun h => ?_, congrArg encode⟩
  have hdecode := decode_encode bytes
  rw [h, decode_encode] at hdecode
  exact (Option.some.inj hdecode).symm

theorem decodeChars_digits {cs : List Char}
    (hdigits : ∀ c ∈ cs, (value c).isSome) {n : Nat}
    (hlength : cs.length = 4 * n) :
    ∃ bytes, decodeChars cs = some bytes ∧ bytes.length = 3 * n := by
  fun_induction decodeChars cs generalizing n with
  | case1 =>
      rw [List.length_nil] at hlength
      exact ⟨[], rfl, by rw [List.length_nil]; omega⟩
  | case2 w x y z rest ih =>
      simp only [List.forall_mem_cons, Option.isSome_iff_exists] at hdigits
      obtain ⟨⟨first, hfirst⟩, ⟨second, hsecond⟩, ⟨third, hthird⟩,
          ⟨fourth, hfourth⟩, hrest⟩ :=
        hdigits
      have hy : y ≠ '=' := by rintro rfl; cases hthird
      have hz : z ≠ '=' := by rintro rfl; cases hfourth
      obtain ⟨bytes, hbytes, hcount⟩ := ih (n := n - 1)
        (fun c hc => Option.isSome_iff_exists.mpr (hrest c hc))
        (by simp only [List.length_cons] at hlength; omega)
      refine ⟨_, by
        simp only [hfirst, hsecond, hthird, hfourth, hy, hz, hbytes, and_false,
          if_false, Option.bind_eq_bind, Option.bind_some]
        rfl, ?_⟩
      simp only [List.length_cons] at hlength ⊢
      omega
  | case3 cs hnil hmany =>
      rcases cs with _ | ⟨a, _ | ⟨b, _ | ⟨c, _ | ⟨d, rest⟩⟩⟩⟩
      · exact absurd rfl hnil
      · simp only [List.length_cons, List.length_nil] at hlength; omega
      · simp only [List.length_cons, List.length_nil] at hlength; omega
      · simp only [List.length_cons, List.length_nil] at hlength; omega
      · exact absurd rfl (hmany a b c d rest)

theorem length_encode (bytes : ByteString) :
    (encode bytes).toList.length = 4 * ((bytes.length + 2) / 3) := by
  rw [encode, String.toList_ofList]
  fun_induction encodeChars bytes with
  | case1 => rfl
  | case2 a | case3 a b => simp
  | case4 a b c rest ih =>
      simp only [List.length_cons, ih]
      omega

/-! ## Hexadecimal texts -/

theorem value_of_hexValue {c : Char} (h : (hexValue c).isSome) :
    (value c).isSome := by
  have hall : ∀ n < 128, (hexValue (Char.ofNat n)).isSome →
      (value (Char.ofNat n)).isSome := by
    decide +kernel
  have hc := hall c.toNat (ascii_of_hexValue h)
  rw [Char.ofNat_toNat] at hc
  exact hc h

theorem decode_of_hex {text : String} {bytes : ByteString}
    (h : hexDecode text = some bytes) {n : Nat} (heven : bytes.length = 2 * n) :
    ∃ others, decode text = some others ∧ others.length = 3 * n := by
  obtain ⟨hlength, hdigits⟩ := hexDecodeChars_spec h
  exact decodeChars_digits (fun c hc => value_of_hexValue (hdigits c hc))
    (by omega)

end Rustylink.Foundation.Base64
