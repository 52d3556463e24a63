import Rustylink.Foundation.Utf8

/-!
# Bytes in hexadecimal

Two digits for each byte, lower case when written and of either case when
read.
-/

namespace Rustylink.Foundation

def hexDigit (n : Nat) : Char :=
  if n < 10 then Char.ofNat (48 + n) else Char.ofNat (87 + n)

def hexByte (byte : UInt8) : List Char :=
  [hexDigit (byte.toNat / 16), hexDigit (byte.toNat % 16)]

def hexEncode (bytes : ByteString) : String :=
  String.ofList (bytes.flatMap hexByte)

def hexValue (c : Char) : Option Nat :=
  if '0' ≤ c ∧ c ≤ '9' then some (c.toNat - 48)
  else if 'a' ≤ c ∧ c ≤ 'f' then some (c.toNat - 87)
  else if 'A' ≤ c ∧ c ≤ 'F' then some (c.toNat - 55)
  else none

/-- An odd number of digits is refused. -/
def hexDecodeChars : List Char → Option ByteString
  | [] => some []
  | [_] => none
  | high :: low :: rest => do
      let high ← hexValue high
      let low ← hexValue low
      return UInt8.ofNat (16 * high + low) :: (← hexDecodeChars rest)

def hexDecode (text : String) : Option ByteString := hexDecodeChars text.toList

theorem hexValue_hexDigit {n : Nat} (h : n < 16) :
    hexValue (hexDigit n) = some n := by
  have hall : ∀ n < 16, hexValue (hexDigit n) = some n := by decide
  exact hall n h

theorem hexDecodeChars_encode (bytes : ByteString) :
    hexDecodeChars (bytes.flatMap hexByte) = some bytes := by
  induction bytes with
  | nil => rfl
  | cons byte rest ih =>
      have hlt : byte.toNat < 256 := byte.toNat_lt
      have hhigh := hexValue_hexDigit (n := byte.toNat / 16) (by omega)
      have hlow := hexValue_hexDigit (n := byte.toNat % 16) (by omega)
      have hbyte : UInt8.ofNat (16 * (byte.toNat / 16) + byte.toNat % 16) =
          byte := by
        rw [Nat.div_add_mod, UInt8.ofNat_toNat]
      rw [List.flatMap_cons]
      simp only [hexByte, List.cons_append, List.nil_append, hexDecodeChars,
        hhigh, hlow, ih, Option.bind_eq_bind, Option.bind_some, hbyte]
      rfl

@[simp] theorem hexDecode_hexEncode (bytes : ByteString) :
    hexDecode (hexEncode bytes) = some bytes := by
  rw [hexDecode, hexEncode, String.toList_ofList, hexDecodeChars_encode]

theorem length_hexEncode (bytes : ByteString) :
    (hexEncode bytes).length = 2 * bytes.length := by
  rw [hexEncode, String.length_ofList]
  induction bytes with
  | nil => rfl
  | cons byte rest ih =>
      rw [List.flatMap_cons, List.length_append, ih, List.length_cons]
      simp [hexByte]
      omega

theorem hexDecodeChars_spec {cs : List Char} {bytes : ByteString}
    (h : hexDecodeChars cs = some bytes) :
    cs.length = 2 * bytes.length ∧ ∀ c ∈ cs, (hexValue c).isSome := by
  fun_induction hexDecodeChars cs generalizing bytes with
  | case1 =>
      cases h
      exact ⟨rfl, nofun⟩
  | case2 => cases h
  | case3 high low rest ih =>
      simp only [Option.bind_eq_bind, Option.bind_eq_some_iff] at h
      obtain ⟨high', hhigh, low', hlow, tail, htail, h⟩ := h
      cases h
      obtain ⟨hlength, hdigits⟩ := ih htail
      refine ⟨by simp only [List.length_cons, hlength]; omega, ?_⟩
      simp only [List.forall_mem_cons, hhigh, hlow,
        Option.isSome_some, true_and]
      exact hdigits

theorem ascii_of_hexValue {c : Char} (h : (hexValue c).isSome) :
    c.toNat < 128 := by
  unfold hexValue at h
  split at h
  · rename_i hrange
    have hle : c.toNat ≤ 57 := hrange.2
    omega
  · split at h
    · rename_i hrange
      have hle : c.toNat ≤ 102 := hrange.2
      omega
    · split at h
      · rename_i hrange
        have hle : c.toNat ≤ 70 := hrange.2
        omega
      · cases h

theorem hexEncode_ascii (bytes : ByteString) : IsAscii (hexEncode bytes) := by
  intro c hc
  rw [hexEncode, String.toList_ofList] at hc
  exact ascii_of_hexValue
    ((hexDecodeChars_spec (hexDecodeChars_encode bytes)).2 c hc)

theorem hexEncode_digits (bytes : ByteString) :
    ∀ c ∈ (hexEncode bytes).toList, ∃ n < 16, c = hexDigit n := by
  intro c hc
  rw [hexEncode, String.toList_ofList] at hc
  obtain ⟨byte, -, hdigit⟩ := List.mem_flatMap.mp hc
  have hlt := byte.toNat_lt
  simp only [hexByte, List.mem_cons, List.not_mem_nil, or_false] at hdigit
  rcases hdigit with rfl | rfl
  · exact ⟨_, by omega, rfl⟩
  · exact ⟨_, by omega, rfl⟩

end Rustylink.Foundation
