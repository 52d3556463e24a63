import Rustylink.Foundation.Framing

/-!
# Tagged fields on the wire

A message is a sequence of numbered fields, each a base-128 number or a text of
bytes with its length in front.  A reader finds the fields that were written.
-/

namespace Rustylink.Foundation

/-! ## Base-128 numbers -/

/--
Seven bits a byte, least significant first, with as many groups as the fuel
allows.
-/
def varintGroups : Nat → Nat → ByteString
  | 0, n => [UInt8.ofNat (n % 128)]
  | fuel + 1, n =>
      if n < 128 then [UInt8.ofNat n]
      else UInt8.ofNat (n % 128 + 128) :: varintGroups fuel (n / 128)

def varint (n : Nat) : ByteString := varintGroups n n

def readVarint : ByteString → Option (Nat × ByteString)
  | [] => none
  | byte :: rest =>
      if byte.toNat < 128 then some (byte.toNat, rest)
      else (readVarint rest).map fun (high, rest) =>
        (byte.toNat - 128 + 128 * high, rest)

theorem readVarint_low {n : Nat} (h : n < 128) (rest : ByteString) :
    readVarint (UInt8.ofNat n :: rest) = some (n, rest) := by
  have hbyte : (UInt8.ofNat n).toNat = n := by
    rw [UInt8.toNat_ofNat']
    omega
  simp [readVarint, hbyte, h]

theorem readVarint_groups {fuel n : Nat} (h : n ≤ fuel) (rest : ByteString) :
    readVarint (varintGroups fuel n ++ rest) = some (n, rest) := by
  induction fuel generalizing n with
  | zero =>
      have hlow : n % 128 = n := by omega
      rw [varintGroups, hlow]
      exact readVarint_low (by omega) rest
  | succ fuel ih =>
      rw [varintGroups]
      split
      · rename_i hlow
        exact readVarint_low hlow rest
      · have hbyte : (UInt8.ofNat (n % 128 + 128)).toNat = n % 128 + 128 := by
          rw [UInt8.toNat_ofNat']
          omega
        have hhigh : ¬ n % 128 + 128 < 128 := by omega
        have hsum : n % 128 + 128 - 128 + 128 * (n / 128) = n := by omega
        rw [List.cons_append, readVarint, hbyte, if_neg hhigh, ih (by omega),
          Option.map_some]
        dsimp only
        rw [hsum]

theorem readVarint_varint (n : Nat) (rest : ByteString) :
    readVarint (varint n ++ rest) = some (n, rest) :=
  readVarint_groups (Nat.le_refl n) rest

theorem varint_ne_nil (n : Nat) : varint n ≠ [] := by
  unfold varint
  cases n with
  | zero => simp [varintGroups]
  | succ n =>
      rw [varintGroups]
      split <;> simp

/-! ## Fields -/

inductive WireValue where
  | number (n : Nat)
  | bytes (value : ByteString)
  deriving DecidableEq, Repr

structure WireField where
  number : Nat
  value : WireValue
  deriving DecidableEq, Repr

namespace WireField

def write (field : WireField) : ByteString :=
  match field.value with
  | .number n => varint (field.number * 8) ++ varint n
  | .bytes value => varint (field.number * 8 + 2) ++
        (varint value.length ++ value)

def read (text : ByteString) : Option (WireField × ByteString) := do
  let (tag, rest) ← readVarint text
  if tag % 8 = 0 then
    let (n, rest) ← readVarint rest
    return (⟨tag / 8, .number n⟩, rest)
  else if tag % 8 = 2 then
    let (length, rest) ← readVarint rest
    if length ≤ rest.length then
      return (⟨tag / 8, .bytes (rest.take length)⟩, rest.drop length)
    else none
  else none

def readAll : Nat → ByteString → Option (List WireField)
  | _, [] => some []
  | 0, _ :: _ => none
  | fuel + 1, byte :: text => do
      let (field, rest) ← read (byte :: text)
      let fields ← readAll fuel rest
      return field :: fields

theorem read_write (field : WireField) (rest : ByteString) :
    read (field.write ++ rest) = some (field, rest) := by
  obtain ⟨number, value⟩ := field
  cases value with
  | number n =>
      have htag : number * 8 % 8 = 0 := by omega
      have hnumber : number * 8 / 8 = number := by omega
      simp only [read, write, List.append_assoc, readVarint_varint,
        Option.bind_eq_bind, Option.bind_some, htag, if_true, hnumber]
      rfl
  | bytes value =>
      have htag : (number * 8 + 2) % 8 = 2 := by omega
      have hnumber : (number * 8 + 2) / 8 = number := by omega
      have hfits : value.length ≤ (value ++ rest).length := by simp
      simp only [read, write, List.append_assoc, readVarint_varint,
        Option.bind_eq_bind, Option.bind_some, htag, if_true, hnumber, hfits,
        List.take_left, List.drop_left]
      rfl

theorem write_ne_nil (field : WireField) : field.write ≠ [] := by
  unfold write
  split <;> simp [varint_ne_nil]

theorem readAll_write (fields : List WireField) {fuel : Nat}
    (h : (fields.flatMap write).length ≤ fuel) :
    readAll fuel (fields.flatMap write) = some fields := by
  induction fields generalizing fuel with
  | nil => cases fuel <;> rfl
  | cons field fields ih =>
      rw [List.flatMap_cons] at h ⊢
      obtain ⟨byte, text, hwrite⟩ :=
        List.exists_cons_of_ne_nil field.write_ne_nil
      have hread := read_write field (fields.flatMap write)
      rw [hwrite, List.cons_append] at h hread ⊢
      cases fuel with
      | zero => simp at h
      | succ fuel =>
          have hrest : (fields.flatMap write).length ≤ fuel := by
            simp only [List.length_cons, List.length_append] at h
            omega
          simp only [readAll, hread, Option.bind_eq_bind,
            Option.bind_some, ih hrest]
          rfl

end WireField

end Rustylink.Foundation
