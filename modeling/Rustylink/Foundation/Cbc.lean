import Rustylink.Foundation.Framing

/-!
# Cipher block chaining

A block cipher run in CBC mode over byte strings that are padded to whole
blocks.  The padding is that of PKCS #7: every byte of it is its length, and a
message that fills its last block gets a block of padding.
-/

namespace Rustylink.Foundation

/-- A permutation of the blocks of one size, for every key of one size. -/
structure BlockCipher (size keySize : Nat) where
  encrypt : ByteString → ByteString → ByteString
  decrypt : ByteString → ByteString → ByteString
  length_encrypt : ∀ key block, key.length = keySize → block.length = size →
    (encrypt key block).length = size
  decrypt_encrypt : ∀ key block, key.length = keySize → block.length = size →
    decrypt key (encrypt key block) = block

def xorBytes (a b : ByteString) : ByteString := List.zipWith (· ^^^ ·) a b

def splitBlocks (size : Nat) : Nat → ByteString → List ByteString
  | 0, _ => []
  | count + 1, bytes => bytes.take size :: splitBlocks size count
        (bytes.drop size)

namespace BlockCipher

variable {size keySize : Nat} (cipher : BlockCipher size keySize)
  (key : ByteString)

def encryptBlocks (previous : ByteString) : List ByteString → List ByteString
  | [] => []
  | block :: rest =>
      let encrypted := cipher.encrypt key (xorBytes block previous)
      encrypted :: encryptBlocks encrypted rest

def decryptBlocks (previous : ByteString) : List ByteString → List ByteString
  | [] => []
  | block :: rest =>
      xorBytes (cipher.decrypt key block) previous :: decryptBlocks block rest

def encryptCbc (iv bytes : ByteString) : ByteString :=
  (cipher.encryptBlocks key iv
    (splitBlocks size (bytes.length / size) bytes)).flatten

def decryptCbc (iv bytes : ByteString) : ByteString :=
  (cipher.decryptBlocks key iv
    (splitBlocks size (bytes.length / size) bytes)).flatten

end BlockCipher

def pkcs7Pad (size : Nat) (bytes : ByteString) : ByteString :=
  let count := size - bytes.length % size
  bytes ++ List.replicate count (UInt8.ofNat count)

def pkcs7Unpad (size : Nat) (bytes : ByteString) : Option ByteString :=
  match bytes.getLast? with
  | none => none
  | some last =>
      let count := last.toNat
      if 0 < count ∧ count ≤ size ∧
          bytes.drop (bytes.length - count) = List.replicate count last then
        some (bytes.take (bytes.length - count))
      else none

/-! ## Blocks -/

theorem length_xorBytes {a b : ByteString} (h : a.length = b.length) :
    (xorBytes a b).length = a.length := by
  simp [xorBytes, h]

theorem xorBytes_cancel {a b : ByteString} (h : a.length = b.length) :
    xorBytes (xorBytes a b) b = a := by
  induction a generalizing b with
  | nil => rfl
  | cons x a ih =>
      cases b with
      | nil => contradiction
      | cons y b =>
          have hrest := ih (Nat.succ.inj h)
          have hbyte : x ^^^ y ^^^ y = x := by
            rw [UInt8.xor_assoc, UInt8.xor_self, UInt8.xor_zero]
          simp only [xorBytes, List.zipWith_cons_cons, hbyte] at hrest ⊢
          rw [hrest]

def WholeBlocks (size : Nat) (blocks : List ByteString) : Prop :=
  ∀ block ∈ blocks, block.length = size

theorem splitBlocks_flatten {size : Nat} {blocks : List ByteString}
    (h : WholeBlocks size blocks) :
    splitBlocks size blocks.length blocks.flatten = blocks := by
  induction blocks with
  | nil => rfl
  | cons block rest ih =>
      have hblock : block.length = size := h block List.mem_cons_self
      have hrest : WholeBlocks size rest :=
        fun b hb => h b (List.mem_cons_of_mem _ hb)
      rw [List.length_cons, splitBlocks, List.flatten_cons,
        List.take_left' hblock, List.drop_left' hblock, ih hrest]

theorem length_flatten {size : Nat} {blocks : List ByteString}
    (h : WholeBlocks size blocks) :
    blocks.flatten.length = blocks.length * size := by
  induction blocks with
  | nil => simp
  | cons block rest ih =>
      rw [List.flatten_cons, List.length_append, h block List.mem_cons_self,
        ih fun b hb => h b (List.mem_cons_of_mem _ hb), List.length_cons,
        Nat.succ_mul, Nat.add_comm]

theorem splitBlocks_whole {size count : Nat} {bytes : ByteString}
    (h : bytes.length = count * size) :
    WholeBlocks size (splitBlocks size count bytes) ∧
      (splitBlocks size count bytes).length = count ∧
      (splitBlocks size count bytes).flatten = bytes := by
  induction count generalizing bytes with
  | zero =>
      have hnil : bytes = [] := List.length_eq_zero_iff.mp (by simpa using h)
      subst hnil
      exact ⟨fun b hb => (List.not_mem_nil hb).elim, rfl, rfl⟩
  | succ count ih =>
      rw [Nat.succ_mul] at h
      have hrest : (bytes.drop size).length = count * size := by
        rw [List.length_drop]
        omega
      obtain ⟨hwhole, hlength, hflatten⟩ := ih hrest
      refine ⟨fun b hb =>
        ?_, by rw [splitBlocks, List.length_cons, hlength], ?_⟩
      · rcases List.mem_cons.mp hb with rfl | hb
        · rw [List.length_take]
          omega
        · exact hwhole b hb
      · rw [splitBlocks, List.flatten_cons, hflatten, List.take_append_drop]

/-! ## Decryption -/

namespace BlockCipher

variable {size keySize : Nat} (cipher : BlockCipher size keySize)
  {key : ByteString}

theorem encryptBlocks_whole (hkey : key.length = keySize)
    {blocks : List ByteString} {previous : ByteString}
    (h : WholeBlocks size blocks) (hprevious : previous.length = size) :
    WholeBlocks size (cipher.encryptBlocks key previous blocks) ∧
      (cipher.encryptBlocks key previous blocks).length = blocks.length := by
  induction blocks generalizing previous with
  | nil => exact ⟨fun b hb => (List.not_mem_nil hb).elim, rfl⟩
  | cons block rest ih =>
      have hblock : block.length = size := h block List.mem_cons_self
      have hfirst : (cipher.encrypt key (xorBytes block previous)).length =
          size := by
        refine cipher.length_encrypt _ _ hkey ?_
        rw [length_xorBytes (hblock.trans hprevious.symm), hblock]
      obtain ⟨hwhole, hlength⟩ :=
        ih (fun b hb => h b (List.mem_cons_of_mem _ hb)) hfirst
      refine ⟨fun b hb => ?_, by simp [encryptBlocks, hlength]⟩
      rcases List.mem_cons.mp hb with rfl | hb
      · exact hfirst
      · exact hwhole b hb

theorem decryptBlocks_encryptBlocks (hkey : key.length = keySize)
    {blocks : List ByteString} {previous : ByteString}
    (h : WholeBlocks size blocks) (hprevious : previous.length = size) :
    cipher.decryptBlocks key previous
      (cipher.encryptBlocks key previous blocks) = blocks := by
  induction blocks generalizing previous with
  | nil => rfl
  | cons block rest ih =>
      have hblock : block.length = size := h block List.mem_cons_self
      have heq : block.length = previous.length := hblock.trans hprevious.symm
      have hxor : (xorBytes block previous).length = size := by
        rw [length_xorBytes heq, hblock]
      simp only [encryptBlocks, decryptBlocks]
      rw [cipher.decrypt_encrypt _ _ hkey hxor, xorBytes_cancel heq,
        ih (fun b hb => h b (List.mem_cons_of_mem _ hb))
          (cipher.length_encrypt _ _ hkey hxor)]

variable {iv bytes : ByteString}

theorem encryptCbc_blocks (key iv : ByteString)
    (hbytes : bytes.length % size = 0) :
    ∃ blocks, WholeBlocks size blocks ∧ blocks.length * size = bytes.length ∧
      blocks.flatten = bytes ∧
      cipher.encryptCbc key iv bytes =
        (cipher.encryptBlocks key iv blocks).flatten := by
  have hlength : bytes.length = bytes.length / size * size := by
    rw [Nat.div_mul_cancel (Nat.dvd_of_mod_eq_zero hbytes)]
  obtain ⟨hwhole, hcount, hflatten⟩ := splitBlocks_whole hlength
  exact ⟨_, hwhole, by rw [hcount, ← hlength], hflatten, rfl⟩

theorem length_encryptCbc (hkey : key.length = keySize) (hiv : iv.length = size)
    (hbytes : bytes.length % size = 0) :
    (cipher.encryptCbc key iv bytes).length = bytes.length := by
  obtain ⟨blocks, hwhole, hlength, -, hencrypt⟩ :=
    cipher.encryptCbc_blocks key iv hbytes
  obtain ⟨hencrypted, hcount⟩ := cipher.encryptBlocks_whole hkey hwhole hiv
  rw [hencrypt, length_flatten hencrypted, hcount, hlength]

theorem decryptCbc_encryptCbc (hsize : 0 < size) (hkey : key.length = keySize)
    (hiv : iv.length = size) (hbytes : bytes.length % size = 0) :
    cipher.decryptCbc key iv (cipher.encryptCbc key iv bytes) = bytes := by
  have hlength := cipher.length_encryptCbc hkey hiv hbytes
  obtain ⟨blocks, hwhole, hblocks, hflatten, hencrypt⟩ :=
    cipher.encryptCbc_blocks key iv hbytes
  obtain ⟨hencrypted, hcount⟩ := cipher.encryptBlocks_whole hkey hwhole hiv
  have hdiv : bytes.length / size =
      (cipher.encryptBlocks key iv blocks).length := by
    rw [← hblocks, hcount, Nat.mul_div_cancel _ hsize]
  rw [decryptCbc, hlength, hdiv, hencrypt, splitBlocks_flatten hencrypted,
    cipher.decryptBlocks_encryptBlocks hkey hwhole hiv, hflatten]

end BlockCipher

/-! ## Padding -/

theorem length_pkcs7Pad {size : Nat} (hsize : 0 < size) (bytes : ByteString) :
    (pkcs7Pad size bytes).length = size * (bytes.length / size + 1) := by
  have hmod := Nat.mod_lt bytes.length hsize
  have hdiv := Nat.div_add_mod bytes.length size
  simp only [pkcs7Pad, List.length_append, List.length_replicate, Nat.mul_add]
  omega

theorem pkcs7Unpad_pad {size : Nat} (hsize : 0 < size) (hbyte : size ≤ 255)
    (bytes : ByteString) :
    pkcs7Unpad size (pkcs7Pad size bytes) = some bytes := by
  have hmod := Nat.mod_lt bytes.length hsize
  have hcount : (UInt8.ofNat (size - bytes.length % size)).toNat =
      size - bytes.length % size := by
    rw [UInt8.toNat_ofNat']
    omega
  have hlast : (pkcs7Pad size bytes).getLast? =
      some (UInt8.ofNat (size - bytes.length % size)) := by
    have hpos : size - bytes.length % size ≠ 0 := by omega
    simp [pkcs7Pad, List.getLast?_append, List.getLast?_replicate, hpos]
  have hlength : (pkcs7Pad size bytes).length - (size - bytes.length % size) =
      bytes.length := by
    simp [pkcs7Pad]
  unfold pkcs7Unpad
  rw [hlast]
  dsimp only
  rw [hcount, hlength, if_pos]
  · simp [pkcs7Pad]
  · refine ⟨by omega, by omega, ?_⟩
    simp [pkcs7Pad]

end Rustylink.Foundation
