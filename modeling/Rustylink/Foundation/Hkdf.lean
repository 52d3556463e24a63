import Mathlib.Logic.Function.Iterate
import Rustylink.Foundation.Framing

/-!
# Key derivation by extract and expand

HKDF over any keyed hash whose outputs have one length.  The output is cut
from a chain of blocks, each made from the block before it, the info and its
own number as a byte.
-/

namespace Rustylink.Foundation

structure KeyedHash where
  mac : ByteString → ByteString → ByteString
  size : Nat
  size_pos : 0 < size
  length_mac : ∀ key message, (mac key message).length = size

namespace KeyedHash

variable (H : KeyedHash) (prk info : ByteString)

def extract (salt ikm : ByteString) : ByteString := H.mac salt ikm

/-- `T(i)`, with the empty text for `T(0)`. -/
def block : Nat → ByteString
  | 0 => []
  | i + 1 => H.mac prk (block i ++ info ++ [UInt8.ofNat (i + 1)])

def blocks : Nat → ByteString
  | 0 => []
  | n + 1 => blocks n ++ H.block prk info (n + 1)

def expand (length n : Nat) : ByteString := (H.blocks prk info n).take length

@[simp] theorem length_block_succ (i : Nat) :
    (H.block prk info (i + 1)).length = H.size :=
  H.length_mac ..

@[simp] theorem length_blocks (n : Nat) :
    (H.blocks prk info n).length = n * H.size := by
  induction n with
  | zero => simp [blocks]
  | succ n ih =>
      rw [blocks, List.length_append, ih, length_block_succ, Nat.succ_mul]

theorem blocks_prefix {n m : Nat} (h : n ≤ m) :
    H.blocks prk info n <+: H.blocks prk info m := by
  induction h with
  | refl => exact List.prefix_refl _
  | step h ih => exact ih.trans (List.prefix_append _ _)

@[simp] theorem length_expand {length n : Nat} (h : length ≤ n * H.size) :
    (H.expand prk info length n).length = length := by
  simp [expand, h]

theorem expand_eq {length n m : Nat} (hn : length ≤ n * H.size)
    (hm : length ≤ m * H.size) :
    H.expand prk info length n = H.expand prk info length m := by
  have hle {n m : Nat} (hnm : n ≤ m) (hn : length ≤ n * H.size) :
      H.expand prk info length n = H.expand prk info length m := by
    obtain ⟨rest, hrest⟩ := H.blocks_prefix prk info hnm
    unfold expand
    rw [← hrest, List.take_append_of_le_length (by rwa [length_blocks])]
  rcases Nat.le_total n m with h | h
  · exact hle h hn
  · exact (hle h hm).symm

end KeyedHash

end Rustylink.Foundation
