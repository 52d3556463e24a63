import Rustylink.Api.Signing

/-!
# The key of the signature

The loop of `hkdf_sha256` goes through the chain of blocks of the standard: after
`k` rounds its variables hold the first `k` blocks, the last of them, and the
number of the next one as long as that fits a byte.
-/

namespace Rustylink.Api

open Rustylink.Foundation

namespace Expansion

variable (hmac : HmacSha256) (prk info : ByteString)

def afterRounds (k : Nat) : Expansion := (round hmac prk info)^[k] init

theorem afterRounds_succ (k : Nat) :
    afterRounds hmac prk info (k + 1) =
      (afterRounds hmac prk info k).round hmac prk info :=
  Function.iterate_succ_apply' ..

theorem afterRounds_eq (k : Nat) :
    afterRounds hmac prk info k =
      ⟨hmac.blocks prk info k, hmac.block prk info k, UInt8.ofNat (k + 1)⟩ := by
  induction k with
  | zero => rfl
  | succ k ih =>
      have hcounter : UInt8.ofNat (k + 1) + 1 = UInt8.ofNat (k + 1 + 1) := by
        rw [UInt8.ofNat_add (k + 1) 1]
        rfl
      rw [afterRounds_succ, ih, round, hcounter]
      rfl

theorem length_afterRounds (k : Nat) :
    (afterRounds hmac prk info k).okm.length = k * 32 := by
  rw [afterRounds_eq, hmac.length_blocks, hmac.size_eq]

theorem loop_init_eq (length : Nat) :
    ∃ n, init.loop hmac prk info length = afterRounds hmac prk info n ∧
      length ≤ n * 32 ∧
      ∀ k < n, k * 32 < length := by
  have hfrom (left k : Nat) (hleft : length - k * 32 ≤ left)
      (hbefore : ∀ j < k, j * 32 < length) :
      ∃ n, (afterRounds hmac prk info k).loop hmac prk info length =
        afterRounds hmac prk info n ∧ length ≤ n * 32 ∧
            ∀ j < n, j * 32 < length := by
    -- induction on the bytes that may be missing; every round before was needed
    induction left generalizing k with
    | zero =>
        refine ⟨k, ?_, by omega, hbefore⟩
        rw [loop, if_neg]
        rw [length_afterRounds]
        omega
    | succ left ih =>
        by_cases hmore : k * 32 < length
        · rw [loop, if_pos (by rwa [length_afterRounds]), ← afterRounds_succ]
          refine ih (k + 1) (by omega) fun j hj => ?_
          omega
        · refine ⟨k, ?_, by omega, hbefore⟩
          rw [loop, if_neg (by rwa [length_afterRounds])]
  exact hfrom length 0 (by omega) fun j hj => by omega

end Expansion

variable (hmac : HmacSha256)

theorem hkdfSha256_eq (ikm salt info : ByteString) {length n : Nat}
    (h : length ≤ n * 32) :
    hkdfSha256 hmac ikm salt info length =
      .ok (hmac.expand (hmac.extract salt ikm) info length n) := by
  obtain ⟨rounds, hloop, henough, -⟩ :=
    Expansion.loop_init_eq hmac (hmac.extract salt ikm) info length
  have hsize (m : Nat) : m * hmac.size = m * 32 := by rw [hmac.size_eq]
  rw [← hmac.expand_eq _ info (by rwa [hsize])
    (by rwa [hsize] : length ≤ n * hmac.size)]
  show Except.ok ((Expansion.init.loop hmac (hmac.extract salt ikm)
      info length).okm.take length) =
    _
  rw [hloop, Expansion.afterRounds_eq]
  rfl

/--
The output is cut from the blocks of the standard, and up to its limit on the
length every block that is used is made with its own number.
-/
theorem hkdfSha256_standard (ikm salt info : ByteString) {length : Nat}
    (hlimit : length ≤ 255 * 32) :
    (∃ okm, hkdfSha256 hmac ikm salt info length = .ok okm ∧
      okm.length = length ∧
      ∀ n, length ≤ n * 32 →
        okm = (hmac.blocks (hmac.extract salt ikm) info n).take length) ∧
    ∃ rounds, Expansion.init.loop hmac (hmac.extract salt ikm) info length =
        Expansion.afterRounds hmac (hmac.extract salt ikm) info rounds ∧
      ∀ k < rounds,
        (Expansion.afterRounds hmac (hmac.extract salt ikm)
          info k).counter.toNat = k + 1 := by
  constructor
  · refine ⟨_, hkdfSha256_eq hmac ikm salt info hlimit, ?_, fun n hn => ?_⟩
    · rw [hmac.length_expand]
      rwa [hmac.size_eq]
    · refine hmac.expand_eq _ info ?_ ?_ <;> rwa [hmac.size_eq]
  · obtain ⟨rounds, hloop, -, hneeded⟩ :=
      Expansion.loop_init_eq hmac (hmac.extract salt ikm) info length
    refine ⟨rounds, hloop, fun k hk => ?_⟩
    have hbelow := hneeded k hk
    rw [Expansion.afterRounds_eq, UInt8.toNat_ofNat']
    omega

/--
A keyed checksum: every byte depends on the key, the message and its place.
-/
def mixHmac : HmacSha256 where
  mac key message :=
    let sum := (key ++ message).foldl
      (fun sum byte => (31 * sum + byte.toNat) % 65521) key.length
    (List.range 32).map fun i => UInt8.ofNat (sum * (i + 1))
  size := 32
  size_pos := by decide
  length_mac := fun _ _ => by simp
  size_eq := rfl

theorem hkdfSha256_standard_key :
    (∃ okm, hkdfSha256 mixHmac httpSignHkdfSecret [] (utf8 "tenant|device") 42 =
        .ok okm ∧ okm.length = 42 ∧ ∀ n, 42 ≤ n * 32 →
        okm = (mixHmac.blocks (mixHmac.extract [] httpSignHkdfSecret)
          (utf8 "tenant|device") n).take 42) ∧
    ∃ rounds, Expansion.init.loop mixHmac
      (mixHmac.extract [] httpSignHkdfSecret)
        (utf8 "tenant|device") 42 =
        Expansion.afterRounds mixHmac (mixHmac.extract [] httpSignHkdfSecret)
          (utf8 "tenant|device") rounds ∧
      ∀ k < rounds, (Expansion.afterRounds mixHmac
        (mixHmac.extract [] httpSignHkdfSecret) (utf8 "tenant|device")
          k).counter.toNat = k + 1 :=
  hkdfSha256_standard mixHmac httpSignHkdfSecret [] (utf8 "tenant|device")
    (by decide)

end Rustylink.Api
