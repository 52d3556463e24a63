import Mathlib.Algebra.Group.Nat.Defs
import Mathlib.Data.List.Basic

/-!
# Length-prefixed frames

A frame is a little-endian length of fixed width followed by that many bytes,
with lengths from one to a maximum.  Every byte stream has one longest prefix
of frames; a decoder that reads from a source which is cut into arbitrary
chunks finds the same one.
-/

namespace Rustylink.Foundation

abbrev ByteString := List UInt8

/-! ## Little-endian numbers -/

def toLeBytes : Nat → Nat → ByteString
  | 0, _ => []
  | width + 1, n => UInt8.ofNat n :: toLeBytes width (n / 256)

def fromLeBytes : ByteString → Nat
  | [] => 0
  | byte :: bytes => byte.toNat + 256 * fromLeBytes bytes

@[simp] theorem length_toLeBytes (width n : Nat) :
    (toLeBytes width n).length = width := by
  induction width generalizing n with
  | zero => rfl
  | succ width ih => simp [toLeBytes, ih]

theorem fromLeBytes_toLeBytes {width n : Nat} (h : n < 256 ^ width) :
    fromLeBytes (toLeBytes width n) = n := by
  induction width generalizing n with
  | zero =>
      simp only [Nat.pow_zero] at h
      simp [toLeBytes, fromLeBytes]
      omega
  | succ width ih =>
      have hhigh : n / 256 < 256 ^ width := by
        rw [Nat.div_lt_iff_lt_mul (by omega)]
        rwa [Nat.pow_succ] at h
      simp only [toLeBytes, fromLeBytes, ih hhigh, UInt8.toNat_ofNat']
      omega

theorem toLeBytes_fromLeBytes (bytes : ByteString) :
    toLeBytes bytes.length (fromLeBytes bytes) = bytes := by
  induction bytes with
  | nil => rfl
  | cons byte bytes ih =>
      have hlow : byte.toNat < 256 := byte.toNat_lt
      have hdiv : (byte.toNat + 256 * fromLeBytes bytes) / 256 =
          fromLeBytes bytes := by
        omega
      have hbyte : UInt8.ofNat (byte.toNat + 256 * fromLeBytes bytes) =
          byte := by
        apply UInt8.toNat_inj.mp
        rw [UInt8.toNat_ofNat']
        omega
      simp only [List.length_cons, toLeBytes, fromLeBytes, hdiv, ih, hbyte]

/-! ## Frames -/

structure FrameFormat where
  width : Nat
  max : Nat
  fits : max < 256 ^ width

namespace FrameFormat

variable (F : FrameFormat)

def Frameable (payload : ByteString) : Prop :=
  0 < payload.length ∧ payload.length ≤ F.max

instance (payload : ByteString) : Decidable (F.Frameable payload) :=
  inferInstanceAs (Decidable (_ ∧ _))

def frame (payload : ByteString) : ByteString :=
  toLeBytes F.width payload.length ++ payload

def stream (payloads : List ByteString) : ByteString := payloads.flatMap F.frame

def Starts (bytes : ByteString) : Prop :=
  ∃ payload rest, F.Frameable payload ∧ bytes = F.frame payload ++ rest

/--
The payloads of the longest prefix of frames, and what is left behind them.
-/
structure Longest (bytes : ByteString) (payloads : List ByteString)
    (rest : ByteString) : Prop where
  split : bytes = F.stream payloads ++ rest
  frameable : ∀ payload ∈ payloads, F.Frameable payload
  stops : ¬ F.Starts rest

variable {F}

@[simp] theorem stream_nil : F.stream [] = [] := rfl

@[simp] theorem stream_cons (payload : ByteString)
  (payloads : List ByteString) :
    F.stream (payload :: payloads) = F.frame payload ++ F.stream payloads := rfl

theorem stream_append (payloads more : List ByteString) :
    F.stream (payloads ++ more) = F.stream payloads ++ F.stream more :=
  List.flatMap_append

@[simp] theorem length_frame (payload : ByteString) :
    (F.frame payload).length = F.width + payload.length := by
  simp [frame]

theorem frame_append_inj {payload other rest more : ByteString}
    (h : F.Frameable payload) (hother : F.Frameable other)
    (heq : F.frame payload ++ rest = F.frame other ++ more) :
    payload = other ∧ rest = more := by
  unfold frame at heq
  rw [List.append_assoc, List.append_assoc] at heq
  obtain ⟨hlength, htail⟩ := List.append_inj heq (by simp)
  have hfits := F.fits
  have hsame : payload.length = other.length := by
    have hread := congrArg fromLeBytes hlength
    rwa [fromLeBytes_toLeBytes (by have := h.2; omega),
      fromLeBytes_toLeBytes (by have := hother.2; omega)] at hread
  exact List.append_inj htail hsame

theorem Longest.nil {bytes : ByteString} (h : ¬ F.Starts bytes) :
    F.Longest bytes [] bytes :=
  ⟨rfl, by simp, h⟩

theorem Longest.cons {bytes rest payload : ByteString}
    {payloads : List ByteString} (hpayload : F.Frameable payload)
    (h : F.Longest bytes payloads rest) :
    F.Longest (F.frame payload ++ bytes) (payload :: payloads) rest where
  split := by simp [h.split]
  frameable := by simpa using ⟨hpayload, h.frameable⟩
  stops := h.stops

theorem Longest.contains {bytes rest more : ByteString}
    {payloads others : List ByteString} (h : F.Longest bytes payloads rest)
    (hsplit : bytes = F.stream others ++ more)
    (hothers : ∀ payload ∈ others, F.Frameable payload) :
    others <+: payloads := by
  induction others generalizing bytes payloads with
  | nil => exact List.nil_prefix
  | cons other others ih =>
      have hother : F.Frameable other := hothers other (by simp)
      rw [stream_cons, List.append_assoc] at hsplit
      cases payloads with
      | nil =>
          have hrest : bytes = rest := by simpa using h.split
          exact absurd ⟨other, _, hother, hrest ▸ hsplit⟩ h.stops
      | cons payload payloads =>
          have hpayload := h.frameable payload (by simp)
          have hboth := h.split
          rw [stream_cons, List.append_assoc] at hboth
          obtain ⟨rfl, hnext⟩ :=
            frame_append_inj hpayload hother (hboth.symm.trans hsplit)
          rw [List.cons_prefix_cons]
          have hbehind : F.Longest (F.stream payloads ++ rest) payloads rest :=
            ⟨rfl, fun p hp => h.frameable p (by simp [hp]), h.stops⟩
          exact ⟨rfl, ih hbehind hnext fun p hp => hothers p (by simp [hp])⟩

theorem Longest.unique {bytes rest more : ByteString}
    {payloads others : List ByteString} (h : F.Longest bytes payloads rest)
    (hother : F.Longest bytes others more) :
    payloads = others ∧ rest = more := by
  have hprefix := hother.contains h.split h.frameable
  have heq : payloads = others :=
    hprefix.eq_of_length_le (h.contains hother.split hother.frameable).length_le
  subst heq
  exact ⟨rfl, List.append_cancel_left (h.split.symm.trans hother.split)⟩

theorem not_starts_nil : ¬ F.Starts [] := by
  rintro ⟨payload, rest, hpayload, hnil⟩
  have hlength := congrArg List.length hnil
  simp at hlength
  exact absurd hpayload.1 (by omega)

theorem not_starts_of_proper {payload tail : ByteString}
    (hpayload : F.Frameable payload) (htail : tail <+: F.frame payload)
    (hproper : tail.length < (F.frame payload).length) :
    ¬ F.Starts tail := by
  rintro ⟨other, rest, hother, rfl⟩
  obtain ⟨more, hmore⟩ := htail
  have hsplit : F.frame other ++ (rest ++ more) = F.frame payload ++ [] := by
    rw [← List.append_assoc, hmore, List.append_nil]
  obtain ⟨rfl, -⟩ := frame_append_inj hother hpayload hsplit
  rw [List.length_append, length_frame] at hproper
  omega

end FrameFormat

/-! ## Reading from chunks -/

/-- `read_exact` on a source that delivers these chunks and then ends. -/
def readExact (n : Nat) :
    List ByteString → Option (ByteString × List ByteString)
  | [] => if n = 0 then some ([], []) else none
  | chunk :: chunks =>
      if n ≤ chunk.length then some (chunk.take n, chunk.drop n :: chunks)
      else (readExact (n - chunk.length) chunks).map fun (bytes, chunks) =>
        (chunk ++ bytes, chunks)

theorem readExact_spec (n : Nat) (chunks : List ByteString) :
    (∃ chunks', readExact n chunks = some (chunks.flatten.take n, chunks') ∧
      chunks'.flatten = chunks.flatten.drop n ∧ n ≤ chunks.flatten.length) ∨
    (readExact n chunks = none ∧ chunks.flatten.length < n) := by
  induction chunks generalizing n with
  | nil =>
      cases n with
      | zero => exact .inl ⟨[], by simp [readExact]⟩
      | succ n => exact .inr ⟨by simp [readExact], by simp⟩
  | cons chunk chunks ih =>
      by_cases hchunk : n ≤ chunk.length
      · refine .inl ⟨chunk.drop n :: chunks, ?_, ?_, ?_⟩
        · simp [readExact, hchunk, List.take_append_of_le_length]
        · simp [List.drop_append_of_le_length hchunk]
        · rw [List.flatten_cons, List.length_append]
          omega
      · have hle : chunk.length ≤ n := by omega
        rcases ih (n - chunk.length) with
          ⟨chunks', hread, hrest, hlength⟩ | ⟨hnone, hfew⟩
        · refine .inl ⟨chunks', ?_, ?_, ?_⟩
          · simp only [readExact, hchunk, if_false, hread, Option.map_some,
              List.flatten_cons, List.take_append, List.take_of_length_le hle]
          · rw [hrest, List.flatten_cons, List.drop_append,
              List.drop_of_length_le hle, List.nil_append]
          · rw [List.flatten_cons, List.length_append]
            omega
        · refine .inr ⟨by simp [readExact, hchunk, hnone], ?_⟩
          rw [List.flatten_cons, List.length_append]
          omega

namespace FrameFormat

def read (F : FrameFormat) (chunks : List ByteString) :
    Option (ByteString × List ByteString) :=
  (readExact F.width chunks).bind fun (header, chunks) =>
    let length := fromLeBytes header
    if length = 0 ∨ length > F.max then none else readExact length chunks

variable {F : FrameFormat} {chunks chunks' : List ByteString}
  {payload : ByteString}

theorem Starts.length {bytes : ByteString} (h : F.Starts bytes) :
    F.width ≤ bytes.length ∧ 0 < fromLeBytes (bytes.take F.width) ∧
      fromLeBytes (bytes.take F.width) ≤ F.max ∧
        fromLeBytes (bytes.take F.width) ≤ (bytes.drop F.width).length := by
  obtain ⟨payload, rest, hpayload, rfl⟩ := h
  have hfits := F.fits
  have hlength : payload.length < 256 ^ F.width := by
    have := hpayload.2
    omega
  simp only [frame, List.append_assoc, List.take_left' (length_toLeBytes _ _),
    List.drop_left' (length_toLeBytes _ _), fromLeBytes_toLeBytes hlength]
  refine ⟨by simp, hpayload.1, hpayload.2, by simp⟩

theorem read_spec (F : FrameFormat) (chunks : List ByteString) :
    (∃ payload chunks', F.read chunks = some (payload, chunks') ∧
      F.Frameable payload ∧
      chunks.flatten = F.frame payload ++ chunks'.flatten) ∨
    (F.read chunks = none ∧ ¬ F.Starts chunks.flatten) := by
  rcases readExact_spec F.width chunks with
    ⟨behind, hheader, hbehind, hwidth⟩ | ⟨hnone, hfew⟩
  · by_cases hbad : fromLeBytes (chunks.flatten.take F.width) = 0 ∨
        fromLeBytes (chunks.flatten.take F.width) > F.max
    · refine .inr ⟨by simp [read, hheader, hbad], fun hstarts => ?_⟩
      obtain ⟨-, hpos, hmax, -⟩ := hstarts.length
      omega
    · rcases readExact_spec (fromLeBytes (chunks.flatten.take F.width))
          behind with ⟨rest, hpayload, hrest, hlength⟩ | ⟨hnone, hfew⟩
      · refine .inl ⟨behind.flatten.take
          (fromLeBytes (chunks.flatten.take F.width)), rest,
          by simp [read, hheader, hbad, hpayload], ?_, ?_⟩
        · unfold Frameable
          rw [List.length_take, Nat.min_eq_left hlength]
          omega
        · have hwritten := toLeBytes_fromLeBytes (chunks.flatten.take F.width)
          rw [List.length_take, Nat.min_eq_left hwidth] at hwritten
          rw [frame, List.length_take, Nat.min_eq_left hlength, hwritten, hrest,
            List.append_assoc, List.take_append_drop, hbehind,
            List.take_append_drop]
      · refine .inr ⟨by simp [read, hheader, hbad, hnone], fun hstarts => ?_⟩
        obtain ⟨-, -, -, hthere⟩ := hstarts.length
        rw [hbehind] at hfew
        omega
  · refine .inr ⟨by simp [read, hnone], fun hstarts => ?_⟩
    obtain ⟨hwidth, -⟩ := hstarts.length
    omega

theorem read_some (h : F.read chunks = some (payload, chunks')) :
    F.Frameable payload ∧
      chunks.flatten = F.frame payload ++ chunks'.flatten := by
  rcases F.read_spec chunks with ⟨other, rest, hread, hspec⟩ | ⟨hnone, -⟩
  · rw [h] at hread
    cases hread
    exact hspec
  · rw [h] at hnone
    contradiction

theorem read_none (h : F.read chunks = none) : ¬ F.Starts chunks.flatten := by
  rcases F.read_spec chunks with ⟨other, rest, hread, -⟩ | ⟨-, hstops⟩
  · rw [h] at hread
    contradiction
  · exact hstops

theorem read_length (h : F.read chunks = some (payload, chunks')) :
    chunks'.flatten.length < chunks.flatten.length := by
  obtain ⟨hpayload, hsplit⟩ := read_some h
  rw [hsplit, List.length_append, length_frame]
  have := hpayload.1
  omega

end FrameFormat

end Rustylink.Foundation
