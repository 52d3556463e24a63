import Rustylink.Foundation.UrlAuthority

/-!
# An address and a port

A reader of addresses does not look past a character that it cannot read, so an
IPv4 address with a port behind it is read as both.
-/

namespace Rustylink.Foundation

variable {tail : List Char}

/-- With the text behind it, what is read is read all the same. -/
def ReadsBefore {α : Type} (tail : List Char)
    (read : List Char → Option (α × List Char)) : Prop :=
  ∀ cs a rest, read cs = some (a, rest) →
    read (cs ++ tail) = some (a, rest ++ tail)

def StopsDigits (radix : Nat) (tail : List Char) : Prop :=
  ∀ c ∈ tail.head?, digitValue radix c = none

theorem readDigits_append {radix : Nat} (hstop : StopsDigits radix tail)
    (cs : List Char) :
    readDigits radix (cs ++ tail) =
      ((readDigits radix cs).1, (readDigits radix cs).2 ++ tail) := by
  induction cs with
  | nil =>
      cases tail with
      | nil => rfl
      | cons c tail => simp [readDigits, hstop c rfl]
  | cons c cs ih =>
      rw [List.cons_append, readDigits, readDigits]
      cases digitValue radix c with
      | none => rfl
      | some digit => simp [ih]

theorem readNumber_before {radix bound : Nat} {maxDigits : Option Nat}
    {zeros : Bool} (hstop : StopsDigits radix tail) :
    ReadsBefore tail (readNumber radix bound maxDigits zeros) := by
  intro cs n rest h
  unfold readNumber at h ⊢
  rw [readDigits_append hstop]
  dsimp only at h ⊢
  split at h
  · cases h
  · rename_i hvalid
    cases h
    rw [if_neg hvalid]

theorem readChar_before {c : Char} {cs rest : List Char}
    (h : readChar c cs = some rest) :
    readChar c (cs ++ tail) = some (rest ++ tail) := by
  cases cs with
  | nil => cases h
  | cons d cs =>
      rw [List.cons_append]
      unfold readChar at h ⊢
      dsimp only at h ⊢
      split at h
      · rename_i hsame
        cases h
        rw [if_pos hsame]
      · cases h

theorem readSeparated_before {α : Type} {separator : Char} {index : Nat}
    {read : List Char → Option (α × List Char)}
    (hread : ReadsBefore tail read) :
    ReadsBefore tail (readSeparated separator index read) := by
  intro cs a rest h
  unfold readSeparated at h ⊢
  split at h
  · rename_i hfirst
    rw [if_pos hfirst]
    exact hread cs a rest h
  · rename_i hlater
    obtain ⟨middle, hchar, hmiddle⟩ := Option.bind_eq_some_iff.mp h
    rw [if_neg hlater, readChar_before hchar]
    exact hread middle a rest hmiddle

theorem readIpv4Addr_before (hstop : StopsDigits 10 tail) :
    ReadsBefore tail readIpv4Addr := by
  intro cs address rest h
  have hoctet (index : Nat) : ReadsBefore tail (readOctet index) :=
    readSeparated_before (readNumber_before hstop)
  simp only [readIpv4Addr, Option.bind_eq_bind, Option.bind_eq_some_iff,
    Prod.exists] at h
  obtain ⟨a, csA, ha, b, csB, hb, c, csC, hc, d, csD, hd, hresult⟩ := h
  cases hresult
  simp only [readIpv4Addr, Option.bind_eq_bind, hoctet 0 _ _ _ ha,
    hoctet 1 _ _ _ hb, hoctet 2 _ _ _ hc, hoctet 3 _ _ _ hd, Option.bind_some]
  rfl

theorem readPort_toDigits {port : Nat} (h : port < 65536) :
    readPort (':' :: Nat.toDigits 10 port) = some (port, []) := by
  have hdigits : ∀ c ∈ Nat.toDigits 10 port, c.isDigit = true := fun c hc =>
    Nat.isDigit_of_mem_toDigits (by omega) (by omega) hc
  have hread := readDigits_digits hdigits
  have hvalue := readAll_toDigits port
  unfold readAll at hvalue
  rw [hread] at hvalue
  have hfits : ¬ 65536 ≤ port := by omega
  show readNumber 10 65536 none true (Nat.toDigits 10 port) = _
  unfold readNumber
  simp [hread, Option.some.inj hvalue, hfits]

/-! ## Texts -/

theorem readIpv4Addr_of_parse {host : String} {address : BitVec 32}
    (h : IpAddr.parse host = some (.v4 address)) :
    readIpv4Addr host.toList = some (address, []) := by
  unfold IpAddr.parse parseWith at h
  dsimp only at h
  cases hread : readIpv4Addr host.toList with
  | none =>
      rw [hread] at h
      cases hsix : readIpv6Addr host.toList with
      | none =>
          rw [hsix] at h
          cases h
      | some read =>
          obtain ⟨sixth, rest⟩ := read
          rw [hsix] at h
          cases rest <;> cases h
  | some read =>
      obtain ⟨fourth, rest⟩ := read
      rw [hread] at h
      cases rest with
      | nil =>
          cases h
          rfl
      | cons c rest => cases h

theorem SocketAddr.parse_ipv4 {host : String} {address : BitVec 32} {port : Nat}
    (h : IpAddr.parse host = some (.v4 address)) (hport : port < 65536) :
    SocketAddr.parse (host ++ ":" ++ toString port) =
      some ⟨.v4 address, port⟩ := by
  have hstop : StopsDigits 10 (':' :: Nat.toDigits 10 port) := by
    intro c hc
    cases hc
    decide
  have hread := readIpv4Addr_before hstop _ _ _ (readIpv4Addr_of_parse h)
  have hv4 : readSocketAddrV4 (host.toList ++ ':' :: Nat.toDigits 10 port) =
      some (⟨.v4 address, port⟩, []) := by
    simp only [readSocketAddrV4, Option.bind_eq_bind, hread, Option.bind_some,
      List.nil_append, readPort_toDigits hport]
    rfl
  simp [SocketAddr.parse, parseWith, hv4]

theorem SocketAddr.parse_isV4 {host text : String} {ip : IpAddr}
    {addr : SocketAddr} (hhost : IpAddr.parse host = some ip)
    (h : SocketAddr.parse (host ++ text) = some addr) :
    addr.ip.isV4 = true := by
  have hsix : readSocketAddrV6 (host ++ text).toList = none := by
    rw [String.toList_append]
    cases hchars : host.toList with
    | nil =>
        rw [String.toList_eq_nil_iff.mp hchars] at hhost
        cases hhost
    | cons c cs =>
        have hbracket : c ≠ '[' := by
          rintro rfl
          unfold IpAddr.parse parseWith at hhost
          dsimp only at hhost
          rw [hchars, readIpv4Addr_bracket, readIpv6Addr_bracket] at hhost
          cases hhost
        simp [readSocketAddrV6, readChar, hbracket]
  unfold SocketAddr.parse parseWith at h
  dsimp only at h
  rw [hsix] at h
  cases hfour : readSocketAddrV4 (host ++ text).toList with
  | none =>
      rw [hfour] at h
      cases h
  | some read =>
      obtain ⟨value, rest⟩ := read
      rw [hfour] at h
      simp only [readSocketAddrV4, Option.bind_eq_bind, Option.bind_eq_some_iff,
        Prod.exists] at hfour
      obtain ⟨address, csA, -, port, csP, -, hresult⟩ := hfour
      cases hresult
      cases rest with
      | nil =>
          cases h
          rfl
      | cons c rest => cases h

end Rustylink.Foundation
