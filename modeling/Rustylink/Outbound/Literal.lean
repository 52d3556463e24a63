import Rustylink.Outbound.Connector

/-!
# IP literals as hosts

In a URI an IPv4 address is written as it is and an IPv6 address in brackets.
The host keeps the brackets, and with them it is no literal to the parser.
-/

namespace Rustylink.Foundation

def IpAddr.HostText : IpAddr → String → Prop
  | .v4 address, host => Ipv4Addr.parse host = some address
  | .v6 address, host =>
      ∃ text, Ipv6Addr.parse text = some address ∧ host = "[" ++ text ++ "]"

theorem IpAddr.HostText.parse_eq {ip : IpAddr} {host : String}
    (h : ip.HostText host) :
    IpAddr.parse host = if ip.isV4 then some ip else none := by
  cases ip with
  | v4 address => exact IpAddr.parse_of_ipv4 h
  | v6 address =>
      obtain ⟨text, -, rfl⟩ := h
      exact IpAddr.parse_bracketed text

end Rustylink.Foundation

namespace Rustylink.Outbound

open Rustylink.Foundation Rustylink.Dns

variable {world : NetWorld} {resolver : HostResolver}

/--
The host is pinned to the address first and reached at once, or it is not
pinned and the address is an IPv4 one.
-/
def LiteralReached (world : NetWorld) (resolver : HostResolver) (host : String)
    (addr : SocketAddr) : Prop :=
  (∃ rest, resolver.overrides host = some (addr :: rest) ∧
      (rest = [] ∨ world.tcp [] addr = .ok ())) ∨
    (resolver.overrides host = none ∧ addr.ip.isV4 = true)

theorem dialsOnly_literal_iff {ip : IpAddr} {host : String} {port : Nat}
    (hhost : ip.HostText host) :
    DialsOnly world resolver host port ⟨ip, port⟩ ↔
      LiteralReached world resolver host ⟨ip, port⟩ := by
  unfold DialsOnly LiteralReached
  rw [hhost.parse_eq]
  cases hv4 : ip.isV4 <;> simp

theorem parseUriHostPort_http {uri : Uri} {host : String}
    (hscheme : uri.scheme = some "http" ∨ uri.scheme = some "https")
    (hhost : uri.host = some host) :
    parseUriHostPort uri = .ok (host, uri.effectivePort) := by
  rcases hscheme with h | h <;> simp [parseUriHostPort, hhost, h]

/--
A connection to an IP literal is one dial of that address, without a query,
exactly when the literal is an IPv4 one, unless its text is pinned.
-/
theorem literal_dialed_iff (world : NetWorld) (resolver : HostResolver)
    (uri : Uri) (ip : IpAddr) {host : String}
    (hscheme : uri.scheme = some "http" ∨ uri.scheme = some "https")
    (hhost : uri.host = some host) (hip : ip.HostText host) :
    leaves (connectTo world resolver uri []) = [.dial ⟨ip, uri.effectivePort⟩] ↔
      LiteralReached world resolver host ⟨ip, uri.effectivePort⟩ := by
  rw [connectTo_single_iff (parseUriHostPort_http hscheme hhost)]
  exact dialsOnly_literal_iff hip

def quietWorld : NetWorld where
  crates := {
    toLowercase := id
    parseUrl := fun _ => none
    wildMatch := fun _ _ => false
    fromVec := fun _ => none
    toVec := fun _ => none }
  nameError := fun _ => some "malformed label"
  exchanges := fun _ _ => ⟨none, none, []⟩
  tcp := fun _ _ => .ok ()

def serverless : HostResolver := .new ⟨none⟩ []

theorem ipv4_host_text :
    (IpAddr.v4 (Ipv4Addr.new 10 0 0 1)).HostText "10.0.0.1" := by
  show Ipv4Addr.parse "10.0.0.1" = some (Ipv4Addr.new 10 0 0 1)
  decide +kernel

theorem ipv4_literal_dialed :
    leaves (connectTo quietWorld serverless ⟨some "http", some "10.0.0.1", none⟩
      []) =
      [.dial ⟨.v4 (Ipv4Addr.new 10 0 0 1), 80⟩] :=
  (literal_dialed_iff quietWorld serverless ⟨some "http", some "10.0.0.1", none⟩
    (.v4 (Ipv4Addr.new 10 0 0 1)) (.inl rfl) rfl ipv4_host_text).mpr
      (.inr ⟨rfl, rfl⟩)

theorem ipv6_literal_not_dialed :
    (IpAddr.v6 (Ipv6Addr.new 0x2001 0xdb8 0 0 0 0 0 1)).HostText
      "[2001:db8::1]" ∧
      leaves (connectTo quietWorld serverless
        ⟨some "https", some "[2001:db8::1]", none⟩ []) = [] :=
  ⟨⟨"2001:db8::1", by decide +kernel, by decide +kernel⟩, by decide +kernel⟩

end Rustylink.Outbound
