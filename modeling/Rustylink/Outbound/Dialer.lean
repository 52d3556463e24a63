import Rustylink.Foundation.Net

/-!
# The dialer

Sockets pinned to an outbound interface, or left to the routes of the system
where pinning is refused or no interface was selected.
-/

namespace Rustylink.Outbound

open Rustylink.Foundation

structure OutboundInterface where
  name : String
  index : Nat
  gatewayV4 : Option IpAddr
  gatewayV6 : Option IpAddr
  deriving DecidableEq, Repr

structure Dialer where
  interface : Option OutboundInterface
  deriving DecidableEq, Repr

inductive DialerError where
  | interfaceBind (interface reason : String)
  | socketBind (address : SocketAddr) (source : String)
  deriving DecidableEq, Repr

structure UdpSocket where
  boundTo : Option Nat
  deriving DecidableEq, Repr

def shouldBind (addr : IpAddr) : Bool :=
  match addr with
  | .v4 _ =>
      !addr.isLoopback && !addr.isLinkLocal && !addr.isMulticast &&
        !addr.isUnspecified && !addr.isBroadcast
  | .v6 _ =>
      !addr.isLoopback && !addr.isLinkLocal && !addr.isMulticast &&
        !addr.isUnspecified

def unspecifiedFor (server : SocketAddr) : SocketAddr :=
  if server.ip.isV4 then ⟨.v4 0, 0⟩ else ⟨.v6 0, 0⟩

def bindSocketToInterface (outboundInterface : Option OutboundInterface) :
    Except DialerError UdpSocket :=
  match outboundInterface with
  | none => .ok ⟨none⟩
  | some interface =>
      if interface.index = 0 then
        .error (.interfaceBind interface.name
          s!"interface `{interface.name}` has no OS index")
      else .ok ⟨some interface.index⟩

namespace Dialer

def bindUdpTo (dialer : Dialer) (server : SocketAddr) :
    Except DialerError UdpSocket :=
  if shouldBind server.ip then bindSocketToInterface dialer.interface
  else .ok ⟨none⟩

theorem bindUdpTo_unbound_iff {dialer : Dialer} {server : SocketAddr} :
    dialer.bindUdpTo server = .ok ⟨none⟩ ↔
      dialer.interface = none ∨ shouldBind server.ip = false := by
  cases hbind : shouldBind server.ip with
  | false => simp [bindUdpTo, hbind]
  | true =>
      simp only [bindUdpTo, hbind, if_true, bindSocketToInterface, reduceCtorEq,
        or_false]
      cases dialer.interface with
      | none => simp
      | some interface =>
          simp only [reduceCtorEq, iff_false]
          split <;> simp

end Dialer

end Rustylink.Outbound
