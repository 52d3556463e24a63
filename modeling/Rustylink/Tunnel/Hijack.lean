import Rustylink.Dns.Resolver

/-!
# DNS hijacking on the TUN path

Every packet that the system sends into the TUN device is either a DNS query
that the resolver answers, or handed to WireGuard.  A packet is what the
packet parser finds in it.
-/

namespace Rustylink.Tunnel

open Rustylink.Foundation Rustylink.Dns

inductive NetSlice where
  | ipv4 (source destination : BitVec 32)
  | ipv6 (source destination : BitVec 128)
  | arp
  deriving DecidableEq, Repr

inductive TransportSlice where
  | udp (sourcePort destinationPort : Nat) (payload : Bytes)
  | other
  deriving DecidableEq, Repr

structure SlicedPacket where
  net : Option NetSlice
  transport : Option TransportSlice
  deriving DecidableEq, Repr

structure DnsWireQuery where
  source : IpAddr
  destination : IpAddr
  sourcePort : Nat
  destinationPort : Nat
  payload : Bytes
  deriving DecidableEq, Repr

def DnsWireQuery.fromIpPacket (packet : SlicedPacket) : Option DnsWireQuery :=
  match packet.transport with
  | some (.udp sourcePort destinationPort payload) =>
      if destinationPort ≠ dnsPort then none
      else
        match packet.net with
        | some (.ipv4 source destination) =>
            some ⟨.v4 source, .v4 destination, sourcePort,
              destinationPort, payload⟩
        | some (.ipv6 source destination) =>
            some ⟨.v6 source, .v6 destination, sourcePort,
              destinationPort, payload⟩
        | _ => none
  | _ => none

/-- The TUN device, merged with the DNS hijacker. -/
structure VpnTun where
  name : String
  mtu : Nat
  resolver : Option DnsResolver
  deriving DecidableEq, Repr

inductive Received where
  | hijacked (query : DnsWireQuery)
  | passed
  deriving DecidableEq, Repr

def VpnTun.recv (tun : VpnTun) (packet : SlicedPacket) : Received :=
  match tun.resolver with
  | none => .passed
  | some resolver =>
      match DnsWireQuery.fromIpPacket packet with
      | none => .passed
      | some query =>
          if query.destination ∈ resolver.vpnDnsIps then .passed
          else .hijacked query

structure PacketSource where
  addressV4 : BitVec 32
  addressV6 : BitVec 128
  port : Nat

namespace PacketSource

def ip (source : PacketSource) (destination : IpAddr) : IpAddr :=
  match destination with
  | .v4 _ => .v4 source.addressV4
  | .v6 _ => .v6 source.addressV6

def netSlice (source : PacketSource) (destination : IpAddr) : NetSlice :=
  match destination with
  | .v4 address => .ipv4 source.addressV4 address
  | .v6 address => .ipv6 source.addressV6 address

def udpPacket (source : PacketSource) (destination : SocketAddr)
    (payload : Bytes) :
    SlicedPacket where
  net := some (source.netSlice destination.ip)
  transport := some (.udp source.port destination.port payload)

end PacketSource

variable {source : PacketSource} {destination : SocketAddr} {payload : Bytes}
  {tun : VpnTun}

theorem fromIpPacket_udpPacket :
    DnsWireQuery.fromIpPacket (source.udpPacket destination payload) =
      if destination.port = dnsPort then
        some ⟨source.ip destination.ip, destination.ip, source.port,
          destination.port, payload⟩
      else none := by
  obtain ⟨ip, port⟩ := destination
  by_cases hport : port = dnsPort
  · cases ip <;>
      simp [PacketSource.udpPacket, PacketSource.netSlice, PacketSource.ip,
        DnsWireQuery.fromIpPacket, hport]
  · simp [PacketSource.udpPacket, DnsWireQuery.fromIpPacket, hport]

def VpnTun.hijacks (tun : VpnTun)
    (packet : SlicedPacket) : Option DnsWireQuery :=
  match tun.recv packet with
  | .hijacked query => some query
  | .passed => none

theorem hijacks_udpPacket {resolver : DnsResolver}
    (h : tun.resolver = some resolver) :
    tun.hijacks (source.udpPacket destination payload) =
      if destination.port = dnsPort ∧ destination.ip ∉ resolver.vpnDnsIps then
        some ⟨source.ip destination.ip, destination.ip, source.port,
          destination.port, payload⟩
      else none := by
  unfold VpnTun.hijacks VpnTun.recv
  rw [h]
  simp only [fromIpPacket_udpPacket]
  by_cases hport : destination.port = dnsPort
  · by_cases hvpn : destination.ip ∈ resolver.vpnDnsIps <;> simp [hport, hvpn]
  · simp [hport]

end Rustylink.Tunnel
