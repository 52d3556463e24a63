import Rustylink.Dns.Synthesis
import Rustylink.Outbound.Dialer

/-!
# The resolver behind the hijacker

A query payload is answered from the tables or forwarded to every server of
one side: the VPN resolvers on plain sockets, or the system resolvers on
sockets of the directed dialer.
-/

namespace Rustylink.Dns

open Rustylink.Foundation Rustylink.Outbound

structure DnsResolver where
  config : DnsConfig
  vpnServers : List SocketAddr
  systemServers : List SocketAddr
  vpnDnsIps : List IpAddr
  directedDialer : Dialer
  deriving DecidableEq, Repr

/-- Build the resolver; `none` when the VPN provided no resolver endpoints. -/
def DnsResolver.build (config : DnsConfig) (vpnServers : List SocketAddr)
    (systemServers : List IpAddr)
    (directedDialer : Dialer) : Option DnsResolver :=
  if config.isDisabled then none
  else some {
    config := config
    vpnServers := vpnServers
    systemServers := systemServers.map fun ip => ⟨ip, dnsPort⟩
    vpnDnsIps := vpnServers.map SocketAddr.ip
    directedDialer := directedDialer }

def defaultFallbackDns : IpAddr := .v4 (Ipv4Addr.new 223 5 5 5)

def captureSystemDns (rawServers : List IpAddr)
    (fallback : Option (List String)) : List IpAddr :=
  let servers := rawServers.filter fun ip => !ip.isLoopback && !ip.isUnspecified
  let parsed := (fallback.getD []).filterMap IpAddr.parse
  if servers ≠ [] then servers
  else if parsed ≠ [] then parsed
  else [defaultFallbackDns]

/-! ## Forwarding -/

structure Datagram where
  boundTo : Option Nat
  destination : SocketAddr
  payload : Bytes
  deriving DecidableEq, Repr

/-- What the system and the network do with the queries of one fan-out. -/
structure Upstream where
  sends : SocketAddr → Bool
  replies : List Bytes

/--
Query every server, each on its own socket.  The first successful reply is
returned; the queries to the other servers are sent all the same.
-/
def parallelQuery (bind : SocketAddr → Except DialerError UdpSocket)
    (servers : List SocketAddr) (request : Bytes) (upstream : Upstream) :
    Option Bytes × List Datagram :=
  if servers = [] then (none, [])
  else
    (upstream.replies.head?,
      servers.filterMap fun server =>
        match bind server with
        | .error _ => none
        | .ok socket =>
            if upstream.sends server then
              some ⟨socket.boundTo, server, request⟩
            else none)

def parallelQueryRouted (servers : List SocketAddr) (request : Bytes)
    (upstream : Upstream) : Option Bytes × List Datagram :=
  parallelQuery (fun _ => .ok ⟨none⟩) servers request upstream

def parallelQueryDirected (servers : List SocketAddr) (request : Bytes)
    (dialer : Dialer) (upstream : Upstream) : Option Bytes × List Datagram :=
  parallelQuery dialer.bindUdpTo servers request upstream

theorem mem_parallelQuery {bind : SocketAddr → Except DialerError UdpSocket}
    {servers : List SocketAddr} {request : Bytes} {upstream : Upstream}
    {datagram : Datagram} :
    datagram ∈ (parallelQuery bind servers request upstream).2 ↔
      datagram.destination ∈ servers ∧ datagram.payload = request ∧
      upstream.sends datagram.destination = true ∧
      bind datagram.destination = .ok ⟨datagram.boundTo⟩ := by
  obtain ⟨boundTo, destination, payload⟩ := datagram
  unfold parallelQuery
  split
  · rename_i hnone
    simp [hnone]
  · simp only [List.mem_filterMap]
    constructor
    · rintro ⟨server, hserver, hsent⟩
      cases hbind : bind server with
      | error error => simp [hbind] at hsent
      | ok socket =>
          simp only [hbind, Option.ite_none_right_eq_some, Option.some.injEq,
            Datagram.mk.injEq] at hsent
          obtain ⟨hsends, rfl, rfl, rfl⟩ := hsent
          exact ⟨hserver, rfl, hsends, hbind⟩
    · rintro ⟨hserver, rfl, hsends, hbind⟩
      exact ⟨destination, hserver, by simp [hbind, hsends]⟩

/-! ## Resolution -/

def DnsConfig.Routed (crates : DnsCrates) (config : DnsConfig)
    (payload : Bytes) : Prop :=
  synthesize crates config payload = none ∧
    config.routeThroughVpn crates.toTextCrates
      (parseQuestionDomain crates payload) = true

def DnsConfig.Directed (crates : DnsCrates) (config : DnsConfig)
    (payload : Bytes) : Prop :=
  synthesize crates config payload = none ∧
    config.routeThroughVpn crates.toTextCrates
      (parseQuestionDomain crates payload) = false

namespace DnsResolver

variable (crates : DnsCrates)

def forward (resolver : DnsResolver) (payload : Bytes) (upstream : Upstream) :
    Option Bytes × List Datagram :=
  if resolver.config.routeThroughVpn crates.toTextCrates
      (parseQuestionDomain crates payload) then
    parallelQueryRouted resolver.vpnServers payload upstream
  else
    parallelQueryDirected resolver.systemServers payload resolver.directedDialer
      upstream

def resolve (resolver : DnsResolver) (payload : Bytes) (upstream : Upstream) :
    Bytes × List Datagram :=
  match synthesize crates resolver.config payload with
  | some answer => (answer, [])
  | none =>
      let result := resolver.forward crates payload upstream
      (result.1.getD (synthesizeFailure crates payload .servFail), result.2)

variable {crates} {resolver : DnsResolver} {payload : Bytes}
  {upstream : Upstream}

theorem mem_resolve {datagram : Datagram} :
    datagram ∈ (resolver.resolve crates payload upstream).2 ↔
      (resolver.config.Routed crates payload ∧ datagram.boundTo = none ∧
        datagram.destination ∈ resolver.vpnServers ∧
          datagram.payload = payload ∧
        upstream.sends datagram.destination = true) ∨
      (resolver.config.Directed crates payload ∧
        resolver.directedDialer.bindUdpTo datagram.destination =
          .ok ⟨datagram.boundTo⟩ ∧
        datagram.destination ∈ resolver.systemServers ∧
        datagram.payload = payload ∧
        upstream.sends datagram.destination = true) := by
  unfold resolve DnsConfig.Routed DnsConfig.Directed
  cases hanswer : synthesize crates resolver.config payload with
  | some answer => simp
  | none =>
      unfold forward
      cases hroute : resolver.config.routeThroughVpn crates.toTextCrates
          (parseQuestionDomain crates payload) with
      | true =>
          simp only [if_true, parallelQueryRouted, mem_parallelQuery,
            Except.ok.injEq, UdpSocket.mk.injEq, true_and, reduceCtorEq,
            and_false, false_and, or_false]
          constructor
          · rintro ⟨hserver, hpayload, hsends, hbound⟩
            exact ⟨hbound.symm, hserver, hpayload, hsends⟩
          · rintro ⟨hbound, hserver, hpayload, hsends⟩
            exact ⟨hserver, hpayload, hsends, hbound.symm⟩
      | false =>
          simp only [Bool.false_eq_true, if_false, parallelQueryDirected,
            mem_parallelQuery, and_false, false_and, true_and, false_or]
          constructor
          · rintro ⟨hserver, hpayload, hsends, hbind⟩
            exact ⟨hbind, hserver, hpayload, hsends⟩
          · rintro ⟨hbind, hserver, hpayload, hsends⟩
            exact ⟨hserver, hpayload, hsends, hbind⟩

end DnsResolver

end Rustylink.Dns
