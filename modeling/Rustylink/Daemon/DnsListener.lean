import Rustylink.Daemon.ConfigLens
import Rustylink.Tunnel.Listener

/-!
# The local DNS listener

What `get_configuration` says about the listener, against the addresses that the
next session binds.
-/

namespace Rustylink.Daemon

open Rustylink.Foundation Rustylink.Tunnel

def hostAddress (host : Option String) : Option IpAddr :=
  match host with
  | none => some (.v4 (Ipv4Addr.new 127 0 0 1))
  | some host => IpAddr.parse host

theorem parse_hostAddress {host : Option String} {ip : IpAddr}
    (h : hostAddress host = some ip) :
    IpAddr.parse (host.getD "127.0.0.1") = some ip := by
  cases host with
  | none =>
      rw [← h]
      decide +kernel
  | some host => exact h

/--
The server is bound to this address and, for the other family, to the loopback.
-/
def ListensAt (addr : SocketAddr) (w : World) : Prop :=
  ∃ server, w.session.dnsServer = some server ∧
    ∀ bound, bound ∈ [server.bindV4, server.bindV6] ↔
      bound = addr ∨ bound = ⟨.v6 1, addr.port⟩

variable {crates : SessionCrates} {os : SessionOs} {base : TunnelConfig}
  {settings : SessionSettings} {w : World}

theorem withSettings_port {port : Nat}
    (hport : settings.dnsListenPort = some port) :
    (base.withSettings settings).dnsListenPort =
      if port ≤ 65535 then port else 0 := by
  show (settings.dnsListenPort.filter fun port => decide (port ≤ 65535)).getD
      0 = _
  rw [hport]
  by_cases hfits : port ≤ 65535
  · simp [Option.filter, hfits]
  · simp [Option.filter, hfits]

theorem listensAt_iff {port : Nat} {ip : IpAddr}
    (hport : settings.dnsListenPort = some port) (hpos : 0 < port)
    (hhost : hostAddress settings.dnsListenHost = some ip)
    (hstart : start crates os (.new (base.withSettings settings)) = .ok () w)
    (hresolver : base.dns.isDisabled = false) :
    ListensAt ⟨ip, port⟩ w ↔ port ≤ 65535 ∧ ip.isV4 = true := by
  have hlistens := start_listens hstart
  have htaken : (base.withSettings settings).dnsListenPort = _ :=
    withSettings_port hport
  have hparsed : IpAddr.parse
      ((base.withSettings settings).dnsListenHost.getD "127.0.0.1") =
      some ip := parse_hostAddress hhost
  have hdns : (base.withSettings settings).dns.isDisabled = false := hresolver
  unfold Listens listenAddresses at hlistens
  by_cases hfits : port ≤ 65535
  · rw [if_pos hfits] at htaken
    rw [if_neg (by rw [hdns, htaken]; simp; omega),
      Option.map_eq_some_iff] at hlistens
    obtain ⟨server, hserver, haddresses⟩ := hlistens
    obtain ⟨hv4, hv6⟩ := Prod.mk.inj haddresses
    rw [htaken] at hv6
    cases ip with
    | v4 address =>
        have haddr := dnsListenAddr_ipv4 hparsed (by omega)
        refine iff_of_true ⟨server, hserver, fun bound => ?_⟩ ⟨hfits, rfl⟩
        rw [hv4, hv6, haddr, htaken]
        simp
    | v6 address =>
        have hfamily := dnsListenAddr_isV4 hparsed
        refine iff_of_false ?_ (by simp [IpAddr.isV4])
        rintro ⟨other, hother, hbound⟩
        cases hserver.symm.trans hother
        have hfirst := (hbound server.bindV4).mp List.mem_cons_self
        rw [hv4] at hfirst
        rcases hfirst with haddr | haddr <;> rw [haddr] at hfamily <;>
          cases hfamily
  · rw [if_neg hfits] at htaken
    rw [if_pos (.inr htaken), Option.map_eq_none_iff] at hlistens
    refine iff_of_false ?_ fun h => hfits h.1
    rintro ⟨server, hserver, -⟩
    rw [hlistens] at hserver
    cases hserver

/--
After any updates, a session with a VPN resolver listens where the configuration
says exactly when the port is one and the host is not an IPv6 address.
-/
theorem dns_listener_iff (loaded : DaemonConfig) (updates : List Configuration)
    {port : Nat} {ip : IpAddr}
    (hport :
      (updates.foldl DaemonConfig.update
        loaded).toConfigurationProto.dnsListenPort =
      some port) (hpos : 0 < port)
    (hhost : hostAddress
      (updates.foldl DaemonConfig.update
        loaded).toConfigurationProto.dnsListenHost = some ip)
    (hstart : start crates os (.new (base.withSettings
      (updates.foldl DaemonConfig.update loaded).sessionSettings)) = .ok () w)
    (hresolver : base.dns.isDisabled = false) :
    ListensAt ⟨ip, port⟩ w ↔ port ≤ 65535 ∧ ip.isV4 = true :=
  listensAt_iff hport hpos hhost hstart hresolver

/-! ## Two hosts -/

def splitBase : TunnelConfig := smallConfig false ["10.0.0.53:53"] []

theorem listener_start (host : String) (port : Nat)
    (h : succeeds (start smallCrates cleanOs (.new (splitBase.withSettings
      (DaemonConfig.default.update
        (listenerUpdate host port)).sessionSettings))) = true) :
    ∃ w, start smallCrates cleanOs (.new (splitBase.withSettings
      ([listenerUpdate host port].foldl DaemonConfig.update
        .default).sessionSettings)) = .ok () w :=
  ⟨_, eq_ok_of_succeeds h⟩

theorem dns_listener_lan :
    ∃ w, start smallCrates cleanOs (.new (splitBase.withSettings
        ([listenerUpdate "192.168.1.2" 5353].foldl DaemonConfig.update
          .default).sessionSettings)) = .ok () w ∧
      (ListensAt ⟨.v4 (Ipv4Addr.new 192 168 1 2), 5353⟩ w ↔
        5353 ≤ 65535 ∧ (IpAddr.v4 (Ipv4Addr.new 192 168 1 2)).isV4 = true) := by
  obtain ⟨w, hstart⟩ := listener_start "192.168.1.2" 5353 (by decide +kernel)
  exact ⟨w, hstart, dns_listener_iff .default
    [listenerUpdate "192.168.1.2" 5353] (by decide +kernel) (by decide)
    (by decide +kernel) hstart (by decide +kernel)⟩

theorem ipv6_listener_elsewhere :
    ∃ w, start smallCrates cleanOs (.new (splitBase.withSettings
        ([listenerUpdate "fd00::53" 5353].foldl DaemonConfig.update
          .default).sessionSettings)) = .ok () w ∧
      ∃ ip,
        hostAddress ([listenerUpdate "fd00::53" 5353].foldl DaemonConfig.update
          .default).toConfigurationProto.dnsListenHost = some ip ∧
        ¬ ListensAt ⟨ip, 5353⟩ w := by
  obtain ⟨w, hstart⟩ := listener_start "fd00::53" 5353 (by decide +kernel)
  refine ⟨w, hstart, .v6
    (Ipv6Addr.new 0xfd00 0 0 0 0 0 0 0x53), by decide +kernel, fun h => ?_⟩
  have hfamily :=
    (listensAt_iff (by decide +kernel) (by decide) (by decide +kernel) hstart
    (by decide +kernel)).mp h
  exact absurd hfamily.2 (by decide)

end Rustylink.Daemon
