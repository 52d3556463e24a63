import Rustylink.Foundation.Cascade
import Rustylink.Tunnel.Started

/-!
# Where DNS packets go

The packets that the resolver of a running session sends: whether they come
back to the hijacker, and whether they stay inside the tunnel.
-/

namespace Rustylink.Tunnel

open Rustylink.Foundation Rustylink.Api Rustylink.Core Rustylink.Dns
  Rustylink.Outbound

variable {crates : SessionCrates} {os : SessionOs} {config : TunnelConfig}
  {device : TunnelDevice} {w : World} {payload : Bytes}

/-! ## The packets of one query -/

def forwards (crates : SessionCrates) (tun : VpnTun) (payload : Bytes)
    (upstream : Upstream) : List Datagram :=
  match tun.resolver with
  | none => []
  | some resolver => (resolver.resolve crates.toDnsCrates payload upstream).2

def entersTun (routes : List IpNetwork) (datagram : Datagram) : Bool :=
  datagram.boundTo = none && covers routes datagram.destination.ip

def rehijacked (routes : List IpNetwork) (tun : VpnTun) (source : PacketSource)
    (datagram : Datagram) : Option DnsWireQuery :=
  if entersTun routes datagram then
    tun.hijacks (source.udpPacket datagram.destination datagram.payload)
  else none

def reforwards (crates : SessionCrates) (routes : List IpNetwork) (tun : VpnTun)
    (source : PacketSource) (upstream : Upstream)
    (datagram : Datagram) : List Datagram :=
  match rehijacked routes tun source datagram with
  | none => []
  | some query => forwards crates tun query.payload upstream

/--
No packet sent for the query is hijacked again, and the packets it causes
directly or through others are finitely many, whatever the network does.
-/
structure LoopFree (crates : SessionCrates) (routes : List IpNetwork)
    (tun : VpnTun) (payload : Bytes) : Prop where
  notHijacked :
  ∀ upstream source, ∀ datagram ∈ forwards crates tun payload upstream,
    rehijacked routes tun source datagram = none
  ends : ∀ (upstream : Nat → Upstream) (source : Nat → PacketSource),
    Ends (fun n => reforwards crates routes tun (source n) (upstream (n + 1)))
      (forwards crates tun payload (upstream 0))

theorem mem_forwards (hrun : Running os config device w) {upstream : Upstream}
    {datagram : Datagram} :
    datagram ∈ forwards crates device.tun payload upstream ↔
      config.dns.isDisabled = false ∧ datagram.payload = payload ∧
        upstream.sends datagram.destination = true ∧
        ((config.dns.Routed crates.toDnsCrates payload ∧
          datagram.boundTo = none ∧
            datagram.destination ∈ config.dns.resolveVpnServers os.lookupHost) ∨
          (config.dns.Directed crates.toDnsCrates payload ∧
            device.dialer.bindUdpTo datagram.destination =
              .ok ⟨datagram.boundTo⟩ ∧
            datagram.destination.port = dnsPort ∧
            datagram.destination.ip ∈ capturedServers os config)) := by
  obtain ⟨boundTo, ⟨ip, port⟩, sent⟩ := datagram
  unfold forwards
  rw [hrun.resolver]
  cases hdisabled : config.dns.isDisabled with
  | true => simp
  | false =>
      have hserver : (⟨ip, port⟩ : SocketAddr) ∈
          (runningResolver os config device.dialer).systemServers ↔
          port = dnsPort ∧ ip ∈ capturedServers os config := by
        simp only [runningResolver, List.mem_map, SocketAddr.mk.injEq]
        constructor
        · rintro ⟨server, hmem, rfl, rfl⟩
          exact ⟨rfl, hmem⟩
        · rintro ⟨rfl, hmem⟩
          exact ⟨ip, hmem, rfl, rfl⟩
      simp only [Bool.false_eq_true, if_false, DnsResolver.mem_resolve, hserver]
      constructor
      · rintro (⟨hrouted, hbound, hvpn, hpayload, hsends⟩ |
          ⟨hdirected, hbind, hcaptured, hpayload, hsends⟩)
        · exact ⟨trivial, hpayload, hsends, .inl ⟨hrouted, hbound, hvpn⟩⟩
        · exact ⟨trivial, hpayload, hsends, .inr ⟨hdirected, hbind, hcaptured⟩⟩
      · rintro ⟨-, hpayload, hsends, ⟨hrouted, hbound, hvpn⟩ |
          ⟨hdirected, hbind, hcaptured⟩⟩
        · exact .inl ⟨hrouted, hbound, hvpn, hpayload, hsends⟩
        · exact .inr ⟨hdirected, hbind, hcaptured, hpayload, hsends⟩

/-! ## Forwarding loops -/

/--
Queries to this server come back: their sockets are not bound, its address is
routed into the tunnel, and the hijacker does not take it for a VPN resolver.
-/
def Reenters (os : SessionOs) (config : TunnelConfig) (directed : Dialer)
    (server : IpAddr) : Prop :=
  (directed.interface = none ∨ shouldBind server = false) ∧
    covers (sessionRoutes os config) server = true ∧
    server ∉ vpnResolverIps os config

theorem rehijacked_eq (hrun : Running os config device w)
    (henabled : config.dns.isDisabled = false) {source : PacketSource}
    {datagram : Datagram} :
    rehijacked w.session.config.routes device.tun source datagram =
      if datagram.boundTo = none ∧
          covers (sessionRoutes os config) datagram.destination.ip = true ∧
          datagram.destination.port = dnsPort ∧
          datagram.destination.ip ∉ vpnResolverIps os config then
        some ⟨source.ip datagram.destination.ip, datagram.destination.ip,
          source.port, datagram.destination.port, datagram.payload⟩
      else none := by
  have hresolver := hrun.resolver
  rw [henabled] at hresolver
  unfold rehijacked entersTun
  rw [hrun.hasRoutes, hijacks_udpPacket hresolver]
  by_cases hbound : datagram.boundTo = none
  · cases hcovers :
        covers (sessionRoutes os config) datagram.destination.ip with
    | true =>
        by_cases hport : datagram.destination.port = dnsPort
        · by_cases hvpn : datagram.destination.ip ∈ vpnResolverIps os config <;>
            simp [hbound, hport, hvpn, runningResolver]
        · simp [hbound, hport]
    | false => simp [hbound]
  · simp [hbound]

theorem not_rehijacked (hrun : Running os config device w)
    (hsafe : config.dns.Directed crates.toDnsCrates payload →
      ∀ server ∈ capturedServers os config,
        ¬ Reenters os config device.dialer server)
    {upstream : Upstream} {source : PacketSource} {datagram : Datagram}
    (hsent : datagram ∈ forwards crates device.tun payload upstream) :
    rehijacked w.session.config.routes device.tun source datagram = none := by
  obtain ⟨henabled, -, -, hpath⟩ := (mem_forwards hrun).mp hsent
  rw [rehijacked_eq hrun henabled]
  apply if_neg
  rintro ⟨hbound, hcovers, -, hvpn⟩
  rcases hpath with ⟨-, -, hserver⟩ | ⟨hdirected, hbind, -, hcaptured⟩
  · exact hvpn (List.mem_map_of_mem hserver)
  · rw [hbound, Dialer.bindUdpTo_unbound_iff] at hbind
    exact hsafe hdirected _ hcaptured ⟨hbind, hcovers, hvpn⟩

def silent : Upstream := ⟨fun _ => true, []⟩

theorem forwards_for_ever (hrun : Running os config device w)
    (henabled : config.dns.isDisabled = false)
    (hdirected : config.dns.Directed crates.toDnsCrates payload)
    {server : IpAddr} (hcaptured : server ∈ capturedServers os config)
    (hreenters : Reenters os config device.dialer server)
    (source : Nat → PacketSource) :
    ¬ Ends (fun n => reforwards crates w.session.config.routes
      device.tun (source n)
        silent) (forwards crates device.tun payload silent) := by
  have hbind : device.dialer.bindUdpTo ⟨server, dnsPort⟩ = .ok ⟨none⟩ :=
    Dialer.bindUdpTo_unbound_iff.mpr hreenters.1
  have hsent : (⟨none, ⟨server, dnsPort⟩, payload⟩ : Datagram) ∈
      forwards crates device.tun payload silent :=
    (mem_forwards hrun).mpr
      ⟨henabled, rfl, rfl, .inr ⟨hdirected, hbind, rfl, hcaptured⟩⟩
  apply not_ends_of_recurs hsent
  intro n
  unfold reforwards
  rw [rehijacked_eq hrun henabled,
    if_pos ⟨rfl, hreenters.2.1, rfl, hreenters.2.2⟩]
  exact hsent

theorem no_forwarding_loop_iff
    (hstart : start crates os (.new config) = .ok () w)
    (hdevice : w.session.device = some device) (payload : Bytes) :
    LoopFree crates w.session.config.routes device.tun payload ↔
      (config.dns.isDisabled = false →
        config.dns.Directed crates.toDnsCrates payload →
        ∀ server ∈ capturedServers os config,
          ¬ Reenters os config device.dialer server) := by
  have hrun := running_of_start hstart hdevice
  constructor
  · intro hfree henabled hdirected server hcaptured hreenters
    exact forwards_for_ever hrun henabled hdirected hcaptured hreenters
      (fun _ => ⟨0, 0, 0⟩) (hfree.ends (fun _ => silent) _)
  · intro hsafe
    have hnot : ∀ upstream source,
        ∀ datagram ∈ forwards crates device.tun payload upstream,
          rehijacked w.session.config.routes device.tun source datagram =
              none := by
      intro upstream source datagram hsent
      have henabled := ((mem_forwards hrun).mp hsent).1
      exact not_rehijacked hrun (hsafe henabled) hsent
    refine ⟨hnot, fun upstream source => ends_of_barren fun datagram hsent =>
      ?_⟩
    unfold reforwards
    rw [hnot _ _ _ hsent]

theorem small_start (os : SessionOs) (config : TunnelConfig)
    (h : succeeds (start smallCrates os (.new config)) = true) :
    ∃ w device, start smallCrates os (.new config) = .ok () w ∧
      w.session.device = some device ∧ Running os config device w := by
  have hstart := eq_ok_of_succeeds h
  obtain ⟨device, hrun⟩ := start_running hstart
  exact ⟨_, device, hstart, hrun.hasDevice, hrun⟩

theorem no_forwarding_loop_small :
    ∃ w device, start smallCrates cleanOs
        (.new (smallConfig false ["10.0.0.53:53"] [])) = .ok () w ∧
      w.session.device = some device ∧
      LoopFree smallCrates w.session.config.routes device.tun smallQuery := by
  obtain ⟨w, device, hstart, hdevice, hrun⟩ := small_start cleanOs
    (smallConfig false ["10.0.0.53:53"] []) (by decide +kernel)
  refine ⟨w, device, hstart, hdevice, ?_⟩
  apply (no_forwarding_loop_iff hstart hdevice smallQuery).mpr
  rintro - - server hcaptured ⟨hunbound, -⟩
  obtain ⟨tunName, hselected⟩ := hrun.selected
  have hinterface : some smallInterface = device.dialer.interface :=
    Except.ok.inj hselected
  rw [← hinterface] at hunbound
  have hserver : server = .v4 (Ipv4Addr.new 192 168 1 1) :=
    List.mem_singleton.mp hcaptured
  subst hserver
  revert hunbound
  decide

theorem forwarding_loop_unselected :
    ¬ ∀ (crates : SessionCrates) (os : SessionOs) (macos : Bool)
      (conn : VpnConnResponse) (localParams : LocalTunnelParams)
      (endpoint : Url)
      (protocolMode : ProtocolMode) (routeMode : VpnRouteMode)
      (base : TunnelConfig)
      (settings : SessionSettings) (w : World) (device : TunnelDevice)
      (payload : Bytes),
      TunnelConfig.fromVpnConn crates macos conn localParams
        endpoint protocolMode
          routeMode = .ok base →
        start crates os (.new (base.withSettings settings)) = .ok () w →
        w.session.device = some device →
        LoopFree crates w.session.config.routes device.tun payload := by
  intro h
  obtain ⟨w, device, hstart, hdevice, hrun⟩ := small_start
    (smallOs none (.ofDelete none)) (smallConfig false ["10.0.0.53:53"] [])
    (by decide +kernel)
  have hfree := h smallCrates (smallOs none (.ofDelete none)) false
    (smallResponse "10.0.0.53" []) smallParams smallEndpoint .udp .split
    (smallConfig false ["10.0.0.53:53"] []) smallSettings w device smallQuery
    (by decide +kernel) hstart hdevice
  obtain ⟨tunName, hselected⟩ := hrun.selected
  have hinterface : none = device.dialer.interface := Except.ok.inj hselected
  have hreenters : Reenters (smallOs none (.ofDelete none))
      (smallConfig false ["10.0.0.53:53"] []) device.dialer
      (.v4 (Ipv4Addr.new 192 168 1 1)) :=
    ⟨.inl hinterface.symm, by decide +kernel, by decide +kernel⟩
  exact forwards_for_ever hrun rfl ⟨rfl, by decide +kernel⟩
    (List.mem_singleton.mpr rfl)
    hreenters (fun _ => ⟨0, 0, 0⟩) (hfree.ends (fun _ => silent) _)

/-! ## The system's own queries -/

def AddsHostRoute (config : TunnelConfig) (w : World)
    (server : IpAddr) : Prop :=
  IpNetwork.ofAddr server ∈ w.session.config.routes.drop config.routes.length

def Answered (tun : VpnTun) (server : IpAddr) : Prop :=
  ∃ resolver, tun.resolver = some resolver ∧
    (server ∈ resolver.vpnDnsIps ∨ ∀ (source : PacketSource) (payload : Bytes),
      (tun.hijacks (source.udpPacket ⟨server, dnsPort⟩ payload)).isSome = true)

def NoBlackHole (os : SessionOs) (config : TunnelConfig)
    (tun : VpnTun) (w : World) : Prop :=
  ∀ server ∈ capturedServers os config, AddsHostRoute config w server →
    Answered tun server

theorem answered_iff (hrun : Running os config device w) {server : IpAddr} :
    Answered device.tun server ↔ config.dns.isDisabled = false := by
  have hresolver := hrun.resolver
  unfold Answered
  cases hdisabled : config.dns.isDisabled with
  | true => simp [hresolver, hdisabled]
  | false =>
      rw [hdisabled] at hresolver
      refine iff_of_true ⟨_, hresolver, ?_⟩ rfl
      by_cases hvpn :
        server ∈ (runningResolver os config device.dialer).vpnDnsIps
      · exact .inl hvpn
      · right
        intro source payload
        rw [hijacks_udpPacket hresolver, if_pos ⟨rfl, hvpn⟩]
        rfl

theorem addsHostRoute_iff (hrun : Running os config device w) {server : IpAddr}
    (hcaptured : server ∈ capturedServers os config) :
    AddsHostRoute config w server ↔
      config.fullTunnel = false ∧ config.routeSystemDns = true ∧
        (config.ipv6Enabled = true ∨ server.isV4 = true) := by
  have hdrop : w.session.config.routes.drop config.routes.length =
      config.systemDnsRoutes (capturedServers os config) := by
    rw [hrun.hasRoutes]
    exact List.drop_left
  unfold AddsHostRoute
  rw [hdrop, TunnelConfig.mem_systemDnsRoutes]
  simp [hcaptured]

theorem no_black_hole_iff
    (hstart : start crates os (.new config) = .ok () w)
    (hdevice : w.session.device = some device) :
    NoBlackHole os config device.tun w ↔
      (config.dns.isDisabled = true → config.fullTunnel = false →
        config.routeSystemDns = true → ∀ server ∈ capturedServers os config,
          config.ipv6Enabled = false ∧ server.isV4 = false) := by
  have hrun := running_of_start hstart hdevice
  unfold NoBlackHole
  simp only [answered_iff hrun]
  constructor
  · intro hsafe hdisabled hsplit hroute server hcaptured
    have hnot : ¬ AddsHostRoute config w server := by
      intro hadds
      rw [hsafe server hcaptured hadds] at hdisabled
      cases hdisabled
    rw [addsHostRoute_iff hrun hcaptured] at hnot
    simpa [hsplit, hroute] using hnot
  · intro hsafe server hcaptured hadds
    obtain ⟨hsplit, hroute, hfamily⟩ :=
      (addsHostRoute_iff hrun hcaptured).mp hadds
    by_contra hdisabled
    rw [Bool.not_eq_false] at hdisabled
    obtain ⟨hv6, hv4⟩ := hsafe hdisabled hsplit hroute server hcaptured
    simp [hv6, hv4] at hfamily

theorem no_black_hole_small :
    ∃ w device, start smallCrates cleanOs
        (.new (smallConfig false ["10.0.0.53:53"] [])) = .ok () w ∧
      w.session.device = some device ∧
      NoBlackHole cleanOs (smallConfig false ["10.0.0.53:53"] [])
        device.tun w := by
  obtain ⟨w, device, hstart, hdevice, -⟩ := small_start cleanOs
    (smallConfig false ["10.0.0.53:53"] []) (by decide +kernel)
  refine ⟨w, device, hstart, hdevice, ?_⟩
  apply (no_black_hole_iff hstart hdevice).mpr
  intro hdisabled
  cases hdisabled

theorem black_hole_without_resolver :
    ¬ ∀ (crates : SessionCrates) (os : SessionOs) (macos : Bool)
      (conn : VpnConnResponse) (localParams : LocalTunnelParams)
      (endpoint : Url)
      (protocolMode : ProtocolMode) (routeMode : VpnRouteMode)
      (base : TunnelConfig)
      (settings : SessionSettings) (w : World) (device : TunnelDevice),
      TunnelConfig.fromVpnConn crates macos conn localParams
        endpoint protocolMode
          routeMode = .ok base →
        start crates os (.new (base.withSettings settings)) = .ok () w →
        w.session.device = some device →
        NoBlackHole os (base.withSettings settings) device.tun w := by
  intro h
  obtain ⟨w, device, hstart, hdevice, hrun⟩ := small_start cleanOs
    (smallConfig false [] []) (by decide +kernel)
  have hnone := h smallCrates cleanOs false (smallResponse none []) smallParams
    smallEndpoint .udp .split (smallConfig false [] []) smallSettings w device
    (by decide +kernel) hstart hdevice
  have hcaptured : IpAddr.v4 (Ipv4Addr.new 192 168 1 1) ∈
      capturedServers cleanOs (smallConfig false [] []) :=
        List.mem_singleton.mpr rfl
  have hadds := (addsHostRoute_iff hrun hcaptured).mpr ⟨rfl, rfl, .inr rfl⟩
  have henabled := (answered_iff hrun).mp (hnone _ hcaptured hadds)
  cases henabled

/-! ## Queries for the VPN resolvers -/

/-- A query for the VPN resolvers leaves the machine through the tunnel only. -/
def Confined (crates : SessionCrates) (routes : List IpNetwork) (tun : VpnTun)
    (payload : Bytes) : Prop :=
  ∀ resolver, tun.resolver = some resolver →
    resolver.config.Routed crates.toDnsCrates payload →
    ∀ upstream, ∀ datagram ∈ forwards crates tun payload upstream,
      covers routes datagram.destination.ip = true

/-- The response, or the capture of the system DNS, routes the address. -/
def InsideTunnel (crates : SessionCrates) (os : SessionOs)
    (conn : VpnConnResponse) (routeMode : VpnRouteMode)
    (settings : SessionSettings) (ip : IpAddr) : Prop :=
  CidrsCover crates.parseNetwork (routeMode.cidrs conn.setting).1 ip ∨
    (ipv6Enabled conn = true ∧
      CidrsCover crates.parseNetwork (routeMode.cidrs conn.setting).2 ip) ∨
    (routeMode = .split ∧ settings.routeSystemDns.getD true = true ∧
      ip ∈ captureSystemDns os.systemDns settings.fallbackDns ∧
      (ipv6Enabled conn = true ∨ ip.isV4 = true))

theorem fromVpnConn_ok {macos : Bool} {conn : VpnConnResponse}
    {localParams : LocalTunnelParams} {endpoint : Url}
    {protocolMode : ProtocolMode} {routeMode : VpnRouteMode}
    {base : TunnelConfig}
    (h : TunnelConfig.fromVpnConn crates macos conn localParams
      endpoint protocolMode routeMode = .ok base) :
    networksFromVpnConn crates.parseNetwork conn routeMode (ipv6Enabled conn) =
        .ok base.routes ∧
      base.ipv6Enabled = ipv6Enabled conn ∧
      (base.fullTunnel = false ↔ routeMode = .split) := by
  unfold TunnelConfig.fromVpnConn at h
  split at h
  · cases h
  · cases hroutes : networksFromVpnConn crates.parseNetwork conn routeMode
        (ipv6Enabled conn) with
    | error e =>
        simp only [hroutes] at h
        cases h
    | ok routes =>
        simp only [hroutes] at h
        cases h
        refine ⟨rfl, rfl, ?_⟩
        cases routeMode <;> simp

theorem sessionRoutes_covers {macos : Bool} {conn : VpnConnResponse}
    {localParams : LocalTunnelParams} {endpoint : Url}
    {protocolMode : ProtocolMode} {routeMode : VpnRouteMode}
    {base : TunnelConfig} {settings : SessionSettings}
    (h : TunnelConfig.fromVpnConn crates macos conn localParams
      endpoint protocolMode routeMode = .ok base) {ip : IpAddr} :
    covers (sessionRoutes os (base.withSettings settings)) ip = true ↔
      InsideTunnel crates os conn routeMode settings ip := by
  obtain ⟨hroutes, hipv6, hsplit⟩ := fromVpnConn_ok h
  have hbase : covers (base.withSettings settings).routes ip = true ↔ _ :=
    networksFromVpnConn_covers crates.parseNetwork hroutes
  have hdns : covers ((base.withSettings settings).systemDnsRoutes
      (capturedServers os (base.withSettings settings))) ip = true ↔ _ :=
    TunnelConfig.systemDnsRoutes_covers
  unfold sessionRoutes InsideTunnel
  rw [covers_append, Bool.or_eq_true, hbase, hdns, or_assoc]
  simp only [TunnelConfig.withSettings, capturedServers, hipv6, hsplit]

theorem confined_iff (hrun : Running os config device w) :
    Confined crates w.session.config.routes device.tun payload ↔
      (config.dns.isDisabled = false →
        config.dns.Routed crates.toDnsCrates payload →
        ∀ server ∈ config.dns.resolveVpnServers os.lookupHost,
          covers (sessionRoutes os config) server.ip = true) := by
  have hresolver := hrun.resolver
  unfold Confined
  rw [hrun.hasRoutes]
  simp only [mem_forwards hrun]
  constructor
  · intro hconfined henabled hrouted server hserver
    rw [henabled] at hresolver
    exact hconfined _ hresolver hrouted silent ⟨none, server, payload⟩
      ⟨henabled, rfl, rfl, .inl ⟨hrouted, rfl, hserver⟩⟩
  · rintro hinside resolver hsome hrouted upstream datagram
      ⟨henabled, -, -, hpath⟩
    rw [henabled] at hresolver
    have heq : runningResolver os config device.dialer = resolver :=
      Option.some.inj (hresolver.symm.trans hsome)
    have hrouted' : config.dns.Routed crates.toDnsCrates payload := by
      rw [← heq] at hrouted
      exact hrouted
    rcases hpath with ⟨-, -, hserver⟩ | ⟨hdirected, -⟩
    · exact hinside henabled hrouted' _ hserver
    · have hboth := hrouted'.2.symm.trans hdirected.2
      cases hboth

theorem dns_confined_iff {macos : Bool} {conn : VpnConnResponse}
    {localParams : LocalTunnelParams} {endpoint : Url}
    {protocolMode : ProtocolMode} {routeMode : VpnRouteMode}
    {base : TunnelConfig} {settings : SessionSettings}
    (hconn : TunnelConfig.fromVpnConn crates macos conn localParams endpoint
      protocolMode routeMode = .ok base)
    (hstart : start crates os (.new (base.withSettings settings)) = .ok () w)
    (hdevice : w.session.device = some device) (payload : Bytes) :
    Confined crates w.session.config.routes device.tun payload ↔
      (base.dns.isDisabled = false →
        base.dns.Routed crates.toDnsCrates payload →
        ∀ server ∈ base.dns.resolveVpnServers os.lookupHost,
          InsideTunnel crates os conn routeMode settings server.ip) := by
  rw [confined_iff (running_of_start hstart hdevice)]
  simp only [sessionRoutes_covers hconn]
  rfl

theorem dns_confined_small :
    ∃ w device, start smallCrates cleanOs
      (.new ((smallConfig false ["10.0.0.53:53"]
        ["example.com", "*.example.com"]).withSettings smallSettings)) =
          .ok () w ∧
      w.session.device = some device ∧
      Confined smallCrates w.session.config.routes device.tun smallQuery := by
  obtain ⟨w, device, hstart, hdevice, -⟩ := small_start cleanOs
    ((smallConfig false ["10.0.0.53:53"]
      ["example.com", "*.example.com"]).withSettings
      smallSettings) (by decide +kernel)
  have hconn : TunnelConfig.fromVpnConn smallCrates false
      (smallResponse "10.0.0.53" ["example.com"])
        smallParams smallEndpoint .udp .split =
      .ok (smallConfig false ["10.0.0.53:53"]
          ["example.com", "*.example.com"]) := by
    decide +kernel
  refine ⟨w, device, hstart, hdevice, ?_⟩
  apply (dns_confined_iff hconn hstart hdevice smallQuery).mpr
  intro _ _ server hserver
  have hresolver : server = ⟨.v4 (Ipv4Addr.new 10 0 0 53), 53⟩ :=
    List.mem_singleton.mp hserver
  subst hresolver
  exact .inl
    ⟨"10.0.0.0/8", by decide, .v4 (Ipv4Addr.new 10 0 0 0) 8 (by decide),
    by decide +kernel, by decide +kernel⟩

theorem dns_leak_unrouted_resolver :
    ¬ ∀ (crates : SessionCrates) (os : SessionOs) (macos : Bool)
      (conn : VpnConnResponse) (localParams : LocalTunnelParams)
      (endpoint : Url)
      (protocolMode : ProtocolMode) (routeMode : VpnRouteMode)
      (base : TunnelConfig)
      (settings : SessionSettings) (w : World) (device : TunnelDevice)
      (payload : Bytes),
      TunnelConfig.fromVpnConn crates macos conn localParams
        endpoint protocolMode
          routeMode = .ok base →
        start crates os (.new (base.withSettings settings)) = .ok () w →
        w.session.device = some device →
        Confined crates w.session.config.routes device.tun payload := by
  intro h
  obtain ⟨w, device, hstart, hdevice, hrun⟩ := small_start cleanOs
    (smallConfig false ["8.8.8.8:53"] ["example.com", "*.example.com"])
    (by decide +kernel)
  have hconfined := h smallCrates cleanOs false
    (smallResponse "8.8.8.8" ["example.com"])
      smallParams smallEndpoint .udp .split
    (smallConfig false ["8.8.8.8:53"] ["example.com", "*.example.com"])
      smallSettings
    w device smallQuery (by decide +kernel) hstart hdevice
  have hcovers := (confined_iff hrun).mp hconfined rfl ⟨rfl, by decide +kernel⟩
    ⟨.v4 (Ipv4Addr.new 8 8 8 8), 53⟩ (List.mem_singleton.mpr rfl)
  revert hcovers
  decide +kernel

end Rustylink.Tunnel
