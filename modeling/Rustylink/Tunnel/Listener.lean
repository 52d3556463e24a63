import Rustylink.Foundation.SocketText
import Rustylink.Tunnel.Started

/-!
# Where the DNS listener of a session is

Only one step of the start concerns itself with the DNS server, and it reads its
settings from a configuration that no step before it has changed in them.
-/

namespace Rustylink.Tunnel

open Rustylink.Foundation Rustylink.Dns Rustylink.Outbound

variable {crates : SessionCrates} {os : SessionOs}

def DnsServer.addresses (server : DnsServer) : SocketAddr × SocketAddr :=
  (server.bindV4, server.bindV6)

def listenAddresses (config : TunnelConfig) :
    Option (SocketAddr × SocketAddr) :=
  if config.dns.isDisabled ∨ config.dnsListenPort = 0 then none
  else some (dnsListenAddr config, ⟨.v6 1, config.dnsListenPort⟩)

def Listens (config : TunnelConfig) (server : Option DnsServer) : Prop :=
  server.map DnsServer.addresses = listenAddresses config

/-! ## Steps that leave the server alone -/

def KeepsServer {α : Type} (m : SessionBody α) : Prop :=
  ∀ C : TunnelConfig → Option DnsServer → Prop,
    Spec (fun w => C w.session.config w.session.dnsServer) m
      (fun _ w => C w.session.config w.session.dnsServer) fun _ => True

theorem setupBypass_keepsServer {ctx : OutboundContext} :
    KeepsServer (setupBypass os ctx) := by
  refine fun C => Spec.bind readConfig_spec fun config => ?_
  split
  · exact Spec.pure fun _ h => h.1
  · split
    · exact Spec.pure fun _ h => h.1
    · exact Spec.modify fun _ h => h.1

theorem applyRoutes_keepsServer {interfaceName : String} :
    KeepsServer (applyRoutes os interfaceName) := by
  have hroutes {α : Type} {body : RouteBody α} :
      KeepsServer (onRoutes body) := by
    intro C w h
    unfold onRoutes
    cases body w.routeLog with
    | ok a log => exact h
    | error e log => trivial
  refine fun C => Spec.bind readConfig_spec fun config => ?_
  refine Spec.bind ((hroutes C).weaken (fun _ h => h.1) (fun _ _ h => h)
    fun _ h => h) fun applied => ?_
  exact Spec.modify fun _ h => h

theorem buildVpnTun_keepsServer {systemServers : List IpAddr}
    {directed : Dialer} :
    KeepsServer (buildVpnTun os systemServers directed) := by
  refine fun C => Spec.bind readConfig_spec fun config => ?_
  split
  · exact Spec.throw fun _ _ => trivial
  · exact Spec.pure fun _ h => h.1

theorem buildDevice_keepsServer {ctx : OutboundContext} {tun : VpnTun}
    {privateKey : Bytes} {peer : Peer} :
    KeepsServer (buildDevice os ctx tun privateKey peer) := by
  refine fun C => Spec.bind readConfig_spec fun config => ?_
  split
  · exact Spec.throw fun _ _ => trivial
  · exact Spec.modify fun _ h => h.1

theorem startProbe_keepsServer {ctx : OutboundContext} :
    KeepsServer (startProbe os ctx) :=
  fun _ => Spec.bind readConfig_spec fun _ => Spec.modify fun _ h => h.1

theorem openTun_keepsServer {config : TunnelConfig} :
    Spec (fun w => w.session.config = config ∧ w.session.dnsServer = none)
      (openTun crates os)
      (fun _ w => Named config w.session.config ∧ w.session.dnsServer = none)
        fun _ => True := by
  refine Spec.bind readConfig_spec fun read => ?_
  refine Spec.bind (Q := fun _ w => w.session.config = config ∧
    w.session.dnsServer = none)
    (Spec.ofExcept (fun _ _ _ h => h.1) fun _ _ => trivial) fun request => ?_
  cases os.createTun request with
  | error source => exact Spec.throw fun _ _ => trivial
  | ok actual =>
      dsimp only
      split
      · exact Spec.pure fun w h => ⟨⟨config.interfaceName, h.1⟩, h.2⟩
      · split
        · refine Spec.bind
            (Q := fun _ w => Named config w.session.config ∧
              w.session.dnsServer = none)
            (Spec.modify fun w h => ⟨⟨actual, ?_⟩, h.2⟩) fun _ =>
              Spec.pure fun _ h => h
          exact congrArg (fun c : TunnelConfig =>
            { c with interfaceName := actual }) h.1
        · exact Spec.throw fun _ _ => trivial

/-! ## The start -/

theorem startDnsServer_listens {config : TunnelConfig}
    {systemServers : List IpAddr} {directed : Dialer} :
    Spec (fun w => Named config w.session.config ∧ w.session.dnsServer = none)
      (startDnsServer os systemServers directed)
      (fun _ w => Listens config w.session.dnsServer) fun _ => True := by
  refine Spec.bind readConfig_spec fun read => ?_
  refine Spec.pre (P := fun w => w.session.dnsServer = none ∧ Named config read)
    (fun w h => ⟨h.1.2, by rw [h.2]; exact h.1.1⟩) (Spec.extract ?_)
  rintro ⟨name, rfl⟩
  have hresolver : sessionResolver os { config with interfaceName := name }
      systemServers
      directed = sessionResolver os config systemServers directed := rfl
  rw [hresolver]
  have hbuilt : (sessionResolver os config systemServers directed = none) =
      (config.dns.isDisabled = true) := by
    unfold sessionResolver DnsResolver.build
    split <;> simp_all
  cases hsession : sessionResolver os config systemServers directed with
  | none =>
      have hdisabled : config.dns.isDisabled = true := hbuilt ▸ hsession
      refine Spec.pure fun w h => ?_
      simp [Listens, listenAddresses, h, hdisabled]
  | some resolver =>
      have hdisabled : ¬ config.dns.isDisabled = true := by
        rw [← hbuilt, hsession]
        simp
      dsimp only
      split
      · rename_i hport
        refine Spec.pure fun w h => ?_
        simp [Listens, listenAddresses, h, hport]
      · rename_i hport
        split
        · exact Spec.throw fun _ _ => trivial
        · refine Spec.modify fun w h => ?_
          show some (dnsListenAddr config, _) = listenAddresses config
          rw [listenAddresses, if_neg (not_or.mpr ⟨hdisabled, hport⟩)]

theorem startInner_listens (config : TunnelConfig) :
    Spec (fun w => w.session.config = config ∧ w.session.dnsServer = none)
      (startInner crates os) (fun _ w => Listens config w.session.dnsServer)
        fun _ => True := by
  have hfail : ∀ {P : World → Prop}, ∀ w, P w → True := fun _ _ => trivial
  have hserver {α : Type} {m : SessionBody α} (h : KeepsServer m) :
      Spec (fun w => Listens config w.session.dnsServer) m
        (fun _ w => Listens config w.session.dnsServer) fun _ => True :=
    h fun _ server => Listens config server
  refine Spec.bind readConfig_spec fun read => ?_
  refine Spec.pre (P := fun w =>
    (w.session.config = config ∧ w.session.dnsServer = none) ∧
    read = config) (fun w h => ⟨h.1, h.2.trans h.1.1⟩) (Spec.extract ?_)
  rintro rfl
  refine Spec.bind_ofExcept (fun privateKey _ => ?_) hfail
  refine Spec.bind openTun_keepsServer fun tunName => ?_
  refine Spec.bind_ofExcept (fun ctx _ => ?_) hfail
  refine Spec.bind
    (Q := fun _ w =>
      Named (read.routeSystemDnsIntoTunnel (capturedServers os read))
      w.session.config ∧ w.session.dnsServer = none) (Spec.modify fun w h => ?_)
        fun _ => ?_
  · obtain ⟨⟨name, hname⟩, hnone⟩ := h
    exact ⟨⟨name, congrArg (fun c : TunnelConfig =>
      c.routeSystemDnsIntoTunnel (capturedServers os read)) hname⟩, hnone⟩
  refine Spec.bind_ofExcept (fun endpoint _ => ?_) hfail
  refine Spec.bind (Q := fun _ w =>
    Named (read.routeSystemDnsIntoTunnel (capturedServers os read))
      w.session.config ∧
      w.session.dnsServer = none)
    (Spec.weaken (E := fun _ => True) readConfig_spec (fun _ h => h)
      (fun _ _ h => h.1) hfail) fun routed => ?_
  refine Spec.bind_ofExcept (fun peer _ => ?_) hfail
  refine Spec.bind (setupBypass_keepsServer fun c server => Named _ c ∧
    server = none) fun _ => ?_
  refine Spec.bind (applyRoutes_keepsServer fun c server => Named _ c ∧
    server = none) fun _ => ?_
  refine Spec.bind (buildVpnTun_keepsServer fun c server => Named _ c ∧
    server = none) fun tun => ?_
  refine Spec.bind startDnsServer_listens fun _ => ?_
  refine Spec.bind (hserver buildDevice_keepsServer) fun _ => ?_
  exact hserver startProbe_keepsServer

theorem start_listens {config : TunnelConfig} {w : World}
    (hstart : start crates os (.new config) = .ok () w) :
    Listens config w.session.dnsServer := by
  unfold start at hstart
  cases hrun : startInner crates os (.new config) with
  | ok value started =>
      rw [hrun] at hstart
      cases hstart
      exact (startInner_listens config).ok ⟨rfl, rfl⟩ hrun
  | error e failed =>
      rw [hrun] at hstart
      cases hstart

/-! ## The addresses -/

theorem dnsListenAddr_isV4 {config : TunnelConfig} {ip : IpAddr}
    (hhost : IpAddr.parse (config.dnsListenHost.getD "127.0.0.1") = some ip) :
    (dnsListenAddr config).ip.isV4 = true := by
  unfold dnsListenAddr
  dsimp only
  rw [String.append_assoc]
  cases haddr : SocketAddr.parse (config.dnsListenHost.getD "127.0.0.1" ++
      (":" ++ toString config.dnsListenPort)) with
  | none => rfl
  | some addr => exact SocketAddr.parse_isV4 hhost haddr

theorem dnsListenAddr_ipv4 {config : TunnelConfig} {address : BitVec 32}
    (hhost : IpAddr.parse (config.dnsListenHost.getD "127.0.0.1") =
      some (.v4 address))
    (hport : config.dnsListenPort < 65536) :
    dnsListenAddr config = ⟨.v4 address, config.dnsListenPort⟩ := by
  unfold dnsListenAddr
  dsimp only
  rw [SocketAddr.parse_ipv4 hhost hport]
  rfl

end Rustylink.Tunnel
