import Rustylink.Tunnel.Session

/-!
# What a started session has put in place

After a successful start the session's settings hold the routes it asked for,
and its device reads through a hijacker built from the same settings, the same
captured DNS servers and the outbound interface that was selected.
-/

namespace Rustylink.Tunnel

open Rustylink.Foundation Rustylink.Dns Rustylink.Outbound

variable {crates : SessionCrates} {os : SessionOs}

def capturedServers (os : SessionOs) (config : TunnelConfig) : List IpAddr :=
  captureSystemDns os.systemDns config.fallbackDns

def sessionRoutes (os : SessionOs) (config : TunnelConfig) : List IpNetwork :=
  config.routes ++ config.systemDnsRoutes (capturedServers os config)

def vpnResolverIps (os : SessionOs) (config : TunnelConfig) : List IpAddr :=
  (config.dns.resolveVpnServers os.lookupHost).map SocketAddr.ip

/-- A session with these settings runs over this device. -/
structure Running (os : SessionOs) (config : TunnelConfig)
    (device : TunnelDevice) (w : World) : Prop where
  hasDevice : w.session.device = some device
  hasRoutes : w.session.config.routes = sessionRoutes os config
  hasResolver : device.tun.resolver =
    sessionResolver os config (capturedServers os config) device.dialer
  selected : ∃ tunName,
    os.resolveInterface config.outboundInterface tunName config.fullTunnel =
      .ok device.dialer.interface

def runningResolver (os : SessionOs) (config : TunnelConfig)
    (directed : Dialer) :
    DnsResolver where
  config := config.dns
  vpnServers := config.dns.resolveVpnServers os.lookupHost
  systemServers := (capturedServers os config).map fun ip => ⟨ip, dnsPort⟩
  vpnDnsIps := vpnResolverIps os config
  directedDialer := directed

theorem Running.resolver {config : TunnelConfig} {device : TunnelDevice}
    {w : World} (h : Running os config device w) :
    device.tun.resolver =
      if config.dns.isDisabled then none
      else some (runningResolver os config device.dialer) := by
  rw [h.hasResolver]
  rfl

/-! ## Steps that leave the settings alone -/

def KeepsConfig {α : Type} (m : SessionBody α) : Prop :=
  ∀ C : TunnelConfig → Prop,
    Spec (fun w => C w.session.config) m (fun _ w => C w.session.config)
      fun _ => True

theorem setupBypass_keeps {ctx : OutboundContext} :
    KeepsConfig (setupBypass os ctx) := by
  refine fun C => Spec.bind readConfig_spec fun config => ?_
  split
  · exact Spec.pure fun _ h => h.1
  · split
    · exact Spec.pure fun _ h => h.1
    · exact Spec.modify fun _ h => h.1

theorem onRoutes_keeps {α : Type} {body : RouteBody α} :
    KeepsConfig (onRoutes body) := by
  intro C w h
  unfold onRoutes
  cases body w.routeLog with
  | ok a log => exact h
  | error e log => trivial

theorem applyRoutes_keeps {interfaceName : String} :
    KeepsConfig (applyRoutes os interfaceName) := by
  refine fun C => Spec.bind readConfig_spec fun config => ?_
  refine Spec.bind ((onRoutes_keeps C).weaken (fun _ h => h.1)
    (fun _ _ h => h) fun _ h => h) fun applied => ?_
  exact Spec.modify fun _ h => h

theorem startDnsServer_keeps {systemServers : List IpAddr} {directed : Dialer} :
    KeepsConfig (startDnsServer os systemServers directed) := by
  refine fun C => Spec.bind readConfig_spec fun config => ?_
  split
  · exact Spec.pure fun _ h => h.1
  · split
    · exact Spec.pure fun _ h => h.1
    · dsimp only
      split
      · exact Spec.throw fun _ _ => trivial
      · exact Spec.modify fun _ h => h.1

/-! ## The start -/

def Named (config : TunnelConfig) (actual : TunnelConfig) : Prop :=
  ∃ name, actual = { config with interfaceName := name }

theorem openTun_named {config : TunnelConfig} :
    Spec (fun w => w.session.config = config) (openTun crates os)
      (fun _ w => Named config w.session.config) fun _ => True := by
  refine Spec.bind (readConfig_spec) fun read => ?_
  refine Spec.bind (Q := fun _ w => w.session.config = config)
    (Spec.ofExcept (fun _ _ _ h => h.1) fun _ _ => trivial) fun request => ?_
  cases os.createTun request with
  | error source => exact Spec.throw fun _ _ => trivial
  | ok actual =>
      dsimp only
      split
      · exact Spec.pure fun w h => ⟨config.interfaceName, h⟩
      · split
        · refine Spec.bind (Q := fun _ w => Named config w.session.config)
            (Spec.modify fun w h => ⟨actual, ?_⟩) fun _ =>
              Spec.pure fun _ h => h
          exact congrArg (fun c : TunnelConfig =>
            { c with interfaceName := actual }) h
        · exact Spec.throw fun _ _ => trivial

theorem buildVpnTun_resolver {config : TunnelConfig}
    {systemServers : List IpAddr} {directed : Dialer} :
    Spec (fun w => Named config w.session.config)
      (buildVpnTun os systemServers directed)
      (fun tun w => Named config w.session.config ∧
        tun.resolver = sessionResolver os config systemServers directed)
      fun _ => True := by
  refine Spec.bind readConfig_spec fun read => ?_
  cases os.vpnTun with
  | error source => exact Spec.throw fun _ _ => trivial
  | ok device =>
      refine Spec.pure fun w h => ⟨h.1, ?_⟩
      obtain ⟨⟨name, hname⟩, rfl⟩ := h
      rw [hname]
      rfl

theorem buildDevice_tun {config : TunnelConfig} {ctx : OutboundContext}
    {tun : VpnTun} {privateKey : Bytes} {peer : Peer} :
    Spec (fun w => Named config w.session.config)
      (buildDevice os ctx tun privateKey peer)
      (fun _ w => Named config w.session.config ∧
        ∃ device, w.session.device = some device ∧ device.tun = tun ∧
          device.dialer = ctx.directed)
      fun _ => True := by
  refine Spec.bind readConfig_spec fun read => ?_
  split
  · exact Spec.throw fun _ _ => trivial
  · exact Spec.modify fun w h => ⟨h.1, _, rfl, rfl, rfl⟩

theorem build_interface {config : TunnelConfig} {tunName : String}
    {ctx : OutboundContext}
    (h : OutboundContext.build os config.outboundInterface tunName
      config.fullTunnel = .ok ctx) :
    os.resolveInterface config.outboundInterface tunName config.fullTunnel =
      .ok ctx.directed.interface := by
  unfold OutboundContext.build at h
  cases hresolve : os.resolveInterface config.outboundInterface tunName
      config.fullTunnel with
  | error source => simp [hresolve] at h
  | ok interface =>
      cases hservers : os.discoverDns with
      | error source => simp [hresolve, hservers] at h
      | ok servers =>
          simp only [hresolve, hservers, Except.ok.injEq] at h
          subst h
          rfl

theorem startInner_running (config : TunnelConfig) :
    Spec (fun w => w.session.config = config) (startInner crates os)
      (fun _ w => ∃ device, Running os config device w) fun _ => True := by
  have hfail : ∀ {P : World → Prop}, ∀ w, P w → True := fun _ _ => trivial
  refine Spec.bind (readConfig_spec) fun read => ?_
  refine Spec.pre (P := fun w => w.session.config = config ∧ read = config)
    (fun w h => ⟨h.1, h.2.trans h.1⟩) (Spec.extract ?_)
  rintro rfl
  refine Spec.bind_ofExcept (fun privateKey _ => ?_) hfail
  refine Spec.bind openTun_named fun tunName => ?_
  refine Spec.bind_ofExcept (fun ctx hctx => ?_) hfail
  refine Spec.bind
    (Q := fun _ w =>
      Named (read.routeSystemDnsIntoTunnel (capturedServers os read))
      w.session.config) (Spec.modify fun w h => ?_) fun _ => ?_
  · obtain ⟨name, hname⟩ := h
    exact ⟨name, congrArg
      (fun c : TunnelConfig =>
        c.routeSystemDnsIntoTunnel (capturedServers os read)) hname⟩
  refine Spec.bind_ofExcept (fun endpoint _ => ?_) hfail
  refine Spec.bind (Q := fun _ w => Named
    (read.routeSystemDnsIntoTunnel (capturedServers os read)) w.session.config)
    (Spec.weaken (E := fun _ => True) readConfig_spec (fun _ h => h)
      (fun _ _ h => h.1) hfail) fun routed => ?_
  refine Spec.bind_ofExcept (fun peer _ => ?_) hfail
  refine Spec.bind (setupBypass_keeps _) fun _ => ?_
  refine Spec.bind (applyRoutes_keeps _) fun _ => ?_
  refine Spec.bind buildVpnTun_resolver fun tun => Spec.extract fun htun => ?_
  refine Spec.bind (startDnsServer_keeps _) fun _ => ?_
  refine Spec.bind buildDevice_tun fun _ => ?_
  refine Spec.bind readConfig_spec fun last => Spec.modify ?_
  rintro w ⟨⟨⟨name, hname⟩, device, hdevice, rfl, hdialer⟩, -⟩
  have hroutes : w.session.config.routes = sessionRoutes os read := by
    rw [hname]
    rfl
  exact ⟨device, hdevice, hroutes, by rw [hdialer]; exact htun, tunName,
    by rw [hdialer]; exact build_interface hctx⟩

theorem start_running {config : TunnelConfig} {w : World}
    (hstart : start crates os (.new config) = .ok () w) :
    ∃ device, Running os config device w := by
  unfold start at hstart
  cases hrun : startInner crates os (.new config) with
  | ok value started =>
      rw [hrun] at hstart
      cases hstart
      exact (startInner_running config).ok rfl hrun
  | error e failed =>
      rw [hrun] at hstart
      cases hstart

theorem running_of_start {config : TunnelConfig} {device : TunnelDevice}
    {w : World} (hstart : start crates os (.new config) = .ok () w)
    (hdevice : w.session.device = some device) :
    Running os config device w := by
  obtain ⟨held, hheld⟩ := start_running hstart
  have heq : held = device :=
    Option.some.inj (hheld.hasDevice.symm.trans hdevice)
  exact heq ▸ hheld

end Rustylink.Tunnel
