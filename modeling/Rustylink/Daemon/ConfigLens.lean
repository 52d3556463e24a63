import Rustylink.Daemon.Config
import Rustylink.Foundation.PartialUpdate
import Rustylink.Foundation.Transition
import Rustylink.Foundation.Trimming
import Rustylink.Tunnel.Session

/-!
# Partial updates of the configuration

Every field of an update is a setting of its own, with its own normal form and
its own way of being shown.  The laws of one setting give those of the whole
configuration.
-/

namespace Rustylink.Daemon

open Rustylink.Foundation Rustylink.Tunnel

/-! ## The settings -/

def outboundSetting : Setting Selector (Option String) where
  normal := Selector.outboundName
  shown := fun name =>
    match name with
    | none => some .auto
    | some name => some (.name name)

def textSetting : Setting String (Option String) := ⟨nonBlank, id⟩

theorem textSetting_normal : textSetting.normal = nonBlank := by
    rw [textSetting]

theorem textSetting_shown (value : Option String) :
    textSetting.shown value = value := rfl

def portSetting : Setting Nat (Option Nat) :=
  ⟨fun port => if port > 0 then some port else none, id⟩

def autoReconnectSetting : Setting Bool Bool := ⟨id, some⟩

def routeSystemDnsSetting : Setting Bool (Option Bool) :=
  ⟨some, fun route => some (route.getD true)⟩

theorem update_eq (config : DaemonConfig) (u : Configuration) :
    config.update u =
      { config with
        outboundInterface :=
          outboundSetting.put u.outboundInterface config.outboundInterface
        tunInterface := textSetting.put u.tunInterface config.tunInterface
        autoReconnect :=
          autoReconnectSetting.put u.autoReconnectOnStart config.autoReconnect
        dnsListenPort := portSetting.put u.dnsListenPort config.dnsListenPort
        dnsListenHost := textSetting.put u.dnsListenHost config.dnsListenHost
        routeSystemDns := routeSystemDnsSetting.put u.routeSystemDns
            config.routeSystemDns } := by
  obtain ⟨outbound, auto, port, tun, host, route⟩ := u
  rw [DaemonConfig.update, DaemonConfig.mk.injEq]
  refine ⟨rfl, ?_, rfl, ?_, ?_, ?_, ?_, ?_⟩
  · cases outbound <;> rfl
  · cases tun with
    | none => rfl
    | some tun => rw [Setting.put_some, textSetting_normal]
  · cases auto <;> rfl
  · cases port <;> rfl
  · cases host with
    | none => rfl
    | some host => rw [Setting.put_some, textSetting_normal]
  · cases route <;> rfl

theorem nonBlank_eq_some {text value : String} :
    nonBlank text = some value ↔ value = trim text ∧ value ≠ "" := by
  unfold nonBlank
  dsimp only
  split
  · rename_i hblank
    constructor
    · intro h
      cases h
    · rintro ⟨rfl, hne⟩
      exact absurd hblank hne
  · rename_i hblank
    constructor
    · intro h
      cases h
      exact ⟨rfl, hblank⟩
    · rintro ⟨rfl, -⟩
      rfl

theorem nonBlank_nonBlank {text value : String}
    (h : nonBlank text = some value) :
    nonBlank value = some value := by
  obtain ⟨rfl, hne⟩ := nonBlank_eq_some.mp h
  exact nonBlank_eq_some.mpr ⟨(trim_trim text).symm, hne⟩

/-! ## What updates keep -/

structure DaemonConfig.Normal (config : DaemonConfig) : Prop where
  outbound : config.outboundInterface ≠ some ""
  tun : ∀ name ∈ config.tunInterface, nonBlank name = some name
  host : ∀ host ∈ config.dnsListenHost, nonBlank host = some host
  port : config.dnsListenPort ≠ some 0

theorem normal_default : DaemonConfig.default.Normal := by
  constructor <;> simp [DaemonConfig.default]

theorem DaemonConfig.Normal.update {config : DaemonConfig} (h : config.Normal)
    (u : Configuration) : (config.update u).Normal := by
  have htext : ∀ text, ∀ name ∈ textSetting.normal text,
      nonBlank name = some name :=
    by
      intro text name hname
      rw [textSetting_normal] at hname
      exact nonBlank_nonBlank hname
  rw [update_eq]
  constructor
  · refine outboundSetting.put_of (P := fun stored => stored ≠ some "")
      (fun selector => ?_) h.outbound u.outboundInterface
    show selector.outboundName ≠ some ""
    unfold Selector.outboundName
    split
    · split <;> simp_all
    · simp
  · exact textSetting.put_of (P := fun stored => ∀ name ∈ stored,
      nonBlank name = some name) htext h.tun u.tunInterface
  · exact textSetting.put_of (P := fun stored => ∀ name ∈ stored,
      nonBlank name = some name) htext h.host u.dnsListenHost
  · refine portSetting.put_of (P := fun stored => stored ≠ some 0)
      (fun port => ?_) h.port u.dnsListenPort
    show (if port > 0 then some port else none) ≠ some 0
    split <;> simp
    omega

def configStep (config : DaemonConfig)
    (u : Configuration) : Option DaemonConfig :=
  some (config.update u)

def DaemonConfig.Reached : DaemonConfig → Prop :=
  Reachable configStep (· = .default)

theorem DaemonConfig.Reached.normal {config : DaemonConfig}
    (h : config.Reached) :
    config.Normal := by
  refine h.invariant ?_ ?_
  · rintro _ rfl
    exact normal_default
  · intro s u s' hs hstep
    cases hstep
    exact hs.update u

/-! ## The laws -/

structure KeepsAbsent (config : DaemonConfig) (u : Configuration)
    (updated : DaemonConfig) : Prop where
  identity : updated.identity = config.identity
  fallbackDns : updated.fallbackDns = config.fallbackDns
  outbound : u.outboundInterface = none →
    updated.outboundInterface = config.outboundInterface
  tun : u.tunInterface = none → updated.tunInterface = config.tunInterface
  autoReconnect : u.autoReconnectOnStart = none →
    updated.autoReconnect = config.autoReconnect
  port : u.dnsListenPort = none → updated.dnsListenPort = config.dnsListenPort
  host : u.dnsListenHost = none → updated.dnsListenHost = config.dnsListenHost
  routeSystemDns : u.routeSystemDns = none →
    updated.routeSystemDns = config.routeSystemDns

theorem update_keepsAbsent (config : DaemonConfig) (u : Configuration) :
    KeepsAbsent config u (config.update u) := by
  rw [update_eq]
  constructor <;> simp +contextual

theorem update_update (config : DaemonConfig) (u : Configuration) :
    (config.update u).update u = config.update u := by
  simp [update_eq]

structure ReadsBack (u shown : Configuration) : Prop where
  outbound : ∀ selector ∈ u.outboundInterface,
    shown.outboundInterface =
      some (if selector = .name "" then .auto else selector)
  tun : ∀ name ∈ u.tunInterface,
    shown.tunInterface = if trim name = "" then none else some (trim name)
  autoReconnect : ∀ auto ∈ u.autoReconnectOnStart, shown.autoReconnectOnStart =
    some auto
  port : ∀ port ∈ u.dnsListenPort, shown.dnsListenPort =
    if port = 0 then none else some port
  host : ∀ host ∈ u.dnsListenHost,
    shown.dnsListenHost = if trim host = "" then none else some (trim host)
  routeSystemDns : ∀ route ∈ u.routeSystemDns, shown.routeSystemDns = some route

theorem toConfigurationProto_eq (config : DaemonConfig) :
    config.toConfigurationProto =
      ⟨outboundSetting.shown config.outboundInterface,
        autoReconnectSetting.shown config.autoReconnect,
        portSetting.shown config.dnsListenPort,
        textSetting.shown config.tunInterface,
        textSetting.shown config.dnsListenHost,
        routeSystemDnsSetting.shown config.routeSystemDns⟩ := rfl

theorem update_readsBack (config : DaemonConfig) (u : Configuration) :
    ReadsBack u (config.update u).toConfigurationProto := by
  rw [toConfigurationProto_eq, update_eq]
  constructor
  · rintro selector hselector
    dsimp only
    rw [Option.mem_def.mp hselector, Setting.put_some]
    cases selector with
    | auto => rfl
    | name name =>
        by_cases hempty : name = ""
        · simp [outboundSetting, Selector.outboundName, hempty]
        · simp [outboundSetting, Selector.outboundName, hempty]
  · rintro name hname
    dsimp only
    rw [Option.mem_def.mp hname, Setting.put_some, textSetting_normal,
      textSetting_shown, nonBlank]
  · rintro auto hauto
    dsimp only
    rw [Option.mem_def.mp hauto, Setting.put_some]
    rfl
  · rintro port hport
    dsimp only
    rw [Option.mem_def.mp hport, Setting.put_some]
    cases port <;> rfl
  · rintro host hhost
    dsimp only
    rw [Option.mem_def.mp hhost, Setting.put_some, textSetting_normal,
      textSetting_shown, nonBlank]
  · rintro route hroute
    dsimp only
    rw [Option.mem_def.mp hroute, Setting.put_some]
    rfl

/-! ## What the settings come to -/

def DaemonConfig.sessionSettings (config : DaemonConfig) : SessionSettings where
  outboundInterface := config.outboundInterface
  tunInterface := config.tunInterface
  dnsListenPort := config.dnsListenPort
  dnsListenHost := config.dnsListenHost
  fallbackDns := config.fallbackDns
  routeSystemDns := config.routeSystemDns

structure SameEffect (config config' : DaemonConfig) : Prop where
  outbound : config'.outboundInterface = config.outboundInterface
  session : ∀ base : TunnelConfig,
    base.withSettings config'.sessionSettings =
      base.withSettings config.sessionSettings
  autoReconnect : config'.autoReconnect = config.autoReconnect

theorem DaemonConfig.Normal.writeBack {config : DaemonConfig}
    (h : config.Normal) :
    config.update config.toConfigurationProto = { config with
      routeSystemDns := some (config.routeSystemDns.getD true) } := by
  have houtbound :
      outboundSetting.put (outboundSetting.shown config.outboundInterface)
        config.outboundInterface = config.outboundInterface := by
    refine outboundSetting.put_shown _ fun selector hshown => ?_
    have hne := h.outbound
    cases hname : config.outboundInterface <;> rw [hname] at hshown hne <;>
      cases hshown
    · rfl
    · show (if _ then _ else _) = _
      rw [if_neg fun hempty => hne (congrArg some hempty)]
  have htext (stored : Option String)
      (hstored : ∀ text ∈ stored, nonBlank text = some text) :
      textSetting.put (textSetting.shown stored) stored = stored := by
    refine textSetting.put_shown stored fun text hshown => ?_
    rw [textSetting_shown] at hshown
    rw [textSetting_normal, hshown]
    exact hstored text hshown
  have hport := portSetting.put_shown config.dnsListenPort fun port hshown => by
    have hne := h.port
    rw [show config.dnsListenPort = some port from hshown] at hne ⊢
    exact if_pos (Nat.pos_of_ne_zero fun hzero => hne (congrArg some hzero))
  rw [toConfigurationProto_eq, update_eq]
  dsimp only
  rw [houtbound, htext _ h.tun, htext _ h.host, hport]
  rfl

theorem DaemonConfig.Normal.sameEffect {config : DaemonConfig}
    (h : config.Normal) :
    SameEffect config (config.update config.toConfigurationProto) := by
  rw [h.writeBack]
  exact ⟨rfl, fun base => rfl, rfl⟩

/--
The laws of a partial update, from every configuration that updates lead to.
-/
theorem config_lens {config : DaemonConfig} (h : config.Reached)
    (u : Configuration) :
    KeepsAbsent config u (config.update u) ∧
      (config.update u).update u = config.update u ∧
      ReadsBack u (config.update u).toConfigurationProto ∧
      SameEffect config (config.update config.toConfigurationProto) :=
  ⟨update_keepsAbsent config u, update_update config u,
    update_readsBack config u, h.normal.sameEffect⟩

theorem reached_update_default (u : Configuration) :
    (DaemonConfig.default.update u).Reached :=
  ⟨.default, [u], rfl, rfl⟩

def listenerUpdate (host : String) (port : Nat) : Configuration :=
  { Configuration.empty with
    dnsListenHost := some host
    dnsListenPort := some port }

theorem config_lens_listener :
    let config :=
      DaemonConfig.default.update (listenerUpdate " 127.0.0.1 " 5353)
    let u := { Configuration.empty with
      tunInterface := some " wg1"
      dnsListenPort := some 0 }
    KeepsAbsent config u (config.update u) ∧
      (config.update u).update u = config.update u ∧
      ReadsBack u (config.update u).toConfigurationProto ∧
      SameEffect config (config.update config.toConfigurationProto) :=
  config_lens (reached_update_default _) _

theorem outbound_name_untrimmed :
    (DaemonConfig.default.update
      (selectOutbound " en0 ")).toConfigurationProto.outboundInterface =
        some (.name " en0 ") ∧
      trim " en0 " = "en0" ∧
      (DaemonConfig.default.update
        (selectOutbound " ")).toConfigurationProto.outboundInterface =
        some (.name " ") := by
  decide +kernel

end Rustylink.Daemon
