import Rustylink.Foundation.Text

/-!
# Daemon configuration

The settings persisted in `config.json` and the partial update that
`UpdateConfiguration` applies to them under the daemon's lock.
-/

namespace Rustylink.Daemon

open Rustylink.Foundation

structure DeviceIdentityConfig where
  deviceId : String
  os : Option String
  osVersion : Option String
  appVersion : Option String
  brand : Option String
  model : Option String
  buildNumber : Option String
  osVersionPatch : Option String
  clientSource : Option String
  language : Option String
  userAgent : Option String
  deriving DecidableEq, Repr

structure DaemonConfig where
  identity : DeviceIdentityConfig
  outboundInterface : Option String
  fallbackDns : Option (List String)
  tunInterface : Option String
  autoReconnect : Bool
  dnsListenPort : Option Nat
  dnsListenHost : Option String
  routeSystemDns : Option Bool
  deriving DecidableEq, Repr

def DeviceIdentityConfig.default : DeviceIdentityConfig where
  deviceId := ""
  os := none
  osVersion := none
  appVersion := none
  brand := none
  model := none
  buildNumber := none
  osVersionPatch := none
  clientSource := none
  language := none
  userAgent := none

def DaemonConfig.default : DaemonConfig where
  identity := .default
  outboundInterface := none
  fallbackDns := none
  tunInterface := none
  autoReconnect := false
  dnsListenPort := none
  dnsListenHost := none
  routeSystemDns := none

inductive Selector where
  | auto
  | name (name : String)
  deriving DecidableEq, Repr

/-- The `Configuration` message; an absent field is left untouched. -/
structure Configuration where
  outboundInterface : Option Selector
  autoReconnectOnStart : Option Bool
  dnsListenPort : Option Nat
  tunInterface : Option String
  dnsListenHost : Option String
  routeSystemDns : Option Bool
  deriving DecidableEq, Repr

def Configuration.empty : Configuration where
  outboundInterface := none
  autoReconnectOnStart := none
  dnsListenPort := none
  tunInterface := none
  dnsListenHost := none
  routeSystemDns := none

def selectOutbound (name : String) : Configuration :=
  { Configuration.empty with outboundInterface := some (.name name) }

def Selector.outboundName : Selector → Option String
  | .name value => if value = "" then none else some value
  | .auto => none

def nonBlank (value : String) : Option String :=
  let value := trim value
  if value = "" then none else some value

/-- The lock-held section of `MetaServiceImpl::update_configuration`. -/
def DaemonConfig.update (config : DaemonConfig) (u : Configuration) :
    DaemonConfig where
  identity := config.identity
  outboundInterface :=
    match u.outboundInterface with
    | some selector => selector.outboundName
    | none => config.outboundInterface
  fallbackDns := config.fallbackDns
  tunInterface :=
    match u.tunInterface with
    | some tun => nonBlank tun
    | none => config.tunInterface
  autoReconnect := u.autoReconnectOnStart.getD config.autoReconnect
  dnsListenPort :=
    match u.dnsListenPort with
    | some port => if port > 0 then some port else none
    | none => config.dnsListenPort
  dnsListenHost :=
    match u.dnsListenHost with
    | some host => nonBlank host
    | none => config.dnsListenHost
  routeSystemDns :=
    match u.routeSystemDns with
    | some routeSystemDns => some routeSystemDns
    | none => config.routeSystemDns

def DaemonConfig.toConfigurationProto (config : DaemonConfig) :
    Configuration where
  outboundInterface :=
    match config.outboundInterface with
    | none => some .auto
    | some name => some (.name name)
  autoReconnectOnStart := some config.autoReconnect
  dnsListenPort := config.dnsListenPort
  tunInterface := config.tunInterface
  dnsListenHost := config.dnsListenHost
  routeSystemDns := some (config.routeSystemDns.getD true)

end Rustylink.Daemon
