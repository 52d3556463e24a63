import Rustylink.Api.Client
import Rustylink.Foundation.NetText
import Rustylink.Foundation.Text

/-!
# VPN dots

An access point as the server lists it, and the endpoint that is made of it.
`parseUrl` is the parser of the URL library, and `Url` its type.
-/

namespace Rustylink.Api

open Rustylink.Foundation

structure IpDelayRoutingPolicy where
  isOperator : Option Bool
  policyType : Option Int
  deriving DecidableEq, Repr

def IpDelayRoutingPolicy.operator : Int := 1

def IpDelayRoutingPolicy.isOperatorRouting
    (policy : IpDelayRoutingPolicy) : Bool :=
  policy.isOperator.getD false && policy.policyType = some operator

structure VpnDot where
  id : Option Int
  ip : String
  apiIp : Option String
  apiPort : Option Int
  vpnPort : Option Int
  mode : Option Int
  fastIp : Option String
  ip4Domain : Option String
  reconnect : Option Bool
  exclude : Option Bool
  dedicated : Option Bool
  ipDelayRoutingPolicy : Option IpDelayRoutingPolicy
  deriving DecidableEq, Repr

def modeFull : Int := 0

def modeSplit : Int := 1

namespace VpnDot

def apiHost (dot : VpnDot) : String :=
  (dot.ip4Domain.filter (· ≠ "") <|> dot.fastIp.filter (· ≠ "") <|>
    dot.apiIp.filter (· ≠ "")).getD dot.ip

def shouldUseVpnIpForConfigApi (dot : VpnDot) (isAutoLocation : Bool) : Bool :=
  if isAutoLocation || dot.ip = "" then false
  else dot.ipDelayRoutingPolicy.any IpDelayRoutingPolicy.isOperatorRouting

def supportsReconnect (dot : VpnDot) : Bool :=
  dot.reconnect.getD false && !dot.dedicated.getD false &&
    !dot.exclude.getD false

def supportsAndroidMode (dot : VpnDot) (requestedMode : Int) : Bool :=
  !(dot.mode = some modeSplit && requestedMode = modeFull)

end VpnDot

/-! ## Endpoints -/

structure DotEndpoint (Url : Type) where
  apiBaseUrl : Url
  wireguardEndpoint : Url
  deriving DecidableEq, Repr

variable {Url Body Json : Type} (parseUrl : String → Option Url)

def parseBaseUrl (value : String) : Except (ApiError Body Json) Url :=
  match parseUrl value with
  | some url => .ok url
  | none => .error (.invalidBaseUrl value)

/-- Bare IPv6 literals are put in brackets. -/
def urlFromHostPort (scheme host : String) (port : Int) :
    Except (ApiError Body Json) Url :=
  if 1 ≤ port ∧ port ≤ 65535 then
    let host := trim host
    if host = "" then .error (.missingVpnDotField "host")
    else
      let authority :=
        if (Ipv6Addr.parse host).isSome then "[" ++ host ++ "]" else host
      parseBaseUrl parseUrl (scheme ++ "://" ++ authority ++ ":" ++
        toString port ++ "/")
  else .error (.invalidPort port)

def required {α : Type} (field : String) :
    Option α → Except (ApiError Body Json) α
  | some value => .ok value
  | none => .error (.missingVpnDotField field)

def DotEndpoint.fromDot (dot : VpnDot) (useVpnIpForApi : Bool) :
    Except (ApiError Body Json) (DotEndpoint Url) := do
  let apiPort ← required "api_port" dot.apiPort
  let vpnPort ← required "vpn_port" dot.vpnPort
  let apiHost := if useVpnIpForApi then dot.ip else dot.apiHost
  let apiBaseUrl ← urlFromHostPort parseUrl "https" apiHost apiPort
  let wireguardEndpoint ← urlFromHostPort parseUrl "udp" dot.ip vpnPort
  return ⟨apiBaseUrl, wireguardEndpoint⟩

theorem urlFromHostPort_ok {scheme host : String} {port : Int} {url : Url}
    (h : (urlFromHostPort parseUrl scheme host port :
      Except (ApiError Body Json) Url) = .ok url) :
    1 ≤ port ∧ port ≤ 65535 ∧ trim host ≠ "" ∧
      parseUrl (scheme ++ "://" ++ (if (Ipv6Addr.parse (trim host)).isSome then
        "[" ++ trim host ++ "]" else trim host) ++ ":" ++ toString port ++
          "/") = some url := by
  unfold urlFromHostPort at h
  split at h
  · rename_i hport
    dsimp only at h
    split at h
    · cases h
    · rename_i hhost
      unfold parseBaseUrl at h
      split at h
      · rename_i hparse
        cases h
        exact ⟨hport.1, hport.2, hhost, hparse⟩
      · cases h
  · cases h

theorem required_ok {α : Type} {field : String} {value : Option α} {a : α}
    (h : (required field value : Except (ApiError Body Json) α) = .ok a) :
    value = some a := by
  cases value with
  | some b =>
      cases h
      rfl
  | none => cases h

theorem DotEndpoint.fromDot_urls {dot : VpnDot} {useVpnIpForApi : Bool}
    {endpoint : DotEndpoint Url}
    (h : (fromDot parseUrl dot useVpnIpForApi : Except (ApiError Body Json) _) =
      .ok endpoint) :
    ∃ apiPort vpnPort, dot.apiPort = some apiPort ∧ dot.vpnPort = some vpnPort ∧
      (urlFromHostPort parseUrl "https"
        (if useVpnIpForApi then dot.ip else dot.apiHost) apiPort :
        Except (ApiError Body Json) Url) = .ok endpoint.apiBaseUrl ∧
      (urlFromHostPort parseUrl "udp" dot.ip vpnPort : Except
        (ApiError Body Json) Url) = .ok endpoint.wireguardEndpoint := by
  simp only [fromDot, bind, Except.bind] at h
  split at h
  · cases h
  · rename_i apiPort hapi
    split at h
    · cases h
    · rename_i vpnPort hvpn
      split at h
      · cases h
      · rename_i apiUrl hapiUrl
        split at h
        · cases h
        · rename_i wireguardUrl hwireguardUrl
          cases h
          exact ⟨apiPort, vpnPort, required_ok hapi, required_ok hvpn, hapiUrl,
            hwireguardUrl⟩

end Rustylink.Api
