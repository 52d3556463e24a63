import Rustylink.Api.Dot
import Rustylink.Api.Vpn
import Rustylink.Core.Vpn
import Rustylink.Foundation.Fallible

/-!
# VPN config negotiation

The choice of a dot and the requests that ask it for a config.  The replies of
the server and the ranking are inputs: what comes back for a candidate at a
position and an attempt may be anything.  The state is the list of the calls
made so far.
-/

namespace Rustylink.Api

structure VpnConnRequest where
  mode : Option String
  publicKey : String
  otp : Option String
  exportId : Int
  signToken : Option String
  notAuto : Option Bool
  deriving DecidableEq, Repr

end Rustylink.Api

namespace Rustylink.Core

open Rustylink.Foundation Rustylink.Api

def maxDotAttempts : Nat := 3

def maxConfigAttemptsPerDot : Nat := 3

structure VpnConfigRequest where
  mode : VpnConnectMode
  publicKey : String
  locationId : Option Int
  otp : Option String
  signToken : Option String
  notAuto : Bool
  reconnect : Bool
  deriving DecidableEq, Repr

variable {Url Body Json : Type}

structure VpnConfigResult (Url Json : Type) where
  dot : VpnDot
  endpoint : DotEndpoint Url
  response : BaseResponse Json VpnConnResponse
  deriving DecidableEq, Repr

inductive VpnConfigError (Body Json : Type) where
  | api (source : ApiError Body Json)
  | noVpnDots
  | noSupportedVpnDot (mode : String)
  | missingVpnConfigData
  | missingVpnDotListData
  deriving DecidableEq, Repr

/-- A call to the tenant, to the ranking, or to the dot at an endpoint. -/
inductive DotCall (Url : Type) where
  | locations
  | rank (candidates : List VpnDot)
  | conn (endpoint : DotEndpoint Url) (body : VpnConnRequest)
  deriving DecidableEq, Repr

/--
What the calls come back with; `conn` by the candidate's position and the
attempt.
-/
structure DotWorld (Body Json : Type) where
  locations : Except (ApiError Body Json) (BaseResponse Json (List VpnDot))
  rank : List VpnDot → List VpnDot
  conn : Nat → Nat → Except (ApiError Body Json)
    (BaseResponse Json VpnConnResponse)

abbrev Negotiation (Url Body Json : Type) :=
  EStateM (VpnConfigError Body Json) (List (DotCall Url))

/-! ## Selection -/

namespace VpnConfigRequest

/-- The dots that the request allows, in the order of the list. -/
def candidates (request : VpnConfigRequest)
    (dots : List VpnDot) : List VpnDot :=
  dots.filter fun dot =>
    request.locationId.all (fun preferred => dot.id = some preferred) &&
      dot.supportsAndroidMode request.mode.androidId &&
        (!request.reconnect || dot.supportsReconnect)

def ranks (request : VpnConfigRequest) (candidates : List VpnDot) : Bool :=
  request.locationId.isNone && 1 < candidates.length

def connRequest (request : VpnConfigRequest) (dot : VpnDot) :
    VpnConnRequest where
  mode := some request.mode.androidName
  publicKey := request.publicKey
  otp := request.otp
  exportId := dot.id.getD 0
  signToken := request.signToken
  notAuto := some request.notAuto

end VpnConfigRequest

def DotWorld.tried (world : DotWorld Body Json) (request : VpnConfigRequest)
    (dots : List VpnDot) : List VpnDot :=
  let candidates := request.candidates dots
  (if request.ranks candidates then world.rank candidates else candidates).take
    maxDotAttempts

variable (parseUrl : String → Option Url)

def VpnConfigRequest.endpoint (request : VpnConfigRequest) (dot : VpnDot) :
    Except (ApiError Body Json) (DotEndpoint Url) :=
  DotEndpoint.fromDot parseUrl dot
    (dot.shouldUseVpnIpForConfigApi !request.notAuto)

/-! ## Requests -/

def call (event : DotCall Url) : Negotiation Url Body Json Unit :=
  modify (· ++ [event])

def orApi {α : Type} :
    Except (ApiError Body Json) α → Negotiation Url Body Json α
  | .ok a => pure a
  | .error source => throw (.api source)

/-- Ask a dot until a reply comes; without one, the last error is handed on. -/
def requestConfig
    (answer :
      Nat → Except (ApiError Body Json) (BaseResponse Json VpnConnResponse))
    (endpoint : DotEndpoint Url) (body : VpnConnRequest) :
    List Nat → Option (ApiError Body Json) →
      Negotiation Url Body Json
        (BaseResponse Json VpnConnResponse ⊕ Option (ApiError Body Json))
  | [], lastError => pure (.inr lastError)
  | attempt :: attempts, _ => do
      call (.conn endpoint body)
      match answer attempt with
      | .ok response => pure (.inl response)
      | .error source =>
          requestConfig answer endpoint body attempts (some source)

def attempts : List Nat := List.range' 1 maxConfigAttemptsPerDot

def tryDots (answers : Nat → Nat →
    Except (ApiError Body Json) (BaseResponse Json VpnConnResponse))
    (request : VpnConfigRequest) :
    Nat → List VpnDot → Option (ApiError Body Json) →
      Negotiation Url Body Json (VpnConfigResult Url Json)
  | _, [], some source => throw (.api source)
  | _, [], none => throw (.noSupportedVpnDot request.mode.androidName)
  | position, dot :: dots, lastError => do
      let endpoint ← orApi (request.endpoint parseUrl dot)
      match ← requestConfig (answers position) endpoint
        (request.connRequest dot) attempts
          lastError with
      | .inl response =>
          match response.data with
          | some _ => return ⟨dot, endpoint, response⟩
          | none => throw .missingVpnConfigData
      | .inr lastError => tryDots answers request (position + 1) dots lastError

def vpnConfigFromDotList (world : DotWorld Body Json)
    (request : VpnConfigRequest) :
    Negotiation Url Body Json (VpnConfigResult Url Json) := do
  call .locations
  let locations ← orApi world.locations
  match locations.data with
  | none => throw .missingVpnDotListData
  | some dots =>
      if dots = [] then throw .noVpnDots
      let candidates := request.candidates dots
      if candidates = [] then throw (.noSupportedVpnDot request.mode.androidName)
      if request.ranks candidates then call (.rank candidates)
      tryDots parseUrl world.conn request 0 (world.tried request dots) none

def dotExample (ip : String) (apiPort : Option Int) : VpnDot where
  id := some 7
  ip := ip
  apiIp := none
  apiPort := apiPort
  vpnPort := some 51820
  mode := none
  fastIp := none
  ip4Domain := none
  reconnect := none
  exclude := none
  dedicated := none
  ipDelayRoutingPolicy := none

def configExample : BaseResponse Unit VpnConnResponse :=
  .ofData (some (.ofSetting "10.0.0.2" "key" (.ofMtu 1400)))

def requestExample : VpnConfigRequest :=
  ⟨.full, "key", none, none, none, false, false⟩

end Rustylink.Core
