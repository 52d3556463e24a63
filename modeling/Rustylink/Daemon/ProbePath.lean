import Rustylink.Daemon.DotClient
import Rustylink.Tunnel.Endpoint

/-!
# The path of a probe

A dot is probed at the endpoint that is made of it, and asked for a config at
the endpoint that the request makes of it.  The two differ in the flag with
which the host of the API is chosen.
-/

namespace Rustylink.Daemon

open Rustylink.Foundation Rustylink.Api Rustylink.Core Rustylink.Tunnel

variable {Url Body Json : Type} (parseUrl : String → Option Url)

def configRequest (request : VpnRequest) (publicKey : String)
    (otp : Option String) :
    VpnConfigRequest where
  mode := request.mode
  publicKey := publicKey
  locationId := request.locationId
  otp := otp
  signToken := none
  notAuto := true
  reconnect := request.reconnect

def probeEndpoint (dot : VpnDot) :
    Except (ApiError Body Json) (DotEndpoint Url) :=
  DotEndpoint.fromDot parseUrl dot false

/--
The client of the config request at an endpoint, and the one that probes a dot.
-/
def dotClientBuilders (Body Json : Type) (crate : UrlCrate Url)
    (pool : HttpClient) (vpnDomain : Option String)
    (parts : Option ResolverParts) :
    (DotEndpoint Url → ApiClient Url) × (VpnDot → Option (ApiClient Url)) :=
  let config :=
    fun endpoint => buildDotApiClient crate endpoint pool vpnDomain parts
  (config, fun dot =>
    (probeEndpoint crate.parse dot : Except (ApiError Body Json) _).toOption.map
      config)

/--
The address of the node and the host of the API are two texts of one API URL.
-/
def SameApiUrl (Body Json : Type) (dot : VpnDot) : Prop :=
  ∀ port, dot.apiPort = some port →
    (urlFromHostPort parseUrl "https" dot.ip port : Except (ApiError Body Json)
      Url) = urlFromHostPort parseUrl "https" dot.apiHost port

variable {parseUrl} {dot : VpnDot}

theorem fromDot_of_wireguard {apiPort vpnPort : Int} {wireguard : Url}
    (hapi : dot.apiPort = some apiPort) (hvpn : dot.vpnPort = some vpnPort)
    (hwireguard : (urlFromHostPort parseUrl "udp" dot.ip vpnPort :
      Except (ApiError Body Json) Url) = .ok wireguard)
        (useVpnIpForApi : Bool) :
    (DotEndpoint.fromDot parseUrl dot useVpnIpForApi : Except
      (ApiError Body Json) _) =
      (urlFromHostPort parseUrl "https"
        (if useVpnIpForApi then dot.ip else dot.apiHost)
        apiPort).map fun url => ⟨url, wireguard⟩ := by
  simp only [DotEndpoint.fromDot, hapi, hvpn, required, bind,
    Except.bind, hwireguard]
  cases (urlFromHostPort parseUrl "https"
    (if useVpnIpForApi then dot.ip else dot.apiHost)
    apiPort : Except (ApiError Body Json) Url) <;> rfl

theorem map_endpoint_inj {ε : Type} {wireguard : Url} {a b : Except ε Url}
    (h : (a.map fun url => DotEndpoint.mk url wireguard) =
      b.map fun url => DotEndpoint.mk url wireguard) : a = b := by
  cases a <;> cases b <;> cases h <;> rfl

theorem fromDot_eq_iff {endpoint : DotEndpoint Url} {useVpnIpForApi : Bool}
    (h : (DotEndpoint.fromDot parseUrl dot useVpnIpForApi : Except
      (ApiError Body Json) _) = .ok endpoint) :
    (DotEndpoint.fromDot parseUrl dot false : Except (ApiError Body Json) _) =
        DotEndpoint.fromDot parseUrl dot true ↔
      SameApiUrl parseUrl Body Json dot := by
  obtain ⟨apiPort, vpnPort, hapi, hvpn, -, hwireguard⟩ :=
    DotEndpoint.fromDot_urls parseUrl h
  rw [fromDot_of_wireguard hapi hvpn hwireguard,
    fromDot_of_wireguard hapi hvpn hwireguard]
  constructor
  · intro hsame port hport
    obtain rfl : apiPort = port := Option.some.inj (hapi.symm.trans hport)
    exact (map_endpoint_inj hsame).symm
  · intro hsame
    have hurl := hsame apiPort hapi
    simp [hurl]

theorem probe_client {crate : UrlCrate Url} {pool : HttpClient}
    {vpnDomain : Option String} {parts : Option ResolverParts}
    {endpoint : DotEndpoint Url}
    (h : (probeEndpoint crate.parse dot : Except (ApiError Body Json) _) =
      .ok endpoint) :
    (dotClientBuilders Body Json crate pool vpnDomain parts).2 dot =
      some ((dotClientBuilders Body Json crate pool vpnDomain parts).1
        endpoint) := by
  simp [dotClientBuilders, h, Except.toOption]

theorem probe_endpoint_iff (request : VpnRequest) (publicKey : String)
    (otp : Option String) {endpoint : DotEndpoint Url}
    (h : (probeEndpoint parseUrl dot : Except (ApiError Body Json) _) =
      .ok endpoint ∨
      ((configRequest request publicKey otp).endpoint parseUrl dot :
        Except (ApiError Body Json) _) = .ok endpoint) :
    (probeEndpoint parseUrl dot : Except (ApiError Body Json) _) =
        (configRequest request publicKey otp).endpoint parseUrl dot ↔
      dot.shouldUseVpnIpForConfigApi false = false ∨
        SameApiUrl parseUrl Body Json dot := by
  have hbuilt : ∃ flag,
      (DotEndpoint.fromDot parseUrl dot flag : Except (ApiError Body Json) _) =
      .ok endpoint := h.elim (fun hprobe => ⟨_, hprobe⟩) fun hconfig =>
        ⟨_, hconfig⟩
  obtain ⟨flag, hflag⟩ := hbuilt
  have hconfig : ((configRequest request publicKey otp).endpoint parseUrl dot :
      Except (ApiError Body Json) _) =
        DotEndpoint.fromDot parseUrl dot
          (dot.shouldUseVpnIpForConfigApi false) := rfl
  rw [hconfig, probeEndpoint]
  cases hrouting : dot.shouldUseVpnIpForConfigApi false with
  | false => simp
  | true => simp [fromDot_eq_iff hflag]

/--
The client that probes a dot is the one that the config request would use at
the endpoint of the probe.  For the requests of a connect attempt that is the
endpoint of the config request exactly when operator routing does not choose
the address of the node, or chooses what is the same URL.
-/
theorem probe_path_iff (crate : UrlCrate Url) (pool : HttpClient)
    (vpnDomain : Option String) (parts : Option ResolverParts)
    (request : VpnRequest) (publicKey : String)
    (otp : Option String) (dot : VpnDot) {endpoint : DotEndpoint Url}
    (h : (probeEndpoint crate.parse dot : Except (ApiError Body Json) _) =
      .ok endpoint ∨
      ((configRequest request publicKey otp).endpoint crate.parse dot :
        Except (ApiError Body Json) _) = .ok endpoint) :
    (∀ timed, (probeEndpoint crate.parse dot : Except (ApiError Body Json) _) =
      .ok timed →
      (dotClientBuilders Body Json crate pool vpnDomain parts).2 dot =
        some ((dotClientBuilders Body Json crate pool vpnDomain parts).1
          timed)) ∧
    ((probeEndpoint crate.parse dot : Except (ApiError Body Json) _) =
        (configRequest request publicKey otp).endpoint crate.parse dot ↔
      dot.shouldUseVpnIpForConfigApi false = false ∨
        SameApiUrl crate.parse Body Json dot) :=
  ⟨fun _ htimed => probe_client htimed,
    probe_endpoint_iff request publicKey otp h⟩

def operatorDot : VpnDot :=
  { dotExample "192.0.2.1" (some 8443) with
    apiIp := some "192.0.2.9"
    ipDelayRoutingPolicy := some ⟨some true, some 1⟩ }

theorem operator_dot_probed_elsewhere :
    ¬ ∀ (request : VpnRequest) (publicKey : String) (otp : Option
      String) (dot : VpnDot) (endpoint : DotEndpoint Dns.Url),
      (probeEndpoint parseEndpointUrl dot : Except (ApiError Unit Unit) _) =
        .ok endpoint →
        ((configRequest request publicKey otp).endpoint parseEndpointUrl dot :
          Except (ApiError Unit Unit) _) = .ok endpoint := by
  intro h
  have hprobe := h .default "key" none operatorDot
    ⟨⟨"https", "/", some (.ipv4 (Ipv4Addr.new 192 0 2 9)), some 8443⟩,
      ⟨"udp", "/", some (.domain "192.0.2.1"), some 51820⟩⟩ (by decide +kernel)
  revert hprobe
  decide +kernel

def hostText : Dns.Host → String
  | .domain domain => domain
  | .ipv4 address => Ipv4Addr.display address
  | .ipv6 address => "[" ++ Ipv6Addr.display address ++ "]"

def endpointCrate : UrlCrate Dns.Url where
  parse := parseEndpointUrl
  scheme := Dns.Url.scheme
  hostStr url := url.host.map hostText
  portOrKnownDefault url := url.port.or (defaultPort url.scheme)
  uri url := ⟨some url.scheme, url.host.map hostText, url.port⟩

theorem frontend_dot_probed :
    let dot := { operatorDot with ipDelayRoutingPolicy := none }
    (probeEndpoint parseEndpointUrl dot : Except (ApiError Unit Unit) _) =
      (configRequest .default "key" none).endpoint parseEndpointUrl dot := by
  intro dot
  have hbuilt :
      (probeEndpoint parseEndpointUrl dot : Except (ApiError Unit Unit) _) =
      .ok ⟨⟨"https", "/", some (.ipv4 (Ipv4Addr.new 192 0 2 9)), some 8443⟩,
        ⟨"udp", "/", some (.domain "192.0.2.1"), some 51820⟩⟩ := by
          decide +kernel
  exact (probe_path_iff endpointCrate (buildHttpClient sampleParts)
    (some "vpn.example.com") (some sampleParts)
    .default "key" none dot (.inl hbuilt)).2.mpr (.inl (by decide))

end Rustylink.Daemon
