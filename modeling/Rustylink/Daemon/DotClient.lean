import Rustylink.Api.Dot
import Rustylink.Outbound.Literal

/-!
# The client of a dot

A dot is dialed by its address, but its certificate is one for the tenant's
domain.  The client asks for that name and pins it to the address; where it
cannot, it is the plain client of the endpoint.  What the URL and HTTP
libraries make of a text is a parameter.
-/

namespace Rustylink.Daemon

open Rustylink.Foundation Rustylink.Outbound Rustylink.Api

variable {Url : Type}

/--
The parser and the getters of the URL library, and the URI that a client
connects to.
-/
structure UrlCrate (Url : Type) where
  parse : String → Option Url
  scheme : Url → String
  hostStr : Url → Option String
  portOrKnownDefault : Url → Option Nat
  uri : Url → Uri

/--
A text with a host that parsing leaves alone has the port that is written after
it.  The URI of an `https` URL has its scheme, its port, and its host as it is
written.
-/
structure UrlCrate.Lawful (crate : UrlCrate Url) : Prop where
  https : ∀ text url, crate.parse ("https://" ++ text) = some url →
    crate.scheme url = "https"
  port : ∀ host port url,
    crate.parse ("https://" ++ (host ++ ":" ++ toString port)) = some url →
    crate.hostStr url = some host → crate.portOrKnownDefault url = some port
  uriScheme : ∀ url, crate.scheme url = "https" →
    (crate.uri url).scheme = some "https"
  uriHost : ∀ url, crate.scheme url = "https" →
    (crate.uri url).host = crate.hostStr url
  uriPort : ∀ url, crate.scheme url = "https" →
    crate.portOrKnownDefault url = some (crate.uri url).effectivePort

structure HttpClient where
  resolver : HostResolver

structure ApiClient (Url : Type) where
  baseUrl : Url
  client : HttpClient

abbrev ResolverParts := Dialer × List SocketAddr

def buildHttpClient (parts : ResolverParts) : HttpClient :=
  ⟨.new parts.1 parts.2⟩

def buildDotHttpClient (parts : ResolverParts) (tlsHost : String)
    (pinnedAddr : SocketAddr) :
    HttpClient :=
  ⟨(HostResolver.new parts.1 parts.2).withOverride tlsHost pinnedAddr⟩

def tlsHostFor (vpnDomain : String) : String :=
  match vpnDomain.toList with
  | '*' :: '.' :: rest => "vpn." ++ String.ofList rest
  | _ => vpnDomain

def tlsUrlText (domain : String) (port : Nat) : String :=
  "https://" ++ (tlsHostFor domain ++ ":" ++ toString port)

def buildDotApiClient (crate : UrlCrate Url) (endpoint : DotEndpoint Url)
    (pool : HttpClient) (vpnDomain : Option String)
    (parts : Option ResolverParts) : ApiClient Url :=
  let pinned : Option (ApiClient Url) := do
    let domain ← vpnDomain
    let host ← crate.hostStr endpoint.apiBaseUrl
    let ip ← IpAddr.parse host
    let port ← crate.portOrKnownDefault endpoint.apiBaseUrl
    let tlsUrl ← crate.parse (tlsUrlText domain port)
    let parts ← parts
    return ⟨tlsUrl, buildDotHttpClient parts (tlsHostFor domain) ⟨ip, port⟩⟩
  pinned.getD ⟨endpoint.apiBaseUrl, pool⟩

/-! ## Pinning -/

/--
The client validates against the name, which is pinned to the one address it
dials.
-/
structure PinsDot (crate : UrlCrate Url) (world : NetWorld)
    (client : ApiClient Url) (name : String) (addr : SocketAddr) : Prop where
  validates : crate.hostStr client.baseUrl = some name
  pinned : client.client.resolver.overrides name = some [addr]
  dials :
  leaves (connectTo world client.client.resolver (crate.uri client.baseUrl)
    []) =
    [.dial addr]

theorem withOverride_new (parts : ResolverParts) (tlsHost : String)
    (addr : SocketAddr) (name : String) :
    (buildDotHttpClient parts tlsHost addr).resolver.overrides name =
      if name = tlsHost then some [addr] else none := by
  show Table.put tlsHost ([] ++ [addr]) (fun _ => none) name = _
  by_cases h : name = tlsHost
  · subst h
    simp
  · simp [h]

theorem not_pinsDot_plain {crate : UrlCrate Url} {world : NetWorld} {url : Url}
    {pool : ResolverParts} {name : String} {addr : SocketAddr} :
    ¬ PinsDot crate world ⟨url, buildHttpClient pool⟩ name addr := by
  intro h
  have hpinned : (none : Option (List SocketAddr)) = some [addr] := h.pinned
  cases hpinned

theorem pinsDot_override_iff {crate : UrlCrate Url} (hlaw : crate.Lawful)
    {world : NetWorld} {parts : ResolverParts} {domain name : String}
    {ip : IpAddr} {port : Nat} {tlsUrl : Url}
    (htls : crate.parse (tlsUrlText domain port) = some tlsUrl)
    (hname : crate.hostStr tlsUrl = some name) :
    PinsDot crate world ⟨tlsUrl, buildDotHttpClient parts (tlsHostFor domain)
      ⟨ip, port⟩⟩ name ⟨ip, port⟩ ↔ name = tlsHostFor domain := by
  have hover := withOverride_new parts (tlsHostFor domain) ⟨ip, port⟩ name
  constructor
  · intro h
    have hpinned := h.pinned
    rw [hover] at hpinned
    by_contra hne
    rw [if_neg hne] at hpinned
    cases hpinned
  · intro hsame
    rw [if_pos hsame] at hover
    have hscheme := hlaw.https _ tlsUrl htls
    have htlsPort : crate.portOrKnownDefault tlsUrl = some port :=
      hlaw.port (tlsHostFor domain) port tlsUrl htls (hsame ▸ hname)
    have heffective := hlaw.uriPort tlsUrl hscheme
    rw [htlsPort] at heffective
    have huri : parseUriHostPort (crate.uri tlsUrl) = .ok (name, port) := by
      rw [parseUriHostPort_http (.inr (hlaw.uriScheme tlsUrl hscheme))
        ((hlaw.uriHost tlsUrl hscheme).trans hname), ← Option.some.inj
          heffective]
    exact ⟨hname, hover, (connectTo_single_iff huri).mpr
      (.inl ⟨[], hover, .inl rfl⟩)⟩

/--
The client of a dot is pinned exactly when the API host is an IPv4 address,
its HTTP client could be built, and the TLS host is in the form that parsing
gives it.
-/
theorem dot_client_pins_iff (crate : UrlCrate Url) (hlaw : crate.Lawful)
    (world : NetWorld) (endpoint : DotEndpoint Url) (pool : ResolverParts)
    (parts : Option ResolverParts)
    (domain : String) {host name : String} {ip : IpAddr} {port : Nat}
    {tlsUrl : Url} (hhost : crate.hostStr endpoint.apiBaseUrl = some host)
    (hip : ip.HostText host)
    (hport : crate.portOrKnownDefault endpoint.apiBaseUrl = some port)
    (htls : crate.parse (tlsUrlText domain port) = some tlsUrl)
    (hname : crate.hostStr tlsUrl = some name) :
    PinsDot crate world
        (buildDotApiClient crate endpoint (buildHttpClient pool)
          (some domain) parts)
        name ⟨ip, port⟩ ↔
      ip.isV4 = true ∧ parts.isSome = true ∧ name = tlsHostFor domain := by
  have hparse := hip.parse_eq
  cases hv4 : ip.isV4 with
  | false =>
      have hclient : buildDotApiClient crate endpoint (buildHttpClient pool)
          (some domain) parts =
          ⟨endpoint.apiBaseUrl, buildHttpClient pool⟩ := by
        simp [buildDotApiClient, hhost, hparse, hv4]
      rw [hclient]
      exact iff_of_false not_pinsDot_plain (by simp)
  | true =>
      cases parts with
      | none =>
          have hclient : buildDotApiClient crate endpoint (buildHttpClient pool)
              (some domain)
              none = ⟨endpoint.apiBaseUrl, buildHttpClient pool⟩ := by
            simp [buildDotApiClient, hhost, hport]
          rw [hclient]
          exact iff_of_false not_pinsDot_plain (by simp)
      | some parts =>
          have hclient : buildDotApiClient crate endpoint (buildHttpClient pool)
              (some domain)
              (some parts) =
                ⟨tlsUrl, buildDotHttpClient parts (tlsHostFor domain)
                    ⟨ip, port⟩⟩ := by
            simp [buildDotApiClient, hhost, hparse, hv4, hport, htls]
          rw [hclient, pinsDot_override_iff hlaw htls hname]
          simp

/-! ## Sample endpoints -/

structure SampleUrl where
  host : String
  port : Nat
  deriving DecidableEq

def sampleUrls : List (String × SampleUrl) :=
  [("https://vpn.example.com:8443", ⟨"vpn.example.com", 8443⟩),
    ("https://VPN.Example.com:8443", ⟨"vpn.example.com", 8443⟩)]

def sampleCrate : UrlCrate SampleUrl where
  parse text := sampleUrls.lookup text
  scheme _ := "https"
  hostStr url := some url.host
  portOrKnownDefault url := some url.port
  uri url := ⟨some "https", some url.host, some url.port⟩

theorem sampleCrate_lawful : sampleCrate.Lawful where
  https _ _ _ := rfl
  port host port url hparse hhost := by
    simp only [sampleCrate, sampleUrls, List.lookup_cons,
      List.lookup_nil] at hparse
    split at hparse
    · rename_i htext
      cases hparse
      cases hhost
      have hdigits := congrArg String.toList (beq_iff_eq.mp htext)
      have hsame : Nat.toDigits 10 port = ['8', '4', '4', '3'] := by
        simpa [String.toList_append] using hdigits
      have hport := Nat.ofDigitChars_ten_toDigits (n := port)
      rw [hsame] at hport
      exact congrArg some hport
    · split at hparse
      · rename_i htext
        cases hparse
        cases hhost
        have hdigits := congrArg String.toList (beq_iff_eq.mp htext)
        simp [String.toList_append] at hdigits
      · cases hparse
  uriScheme _ _ := rfl
  uriHost _ _ := rfl
  uriPort _ _ := rfl

def sampleParts : ResolverParts := ⟨⟨none⟩, []⟩

def sampleEndpoint (host : String) : DotEndpoint SampleUrl :=
  ⟨⟨host, 8443⟩, ⟨host, 51820⟩⟩

theorem wildcard_dot_client_pinned :
    PinsDot sampleCrate quietWorld
      (buildDotApiClient sampleCrate (sampleEndpoint "10.0.0.1")
        (buildHttpClient sampleParts)
        (some "*.example.com") (some sampleParts))
      "vpn.example.com" ⟨.v4 (Ipv4Addr.new 10 0 0 1), 8443⟩ :=
  (dot_client_pins_iff sampleCrate sampleCrate_lawful quietWorld
    (sampleEndpoint "10.0.0.1")
    sampleParts (some sampleParts) "*.example.com" rfl ipv4_host_text rfl
    (show _ = some ⟨"vpn.example.com", 8443⟩ by decide +kernel) rfl).mpr
    ⟨rfl, rfl, by decide +kernel⟩

theorem dot_client_misses_pin :
    ((IpAddr.v6 (Ipv6Addr.new 0x2001 0xdb8 0 0 0 0 0 1)).HostText
      "[2001:db8::1]" ∧
      ¬ PinsDot sampleCrate quietWorld
        (buildDotApiClient sampleCrate (sampleEndpoint "[2001:db8::1]")
          (buildHttpClient sampleParts) (some "*.example.com")
          (some sampleParts))
        "vpn.example.com" ⟨.v6 (Ipv6Addr.new 0x2001 0xdb8 0 0 0 0 0 1), 8443⟩) ∧
    ¬ PinsDot sampleCrate quietWorld
      (buildDotApiClient sampleCrate (sampleEndpoint "10.0.0.1")
        (buildHttpClient sampleParts)
        (some "VPN.Example.com") (some sampleParts))
      "vpn.example.com" ⟨.v4 (Ipv4Addr.new 10 0 0 1), 8443⟩ := by
  refine ⟨⟨⟨"2001:db8::1", by decide +kernel, by decide +kernel⟩, fun h => ?_⟩,
    fun h => ?_⟩
  · exact absurd h.validates (by decide +kernel)
  · exact absurd h.dials (by decide +kernel)

end Rustylink.Daemon
