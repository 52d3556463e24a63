import Rustylink.Core.VpnConfig
import Rustylink.Foundation.UrlAuthority
import Rustylink.Tunnel.Session

/-!
# The hosts of an endpoint

The hosts of a dot are pasted into the texts of URLs, and an endpoint is what
the URL library reads from these texts.  The library is a parameter that keeps
to the URL standard, and so is the step of it that turns a domain name into
ASCII.
-/

namespace Rustylink.Tunnel

open Rustylink.Foundation Rustylink.Api Rustylink.Dns

/-! ## The standard -/

def isSpecial (scheme : String) : Bool := scheme = "https"

def defaultPort (scheme : String) : Option Nat :=
  if scheme = "https" then some 443 else none

def readHost (domainToAscii : String → Option String) (special : Bool) :
    List Char → Option Host
  | '[' :: cs =>
      if cs.getLast? = some ']' then
        (Ipv6Addr.parse (String.ofList cs.dropLast)).map .ipv6
      else none
  | cs =>
      if special then do
        let domain ← domainToAscii (String.ofList cs)
        if domain.toList.any forbiddenDomainChar then none
        else if endsInNumber domain.toList then (ipv4OfText domain.toList).map .ipv4
        else some (.domain domain)
      else (opaqueHost cs).map .domain

structure IsUrlOf (domainToAscii : String → Option String) (scheme : String)
    (authority : Authority) (url : Url) : Prop where
  host : if authority.host = [] then url.host = none
    else ∃ host, readHost domainToAscii (isSpecial scheme) authority.host =
      some host ∧
      url.host = some host
  port : url.port =
    if authority.port = defaultPort scheme then none else authority.port
  path : authority.rest = ['/'] → url.path = "/"
  scheme : url.scheme = scheme

/--
Percent-decoding and the conversion of a domain to ASCII leave a text alone, up
to its case, that is ASCII and has no escapes.
-/
structure UrlStandard (parseUrl : String → Option Url)
    (domainToAscii : String → Option String) : Prop where
  read : ∀ scheme ∈ ["https", "udp"], ∀ text url,
    parseUrl (scheme ++ "://" ++ text ++ "/") = some url →
      ∃ authority, readAuthority (isSpecial scheme) (text.toList ++ ['/']) =
        some authority ∧
        IsUrlOf domainToAscii scheme authority url
  plain : ∀ text domain, domainToAscii text = some domain →
    (∀ c ∈ text.toList, c.toNat < 128 ∧ c ≠ '%') →
    domain = toAsciiLowercase text
  ascii : ∀ text domain, domainToAscii text = some domain →
    ∀ c ∈ domain.toList, c.toNat < 128

/-! ## Names of hosts -/

/-- The text is the host, up to case and the spelling of an address. -/
def Names (text : String) : Host → Prop
  | .domain domain => toAsciiLowercase domain = toAsciiLowercase text
  | .ipv4 address => ipv4OfText (toAsciiLowercase text).toList = some address
  | .ipv6 address => Ipv6Addr.parse text = some address ∨
      ∃ literal, text = "[" ++ literal ++ "]" ∧
        Ipv6Addr.parse literal = some address

/--
An IPv6 literal, in brackets or not, or characters that a URL leaves alone in a
host.
-/
def PlainHost (special : Bool) (text : String) : Prop :=
  (∃ address, Ipv6Addr.parse text = some address) ∨
    (∃ literal address, text = "[" ++ literal ++ "]" ∧
      Ipv6Addr.parse literal = some address) ∨
    ∀ c ∈ text.toList, isHostChar special c = true

theorem toAsciiLowercase_hostChars {special : Bool} {text : String} :
    (∀ c ∈ (toAsciiLowercase text).toList, isHostChar special c = true) ↔
      ∀ c ∈ text.toList, isHostChar special c = true := by
  simp [toAsciiLowercase, isHostChar_toLower]

theorem PlainHost.of_names {parseUrl : String → Option Url}
    {domainToAscii : String → Option String}
    (hlaw : UrlStandard parseUrl domainToAscii) {special : Bool}
    {cs : List Char} {host : Host} {text : String}
    (h : readHost domainToAscii special cs = some host)
    (hnames : Names text host) :
    PlainHost special text := by
  cases host with
  | ipv6 address =>
      rcases hnames with hbare | ⟨literal, htext, hliteral⟩
      · exact .inl ⟨address, hbare⟩
      · exact .inr (.inl ⟨literal, address, htext, hliteral⟩)
  | ipv4 address =>
      refine .inr (.inr (toAsciiLowercase_hostChars.mp fun c hc => ?_))
      exact isHostChar_ipv4 (ipv4OfText_chars hnames c hc)
  | domain domain =>
      have hdomain : ∀ c ∈ domain.toList, isHostChar special c = true := by
        unfold readHost at h
        split at h
        · split at h <;> simp at h
        · split at h
          · rename_i hspecial
            obtain ⟨ascii, hascii, hresult⟩ := Option.bind_eq_some_iff.mp h
            split at hresult
            · cases hresult
            · rename_i hallowed
              split at hresult
              · simp at hresult
              · cases hresult
                intro c hc
                rw [hspecial]
                refine isHostChar_domain (hlaw.ascii _ _ hascii c hc) ?_
                exact Bool.eq_false_iff.mpr fun hforbidden =>
                  hallowed (List.any_eq_true.mpr ⟨c, hc, hforbidden⟩)
          · rename_i hopaque
            obtain ⟨text, htext, hsame⟩ := Option.map_eq_some_iff.mp h
            cases hsame
            rw [Bool.eq_false_iff.mpr hopaque]
            exact opaqueHost_chars htext
      refine .inr (.inr (toAsciiLowercase_hostChars.mp ?_))
      have hsame : toAsciiLowercase domain = toAsciiLowercase text := hnames
      rw [← hsame]
      exact toAsciiLowercase_hostChars.mpr hdomain

/-! ## Plain hosts -/

def pastedHost (host : String) : String :=
  if (Ipv6Addr.parse host).isSome then "[" ++ host ++ "]" else host

theorem PlainHost.pasted {special : Bool} {text : String}
    (h : PlainHost special text) :
    (∃ literal address, Ipv6Addr.parse literal = some address ∧
      pastedHost text = "[" ++ literal ++ "]" ∧ Names text (.ipv6 address)) ∨
    (pastedHost text = text ∧
      ∀ c ∈ text.toList, isHostChar special c = true) := by
  unfold pastedHost
  cases hparse : Ipv6Addr.parse text with
  | some address => exact .inl ⟨text, address, hparse, by simp, .inl hparse⟩
  | none =>
      rcases h with ⟨address, hbare⟩ | ⟨literal, address, rfl,
        hliteral⟩ | hchars
      · rw [hbare] at hparse
        cases hparse
      · exact .inl ⟨literal, address,
          hliteral, by simp, .inr ⟨literal, rfl, hliteral⟩⟩
      · exact .inr ⟨by simp, hchars⟩

theorem PlainHost.pasted_ne {special : Bool} {text : String}
    (h : PlainHost special text) (hne : text ≠ "") :
    (pastedHost text).toList ≠ [] := by
  rcases h.pasted with ⟨literal, address, -, hpasted, -⟩ | ⟨hpasted, -⟩
  · simp [hpasted]
  · simpa [hpasted] using hne

theorem PlainHost.authority {special : Bool} {text : String}
    (h : PlainHost special text) (hne : text ≠ "") {port : Nat}
    (hport : port < 65536) :
    readAuthority special
      ((pastedHost text).toList ++ ':' :: Nat.toDigits 10 port ++ ['/']) =
      some ⟨(pastedHost text).toList, some port, ['/']⟩ := by
  rcases h.pasted with
    ⟨literal, address, hliteral, hpasted, -⟩ | ⟨hpasted, hchars⟩
  · have hchars :=
      fun c hc => isIpv6Char_isInner (Ipv6Addr.parse_chars hliteral c hc)
    have hlist : (pastedHost text).toList =
        '[' :: (literal.toList ++ [']']) := by simp [hpasted]
    rw [hlist]
    refine readAuthority_plain special (by simp) ?_ hport ?_
    · intro c hc
      simp only [List.mem_cons, List.mem_append, List.not_mem_nil,
        or_false] at hc
      rcases hc with rfl | hc | rfl
      · decide
      · exact (hchars c hc).1
      · decide
    · have hinside : splitPort true
          (literal.toList ++ ']' :: ':' :: Nat.toDigits 10 port) =
          (literal.toList ++ [']'], some (Nat.toDigits 10 port)) :=
        splitPort_brackets fun c hc => (hchars c hc).2
      simp [splitPort, hinside]
  · rw [hpasted]
    have hinner := fun c hc => isHostChar_isInner (hchars c hc)
    refine readAuthority_plain special (by simpa using hne)
      (fun c hc => (hinner c hc).1) hport ?_
    exact splitPort_plain fun c hc => (hinner c hc).2

theorem PlainHost.names {parseUrl : String → Option Url}
    {domainToAscii : String → Option String}
    (hlaw : UrlStandard parseUrl domainToAscii) {special : Bool}
    {text : String} {host : Host} (h : PlainHost special text)
    (hread : readHost domainToAscii special (pastedHost text).toList =
      some host) :
    Names text host := by
  rcases h.pasted with
    ⟨literal, address, hliteral, hpasted, hnames⟩ | ⟨hpasted, hchars⟩
  · have hlist : (pastedHost text).toList =
        '[' :: (literal.toList ++ [']']) := by simp [hpasted]
    rw [hlist] at hread
    simp only [readHost, List.getLast?_concat, List.dropLast_concat,
      String.ofList_toList, hliteral] at hread
    cases hread
    exact hnames
  · rw [hpasted] at hread
    unfold readHost at hread
    split at hread
    · rename_i cs hlist
      have hbracket := hchars '[' (hlist ▸ List.mem_cons_self)
      exact absurd rfl (isHostChar_isInner hbracket).2.2.1
    · rw [String.ofList_toList] at hread
      split at hread
      · rename_i hspecial
        subst hspecial
        obtain ⟨domain, hdomain, hresult⟩ := Option.bind_eq_some_iff.mp hread
        have hascii : ∀ c ∈ text.toList, c.toNat < 128 ∧ c ≠ '%' :=
          fun c hc => by
          obtain ⟨hencoded, -, hescape⟩ := isHostChar_iff.mp (hchars c hc)
          simp only [isEncoded, Bool.or_eq_false_iff,
            decide_eq_false_iff_not] at hencoded
          exact ⟨by omega, hescape rfl⟩
        obtain rfl : domain = toAsciiLowercase text :=
          hlaw.plain text domain hdomain hascii
        split at hresult
        · cases hresult
        · split at hresult
          · obtain ⟨address, haddress, rfl⟩ := Option.map_eq_some_iff.mp hresult
            exact haddress
          · cases hresult
            exact toAsciiLowercase_idem text
      · rename_i hopaque
        rw [Bool.eq_false_iff.mpr hopaque] at hchars
        rw [opaqueHost_plain hchars] at hread
        cases hread
        simp [Names]

/-! ## Endpoints -/

structure PointsAt (url : Url) (host : String) (port : Int) : Prop where
  host : ∃ named, url.host = some named ∧ Names (trim host) named
  port : ∃ n : Nat, portOrKnownDefault url = some n ∧ port = n
  path : url.path = "/"

theorem IsUrlOf.host_of_ne {domainToAscii : String → Option String}
    {scheme : String} {authority : Authority} {url : Url}
    (h : IsUrlOf domainToAscii scheme authority url)
    (hne : authority.host ≠ []) :
    ∃ host, readHost domainToAscii (isSpecial scheme) authority.host =
      some host ∧
      url.host = some host := by
  have hhost := h.host
  rwa [if_neg hne] at hhost

theorem IsUrlOf.knownPort {domainToAscii : String → Option String}
    {scheme : String} {authority : Authority} {url : Url} {port : Nat}
    (h : IsUrlOf domainToAscii scheme authority url)
    (hscheme : scheme ∈ ["https", "udp"]) (hport : authority.port = some port) :
    portOrKnownDefault url = some port := by
  have hkept := h.port
  unfold portOrKnownDefault
  rw [h.scheme]
  rw [hport] at hkept
  split at hkept
  · rename_i hdefault
    rw [hkept]
    unfold defaultPort at hdefault
    split at hdefault
    · rename_i hhttps
      subst hhttps
      simpa using hdefault.symm
    · cases hdefault
  · rw [hkept]
    rfl

variable {parseUrl : String → Option Url}
  {domainToAscii : String → Option String} {Body Json : Type}

theorem urlFromHostPort_read (hlaw : UrlStandard parseUrl domainToAscii)
    {scheme host : String} {port : Int} {url : Url}
    (hscheme : scheme ∈ ["https", "udp"])
    (h : (urlFromHostPort parseUrl scheme host port : Except
      (ApiError Body Json) Url) = .ok url) :
    trim host ≠ "" ∧ ∃ n : Nat, port = n ∧ n < 65536 ∧ ∃ authority,
      readAuthority (isSpecial scheme)
          ((pastedHost (trim host)).toList ++ ':' :: Nat.toDigits 10 n ++
            ['/']) =
        some authority ∧ IsUrlOf domainToAscii scheme authority url := by
  obtain ⟨hlow, hhigh, hne, hparse⟩ := urlFromHostPort_ok parseUrl h
  obtain ⟨n, rfl⟩ := Int.eq_ofNat_of_zero_le (a := port) (by omega)
  have htext : scheme ++ "://" ++ pastedHost (trim host) ++ ":" ++
      toString (n : Int) ++ "/" =
      scheme ++ "://" ++ (pastedHost (trim host) ++ ":" ++
          toString (n : Int)) ++ "/" := by
    simp only [String.append_assoc]
  have hdigits : (toString (n : Int)).toList = Nat.toDigits 10 n :=
    Nat.toList_repr
  have hlist : (pastedHost (trim host) ++ ":" ++ toString (n : Int)).toList ++
      ['/'] =
      (pastedHost (trim host)).toList ++ ':' :: Nat.toDigits 10 n ++ ['/'] := by
    rw [String.toList_append, String.toList_append, hdigits]
    simp
  obtain ⟨authority, hauthority, hurl⟩ :=
    hlaw.read scheme hscheme _ url (htext ▸ hparse)
  rw [hlist] at hauthority
  exact ⟨hne, n, rfl, by omega, authority, hauthority, hurl⟩

theorem plainHost_of_url (hlaw : UrlStandard parseUrl domainToAscii)
    {scheme host : String} {port : Int} {url : Url}
    (hscheme : scheme ∈ ["https", "udp"])
    (h : (urlFromHostPort parseUrl scheme host port : Except
      (ApiError Body Json) Url) = .ok url)
    {named : Host} (hnamed : url.host = some named)
    (hnames : Names (trim host) named) :
    PlainHost (isSpecial scheme) (trim host) := by
  obtain ⟨-, n, -, -, authority, -, hurl⟩ := urlFromHostPort_read hlaw hscheme h
  have hhost := hurl.host
  split at hhost
  · rw [hhost] at hnamed
    cases hnamed
  · obtain ⟨read, hread, hkept⟩ := hhost
    obtain rfl : read = named := Option.some.inj (hkept.symm.trans hnamed)
    exact PlainHost.of_names hlaw hread hnames

theorem pointsAt_of_plainHost (hlaw : UrlStandard parseUrl domainToAscii)
    {scheme host : String} {port : Int} {url : Url}
    (hscheme : scheme ∈ ["https", "udp"])
    (h : (urlFromHostPort parseUrl scheme host port : Except
      (ApiError Body Json) Url) = .ok url)
    (hplain : PlainHost (isSpecial scheme) (trim host)) :
    PointsAt url host port := by
  obtain ⟨hne, n, rfl, hbound, authority, hauthority, hurl⟩ :=
    urlFromHostPort_read hlaw hscheme h
  rw [hplain.authority hne hbound] at hauthority
  have hsame := Option.some.inj hauthority
  have hhost : authority.host = (pastedHost (trim host)).toList := by
    rw [← hsame]
  have hport : authority.port = some n := by rw [← hsame]
  have hrest : authority.rest = ['/'] := by rw [← hsame]
  obtain ⟨named, hnamed, hkept⟩ :=
    hurl.host_of_ne (hhost ▸ hplain.pasted_ne hne)
  rw [hhost] at hnamed
  exact ⟨⟨named, hkept, hplain.names hlaw hnamed⟩,
    ⟨n, hurl.knownPort hscheme hport, rfl⟩, hurl.path hrest⟩

/-! ## Lookups -/

def firstAddress (endpoint : Url) :
    Except String (List SocketAddr) → Except SessionError SocketAddr
  | .error source => .error (.resolveEndpoint endpoint source)
  | .ok [] => .error (.emptyEndpointResolution endpoint)
  | .ok (addr :: _) => .ok addr

structure LooksUp (endpoint : Url) (host : Host) (port : Nat) : Prop where
  lookup : ∀ os ctx, resolveEndpoint os endpoint ctx =
    firstAddress endpoint
      (os.resolveHost ctx.dnsServers ctx.directed (hostString host) port)
  host : endpoint.host = some host

theorem PointsAt.looksUp {url : Url} {host : String} {port : Int}
    (h : PointsAt url host port) :
    ∃ named n, LooksUp url named n ∧ Names (trim host) named ∧ port = n := by
  obtain ⟨named, hnamed, hnames⟩ := h.host
  obtain ⟨n, hknown, hport⟩ := h.port
  refine ⟨named, n, ⟨fun os ctx => ?_, hnamed⟩, hnames, hport⟩
  simp only [resolveEndpoint, hnamed, hknown]
  rfl

structure EndpointFaithful (dot : VpnDot) (useVpnIpForApi : Bool)
    (endpoint : DotEndpoint Url) : Prop where
  wireguard : ∃ host port, LooksUp endpoint.wireguardEndpoint host port ∧
    Names (trim dot.ip) host ∧ dot.vpnPort = some (port : Int)
  api : ∃ port, dot.apiPort = some port ∧
    PointsAt endpoint.apiBaseUrl
      (if useVpnIpForApi then dot.ip else dot.apiHost) port

/--
An endpoint that could be made of a dot is faithful to it exactly when both of
the hosts that it is made of are plain.
-/
theorem endpoint_faithful_iff (hlaw : UrlStandard parseUrl domainToAscii)
    (dot : VpnDot) (useVpnIpForApi : Bool) {endpoint : DotEndpoint Url}
    (h : (DotEndpoint.fromDot parseUrl dot useVpnIpForApi :
      Except (ApiError Body Json) _) = .ok endpoint) :
    EndpointFaithful dot useVpnIpForApi endpoint ↔
      PlainHost true (trim (if useVpnIpForApi then dot.ip else dot.apiHost)) ∧
        PlainHost false (trim dot.ip) := by
  obtain ⟨apiPort, vpnPort, hapiPort, hvpnPort, hapi, hwireguard⟩ :=
    DotEndpoint.fromDot_urls parseUrl h
  have hhttps : "https" ∈ ["https", "udp"] := by simp
  have hudp : "udp" ∈ ["https", "udp"] := by simp
  constructor
  · intro hfaithful
    obtain ⟨host, port, hlookup, hnames, -⟩ := hfaithful.wireguard
    obtain ⟨apiPort', -, hpoints⟩ := hfaithful.api
    obtain ⟨apiNamed, hapiNamed, hapiNames⟩ := hpoints.host
    exact ⟨plainHost_of_url hlaw hhttps hapi hapiNamed hapiNames,
      plainHost_of_url hlaw hudp hwireguard hlookup.host hnames⟩
  · rintro ⟨hapiPlain, hplain⟩
    obtain ⟨named, n, hlookup, hnames, rfl⟩ :=
      (pointsAt_of_plainHost hlaw hudp hwireguard hplain).looksUp
    exact ⟨⟨named, n, hlookup, hnames, hvpnPort⟩, apiPort, hapiPort,
      pointsAt_of_plainHost hlaw hhttps hapi hapiPlain⟩

/-! ## A parser of the standard -/

def asciiDomain (text : String) : Option String :=
  if text.toList.all fun c => c.toNat < 128 &&
    c ≠ '%' then some (toAsciiLowercase text) else none

def readUrlHost (scheme : String) (cs : List Char) : Option (Option Host) :=
  if cs = [] then some none
  else (readHost asciiDomain (isSpecial scheme) cs).map some

def readUrl (scheme : String) (cs : List Char) : Option Url := do
  let authority ← readAuthority (isSpecial scheme) cs
  let host ← readUrlHost scheme authority.host
  return {
    scheme := scheme
    path := String.ofList authority.rest
    host := host
    port :=
      if authority.port = defaultPort scheme then none else authority.port }

def parseEndpointUrl (text : String) : Option Url :=
  match text.toList with
  | 'h' :: 't' :: 't' :: 'p' :: 's' :: ':' :: '/' :: '/' :: cs =>
      readUrl "https" cs
  | 'u' :: 'd' :: 'p' :: ':' :: '/' :: '/' :: cs => readUrl "udp" cs
  | _ => none

theorem readUrl_isUrlOf {scheme : String} {cs : List Char} {url : Url}
    (h : readUrl scheme cs = some url) :
    ∃ authority, readAuthority (isSpecial scheme) cs = some authority ∧
      IsUrlOf asciiDomain scheme authority url := by
  simp only [readUrl, Option.bind_eq_bind, Option.bind_eq_some_iff] at h
  obtain ⟨authority, hauthority, host, hhost, hurl⟩ := h
  cases hurl
  refine ⟨authority, hauthority, ?_, rfl, fun hrest => by rw [hrest], rfl⟩
  unfold readUrlHost at hhost
  split at hhost
  · cases hhost
    rename_i hempty
    rw [if_pos hempty]
  · rename_i hne
    obtain ⟨read, hread, rfl⟩ := Option.map_eq_some_iff.mp hhost
    rw [if_neg hne]
    exact ⟨read, hread, rfl⟩

theorem parseEndpointUrl_standard :
    UrlStandard parseEndpointUrl asciiDomain where
  read := by
    intro scheme hscheme text url h
    have hchars : (scheme ++ "://" ++ text ++ "/").toList =
        scheme.toList ++ "://".toList ++ (text.toList ++ ['/']) := by simp
    refine readUrl_isUrlOf ?_
    unfold parseEndpointUrl at h
    rw [hchars] at h
    rcases List.mem_cons.mp hscheme with rfl | hudp
    · exact h
    · rw [List.mem_singleton.mp hudp] at h ⊢
      exact h
  plain := by
    intro text domain h _
    unfold asciiDomain at h
    split at h
    · exact (Option.some.inj h).symm
    · cases h
  ascii := by
    intro text domain h c hc
    unfold asciiDomain at h
    split at h
    · rename_i hascii
      cases h
      simp only [toAsciiLowercase, String.toList_ofList, List.mem_map] at hc
      obtain ⟨d, hd, rfl⟩ := hc
      have hbound := List.all_eq_true.mp hascii d hd
      simp only [Bool.and_eq_true, decide_eq_true_eq] at hbound
      rw [toNat_toLower]
      split <;> omega
    · cases h

def smuggledDot : VpnDot :=
  { Core.dotExample "node.example@203.0.113.7" (some 8443) with
    apiIp := some "api.example" }

def smuggledEndpoint : DotEndpoint Url where
  apiBaseUrl := ⟨"https", "/", some (.domain "api.example"), some 8443⟩
  wireguardEndpoint := ⟨"udp", "/", some (.domain "203.0.113.7"), some 51820⟩

/--
Credentials, a slash or a query in a host are accepted, and the tunnel dials
another host.
-/
theorem smuggled_host_not_faithful :
    ¬ ∀ (parseUrl : String → Option Url) (domainToAscii : String →
      Option String), UrlStandard parseUrl domainToAscii →
        ∀ (dot : VpnDot) (useVpnIpForApi : Bool) (endpoint : DotEndpoint Url),
          (DotEndpoint.fromDot parseUrl dot useVpnIpForApi :
            Except (ApiError Unit Unit) _) = .ok endpoint →
          EndpointFaithful dot useVpnIpForApi endpoint := by
  intro h
  have hbuilt : (DotEndpoint.fromDot parseEndpointUrl smuggledDot false :
      Except (ApiError Unit Unit) _) = .ok smuggledEndpoint := by decide +kernel
  have hfaithful :=
    h parseEndpointUrl asciiDomain parseEndpointUrl_standard smuggledDot false
    smuggledEndpoint hbuilt
  obtain ⟨host, port, hlookup, hnames, -⟩ := hfaithful.wireguard
  obtain rfl : Host.domain "203.0.113.7" = host := Option.some.inj hlookup.host
  have hsame : toAsciiLowercase "203.0.113.7" =
    toAsciiLowercase (trim "node.example@203.0.113.7") := hnames
  revert hsame
  decide +kernel

def literalDot : VpnDot :=
  { Core.dotExample "2001:DB8::1" (some 443) with apiIp := some "API.example" }

def literalEndpoint : DotEndpoint Url where
  apiBaseUrl := ⟨"https", "/", some (.domain "api.example"), none⟩
  wireguardEndpoint :=
    ⟨"udp", "/", some (.ipv6 (Ipv6Addr.new 0x2001 0xDB8 0 0 0 0 0 1)),
      some 51820⟩

theorem endpoint_faithful_literal :
    EndpointFaithful literalDot false literalEndpoint := by
  have hbuilt : (DotEndpoint.fromDot parseEndpointUrl literalDot false :
      Except (ApiError Unit Unit) _) = .ok literalEndpoint := by decide +kernel
  refine (endpoint_faithful_iff parseEndpointUrl_standard literalDot false
    hbuilt).mpr ⟨?_, ?_⟩
  · have hhost :
        trim (if false = true then literalDot.ip else literalDot.apiHost) =
        "API.example" := by decide +kernel
    rw [hhost]
    exact .inr (.inr (List.all_eq_true.mp (by decide)))
  · exact .inl ⟨Ipv6Addr.new 0x2001 0xDB8 0 0 0 0 0 1, by decide +kernel⟩

end Rustylink.Tunnel
