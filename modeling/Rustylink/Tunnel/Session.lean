import Rustylink.Core.Vpn
import Rustylink.Tunnel.Hijack
import Rustylink.Tunnel.Route

/-!
# The tunnel session

The configuration built from a `/vpn/conn` response, and the code that brings
a session up and takes it down again.  The answers of the operating system and
of third-party crates are parameters, so a start can fail at any of its steps.
-/

namespace Rustylink.Tunnel

open Rustylink.Foundation Rustylink.Api Rustylink.Core Rustylink.Dns
  Rustylink.Outbound

/-! ## Errors -/

inductive SessionError where
  | invalidConfig (reason : String)
  | invalidIpv4Address (value : String)
  | invalidIpv4Prefix (prefixLength : Int)
  | invalidMtu (mtu : Int)
  | invalidIpv6Address (value : String)
  | invalidIpv6Network (value : String)
  | invalidIpv6NetworkFamily (value : String)
  | route (source : RouteError)
  | tunCreate (source : String)
  | outbound (source : String)
  | device (source : String)
  | resolveEndpoint (endpoint : Url) (source : String)
  | emptyEndpointResolution (endpoint : Url)
  | invalidKey (name : String)
  | dnsServer (source : String)
  deriving DecidableEq, Repr

structure SessionCrates extends DnsCrates where
  parseNetwork : String → Except String IpNetwork
  base64Decode : String → Option Bytes
  hexDecode : String → Option Bytes

/-! ## Configuration -/

structure LocalTunnelParams where
  localPrivateKey : String
  localPublicKey : String
  localPort : Nat
  localDns : Option String
  deriving DecidableEq, Repr

structure TunnelConfig where
  interfaceName : String
  localAddr : String
  localAddrV6 : Option String
  localPrefix : Option Int
  mtu : Int
  localPrivateKey : String
  localPublicKey : String
  localPort : Nat
  serverPublicKey : String
  serverPresharedKey : Option String
  endpoint : Url
  protocolMode : ProtocolMode
  protocolVersion : Option String
  outboundInterface : Option String
  routes : List IpNetwork
  fullTunnel : Bool
  ipv6Enabled : Bool
  dns : DnsConfig
  routeSystemDns : Bool
  dnsListenPort : Nat
  dnsListenHost : Option String
  fallbackDns : Option (List String)
  deriving DecidableEq, Repr

def defaultInterfaceName (macos : Bool) : String :=
  if macos then "utun" else "wg0"

def ipv6Enabled (conn : VpnConnResponse) : Bool :=
  conn.ipv6.any fun value => trim value ≠ ""

namespace TunnelConfig

def fromVpnConn (crates : SessionCrates) (macos : Bool) (conn : VpnConnResponse)
    (localParams : LocalTunnelParams) (endpoint : Url)
    (protocolMode : ProtocolMode) (routeMode : VpnRouteMode) :
    Except SessionError TunnelConfig :=
  if conn.setting.vpnMtu ≤ 0 then
    .error (.invalidConfig "vpn_mtu must be positive")
  else
    let fullTunnel := routeMode = .full
    match networksFromVpnConn crates.parseNetwork conn routeMode
        (Tunnel.ipv6Enabled conn) with
    | .error e => .error (.route e)
    | .ok routes => .ok {
        interfaceName := defaultInterfaceName macos
        localAddr := conn.ip
        localAddrV6 := conn.ipv6
        localPrefix := conn.ipMask
        mtu := conn.setting.vpnMtu
        localPrivateKey := localParams.localPrivateKey
        localPublicKey := localParams.localPublicKey
        localPort := localParams.localPort
        serverPublicKey := conn.publicKey
        serverPresharedKey := conn.presharedKey
        endpoint := endpoint
        protocolMode := protocolMode
        protocolVersion := conn.protocolVersion
        outboundInterface := none
        routes := routes
        fullTunnel := fullTunnel
        ipv6Enabled := Tunnel.ipv6Enabled conn
        dns :=
          .fromVpnConn crates.toTextCrates conn localParams.localDns fullTunnel
        routeSystemDns := true
        dnsListenPort := 0
        dnsListenHost := none
        fallbackDns := none }

/-- The host routes that a split tunnel adds for the system DNS servers. -/
def systemDnsRoutes (config : TunnelConfig)
    (systemServers : List IpAddr) : List IpNetwork :=
  if config.fullTunnel then []
  else if config.routeSystemDns = false then []
  else dnsHostRoutes systemServers config.ipv6Enabled

theorem systemDnsRoutes_covers {config : TunnelConfig}
    {systemServers : List IpAddr} {ip : IpAddr} :
    covers (config.systemDnsRoutes systemServers) ip = true ↔
      config.fullTunnel = false ∧ config.routeSystemDns = true ∧
        ip ∈ systemServers ∧ (config.ipv6Enabled = true ∨ ip.isV4 = true) := by
  unfold systemDnsRoutes
  by_cases hfull : config.fullTunnel = true
  · simp [hfull, covers]
  · by_cases hroute : config.routeSystemDns = true
    · simp [hfull, hroute, dnsHostRoutes_covers]
    · simp [hroute, covers]

theorem mem_systemDnsRoutes {config : TunnelConfig}
    {systemServers : List IpAddr} {ip : IpAddr} :
    IpNetwork.ofAddr ip ∈ config.systemDnsRoutes systemServers ↔
      config.fullTunnel = false ∧ config.routeSystemDns = true ∧
        ip ∈ systemServers ∧ (config.ipv6Enabled = true ∨ ip.isV4 = true) := by
  unfold systemDnsRoutes
  by_cases hfull : config.fullTunnel = true
  · simp [hfull]
  · by_cases hroute : config.routeSystemDns = true
    · simp [hfull, hroute, mem_dnsHostRoutes]
    · simp [hroute]

def routeSystemDnsIntoTunnel (config : TunnelConfig)
    (systemServers : List IpAddr) : TunnelConfig :=
  { config with
    routes := config.routes ++ config.systemDnsRoutes systemServers }

end TunnelConfig

structure SessionSettings where
  outboundInterface : Option String
  tunInterface : Option String
  dnsListenPort : Option Nat
  dnsListenHost : Option String
  fallbackDns : Option (List String)
  routeSystemDns : Option Bool
  deriving DecidableEq, Repr

/-- The assignments of `Daemon::start_session` to a fresh configuration. -/
def TunnelConfig.withSettings (config : TunnelConfig)
    (settings : SessionSettings) : TunnelConfig :=
  { config with
    outboundInterface := settings.outboundInterface
    dnsListenPort := (settings.dnsListenPort.filter (· ≤ 65535)).getD 0
    dnsListenHost := settings.dnsListenHost
    fallbackDns := settings.fallbackDns
    routeSystemDns := settings.routeSystemDns.getD true
    interfaceName :=
      (settings.tunInterface.filter (trim · ≠ "")).getD config.interfaceName }

/-! ## The session -/

inductive TunnelStatus where
  | created
  | routesApplied
  | running
  | stopped
  deriving DecidableEq, Repr

structure Peer where
  publicKey : Bytes
  endpoint : SocketAddr
  allowedIps : List IpNetwork
  keepalive : Nat
  presharedKey : Option Bytes
  deriving DecidableEq, Repr

structure TunnelDevice where
  transport : ProtocolMode
  dialer : Dialer
  tun : VpnTun
  privateKey : Bytes
  listenPort : Nat
  peer : Peer
  feilianIdentifier : Bool
  deriving DecidableEq, Repr

structure LivenessProbe where
  routed : Dialer
  servers : List SocketAddr
  deriving DecidableEq, Repr

structure DnsServer where
  bindV4 : SocketAddr
  bindV6 : SocketAddr
  resolver : DnsResolver
  deriving DecidableEq, Repr

structure RouteBypass where
  interface : OutboundInterface
  fullTunnel : Bool
  deriving DecidableEq, Repr

structure TunnelSession where
  config : TunnelConfig
  status : TunnelStatus
  device : Option TunnelDevice
  routes : Option AppliedRoutes
  bypass : Option RouteBypass
  probe : Option LivenessProbe
  dnsServer : Option DnsServer
  deriving DecidableEq, Repr

def TunnelSession.new (config : TunnelConfig) : TunnelSession where
  config := config
  status := .created
  device := none
  routes := none
  bypass := none
  probe := none
  dnsServer := none

structure Uses where
  acquired : Nat
  released : Nat
  deriving DecidableEq, Repr

def Uses.acquire (uses : Uses) : Uses :=
  { uses with acquired := uses.acquired + 1 }

def Uses.releaseHeld {α : Type} (held : Option α) (uses : Uses) : Uses :=
  if held.isSome then { uses with released := uses.released + 1 } else uses

structure World where
  session : TunnelSession
  routeLog : RouteLog
  bypass : Uses
  device : Uses
  probe : Uses
  dnsServer : Uses
  deriving DecidableEq, Repr

def World.new (config : TunnelConfig) : World where
  session := .new config
  routeLog := []
  bypass := ⟨0, 0⟩
  device := ⟨0, 0⟩
  probe := ⟨0, 0⟩
  dnsServer := ⟨0, 0⟩

abbrev SessionBody := EStateM SessionError World

/-! ## What the system answers -/

structure TunRequest where
  ipv4 : BitVec 32
  prefixV4 : Nat
  mtu : Nat
  ipv6 : Option (BitVec 128 × Nat)
  name : Option String
  deriving DecidableEq, Repr

structure SessionOs where
  macos : Bool
  createTun : TunRequest → Except String String
  resolveInterface : Option String → String → Bool →
    Except String (Option OutboundInterface)
  tunInterface : String → Option OutboundInterface
  discoverDns : Except String (List SocketAddr)
  systemDns : List IpAddr
  resolveHost : List SocketAddr → Dialer → String → Nat →
    Except String (List SocketAddr)
  bypassSetup : OutboundInterface → Bool → Option String
  routes : RouteOs
  vpnTun : Except String (String × Nat)
  lookupHost : String → Option (List SocketAddr)
  startDnsServer : SocketAddr → SocketAddr → Option String
  buildDevice : ProtocolMode → Option String

variable (crates : SessionCrates) (os : SessionOs)

/-! ## Checks before anything is acquired -/

def decodeKey (name value : String) : Except SessionError Bytes :=
  let trimmed := trim value
  match crates.base64Decode trimmed <|> crates.hexDecode trimmed with
  | some bytes => if bytes.length = 32 then .ok bytes else .error
        (.invalidKey name)
  | none => .error (.invalidKey name)

def tunIpv6 (value : String) : Except SessionError (BitVec 128 × Nat) :=
  if containsChar '/' value then
    match crates.parseNetwork value with
    | .error _ => .error (.invalidIpv6Network value)
    | .ok (.v6 address prefixLength _) => .ok (address, prefixLength)
    | .ok (.v4 ..) => .error (.invalidIpv6NetworkFamily value)
  else
    match Ipv6Addr.parse value with
    | some address => .ok (address, 64)
    | none => .error (.invalidIpv6Address value)

/-- What `open_tun` asks the system for, after its checks of the settings. -/
def tunRequest (config : TunnelConfig) : Except SessionError TunRequest := do
  let localAddr ←
    match Ipv4Addr.parse config.localAddr with
    | some address => .ok address
    | none => .error (.invalidIpv4Address config.localAddr)
  let localPrefix := config.localPrefix.getD 32
  if localPrefix < 0 ∨ 32 < localPrefix then
    throw (.invalidIpv4Prefix localPrefix)
  if config.mtu ≤ 0 ∨ 65535 < config.mtu then throw (.invalidMtu config.mtu)
  let addressV6 := (config.localAddrV6.map trim).filter (· ≠ "")
  let ipv6 ←
    match addressV6 with
    | none => .ok none
    | some value => (tunIpv6 crates value).map some
  return {
    ipv4 := localAddr
    prefixV4 := localPrefix.toNat
    mtu := config.mtu.toNat
    ipv6 := ipv6
    name :=
      if os.macos ∧ config.interfaceName = "utun" then none
      else some config.interfaceName }

def portOrKnownDefault (url : Url) : Option Nat :=
  url.port <|>
    match url.scheme with
    | "http" | "ws" => some 80
    | "https" | "wss" => some 443
    | "ftp" => some 21
    | _ => none

def hostString : Host → String
  | .domain domain => domain
  | .ipv4 address => Ipv4Addr.display address
  | .ipv6 address => Ipv6Addr.display address

structure OutboundContext where
  directed : Dialer
  routed : Dialer
  dnsServers : List SocketAddr
  interface : Option OutboundInterface
  deriving DecidableEq, Repr

def OutboundContext.build (configuredInterface : Option String)
    (excludedTun : String) (fullTunnel : Bool) :
    Except SessionError OutboundContext :=
  match os.resolveInterface configuredInterface excludedTun fullTunnel with
  | .error source => .error (.outbound source)
  | .ok interface =>
      match os.discoverDns with
      | .error source => .error (.outbound source)
      | .ok servers => .ok {
          directed := ⟨interface⟩
          routed := ⟨os.tunInterface excludedTun⟩
          dnsServers := servers
          interface := interface }

def resolveEndpoint (endpoint : Url) (ctx : OutboundContext) :
    Except SessionError SocketAddr :=
  match endpoint.host, portOrKnownDefault endpoint with
  | none, _ =>
      .error (.invalidConfig "WireGuard endpoint URL must include a host")
  | some _, none =>
      .error (.invalidConfig "WireGuard endpoint URL must include a port")
  | some host, some port =>
      match os.resolveHost ctx.dnsServers ctx.directed
          (hostString host) port with
      | .error source => .error (.resolveEndpoint endpoint source)
      | .ok [] => .error (.emptyEndpointResolution endpoint)
      | .ok (addr :: _) => .ok addr

def wireguardKeepaliveSecs : Nat := 25

def tunnelPeer (config : TunnelConfig) (endpoint : SocketAddr) :
    Except SessionError Peer := do
  let publicKey ← decodeKey crates "server_public_key" config.serverPublicKey
  let presharedKey ←
    match config.serverPresharedKey.filter (· ≠ "") with
    | none => .ok none
    | some value => (decodeKey crates "server_preshared_key" value).map some
  return {
    publicKey := publicKey
    endpoint := endpoint
    allowedIps := config.routes
    keepalive := wireguardKeepaliveSecs
    presharedKey := presharedKey }

def feilianProtocolIdentifier (config : TunnelConfig) : Bool :=
  config.protocolVersion.any fun version => trim version = "v2"

def dnsListenAddr (config : TunnelConfig) : SocketAddr :=
  let host := config.dnsListenHost.getD "127.0.0.1"
  (SocketAddr.parse (host ++ ":" ++ toString config.dnsListenPort)).getD
    ⟨.v4 (Ipv4Addr.new 127 0 0 1), config.dnsListenPort⟩

/-! ## Starting -/

def updateSession (f : TunnelSession → TunnelSession) : SessionBody Unit :=
  modify fun w => { w with session := f w.session }

def readConfig : SessionBody TunnelConfig := return (← get).session.config

def onRoutes {α : Type} (body : RouteBody α) : SessionBody α := fun w =>
  match body w.routeLog with
  | .ok a log => .ok a { w with routeLog := log }
  | .error e log => .error (.route e) { w with routeLog := log }

def openTun : SessionBody String := do
  let config ← readConfig
  let request ← ofExcept (tunRequest crates os config)
  match os.createTun request with
  | .error source => throw (.tunCreate source)
  | .ok actual =>
      if actual = config.interfaceName then return actual
      else if os.macos ∧ config.interfaceName = "utun" then
        updateSession fun session =>
          { session with config :=
            { session.config with interfaceName := actual } }
        return actual
      else
        throw (.invalidConfig
          s!"requested TUN interface `{config.interfaceName}` but OS assigned `{actual}`")

def setupBypass (ctx : OutboundContext) : SessionBody Unit := do
  let config ← readConfig
  match ctx.interface with
  | none => return
  | some interface =>
      match os.bypassSetup interface config.fullTunnel with
      | some _ => return
      | none =>
          modify fun w => { w with
            session :=
              { w.session with bypass := some ⟨interface, config.fullTunnel⟩ }
            bypass := w.bypass.acquire }

def applyRoutes (interfaceName : String) : SessionBody Unit := do
  let config ← readConfig
  let applied ← onRoutes (apply os.routes interfaceName config.routes)
  updateSession fun session =>
    { session with routes := some applied, status := .routesApplied }

def sessionResolver (config : TunnelConfig) (systemServers : List IpAddr)
    (directed : Dialer) : Option DnsResolver :=
  DnsResolver.build config.dns (config.dns.resolveVpnServers os.lookupHost)
    systemServers directed

def buildVpnTun (systemServers : List IpAddr) (directed : Dialer) :
    SessionBody VpnTun := do
  let config ← readConfig
  match os.vpnTun with
  | .error source => throw (.tunCreate source)
  | .ok (name, mtu) =>
      return ⟨name, mtu, sessionResolver os config systemServers directed⟩

def startDnsServer (systemServers : List IpAddr) (directed : Dialer) :
    SessionBody Unit := do
  let config ← readConfig
  match sessionResolver os config systemServers directed with
  | none => return
  | some resolver =>
      if config.dnsListenPort = 0 then return
      else
        let bindV4 := dnsListenAddr config
        let bindV6 : SocketAddr := ⟨.v6 1, config.dnsListenPort⟩
        match os.startDnsServer bindV4 bindV6 with
        | some source => throw (.dnsServer source)
        | none =>
            modify fun w => { w with
              session :=
                { w.session with dnsServer := some ⟨bindV4, bindV6, resolver⟩ }
              dnsServer := w.dnsServer.acquire }

def buildDevice (ctx : OutboundContext) (tun : VpnTun) (privateKey : Bytes)
    (peer : Peer) : SessionBody Unit := do
  let config ← readConfig
  match os.buildDevice config.protocolMode with
  | some source => throw (.device source)
  | none =>
      let device : TunnelDevice := {
        transport := config.protocolMode
        dialer := ctx.directed
        tun := tun
        privateKey := privateKey
        listenPort := config.localPort
        peer := peer
        feilianIdentifier := feilianProtocolIdentifier config }
      modify fun w => { w with
        session := { w.session with device := some device }
        device := w.device.acquire }

def startProbe (ctx : OutboundContext) : SessionBody Unit := do
  let config ← readConfig
  let servers := config.dns.resolveVpnServers os.lookupHost
  modify fun w => { w with
    session := { w.session with
      probe := some ⟨ctx.routed, servers⟩
      status := .running }
    probe := w.probe.acquire }

def startInner : SessionBody Unit := do
  let config ← readConfig
  let privateKey ← ofExcept
      (decodeKey crates "local_private_key" config.localPrivateKey)
  let actualInterfaceName ← openTun crates os
  let ctx ← ofExcept (OutboundContext.build os config.outboundInterface
    actualInterfaceName config.fullTunnel)
  let systemServers := captureSystemDns os.systemDns config.fallbackDns
  updateSession fun session =>
    { session with config := session.config.routeSystemDnsIntoTunnel systemServers }
  let endpoint ← ofExcept (resolveEndpoint os config.endpoint ctx)
  let routed ← readConfig
  let peer ← ofExcept (tunnelPeer crates routed endpoint)
  -- the bypass must be there before the routes into the tunnel
  setupBypass os ctx
  applyRoutes os actualInterfaceName
  let tun ← buildVpnTun os systemServers ctx.directed
  startDnsServer os systemServers ctx.directed
  buildDevice os ctx tun privateKey peer
  startProbe os ctx

/-! ## Stopping -/

def dropProbe (w : World) : World :=
  { w with
    session := { w.session with probe := none }
    probe := w.probe.releaseHeld w.session.probe }

def shutdownDnsServer (w : World) : World :=
  { w with
    session := { w.session with dnsServer := none }
    dnsServer := w.dnsServer.releaseHeld w.session.dnsServer }

def teardownBypass (w : World) : World :=
  { w with
    session := { w.session with bypass := none }
    bypass := w.bypass.releaseHeld w.session.bypass }

def stopDevice (w : World) : World :=
  { w with
    session := { w.session with device := none }
    device := w.device.releaseHeld w.session.device }

def removeRoutes : SessionBody Unit := do
  match (← get).session.routes with
  | none => return
  | some applied => do
      updateSession fun session => { session with routes := none }
      onRoutes (applied.remove os.routes)

def stop : SessionBody Unit := do
  modify dropProbe
  modify shutdownDnsServer
  removeRoutes os
  modify teardownBypass
  modify stopDevice
  updateSession fun session => { session with status := .stopped }

/-- Start the session; a failed start is cleaned up by `stop`. -/
def start : SessionBody Unit := fun w =>
  match startInner crates os w with
  | .ok () w => .ok () w
  | .error e w => .error e (leaves (stop os w))

theorem readConfig_spec {P : World → Prop} {E : World → Prop} :
    Spec P readConfig (fun config w => P w ∧ config = w.session.config) E := by
  refine Spec.bind (Q := fun v w => P w ∧ v = w)
    (Spec.get fun w hw => ⟨hw, rfl⟩) fun v => Spec.pure ?_
  rintro w ⟨hw, rfl⟩
  exact ⟨hw, rfl⟩

/-! ## A small setting -/

def zeroKey : String := "AAAAAAAAAAAAAAAAAAAAAAAAAAAAAAAAAAAAAAAAAAA="

def smallQuery : Bytes :=
  [0x12, 0x34, 1, 0, 0, 1, 0, 0, 0, 0, 0, 0, 7, 0x65, 0x78, 0x61,
    0x6d, 0x70, 0x6c, 0x65, 3, 0x63, 0x6f, 0x6d, 0, 0, 1, 0, 1]

def smallCrates : SessionCrates where
  toLowercase := id
  parseUrl := fun _ => none
  wildMatch := fun pattern text => pattern = text
  fromVec := fun bytes =>
    if bytes = smallQuery then
      some ⟨0x1234, .query, .noError, false, [⟨"example.com.", .a⟩], [], [1]⟩
    else none
  toVec := fun _ => none
  parseNetwork := fun cidr =>
    if cidr = "10.0.0.0/8" then .ok (.v4 (Ipv4Addr.new 10 0 0 0) 8 (by decide))
    else .error "invalid address"
  base64Decode := fun value =>
    if value = zeroKey then some (List.replicate 32 0) else none
  hexDecode := fun _ => none

def smallResponse (vpnDns : Option String) (domains : List String) :
    VpnConnResponse :=
  .ofSetting "10.0.0.2" zeroKey
    { VpnConnSetting.ofMtu 1400 with
      vpnDns := vpnDns
      vpnDnsDomainSplit := some domains
      vpnRouteSplit := some ["10.0.0.0/8"]
      vpnRouteFull := some ["10.0.0.0/8"] }

def smallParams : LocalTunnelParams := ⟨zeroKey, zeroKey, 0, none⟩

def smallEndpoint : Url :=
  ⟨"udp", "", some (.ipv4 (Ipv4Addr.new 203 0 113 1)), some 51820⟩

def smallSettings : SessionSettings := ⟨none, none, none, none, none, none⟩

def smallInterface : OutboundInterface := ⟨"en0", 1, none, none⟩

def smallOs (interface : Option OutboundInterface) (routes : RouteOs) :
    SessionOs where
  macos := false
  createTun := fun request => .ok (request.name.getD "tun0")
  resolveInterface := fun _ _ _ => .ok interface
  tunInterface := fun _ => none
  discoverDns := .ok []
  systemDns := [.v4 (Ipv4Addr.new 192 168 1 1)]
  resolveHost := fun _ _ _ port => .ok [⟨.v4 (Ipv4Addr.new 203 0 113 1), port⟩]
  bypassSetup := fun _ _ => none
  routes := routes
  vpnTun := .ok ("wg0", 1400)
  lookupHost := fun endpoint =>
    if endpoint = "10.0.0.53:53" then some [⟨.v4 (Ipv4Addr.new 10 0 0 53), 53⟩]
    else if endpoint = "8.8.8.8:53" then some [⟨.v4 (Ipv4Addr.new 8 8 8 8), 53⟩]
    else none
  startDnsServer := fun _ _ => none
  buildDevice := fun _ => none

def cleanOs : SessionOs := smallOs (some smallInterface) (.ofDelete none)

def smallConfig (fullTunnel : Bool)
    (vpnServers splitMatchers : List String) : TunnelConfig where
  interfaceName := "wg0"
  localAddr := "10.0.0.2"
  localAddrV6 := none
  localPrefix := none
  mtu := 1400
  localPrivateKey := zeroKey
  localPublicKey := zeroKey
  localPort := 0
  serverPublicKey := zeroKey
  serverPresharedKey := none
  endpoint := smallEndpoint
  protocolMode := .udp
  protocolVersion := none
  outboundInterface := none
  routes := [.v4 (Ipv4Addr.new 10 0 0 0) 8 (by decide)]
  fullTunnel := fullTunnel
  ipv6Enabled := false
  dns := ⟨fullTunnel, vpnServers, splitMatchers, ⟨[], [], [], []⟩⟩
  routeSystemDns := true
  dnsListenPort := 0
  dnsListenHost := none
  fallbackDns := none

end Rustylink.Tunnel
