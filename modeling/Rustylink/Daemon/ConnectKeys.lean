import Rustylink.Core.DotVisits
import Rustylink.Daemon.ProbePath
import Rustylink.Tunnel.Keys

/-!
# The keys of a connect attempt

An attempt makes a key pair, asks the dots for a config under its public key,
and starts a session with what the reply has.  The device of that session runs
with the secret key of the pair.
-/

namespace Rustylink.Daemon

open Rustylink.Foundation Rustylink.Api Rustylink.Core Rustylink.Tunnel

variable {Body Json : Type}

def keyRequest (crates : KeyCrates) (free : Nat → Bool) (random : Key)
    (request : VpnRequest) (otp : Option String) : VpnConfigRequest :=
  configRequest request
    (LocalTunnelParams.generate crates free random).localPublicKey otp

/-- An attempt that gets a config from a dot and starts a session with it. -/
inductive Attempted (crates : KeyCrates) (os : SessionOs) (free : Nat → Bool)
    (random : Key) (request : VpnRequest) (otp : Option String)
    (world : DotWorld Body Json)
    (log : List (DotCall Dns.Url)) (conn : VpnConnResponse)
    (device : TunnelDevice) : Prop
  | session {result : VpnConfigResult Dns.Url Json} {macos : Bool}
      {protocolMode : ProtocolMode} {routeMode : VpnRouteMode}
      {base : TunnelConfig}
      {settings : SessionSettings} {w : World}
      (hconfig : vpnConfigFromDotList crates.parseUrl world
        (keyRequest crates free random request otp) [] = .ok result log)
      (hdata : result.response.data = some conn)
      (hconn : TunnelConfig.fromVpnConn crates.toSessionCrates macos conn
        (.generate crates free random)
          result.endpoint.wireguardEndpoint protocolMode
        routeMode = .ok base)
      (hstart : start crates.toSessionCrates os
        (.new (base.withSettings settings)) = .ok () w)
      (hdevice : w.session.device = some device)

variable {crates : KeyCrates} {os : SessionOs} {free : Nat → Bool}
  {random : Key}
  {request : VpnRequest} {otp : Option String} {world : DotWorld Body Json}
  {log : List (DotCall Dns.Url)} {conn : VpnConnResponse}
  {device : TunnelDevice}

/--
The device runs with the secret that was drawn, and with the peer's keys as the
reply has them.  Every request for a config carried the public key of that
secret, and some dot was sent one.  The text of the secret is that of the pair.
-/
theorem session_keys (hplain : PlainKeys crates)
    (h : Attempted crates os free random request otp world log conn device) :
    device.privateKey = random.bytes ∧
    ((∃ endpoint body, .conn endpoint body ∈ log) ∧
      ∀ endpoint body, .conn endpoint body ∈ log →
        crates.base64Decode body.publicKey =
          some (crates.publicKey random).bytes) ∧
    PeerKeys crates conn device.peer ∧
      device.listenPort = chooseLocalPort free ∧
    LocalTunnelParams.fromPrivateKey crates free
        (LocalTunnelParams.generate crates free random).localPrivateKey =
      .ok (.generate crates free random) := by
  obtain ⟨hconfig, -, hconn, hstart, hdevice⟩ := h
  obtain ⟨hprivate, hport, hpublic, hpreshared⟩ := fromVpnConn_keys hconn
  have hkeyed := keyed_of_start hstart hdevice
  obtain ⟨hanswered, hbodies⟩ := vpnConfig_asked hconfig
  refine ⟨hkeyed.privateKey_generate hplain hprivate, ⟨⟨_, _, hanswered⟩, ?_⟩,
    hkeyed.peerKeys hplain hpublic hpreshared, hkeyed.listenPort.trans hport,
    fromPrivateKey_generate hplain random⟩
  intro endpoint body hbody
  obtain ⟨dot, rfl⟩ := hbodies endpoint body hbody
  show crates.base64Decode
      (crates.base64Encode (crates.publicKey random).bytes) = _
  rw [hplain.base64, hplain.encode]
  exact Base64.decode_encode _

/-! ## An attempt -/

def turningKeys : KeyCrates :=
  { Tunnel.plainCrates with
    parseUrl := parseEndpointUrl
    base64Encode := Base64.encode
    publicKey := fun secret => ⟨secret.bytes.reverse, by simp [secret.size]⟩ }

theorem turningKeys_plain : PlainKeys turningKeys := ⟨⟨rfl, rfl⟩, rfl⟩

def countedSecret : Key := ⟨(List.range 32).map UInt8.ofNat, by decide⟩

def blankedResponse : VpnConnResponse :=
  { smallResponse none [] with presharedKey := some (" " ++ zeroKey) }

def servingDot (ip : String) : VpnDot :=
  { dotExample ip (some 8443) with reconnect := some true }

def blankedWorld : DotWorld Unit Unit where
  locations :=
    .ok (.ofData (some [servingDot "192.0.2.1", servingDot "203.0.113.1"]))
  rank := id
  conn candidate _ :=
    if candidate = 0 then .error (.missingVpnDotField "host")
    else .ok (.ofData (some blankedResponse))

def blankedRequest : VpnConfigRequest :=
  keyRequest turningKeys (· = 12913) countedSecret .default none

def blankedEndpoint : Dns.Url :=
  ⟨"udp", "/", some (.domain "203.0.113.1"), some 51820⟩

def blankedConfig : TunnelConfig :=
  let pair : LocalTunnelParams :=
    .generate turningKeys (· = 12913) countedSecret
  { smallConfig false [] [] with
    localPrivateKey := pair.localPrivateKey
    localPublicKey := pair.localPublicKey
    localPort := pair.localPort
    serverPresharedKey := blankedResponse.presharedKey
    endpoint := blankedEndpoint }

theorem session_keys_blanked :
    ∃ log device, Attempted turningKeys cleanOs (· = 12913)
      countedSecret .default none
        blankedWorld log blankedResponse device ∧
      device.privateKey = countedSecret.bytes ∧
      (∀ endpoint body, .conn endpoint body ∈ log →
        turningKeys.base64Decode body.publicKey =
          some countedSecret.bytes.reverse) ∧
      device.peer.presharedKey.map Base64.encode = some zeroKey ∧
      device.listenPort = 12913 := by
  obtain ⟨result, hconfig, hresult⟩ := eq_ok_of_any
    (r := vpnConfigFromDotList turningKeys.parseUrl blankedWorld blankedRequest
      [])
    (p := fun result => result.response.data = some blankedResponse &&
      result.endpoint.wireguardEndpoint = blankedEndpoint) (by decide +kernel)
  simp only [Bool.and_eq_true, decide_eq_true_eq] at hresult
  have hconn : TunnelConfig.fromVpnConn turningKeys.toSessionCrates false
      blankedResponse (.generate turningKeys (· = 12913) countedSecret)
        blankedEndpoint .udp .split = .ok blankedConfig := by decide +kernel
  rw [← hresult.2] at hconn
  have hstart :=
    eq_ok_of_succeeds (r := start turningKeys.toSessionCrates cleanOs
    (.new (blankedConfig.withSettings smallSettings))) (by decide +kernel)
  obtain ⟨device, hrun⟩ := start_running hstart
  have hattempt :=
    Attempted.session hconfig hresult.1 hconn hstart hrun.hasDevice
  obtain ⟨hprivate, ⟨-, hasked⟩, hpeer, hport, -⟩ :=
    session_keys turningKeys_plain hattempt
  refine ⟨_, device, hattempt, hprivate, hasked, ?_,
    hport.trans (by decide +kernel)⟩
  exact hpeer.presharedKey.trans (by decide +kernel)

end Rustylink.Daemon
