import Rustylink.Foundation.Base64
import Rustylink.Foundation.Hex
import Rustylink.Foundation.Trimming
import Rustylink.Tunnel.Started

/-!
# The keys of a session

Every connect makes a key pair of its own.  The secret one goes into the
settings of the session as text, which the start of the session reads again,
and the public one goes to the server.
-/

namespace Rustylink.Tunnel

open Rustylink.Foundation Rustylink.Api Rustylink.Core Rustylink.Dns

structure Key where
  bytes : Bytes
  size : bytes.length = 32

structure PlainCodecs (crates : SessionCrates) : Prop where
  base64 : crates.base64Decode = Base64.decode
  hex : crates.hexDecode = hexDecode

variable {crates : SessionCrates} {os : SessionOs}

/-! ## Reading a key -/

theorem decodeKey_size {name value : String} {key : Bytes}
    (h : decodeKey crates name value = .ok key) : key.length = 32 := by
  unfold decodeKey at h
  dsimp only at h
  split at h
  · split at h
    · cases h
      assumption
    · cases h
  · cases h

theorem decodeKey_error {name value : String} {e : SessionError}
    (h : decodeKey crates name value = .error e) : e = .invalidKey name := by
  unfold decodeKey at h
  dsimp only at h
  split at h
  · split at h
    · cases h
    · cases h
      rfl
  · cases h
    rfl

theorem decodeKey_of_base64 {name value : String} {bytes : Bytes}
    (h : crates.base64Decode (trim value) = some bytes) :
    decodeKey crates name value =
      if bytes.length = 32 then .ok bytes else .error (.invalidKey name) := by
  unfold decodeKey
  dsimp only
  rw [h]
  rfl

theorem decodeKey_of_not_base64 {name value : String}
    (h : crates.base64Decode (trim value) = none) :
    decodeKey crates name value =
      match crates.hexDecode (trim value) with
      | some bytes => if bytes.length = 32 then .ok bytes else .error
            (.invalidKey name)
      | none => .error (.invalidKey name) := by
  unfold decodeKey
  dsimp only
  rw [h]
  rfl

theorem decodeKey_eq_ok_iff (hplain : PlainCodecs crates) {name value : String}
    {key : Bytes} :
    decodeKey crates name value = .ok key ↔ key.length = 32 ∧
      trim value = Base64.encode key := by
  cases hbase64 : crates.base64Decode (trim value) with
  | some bytes =>
      rw [decodeKey_of_base64 hbase64]
      rw [hplain.base64, Base64.decode_eq_some_iff] at hbase64
      rw [hbase64, Base64.encode_inj]
      constructor
      · intro h
        split at h
        · cases h
          exact ⟨‹_›, rfl⟩
        · cases h
      · rintro ⟨hsize, rfl⟩
        exact if_pos hsize
  | none =>
      rw [decodeKey_of_not_base64 hbase64]
      rw [hplain.base64] at hbase64
      constructor
      · intro h
        split at h
        · rename_i bytes hhex
          split at h
          · rename_i hsize
            rw [hplain.hex] at hhex
            obtain ⟨others, hothers, -⟩ :=
              Base64.decode_of_hex hhex (n := 16) hsize
            rw [hothers] at hbase64
            cases hbase64
          · cases h
        · cases h
      · rintro ⟨-, htext⟩
        rw [htext, Base64.decode_encode] at hbase64
        cases hbase64

theorem decodeKey_hex (hplain : PlainCodecs crates) {name value : String}
    {bytes : Bytes} (h : hexDecode (trim value) = some bytes) :
    decodeKey crates name value = .error (.invalidKey name) := by
  cases hkey : decodeKey crates name value with
  | error e => rw [decodeKey_error hkey]
  | ok key =>
      obtain ⟨hsize, htext⟩ := (decodeKey_eq_ok_iff hplain).mp hkey
      have hlength := (hexDecodeChars_spec h).1
      rw [htext, Base64.length_encode, hsize] at hlength
      obtain ⟨others, hothers, hcount⟩ :=
        Base64.decode_of_hex h (n := 11) (by omega)
      rw [htext, Base64.decode_encode] at hothers
      cases hothers
      omega

/-- What `decode_key` takes for a key, and what it never does. -/
theorem decode_key_law (hplain : PlainCodecs crates) (name value : String) :
    (∀ key, decodeKey crates name value = .ok key ↔
      key.length = 32 ∧ trim value = Base64.encode key) ∧
    ∀ bytes, hexDecode (trim value) = some bytes →
      decodeKey crates name value = .error (.invalidKey name) :=
  ⟨fun _ => decodeKey_eq_ok_iff hplain, fun _ => decodeKey_hex hplain⟩

def plainCrates : SessionCrates :=
  { smallCrates with
    base64Decode := Base64.decode
    hexDecode := hexDecode }

theorem decode_key_law_hexText :
    decodeKey plainCrates "server_public_key"
      (hexEncode (List.replicate 32 7)) =
      .error (.invalidKey "server_public_key") :=
  (decode_key_law ⟨rfl, rfl⟩ _ _).2 (List.replicate 32 7) (by decide +kernel)

/-! ## Making a key pair -/

def androidLocalPortStart : Nat := 12912

def chooseLocalPort (free : Nat → Bool) : Nat :=
  ((List.range' androidLocalPortStart (65535 - androidLocalPortStart)).find?
    free).getD 0

structure KeyCrates extends SessionCrates where
  base64Encode : Bytes → String
  publicKey : Key → Key

structure PlainKeys (crates : KeyCrates) : Prop extends
    PlainCodecs crates.toSessionCrates where
  encode : crates.base64Encode = Base64.encode

namespace LocalTunnelParams

variable (crates : KeyCrates) (free : Nat → Bool)

def fromSecret (secret : Key) : LocalTunnelParams where
  localPrivateKey := crates.base64Encode secret.bytes
  localPublicKey := crates.base64Encode (crates.publicKey secret).bytes
  localPort := chooseLocalPort free
  localDns := none

def generate (random : Key) : LocalTunnelParams := fromSecret crates free random

def fromPrivateKey (value : String) : Except SessionError LocalTunnelParams :=
  match h : decodeKey crates.toSessionCrates "local_private_key" value with
  | .ok secret => .ok (fromSecret crates free ⟨secret, decodeKey_size h⟩)
  | .error e => .error e

end LocalTunnelParams

/-- What a session was given as keys is what its device runs with. -/
structure Keyed (crates : SessionCrates) (config : TunnelConfig)
    (device : TunnelDevice) : Prop where
  privateKey : decodeKey crates "local_private_key" config.localPrivateKey =
    .ok device.privateKey
  publicKey : decodeKey crates "server_public_key" config.serverPublicKey =
    .ok device.peer.publicKey
  presharedKey : device.peer.presharedKey.map Except.ok =
    (config.serverPresharedKey.filter (· ≠ "")).map
    (decodeKey crates "server_preshared_key")
  listenPort : device.listenPort = config.localPort
  identifier : device.feilianIdentifier = feilianProtocolIdentifier config

theorem tunnelPeer_keys {config : TunnelConfig} {endpoint : SocketAddr}
    {peer : Peer} (h : tunnelPeer crates config endpoint = .ok peer) :
    decodeKey crates "server_public_key" config.serverPublicKey =
      .ok peer.publicKey ∧
      peer.presharedKey.map Except.ok =
        (config.serverPresharedKey.filter (· ≠ "")).map
        (decodeKey crates "server_preshared_key") := by
  unfold tunnelPeer at h
  obtain ⟨publicKey, hpublic, h⟩ := bind_eq_ok.mp h
  dsimp only at h
  cases hfilter : config.serverPresharedKey.filter (· ≠ "") with
  | none =>
      rw [hfilter] at h
      cases h
      exact ⟨hpublic, rfl⟩
  | some value =>
      rw [hfilter] at h
      obtain ⟨presharedKey, hpreshared, h⟩ := bind_eq_ok.mp h
      cases h
      cases hkey : decodeKey crates "server_preshared_key" value with
      | error e =>
          rw [hkey] at hpreshared
          cases hpreshared
      | ok key =>
          rw [hkey] at hpreshared
          cases hpreshared
          refine ⟨hpublic, ?_⟩
          rw [Option.map_some, Option.map_some, hkey]

theorem buildDevice_keyed {config : TunnelConfig} {ctx : OutboundContext}
    {tun : VpnTun} {privateKey : Bytes} {peer : Peer} :
    Spec (fun w => Named config w.session.config)
      (buildDevice os ctx tun privateKey peer)
      (fun _ w => ∃ device, w.session.device = some device ∧
        device.privateKey = privateKey ∧
        device.peer = peer ∧ device.listenPort = config.localPort ∧
        device.feilianIdentifier = feilianProtocolIdentifier config) fun _ =>
          True := by
  refine Spec.bind readConfig_spec fun read => ?_
  refine Spec.pre (P := fun _ => True ∧ Named config read)
    (fun w h => ⟨trivial, by rw [h.2]; exact h.1⟩) (Spec.extract ?_)
  rintro ⟨name, rfl⟩
  split
  · exact Spec.throw fun _ _ => trivial
  · exact Spec.modify fun w _ => ⟨_, rfl, rfl, rfl, rfl, rfl⟩

theorem startInner_keyed (config : TunnelConfig) :
    Spec (fun w => w.session.config = config) (startInner crates os)
      (fun _ w => ∃ device, w.session.device = some device ∧
        Keyed crates config device)
      fun _ => True := by
  have hfail : ∀ {P : World → Prop}, ∀ w, P w → True := fun _ _ => trivial
  refine Spec.bind (readConfig_spec) fun read => ?_
  refine Spec.pre (P := fun w => w.session.config = config ∧ read = config)
    (fun w h => ⟨h.1, h.2.trans h.1⟩) (Spec.extract ?_)
  rintro rfl
  refine Spec.bind_ofExcept (fun privateKey hprivate => ?_) hfail
  refine Spec.bind openTun_named fun tunName => ?_
  refine Spec.bind_ofExcept (fun ctx _ => ?_) hfail
  refine Spec.bind
    (Q := fun _ w =>
      Named (read.routeSystemDnsIntoTunnel (capturedServers os read))
      w.session.config) (Spec.modify fun w h => ?_) fun _ => ?_
  · obtain ⟨name, hname⟩ := h
    exact ⟨name, congrArg
      (fun c : TunnelConfig =>
        c.routeSystemDnsIntoTunnel (capturedServers os read)) hname⟩
  refine Spec.bind_ofExcept (fun endpoint _ => ?_) hfail
  refine Spec.bind readConfig_spec fun routed => ?_
  refine Spec.pre (P := fun w =>
    Named (read.routeSystemDnsIntoTunnel (capturedServers os read))
      w.session.config ∧
      Named (read.routeSystemDnsIntoTunnel (capturedServers os read)) routed)
    (fun w h => ⟨h.1, by rw [h.2]; exact h.1⟩) (Spec.extract ?_)
  rintro ⟨routedName, rfl⟩
  refine Spec.bind_ofExcept (fun peer hpeer => ?_) hfail
  refine Spec.bind (setupBypass_keeps _) fun _ => ?_
  refine Spec.bind (applyRoutes_keeps _) fun _ => ?_
  refine Spec.bind (buildVpnTun_resolver.weaken (fun _ h => h)
    (fun _ _ h => h.1) hfail) fun tun => ?_
  refine Spec.bind (startDnsServer_keeps _) fun _ => ?_
  refine Spec.bind buildDevice_keyed fun _ => ?_
  refine Spec.bind readConfig_spec fun last => Spec.modify ?_
  rintro w ⟨⟨device, hdevice, rfl, rfl, hport, hidentifier⟩, -⟩
  obtain ⟨hpublic, hpreshared⟩ := tunnelPeer_keys hpeer
  exact ⟨device, hdevice, hprivate, hpublic, hpreshared, hport, hidentifier⟩

theorem keyed_of_start {config : TunnelConfig} {device : TunnelDevice}
    {w : World} (hstart : start crates os (.new config) = .ok () w)
    (hdevice : w.session.device = some device) :
    Keyed crates config device := by
  unfold start at hstart
  cases hrun : startInner crates os (.new config) with
  | ok value started =>
      rw [hrun] at hstart
      cases hstart
      obtain ⟨held, hheld, hkeyed⟩ := (startInner_keyed config).ok rfl hrun
      have heq : held = device := Option.some.inj (hheld.symm.trans hdevice)
      exact heq ▸ hkeyed
  | error e failed =>
      rw [hrun] at hstart
      cases hstart

/-! ## From a key pair to its device -/

theorem trim_encode (bytes : Bytes) :
    trim (Base64.encode bytes) = Base64.encode bytes :=
  trim_of_clean (.of_forall (Base64.encode_not_whitespace bytes))

theorem decodeKey_encode (hplain : PlainCodecs crates)
    (name : String) (key : Key) :
    decodeKey crates name (Base64.encode key.bytes) = .ok key.bytes :=
  (decodeKey_eq_ok_iff hplain).mpr ⟨key.size, trim_encode key.bytes⟩

theorem fromVpnConn_keys {macos : Bool} {conn : VpnConnResponse}
    {localParams : LocalTunnelParams} {endpoint : Url}
    {protocolMode : ProtocolMode} {routeMode : VpnRouteMode}
    {base : TunnelConfig}
    (h : TunnelConfig.fromVpnConn crates macos conn localParams endpoint
      protocolMode routeMode = .ok base) :
    base.localPrivateKey = localParams.localPrivateKey ∧
      base.localPort = localParams.localPort ∧
      base.serverPublicKey = conn.publicKey ∧
        base.serverPresharedKey = conn.presharedKey := by
  unfold TunnelConfig.fromVpnConn at h
  split at h
  · cases h
  · dsimp only at h
    split at h
    · cases h
    · cases h
      exact ⟨rfl, rfl, rfl, rfl⟩

section Pair

variable {keys : KeyCrates} {free : Nat → Bool}

theorem fromPrivateKey_generate (hplain : PlainKeys keys) (random : Key) :
    LocalTunnelParams.fromPrivateKey keys free
        (LocalTunnelParams.generate keys free random).localPrivateKey =
      .ok (.generate keys free random) := by
  have hdecode : decodeKey keys.toSessionCrates "local_private_key"
      (LocalTunnelParams.generate keys free random).localPrivateKey =
          .ok random.bytes := by
    show decodeKey _ _ (keys.base64Encode random.bytes) = _
    rw [hplain.encode]
    exact decodeKey_encode hplain.toPlainCodecs _ random
  unfold LocalTunnelParams.fromPrivateKey
  split
  · rename_i secret h
    obtain rfl : secret = random.bytes := Except.ok.inj (h.symm.trans hdecode)
    rfl
  · rename_i e h
    cases h.symm.trans hdecode

structure PeerKeys (keys : KeyCrates) (conn : VpnConnResponse)
    (peer : Peer) : Prop where
  publicKey : ∃ server : Key, peer.publicKey = server.bytes ∧
    trim conn.publicKey = keys.base64Encode server.bytes
  presharedKey : peer.presharedKey.map keys.base64Encode =
    (conn.presharedKey.filter (· ≠ "")).map trim
  size : ∀ key ∈ peer.presharedKey, key.length = 32

theorem Keyed.peerKeys {config : TunnelConfig} {device : TunnelDevice}
    {conn : VpnConnResponse} (hplain : PlainKeys keys)
    (h : Keyed keys.toSessionCrates config device)
    (hpublic : config.serverPublicKey = conn.publicKey)
    (hpreshared : config.serverPresharedKey = conn.presharedKey) :
    PeerKeys keys conn device.peer := by
  have hserver := h.publicKey
  rw [hpublic, decodeKey_eq_ok_iff hplain.toPlainCodecs] at hserver
  have hboth := h.presharedKey
  rw [hpreshared] at hboth
  refine ⟨⟨⟨_, hserver.1⟩, rfl, by rw [hplain.encode]; exact hserver.2⟩, ?_,
    fun key hkey => ?_⟩
  · rw [hplain.encode]
    cases hfilter : conn.presharedKey.filter (· ≠ "") with
    | none =>
        rw [hfilter, Option.map_none, Option.map_eq_none_iff] at hboth
        rw [hboth]
        rfl
    | some value =>
        rw [hfilter, Option.map_some, Option.map_eq_some_iff] at hboth
        obtain ⟨key, hkey, hvalue⟩ := hboth
        rw [hkey, Option.map_some, Option.map_some,
          ((decodeKey_eq_ok_iff hplain.toPlainCodecs).mp hvalue.symm).2]
  · rw [Option.mem_def.mp hkey] at hboth
    obtain ⟨value, -, hvalue⟩ := Option.map_eq_some_iff.mp hboth.symm
    exact decodeKey_size hvalue

theorem Keyed.privateKey_generate {config : TunnelConfig}
    {device : TunnelDevice} {random : Key} (hplain : PlainKeys keys)
    (h : Keyed keys.toSessionCrates config device)
    (hprivate : config.localPrivateKey =
      (LocalTunnelParams.generate keys free random).localPrivateKey) :
    device.privateKey = random.bytes := by
  have hread := h.privateKey
  have htext : config.localPrivateKey = Base64.encode random.bytes := by
    rw [hprivate, ← hplain.encode]
    rfl
  rw [htext] at hread
  exact Except.ok.inj
    (hread.symm.trans (decodeKey_encode hplain.toPlainCodecs _ random))

end Pair

end Rustylink.Tunnel
