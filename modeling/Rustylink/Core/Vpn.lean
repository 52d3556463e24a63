import Mathlib.Algebra.Group.Nat.Defs
import Mathlib.Data.Int.Basic

/-!
# Pure VPN connection state

The runtime-agnostic state of the tunnel.  Each transition consumes the
current state and returns the next one; the daemon owns the live resources
and applies these transitions under its lock.
-/

namespace Rustylink.Core

inductive VpnConnectMode where
  | full
  | split
  deriving DecidableEq, Repr

def VpnConnectMode.androidId : VpnConnectMode → Int
  | .full => 0
  | .split => 1

def VpnConnectMode.androidName : VpnConnectMode → String
  | .full => "Full"
  | .split => "Split"

/-- The transports a tunnel runs on; `feilianTcp` is the framed TCP one. -/
inductive ProtocolMode where
  | udp
  | feilianTcp
  deriving DecidableEq, Repr

structure VpnRequest where
  mode : VpnConnectMode
  locationId : Option Int
  otp : Option String
  reconnect : Bool
  protocolMode : ProtocolMode
  deriving DecidableEq, Repr

def VpnRequest.default : VpnRequest where
  mode := .full
  locationId := none
  otp := none
  reconnect := true
  protocolMode := .udp

structure ActiveTunnel where
  dotId : Int
  dotName : String
  endpoint : String
  assignedIp : String
  protocolMode : ProtocolMode
  deriving DecidableEq, Repr

inductive VpnState where
  | disconnected
  | connecting (request : VpnRequest)
  | configuring (request : VpnRequest)
  | connected (request : VpnRequest) (tunnelInfo : ActiveTunnel)
  | reconnecting (request : VpnRequest) (attempts : Nat)
  | failed (request : VpnRequest) (error : String) (attempts : Nat)
  | disconnecting (request : VpnRequest)
  deriving DecidableEq, Repr

def u32Max : Nat := 2 ^ 32 - 1

namespace VpnState

/-! ## Queries -/

def canConnect : VpnState → Bool
  | .disconnected | .failed .. => true
  | _ => false

def isFailed : VpnState → Bool
  | .failed .. => true
  | _ => false

def attempts : VpnState → Nat
  | .reconnecting _ attempts | .failed _ _ attempts => attempts
  | _ => 0

def currentRequest : VpnState → Option VpnRequest
  | .connecting request | .configuring request | .connected request _
  | .reconnecting request _ | .failed request _ _ | .disconnecting request =>
      some request
  | .disconnected => none

/-! ## Transitions -/

def intoRequest (state : VpnState) : VpnRequest :=
  state.currentRequest.getD VpnRequest.default

def intoConnecting (request : VpnRequest) : VpnState := .connecting request

def intoConfiguring (state : VpnState) : VpnState :=
  .configuring state.intoRequest

def intoConnected (tunnelInfo : ActiveTunnel) (state : VpnState) : VpnState :=
  .connected state.intoRequest tunnelInfo

def intoReconnecting (state : VpnState) : VpnState :=
  .reconnecting state.intoRequest (min (state.attempts + 1) u32Max)

def intoFailed (error : String) (state : VpnState) : VpnState :=
  .failed state.intoRequest error state.attempts

def intoDisconnecting (state : VpnState) : VpnState :=
  .disconnecting state.intoRequest

@[simp] theorem canConnect_disconnected : disconnected.canConnect = true := rfl

theorem canConnect_iff {state : VpnState} :
    state.canConnect = true ↔ state.isFailed = true ∨
      state = .disconnected := by
  cases state <;> simp [canConnect, isFailed]

theorem isFailed_eq_false {state : VpnState} (h : state.canConnect = false) :
    state.isFailed = false := by
  cases state <;> simp_all [canConnect, isFailed]

theorem currentRequest_eq_none_iff {state : VpnState} :
    state.currentRequest = none ↔ state = .disconnected := by
  cases state <;> simp [currentRequest]

end VpnState

end Rustylink.Core
