import Rustylink.Core.Login
import Rustylink.Core.Vpn
import Rustylink.Daemon.Config

/-!
# The lock-protected daemon state

`DaemonInner` is what the daemon's mutex guards.  Each function below is the
body of one lock-held section, or a part of one, of the connect, disconnect
and outbound-change code; the tunnel watch channel is represented by the last
value sent on it.
-/

namespace Rustylink.Daemon

open Rustylink.Core

abbrev TaskId := Nat

abbrev TokenId := Nat

/-! ## The `Tunnel` message -/

inductive Tunnel.State where
  | unspecified
  | disconnected
  | connecting
  | configuring
  | connected
  | reconnecting
  | disconnecting
  | failed
  deriving DecidableEq, Repr

inductive Tunnel.Mode where
  | unspecified
  | full
  | split
  deriving DecidableEq, Repr

inductive Tunnel.Protocol where
  | unspecified
  | udp
  | tcp
  deriving DecidableEq, Repr

structure Tunnel where
  state : Tunnel.State
  mode : Tunnel.Mode
  protocolMode : Tunnel.Protocol
  dotId : Int
  dotName : String
  endpoint : String
  assignedIp : String
  reconnectAttempts : Nat
  error : String
  deriving DecidableEq, Repr

def Tunnel.default : Tunnel where
  state := .unspecified
  mode := .unspecified
  protocolMode := .unspecified
  dotId := 0
  dotName := ""
  endpoint := ""
  assignedIp := ""
  reconnectAttempts := 0
  error := ""

def vpnModeToProto : VpnConnectMode → Tunnel.Mode
  | .full => .full
  | .split => .split

def protocolModeToProto : ProtocolMode → Tunnel.Protocol
  | .udp => .udp
  | .feilianTcp => .tcp

/-! ## The VPN machine -/

structure VpnMachine where
  state : VpnState
  cancelToken : TokenId
  deriving DecidableEq, Repr

namespace VpnMachine

def new (token : TokenId) : VpnMachine := ⟨.disconnected, token⟩

def canConnect (vpn : VpnMachine) : Bool := vpn.state.canConnect

def setConnecting (token : TokenId) (request : VpnRequest) : VpnMachine :=
  ⟨.intoConnecting request, token⟩

def transition (f : VpnState → VpnState) (vpn : VpnMachine) : VpnMachine :=
  { vpn with state := f vpn.state }

def setDisconnected (vpn : VpnMachine) : VpnMachine :=
  { vpn with state := .disconnected }

def requestProto (state : Tunnel.State) (request : VpnRequest) : Tunnel :=
  { Tunnel.default with
    state := state
    mode := vpnModeToProto request.mode
    protocolMode := protocolModeToProto request.protocolMode }

def toTunnelProto (vpn : VpnMachine) : Tunnel :=
  match vpn.state with
  | .disconnected => { Tunnel.default with state := .disconnected }
  | .connecting request => requestProto .connecting request
  | .configuring request => requestProto .configuring request
  | .connected request info =>
      { requestProto .connected request with
        protocolMode := protocolModeToProto info.protocolMode
        dotId := info.dotId
        dotName := info.dotName
        endpoint := info.endpoint
        assignedIp := info.assignedIp }
  | .reconnecting request attempts =>
      { requestProto .reconnecting request with reconnectAttempts := attempts }
  | .failed request error attempts =>
      { requestProto .failed request with
        error := error
        reconnectAttempts := attempts }
  | .disconnecting request => requestProto .disconnecting request

@[simp] theorem transition_state (f : VpnState → VpnState)
    (vpn : VpnMachine) : (vpn.transition f).state = f vpn.state := rfl

end VpnMachine

/-! ## The daemon state -/

/-- What the tunnel code reads of the auth machine. -/
structure AuthView where
  state : AuthState
  tenantClient : Bool
  httpPool : Option String
  deriving DecidableEq, Repr

structure DaemonInner where
  auth : AuthView
  vpn : Option VpnMachine
  config : DaemonConfig
  vpnWatchTx : Tunnel
  tunnelTask : Option TaskId
  activeOutbound : Option String
  deriving DecidableEq, Repr

namespace DaemonInner

def broadcast (f : VpnMachine → VpnMachine) (inner : DaemonInner) :
    DaemonInner :=
  match inner.vpn with
  | none => inner
  | some vpn =>
      { inner with vpn := some (f vpn), vpnWatchTx := (f vpn).toTunnelProto }

def vpnTransition (f : VpnState → VpnState) (inner : DaemonInner) :
    DaemonInner :=
  inner.broadcast (VpnMachine.transition f)

def markDisconnected (inner : DaemonInner) : DaemonInner :=
  broadcast VpnMachine.setDisconnected { inner with activeOutbound := none }

def markFailed (error : String) (inner : DaemonInner) : DaemonInner :=
  vpnTransition (VpnState.intoFailed error)
    { inner with activeOutbound := none }

def getTunnel (inner : DaemonInner) : Tunnel :=
  inner.vpn.elim Tunnel.default VpnMachine.toTunnelProto

@[simp] theorem broadcast_vpn (f : VpnMachine → VpnMachine)
    (inner : DaemonInner) : (inner.broadcast f).vpn = inner.vpn.map f := by
  cases h : inner.vpn <;> simp [broadcast, h]

@[simp] theorem broadcast_tunnelTask (f : VpnMachine → VpnMachine)
    (inner : DaemonInner) :
    (inner.broadcast f).tunnelTask = inner.tunnelTask := by
  cases h : inner.vpn <;> simp [broadcast, h]

@[simp] theorem broadcast_activeOutbound (f : VpnMachine → VpnMachine)
    (inner : DaemonInner) :
    (inner.broadcast f).activeOutbound = inner.activeOutbound := by
  cases h : inner.vpn <;> simp [broadcast, h]

@[simp] theorem vpnTransition_vpn (f : VpnState → VpnState)
    (inner : DaemonInner) :
    (inner.vpnTransition f).vpn = inner.vpn.map (VpnMachine.transition f) :=
  broadcast_vpn _ _

@[simp] theorem vpnTransition_tunnelTask (f : VpnState → VpnState)
    (inner : DaemonInner) :
    (inner.vpnTransition f).tunnelTask = inner.tunnelTask :=
  broadcast_tunnelTask _ _

@[simp] theorem markDisconnected_vpn (inner : DaemonInner) :
    inner.markDisconnected.vpn = inner.vpn.map VpnMachine.setDisconnected :=
  broadcast_vpn _ _

@[simp] theorem markDisconnected_tunnelTask (inner : DaemonInner) :
    inner.markDisconnected.tunnelTask = inner.tunnelTask :=
  broadcast_tunnelTask _ _

@[simp] theorem markFailed_vpn (error : String) (inner : DaemonInner) :
    (inner.markFailed error).vpn =
      inner.vpn.map (VpnMachine.transition (VpnState.intoFailed error)) :=
  broadcast_vpn _ _

@[simp] theorem markFailed_tunnelTask (error : String) (inner : DaemonInner) :
    (inner.markFailed error).tunnelTask = inner.tunnelTask :=
  broadcast_tunnelTask _ _

end DaemonInner

end Rustylink.Daemon
