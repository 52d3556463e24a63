import Rustylink.Foundation.TaskPool
import Rustylink.Foundation.Transition
import Rustylink.Daemon.State
import Rustylink.Tunnel.Reconnect

/-!
# Interleaved tunnel operations

The daemon's tunnel code as a transition system.  Each lock-held section is
one step, and so is each point between sections where another party can move:
an awaited call, a token that is cancelled or tested outside the lock.  The
parties are the spawned connect loops, the `DisconnectTunnel` calls and the
`UpdateConfiguration` calls in progress; a `ConnectTunnel` call is a single
section.
-/

namespace Rustylink.Daemon

open Rustylink.Foundation Rustylink.Core Rustylink.Tunnel

/-! ## The connect loop -/

inductive SupervisorOutcome where
  | trigger (event : ReconnectEvent) (wasHealthy : Bool)
  | serverKickOut (wasHealthy : Bool)
  | cancelled
  deriving DecidableEq, Repr

structure DotConn where
  dotId : Option Int
  dotName : Option String
  dotProtocolMode : Option Int
  endpoint : String
  assignedIp : String
  deriving DecidableEq, Repr

def effectiveTransport (dotMode : Option Int) (requested : ProtocolMode) :
    ProtocolMode :=
  match dotMode with
  | some 0 => .udp
  | some 1 => .feilianTcp
  | _ => requested

def DotConn.activeTunnel (conn : DotConn) (request : VpnRequest) :
    ActiveTunnel where
  dotId := conn.dotId.getD 0
  dotName := conn.dotName.getD ""
  endpoint := conn.endpoint
  assignedIp := conn.assignedIp
  protocolMode := effectiveTransport conn.dotProtocolMode request.protocolMode

/-- Where a connect loop stands; a constructor names what it does next. -/
inductive LoopPc where
  | setConfiguring
  | checkClient
  | computeOtp
  | snapshotPool
  | fetchConfig
  | startSession (conn : DotConn)
  | openSession (conn : DotConn)
  | markConnected (conn : DotConn)
  | persistCredentials
  | reportClient
  | readOutbound
  | supervise
  | teardown (outcome : SupervisorOutcome)
  | attemptFailed (error : String)
  | checkCancelled
  | handleDecision (decision : ReconnectDecision)
  | backoff
  | markDisconnected
  | returned
  deriving DecidableEq, Repr

structure LoopTask where
  request : VpnRequest
  cancel : TokenId
  controller : ReconnectController
  pc : LoopPc
  deriving DecidableEq, Repr

namespace LoopTask

def live (task : LoopTask) : Prop := task.pc ≠ .returned

instance (task : LoopTask) : Decidable task.live :=
  inferInstanceAs (Decidable (task.pc ≠ .returned))

def holdsSession (task : LoopTask) : Bool :=
  match task.pc with
  | .markConnected _ | .persistCredentials | .reportClient | .readOutbound
  | .supervise | .teardown _ => true
  | _ => false

def goto (pc : LoopPc) (task : LoopTask) : LoopTask := { task with pc := pc }

def record (event : ReconnectEvent) (task : LoopTask) : LoopTask :=
  let (controller, decision) := task.controller.record event
  { task with controller := controller, pc := .handleDecision decision }

def resetIf (wasHealthy : Bool) (task : LoopTask) : LoopTask :=
  if wasHealthy then { task with controller := task.controller.reset } else task

def afterOutcome (outcome : SupervisorOutcome) (task : LoopTask) : LoopTask :=
  match outcome with
  | .cancelled => task.goto .markDisconnected
  | .serverKickOut wasHealthy => (task.resetIf wasHealthy).record .serverKickOut
  | .trigger event wasHealthy => (task.resetIf wasHealthy).record event

@[simp] theorem goto_cancel (pc : LoopPc) (task : LoopTask) :
    (task.goto pc).cancel = task.cancel := rfl

@[simp] theorem goto_pc (pc : LoopPc) (task : LoopTask) :
    (task.goto pc).pc = pc := rfl

@[simp] theorem record_cancel (event : ReconnectEvent) (task : LoopTask) :
    (task.record event).cancel = task.cancel := rfl

@[simp] theorem record_pc (event : ReconnectEvent) (task : LoopTask) :
    (task.record event).pc =
      .handleDecision (task.controller.record event).2 := rfl

@[simp] theorem resetIf_cancel (wasHealthy : Bool) (task : LoopTask) :
    (task.resetIf wasHealthy).cancel = task.cancel := by
  cases wasHealthy <;> rfl

@[simp] theorem afterOutcome_cancel (outcome : SupervisorOutcome)
    (task : LoopTask) : (task.afterOutcome outcome).cancel = task.cancel := by
  cases outcome <;> simp [afterOutcome]

@[simp] theorem resetIf_request (wasHealthy : Bool) (task : LoopTask) :
    (task.resetIf wasHealthy).request = task.request := by
  cases wasHealthy <;> rfl

theorem afterOutcome_request (outcome : SupervisorOutcome) (task : LoopTask) :
    (task.afterOutcome outcome).request = task.request := by
  cases outcome <;> simp [afterOutcome, goto, record]

end LoopTask

/-- What a connect loop's awaited call returned, or `proceed` for a section. -/
inductive LoopEvent where
  | proceed
  | configFetched (conn : DotConn)
  | attemptError (error : String)
  | outcome (outcome : SupervisorOutcome)
  | cancelled
  deriving DecidableEq, Repr

def notAuthenticatedMessage : String :=
  "not authenticated; complete login first"

/--
One step of `run_connect_loop`, with `connect_once`, `handle_decision` and the
`mark_*` sections it calls.  A result that consults the cancellation token
(the supervisor's `Cancelled`, the cancelled backoff) needs it cancelled.
-/
def loopNext (inner : DaemonInner) (isCancelled : Bool) (task : LoopTask)
    (event : LoopEvent) : Option (DaemonInner × LoopTask) :=
  match task.pc, event with
  | .setConfiguring, .proceed =>
      some (inner.vpnTransition .intoConfiguring, task.goto .checkClient)
  | .checkClient, .proceed =>
      if inner.auth.tenantClient then some (inner, task.goto .computeOtp)
      else some (inner, task.goto (.attemptFailed notAuthenticatedMessage))
  | .computeOtp, .proceed => some (inner, task.goto .snapshotPool)
  | .snapshotPool, .proceed => some (inner, task.goto .fetchConfig)
  | .fetchConfig, .configFetched conn =>
      some (inner, task.goto (.startSession conn))
  | .fetchConfig, .attemptError error =>
      some (inner, task.goto (.attemptFailed error))
  | .startSession conn, .proceed =>
      some ({ inner with activeOutbound := inner.config.outboundInterface },
        task.goto (.openSession conn))
  | .openSession conn, .proceed => some (inner, task.goto (.markConnected conn))
  | .openSession _, .attemptError error =>
      some (inner, task.goto (.attemptFailed error))
  | .markConnected conn, .proceed =>
      some (inner.vpnTransition
        (.intoConnected (conn.activeTunnel task.request)),
        task.goto .persistCredentials)
  | .persistCredentials, .proceed => some (inner, task.goto .reportClient)
  | .reportClient, .proceed => some (inner, task.goto .readOutbound)
  | .readOutbound, .proceed => some (inner, task.goto .supervise)
  | .supervise, .outcome outcome =>
      if outcome = .cancelled ∧ isCancelled = false then none
      else some (inner, task.goto (.teardown outcome))
  | .teardown outcome, .proceed => some (inner, task.afterOutcome outcome)
  | .attemptFailed error, .proceed =>
      some (inner.markFailed error, task.goto .checkCancelled)
  | .checkCancelled, .proceed =>
      if isCancelled then some (inner, task.goto .returned)
      else some (inner, task.record .transportFailed)
  | .handleDecision .stop, .proceed =>
      some (inner.markFailed "maximum reconnect attempts exceeded",
        task.goto .returned)
  | .handleDecision _, .proceed =>
      some (inner.vpnTransition .intoReconnecting, task.goto .backoff)
  | .backoff, .proceed => some (inner, task.goto .setConfiguring)
  | .backoff, .cancelled =>
      if isCancelled then some (inner, task.goto .markDisconnected) else none
  | .markDisconnected, .proceed =>
      some (inner.markDisconnected, task.goto .returned)
  | _, _ => none

/-! ## Disconnect and configuration-update calls -/

inductive DisconnectPc where
  | awaiting (task : Option TaskId)
  | returned (tunnel : Tunnel)
  deriving DecidableEq, Repr

inductive UpdatePc where
  | persistConfig
  | checkOutbound
  | captured (request : VpnRequest) (cancel : TokenId) (task : Option TaskId)
  | awaiting (request : VpnRequest) (task : Option TaskId)
  | reply
  | returned (config : DaemonConfig)
  deriving DecidableEq, Repr

def UpdatePc.reconnecting : UpdatePc → Bool
  | .captured .. | .awaiting .. => true
  | _ => false

def UpdatePc.isReturned : UpdatePc → Bool
  | .returned _ => true
  | _ => false

/-! ## The system -/

inductive RpcFault where
  | invalidArgument (message : String)
  | notAuthenticated
  deriving DecidableEq, Repr

structure DaemonState where
  inner : DaemonInner
  tokens : List Bool
  loops : List LoopTask
  disconnects : List DisconnectPc
  updates : List UpdatePc
  deriving DecidableEq, Repr

namespace DaemonState

def isCancelled (s : DaemonState) (token : TokenId) : Bool :=
  s.tokens.getD token false

def cancel (token : TokenId) (s : DaemonState) : DaemonState :=
  { s with tokens := s.tokens.set token true }

def finished (s : DaemonState) (task : Option TaskId) : Bool :=
  match task with
  | none => true
  | some i => (s.loops[i]?).any fun task => task.pc = .returned

def withMachine (s : DaemonState) : DaemonState :=
  match s.inner.vpn with
  | some _ => s
  | none =>
      { s with
        inner := { s.inner with vpn := some (VpnMachine.new s.tokens.length) }
        tokens := s.tokens ++ [false] }

def spawnLoop (request : VpnRequest) (s : DaemonState) : DaemonState :=
  let vpn := VpnMachine.setConnecting s.tokens.length request
  { s with
    inner := { s.inner with
      vpn := some vpn
      vpnWatchTx := vpn.toTunnelProto
      tunnelTask := some s.loops.length }
    tokens := s.tokens ++ [false]
    loops := s.loops ++ [{
      request := request
      cancel := s.tokens.length
      controller := .new .androidCompatibleDefault
      pc := .setConfiguring }] }

def connectTunnel (request : VpnRequest) (s : DaemonState) :
    DaemonState × Except RpcFault Tunnel :=
  if s.inner.auth.state ≠ .authenticated then (s, .error .notAuthenticated)
  else if s.inner.vpn = none ∧ s.inner.auth.tenantClient = false then
    (s, .error .notAuthenticated)
  else if (s.withMachine.inner.vpn.any VpnMachine.canConnect) = false then
    (s.withMachine, .error (.invalidArgument
      "tunnel is already connecting or connected; disconnect first"))
  else
    let s := s.withMachine.spawnLoop request
    (s, .ok s.inner.getTunnel)

def beginDisconnect (s : DaemonState) : DaemonState :=
  let tokens :=
    match s.inner.vpn with
    | some vpn => s.tokens.set vpn.cancelToken true
    | none => s.tokens
  { s with
    inner :=
      { s.inner.vpnTransition .intoDisconnecting with tunnelTask := none }
    tokens := tokens
    disconnects := s.disconnects ++ [.awaiting s.inner.tunnelTask] }

def endDisconnect (call : Nat) (s : DaemonState) : Option DaemonState :=
  match s.disconnects[call]? with
  | some (.awaiting task) =>
      if s.finished task then
        let inner := s.inner.broadcast VpnMachine.setDisconnected
        some { s with
          inner := inner
          disconnects := s.disconnects.set call (.returned inner.getTunnel) }
      else none
  | _ => none

def beginUpdate (u : Configuration) (s : DaemonState) : DaemonState :=
  { s with
    inner := { s.inner with config := s.inner.config.update u }
    updates := s.updates ++ [.persistConfig] }

def setUpdate (call : Nat) (pc : UpdatePc) (s : DaemonState) : DaemonState :=
  { s with updates := s.updates.set call pc }

def rebuildPool (built : Bool) (s : DaemonState) : DaemonState :=
  if built then
    { s with inner := { s.inner with auth := { s.inner.auth with
        httpPool := s.inner.config.outboundInterface } } }
  else s

/--
The first section of `reconnect_if_outbound_changed`.  It captures whatever
request the state carries and takes the task handle.
-/
def checkOutbound (call : Nat) (built : Bool) (s : DaemonState) : DaemonState :=
  if s.inner.config.outboundInterface = s.inner.activeOutbound then
    s.setUpdate call .reply
  else
    let s := s.rebuildPool built
    match s.inner.vpn with
    | none => s.setUpdate call .reply
    | some vpn =>
        match vpn.state.currentRequest with
        | none => s.setUpdate call .reply
        | some request =>
            { s with inner := { s.inner with tunnelTask := none } }.setUpdate
              call (.captured request vpn.cancelToken s.inner.tunnelTask)

def stepUpdate (call : Nat) (built : Bool)
    (s : DaemonState) : Option DaemonState :=
  match s.updates[call]? with
  | some .persistConfig => some (s.setUpdate call .checkOutbound)
  | some .checkOutbound => some (s.checkOutbound call built)
  | some (.captured request token task) =>
      some ((s.cancel token).setUpdate call (.awaiting request task))
  | some (.awaiting request task) =>
      if s.finished task then
        some ((s.connectTunnel request).1.setUpdate call .reply)
      else none
  | some .reply => some (s.setUpdate call (.returned s.inner.config))
  | some (.returned _) | none => none

def stepLoop (i : TaskId) (event : LoopEvent)
    (s : DaemonState) : Option DaemonState :=
  match s.loops[i]? with
  | none => none
  | some task =>
      (loopNext s.inner (s.isCancelled task.cancel) task event).map
        fun (inner, task) =>
          { s with inner := inner, loops := s.loops.set i task }

end DaemonState

inductive Action where
  | auth (state : AuthState) (tenantClient : Bool)
  | connect (request : VpnRequest)
  | beginDisconnect
  | endDisconnect (call : Nat)
  | beginUpdate (u : Configuration)
  | stepUpdate (call : Nat) (built : Bool)
  | loop (i : TaskId) (event : LoopEvent)
  deriving DecidableEq, Repr

def step (s : DaemonState) : Action → Option DaemonState
  | .auth state tenantClient =>
      some { s with inner := { s.inner with auth := { s.inner.auth with
        state := state, tenantClient := tenantClient } } }
  | .connect request => some (s.connectTunnel request).1
  | .beginDisconnect => some s.beginDisconnect
  | .endDisconnect call => s.endDisconnect call
  | .beginUpdate u => some (s.beginUpdate u)
  | .stepUpdate call built => s.stepUpdate call built
  | .loop i event => s.stepLoop i event

def DaemonState.new (auth : AuthView) (config : DaemonConfig) :
    DaemonState where
  inner := {
    auth := auth
    vpn := none
    config := config
    vpnWatchTx := Tunnel.default
    tunnelTask := none
    activeOutbound := none }
  tokens := []
  loops := []
  disconnects := []
  updates := []

def Initial (s : DaemonState) : Prop :=
  ∃ auth config, s = .new auth config

def readyDaemon : DaemonState := .new ⟨.authenticated, true, none⟩ .default

end Rustylink.Daemon
