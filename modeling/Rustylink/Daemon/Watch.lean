import Rustylink.Daemon.Effects

/-!
# What clients are shown

Every section that writes the VPN state sends its projection on the watch
channel, so the last value sent is the one of the current state.  A connect
loop writes the state in four of its sections, and ends it in a fifth one.
-/

namespace Rustylink.Daemon

open Rustylink.Foundation Rustylink.Core Rustylink.Tunnel

def LoopPc.writes : LoopPc → Bool
  | .setConfiguring | .markConnected _ | .attemptFailed _ | .handleDecision _ =>
      true
  | _ => false

inductive LoopWrite : VpnState → VpnState → Prop
  | configuring (state : VpnState) : LoopWrite state state.intoConfiguring
  | connected (state : VpnState) (info : ActiveTunnel) :
      LoopWrite state (state.intoConnected info)
  | reconnecting (state : VpnState) : LoopWrite state state.intoReconnecting
  | failed (state : VpnState) (error : String) :
        LoopWrite state (state.intoFailed error)

theorem LoopWrite.currentRequest {state state' : VpnState}
    (h : LoopWrite state state') :
    state'.currentRequest = some state.intoRequest := by
  cases h <;> rfl

namespace DaemonInner

/-- The last value sent on the watch channel is the current tunnel. -/
def Published (inner : DaemonInner) : Prop := inner.vpnWatchTx = inner.getTunnel

theorem Published.broadcast {inner : DaemonInner} (h : inner.Published)
    (f : VpnMachine → VpnMachine) : (inner.broadcast f).Published := by
  unfold DaemonInner.broadcast
  split
  · exact h
  · rfl

end DaemonInner

inductive LoopWrites (inner : DaemonInner) : LoopPc → DaemonInner → Prop
  | nothing {pc : LoopPc} {inner' : DaemonInner} (hpc : pc.writes = false)
      (hvpn : inner'.vpn = inner.vpn)
      (hwatch : inner'.vpnWatchTx = inner.vpnWatchTx) :
      LoopWrites inner pc inner'
  | state {pc : LoopPc} {outbound : Option String} {f : VpnState → VpnState}
      (hpc : pc.writes = true) (hf : ∀ state, LoopWrite state (f state)) :
      LoopWrites inner pc
        ({ inner with activeOutbound := outbound }.vpnTransition f)
  | disconnected : LoopWrites inner .markDisconnected inner.markDisconnected

theorem loopNext_writes {inner inner' : DaemonInner} {isCancelled : Bool}
    {task task' : LoopTask} {event : LoopEvent}
    (h : loopNext inner isCancelled task event = some (inner', task')) :
    LoopWrites inner task.pc inner' := by
  cases hpc : task.pc <;> cases event <;>
    simp only [loopNext, hpc, reduceCtorEq, Option.some.injEq,
      Prod.mk.injEq] at h
  case setConfiguring.proceed =>
    obtain ⟨rfl, -⟩ := h
    exact .state rfl .configuring
  case markConnected.proceed conn =>
    obtain ⟨rfl, -⟩ := h
    exact .state rfl fun state =>
      .connected state (conn.activeTunnel task.request)
  case attemptFailed.proceed error =>
    obtain ⟨rfl, -⟩ := h
    exact .state rfl fun state => .failed state error
  case handleDecision.proceed decision =>
    cases decision with
    | stop =>
        obtain ⟨rfl, -⟩ := h
        exact .state rfl fun state => .failed state _
    | retry after attempt | switchNode after attempt =>
        obtain ⟨rfl, -⟩ := h
        exact .state rfl .reconnecting
  case markDisconnected.proceed =>
    obtain ⟨rfl, -⟩ := h
    exact .disconnected
  case checkClient.proceed | supervise.outcome | checkCancelled.proceed
      | backoff.cancelled =>
    split at h <;> cases h <;> exact .nothing rfl rfl rfl
  all_goals
    obtain ⟨rfl, -⟩ := h
    exact .nothing rfl rfl rfl

theorem LoopWrites.quiet {inner inner' : DaemonInner} {pc : LoopPc}
    (h : LoopWrites inner pc inner') (hpc : pc.writes = false) :
    inner'.vpn = inner.vpn ∨
      (pc = .markDisconnected ∧
        inner'.vpn = inner.vpn.map VpnMachine.setDisconnected) := by
  cases h with
  | nothing _ hvpn => exact .inl hvpn
  | state hwrites =>
      rw [hpc] at hwrites
      contradiction
  | disconnected => exact .inr ⟨rfl, inner.markDisconnected_vpn⟩

theorem LoopWrites.written {inner inner' : DaemonInner} {pc : LoopPc}
    {vpn : VpnMachine} (h : LoopWrites inner pc inner') (hpc : pc.writes = true)
    (hvpn : inner.vpn = some vpn) :
    ∃ state, LoopWrite vpn.state state ∧
      inner'.vpn = some { vpn with state := state } := by
  cases h with
  | nothing hquiet =>
      rw [hpc] at hquiet
      contradiction
  | @state _ outbound f _ hf =>
      exact ⟨f vpn.state, hf vpn.state, by simp [hvpn]; rfl⟩
  | disconnected => contradiction

/-! ## The channel follows the machine -/

namespace DaemonState

variable {s s' : DaemonState}

theorem connectTunnel_published (h : s.inner.Published) (request : VpnRequest) :
    (s.connectTunnel request).1.inner.Published := by
  rw [connectTunnel_fst]
  split
  · rfl
  · exact h

theorem stepUpdate_published {call : Nat} {built : Bool} (h : s.inner.Published)
    (hstep : s.stepUpdate call built = some s') : s'.inner.Published := by
  rcases stepUpdate_inner hstep with hsame | ⟨request, hconnect⟩
  · unfold DaemonInner.Published DaemonInner.getTunnel
    rw [hsame.vpnWatchTx, hsame.vpn]
    exact h
  · rw [hconnect]
    exact connectTunnel_published h request

theorem stepLoop_writes {i : TaskId} {event : LoopEvent}
    (hstep : s.stepLoop i event = some s') :
    ∃ task, s.loops[i]? = some task ∧ LoopWrites s.inner task.pc s'.inner := by
  obtain ⟨task, task', inner', hi, hnext, rfl⟩ := stepLoop_spec hstep
  exact ⟨task, hi, loopNext_writes hnext⟩

end DaemonState

theorem LoopWrites.published {inner inner' : DaemonInner} {pc : LoopPc}
    (h : LoopWrites inner pc inner') (hpublished : inner.Published) :
    inner'.Published := by
  cases h with
  | nothing hpc hvpn hwatch =>
      unfold DaemonInner.Published DaemonInner.getTunnel
      rw [hwatch, hvpn]
      exact hpublished
  | @state _ outbound =>
      have hsame : { inner with activeOutbound := outbound }.Published :=
        hpublished
      exact hsame.broadcast _
  | disconnected =>
      have hsame : { inner with activeOutbound := none }.Published := hpublished
      exact hsame.broadcast _

theorem step_published {s s' : DaemonState} {a : Action} (h : s.inner.Published)
    (hstep : step s a = some s') : s'.inner.Published := by
  cases a with
  | auth state tenantClient =>
      cases hstep
      exact h
  | connect request =>
      cases hstep
      exact DaemonState.connectTunnel_published h request
  | beginDisconnect =>
      cases hstep
      exact h.broadcast _
  | endDisconnect call =>
      obtain ⟨task, tunnel, -, -, rfl⟩ := DaemonState.endDisconnect_effect hstep
      exact h.broadcast _
  | beginUpdate u =>
      cases hstep
      exact h
  | stepUpdate call built => exact DaemonState.stepUpdate_published h hstep
  | loop i event =>
      obtain ⟨task, -, hwrites⟩ := DaemonState.stepLoop_writes hstep
      exact hwrites.published h

/-! ## The run -/

/-- A client that watches has been sent what `get_tunnel` would return. -/
theorem watchers_see_tunnel {s : DaemonState} (h : Reachable step Initial s) :
    s.inner.vpnWatchTx = s.inner.getTunnel := by
  apply h.invariant (I := fun s => s.inner.Published)
  · rintro s ⟨auth, config, rfl⟩
    rfl
  · intro s a s' hpublished hstep
    exact step_published hpublished hstep

def refusedAttempt : List Action :=
  [.connect .default, .auth .configured false, .loop 0 .proceed,
    .loop 0 .proceed, .loop 0 .proceed]

theorem watchers_see_tunnel_refused :
    (final step readyDaemon refusedAttempt).inner.vpnWatchTx =
      (final step readyDaemon refusedAttempt).inner.getTunnel :=
  watchers_see_tunnel ⟨readyDaemon, refusedAttempt, ⟨_, _, rfl⟩,
    exec_final (by decide)⟩

end Rustylink.Daemon
