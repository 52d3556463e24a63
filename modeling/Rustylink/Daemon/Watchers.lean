import Rustylink.Foundation.WatchChannel
import Rustylink.Daemon.Watch

/-!
# The clients of `WatchTunnel`

The daemon with its watch channel and any number of `WatchTunnel` streams.
The daemon keeps a receiver that it never reads; every stream is made from a
clone of it, so the first item of a stream is the tunnel of that moment.
-/

namespace Rustylink.Daemon

open Rustylink.Foundation Rustylink.Core Rustylink.Tunnel

def DaemonInner.broadcastSends (f : VpnMachine → VpnMachine)
    (inner : DaemonInner) : Option Tunnel :=
  inner.vpn.map fun vpn => (f vpn).toTunnelProto

def LoopTask.broadcasts (task : LoopTask) : Option (VpnMachine → VpnMachine) :=
  match task.pc with
  | .setConfiguring => some (.transition .intoConfiguring)
  | .markConnected conn =>
      some (.transition (.intoConnected (conn.activeTunnel task.request)))
  | .attemptFailed error => some (.transition (.intoFailed error))
  | .handleDecision .stop =>
      some (.transition (.intoFailed "maximum reconnect attempts exceeded"))
  | .handleDecision _ => some (.transition .intoReconnecting)
  | .markDisconnected => some .setDisconnected
  | _ => none

/-- The message that the section of an action sends on the watch channel. -/
def tunnelSent (s : DaemonState) : Action → Option Tunnel
  | .auth .. | .beginUpdate _ => none
  | .connect request => (s.connectTunnel request).2.toOption
  | .beginDisconnect => s.inner.broadcastSends (.transition .intoDisconnecting)
  | .endDisconnect _ => s.inner.broadcastSends .setDisconnected
  | .stepUpdate call _ =>
      match s.updates[call]? with
      | some (.awaiting request _) => (s.connectTunnel request).2.toOption
      | _ => none
  | .loop i _ => (s.loops[i]?.bind LoopTask.broadcasts).bind
        s.inner.broadcastSends

theorem DaemonInner.broadcast_sends (f : VpnMachine → VpnMachine)
    (inner : DaemonInner) :
    (inner.broadcast f).vpnWatchTx =
    (inner.broadcastSends f).getD inner.vpnWatchTx := by
  unfold DaemonInner.broadcast DaemonInner.broadcastSends
  cases inner.vpn <;> rfl

theorem loopNext_sends {inner inner' : DaemonInner} {isCancelled : Bool}
    {task task' : LoopTask} {event : LoopEvent}
    (h : loopNext inner isCancelled task event = some (inner', task')) :
    inner'.vpnWatchTx =
      (task.broadcasts.bind inner.broadcastSends).getD inner.vpnWatchTx := by
  have hbroadcast := fun f outbound =>
    { inner with activeOutbound := outbound }.broadcast_sends f
  cases hpc : task.pc <;> cases event <;>
    simp only [loopNext, hpc, reduceCtorEq, Option.some.injEq,
      Prod.mk.injEq] at h
  case setConfiguring.proceed | markConnected.proceed =>
    obtain ⟨rfl, -⟩ := h
    simp only [LoopTask.broadcasts, hpc, Option.bind_some]
    exact hbroadcast _ inner.activeOutbound
  case attemptFailed.proceed | markDisconnected.proceed =>
    obtain ⟨rfl, -⟩ := h
    simp only [LoopTask.broadcasts, hpc, Option.bind_some]
    exact hbroadcast _ none
  case handleDecision.proceed decision =>
    cases decision with
    | stop =>
        obtain ⟨rfl, -⟩ := h
        simp only [LoopTask.broadcasts, hpc, Option.bind_some]
        exact hbroadcast _ none
    | retry after attempt | switchNode after attempt =>
        obtain ⟨rfl, -⟩ := h
        simp only [LoopTask.broadcasts, hpc, Option.bind_some]
        exact hbroadcast _ inner.activeOutbound
  case checkClient.proceed | supervise.outcome | checkCancelled.proceed
      | backoff.cancelled =>
    split at h <;> cases h <;> simp [LoopTask.broadcasts, hpc]
  all_goals
    obtain ⟨rfl, -⟩ := h
    simp [LoopTask.broadcasts, hpc]

namespace DaemonState

variable {s s' : DaemonState}

theorem connectTunnel_sends (s : DaemonState) (request : VpnRequest) :
    (s.connectTunnel request).1.inner.vpnWatchTx =
      ((s.connectTunnel request).2.toOption).getD s.inner.vpnWatchTx := by
  unfold connectTunnel
  split
  · rfl
  · split
    · rfl
    · split
      · unfold withMachine
        cases s.inner.vpn <;> rfl
      · rfl

theorem stepUpdate_sends {call : Nat} {built : Bool}
    (hstep : s.stepUpdate call built = some s') :
    s'.inner.vpnWatchTx =
      (tunnelSent s (.stepUpdate call built)).getD s.inner.vpnWatchTx := by
  rcases hpc : s.updates[call]? with _ | pc
  · simp [stepUpdate, hpc] at hstep
  · cases pc with
    | awaiting request task =>
        simp only [stepUpdate, hpc] at hstep
        split at hstep
        · cases hstep
          simp only [tunnelSent, hpc]
          exact s.connectTunnel_sends request
        · contradiction
    | returned config => simp [stepUpdate, hpc] at hstep
    | checkOutbound =>
        simp only [stepUpdate, hpc, Option.some.injEq] at hstep
        subst hstep
        simp only [tunnelSent, hpc, Option.getD_none]
        exact (checkOutbound_sameView s call built).vpnWatchTx
    | persistConfig | captured request cancel task | reply =>
        simp only [stepUpdate, hpc, Option.some.injEq] at hstep
        subst hstep
        simp only [tunnelSent, hpc, Option.getD_none]
        rfl

end DaemonState

theorem step_sends {s s' : DaemonState} {a : Action}
    (hstep : step s a = some s') :
    s'.inner.vpnWatchTx = (tunnelSent s a).getD s.inner.vpnWatchTx := by
  cases a with
  | auth state tenantClient =>
      cases hstep
      rfl
  | beginUpdate u =>
      cases hstep
      rfl
  | connect request =>
      cases hstep
      exact s.connectTunnel_sends request
  | beginDisconnect =>
      cases hstep
      exact s.inner.broadcast_sends _
  | endDisconnect call =>
      obtain ⟨task, tunnel, -, -, rfl⟩ := DaemonState.endDisconnect_effect hstep
      exact s.inner.broadcast_sends _
  | stepUpdate call built => exact DaemonState.stepUpdate_sends hstep
  | loop i event =>
      obtain ⟨task, task', inner', hi, hnext, rfl⟩ :=
        DaemonState.stepLoop_spec hstep
      simp only [tunnelSent, hi, Option.bind_some]
      exact loopNext_sends hnext

/-! ## Runs with watchers -/

section Watched

variable {Channel : Type} (crate : WatchCrate Tunnel Channel)

abbrev WatchedDaemon (Channel : Type) := Observed DaemonState Tunnel Channel

abbrev watchedStep :
    WatchedDaemon Channel → ObservedLabel Action →
      Option (WatchedDaemon Channel) :=
  Observed.observedStep crate step tunnelSent

def WatchedInitial (w : WatchedDaemon Channel) : Prop :=
  ∃ s, Initial s ∧ w = .new crate s Tunnel.default

def Shared (w : WatchedDaemon Channel) : Prop :=
  crate.borrow w.channel = w.state.inner.vpnWatchTx ∧ w.state.inner.Published

variable {crate} {w w' : WatchedDaemon Channel}

theorem Shared.send (hcrate : crate.Lawful) (hinv : Observed.Inv crate w)
    (h : Shared crate w) {s : DaemonState} {a : Action}
    (hstep : step w.state a = some s) :
    Shared crate { w.send crate (tunnelSent w.state a) with state := s } := by
  refine ⟨?_, step_published h.2 hstep⟩
  rw [step_sends hstep]
  cases tunnelSent w.state a with
  | none => exact h.1
  | some tunnel => exact (hcrate.send tunnel w.channel hinv.receivers_pos).1

theorem watchedStep_shared (hcrate : crate.Lawful) (hinv : Observed.Inv crate w)
    (h : Shared crate w) {label : ObservedLabel Action}
    (hstep : watchedStep crate w label = some w') : Shared crate w' := by
  cases label with
  | act a =>
      obtain ⟨s, hs, rfl⟩ := Option.map_eq_some_iff.mp hstep
      exact h.send hcrate hinv hs
  | subscribe =>
      cases hstep
      exact ⟨(hcrate.subscribe w.channel).1.trans h.1, h.2⟩
  | poll i =>
      obtain ⟨client, item, channel, hi, -, hitem, rfl⟩ :=
        Observed.poll_spec hstep
      obtain ⟨-, hsame, -⟩ := hcrate.pollNext_some (hinv.lt_streams hi) hitem
      exact ⟨hsame.borrow.trans h.1, h.2⟩
  | close i =>
      obtain ⟨client, -, -, rfl⟩ := Observed.close_spec hstep
      exact ⟨(hcrate.dropStream i w.channel).1.trans h.1, h.2⟩

theorem watched_shared (hcrate : crate.Lawful)
    (h : Reachable (watchedStep crate) (WatchedInitial crate) w) :
    Observed.Inv crate w ∧ Shared crate w := by
  refine h.invariant (I := fun w => Observed.Inv crate w ∧ Shared crate w) ?_ ?_
  · rintro w ⟨s, ⟨auth, config, rfl⟩, rfl⟩
    exact ⟨.new hcrate _ _, (hcrate.channel _).1, rfl⟩
  · intro w label w' ⟨hinv, hshared⟩ hstep
    exact ⟨Observed.observedStep_inv hcrate hinv hstep,
      watchedStep_shared hcrate hinv hshared hstep⟩

/--
Whatever the interleaving, a client is shown tunnels in the order in which
they were, from the one current at its call on.  Each is the one that
`get_tunnel` returns when it is yielded, and once the stream has to wait its
client has been shown the one that `get_tunnel` returns.
-/
theorem watch_stream_converges (crate : WatchCrate Tunnel Channel)
    (hcrate : crate.Lawful) {w : WatchedDaemon Channel}
    (h : Reachable (watchedStep crate) (WatchedInitial crate) w) {i : Nat}
    {client : WatchClient Tunnel} (hi : w.clients[i]? = some client) :
    client.items.Sublist (w.sent.drop client.since) ∧
      (∀ item channel, crate.pollNext i w.channel = some (item, channel) →
        item = w.state.inner.getTunnel) ∧
      (client.gone = false → crate.pollNext i w.channel = none →
        client.items.getLast? = some w.state.inner.getTunnel) := by
  obtain ⟨hinv, hvalue, hpublished⟩ := watched_shared hcrate h
  have hshown : client.Shown w.sent (crate.borrow w.channel)
      (crate.hasChanged i w.channel) := hinv.shown i client hi
  have htunnel : crate.borrow w.channel = w.state.inner.getTunnel :=
    hvalue.trans hpublished
  refine ⟨hshown.sublist, fun item channel hpoll => ?_, fun hhere hwaits => ?_⟩
  · exact (hcrate.pollNext_some (hinv.lt_streams hi) hpoll).1.trans htunnel
  · rw [← htunnel]
    refine hshown.caughtUp hhere ?_
    by_contra hchanged
    obtain ⟨d, hd, -⟩ := hcrate.yields i w.channel (hinv.lt_streams hi)
      (Bool.not_eq_false _ ▸ hchanged)
    rw [hwaits] at hd
    contradiction

end Watched

def watchedAttempt : List (ObservedLabel Action) :=
  [.subscribe, .poll 0, .subscribe, .act (.connect .default), .poll 0, .close 1,
    .subscribe, .act (.loop 0 .proceed), .act (.loop 0 .proceed), .poll 0]

def watchedReady : WatchedDaemon (FlagChannel Tunnel) :=
  .new flagCrate readyDaemon Tunnel.default

theorem watch_stream_converges_attempt :
    let w := final (watchedStep flagCrate) watchedReady watchedAttempt
    (w.clients.map fun client => client.items.length) = [3, 0, 0] ∧
      ∀ client, w.clients[0]? = some client →
        client.items.Sublist (w.sent.drop client.since) ∧
          (client.gone = false → flagCrate.pollNext 0 w.channel = none →
            client.items.getLast? = some w.state.inner.getTunnel) := by
  refine ⟨by decide, fun client hclient => ?_⟩
  obtain ⟨hitems, -, hlast⟩ := watch_stream_converges flagCrate flagCrate_lawful
    ⟨watchedReady, watchedAttempt, ⟨readyDaemon, ⟨_, _, rfl⟩, rfl⟩,
      exec_final (by decide)⟩ hclient
  exact ⟨hitems, hlast⟩

end Rustylink.Daemon
