import Rustylink.Daemon.Watch
import Rustylink.Tunnel.ReconnectLaw

/-!
# The attempt count that clients are shown

A connect loop run on its own drives two counters: its reconnect controller
counts the events since the last reset, and the VPN state counts the
transitions to `Reconnecting`.  A run records the first number; no step reads it.
-/

namespace Rustylink.Daemon

open Rustylink.Foundation Rustylink.Core Rustylink.Tunnel

structure AttemptTrace where
  daemon : DaemonState
  recorded : Nat
  deriving DecidableEq, Repr

def SupervisorOutcome.recorded (recorded : Nat) : SupervisorOutcome → Nat
  | .trigger _ wasHealthy | .serverKickOut wasHealthy =>
      if wasHealthy then 1 else recorded + 1
  | .cancelled => recorded

def LoopPc.recorded (isCancelled : Bool) (recorded : Nat) : LoopPc → Nat
  | .teardown outcome => outcome.recorded recorded
  | .checkCancelled => if isCancelled then recorded else recorded + 1
  | _ => recorded

/--
Only the first attempt fails or ends unhealthily: an attempt is marked failed
before anything has been recorded, and a decision follows the only event since
the last reset.
-/
def LoopPc.OnlyFirstUnhealthy (recorded : Nat) : LoopPc → Prop
  | .attemptFailed _ => recorded = 0
  | .handleDecision _ => recorded = 1
  | _ => True

namespace AttemptTrace

def step (i : TaskId) (s : AttemptTrace)
    (event : LoopEvent) : Option AttemptTrace :=
  (s.daemon.loops[i]?).bind fun task =>
    (s.daemon.stepLoop i event).map fun daemon =>
      ⟨daemon, task.pc.recorded (s.daemon.isCancelled task.cancel) s.recorded⟩

def start (s : DaemonState) (request : VpnRequest) : AttemptTrace :=
  ⟨(s.connectTunnel request).1, 0⟩

/--
What the loop publishes as `Reconnecting` or `Failed` carries the recorded
number.
-/
def ShowsRecorded (i : TaskId) (s : AttemptTrace) (event : LoopEvent) : Prop :=
  ∀ task s', s.daemon.loops[i]? = some task → task.pc.writes = true →
    s.step i event = some s' →
      s'.daemon.inner.vpnWatchTx.state = .reconnecting ∨
          s'.daemon.inner.vpnWatchTx.state = .failed →
        s'.daemon.inner.vpnWatchTx.reconnectAttempts = s'.recorded

def OnlyFirstUnhealthy (i : TaskId) (s : AttemptTrace) (_ : LoopEvent) : Prop :=
  ∀ task, s.daemon.loops[i]? = some task → task.pc.OnlyFirstUnhealthy s.recorded

end AttemptTrace

/-! ## The invariant -/

def LoopPc.Counts (state : VpnState) (recorded : Nat) : LoopPc → Prop
  | .setConfiguring | .backoff => recorded ≤ 1
  | .checkCancelled => state.attempts = 0 ∧ recorded = 0
  | .handleDecision decision => state.attempts = 0 ∧ 0 < recorded ∧
        decision ≠ .stop
  | .markDisconnected | .returned => True
  | _ => state.attempts = 0 ∧ recorded ≤ 1

structure LoopTask.Counted (vpn : VpnMachine) (recorded : Nat)
    (task : LoopTask) : Prop where
  policy : task.controller.policy = .androidCompatibleDefault
  attempts : task.controller.attempts = recorded
  counts : task.pc.Counts vpn.state recorded

theorem record_few {controller : ReconnectController} (event : ReconnectEvent)
    (hpolicy : controller.policy = .androidCompatibleDefault)
    (h : controller.attempts ≤ 1) :
    (controller.record event).1 =
    { controller with attempts := controller.attempts + 1 } ∧
      (controller.record event).2 ≠ .stop := by
  have hmax : controller.policy.maxAttempts = 8 := by rw [hpolicy]; rfl
  have hbound : controller.policy.maxAttempts < u32Max := by
    rw [hpolicy]; decide
  obtain ⟨hcounted, hstop⟩ := record_of_room event hbound (by omega)
  refine ⟨hcounted, fun hlast => ?_⟩
  have hfull := hstop.mp hlast
  omega

theorem LoopTask.Counted.record {vpn : VpnMachine} {recorded : Nat}
    {task : LoopTask} (event : ReconnectEvent)
    (hpolicy : task.controller.policy = .androidCompatibleDefault)
    (hattempts : task.controller.attempts = recorded) (hfew : recorded ≤ 1)
    (hstate : vpn.state.attempts = 0) :
    (task.record event).Counted vpn (recorded + 1) := by
  obtain ⟨hcounted, hgoing⟩ := record_few event hpolicy (hattempts ▸ hfew)
  have hcontroller : (task.record event).controller =
      { task.controller with attempts := task.controller.attempts + 1 } :=
        hcounted
  constructor
  · rw [hcontroller]
    exact hpolicy
  · rw [hcontroller, ← hattempts]
  · exact ⟨hstate, Nat.succ_pos _, hgoing⟩

theorem LoopTask.Counted.goto {vpn vpn' : VpnMachine} {recorded : Nat}
    {task : LoopTask} {pc : LoopPc} (h : task.Counted vpn recorded)
    (hcounts : pc.Counts vpn'.state recorded) :
    (task.goto pc).Counted vpn' recorded :=
  ⟨h.policy, h.attempts, hcounts⟩

theorem LoopTask.Counted.afterOutcome {vpn : VpnMachine} {recorded : Nat}
    {task : LoopTask} (h : task.Counted vpn recorded)
    (outcome : SupervisorOutcome) (hfew : recorded ≤ 1)
    (hstate : vpn.state.attempts = 0) :
    (task.afterOutcome outcome).Counted vpn (outcome.recorded recorded) := by
  cases outcome with
  | cancelled => exact h.goto trivial
  | serverKickOut wasHealthy =>
      cases wasHealthy with
      | true => exact .record _ h.policy rfl (Nat.zero_le 1) hstate
      | false => exact .record _ h.policy h.attempts hfew hstate
  | trigger event wasHealthy =>
      cases wasHealthy with
      | true => exact .record _ h.policy rfl (Nat.zero_le 1) hstate
      | false => exact .record _ h.policy h.attempts hfew hstate

theorem loopNext_counted {inner inner' : DaemonInner} {isCancelled : Bool}
    {task task' : LoopTask} {event : LoopEvent} {vpn : VpnMachine}
    {recorded : Nat} (hvpn : inner.vpn = some vpn)
    (hcounted : task.Counted vpn recorded)
    (hok : task.pc.OnlyFirstUnhealthy recorded)
    (h : loopNext inner isCancelled task event = some (inner', task')) :
    ∃ vpn', inner'.vpn = some vpn' ∧
      task'.Counted vpn' (task.pc.recorded isCancelled recorded) := by
  have hcounts := hcounted.counts
  have hmoved : ∀ f, (inner.vpnTransition f).vpn = some (vpn.transition f) := by
    simp [hvpn]
  cases hpc : task.pc <;> cases event <;>
    simp only [loopNext, hpc, reduceCtorEq, Option.some.injEq,
      Prod.mk.injEq] at h hok hcounts ⊢
  case setConfiguring.proceed =>
    obtain ⟨rfl, rfl⟩ := h
    exact ⟨_, hmoved _, hcounted.goto ⟨rfl, hcounts⟩⟩
  case checkClient.proceed | supervise.outcome =>
    split at h <;> cases h <;> exact ⟨vpn, hvpn, hcounted.goto hcounts⟩
  case markConnected.proceed conn =>
    obtain ⟨rfl, rfl⟩ := h
    exact ⟨_, hmoved _, hcounted.goto ⟨rfl, hcounts.2⟩⟩
  case teardown.proceed outcome =>
    obtain ⟨rfl, rfl⟩ := h
    exact ⟨vpn, hvpn, hcounted.afterOutcome outcome hcounts.2 hcounts.1⟩
  case attemptFailed.proceed error =>
    -- the failed state keeps the count of `Configuring`, which is none
    obtain ⟨rfl, rfl⟩ := h
    exact ⟨vpn.transition (.intoFailed error), by simp [hvpn],
      hcounted.goto ⟨hcounts.1, hok⟩⟩
  case checkCancelled.proceed =>
    have hnone : recorded = 0 := hcounts.2
    cases hcancelled : isCancelled <;> simp only [hcancelled, if_true, if_false,
      Bool.false_eq_true, Option.some.injEq, Prod.mk.injEq] at h <;>
        obtain ⟨rfl, rfl⟩ := h
    · exact ⟨vpn, hvpn, .record _ hcounted.policy hcounted.attempts
        (by omega) hcounts.1⟩
    · exact ⟨vpn, hvpn, hcounted.goto trivial⟩
  case handleDecision.proceed decision =>
    cases decision with
    | stop => exact absurd rfl hcounts.2.2
    | retry after attempt | switchNode after attempt =>
        obtain ⟨rfl, rfl⟩ := h
        exact ⟨_, hmoved _, hcounted.goto (Nat.le_of_eq hok)⟩
  case backoff.cancelled =>
    split at h <;> cases h
    exact ⟨vpn, hvpn, hcounted.goto trivial⟩
  case markDisconnected.proceed =>
    obtain ⟨rfl, rfl⟩ := h
    exact ⟨_, by simp [hvpn]; rfl, hcounted.goto trivial⟩
  all_goals
    obtain ⟨rfl, rfl⟩ := h
    exact ⟨vpn, hvpn, hcounted.goto hcounts⟩

theorem loopNext_shows_iff {inner inner' : DaemonInner} {isCancelled : Bool}
    {task task' : LoopTask} {event : LoopEvent} {vpn : VpnMachine}
    {recorded : Nat} (hvpn : inner.vpn = some vpn)
    (hcounted : task.Counted vpn recorded)
    (hwrites : task.pc.writes = true)
    (h : loopNext inner isCancelled task event = some (inner', task')) :
    (inner'.getTunnel.state = .reconnecting ∨ inner'.getTunnel.state = .failed →
        inner'.getTunnel.reconnectAttempts =
          task.pc.recorded isCancelled recorded) ↔
      task.pc.OnlyFirstUnhealthy recorded := by
  have hcounts := hcounted.counts
  have hmoved : ∀ f, (inner.vpnTransition f).getTunnel =
      (vpn.transition f).toTunnelProto := by
    simp [DaemonInner.getTunnel, hvpn]
  cases hpc : task.pc <;> rw [hpc] at hwrites <;> try contradiction
  all_goals
    cases event <;>
      simp only [loopNext, hpc, reduceCtorEq, Option.some.injEq,
        Prod.mk.injEq] at h hcounts
  case setConfiguring.proceed | markConnected.proceed conn =>
    obtain ⟨rfl, -⟩ := h
    rw [hmoved]
    exact ⟨fun _ => trivial, by rintro - (hstate | hstate) <;> cases hstate⟩
  case attemptFailed.proceed error =>
    obtain ⟨rfl, -⟩ := h
    have hshown : (inner.markFailed error).getTunnel =
        (vpn.transition (.intoFailed error)).toTunnelProto := by
      simp [DaemonInner.getTunnel, hvpn]
    rw [hshown]
    constructor
    · intro hrecorded
      exact (hrecorded (.inr rfl)).symm.trans hcounts.1
    · intro hnone _
      exact hcounts.1.trans hnone.symm
  case handleDecision.proceed decision =>
    have hone :
        (vpn.transition .intoReconnecting).toTunnelProto.reconnectAttempts =
            1 := by
      simp [VpnMachine.toTunnelProto, VpnState.intoReconnecting,
        hcounts.1, u32Max]
    cases decision with
    | stop => exact absurd rfl hcounts.2.2
    | retry after attempt | switchNode after attempt =>
        obtain ⟨rfl, -⟩ := h
        rw [hmoved, hone]
        exact ⟨fun hrecorded => (hrecorded (.inl rfl)).symm,
          fun hfirst _ => hfirst.symm⟩

namespace AttemptTrace

structure Counted (i : TaskId) (s : AttemptTrace) : Prop where
  published : s.daemon.inner.Published
  loop : ∃ task vpn, s.daemon.loops[i]? = some task ∧
    s.daemon.inner.vpn = some vpn ∧
    task.Counted vpn s.recorded

variable {i : TaskId} {s s' : AttemptTrace} {event : LoopEvent}

theorem step_spec (h : s.step i event = some s') :
    ∃ task task' inner', s.daemon.loops[i]? = some task ∧
      loopNext s.daemon.inner (s.daemon.isCancelled task.cancel) task event =
        some (inner', task') ∧
      s' =
        ⟨{ s.daemon with inner := inner', loops := s.daemon.loops.set i task' },
        task.pc.recorded (s.daemon.isCancelled task.cancel) s.recorded⟩ := by
  obtain ⟨task, hi, hmap⟩ := Option.bind_eq_some_iff.mp h
  obtain ⟨daemon, hstep, rfl⟩ := Option.map_eq_some_iff.mp hmap
  obtain ⟨same, task', inner', hsame, hnext, rfl⟩ :=
    DaemonState.stepLoop_spec hstep
  rw [hi] at hsame
  cases hsame
  exact ⟨task, task', inner', hi, hnext, rfl⟩

theorem Counted.start {s : DaemonState} {request : VpnRequest}
    (hstart : s.mayStart = true) :
    Counted s.loops.length (start s request) := by
  unfold AttemptTrace.start
  rw [DaemonState.connectTunnel_fst, if_pos hstart]
  refine ⟨rfl, _, _, get_spawn.mpr (.inr ⟨by simp, rfl⟩), rfl, rfl, rfl,
    Nat.zero_le 1⟩

theorem Counted.step (h : Counted i s) (hok : OnlyFirstUnhealthy i s event)
    (hstep : s.step i event = some s') : Counted i s' := by
  obtain ⟨task, task', inner', hi, hnext, rfl⟩ := step_spec hstep
  obtain ⟨same, vpn, hsame, hvpn, hcounted⟩ := h.loop
  rw [hi] at hsame
  cases hsame
  obtain ⟨vpn', hvpn', hcounted'⟩ :=
    loopNext_counted hvpn hcounted (hok task hi) hnext
  exact ⟨(loopNext_writes hnext).published h.published, task', vpn',
    get_set_self hi, hvpn', hcounted'⟩

theorem Counted.shows (h : Counted i s) (hok : OnlyFirstUnhealthy i s event) :
    ShowsRecorded i s event := by
  intro task s' hi hwrites hstep hstate
  obtain ⟨same, task', inner', hsame, hnext, rfl⟩ := step_spec hstep
  rw [hi] at hsame
  cases hsame
  obtain ⟨same, vpn, hsame, hvpn, hcounted⟩ := h.loop
  rw [hi] at hsame
  cases hsame
  have hpublished := (loopNext_writes hnext).published h.published
  dsimp only at hstate ⊢
  rw [hpublished] at hstate ⊢
  exact (loopNext_shows_iff hvpn hcounted hwrites hnext).mpr
    (hok task hi) hstate

theorem Counted.breaks (h : Counted i s) (hno : ¬ OnlyFirstUnhealthy i s event)
    (hstep : s.step i event = some s') : ¬ ShowsRecorded i s event := by
  intro hshows
  obtain ⟨task, task', inner', hi, hnext, rfl⟩ := step_spec hstep
  obtain ⟨same, vpn, hsame, hvpn, hcounted⟩ := h.loop
  rw [hi] at hsame
  cases hsame
  apply hno
  intro other hother
  rw [hi] at hother
  cases hother
  cases hwrites : task.pc.writes with
  | false =>
      cases hpc :
        task.pc <;> rw [hpc] at hwrites <;> first | contradiction | trivial
  | true =>
      have hpublished := (loopNext_writes hnext).published h.published
      rw [← loopNext_shows_iff hvpn hcounted hwrites hnext, ← hpublished]
      exact hshows task _ hi hwrites hstep

/-! ## The run -/

/--
A connect loop that runs on its own shows the number of recorded events in
every `Reconnecting` and `Failed` it publishes exactly when only its first
attempt fails or ends unhealthily.
-/
theorem shows_recorded_iff {s : DaemonState} {t : AttemptTrace}
    {request : VpnRequest} {events : List LoopEvent}
    (hstart : s.mayStart = true)
    (hrun : exec (AttemptTrace.step s.loops.length) (start s request) events =
      some t) :
    Along (AttemptTrace.step s.loops.length) (ShowsRecorded s.loops.length)
      (start s request)
        events ↔
      Along (AttemptTrace.step s.loops.length)
        (OnlyFirstUnhealthy s.loops.length)
        (start s request) events :=
  along_iff_along (fun _ _ _ h hok hstep => Counted.step h hok hstep)
    (fun _ _ h hok => h.shows hok) (fun _ _ _ h hno hstep => h.breaks hno hstep)
    (.start hstart) hrun

def afterFirstFailure : List LoopEvent :=
  [.proceed, .proceed, .proceed, .proceed, .attemptError "timed out",
    .proceed, .proceed, .proceed, .proceed, .proceed, .proceed, .proceed,
    .proceed]

theorem shows_recorded_iff_connecting :
    Along (AttemptTrace.step 0) (ShowsRecorded 0) (start readyDaemon .default)
        afterFirstFailure ↔
      Along (AttemptTrace.step 0) (OnlyFirstUnhealthy 0)
        (start readyDaemon .default)
        afterFirstFailure :=
  shows_recorded_iff (s := readyDaemon) (by decide)
    (exec_final (by decide +kernel))

/-- The second failed attempt in a row is shown as none at all. -/
theorem second_failure_uncounted :
    ¬ ∀ (s : DaemonState) (t : AttemptTrace) (request : VpnRequest) (events :
      List LoopEvent), s.mayStart = true →
      exec (AttemptTrace.step s.loops.length) (start s request) events =
        some t →
      Along (AttemptTrace.step s.loops.length) (ShowsRecorded s.loops.length)
        (start s request) events := by
  intro h
  have halong := h readyDaemon _ .default
    (afterFirstFailure ++ [.attemptError "refused", .proceed]) (by decide)
    (exec_final (by decide +kernel))
  have hlast := (halong.of_append (exec_final (by decide +kernel))).2 _ rfl
  have hshown := hlast.1 _ _ rfl rfl rfl (.inr (by decide +kernel))
  revert hshown
  decide +kernel

end AttemptTrace

end Rustylink.Daemon
