import Rustylink.Daemon.System

/-!
# What each step can do

One inversion lemma for each kind of step.  The invariants of the interleaved
system are derived from these and never unfold the step functions.
-/

namespace Rustylink.Daemon

open Rustylink.Foundation Rustylink.Core Rustylink.Tunnel

def LoopPc.inGap : LoopPc → Bool
  | .checkCancelled | .handleDecision _ => true
  | _ => false

/-- The loop still has a section to run that writes the VPN state. -/
def LoopPc.pending : LoopPc → Bool
  | .checkCancelled | .returned => false
  | _ => true

/--
The moves of a connect loop: its position before and after, and what the step
does to the VPN state.
-/
inductive LoopMove : LoopPc → LoopPc → (VpnState → VpnState) → Prop
  | quiet {pc pc' : LoopPc} (hgap : pc.inGap = false) (hlive : pc ≠ .returned)
      (hpending : pc'.pending = true) : LoopMove pc pc' id
  | abandon : LoopMove .checkCancelled .returned id
  | decide (decision : ReconnectDecision) :
      LoopMove .checkCancelled (.handleDecision decision) id
  | advance {pc pc' : LoopPc} {f : VpnState → VpnState} (hlive : pc ≠ .returned)
      (hpending : pc'.pending = true)
      (hbusy : ∀ state, (f state).canConnect = false) :
      LoopMove pc pc' f
  | fail (error : String) :
      LoopMove (.attemptFailed error) .checkCancelled (.intoFailed error)
  | giveUp (error : String) :
      LoopMove (.handleDecision .stop) .returned (.intoFailed error)
  | disconnect : LoopMove .markDisconnected .returned fun _ => .disconnected

theorem LoopMove.live {pc pc' : LoopPc} {f : VpnState → VpnState}
    (h : LoopMove pc pc' f) : pc ≠ .returned := by
  cases h <;> first | assumption | simp

theorem afterOutcome_pending (outcome : SupervisorOutcome) (task : LoopTask) :
    (task.afterOutcome outcome).pc.pending = true := by
  cases outcome <;> rfl

structure LoopEffect (inner inner' : DaemonInner)
    (task task' : LoopTask) : Prop where
  cancel : task'.cancel = task.cancel
  request : task'.request = task.request
  tunnelTask : inner'.tunnelTask = inner.tunnelTask
  move : ∃ f, inner'.vpn = inner.vpn.map (VpnMachine.transition f) ∧
    LoopMove task.pc task'.pc f

private theorem LoopEffect.quiet {inner inner' : DaemonInner}
    {task task' : LoopTask} (hgap : task.pc.inGap = false)
    (hlive : task.pc ≠ .returned) (hpending : task'.pc.pending = true)
    (hcancel : task'.cancel = task.cancel)
    (hrequest : task'.request = task.request)
    (hvpn : inner'.vpn = inner.vpn)
    (htask : inner'.tunnelTask = inner.tunnelTask) :
    LoopEffect inner inner' task task' where
  cancel := hcancel
  request := hrequest
  tunnelTask := htask
  move := by
    refine ⟨id, ?_, .quiet hgap hlive hpending⟩
    rw [hvpn]
    cases inner.vpn <;> rfl

private theorem LoopEffect.goto {inner : DaemonInner} {task : LoopTask}
    {pc : LoopPc} (hgap : task.pc.inGap = false) (hlive : task.pc ≠ .returned)
    (hpending : pc.pending = true) :
    LoopEffect inner inner task (task.goto pc) :=
  .quiet hgap hlive hpending rfl rfl rfl rfl

private theorem LoopEffect.advance {inner : DaemonInner} {task : LoopTask}
    {pc : LoopPc} {f : VpnState → VpnState} (hlive : task.pc ≠ .returned)
    (hpending : pc.pending = true)
    (hbusy : ∀ state, (f state).canConnect = false) :
    LoopEffect inner (inner.vpnTransition f) task (task.goto pc) where
  cancel := rfl
  request := rfl
  tunnelTask := by simp
  move := ⟨f, by simp, .advance hlive hpending hbusy⟩

theorem loopNext_effect {inner inner' : DaemonInner} {isCancelled : Bool}
    {task task' : LoopTask} {event : LoopEvent}
    (h : loopNext inner isCancelled task event = some (inner', task')) :
    LoopEffect inner inner' task task' := by
  have hid : inner.vpn = inner.vpn.map (VpnMachine.transition id) := by
    cases inner.vpn <;> rfl
  cases hpc : task.pc <;> cases event <;>
    simp only [loopNext, hpc, reduceCtorEq, Option.some.injEq,
      Prod.mk.injEq] at h
  case setConfiguring.proceed =>
    obtain ⟨rfl, rfl⟩ := h
    exact .advance (by simp [hpc]) rfl fun _ => rfl
  case checkClient.proceed =>
    split at h <;> cases h <;> exact .goto (by simp [hpc, LoopPc.inGap])
      (by simp [hpc]) rfl
  case computeOtp.proceed | snapshotPool.proceed | fetchConfig.configFetched
      | fetchConfig.attemptError | openSession.proceed | openSession.attemptError
      | persistCredentials.proceed | reportClient.proceed | readOutbound.proceed
      | backoff.proceed =>
    obtain ⟨rfl, rfl⟩ := h
    exact .goto (by simp [hpc, LoopPc.inGap]) (by simp [hpc]) rfl
  case startSession.proceed =>
    obtain ⟨rfl, rfl⟩ := h
    exact .quiet (by simp [hpc, LoopPc.inGap]) (by simp [hpc])
      rfl rfl rfl rfl rfl
  case markConnected.proceed =>
    obtain ⟨rfl, rfl⟩ := h
    exact .advance (by simp [hpc]) rfl fun _ => rfl
  case supervise.outcome =>
    split at h
    · contradiction
    · cases h
      exact .goto (by simp [hpc, LoopPc.inGap]) (by simp [hpc]) rfl
  case teardown.proceed outcome =>
    obtain ⟨rfl, rfl⟩ := h
    exact .quiet (by simp [hpc, LoopPc.inGap]) (by simp [hpc])
      (afterOutcome_pending outcome task) (by simp)
      (LoopTask.afterOutcome_request outcome task) rfl rfl
  case attemptFailed.proceed error =>
    obtain ⟨rfl, rfl⟩ := h
    exact ⟨rfl, rfl, by simp, _, inner.markFailed_vpn error,
      hpc ▸ LoopMove.fail error⟩
  case checkCancelled.proceed =>
    -- the token is tested outside the lock, so the state may have moved since
    split at h <;> cases h
    · exact ⟨rfl, rfl, rfl, id, hid, hpc ▸ .abandon⟩
    · exact ⟨rfl, rfl, rfl, id, hid, hpc ▸ .decide _⟩
  case handleDecision.proceed decision =>
    cases decision with
    | stop =>
        obtain ⟨rfl, rfl⟩ := h
        exact ⟨rfl, rfl, by simp, _, inner.markFailed_vpn _,
          hpc ▸ LoopMove.giveUp _⟩
    | retry after attempt | switchNode after attempt =>
        obtain ⟨rfl, rfl⟩ := h
        exact .advance (by simp [hpc]) rfl fun _ => rfl
  case backoff.cancelled =>
    split at h
    · cases h
      exact .goto (by simp [hpc, LoopPc.inGap]) (by simp [hpc]) rfl
    · contradiction
  case markDisconnected.proceed =>
    obtain ⟨rfl, rfl⟩ := h
    exact ⟨rfl, rfl, by simp, fun _ => .disconnected,
      inner.markDisconnected_vpn, hpc ▸ LoopMove.disconnect⟩

namespace DaemonState

theorem stepLoop_spec {s s' : DaemonState} {i : TaskId} {event : LoopEvent}
    (h : s.stepLoop i event = some s') :
    ∃ task task' inner', s.loops[i]? = some task ∧
      loopNext s.inner (s.isCancelled task.cancel) task event =
        some (inner', task') ∧
      s' = { s with inner := inner', loops := s.loops.set i task' } := by
  unfold stepLoop at h
  cases hi : s.loops[i]? with
  | none => simp [hi] at h
  | some task =>
      simp only [hi, Option.map_eq_some_iff] at h
      obtain ⟨⟨inner', task'⟩, hnext, rfl⟩ := h
      exact ⟨task, task', inner', rfl, hnext, rfl⟩

theorem stepLoop_effect {s s' : DaemonState} {i : TaskId} {event : LoopEvent}
    (h : s.stepLoop i event = some s') :
    ∃ task task' inner', s.loops[i]? = some task ∧
      LoopEffect s.inner inner' task task' ∧
      s' = { s with inner := inner', loops := s.loops.set i task' } := by
  obtain ⟨task, task', inner', hi, hnext, hs'⟩ := stepLoop_spec h
  exact ⟨task, task', inner', hi, loopNext_effect hnext, hs'⟩

/-! ## The connect section -/

def mayStart (s : DaemonState) : Bool :=
  s.inner.auth.state = .authenticated &&
    match s.inner.vpn with
    | none => s.inner.auth.tenantClient
    | some vpn => vpn.canConnect

theorem connectTunnel_fst (s : DaemonState) (request : VpnRequest) :
    (s.connectTunnel request).1 =
      if s.mayStart then s.withMachine.spawnLoop request else s := by
  unfold connectTunnel mayStart
  by_cases hauth : s.inner.auth.state = .authenticated
  · cases hvpn : s.inner.vpn with
    | none =>
        cases hclient : s.inner.auth.tenantClient <;>
          simp [hauth, withMachine, hvpn, VpnMachine.canConnect, VpnMachine.new]
    | some vpn =>
        cases hconnect : vpn.canConnect <;>
          simp [hauth, withMachine, hvpn, hconnect]
  · simp [hauth]

@[simp] theorem withMachine_loops (s : DaemonState) :
    s.withMachine.loops = s.loops := by
  unfold withMachine
  split <;> rfl

@[simp] theorem withMachine_updates (s : DaemonState) :
    s.withMachine.updates = s.updates := by
  unfold withMachine
  split <;> rfl

theorem connectTunnel_updates (s : DaemonState) (request : VpnRequest) :
    (s.connectTunnel request).1.updates = s.updates := by
  rw [connectTunnel_fst]
  split
  · exact s.withMachine_updates
  · rfl

theorem connectTunnel_disconnects (s : DaemonState) (request : VpnRequest) :
    (s.connectTunnel request).1.disconnects = s.disconnects := by
  rw [connectTunnel_fst]
  split
  · unfold spawnLoop withMachine
    split <;> rfl
  · rfl

theorem spawnLoop_new (s : DaemonState) (request : VpnRequest) :
    ∃ task, (s.spawnLoop request).loops[s.loops.length]? = some task ∧
      task.live :=
  ⟨_, get_spawn.mpr (.inr ⟨rfl, rfl⟩), by simp [LoopTask.live]⟩

/-! ## The other calls -/

theorem endDisconnect_effect {s s' : DaemonState} {call : Nat}
    (h : s.endDisconnect call = some s') :
    ∃ task tunnel, s.disconnects[call]? = some (.awaiting task) ∧
      s.finished task = true ∧
      s' = { s with
        inner := s.inner.broadcast VpnMachine.setDisconnected
        disconnects := s.disconnects.set call (.returned tunnel) } := by
  unfold endDisconnect at h
  split at h
  · rename_i task hcall
    split at h
    · rename_i hfinished
      cases h
      exact ⟨task, _, hcall, hfinished, rfl⟩
    · contradiction
  · contradiction

/--
One step of a configuration update: it leaves the machine and the handle
alone, takes the handle with the request it found, cancels the captured token,
or runs the connect section.
-/
inductive UpdateEffect (s : DaemonState) (call : Nat) : DaemonState → Prop
  | quiet {pc pc' : UpdatePc} {inner : DaemonInner}
      (hcall : s.updates[call]? = some pc) (hold : pc.reconnecting = false)
      (hnew : pc'.reconnecting = false) (hvpn : inner.vpn = s.inner.vpn)
      (htask : inner.tunnelTask = s.inner.tunnelTask) :
      UpdateEffect s call
        { s with inner := inner, updates := s.updates.set call pc' }
  | capture {vpn : VpnMachine} {request : VpnRequest} {inner : DaemonInner}
      (hcall : s.updates[call]? = some .checkOutbound)
      (hvpn : s.inner.vpn = some vpn)
      (hrequest : vpn.state.currentRequest = some request)
      (hsame : inner.vpn = s.inner.vpn) (htask : inner.tunnelTask = none) :
      UpdateEffect s call
        { s with
          inner := inner
          updates := s.updates.set call
            (.captured request vpn.cancelToken s.inner.tunnelTask) }
  | cancel {request : VpnRequest} {token : TokenId} {task : Option TaskId}
      (hcall : s.updates[call]? = some (.captured request token task)) :
      UpdateEffect s call
        ((s.cancel token).setUpdate call (.awaiting request task))
  | connect {request : VpnRequest} {task : Option TaskId}
      (hcall : s.updates[call]? = some (.awaiting request task))
      (hfinished : s.finished task = true) :
      UpdateEffect s call ((s.connectTunnel request).1.setUpdate call .reply)

theorem rebuildPool_quiet (built : Bool) (s : DaemonState) :
    ∃ inner, s.rebuildPool built = { s with inner := inner } ∧
      inner.vpn = s.inner.vpn ∧ inner.tunnelTask = s.inner.tunnelTask := by
  cases built
  · exact ⟨s.inner, rfl, rfl, rfl⟩
  · exact ⟨_, rfl, rfl, rfl⟩

theorem checkOutbound_effect {s : DaemonState} {call : Nat} {built : Bool}
    (hcall : s.updates[call]? = some .checkOutbound) :
    UpdateEffect s call (s.checkOutbound call built) := by
  unfold checkOutbound
  split
  · exact .quiet hcall rfl rfl rfl rfl
  · obtain ⟨inner, hpool, hvpn, htask⟩ := rebuildPool_quiet built s
    rw [hpool]
    dsimp only
    split
    · exact .quiet hcall rfl rfl hvpn htask
    · rename_i vpn hmachine
      split
      · exact .quiet hcall rfl rfl hvpn htask
      · rename_i request hrequest
        rw [hvpn] at hmachine
        dsimp only [setUpdate]
        rw [htask]
        exact .capture hcall hmachine hrequest hvpn rfl

theorem stepUpdate_effect {s s' : DaemonState} {call : Nat} {built : Bool}
    (h : s.stepUpdate call built = some s') : UpdateEffect s call s' := by
  unfold stepUpdate at h
  split at h
  · cases h
    exact .quiet ‹_› rfl rfl rfl rfl
  · cases h
    exact checkOutbound_effect ‹_›
  · cases h
    exact .cancel ‹_›
  · split at h
    · cases h
      exact .connect ‹_› ‹_›
    · contradiction
  · cases h
    exact .quiet ‹_› rfl rfl rfl rfl
  · contradiction
  · contradiction

structure SameView (inner inner' : DaemonInner) : Prop where
  vpn : inner'.vpn = inner.vpn
  vpnWatchTx : inner'.vpnWatchTx = inner.vpnWatchTx
  authState : inner'.auth.state = inner.auth.state

theorem checkOutbound_sameView (s : DaemonState) (call : Nat) (built : Bool) :
    SameView s.inner (s.checkOutbound call built).inner := by
  have hpool : SameView s.inner (s.rebuildPool built).inner := by
    cases built <;> exact ⟨rfl, rfl, rfl⟩
  unfold checkOutbound
  split
  · exact ⟨rfl, rfl, rfl⟩
  · dsimp only
    split
    · exact hpool
    · split <;> exact ⟨hpool.vpn, hpool.vpnWatchTx, hpool.authState⟩

theorem stepUpdate_inner {s s' : DaemonState} {call : Nat} {built : Bool}
    (h : s.stepUpdate call built = some s') :
    SameView s.inner s'.inner ∨
      ∃ request, s'.inner = (s.connectTunnel request).1.inner := by
  unfold stepUpdate at h
  split at h
  · cases h
    exact .inl ⟨rfl, rfl, rfl⟩
  · cases h
    exact .inl (checkOutbound_sameView s call built)
  · cases h
    exact .inl ⟨rfl, rfl, rfl⟩
  · split at h
    · cases h
      exact .inr ⟨_, rfl⟩
    · contradiction
  · cases h
    exact .inl ⟨rfl, rfl, rfl⟩
  · contradiction
  · contradiction

end DaemonState

/-! ## What the tunnel's own sections never touch -/

structure SameSettings (inner inner' : DaemonInner) : Prop where
  auth : inner'.auth = inner.auth
  config : inner'.config = inner.config

theorem broadcast_settings (f : VpnMachine → VpnMachine) (inner : DaemonInner) :
    SameSettings inner (inner.broadcast f) := by
  unfold DaemonInner.broadcast
  split <;> exact ⟨rfl, rfl⟩

theorem loopNext_settings {inner inner' : DaemonInner} {isCancelled : Bool}
    {task task' : LoopTask} {event : LoopEvent}
    (h : loopNext inner isCancelled task event = some (inner', task')) :
    SameSettings inner inner' := by
  unfold loopNext at h
  split at h
  all_goals first | contradiction | split at h | skip
  all_goals first | contradiction | cases h
  all_goals
    first
    | exact ⟨rfl, rfl⟩
    | exact broadcast_settings _ inner
    | exact ⟨(broadcast_settings _ _).auth, (broadcast_settings _ _).config⟩

theorem connectTunnel_settings (s : DaemonState) (request : VpnRequest) :
    SameSettings s.inner (s.connectTunnel request).1.inner := by
  rw [DaemonState.connectTunnel_fst]
  split
  · unfold DaemonState.spawnLoop DaemonState.withMachine
    split <;> exact ⟨rfl, rfl⟩
  · exact ⟨rfl, rfl⟩

def Action.ofTunnel : Action → Bool
  | .auth .. | .beginUpdate _ | .stepUpdate .. => false
  | _ => true

theorem step_ofTunnel {s s' : DaemonState} {a : Action}
    (hstep : step s a = some s') (ha : a.ofTunnel = true) :
    SameSettings s.inner s'.inner ∧ s'.updates = s.updates := by
  cases a with
  | connect request =>
      cases hstep
      exact ⟨connectTunnel_settings s request, s.connectTunnel_updates request⟩
  | beginDisconnect =>
      cases hstep
      have hsame :=
        broadcast_settings (VpnMachine.transition .intoDisconnecting) s.inner
      exact ⟨⟨hsame.auth, hsame.config⟩, rfl⟩
  | endDisconnect call =>
      obtain ⟨task, tunnel, -, -, rfl⟩ := DaemonState.endDisconnect_effect hstep
      exact ⟨broadcast_settings _ s.inner, rfl⟩
  | loop i event =>
      obtain ⟨task, task', inner', -, hnext, rfl⟩ :=
        DaemonState.stepLoop_spec hstep
      exact ⟨loopNext_settings hnext, rfl⟩
  | auth | beginUpdate | stepUpdate => contradiction

/-! ## The pool of loops -/

structure LoopTask.Fresh (task : LoopTask) : Prop where
  controller : task.controller = .new .androidCompatibleDefault
  pc : task.pc = .setConfiguring

theorem connectTunnel_loops (s : DaemonState) (request : VpnRequest) :
    (s.connectTunnel request).1.loops = s.loops ∨
      ∃ task, (s.connectTunnel request).1.loops = s.loops ++ [task] ∧
        task.Fresh := by
  rw [DaemonState.connectTunnel_fst]
  split
  · right
    exact ⟨_, congrArg (· ++ [_]) s.withMachine_loops, ⟨rfl, rfl⟩⟩
  · exact .inl rfl

theorem step_loops {s s' : DaemonState} {a : Action}
    (hstep : step s a = some s') (ha : ∀ i event, a ≠ .loop i event) :
    s'.loops = s.loops ∨ ∃ task, s'.loops = s.loops ++ [task] ∧ task.Fresh := by
  cases a with
  | auth state tenantClient =>
      cases hstep
      exact .inl rfl
  | connect request =>
      cases hstep
      exact connectTunnel_loops s request
  | beginDisconnect =>
      cases hstep
      exact .inl rfl
  | endDisconnect call =>
      obtain ⟨task, tunnel, -, -, rfl⟩ := DaemonState.endDisconnect_effect hstep
      exact .inl rfl
  | beginUpdate u =>
      cases hstep
      exact .inl rfl
  | stepUpdate call built =>
      cases DaemonState.stepUpdate_effect hstep with
      | quiet | capture | cancel => exact .inl rfl
      | connect => exact connectTunnel_loops s _
  | loop i event => exact absurd rfl (ha i event)

end Rustylink.Daemon
