import Rustylink.Daemon.Persist
import Rustylink.Daemon.Watch

/-!
# Where the request of a tunnel comes from

A transition keeps the request of the state it meets, and makes one up where
there is none.  A run records which loop has moved the state last and which
requests were asked for; neither is read by any step.
-/

namespace Rustylink.Daemon

open Rustylink.Foundation Rustylink.Core Rustylink.Tunnel

structure RequestTrace where
  daemon : DaemonState
  writer : Option TaskId
  asked : List VpnRequest
  deriving DecidableEq, Repr

namespace RequestTrace

def nextWriter (s : RequestTrace) (daemon : DaemonState) :
    Action → Option TaskId
  | .connect _ | .stepUpdate .. =>
      if s.daemon.loops.length <
        daemon.loops.length then some s.daemon.loops.length
      else s.writer
  | .loop i _ =>
      if s.daemon.loops[i]?.any (·.pc.writes) then some i else s.writer
  | _ => s.writer

def nextAsked (s : RequestTrace) : Action → List VpnRequest
  | .connect request => s.asked ++ [request]
  | _ => s.asked

def step (s : RequestTrace) (a : Action) : Option RequestTrace :=
  (Daemon.step s.daemon a).map fun daemon =>
    ⟨daemon, s.nextWriter daemon a, s.nextAsked a⟩

def Initial (s : RequestTrace) : Prop :=
  Daemon.Initial s.daemon ∧ s.writer = none ∧ s.asked = []

/-! ## Faithful requests -/

/--
The loop that has moved the state last, with the request it was started with.
-/
def Owner (s : RequestTrace) (request : VpnRequest) : Prop :=
  ∃ i task, s.writer = some i ∧ s.daemon.loops[i]? = some task ∧
    task.request = request ∧
    request ∈ s.asked

structure Faithful (s : RequestTrace) : Prop where
  request : ∀ vpn request, s.daemon.inner.vpn = some vpn →
    vpn.state.currentRequest = some request → s.Owner request
  mode : s.daemon.inner.vpnWatchTx.mode ≠ .unspecified →
    ∃ request, s.Owner request ∧
    s.daemon.inner.vpnWatchTx.mode = vpnModeToProto request.mode
  persisted : ∀ auth now creds persisted,
    snapshotCredentials now ⟨auth, s.daemon.inner.vpn.map VpnMachine.state⟩ =
      some creds →
    creds.lastVpnRequest = some persisted → ∃ request, s.Owner request ∧
      persisted = ⟨modeName request.mode, request.locationId,
        request.protocolMode, request.reconnect⟩

/--
A disconnect does not find the machine in `Disconnected`, and neither does a
section of a loop that moves the state on; no newer loop has been started then.
-/
def KeepsRequest (s : RequestTrace) : Action → Prop
  | .beginDisconnect => ∀ vpn, s.daemon.inner.vpn = some vpn →
        vpn.state ≠ .disconnected
  | .loop i _ => ∀ task vpn, s.daemon.loops[i]? = some task →
        task.pc.writes = true →
      s.daemon.inner.vpn = some vpn →
        vpn.state ≠ .disconnected ∧ i + 1 = s.daemon.loops.length
  | _ => True

end RequestTrace

/-! ## The invariant -/

def UpdatePc.request : UpdatePc → Option VpnRequest
  | .captured request _ _ | .awaiting request _ => some request
  | _ => none

namespace RequestTrace

structure Traced (s : RequestTrace) : Prop where
  published : s.daemon.inner.Published
  state : ∀ vpn request, s.daemon.inner.vpn = some vpn →
    vpn.state.currentRequest = some request → ∃ i task, s.writer = some i ∧
      i + 1 = s.daemon.loops.length ∧ s.daemon.loops[i]? = some task ∧
      task.request = request
  loops : ∀ task ∈ s.daemon.loops, task.request ∈ s.asked
  updates : ∀ pc ∈ s.daemon.updates, ∀ request, pc.request = some request →
    request ∈ s.asked

variable {s s' : RequestTrace}

theorem Traced.owner (h : Traced s) {vpn : VpnMachine} {request : VpnRequest}
    (hvpn : s.daemon.inner.vpn = some vpn)
    (hrequest : vpn.state.currentRequest = some request) : s.Owner request := by
  obtain ⟨i, task, hwriter, -, hi, rfl⟩ := h.state vpn request hvpn hrequest
  exact ⟨i, task, hwriter, hi, rfl, h.loops task (List.mem_of_getElem? hi)⟩

theorem mode_of_toTunnelProto {vpn : VpnMachine}
    (h : vpn.toTunnelProto.mode ≠ .unspecified) : ∃ request,
      vpn.state.currentRequest = some request ∧
        vpn.toTunnelProto.mode = vpnModeToProto request.mode := by
  unfold VpnMachine.toTunnelProto at h ⊢
  cases hstate : vpn.state with
  | disconnected => simp [hstate, Tunnel.default] at h
  | _ => exact ⟨_, rfl, rfl⟩

theorem Traced.faithful (h : Traced s) : Faithful s := by
  refine ⟨fun vpn request => h.owner, fun hmode => ?_, ?_⟩
  · rw [h.published, DaemonInner.getTunnel] at hmode ⊢
    cases hvpn : s.daemon.inner.vpn with
    | none => simp [hvpn, Tunnel.default] at hmode
    | some vpn =>
        rw [hvpn] at hmode
        obtain ⟨request, hrequest, hshown⟩ := mode_of_toTunnelProto hmode
        exact ⟨request, h.owner hvpn hrequest, hshown⟩
  · intro auth now creds persisted hsnapshot hpersisted
    rw [snapshot_lastVpnRequest hsnapshot] at hpersisted
    obtain ⟨state, hstate, hcurrent⟩ := Option.bind_eq_some_iff.mp hpersisted
    obtain ⟨vpn, hvpn, rfl⟩ := Option.map_eq_some_iff.mp hstate
    obtain ⟨request, hrequest, rfl⟩ := Option.map_eq_some_iff.mp hcurrent
    exact ⟨request, h.owner hvpn hrequest, rfl⟩

/-! ## The steps -/

theorem Traced.initial (h : s.Initial) : Traced s := by
  obtain ⟨⟨auth, config, hdaemon⟩, -, -⟩ := h
  constructor
  · rw [hdaemon]
    rfl
  · intro vpn request hvpn
    rw [hdaemon] at hvpn
    cases hvpn
  · rw [hdaemon]
    exact List.forall_mem_nil _
  · rw [hdaemon]
    exact List.forall_mem_nil _

theorem Traced.frame {daemon : DaemonState} {writer : Option TaskId}
    (h : Traced s) (hpublished : daemon.inner.Published)
    (hvpn : daemon.inner.vpn = s.daemon.inner.vpn)
    (hloops : daemon.loops = s.daemon.loops) (hwriter : writer = s.writer)
    (hupdates : ∀ pc ∈ daemon.updates, ∀ request, pc.request = some request →
      request ∈ s.asked) :
    Traced ⟨daemon, writer, s.asked⟩ := by
  refine ⟨hpublished, ?_, ?_, hupdates⟩
  · rw [hvpn, hloops, hwriter]
    exact h.state
  · rw [hloops]
    exact h.loops

theorem Traced.updates_set (h : Traced s) {call : Nat} {pc : UpdatePc}
    (hpc : ∀ request, pc.request = some request → request ∈ s.asked) :
    ∀ other ∈ s.daemon.updates.set call pc, ∀ request, other.request =
      some request →
      request ∈ s.asked := by
  intro other hother
  rcases List.mem_or_eq_of_mem_set hother with hold | rfl
  · exact h.updates other hold
  · exact hpc

theorem Traced.ask (h : Traced s) (request : VpnRequest) :
    Traced ⟨s.daemon, s.writer, s.asked ++ [request]⟩ where
  published := h.published
  state := h.state
  loops task htask := List.mem_append_left _ (h.loops task htask)
  updates pc hpc old hold := List.mem_append_left _ (h.updates pc hpc old hold)

theorem Traced.connect {request : VpnRequest} (h : Traced s)
    (hasked : request ∈ s.asked) :
    Traced ⟨(s.daemon.connectTunnel request).1,
      if s.daemon.loops.length <
          (s.daemon.connectTunnel request).1.loops.length then
        some s.daemon.loops.length
      else s.writer,
      s.asked⟩ := by
  have hpublished := DaemonState.connectTunnel_published h.published request
  rw [DaemonState.connectTunnel_fst] at hpublished ⊢
  by_cases hstart : s.daemon.mayStart
  · rw [if_pos hstart] at hpublished ⊢
    have hlength : (s.daemon.withMachine.spawnLoop request).loops.length =
        s.daemon.loops.length + 1 := by
      simp [DaemonState.spawnLoop]
    rw [if_pos (by omega)]
    refine ⟨hpublished, ?_, ?_, ?_⟩
    · intro vpn other hvpn hother
      cases hvpn
      cases hother
      exact ⟨_, _, rfl, hlength.symm, get_spawn.mpr (.inr ⟨by simp, rfl⟩), rfl⟩
    · intro task htask
      rcases List.mem_append.mp htask with hold | hnew
      · rw [DaemonState.withMachine_loops] at hold
        exact h.loops task hold
      · rw [List.mem_singleton.mp hnew]
        exact hasked
    · intro pc hpc
      exact h.updates pc (s.daemon.withMachine_updates ▸ hpc)
  · rw [if_neg hstart] at hpublished ⊢
    simpa using h

theorem Traced.stepUpdate {daemon : DaemonState} {call : Nat} {built : Bool}
    (h : Traced s) (hpublished : daemon.inner.Published)
    (hstep : s.daemon.stepUpdate call built = some daemon) :
    Traced ⟨daemon, s.nextWriter daemon (.stepUpdate call built), s.asked⟩ := by
  cases DaemonState.stepUpdate_effect hstep with
  | @quiet pc pc' inner hcall hold hnew hvpn htask =>
      refine h.frame hpublished hvpn rfl (by simp [nextWriter])
        (h.updates_set fun request hrequest => ?_)
      cases pc' <;> cases hrequest <;> cases hnew
  | @capture vpn request inner hcall hvpn hrequest hsame htask =>
      refine h.frame hpublished hsame rfl (by simp [nextWriter])
        (h.updates_set fun other hother => ?_)
      cases hother
      obtain ⟨-, -, -, -, -, hasked⟩ := h.owner hvpn hrequest
      exact hasked
  | @cancel request token task hcall =>
      refine h.frame hpublished rfl rfl
        (by simp [nextWriter, DaemonState.cancel, DaemonState.setUpdate])
        (h.updates_set fun other hother => ?_)
      cases hother
      exact h.updates _ (List.mem_of_getElem? hcall) _ rfl
  | @connect request task hcall hfinished =>
      have hasked := h.updates _ (List.mem_of_getElem? hcall) request rfl
      have hconnected := h.connect hasked
      exact hconnected.frame hpublished rfl rfl rfl
        (hconnected.updates_set fun other hother => by cases hother)

theorem loop_kept {loops : List LoopTask} {i j : TaskId}
    {task task' owner : LoopTask} (hi : loops[i]? = some task)
    (hrequest : task'.request = task.request)
    (hj : loops[j]? = some owner) :
    ∃ owner', (loops.set i task')[j]? = some owner' ∧
      owner'.request = owner.request := by
  by_cases hsame : j = i
  · subst hsame
    rw [hi] at hj
    cases hj
    exact ⟨task', get_set_self hi, hrequest⟩
  · exact ⟨owner, (get_set hi).mpr (.inr ⟨hsame, hj⟩), rfl⟩

theorem Traced.quiet {inner' : DaemonInner} {i : TaskId} {task task' : LoopTask}
    {vpn vpn' : VpnMachine} {request : VpnRequest} (h : Traced s)
    (hi : s.daemon.loops[i]? = some task) (hkept : task'.request = task.request)
    (hwrites : LoopWrites s.daemon.inner task.pc inner')
    (hpc : task.pc.writes = false) (hvpn : s.daemon.inner.vpn = some vpn)
    (hvpn' : inner'.vpn = some vpn')
    (hrequest : vpn'.state.currentRequest = some request) :
    ∃ j owner, s.writer = some j ∧ j + 1 = s.daemon.loops.length ∧
      (s.daemon.loops.set i task')[j]? = some owner ∧
        owner.request = request := by
  have hstays : vpn.state.currentRequest = some request := by
    rcases hwrites.quiet hpc with hquiet | ⟨-, hdisconnected⟩
    · rw [hquiet, hvpn] at hvpn'
      cases hvpn'
      exact hrequest
    · rw [hdisconnected, hvpn] at hvpn'
      cases hvpn'
      contradiction
  obtain ⟨j, owner, hwriter, hlength, hj, rfl⟩ :=
    h.state vpn request hvpn hstays
  obtain ⟨owner', hj', hsame⟩ := loop_kept hi hkept hj
  exact ⟨j, owner', hwriter, hlength, hj', hsame⟩

theorem Traced.moves {inner' : DaemonInner} {i : TaskId} {task : LoopTask}
    {vpn vpn' : VpnMachine} {request : VpnRequest} (h : Traced s)
    (hi : s.daemon.loops[i]? = some task)
    (hwrites : LoopWrites s.daemon.inner task.pc inner')
    (hpc : task.pc.writes = true) (hvpn : s.daemon.inner.vpn = some vpn)
    (hvpn' : inner'.vpn = some vpn')
    (hconnected : vpn.state ≠ .disconnected)
    (hnewest : i + 1 = s.daemon.loops.length)
    (hrequest : vpn'.state.currentRequest = some request) :
    task.request = request := by
  obtain ⟨old, hold⟩ := Option.ne_none_iff_exists'.mp
    fun hnone => hconnected (VpnState.currentRequest_eq_none_iff.mp hnone)
  obtain ⟨j, owner, -, hlength, hj, rfl⟩ := h.state vpn old hvpn hold
  obtain rfl : j = i := Nat.succ.inj (hlength.trans hnewest.symm)
  rw [hi] at hj
  cases hj
  obtain ⟨state, hwrite, hwritten⟩ := hwrites.written hpc hvpn
  rw [hwritten] at hvpn'
  cases hvpn'
  rw [hwrite.currentRequest, VpnState.intoRequest, hold] at hrequest
  cases hrequest
  rfl

theorem Traced.stepLoop {daemon : DaemonState} {i : TaskId} {event : LoopEvent}
    (h : Traced s) (hok : s.KeepsRequest (.loop i event))
    (hpublished : daemon.inner.Published)
    (hstep : s.daemon.stepLoop i event = some daemon) :
    Traced ⟨daemon, s.nextWriter daemon (.loop i event), s.asked⟩ := by
  obtain ⟨task, task', inner', hi, hnext, rfl⟩ :=
    DaemonState.stepLoop_spec hstep
  have hwrites := loopNext_writes hnext
  have heffect := loopNext_effect hnext
  refine ⟨hpublished, ?_, ?_, h.updates⟩
  · intro vpn' request hvpn' hrequest
    obtain ⟨f, hmoved, -⟩ := heffect.move
    obtain ⟨vpn, hvpn, -⟩ := Option.map_eq_some_iff.mp (hmoved ▸ hvpn')
    cases hpc : task.pc.writes with
    | false =>
        obtain ⟨j, owner, hwriter, hlength, hj, hkept⟩ :=
          h.quiet hi heffect.request hwrites hpc hvpn hvpn' hrequest
        exact ⟨j, owner, by simp [nextWriter, hi, hpc, hwriter],
          by simpa using hlength, hj, hkept⟩
    | true =>
        obtain ⟨hconnected, hnewest⟩ := hok task vpn hi hpc hvpn
        have hown :=
          h.moves hi hwrites hpc hvpn hvpn' hconnected hnewest hrequest
        exact ⟨i, task', by simp [nextWriter, hi, hpc], by simpa using hnewest,
          get_set_self hi, heffect.request.trans hown⟩
  · intro other hother
    rcases List.mem_or_eq_of_mem_set hother with hold | rfl
    · exact h.loops other hold
    · rw [heffect.request]
      exact h.loops task (List.mem_of_getElem? hi)

theorem Traced.step {a : Action} (h : Traced s) (hok : s.KeepsRequest a)
    (hstep : s.step a = some s') : Traced s' := by
  obtain ⟨daemon, hdaemon, rfl⟩ := Option.map_eq_some_iff.mp hstep
  have hpublished := step_published h.published hdaemon
  cases a with
  | auth state tenantClient =>
      cases hdaemon
      exact h.frame hpublished rfl rfl rfl h.updates
  | connect request =>
      cases hdaemon
      exact (h.ask request).connect (by simp)
  | beginDisconnect =>
      cases hdaemon
      refine ⟨hpublished, ?_, h.loops, h.updates⟩
      intro vpn' request hvpn' hrequest
      simp only [DaemonState.beginDisconnect, DaemonInner.vpnTransition_vpn,
        Option.map_eq_some_iff] at hvpn'
      obtain ⟨vpn, hvpn, rfl⟩ := hvpn'
      obtain ⟨old, hold⟩ := Option.ne_none_iff_exists'.mp
        fun hnone => hok vpn hvpn (VpnState.currentRequest_eq_none_iff.mp hnone)
      cases hrequest
      rw [VpnState.intoRequest, hold]
      exact h.state vpn old hvpn hold
  | endDisconnect call =>
      obtain ⟨task, tunnel, -, -, rfl⟩ :=
        DaemonState.endDisconnect_effect hdaemon
      refine ⟨hpublished, ?_, h.loops, h.updates⟩
      intro vpn' request hvpn' hrequest
      simp only [DaemonInner.broadcast_vpn, Option.map_eq_some_iff] at hvpn'
      obtain ⟨vpn, -, rfl⟩ := hvpn'
      cases hrequest
  | beginUpdate u =>
      cases hdaemon
      refine h.frame hpublished rfl rfl rfl fun pc hpc request hrequest => ?_
      rcases List.mem_append.mp hpc with hold | hnew
      · exact h.updates pc hold request hrequest
      · rw [List.mem_singleton.mp hnew] at hrequest
        cases hrequest
  | stepUpdate call built => exact h.stepUpdate hpublished hdaemon
  | loop i event => exact h.stepLoop hok hpublished hdaemon

/-! ## The run -/

/--
Whatever the state carries, the clients see and the credentials keep is the
request of the loop that has moved the state last, and was asked for: in every
run where a disconnect or a moving loop meets no `Disconnected` machine and
only the newest loop moves the state.
-/
theorem request_faithful {as : List Action} (hinit : s.Initial)
    (hok : Along RequestTrace.step KeepsRequest s as) :
    Always RequestTrace.step Faithful s as :=
  .of_invariant (I := Traced) (fun _ _ _ h hok hstep => h.step hok hstep)
    (fun _ h => h.faithful) (.initial hinit) hok

def splitRequest : VpnRequest where
  mode := .split
  locationId := some 7
  otp := none
  reconnect := true
  protocolMode := .feilianTcp

def silentDaemon : RequestTrace := ⟨readyDaemon, none, []⟩

theorem request_faithful_configuring :
    Always RequestTrace.step Faithful silentDaemon
      [.connect splitRequest, .loop 0 .proceed] := by
  refine request_faithful ⟨⟨_, _, rfl⟩, rfl, rfl⟩
    (.cons_final trivial (.cons_final ?_ trivial))
  intro task vpn hi _ hvpn
  cases hi
  cases hvpn
  exact ⟨by decide, rfl⟩

def dotAnswer : DotConn where
  dotId := some 3
  dotName := some "dot"
  dotProtocolMode := none
  endpoint := "192.0.2.1:443"
  assignedIp := "10.8.0.2"

/--
The second of two disconnects finds no task to wait for, so the machine is
`Disconnected` when the attempt that was being set up marks itself connected.
-/
def overlappingDisconnects : List Action :=
  [.connect splitRequest, .loop 0 .proceed, .loop 0 .proceed, .loop 0 .proceed,
    .loop 0 .proceed, .beginDisconnect, .beginDisconnect, .endDisconnect 1,
    .loop 0 (.configFetched dotAnswer), .loop 0 .proceed, .loop 0 .proceed,
    .loop 0 .proceed]

theorem overlappingDisconnects_fabricate :
    ¬ ∀ s : RequestTrace, Reachable RequestTrace.step RequestTrace.Initial s →
      Faithful s := by
  intro h
  have hfaithful :=
    h (final RequestTrace.step silentDaemon overlappingDisconnects)
    ⟨silentDaemon, _, ⟨⟨_, _, rfl⟩, rfl, rfl⟩, exec_final (by decide +kernel)⟩
  obtain ⟨i, task, -, -, -, hasked⟩ := hfaithful.request
    ⟨.connected .default (dotAnswer.activeTunnel splitRequest), 1⟩ .default
    (by decide +kernel) rfl
  revert hasked
  decide +kernel

end RequestTrace

end Rustylink.Daemon
