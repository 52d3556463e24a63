import Rustylink.Daemon.Disconnect
import Rustylink.Daemon.Watch

/-!
# From `Disconnecting` to `Disconnected`

While a disconnect is in progress connects are refused, and other disconnects
publish the same state again.  Only a connect loop can publish anything else.
It does so unless the cancel finds it at a place from which it comes to its
token first, and its pending await gives that cancel.
-/

namespace Rustylink.Daemon

open Rustylink.Foundation Rustylink.Core Rustylink.Tunnel

def ShowsDisconnecting (s : DaemonState) : Prop :=
  s.inner.vpnWatchTx.state = .disconnecting

def ShowsDisconnected (s : DaemonState) : Prop :=
  s.inner.vpnWatchTx.state = .disconnected

instance (s : DaemonState) : Decidable (ShowsDisconnecting s) :=
  inferInstanceAs (Decidable (s.inner.vpnWatchTx.state = .disconnecting))

instance (s : DaemonState) : Decidable (ShowsDisconnected s) :=
  inferInstanceAs (Decidable (s.inner.vpnWatchTx.state = .disconnected))

/-! ## Where the cancel finds a loop -/

def LoopPc.heeds : LoopPc → Bool
  | .persistCredentials | .reportClient | .readOutbound | .supervise
  | .teardown .cancelled | .checkCancelled | .backoff | .markDisconnected
  | .returned => true
  | _ => false

/-- No loop sets an attempt up, or has a failure or a decision to publish. -/
def LoopsHeed (s : DaemonState) : Prop :=
  ∀ task ∈ s.loops, task.pc.heeds = true ∧
    (task.pc = .checkCancelled → s.isCancelled task.cancel = true)

instance (s : DaemonState) : Decidable (LoopsHeed s) :=
  inferInstanceAs (Decidable (∀ task ∈ s.loops, _ ∧ (_ → _)))

/-- The supervisor, and the `select!` of the backoff, end by the cancel. -/
def AwaitsCancel (s : DaemonState) : Action → Prop
  | .loop i event => ∀ task, s.loops[i]? = some task →
      (task.pc = .supervise → event = .outcome .cancelled) ∧
        (task.pc = .backoff → event = .cancelled)
  | _ => True

instance (s : DaemonState) (a : Action) : Decidable (AwaitsCancel s a) :=
  match a with
  | .loop i event => inferInstanceAs (Decidable (∀ task ∈ s.loops[i]?,
      (task.pc = .supervise → event = .outcome .cancelled) ∧
        (task.pc = .backoff → event = .cancelled)))
  | .auth .. | .connect _ | .beginDisconnect | .endDisconnect _
  | .beginUpdate _ | .stepUpdate .. => .isTrue trivial

/--
The setting of one `DisconnectTunnel` call and the running loop `i`: the call
takes its handle and cancels its token, and no other call is in progress.
-/
structure OnlyLoop (s : DaemonState) (i : TaskId) : Prop where
  handle : s.inner.tunnelTask = some i
  cancels : ∀ task, s.loops[i]? = some task →
    s.beginDisconnect.isCancelled task.cancel = true
  others : ∀ j task, s.loops[j]? = some task → task.live → j = i
  idle : ¬ Disconnecting s

theorem heeds_quiet {pc : LoopPc} (h : pc.heeds = true) :
    pc.writes = false := by
  cases pc <;> first | rfl | contradiction

theorem loopNext_heeds {inner inner' : DaemonInner} {isCancelled : Bool}
    {task task' : LoopTask} {event : LoopEvent}
    (h : loopNext inner isCancelled task event = some (inner', task'))
    (hheeds : task.pc.heeds = true)
    (htoken : task.pc = .checkCancelled → isCancelled = true)
    (hsupervise : task.pc = .supervise → event = .outcome .cancelled)
    (hbackoff : task.pc = .backoff → event = .cancelled) :
    task'.pc.heeds = true ∧ task'.pc ≠ .checkCancelled := by
  cases hpc : task.pc <;> rw [hpc] at hheeds <;> cases event <;>
    simp only [loopNext, hpc, reduceCtorEq, Option.some.injEq,
      Prod.mk.injEq] at h
  case persistCredentials.proceed | reportClient.proceed
      | readOutbound.proceed | markDisconnected.proceed =>
    obtain ⟨-, rfl⟩ := h
    exact ⟨rfl, by simp⟩
  case supervise.outcome outcome =>
    cases hsupervise hpc
    split at h <;> cases h
    exact ⟨rfl, by simp⟩
  case teardown.proceed outcome =>
    obtain ⟨-, rfl⟩ := h
    cases outcome with
    | cancelled => exact ⟨rfl, by simp [LoopTask.afterOutcome]⟩
    | trigger | serverKickOut => contradiction
  case checkCancelled.proceed =>
    rw [if_pos (htoken hpc)] at h
    cases h
    exact ⟨rfl, by simp⟩
  case backoff.proceed => cases hbackoff hpc
  case backoff.cancelled =>
    split at h <;> cases h
    exact ⟨rfl, by simp⟩
  all_goals contradiction

theorem loopNext_owes {inner inner' : DaemonInner} {isCancelled : Bool}
    {task task' : LoopTask} {event : LoopEvent}
    (h : loopNext inner isCancelled task event = some (inner', task'))
    (howes : task.pc.heeds = false) (hquiet : task.pc.writes = false) :
    task'.pc.heeds = false := by
  cases hpc : task.pc <;> rw [hpc] at howes hquiet <;> cases event <;>
    simp only [loopNext, hpc, reduceCtorEq, Option.some.injEq,
      Prod.mk.injEq] at h
  case checkClient.proceed => split at h <;> cases h <;> rfl
  case teardown.proceed outcome =>
    obtain ⟨-, rfl⟩ := h
    cases outcome with
    | cancelled => contradiction
    | trigger | serverKickOut => rfl
  case computeOtp.proceed | snapshotPool.proceed | fetchConfig.configFetched
      | fetchConfig.attemptError | startSession.proceed | openSession.proceed
      | openSession.attemptError =>
    obtain ⟨-, rfl⟩ := h
    rfl
  all_goals contradiction

theorem loopNext_turns {inner inner' : DaemonInner} {isCancelled : Bool}
    {task task' : LoopTask} {event : LoopEvent}
    (h : loopNext inner isCancelled task event = some (inner', task'))
    (hno : ¬ ((task.pc = .supervise → event = .outcome .cancelled) ∧
      (task.pc = .backoff → event = .cancelled))) :
    task.pc.writes = false ∧ task'.pc.heeds = false := by
  cases hpc : task.pc <;> cases event <;>
    simp only [loopNext, hpc, reduceCtorEq, Option.some.injEq,
      Prod.mk.injEq] at h
  case supervise.outcome outcome =>
    split at h <;> cases h
    cases outcome with
    | cancelled => simp [hpc] at hno
    | trigger | serverKickOut => exact ⟨rfl, rfl⟩
  case backoff.proceed =>
    obtain ⟨-, rfl⟩ := h
    exact ⟨rfl, rfl⟩
  all_goals simp [hpc] at hno

/-! ## While the disconnect is in progress -/

structure HoldsDisconnecting (s : DaemonState) : Prop where
  published : s.inner.Published
  state : ∃ vpn request, s.inner.vpn = some vpn ∧
    vpn.state = .disconnecting request

variable {s s' : DaemonState}

theorem HoldsDisconnecting.shows (h : HoldsDisconnecting s) :
    ShowsDisconnecting s := by
  obtain ⟨vpn, request, hvpn, hstate⟩ := h.state
  unfold ShowsDisconnecting
  rw [h.published, DaemonInner.getTunnel, hvpn, Option.elim_some,
    VpnMachine.toTunnelProto, hstate]
  rfl

theorem HoldsDisconnecting.not_disconnected (h : HoldsDisconnecting s) :
    ¬ ShowsDisconnected s := by
  intro hshows
  have hstill := h.shows
  unfold ShowsDisconnecting at hstill
  rw [hshows] at hstill
  contradiction

theorem HoldsDisconnecting.begin {vpn : VpnMachine}
    (hvpn : s.inner.vpn = some vpn) :
    HoldsDisconnecting s.beginDisconnect := by
  constructor
  · simp [DaemonState.beginDisconnect, DaemonInner.vpnTransition,
      DaemonInner.broadcast, hvpn, DaemonInner.Published, DaemonInner.getTunnel]
  · exact ⟨vpn.transition .intoDisconnecting, vpn.state.intoRequest,
      by simp [DaemonState.beginDisconnect, hvpn], rfl⟩

theorem HoldsDisconnecting.frame (h : HoldsDisconnecting s)
    (hpublished : s'.inner.Published) (hvpn : s'.inner.vpn = s.inner.vpn) :
    HoldsDisconnecting s' := by
  refine ⟨hpublished, ?_⟩
  rw [hvpn]
  exact h.state

theorem HoldsDisconnecting.refuses (h : HoldsDisconnecting s)
    (request : VpnRequest) : (s.connectTunnel request).1 = s := by
  obtain ⟨vpn, old, hvpn, hstate⟩ := h.state
  rw [DaemonState.connectTunnel_fst, if_neg]
  simp [DaemonState.mayStart, hvpn, VpnMachine.canConnect, hstate,
    VpnState.canConnect]

theorem LoopWrite.shows {state state' : VpnState} (h : LoopWrite state state')
    (token : TokenId) :
    (VpnMachine.toTunnelProto ⟨state', token⟩).state ≠ .disconnected ∧
      (VpnMachine.toTunnelProto ⟨state', token⟩).state ≠ .disconnecting := by
  cases h <;>
    simp [VpnMachine.toTunnelProto, VpnMachine.requestProto,
      VpnState.intoConfiguring, VpnState.intoConnected,
      VpnState.intoReconnecting, VpnState.intoFailed]

theorem cancel_keeps (s : DaemonState) (token other : TokenId)
    (h : s.isCancelled other = true) :
    (s.cancel token).isCancelled other = true := by
  unfold DaemonState.isCancelled DaemonState.cancel at *
  simp only [List.getD_eq_getElem?_getD, List.getElem?_set] at h ⊢
  split
  · split
    · rfl
    · rename_i hsame hout
      rw [← hsame, List.getElem?_eq_none (by omega)] at h
      contradiction
  · exact h

theorem HoldsDisconnecting.step_others {a : Action} (h : HoldsDisconnecting s)
    (ha : ∀ i event, a ≠ .loop i event) (hstep : step s a = some s') :
    s'.loops = s.loops ∧
      ∀ token, s.isCancelled token = true → s'.isCancelled token = true := by
  cases a with
  | auth | beginUpdate =>
      cases hstep
      exact ⟨rfl, fun _ hcancelled => hcancelled⟩
  | connect request =>
      cases hstep
      rw [h.refuses]
      exact ⟨rfl, fun _ hcancelled => hcancelled⟩
  | beginDisconnect =>
      cases hstep
      refine ⟨rfl, fun token hcancelled => ?_⟩
      obtain ⟨vpn, -, hvpn, -⟩ := h.state
      have hkept := cancel_keeps s vpn.cancelToken token hcancelled
      unfold DaemonState.beginDisconnect
      simp only [hvpn]
      exact hkept
  | endDisconnect call =>
      obtain ⟨task, tunnel, -, -, rfl⟩ :=
        DaemonState.endDisconnect_effect hstep
      exact ⟨rfl, fun _ hcancelled => hcancelled⟩
  | stepUpdate call built =>
      cases DaemonState.stepUpdate_effect hstep with
      | quiet | capture => exact ⟨rfl, fun _ hcancelled => hcancelled⟩
      | cancel => exact ⟨rfl, cancel_keeps s _⟩
      | connect =>
          rw [h.refuses]
          exact ⟨rfl, fun _ hcancelled => hcancelled⟩
  | loop i event => exact absurd rfl (ha i event)

theorem HoldsDisconnecting.endDisconnect_shows {call : Nat}
    (h : HoldsDisconnecting s)
    (hstep : step s (.endDisconnect call) = some s') :
    ShowsDisconnected s' := by
  obtain ⟨task, tunnel, -, -, rfl⟩ := DaemonState.endDisconnect_effect hstep
  obtain ⟨vpn, request, hvpn, -⟩ := h.state
  simp [ShowsDisconnected, DaemonInner.broadcast, hvpn,
    VpnMachine.toTunnelProto, VpnMachine.setDisconnected]

theorem HoldsDisconnecting.step_holds {a : Action} (h : HoldsDisconnecting s)
    (ha : ∀ i event, a ≠ .loop i event) (hstep : step s a = some s') :
    HoldsDisconnecting s' ∨
      (∃ call, a = .endDisconnect call) ∧ ShowsDisconnected s' := by
  have hpublished := step_published h.published hstep
  cases a with
  | auth state tenantClient =>
      cases hstep
      exact .inl (h.frame hpublished rfl)
  | connect request =>
      cases hstep
      rw [h.refuses]
      exact .inl h
  | beginDisconnect =>
      cases hstep
      obtain ⟨vpn, -, hvpn, -⟩ := h.state
      exact .inl (.begin hvpn)
  | endDisconnect call =>
      exact .inr ⟨⟨call, rfl⟩, h.endDisconnect_shows hstep⟩
  | beginUpdate u =>
      cases hstep
      exact .inl (h.frame hpublished rfl)
  | stepUpdate call built =>
      left
      cases DaemonState.stepUpdate_effect hstep with
      | quiet _ _ _ hvpn => exact h.frame hpublished hvpn
      | capture _ _ _ hvpn => exact h.frame hpublished hvpn
      | cancel => exact h.frame hpublished rfl
      | connect =>
          rw [h.refuses] at hpublished ⊢
          exact h.frame hpublished rfl
  | loop i event => exact absurd rfl (ha i event)

section loop

variable {i : TaskId} {event : LoopEvent} {task : LoopTask}

theorem HoldsDisconnecting.loop_holds (h : HoldsDisconnecting s)
    (hi : s.loops[i]? = some task) (hquiet : task.pc.writes = false)
    (hstep : step s (.loop i event) = some s') :
    HoldsDisconnecting s' ∨
      task.pc = .markDisconnected ∧ ShowsDisconnected s' := by
  have hpublished := step_published h.published hstep
  obtain ⟨other, hother, hwrites⟩ := DaemonState.stepLoop_writes hstep
  rw [hi] at hother
  cases hother
  rcases hwrites.quiet hquiet with hsame | ⟨hmark, hdisconnected⟩
  · exact .inl (h.frame hpublished hsame)
  · obtain ⟨vpn, request, hvpn, -⟩ := h.state
    refine .inr ⟨hmark, ?_⟩
    unfold ShowsDisconnected
    rw [hpublished, DaemonInner.getTunnel, hdisconnected, hvpn]
    rfl

theorem HoldsDisconnecting.loop_breaks (h : HoldsDisconnecting s)
    (hi : s.loops[i]? = some task) (hwrites : task.pc.writes = true)
    (hstep : step s (.loop i event) = some s') :
    ¬ (ShowsDisconnected s' ∨ ShowsDisconnecting s') := by
  have hpublished := step_published h.published hstep
  obtain ⟨other, hother, heffect⟩ := DaemonState.stepLoop_writes hstep
  rw [hi] at hother
  cases hother
  obtain ⟨vpn, request, hvpn, -⟩ := h.state
  obtain ⟨state, hwrite, hwritten⟩ := heffect.written hwrites hvpn
  have hshows := hwrite.shows vpn.cancelToken
  unfold ShowsDisconnected ShowsDisconnecting
  rw [hpublished, DaemonInner.getTunnel, hwritten]
  rintro (hshown | hshown)
  · exact hshows.1 hshown
  · exact hshows.2 hshown

end loop

/-! ## Cancels that are heeded -/

structure Heeding (s : DaemonState) : Prop where
  holds : HoldsDisconnecting s
  loops : LoopsHeed s

theorem LoopsHeed.loop {i : TaskId} {event : LoopEvent} (h : LoopsHeed s)
    (hok : AwaitsCancel s (.loop i event))
    (hstep : step s (.loop i event) = some s') : LoopsHeed s' := by
  obtain ⟨task, task', inner', hi, hnext, rfl⟩ :=
    DaemonState.stepLoop_spec hstep
  obtain ⟨hheeds, htoken⟩ := h task (List.mem_of_getElem? hi)
  obtain ⟨hsupervise, hbackoff⟩ := hok task hi
  obtain ⟨hafter, hnot⟩ :=
    loopNext_heeds hnext hheeds htoken hsupervise hbackoff
  intro other hmem
  rcases List.mem_or_eq_of_mem_set hmem with hold | rfl
  · exact h other hold
  · exact ⟨hafter, fun hcheck => absurd hcheck hnot⟩

theorem Heeding.step {a : Action} (h : Heeding s) (hok : AwaitsCancel s a)
    (hstep : step s a = some s') : Heeding s' ∨ ShowsDisconnected s' := by
  by_cases hloop : ∃ i event, a = .loop i event
  · obtain ⟨i, event, rfl⟩ := hloop
    obtain ⟨task, -, -, hi, -, -⟩ := DaemonState.stepLoop_spec hstep
    have hquiet := heeds_quiet (h.loops task (List.mem_of_getElem? hi)).1
    rcases h.holds.loop_holds hi hquiet hstep with hholds | ⟨-, hover⟩
    · exact .inl ⟨hholds, h.loops.loop hok hstep⟩
    · exact .inr hover
  · have ha : ∀ i event, a ≠ .loop i event := fun i event heq =>
      hloop ⟨i, event, heq⟩
    obtain ⟨hloops, htokens⟩ := h.holds.step_others ha hstep
    rcases h.holds.step_holds ha hstep with hholds | ⟨-, hover⟩
    · refine .inl ⟨hholds, fun task hmem => ?_⟩
      rw [hloops] at hmem
      obtain ⟨hheeds, htoken⟩ := h.loops task hmem
      exact ⟨hheeds, fun hcheck => htokens _ (htoken hcheck)⟩
    · exact .inr hover

/-! ## Cancels that are not -/

structure Awaited (call : Nat) (i : TaskId) (s : DaemonState) : Prop where
  holds : HoldsDisconnecting s
  awaiting : s.disconnects[call]? = some (.awaiting (some i))
  calls : ∀ other task, s.disconnects[other]? = some (.awaiting task) →
    other = call
  others : ∀ j task, s.loops[j]? = some task → task.live → j = i

theorem Awaited.begin {i : TaskId} {vpn : VpnMachine} (h : OnlyLoop s i)
    (hvpn : s.inner.vpn = some vpn) :
    Awaited s.disconnects.length i s.beginDisconnect where
  holds := .begin hvpn
  awaiting := get_spawn.mpr (.inr ⟨rfl, by rw [h.handle]⟩)
  calls other task hother := by
    rcases get_spawn.mp hother with hold | ⟨hlast, -⟩
    · exact absurd ⟨other, task, hold⟩ h.idle
    · exact hlast
  others := h.others

section

variable {call : Nat} {i : TaskId}

theorem Awaited.not_finished {other : Nat} {handle : Option TaskId}
    {task : LoopTask} (h : Awaited call i s) (hi : s.loops[i]? = some task)
    (hlive : task.live)
    (hother : s.disconnects[other]? = some (.awaiting handle)) :
    s.finished handle ≠ true := by
  have hsame := h.calls other handle hother
  subst hsame
  rw [h.awaiting] at hother
  cases hother
  intro hfinished
  obtain ⟨done, hdone, hnot⟩ := finished_iff.mp hfinished
  rw [hi] at hdone
  cases hdone
  exact hnot hlive

theorem Awaited.step_others {a : Action} (h : Awaited call i s)
    (ha : ∀ j event, a ≠ .loop j event) (hbegin : a ≠ .beginDisconnect)
    (hend : ∀ other, a ≠ .endDisconnect other) (hstep : step s a = some s') :
    Awaited call i s' ∧ s'.loops = s.loops := by
  have hcalls : s'.disconnects = s.disconnects := by
    cases a with
    | auth | beginUpdate =>
        cases hstep
        rfl
    | connect request =>
        cases hstep
        exact s.connectTunnel_disconnects request
    | beginDisconnect => exact absurd rfl hbegin
    | endDisconnect other => exact absurd rfl (hend other)
    | stepUpdate other built =>
        cases DaemonState.stepUpdate_effect hstep with
        | quiet | capture | cancel => rfl
        | connect => exact s.connectTunnel_disconnects _
    | loop j event => exact absurd rfl (ha j event)
  obtain ⟨hloops, -⟩ := h.holds.step_others ha hstep
  rcases h.holds.step_holds ha hstep with hholds | ⟨⟨other, heq⟩, -⟩
  · exact ⟨⟨hholds, hcalls ▸ h.awaiting, hcalls ▸ h.calls,
      hloops ▸ h.others⟩, hloops⟩
  · exact absurd heq (hend other)

theorem Awaited.loop_eq {j : TaskId} {event : LoopEvent}
    (h : Awaited call i s) (hstep : step s (.loop j event) = some s') :
    j = i := by
  obtain ⟨task, task', inner', hj, heffect, -⟩ :=
    DaemonState.stepLoop_effect hstep
  obtain ⟨f, -, hmove⟩ := heffect.move
  exact h.others j task hj hmove.live

theorem Awaited.set {task task' : LoopTask} {inner' : DaemonInner}
    (h : Awaited call i s) (hi : s.loops[i]? = some task)
    (hholds : HoldsDisconnecting
      { s with inner := inner', loops := s.loops.set i task' }) :
    Awaited call i
        { s with inner := inner', loops := s.loops.set i task' } := by
  refine ⟨hholds, h.awaiting, h.calls, fun j other hj hother => ?_⟩
  rcases (get_set hi).mp hj with ⟨hsame, -⟩ | ⟨-, hold⟩
  · exact hsame
  · exact h.others j other hold hother

structure Owing (call : Nat) (i : TaskId) (s : DaemonState) : Prop where
  awaited : Awaited call i s
  owes : ∃ task, s.loops[i]? = some task ∧ task.pc.heeds = false

theorem live_of_owes {task : LoopTask} (h : task.pc.heeds = false) :
    task.live := by
  intro hreturned
  rw [hreturned] at h
  contradiction

theorem Owing.lasts {a : Action} (h : Owing call i s)
    (hbegin : a ≠ .beginDisconnect) (hstep : step s a = some s')
    (hshows : ShowsDisconnected s' ∨ ShowsDisconnecting s') :
    Owing call i s' := by
  obtain ⟨task, hi, howes⟩ := h.owes
  by_cases hloop : ∃ j event, a = .loop j event
  · obtain ⟨j, event, rfl⟩ := hloop
    have hsame := h.awaited.loop_eq hstep
    subst hsame
    have hquiet : task.pc.writes = false := by
      by_contra hwrites
      exact h.awaited.holds.loop_breaks hi (by simpa using hwrites) hstep hshows
    rcases h.awaited.holds.loop_holds hi hquiet hstep with hholds | ⟨hmark, -⟩
    · obtain ⟨other, task', inner', hj, hnext, rfl⟩ :=
        DaemonState.stepLoop_spec hstep
      rw [hi] at hj
      cases hj
      exact ⟨h.awaited.set hi hholds, task', get_set_self hi,
        loopNext_owes hnext howes hquiet⟩
    · rw [hmark] at howes
      contradiction
  · have ha : ∀ j event, a ≠ .loop j event := fun j event heq =>
      hloop ⟨j, event, heq⟩
    have hend : ∀ other, a ≠ .endDisconnect other := by
      rintro other rfl
      obtain ⟨handle, tunnel, hother, hfinished, -⟩ :=
        DaemonState.endDisconnect_effect hstep
      exact h.awaited.not_finished hi (live_of_owes howes) hother hfinished
    obtain ⟨hawaited, hloops⟩ := h.awaited.step_others ha hbegin hend hstep
    exact ⟨hawaited, task, hloops ▸ hi, howes⟩

theorem Awaited.turns {a : Action} (h : Awaited call i s)
    (hno : ¬ AwaitsCancel s a) (hstep : step s a = some s') :
    Owing call i s' := by
  cases a with
  | loop j event =>
      have hsame := h.loop_eq hstep
      subst hsame
      obtain ⟨task, task', inner', hi, hnext, hs'⟩ :=
        DaemonState.stepLoop_spec hstep
      have hother : ¬ ((task.pc = .supervise → event = .outcome .cancelled) ∧
          (task.pc = .backoff → event = .cancelled)) := by
        intro hok
        apply hno
        intro other hj
        rw [hi] at hj
        cases hj
        exact hok
      obtain ⟨hquiet, howes⟩ := loopNext_turns hnext hother
      rcases h.holds.loop_holds hi hquiet hstep with hholds | ⟨hmark, -⟩
      · subst hs'
        exact ⟨h.set hi hholds, task', get_set_self hi, howes⟩
      · simp [hmark] at hother
  | _ => exact absurd trivial hno

theorem Awaited.step {a : Action} (h : Awaited call i s)
    (hholds : HoldsDisconnecting s') (hbegin : a ≠ .beginDisconnect)
    (hstep : step s a = some s') : Awaited call i s' := by
  by_cases hloop : ∃ j event, a = .loop j event
  · obtain ⟨j, event, rfl⟩ := hloop
    have hsame := h.loop_eq hstep
    subst hsame
    obtain ⟨task, task', inner', hi, -, rfl⟩ := DaemonState.stepLoop_spec hstep
    exact h.set hi hholds
  · have ha : ∀ j event, a ≠ .loop j event := fun j event heq =>
      hloop ⟨j, event, heq⟩
    have hend : ∀ other, a ≠ .endDisconnect other := by
      rintro other rfl
      exact hholds.not_disconnected (h.holds.endDisconnect_shows hstep)
    exact (h.step_others ha hbegin hend hstep).1

end

/-! ## The run -/

theorem OnlyLoop.heeds_iff {i : TaskId} (h : OnlyLoop s i) :
    LoopsHeed s.beginDisconnect ↔
      ∀ task, s.loops[i]? = some task → task.pc.heeds = true := by
  constructor
  · intro hheed task hi
    exact (hheed task (List.mem_of_getElem? hi)).1
  · intro hheed task hmem
    obtain ⟨j, hj⟩ := List.mem_iff_getElem?.mp hmem
    by_cases hlive : task.live
    · have hsame := h.others j task hj hlive
      subst hsame
      exact ⟨hheed task hj, fun _ => h.cancels task hj⟩
    · have hreturned : task.pc = .returned := not_not.mp hlive
      rw [hreturned]
      exact ⟨rfl, by simp⟩

/--
After a disconnect has published `Disconnecting`, nothing but `Disconnected`
is published next in every run in which the cancel finds the loops where they
come to their tokens first, and their awaits give the cancel.  With one call
and one loop, the runs in which the call returns have the property only then.
-/
theorem disconnecting_absorbing_iff {t : DaemonState} {vpn : VpnMachine}
    {as : List Action} (hvpn : s.inner.vpn = some vpn)
    (hrun : exec step s.beginDisconnect as = some t) :
    (LoopsHeed s.beginDisconnect →
      AlongUntil step AwaitsCancel ShowsDisconnected s.beginDisconnect as →
        Until step ShowsDisconnecting ShowsDisconnected s.beginDisconnect as) ∧
    ∀ i tunnel, OnlyLoop s i → (∀ a ∈ as, a ≠ .beginDisconnect) →
      t.disconnects[s.disconnects.length]? = some (.returned tunnel) →
      Until step ShowsDisconnecting ShowsDisconnected s.beginDisconnect as →
        LoopsHeed s.beginDisconnect ∧
          AlongUntil step AwaitsCancel ShowsDisconnected
            s.beginDisconnect as := by
  constructor
  · intro hheed hok
    exact .of_invariant (I := Heeding)
      (fun _ _ _ h hawaits hstep => h.step hawaits hstep)
      (fun _ h => h.holds.shows) (.inl ⟨.begin hvpn, hheed⟩) hok
  · intro i tunnel honly hone hreturned huntil
    have hbegun := Awaited.begin honly hvpn
    have hend : ¬ Owing s.disconnects.length i t := by
      intro howing
      have hawaiting := howing.awaited.awaiting
      rw [hreturned] at hawaiting
      cases hawaiting
    have hnot : ∀ u, Owing s.disconnects.length i u → ¬ ShowsDisconnected u :=
      fun _ h => h.awaited.holds.not_disconnected
    have hheed : LoopsHeed s.beginDisconnect := by
      rw [honly.heeds_iff]
      intro task hi
      by_contra howes
      exact hend (huntil.lasts (fun _ _ _ h => h.lasts) hnot
        ⟨hbegun, task, hi, by simpa using howes⟩ hone hrun)
    refine ⟨hheed, ?_⟩
    refine .of_until (I := fun u => Awaited s.disconnects.length i u ∧
      Heeding u) ?_ ?_ (fun _ _ _ h => h.lasts) hnot
      (.inl ⟨hbegun, hbegun.holds, hheed⟩) hone hrun hend huntil
    · rintro u a u' ⟨hawaited, hheeding⟩ ha hok hstep -
      refine (hheeding.step hok hstep).imp_left fun hnext => ⟨?_, hnext⟩
      exact hawaited.step hnext.holds ha hstep
    · rintro u a u' ⟨hawaited, -⟩ ha hno hstep
      exact hawaited.turns hno hstep

def fetchingTunnel : DaemonState :=
  final step readyDaemon [.connect .default, .loop 0 .proceed,
    .loop 0 .proceed, .loop 0 .proceed, .loop 0 .proceed]

def supervisedTunnel : DaemonState :=
  final step fetchingTunnel
    [.loop 0 (.configFetched
      ⟨some 7, some "lab", none, "192.0.2.7:51820", "10.8.0.2"⟩),
      .loop 0 .proceed, .loop 0 .proceed, .loop 0 .proceed, .loop 0 .proceed,
      .loop 0 .proceed, .loop 0 .proceed]

def heededCancel : List Action :=
  [.connect .default, .beginUpdate (selectOutbound "en1"),
    .loop 0 (.outcome .cancelled), .stepUpdate 0 true, .stepUpdate 0 true,
    .loop 0 .proceed, .stepUpdate 0 true, .loop 0 .proceed, .endDisconnect 0]

theorem supervisedTunnel_onlyLoop : OnlyLoop supervisedTunnel 0 where
  handle := rfl
  cancels task hi := by
    have hcancelled : ∀ task ∈ supervisedTunnel.loops,
        supervisedTunnel.beginDisconnect.isCancelled task.cancel = true := by
      decide
    exact hcancelled task (List.mem_of_getElem? hi)
  others j task hj _ := by
    exact Nat.lt_one_iff.mp (List.getElem?_eq_some_iff.mp hj).1
  idle := by
    rintro ⟨call, task, hcall⟩
    contradiction

theorem disconnecting_absorbing_iff_supervised :
    Until step ShowsDisconnecting ShowsDisconnected
        supervisedTunnel.beginDisconnect heededCancel ∧
      LoopsHeed supervisedTunnel.beginDisconnect ∧
        AlongUntil step AwaitsCancel ShowsDisconnected
          supervisedTunnel.beginDisconnect heededCancel := by
  have hrun : exec step supervisedTunnel.beginDisconnect heededCancel =
      some (final step supervisedTunnel.beginDisconnect heededCancel) :=
    exec_final (by decide +kernel)
  obtain ⟨henough, hneeded⟩ :=
    disconnecting_absorbing_iff (s := supervisedTunnel) rfl hrun
  have huntil := henough (by decide) (by
    unfold heededCancel
    iterate 9 apply AlongUntil.cons_final (by decide +kernel)
    trivial)
  exact ⟨huntil, hneeded 0 _ supervisedTunnel_onlyLoop (by decide) rfl huntil⟩

/--
The attempt fails after the cancel, and the loop marks the tunnel failed first.
-/
def failsAfterCancel : List Action :=
  [.loop 0 (.attemptError "timed out"), .loop 0 .proceed]

theorem failsAfterCancel_publishes_failed :
    ¬ ∀ (s t : DaemonState) (vpn : VpnMachine) (as : List Action),
      Reachable step Initial s → s.inner.vpn = some vpn →
      exec step s.beginDisconnect as = some t →
        Until step ShowsDisconnecting ShowsDisconnected
          s.beginDisconnect as := by
  intro h
  have huntil := h fetchingTunnel
    (final step fetchingTunnel.beginDisconnect failsAfterCancel)
    _ failsAfterCancel ⟨readyDaemon, _, ⟨_, _, rfl⟩, exec_final (by decide)⟩ rfl
    (exec_final (by decide))
  obtain ⟨-, hfirst⟩ := huntil.resolve_left (by decide)
  obtain ⟨-, hsecond⟩ := (hfirst _ rfl).resolve_left (by decide)
  exact absurd (hsecond _ rfl).head (by decide)

end Rustylink.Daemon
