import Rustylink.Daemon.Effects

/-!
# What a returned disconnect guarantees

`disconnect_tunnel` awaits the handle it finds.  The handle is not there when
an earlier disconnect or an outbound-change reconnect has taken it, and such a
reconnect starts a loop of its own later on.  When neither overlaps the call in
one of the ways that `KeepsDisconnect` excludes, no loop runs once it returned.
-/

namespace Rustylink.Daemon

open Rustylink.Foundation Rustylink.Core

def Disconnecting (s : DaemonState) : Prop :=
  ∃ (call : Nat) (task : Option TaskId),
    s.disconnects[call]? = some (.awaiting task)

def Reconnecting (s : DaemonState) : Prop :=
  ∃ (call : Nat) (pc : UpdatePc), s.updates[call]? = some pc ∧
    pc.reconnecting = true

/-- Every running loop is the one whose handle the next disconnect takes. -/
def HandleHeld (s : DaemonState) : Prop :=
  ∀ (i : TaskId) (task : LoopTask), s.loops[i]? = some task → task.live →
    s.inner.tunnelTask = some i

/--
A reconnect that connects during a disconnect is refused, and the last
disconnect in progress does not return while a reconnect is on its way.
-/
def KeepsDisconnect (s : DaemonState) : Action → Prop
  | .stepUpdate call _ =>
      ∀ request task, s.updates[call]? = some (.awaiting request task) →
        Disconnecting s → s.mayStart = false
  | .endDisconnect call =>
      (∀ other task, s.disconnects[other]? = some (.awaiting task) →
        other = call) → ¬ Reconnecting s
  | _ => True

def NoConnect : Action → Prop
  | .connect _ => False
  | _ => True

/-! ## The invariant -/

/-- What holds from the first section of the disconnect `call` on. -/
structure DisconnectInv (call : Nat) (handle : Option TaskId)
    (s : DaemonState) : Prop where
  loops : ∀ (i : TaskId) (task : LoopTask), s.loops[i]? = some task →
    task.live → handle = some i
  call : s.disconnects[call]? = some (.awaiting handle) ∨
    ((∃ tunnel, s.disconnects[call]? = some (.returned tunnel)) ∧
      s.finished handle = true)
  reconnect : Reconnecting s → Disconnecting s
  state : ∀ vpn, s.inner.vpn = some vpn → vpn.state ≠ .disconnected →
    Disconnecting s

theorem finished_iff {s : DaemonState} {i : TaskId} :
    s.finished (some i) = true ↔
      ∃ task : LoopTask, s.loops[i]? = some task ∧ ¬ task.live := by
  simp [DaemonState.finished, Option.any_eq_true, LoopTask.live]

theorem DisconnectInv.idle {call : Nat} {handle : Option TaskId}
    {s : DaemonState} (h : DisconnectInv call handle s)
    (hfinished : s.finished handle = true) (i : TaskId) (task : LoopTask)
    (hi : s.loops[i]? = some task) : ¬ task.live := by
  intro hlive
  have hhandle : handle = some i := h.loops i task hi hlive
  subst hhandle
  obtain ⟨other, hother, hdone⟩ := finished_iff.mp hfinished
  rw [hi] at hother
  cases hother
  exact hdone hlive

theorem DisconnectInv.awaiting {call : Nat} {handle : Option TaskId}
    {s : DaemonState} (h : DisconnectInv call handle s) {i : TaskId}
    {task : LoopTask} (hi : s.loops[i]? = some task) (hlive : task.live) :
    s.disconnects[call]? = some (.awaiting handle) := by
  rcases h.call with hawaiting | ⟨-, hfinished⟩
  · exact hawaiting
  · exact absurd hlive (h.idle hfinished i task hi)

theorem DisconnectInv.begin {s : DaemonState} (h : HandleHeld s) :
    DisconnectInv s.disconnects.length s.inner.tunnelTask
      s.beginDisconnect := by
  have hcall : s.beginDisconnect.disconnects[s.disconnects.length]? =
      some (.awaiting s.inner.tunnelTask) :=
    get_spawn.mpr (.inr ⟨rfl, rfl⟩)
  exact ⟨h, .inl hcall, fun _ => ⟨_, _, hcall⟩, fun _ _ _ => ⟨_, _, hcall⟩⟩

theorem Disconnecting.frame {s s' : DaemonState} (h : Disconnecting s)
    (hcalls : s'.disconnects = s.disconnects) : Disconnecting s' := by
  unfold Disconnecting
  rw [hcalls]
  exact h

theorem DisconnectInv.frame {call : Nat} {handle : Option TaskId}
    {s s' : DaemonState} (h : DisconnectInv call handle s)
    (hvpn : s'.inner.vpn = s.inner.vpn) (hloops : s'.loops = s.loops)
    (hcalls : s'.disconnects = s.disconnects)
    (hreconnect : Reconnecting s' → Disconnecting s) :
    DisconnectInv call handle s' where
  loops := by
    rw [hloops]
    exact h.loops
  call := by
    unfold DaemonState.finished
    rw [hcalls, hloops]
    exact h.call
  reconnect := fun hnew => (hreconnect hnew).frame hcalls
  state := by
    intro vpn hmachine hstate
    rw [hvpn] at hmachine
    exact (h.state vpn hmachine hstate).frame hcalls

/-! ## The steps -/

theorem Reconnecting.of_set {s : DaemonState} {inner : DaemonInner}
    {tokens : List Bool} {call : Nat} {pc pc' : UpdatePc}
    (hcall : s.updates[call]? = some pc)
    (h : Reconnecting { s with
      inner := inner
      tokens := tokens
      updates := s.updates.set call pc' }) :
    pc'.reconnecting = true ∨ Reconnecting s := by
  obtain ⟨other, opc, hother, hreconnecting⟩ := h
  rcases (get_set hcall).mp hother with ⟨-, rfl⟩ | ⟨-, hold⟩
  · exact .inl hreconnecting
  · exact .inr ⟨other, opc, hold, hreconnecting⟩

theorem DisconnectInv.beginDisconnect {call : Nat} {handle : Option TaskId}
    {s : DaemonState} (h : DisconnectInv call handle s) :
    DisconnectInv call handle s.beginDisconnect := by
  have hnew : Disconnecting s.beginDisconnect :=
    ⟨s.disconnects.length, _, get_spawn.mpr (.inr ⟨rfl, rfl⟩)⟩
  refine ⟨h.loops, ?_, fun _ => hnew, fun _ _ _ => hnew⟩
  rcases h.call with hawaiting | ⟨⟨tunnel, hreturned⟩, hfinished⟩
  · exact .inl (get_spawn.mpr (.inl hawaiting))
  · exact .inr ⟨⟨tunnel, get_spawn.mpr (.inl hreturned)⟩, hfinished⟩

theorem DisconnectInv.endDisconnect {call ended : Nat}
    {handle task : Option TaskId} {s : DaemonState} {tunnel : Tunnel}
    (h : DisconnectInv call handle s)
    (hended : s.disconnects[ended]? = some (.awaiting task))
    (hfinished : s.finished task = true)
    (hok : (∀ other task, s.disconnects[other]? = some (.awaiting task) →
      other = ended) → ¬ Reconnecting s) :
    DisconnectInv call handle { s with
      inner := s.inner.broadcast VpnMachine.setDisconnected
      disconnects := s.disconnects.set ended (.returned tunnel) } where
  loops := h.loops
  call := by
    rcases h.call with hawaiting | ⟨⟨reply, hreturned⟩, hdone⟩
    · by_cases hsame : call = ended
      · subst hsame
        rw [hawaiting] at hended
        cases hended
        exact .inr ⟨⟨tunnel, get_set_self hawaiting⟩, hfinished⟩
      · exact .inl ((get_set hended).mpr (.inr ⟨hsame, hawaiting⟩))
    · have hne : call ≠ ended := by
        rintro rfl
        rw [hreturned] at hended
        cases hended
      exact .inr ⟨⟨reply, (get_set hended).mpr (.inr ⟨hne, hreturned⟩)⟩, hdone⟩
  reconnect := by
    intro hreconnect
    -- the ended call was not the last one, so another still awaits
    by_contra hnone
    refine hok (fun other otask hother => ?_) hreconnect
    by_contra hne
    exact hnone ⟨other, otask, (get_set hended).mpr (.inr ⟨hne, hother⟩)⟩
  state := by
    intro vpn hmachine hstate
    simp only [DaemonInner.broadcast_vpn, Option.map_eq_some_iff] at hmachine
    obtain ⟨before, -, rfl⟩ := hmachine
    exact absurd rfl hstate

theorem DisconnectInv.stepUpdate {call updated : Nat} {handle : Option TaskId}
    {s s' : DaemonState} (h : DisconnectInv call handle s)
    (hok : ∀ request task, s.updates[updated]? = some (.awaiting request task) →
      Disconnecting s → s.mayStart = false)
    (heffect : DaemonState.UpdateEffect s updated s') :
    DisconnectInv call handle s' := by
  cases heffect with
  | quiet hcall hold hnew hvpn htask =>
      refine h.frame hvpn rfl rfl fun hreconnect => h.reconnect ?_
      rcases Reconnecting.of_set hcall hreconnect with hpc | hother
      · rw [hnew] at hpc
        contradiction
      · exact hother
  | @capture vpn request inner hcall hvpn hrequest hsame htask =>
      -- a request is found only while some disconnect is in progress
      have hstate : vpn.state ≠ .disconnected := by
        intro hdisconnected
        rw [VpnState.currentRequest_eq_none_iff.mpr hdisconnected] at hrequest
        contradiction
      exact h.frame hsame rfl rfl fun _ => h.state vpn hvpn hstate
  | cancel hcall =>
      exact h.frame rfl rfl rfl fun _ => h.reconnect ⟨updated, _, hcall, rfl⟩
  | @connect request task hcall hfinished =>
      have hdisconnecting : Disconnecting s :=
        h.reconnect ⟨updated, _, hcall, rfl⟩
      have hrefused : (s.connectTunnel request).1 = s := by
        rw [DaemonState.connectTunnel_fst,
          hok request task hcall hdisconnecting]
        rfl
      rw [hrefused]
      exact h.frame rfl rfl rfl fun _ => hdisconnecting

theorem DisconnectInv.loop {call : Nat} {handle : Option TaskId}
    {s : DaemonState} {inner' : DaemonInner} {i : TaskId}
    {task task' : LoopTask} (h : DisconnectInv call handle s)
    (hi : s.loops[i]? = some task)
    (heffect : LoopEffect s.inner inner' task task') :
    DisconnectInv call handle
      { s with inner := inner', loops := s.loops.set i task' } := by
  obtain ⟨f, -, hmove⟩ := heffect.move
  have hlive : task.live := hmove.live
  have hawaiting : s.disconnects[call]? = some (.awaiting handle) :=
    h.awaiting hi hlive
  have hdisconnecting : Disconnecting s := ⟨call, handle, hawaiting⟩
  refine ⟨?_, .inl hawaiting, fun _ => hdisconnecting, fun _ _ _ =>
    hdisconnecting⟩
  intro j other hj hother
  rcases (get_set hi).mp hj with ⟨rfl, rfl⟩ | ⟨-, hold⟩
  · exact h.loops j task hi hlive
  · exact h.loops j other hold hother

theorem DisconnectInv.step {call : Nat} {handle : Option TaskId}
    {s s' : DaemonState} {a : Action} (h : DisconnectInv call handle s)
    (hok : NoConnect a ∧ KeepsDisconnect s a) (hstep : step s a = some s') :
    DisconnectInv call handle s' := by
  cases a with
  | auth state tenantClient =>
      cases hstep
      exact h.frame rfl rfl rfl h.reconnect
  | connect request => exact hok.1.elim
  | beginDisconnect =>
      cases hstep
      exact h.beginDisconnect
  | endDisconnect ended =>
      obtain ⟨task, tunnel, hended, hfinished, rfl⟩ :=
        DaemonState.endDisconnect_effect hstep
      exact h.endDisconnect hended hfinished hok.2
  | beginUpdate u =>
      cases hstep
      refine h.frame rfl rfl rfl fun ⟨other, pc, hother, hpc⟩ => h.reconnect ?_
      rcases get_spawn.mp hother with hold | ⟨-, rfl⟩
      · exact ⟨other, pc, hold, hpc⟩
      · contradiction
  | stepUpdate updated built =>
      exact h.stepUpdate hok.2 (DaemonState.stepUpdate_effect hstep)
  | loop i event =>
      obtain ⟨task, task', inner', hi, heffect, rfl⟩ :=
        DaemonState.stepLoop_effect hstep
      exact h.loop hi heffect

/-! ## The run -/

/--
Begin a disconnect when it can take the handle of every running loop, and let
any steps follow that connect nothing and keep the disconnect.  Once the call
has returned no loop is running, and none runs in any later state.
-/
theorem disconnect_final {s₀ s : DaemonState} {as : List Action}
    {tunnel : Tunnel} (hheld : HandleHeld s₀)
    (hok : Along step (fun s a => NoConnect a ∧ KeepsDisconnect s a)
      s₀.beginDisconnect as)
    (hrun : exec step s₀.beginDisconnect as = some s)
    (hreturned : s.disconnects[s₀.disconnects.length]? =
      some (.returned tunnel)) :
    ∀ (i : TaskId) (task : LoopTask), s.loops[i]? = some task →
      ¬ task.live := by
  have hinv := exec_invariant (fun _ _ _ h hok hstep => h.step hok hstep)
    (DisconnectInv.begin hheld) hok hrun
  rcases hinv.call with hawaiting | ⟨-, hfinished⟩
  · rw [hreturned] at hawaiting
    cases hawaiting
  · exact hinv.idle hfinished

def loggedOutTunnel : DaemonState :=
  final step readyDaemon [.connect .default, .auth .configured false]

def cancelledAttempt : List Action :=
  [.loop 0 .proceed, .loop 0 .proceed, .loop 0 .proceed, .loop 0 .proceed,
    .endDisconnect 0]

theorem disconnect_final_loggedOutTunnel :
    ¬ ∃ (i : TaskId) (task : LoopTask),
      (final step loggedOutTunnel.beginDisconnect cancelledAttempt).loops[i]? =
        some task ∧ task.live := by
  have hreturned : (final step loggedOutTunnel.beginDisconnect
      cancelledAttempt).disconnects[0]? =
        some (.returned { Tunnel.default with state := .disconnected }) := rfl
  rintro ⟨i, task, hi, hlive⟩
  refine disconnect_final ?_ ?_ (exec_final (by decide))
    hreturned i task hi hlive
  · intro i task hi hlive
    have hlt : i < 1 := (List.getElem?_eq_some_iff.mp hi).1
    have hzero : i = 0 := Nat.lt_one_iff.mp hlt
    subst hzero
    rfl
  · refine ⟨⟨trivial, trivial⟩, fun _ h => ?_⟩
    cases h
    refine ⟨⟨trivial, trivial⟩, fun _ h => ?_⟩
    cases h
    refine ⟨⟨trivial, trivial⟩, fun _ h => ?_⟩
    cases h
    refine ⟨⟨trivial, trivial⟩, fun _ h => ?_⟩
    cases h
    refine ⟨⟨trivial, fun _ => ?_⟩, fun _ _ => trivial⟩
    rintro ⟨call, pc, hcall, -⟩
    contradiction

def handleTaken : DaemonState :=
  final step readyDaemon
    [.connect .default, .beginUpdate (selectOutbound "en1"), .stepUpdate 0 true,
    .stepUpdate 0 true]

/--
The disconnect returns at once; then the old loop ends and the reconnect
connects.
-/
def reconnectAfterReturn : List Action :=
  [.endDisconnect 0, .stepUpdate 0 true, .loop 0 .proceed, .loop 0 .proceed,
    .loop 0 .proceed, .loop 0 .proceed, .loop 0 (.attemptError "timed out"),
    .loop 0 .proceed, .loop 0 .proceed, .stepUpdate 0 true]

theorem reconnectAfterReturn_starts_loop :
    ¬ ∀ s₀ s as tunnel, Reachable step Initial s₀ → (∀ a ∈ as, NoConnect a) →
      exec step s₀.beginDisconnect as = some s →
      s.disconnects[s₀.disconnects.length]? = some (.returned tunnel) →
      ∀ (i : TaskId) (task : LoopTask), s.loops[i]? = some task →
        ¬ task.live := by
  intro h
  have hno : ∀ a ∈ reconnectAfterReturn, NoConnect a := by
    simp [reconnectAfterReturn, NoConnect]
  have hidle := h handleTaken
    (final step handleTaken.beginDisconnect reconnectAfterReturn)
    reconnectAfterReturn { Tunnel.default with state := .disconnected }
    ⟨readyDaemon, _, ⟨_, _, rfl⟩, exec_final (by decide)⟩ hno
    (exec_final (by decide)) rfl
  exact hidle 1 _ rfl (by decide)

end Rustylink.Daemon
