import Rustylink.Daemon.Effects

/-!
# The daemon never wedges

A state that refuses a connect belongs to somebody: to a loop that will write
the state again, or to a disconnect between its two sections.  Every section
that ends a loop writes `Disconnected` or `Failed`, and the only way out of a
loop that writes nothing follows such a section.
-/

namespace Rustylink.Daemon

open Rustylink.Foundation Rustylink.Core

def Attended (s : DaemonState) : Prop :=
  (∃ (i : TaskId) (task : LoopTask), s.loops[i]? = some task ∧
    task.pc.pending = true) ∨
  ∃ (call : Nat) (task : Option TaskId),
    s.disconnects[call]? = some (.awaiting task)

/-- A machine in a state that refuses a connect is attended to. -/
def ProgressInv (s : DaemonState) : Prop :=
  ∀ vpn, s.inner.vpn = some vpn → vpn.state.canConnect = false → Attended s

theorem LoopPc.pending_live {pc : LoopPc} (h : pc.pending = true) :
    pc ≠ .returned := by
  rintro rfl
  contradiction

theorem Attended.frame {s s' : DaemonState} (h : Attended s)
    (hloops : s'.loops = s.loops) (hcalls : s'.disconnects = s.disconnects) :
    Attended s' := by
  unfold Attended
  rw [hloops, hcalls]
  exact h

theorem ProgressInv.initial {s : DaemonState} (h : Initial s) :
    ProgressInv s := by
  obtain ⟨auth, config, rfl⟩ := h
  intro vpn hvpn
  contradiction

theorem ProgressInv.frame {s s' : DaemonState} (h : ProgressInv s)
    (hvpn : s'.inner.vpn = s.inner.vpn) (hloops : s'.loops = s.loops)
    (hcalls : s'.disconnects = s.disconnects) : ProgressInv s' := by
  intro vpn hmachine hbusy
  rw [hvpn] at hmachine
  exact (h vpn hmachine hbusy).frame hloops hcalls

theorem ProgressInv.connectTunnel {s : DaemonState} {request : VpnRequest}
    (h : ProgressInv s) : ProgressInv (s.connectTunnel request).1 := by
  rw [DaemonState.connectTunnel_fst]
  split
  · intro vpn _ _
    left
    exact ⟨s.withMachine.loops.length, _, get_spawn.mpr (.inr ⟨rfl, rfl⟩), rfl⟩
  · exact h

theorem LoopMove.pending {pc pc' : LoopPc} {f : VpnState → VpnState}
    {state : VpnState} (h : LoopMove pc pc' f)
    (hbusy : (f state).canConnect = false) :
    pc'.pending = true ∨ (pc.pending = false ∧ f = id) := by
  cases h with
  | quiet _ _ hpending => exact .inl hpending
  | advance _ hpending _ => exact .inl hpending
  | decide => exact .inl rfl
  | abandon => exact .inr ⟨rfl, rfl⟩
  | fail | giveUp | disconnect => contradiction

theorem ProgressInv.loop {s : DaemonState} {inner' : DaemonInner} {i : TaskId}
    {task task' : LoopTask} (h : ProgressInv s)
    (hi : s.loops[i]? = some task)
    (heffect : LoopEffect s.inner inner' task task') :
    ProgressInv { s with inner := inner', loops := s.loops.set i task' } := by
  intro vpn' hmachine' hbusy
  obtain ⟨f, hvpn, hmove⟩ := heffect.move
  simp only [hvpn, Option.map_eq_some_iff] at hmachine'
  obtain ⟨vpn, hmachine, rfl⟩ := hmachine'
  rcases hmove.pending hbusy with hpending | ⟨hidle, rfl⟩
  · left
    exact ⟨i, task', get_set_self hi, hpending⟩
  · -- the loop only leaves, so somebody else attends to the state
    rcases h vpn hmachine hbusy with ⟨j, other, hj, hpending⟩ | hcall
    · left
      have hne : j ≠ i := by
        rintro rfl
        rw [hi] at hj
        cases hj
        simp [hidle] at hpending
      exact ⟨j, other, (get_set hi).mpr (.inr ⟨hne, hj⟩), hpending⟩
    · exact .inr hcall

theorem ProgressInv.step {s s' : DaemonState} {a : Action} (h : ProgressInv s)
    (hstep : step s a = some s') : ProgressInv s' := by
  cases a with
  | auth state tenantClient =>
      cases hstep
      exact h.frame rfl rfl rfl
  | connect request =>
      cases hstep
      exact h.connectTunnel
  | beginDisconnect =>
      cases hstep
      intro vpn _ _
      right
      exact ⟨s.disconnects.length, _, get_spawn.mpr (.inr ⟨rfl, rfl⟩)⟩
  | endDisconnect call =>
      obtain ⟨task, tunnel, -, -, rfl⟩ := DaemonState.endDisconnect_effect hstep
      intro vpn hmachine hbusy
      simp only [DaemonInner.broadcast_vpn, Option.map_eq_some_iff] at hmachine
      obtain ⟨before, -, rfl⟩ := hmachine
      contradiction
  | beginUpdate u =>
      cases hstep
      exact h.frame rfl rfl rfl
  | stepUpdate call built =>
      cases DaemonState.stepUpdate_effect hstep with
      | quiet hcall hold hnew hvpn htask => exact h.frame hvpn rfl rfl
      | capture hcall hvpn hrequest hsame htask => exact h.frame hsame rfl rfl
      | cancel hcall => exact h.frame rfl rfl rfl
      | @connect request task hcall hfinished =>
          have hnext : ProgressInv (s.connectTunnel request).1 :=
            h.connectTunnel
          exact hnext.frame rfl rfl rfl
  | loop i event =>
      obtain ⟨task, task', inner', hi, heffect, rfl⟩ :=
        DaemonState.stepLoop_effect hstep
      exact h.loop hi heffect

/--
The section a loop writes last: its return, or the `mark_failed` before one.
-/
theorem LoopMove.last_write {pc pc' : LoopPc} {f : VpnState → VpnState}
    (h : LoopMove pc pc' f)
    (hlast : pc' = .checkCancelled ∨ (pc' = .returned ∧ pc ≠ .checkCancelled))
    (state : VpnState) : (f state).canConnect = true := by
  cases h with
  | quiet _ _ hpending | advance _ hpending _ =>
      rcases hlast with rfl | ⟨rfl, -⟩ <;> contradiction
  | abandon => simp at hlast
  | decide => simp at hlast
  | fail | giveUp | disconnect => rfl

theorem never_wedged {s : DaemonState} (h : Reachable step Initial s) :
    (∀ vpn, s.inner.vpn = some vpn →
      (∀ (i : TaskId) (task : LoopTask), s.loops[i]? = some task →
        ¬ task.live) →
      (∀ (call : Nat) (task : Option TaskId),
        s.disconnects[call]? ≠ some (.awaiting task)) →
      vpn.canConnect = true) ∧
    ∀ (i : TaskId) (event : LoopEvent) (s' : DaemonState) (task
      task' : LoopTask),
      step s (.loop i event) = some s' → s.loops[i]? = some task →
      s'.loops[i]? = some task' →
      (task'.pc = .checkCancelled ∨
        (task'.pc = .returned ∧ task.pc ≠ .checkCancelled)) →
      ∀ vpn', s'.inner.vpn = some vpn' →
        vpn'.state = .disconnected ∨ vpn'.state.isFailed = true := by
  constructor
  · intro vpn hmachine hloops hcalls
    have hinv : ProgressInv s :=
      h.invariant (fun _ => .initial) fun _ _ _ hI hstep => hI.step hstep
    by_contra hbusy
    rcases hinv vpn hmachine (Bool.eq_false_iff.mpr hbusy) with
      ⟨i, task, hi, hpending⟩ | ⟨call, task, hcall⟩
    · exact hloops i task hi (LoopPc.pending_live hpending)
    · exact hcalls call task hcall
  · intro i event s' task task' hstep hi hi' hlast vpn' hmachine'
    obtain ⟨before, after, inner', hbefore, heffect, rfl⟩ :=
      DaemonState.stepLoop_effect hstep
    rw [hi] at hbefore
    cases hbefore
    have hafter : task' = after := by
      rcases (get_set hi).mp hi' with ⟨-, rfl⟩ | ⟨hne, -⟩
      · rfl
      · exact absurd rfl hne
    subst hafter
    obtain ⟨f, hvpn, hmove⟩ := heffect.move
    simp only [hvpn, Option.map_eq_some_iff] at hmachine'
    obtain ⟨vpn, -, rfl⟩ := hmachine'
    exact (VpnState.canConnect_iff.mp (hmove.last_write hlast vpn.state)).symm

def cancelledConnect : List Action :=
  [.connect .default, .auth .configured false, .beginDisconnect,
    .loop 0 .proceed, .loop 0 .proceed, .loop 0 .proceed, .loop 0 .proceed,
    .endDisconnect 0]

theorem never_wedged_cancelledConnect :
    ∃ s vpn, exec step readyDaemon cancelledConnect = some s ∧
      s.inner.vpn = some vpn ∧ vpn.canConnect = true := by
  refine ⟨_, _, rfl, rfl,
    (never_wedged ⟨readyDaemon, cancelledConnect, ⟨_, _, rfl⟩, rfl⟩).1 _ rfl ?_
      ?_⟩
  · intro i task hi
    rw [List.mem_singleton.mp (List.mem_of_getElem? hi)]
    decide
  · intro call task hcall
    have hmem := List.mem_singleton.mp (List.mem_of_getElem? hcall)
    contradiction

end Rustylink.Daemon
