import Rustylink.Daemon.Effects

/-!
# At most one connect loop

`connect_tunnel` decides on the VPN state alone whether it may spawn a loop.
That state is connectable while a loop is still running in two situations:
after the loop's own `mark_failed`, and after a `disconnect_tunnel` that did
not await this loop.  A run has at most one loop in every state exactly when
no connect section falls into either.
-/

namespace Rustylink.Daemon

open Rustylink.Foundation Rustylink.Core

/--
At most one loop, one session, and every live loop is the one the token
cancels.
-/
structure Exclusive (s : DaemonState) : Prop where
  loops : ∀ (i j : TaskId) (t u : LoopTask),
    s.loops[i]? = some t → s.loops[j]? = some u → t.live → u.live → i = j
  sessions : ∀ (i j : TaskId) (t u : LoopTask),
    s.loops[i]? = some t → s.loops[j]? = some u →
    t.holdsSession = true → u.holdsSession = true → i = j
  token : ∀ (i : TaskId) (t : LoopTask), s.loops[i]? = some t → t.live →
    ∃ vpn : VpnMachine, s.inner.vpn = some vpn ∧ vpn.cancelToken = t.cancel

/--
A loop is running although the state says that none is: it stands between its
`mark_failed` and its next section, or a disconnect that did not await it has
already published `Disconnected`.
-/
def RaceWindow (s : DaemonState) : Prop :=
  ∃ (i : TaskId) (task : LoopTask) (vpn : VpnMachine),
    s.loops[i]? = some task ∧ task.live ∧ s.inner.vpn = some vpn ∧
    ((vpn.state.isFailed = true ∧ task.pc.inGap = true) ∨
      vpn.state = .disconnected)

instance (s : DaemonState) : Decidable (RaceWindow s) :=
  decidable_of_iff
    (∃ task ∈ s.loops, task.live ∧ ∃ vpn ∈ s.inner.vpn,
      (vpn.state.isFailed = true ∧ task.pc.inGap = true) ∨
        vpn.state = .disconnected) <| by
    constructor
    · rintro ⟨task, hmem, hlive, vpn, hvpn, hopen⟩
      obtain ⟨i, hi⟩ := List.mem_iff_getElem?.mp hmem
      exact ⟨i, task, vpn, hi, hlive, hvpn, hopen⟩
    · rintro ⟨i, task, vpn, hi, hlive, hvpn, hopen⟩
      exact ⟨task, List.mem_of_getElem? hi, hlive, vpn, hvpn, hopen⟩

def ConnectSection (s : DaemonState) : Action → Prop
  | .connect _ => True
  | .stepUpdate call _ =>
      ∃ request task, s.updates[call]? = some (.awaiting request task)
  | _ => False

instance (s : DaemonState) (a : Action) : Decidable (ConnectSection s a) :=
  match a with
  | .connect _ => .isTrue trivial
  | .stepUpdate call _ =>
      match hcall : s.updates[call]? with
      | some (.awaiting request task) => .isTrue ⟨request, task, hcall⟩
      | some (.persistConfig) | some .checkOutbound | some (.captured ..)
      | some .reply | some (.returned _) | none =>
          .isFalse (by simp [ConnectSection, hcall])
  | .auth .. | .beginDisconnect | .endDisconnect _ | .beginUpdate _
  | .loop .. => .isFalse id

def AvoidsRace (s : DaemonState) (a : Action) : Prop :=
  ConnectSection s a → s.inner.auth.state = .authenticated → ¬ RaceWindow s

instance (s : DaemonState) (a : Action) : Decidable (AvoidsRace s a) :=
  inferInstanceAs (Decidable (_ → _ → _))

/-! ## The invariant -/

structure LoopInv (s : DaemonState) : Prop where
  loops : ∀ (i j : TaskId) (t u : LoopTask),
    s.loops[i]? = some t → s.loops[j]? = some u → t.live → u.live → i = j
  token : ∀ (i : TaskId) (t : LoopTask), s.loops[i]? = some t → t.live →
    ∃ vpn : VpnMachine, s.inner.vpn = some vpn ∧ vpn.cancelToken = t.cancel
  gap : ∀ (i : TaskId) (t : LoopTask) (vpn : VpnMachine),
    s.loops[i]? = some t → t.live → s.inner.vpn = some vpn →
    vpn.state.isFailed = true → t.pc.inGap = true

theorem holdsSession_live {task : LoopTask} (h : task.holdsSession = true) :
    task.live := by
  intro hreturned
  simp [LoopTask.holdsSession, hreturned] at h

theorem LoopInv.exclusive {s : DaemonState} (h : LoopInv s) : Exclusive s where
  loops := h.loops
  sessions := fun i j t u ht hu hst hsu =>
    h.loops i j t u ht hu (holdsSession_live hst) (holdsSession_live hsu)
  token := h.token

theorem LoopInv.initial {s : DaemonState} (h : Initial s) : LoopInv s := by
  obtain ⟨auth, config, rfl⟩ := h
  constructor <;> simp [DaemonState.new]

theorem LoopInv.frame {s s' : DaemonState} {f : VpnState → VpnState}
    (h : LoopInv s) (hloops : s'.loops = s.loops)
    (hvpn : s'.inner.vpn = s.inner.vpn.map (VpnMachine.transition f))
    (hf : ∀ state, (f state).isFailed = true → state.isFailed = true) :
    LoopInv s' where
  loops := by
    rw [hloops]
    exact h.loops
  token := by
    intro i t ht hlive
    rw [hloops] at ht
    obtain ⟨vpn, hmachine, htoken⟩ := h.token i t ht hlive
    exact ⟨vpn.transition f, by simp [hvpn, hmachine], htoken⟩
  gap := by
    intro i t vpn' ht hlive hmachine' hfailed
    rw [hloops] at ht
    rw [hvpn, Option.map_eq_some_iff] at hmachine'
    obtain ⟨vpn, hmachine, rfl⟩ := hmachine'
    exact h.gap i t vpn ht hlive hmachine (hf _ hfailed)

theorem LoopInv.frame_same {s s' : DaemonState} (h : LoopInv s)
    (hloops : s'.loops = s.loops) (hvpn : s'.inner.vpn = s.inner.vpn) :
    LoopInv s' := by
  refine h.frame (f := id) hloops ?_ fun _ h => h
  rw [hvpn]
  cases s.inner.vpn <;> rfl

theorem LoopMove.gap {pc pc' : LoopPc} {f : VpnState → VpnState}
    {state : VpnState} (h : LoopMove pc pc' f) (hlive : pc' ≠ .returned)
    (hfailed : (f state).isFailed = true)
    (hbefore : state.isFailed = true → pc.inGap = true) : pc'.inGap = true := by
  cases h with
  | quiet hgap => exact absurd (hbefore hfailed) (by simp [hgap])
  | abandon | giveUp | disconnect => contradiction
  | decide | fail => rfl
  | advance _ _ hbusy =>
      rw [VpnState.isFailed_eq_false (hbusy state)] at hfailed
      contradiction

theorem LoopInv.loop {s : DaemonState} {inner' : DaemonInner} {i : TaskId}
    {task task' : LoopTask} (h : LoopInv s) (hi : s.loops[i]? = some task)
    (heffect : LoopEffect s.inner inner' task task') :
    LoopInv { s with inner := inner', loops := s.loops.set i task' } := by
  obtain ⟨f, hvpn, hmove⟩ := heffect.move
  -- a task that is live afterwards was live before
  have hbefore : ∀ (j : TaskId) (t : LoopTask),
      (s.loops.set i task')[j]? = some t → t.live →
      ∃ t₀ : LoopTask, s.loops[j]? = some t₀ ∧ t₀.live ∧
          t₀.cancel = t.cancel := by
    intro j t ht hlive
    rcases (get_set hi).mp ht with ⟨rfl, rfl⟩ | ⟨-, hold⟩
    · exact ⟨task, hi, hmove.live, heffect.cancel.symm⟩
    · exact ⟨t, hold, hlive, rfl⟩
  constructor
  · intro j k t u ht hu hlt hlu
    obtain ⟨t₀, ht₀, hlt₀, -⟩ := hbefore j t ht hlt
    obtain ⟨u₀, hu₀, hlu₀, -⟩ := hbefore k u hu hlu
    exact h.loops j k t₀ u₀ ht₀ hu₀ hlt₀ hlu₀
  · intro j t ht hlive
    obtain ⟨t₀, ht₀, hlive₀, hcancel⟩ := hbefore j t ht hlive
    obtain ⟨vpn, hmachine, htoken⟩ := h.token j t₀ ht₀ hlive₀
    exact ⟨vpn.transition f, by simp [hvpn, hmachine], htoken.trans hcancel⟩
  · intro j t vpn' ht hlive hmachine' hfailed
    simp only [hvpn, Option.map_eq_some_iff] at hmachine'
    obtain ⟨vpn, hmachine, rfl⟩ := hmachine'
    -- the moving loop is the only live one
    have hji : j = i := by
      obtain ⟨t₀, ht₀, hlive₀, -⟩ := hbefore j t ht hlive
      exact h.loops j i t₀ task ht₀ hi hlive₀ hmove.live
    subst hji
    have ht' : t = task' := by
      rcases (get_set hi).mp ht with ⟨-, rfl⟩ | ⟨hne, -⟩
      · rfl
      · exact absurd rfl hne
    subst ht'
    simp only [VpnMachine.transition_state] at hfailed
    exact hmove.gap hlive hfailed (h.gap j task vpn hi hmove.live hmachine)

/-! ## The steps -/

theorem LoopInv.window {s : DaemonState} {i : TaskId} {task : LoopTask}
    (h : LoopInv s) (hi : s.loops[i]? = some task) (hlive : task.live)
    (hstart : s.mayStart = true) :
    s.inner.auth.state = .authenticated ∧ RaceWindow s := by
  obtain ⟨vpn, hvpn, -⟩ := h.token i task hi hlive
  simp only [DaemonState.mayStart, hvpn, Bool.and_eq_true, decide_eq_true_eq,
    VpnMachine.canConnect, VpnState.canConnect_iff] at hstart
  obtain ⟨hauth, hfailed | hdisconnected⟩ := hstart
  · exact ⟨hauth, i, task, vpn, hi, hlive, hvpn,
      .inl ⟨hfailed, h.gap i task vpn hi hlive hvpn hfailed⟩⟩
  · exact ⟨hauth, i, task, vpn, hi, hlive, hvpn, .inr hdisconnected⟩

theorem LoopInv.spawn {s : DaemonState} {request : VpnRequest}
    (hidle : ∀ (i : TaskId) (t : LoopTask), s.loops[i]? = some t → ¬ t.live) :
    LoopInv (s.spawnLoop request) := by
  have hlast : ∀ (i : TaskId) (t : LoopTask),
      (s.spawnLoop request).loops[i]? = some t → t.live →
        i = s.loops.length ∧ t.cancel = s.tokens.length := by
    intro i t ht hlive
    rcases get_spawn.mp ht with hold | ⟨rfl, rfl⟩
    · exact absurd hlive (hidle i t hold)
    · exact ⟨rfl, rfl⟩
  constructor
  · intro i j t u ht hu hlt hlu
    exact (hlast i t ht hlt).1.trans (hlast j u hu hlu).1.symm
  · intro i t ht hlive
    exact ⟨_, rfl, (hlast i t ht hlive).2.symm⟩
  · rintro i t vpn ht hlive hmachine hfailed
    cases hmachine
    contradiction

theorem LoopInv.connectTunnel {s : DaemonState} {request : VpnRequest}
    (h : LoopInv s)
    (hok : s.inner.auth.state = .authenticated → ¬ RaceWindow s) :
    LoopInv (s.connectTunnel request).1 := by
  rw [DaemonState.connectTunnel_fst]
  split
  · rename_i hstart
    apply LoopInv.spawn
    intro i t ht hlive
    rw [DaemonState.withMachine_loops] at ht
    obtain ⟨hauth, hwindow⟩ := h.window ht hlive hstart
    exact hok hauth hwindow
  · exact h

theorem LoopInv.step {s s' : DaemonState} {a : Action} (h : LoopInv s)
    (hok : AvoidsRace s a) (hstep : step s a = some s') : LoopInv s' := by
  cases a with
  | auth state tenantClient =>
      cases hstep
      exact h.frame_same rfl rfl
  | connect request =>
      cases hstep
      exact h.connectTunnel (hok trivial)
  | beginDisconnect =>
      cases hstep
      exact h.frame (f := VpnState.intoDisconnecting) rfl
        (by simp [DaemonState.beginDisconnect]) fun _ hfailed => nomatch hfailed
  | endDisconnect call =>
      obtain ⟨task, tunnel, -, -, rfl⟩ := DaemonState.endDisconnect_effect hstep
      exact h.frame (f := fun _ => .disconnected) rfl
        (by simp; rfl) fun _ hfailed => nomatch hfailed
  | beginUpdate u =>
      cases hstep
      exact h.frame_same rfl rfl
  | stepUpdate call built =>
      cases DaemonState.stepUpdate_effect hstep with
      | quiet hcall hold hnew hvpn htask => exact h.frame_same rfl hvpn
      | capture hcall hvpn hrequest hsame htask => exact h.frame_same rfl hsame
      | cancel hcall => exact h.frame_same rfl rfl
      | @connect request task hcall hfinished =>
          have hnext : LoopInv (s.connectTunnel request).1 :=
            h.connectTunnel (hok ⟨request, task, hcall⟩)
          exact hnext.frame_same rfl rfl
  | loop i event =>
      obtain ⟨task, task', inner', hi, heffect, rfl⟩ :=
        DaemonState.stepLoop_effect hstep
      exact h.loop hi heffect

/-! ## The window is exactly what breaks it -/

theorem spawn_not_exclusive {s : DaemonState} {request : VpnRequest}
    {i : TaskId} {task : LoopTask} (hi : s.loops[i]? = some task)
    (hlive : task.live) : ¬ Exclusive (s.withMachine.spawnLoop request) := by
  intro h
  have hlt : i < s.loops.length := (List.getElem?_eq_some_iff.mp hi).1
  have hold : (s.withMachine.spawnLoop request).loops[i]? = some task :=
    get_spawn.mpr (.inl (by simpa using hi))
  obtain ⟨new, hnew, hfresh⟩ := s.withMachine.spawnLoop_new request
  have hsame := h.loops _ _ _ _ hold hnew hlive hfresh
  rw [DaemonState.withMachine_loops] at hsame
  exact absurd hsame (Nat.ne_of_lt hlt)

theorem RaceWindow.mayStart {s : DaemonState}
    (hauth : s.inner.auth.state = .authenticated) (h : RaceWindow s) :
    s.mayStart = true := by
  obtain ⟨i, task, vpn, -, -, hvpn, hstate⟩ := h
  have hconnect : vpn.state.canConnect = true :=
    VpnState.canConnect_iff.mpr (hstate.imp And.left id)
  simp [DaemonState.mayStart, hauth, hvpn, VpnMachine.canConnect, hconnect]

theorem RaceWindow.not_exclusive {s : DaemonState} {request : VpnRequest}
    (hauth : s.inner.auth.state = .authenticated) (h : RaceWindow s) :
    ¬ Exclusive (s.connectTunnel request).1 := by
  rw [DaemonState.connectTunnel_fst, if_pos (h.mayStart hauth)]
  obtain ⟨i, task, vpn, hi, hlive, -⟩ := h
  exact spawn_not_exclusive hi hlive

theorem step_in_window_not_exclusive {s s' : DaemonState} {a : Action}
    (hbad : ¬ AvoidsRace s a) (hstep : step s a = some s') :
    ¬ Exclusive s' := by
  simp only [AvoidsRace, not_forall, not_not] at hbad
  obtain ⟨hsection, hauth, hwindow⟩ := hbad
  cases a with
  | connect request =>
      cases hstep
      exact hwindow.not_exclusive hauth
  | stepUpdate call built =>
      obtain ⟨request, task, hcall⟩ := hsection
      simp only [step, DaemonState.stepUpdate, hcall] at hstep
      split at hstep
      · cases hstep
        intro h
        exact hwindow.not_exclusive hauth ⟨h.loops, h.sessions, h.token⟩
      · contradiction
  | auth | beginDisconnect | endDisconnect | beginUpdate | loop =>
      exact hsection.elim

/--
A run has at most one live loop (and one session, and no loop out of reach of
its token) in every state exactly when no connect section falls into the
window.
-/
theorem connect_exclusive_iff {s t : DaemonState} {as : List Action}
    (hinit : Initial s) (hrun : exec step s as = some t) :
    Always step Exclusive s as ↔ Along step AvoidsRace s as :=
  always_iff_along (I := LoopInv) (fun _ _ _ h hok hstep => h.step hok hstep)
    (fun _ h => h.exclusive)
    (fun _ _ _ _ hbad hstep => step_in_window_not_exclusive hbad hstep)
    (LoopInv.initial hinit) hrun

def reconnected : List Action :=
  [.connect .default, .loop 0 .proceed, .loop 0 .proceed, .loop 0 .proceed,
    .loop 0 .proceed, .loop 0 (.configFetched
      ⟨some 7, some "lab", none, "192.0.2.7:51820", "10.8.0.2"⟩),
    .loop 0 .proceed, .loop 0 .proceed, .loop 0 .proceed, .connect .default,
    .loop 0 .proceed, .beginDisconnect, .loop 0 .proceed, .connect .default,
    .loop 0 .proceed, .loop 0 (.outcome .cancelled), .loop 0 .proceed,
    .loop 0 .proceed, .endDisconnect 0, .connect .default, .loop 1 .proceed]

theorem connect_exclusive_iff_reconnected :
    Always step Exclusive readyDaemon reconnected :=
  (connect_exclusive_iff ⟨_, _, rfl⟩ (exec_final (by decide +kernel))).mpr
    (by decide +kernel)

/--
A loop whose first attempt fails, and a second `ConnectTunnel` between its
`mark_failed` and its next section.
-/
def secondConnect : List Action :=
  [.connect .default, .loop 0 .proceed, .loop 0 .proceed, .loop 0 .proceed,
    .loop 0 .proceed, .loop 0 (.attemptError "connection refused"),
    .loop 0 .proceed, .connect .default]

theorem secondConnect_two_loops :
    ¬ ∀ s, Reachable step Initial s → Exclusive s := by
  intro h
  have hexclusive : Exclusive (final step readyDaemon secondConnect) :=
    h _ ⟨readyDaemon, secondConnect, ⟨_, _, rfl⟩, exec_final (by decide)⟩
  have hsame := hexclusive.loops 0 1 _ _ rfl rfl (by decide) (by decide)
  contradiction

end Rustylink.Daemon
