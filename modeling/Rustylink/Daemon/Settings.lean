import Rustylink.Daemon.Effects

/-!
# Settings that have nothing to do with the tunnel

A configuration update ends in `reconnect_if_outbound_changed`, which compares
the setting with `active_outbound`.  That field is the interface of a session:
it is written late in an attempt and cleared on every failure, so it says
little about the interface that the running loop was started with.  A run
records the latter; no step reads it.
-/

namespace Rustylink.Daemon

open Rustylink.Foundation Rustylink.Core

structure SettingsTrace where
  daemon : DaemonState
  spawned : Option String
  related : List Nat
  deriving DecidableEq, Repr

namespace SettingsTrace

/--
The configured interface is the one the newest loop was spawned with, or no
loop is live.
-/
def Unrelated (s : SettingsTrace) : Prop :=
  s.daemon.inner.config.outboundInterface = s.spawned ∨
    ∀ task ∈ s.daemon.loops, ¬ task.live

instance (s : SettingsTrace) : Decidable s.Unrelated :=
  inferInstanceAs (Decidable (_ ∨ _))

def nextSpawned (s : SettingsTrace) (daemon : DaemonState) : Option String :=
  if s.daemon.loops.length < daemon.loops.length then
    s.daemon.inner.config.outboundInterface
  else s.spawned

def nextRelated (s : SettingsTrace) : Action → List Nat
  | .stepUpdate call _ =>
      if s.daemon.updates[call]? = some .checkOutbound ∧
        ¬ s.Unrelated then call :: s.related
      else s.related
  | _ => s.related

def step (s : SettingsTrace) (a : Action) : Option SettingsTrace :=
  (Daemon.step s.daemon a).map fun daemon =>
    ⟨daemon, s.nextSpawned daemon, s.nextRelated a⟩

def Initial (s : SettingsTrace) : Prop :=
  Daemon.Initial s.daemon ∧ s.related = []

structure SameTunnel (s s' : DaemonState) : Prop where
  tokens : s'.tokens = s.tokens
  loops : s'.loops = s.loops
  vpn : s'.inner.vpn = s.inner.vpn

/--
A section of an update leaves the tunnel alone, unless the update is a related
one.
-/
def LeavesTunnel (s : SettingsTrace) (a : Action) : Prop :=
  ∀ s', s.step a = some s' →
    match a with
    | .beginUpdate _ => SameTunnel s.daemon s'.daemon
    | .stepUpdate call _ => call ∉ s'.related → SameTunnel s.daemon s'.daemon
    | _ => True

/--
An update that is not related meets its check while `active_outbound` is the
configured interface, or while the machine carries no request.
-/
def ChecksSession (s : SettingsTrace) : Action → Prop
  | .stepUpdate call _ =>
      s.daemon.updates[call]? = some .checkOutbound → s.Unrelated →
        s.daemon.inner.config.outboundInterface =
          s.daemon.inner.activeOutbound ∨
          s.daemon.inner.vpn.bind (·.state.currentRequest) = none
  | _ => True

instance (s : SettingsTrace) (a : Action) : Decidable (s.ChecksSession a) :=
  match a with
  | .stepUpdate .. => inferInstanceAs (Decidable (_ → _ → _ ∨ _))
  | .auth .. | .connect _ | .beginDisconnect | .endDisconnect _
  | .beginUpdate _ | .loop .. => .isTrue trivial

/-! ## The invariant -/

def OnlyRelated (s : SettingsTrace) : Prop :=
  ∀ (call : Nat) (pc : UpdatePc), s.daemon.updates[call]? = some pc →
    pc.reconnecting = true → call ∈ s.related

variable {s s' : SettingsTrace}

theorem OnlyRelated.initial (h : s.Initial) : OnlyRelated s := by
  obtain ⟨⟨auth, config, hdaemon⟩, -⟩ := h
  intro call pc hcall
  simp [hdaemon, DaemonState.new] at hcall

theorem OnlyRelated.frame (h : OnlyRelated s) {daemon : DaemonState}
    {spawned : Option String} (hupdates : daemon.updates = s.daemon.updates) :
    OnlyRelated ⟨daemon, spawned, s.related⟩ := by
  intro call pc hcall
  rw [hupdates] at hcall
  exact h call pc hcall

theorem OnlyRelated.setUpdate (h : OnlyRelated s) {daemon : DaemonState}
    {call : Nat} {old new : UpdatePc} {spawned : Option String}
    {related : List Nat}
    (hcall : s.daemon.updates[call]? = some old)
    (hupdates : daemon.updates = s.daemon.updates.set call new)
    (hkept : ∀ other ∈ s.related, other ∈ related)
    (hnew : new.reconnecting = true → call ∈ related) :
    OnlyRelated ⟨daemon, spawned, related⟩ := by
  intro other pc hother hreconnecting
  rw [hupdates] at hother
  rcases (get_set hcall).mp hother with ⟨rfl, rfl⟩ | ⟨-, hold⟩
  · exact hnew hreconnecting
  · exact hkept other (h other pc hold hreconnecting)

theorem nextRelated_kept (a : Action) :
    ∀ other ∈ s.related, other ∈ s.nextRelated a := by
  intro other hother
  cases a <;> try exact hother
  unfold nextRelated
  dsimp only
  split
  · exact List.mem_cons_of_mem _ hother
  · exact hother

theorem checkOutbound_same {s : DaemonState} {call : Nat} (built : Bool)
    (h : s.inner.config.outboundInterface = s.inner.activeOutbound ∨
      s.inner.vpn.bind (·.state.currentRequest) = none) :
    SameTunnel s (s.checkOutbound call built) ∧
      (s.checkOutbound call built).updates = s.updates.set call .reply := by
  have hpool : SameTunnel s (s.rebuildPool built) ∧
      (s.rebuildPool built).updates = s.updates := by
    cases built <;> exact ⟨⟨rfl, rfl, rfl⟩, rfl⟩
  have hreply : SameTunnel s ((s.rebuildPool built).setUpdate call .reply) ∧
      ((s.rebuildPool built).setUpdate call .reply).updates =
          s.updates.set call .reply :=
    ⟨⟨hpool.1.tokens, hpool.1.loops, hpool.1.vpn⟩,
      congrArg (List.set · call _) hpool.2⟩
  unfold DaemonState.checkOutbound
  split
  · exact ⟨⟨rfl, rfl, rfl⟩, rfl⟩
  · rename_i hchanged
    have hnone := h.resolve_left hchanged
    dsimp only
    split
    · exact hreply
    · rename_i vpn hvpn
      rw [hpool.1.vpn] at hvpn
      rw [hvpn, Option.bind_some] at hnone
      rw [hnone]
      exact hreply

theorem stepUpdate_check {s : DaemonState} {call : Nat}
    (hcall : s.updates[call]? = some .checkOutbound) (built : Bool) :
    s.stepUpdate call built = some (s.checkOutbound call built) := by
  simp [DaemonState.stepUpdate, hcall]

theorem OnlyRelated.stepUpdate {daemon : DaemonState} {call : Nat}
    {built : Bool} (h : OnlyRelated s)
    (hok : s.ChecksSession (.stepUpdate call built))
    (hstep : s.daemon.stepUpdate call built = some daemon) :
    OnlyRelated ⟨daemon, s.nextSpawned daemon,
      s.nextRelated (.stepUpdate call built)⟩ ∧
      (call ∉ s.nextRelated (.stepUpdate call built) →
        SameTunnel s.daemon daemon) := by
  have hkept := nextRelated_kept (s := s) (.stepUpdate call built)
  cases DaemonState.stepUpdate_effect hstep with
  | quiet hcall hold hnew hvpn htask =>
      refine ⟨h.setUpdate hcall rfl hkept fun hreconnecting => ?_, fun _ =>
        ⟨rfl, rfl, hvpn⟩⟩
      rw [hnew] at hreconnecting
      contradiction
  | @capture vpn request inner hcall hvpn hrequest hsame htask =>
      by_cases hunrelated : s.Unrelated
      · -- the check would have ended the update
        have hchecked :=
          Option.some.inj (hstep.symm.trans (stepUpdate_check hcall built))
        have hreply : (s.daemon.checkOutbound call built).updates[call]? =
            some .reply := by
          rw [(checkOutbound_same built (hok hcall hunrelated)).2]
          exact get_set_self hcall
        rw [← hchecked, get_set_self hcall] at hreply
        cases hreply
      · have hrelated : call ∈ s.nextRelated (.stepUpdate call built) := by
          simp [nextRelated, hcall, hunrelated]
        exact ⟨h.setUpdate hcall rfl hkept fun _ => hrelated, fun hno =>
          absurd hrelated hno⟩
  | @cancel request token task hcall =>
      have hrelated := hkept call (h call _ hcall rfl)
      exact ⟨h.setUpdate hcall rfl hkept fun _ => hrelated, fun hno =>
        absurd hrelated hno⟩
  | @connect request task hcall hfinished =>
      have hrelated := hkept call (h call _ hcall rfl)
      have hupdates := congrArg (List.set · call .reply)
        (s.daemon.connectTunnel_updates request)
      exact ⟨h.setUpdate hcall hupdates hkept
        fun hreconnecting => by contradiction, fun hno => absurd hrelated hno⟩

theorem OnlyRelated.step {a : Action} (h : OnlyRelated s)
    (hok : s.ChecksSession a) (hstep : s.step a = some s') :
    OnlyRelated s' := by
  obtain ⟨daemon, hdaemon, rfl⟩ := Option.map_eq_some_iff.mp hstep
  cases a with
  | auth state tenantClient =>
      cases hdaemon
      exact h.frame rfl
  | connect request =>
      cases hdaemon
      exact h.frame (s.daemon.connectTunnel_updates request)
  | beginDisconnect =>
      cases hdaemon
      exact h.frame rfl
  | endDisconnect call =>
      obtain ⟨task, tunnel, -, -, rfl⟩ :=
        DaemonState.endDisconnect_effect hdaemon
      exact h.frame rfl
  | beginUpdate u =>
      cases hdaemon
      intro call pc hcall hreconnecting
      rcases get_spawn.mp hcall with hold | ⟨-, rfl⟩
      · exact h call pc hold hreconnecting
      · contradiction
  | stepUpdate call built => exact (h.stepUpdate hok hdaemon).1
  | loop i event =>
      obtain ⟨task, task', inner', -, -, rfl⟩ :=
        DaemonState.stepLoop_spec hdaemon
      exact h.frame rfl

theorem OnlyRelated.leaves {a : Action} (h : OnlyRelated s)
    (hok : s.ChecksSession a) :
    s.LeavesTunnel a := by
  intro s' hstep
  obtain ⟨daemon, hdaemon, rfl⟩ := Option.map_eq_some_iff.mp hstep
  cases a with
  | beginUpdate u =>
      cases hdaemon
      exact ⟨rfl, rfl, rfl⟩
  | stepUpdate call built => exact (h.stepUpdate hok hdaemon).2
  | _ => trivial

/-! ## The run -/

/--
Updates that are not related to the running tunnel cancel no loop, start none
and leave the machine alone, in every run where each of them meets its check
while `active_outbound` is the configured interface or nothing is requested.
-/
theorem unrelated_leaves_tunnel {as : List Action} (hinit : s.Initial)
    (hok : Along step ChecksSession s as) : Along step LeavesTunnel s as :=
  .of_invariant (I := OnlyRelated) (fun _ _ _ h hok hstep => h.step hok hstep)
    (fun _ _ h hok => h.leaves hok) (.initial hinit) hok

def quietDaemon : SettingsTrace := ⟨readyDaemon, none, []⟩

def movePortWhileConnecting : List Action :=
  [.connect .default, .loop 0 .proceed, .loop 0 .proceed,
    .beginUpdate { Configuration.empty with dnsListenPort := some 5353 },
    .loop 0 .proceed, .stepUpdate 0 true, .loop 0 .proceed, .stepUpdate 0 true,
    .loop 0 (.configFetched
      ⟨some 7, some "lab", none, "192.0.2.7:51820", "10.8.0.2"⟩),
    .stepUpdate 0 true, .loop 0 .proceed]

theorem unrelated_leaves_tunnel_movePort :
    Along step LeavesTunnel quietDaemon movePortWhileConnecting :=
  unrelated_leaves_tunnel ⟨⟨_, _, rfl⟩, rfl⟩ (by decide +kernel)

def updateWhileConnecting : List Action :=
  [.beginUpdate (selectOutbound "eth0"), .stepUpdate 0 true, .stepUpdate 0 true,
    .stepUpdate 0 true, .connect .default, .beginUpdate .empty,
    .stepUpdate 1 true, .stepUpdate 1 true]

theorem updateWhileConnecting_cancels :
    ¬ ∀ (s t : SettingsTrace) (as : List Action), s.Initial →
      exec step s as = some t →
      Along step LeavesTunnel s as := by
  intro h
  have halong := h quietDaemon _ (updateWhileConnecting ++ [.stepUpdate 1 true])
    ⟨⟨_, _, rfl⟩, rfl⟩ (exec_final (by decide +kernel))
  have hleaves := (halong.of_append (exec_final (by decide +kernel))).1 _ rfl
  have htokens := (hleaves (by decide +kernel)).tokens
  revert htokens
  decide +kernel

end SettingsTrace

end Rustylink.Daemon
