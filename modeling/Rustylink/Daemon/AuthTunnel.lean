import Rustylink.Daemon.AuthStates
import Rustylink.Daemon.Effects

/-!
# Auth calls beside a running tunnel

The connect section tests the auth state, and every attempt of its loop tests
only that there is a tenant to talk to.  The two agree as long as no auth call
leaves `Authenticated` under a loop that may still make an attempt.
-/

namespace Rustylink.Daemon

open Rustylink.Foundation Rustylink.Core Rustylink.Api Rustylink.Tunnel

def LoopPc.mayAttempt : LoopPc → Bool
  | .teardown .cancelled | .handleDecision .stop | .markDisconnected
  | .returned => false
  | _ => true

theorem loopNext_mayAttempt {inner inner' : DaemonInner} {isCancelled : Bool}
    {task task' : LoopTask} {event : LoopEvent}
    (h : loopNext inner isCancelled task event = some (inner', task'))
    (hpc : task.pc.mayAttempt = false) : task'.pc.mayAttempt = false := by
  cases hpos : task.pc with
  | teardown outcome =>
      cases outcome with
      | cancelled =>
          cases event <;> simp [loopNext, hpos] at h
          obtain ⟨-, rfl⟩ := h
          rfl
      | _ => simp [hpos, LoopPc.mayAttempt] at hpc
  | handleDecision decision =>
      cases decision with
      | stop =>
          cases event <;> simp [loopNext, hpos] at h
          obtain ⟨-, rfl⟩ := h
          rfl
      | _ => simp [hpos, LoopPc.mayAttempt] at hpc
  | markDisconnected =>
      cases event <;> simp [loopNext, hpos] at h
      obtain ⟨-, rfl⟩ := h
      rfl
  | returned => simp [loopNext, hpos] at h
  | _ => simp [hpos, LoopPc.mayAttempt] at hpc

theorem connectTunnel_refused {s : DaemonState} {request : VpnRequest}
    (h : s.inner.auth.state ≠ .authenticated) :
    (s.connectTunnel request).1 = s := by
  rw [DaemonState.connectTunnel_fst, if_neg]
  simp [DaemonState.mayStart, h]

theorem step_auth {s s' : DaemonState} {a : Action} (hstep : step s a = some s')
    (ha : ∀ state tenantClient, a ≠ .auth state tenantClient) :
    s'.inner.auth.state = s.inner.auth.state := by
  cases a with
  | auth state tenantClient => exact absurd rfl (ha state tenantClient)
  | beginUpdate u =>
      cases hstep
      rfl
  | stepUpdate call built =>
      rcases DaemonState.stepUpdate_inner hstep with hsame | ⟨request, hconnect⟩
      · exact hsame.authState
      · rw [hconnect, (connectTunnel_settings s request).auth]
  | connect | beginDisconnect | endDisconnect | loop =>
      exact congrArg AuthView.state (step_ofTunnel hstep rfl).1.auth

/-! ## The system -/

structure TunnelDaemon where
  auth : AuthCoordinator
  tunnel : DaemonState
  deriving DecidableEq, Repr

inductive TunnelAction where
  | auth (op : AuthOp)
  | tunnel (action : Action)

namespace TunnelDaemon

variable (isUrl : String → Bool)

/--
The tunnel code sees each auth section through the state and client it leaves.
-/
def step (s : TunnelDaemon) : TunnelAction → Option TunnelDaemon
  | .auth op => (s.auth.step isUrl op).bind fun auth =>
      (Daemon.step s.tunnel
        (.auth auth.state (auth.buildTenantClient isUrl))).map
        fun tunnel => ⟨auth, tunnel⟩
  | .tunnel (.auth ..) => none
  | .tunnel a => (Daemon.step s.tunnel a).map fun tunnel =>
      { s with tunnel := tunnel }

def Initial (s : TunnelDaemon) : Prop :=
  s.auth.Initial ∧ ∃ pool config,
    s.tunnel = .new ⟨s.auth.state, s.auth.buildTenantClient isUrl, pool⟩ config

/--
An attempt that gets past its client check begins in an authenticated session.
-/
def AttemptsAuthenticated (s : TunnelDaemon) : TunnelAction → Prop
  | .tunnel (.loop i .proceed) => ∀ task, s.tunnel.loops[i]? = some task →
      task.pc = .checkClient → s.tunnel.inner.auth.tenantClient = true →
        s.auth.state = .authenticated
  | _ => True

def NoAttempt (s : TunnelDaemon) : Prop :=
  ∀ task ∈ s.tunnel.loops, task.pc.mayAttempt = false

/--
An auth call enters another state than `Authenticated` only when no loop may
attempt.
-/
def LeavesIdle (s : TunnelDaemon) : TunnelAction → Prop
  | .auth op => ∀ state, op.enters isUrl s.auth = some state →
        state ≠ .authenticated →
      s.NoAttempt
  | .tunnel _ => True

/-! ## The invariant -/

structure Agree (s : TunnelDaemon) : Prop where
  view : s.tunnel.inner.auth.state = s.auth.state
  loops : s.auth.state ≠ .authenticated → s.NoAttempt

variable {isUrl} {s s' : TunnelDaemon}

theorem Agree.initial (h : s.Initial isUrl) : Agree s := by
  obtain ⟨-, pool, config, htunnel⟩ := h
  constructor
  · rw [htunnel]
    rfl
  · intro _ task htask
    rw [htunnel] at htask
    contradiction

theorem Agree.auth {op : AuthOp} (h : Agree s)
    (hok : LeavesIdle isUrl s (.auth op))
    (hstep : s.step isUrl (.auth op) = some s') : Agree s' := by
  simp only [TunnelDaemon.step, Option.bind_eq_some_iff,
    Option.map_eq_some_iff] at hstep
  obtain ⟨auth, hauth, tunnel, htunnel, rfl⟩ := hstep
  obtain ⟨-, rfl⟩ := AuthCoordinator.step_spec hauth
  cases htunnel
  refine ⟨rfl, fun hstate => ?_⟩
  dsimp only at hstate
  rw [AuthOp.perform_state] at hstate
  cases henters : op.enters isUrl s.auth with
  | none =>
      rw [henters] at hstate
      exact h.loops hstate
  | some state =>
      rw [henters] at hstate
      exact hok state henters hstate

theorem Agree.tunnel {a : Action} {tunnel : DaemonState} (h : Agree s)
    (ha : ∀ state tenantClient, a ≠ .auth state tenantClient)
    (hstep : Daemon.step s.tunnel a = some tunnel) :
    Agree { s with tunnel := tunnel } := by
  refine ⟨(step_auth hstep ha).trans h.view, fun hstate => ?_⟩
  have hidle := h.loops hstate
  have hview : s.tunnel.inner.auth.state ≠ .authenticated := h.view ▸ hstate
  have hsame : tunnel.loops = s.tunnel.loops →
      NoAttempt { s with tunnel := tunnel } := by
    intro hloops task htask
    change task ∈ tunnel.loops at htask
    rw [hloops] at htask
    exact hidle task htask
  cases a with
  | auth state tenantClient => exact absurd rfl (ha state tenantClient)
  | connect request =>
      cases hstep
      rw [connectTunnel_refused hview] at hsame ⊢
      exact hsame rfl
  | beginDisconnect | beginUpdate =>
      cases hstep
      exact hsame rfl
  | endDisconnect call =>
      obtain ⟨task, reply, -, -, rfl⟩ := DaemonState.endDisconnect_effect hstep
      exact hsame rfl
  | stepUpdate call built =>
      cases DaemonState.stepUpdate_effect hstep with
      | quiet | capture | cancel => exact hsame rfl
      | connect =>
          rw [connectTunnel_refused hview] at hsame ⊢
          exact hsame rfl
  | loop i event =>
      obtain ⟨task, task', inner', hi, hnext, rfl⟩ :=
        DaemonState.stepLoop_spec hstep
      intro other hother
      rcases List.mem_or_eq_of_mem_set hother with hold | rfl
      · exact hidle other hold
      · exact loopNext_mayAttempt hnext (hidle task (List.mem_of_getElem? hi))

theorem Agree.step {a : TunnelAction} (h : Agree s) (hok : LeavesIdle isUrl s a)
    (hstep : s.step isUrl a = some s') : Agree s' := by
  cases a with
  | auth op => exact h.auth hok hstep
  | tunnel a =>
      cases a
      case auth state tenantClient => contradiction
      all_goals
        simp only [TunnelDaemon.step, Option.map_eq_some_iff] at hstep
        obtain ⟨tunnel, htunnel, rfl⟩ := hstep
        exact h.tunnel (by simp) htunnel

theorem Agree.attempts {a : TunnelAction} (h : Agree s) :
    AttemptsAuthenticated s a := by
  cases a with
  | auth op => trivial
  | tunnel a =>
      cases a
      case loop i event =>
        cases event
        case proceed =>
          intro task hi hpc _
          by_contra hstate
          have hidle := h.loops hstate task (List.mem_of_getElem? hi)
          rw [hpc] at hidle
          contradiction
        all_goals trivial
      all_goals trivial

/-! ## The run -/

/--
As long as auth calls leave `Authenticated` only when no loop may make another
attempt, every attempt of a run is made in an authenticated session.
-/
theorem attempts_authenticated {as : List TunnelAction}
    (hinit : s.Initial isUrl)
    (hok : Along (step isUrl) (LeavesIdle isUrl) s as) :
    Along (step isUrl) AttemptsAuthenticated s as :=
  Along.of_invariant (I := Agree) (fun _ _ _ h hok hstep => h.step hok hstep)
    (fun _ _ h _ => h.attempts) (Agree.initial hinit) hok

def fresh : TunnelDaemon where
  auth := .new "device"
  tunnel := .new ⟨.unconfigured, false, none⟩ .default

theorem fresh_initial : fresh.Initial AuthCoordinator.httpsOnly :=
  ⟨.inl ⟨_, rfl⟩, none, .default, rfl⟩

def firstAttempt : List TunnelAction :=
  [.auth AuthCoordinator.activateExample, .auth AuthCoordinator.loginExample,
    .tunnel (.connect .default), .tunnel (.loop 0 .proceed),
    .tunnel (.loop 0 .proceed)]

theorem attempts_authenticated_firstAttempt :
    Along (step AuthCoordinator.httpsOnly) AttemptsAuthenticated fresh
      firstAttempt := by
  apply attempts_authenticated fresh_initial
  refine .cons_final ?_ (.cons_final ?_ (.of_forall ?_))
  · intro state _ _ task htask
    contradiction
  · intro state _ _ task htask
    have hnone : (final (step AuthCoordinator.httpsOnly) fresh
        [.auth AuthCoordinator.activateExample]).tunnel.loops =
          [] := by decide +kernel
    rw [hnone] at htask
    contradiction
  · intro a ha s
    simp only [List.mem_cons, List.not_mem_nil, or_false] at ha
    rcases ha with rfl | rfl | rfl <;> trivial

def logoutInBackoff : List TunnelAction :=
  firstAttempt ++ [.tunnel (.loop 0 .proceed), .tunnel (.loop 0 .proceed),
    .tunnel (.loop 0 (.attemptError "timed out")), .tunnel (.loop 0 .proceed),
    .tunnel (.loop 0 .proceed), .tunnel (.loop 0 .proceed),
    .auth AuthCoordinator.logoutExample, .tunnel (.loop 0 .proceed),
    .tunnel (.loop 0 .proceed)]

theorem logoutInBackoff_attempts :
    ¬ ∀ (isUrl : String →
      Bool) (s : TunnelDaemon) (a : TunnelAction) (s' : TunnelDaemon),
      Reachable (step isUrl) (Initial isUrl) s → step isUrl s a = some s' →
        AttemptsAuthenticated s a := by
  intro h
  have hattempt := h AuthCoordinator.httpsOnly
    (final (step AuthCoordinator.httpsOnly) fresh logoutInBackoff)
    (.tunnel (.loop 0 .proceed))
    (final (step AuthCoordinator.httpsOnly) fresh
      (logoutInBackoff ++ [.tunnel (.loop 0 .proceed)]))
    ⟨fresh, logoutInBackoff, fresh_initial, exec_final (by decide +kernel)⟩
    (by decide +kernel)
    ((final (step AuthCoordinator.httpsOnly)
      fresh logoutInBackoff).tunnel.loops.head (by decide +kernel))
    (by decide +kernel) (by decide +kernel) (by decide +kernel)
  revert hattempt
  decide +kernel

end TunnelDaemon

end Rustylink.Daemon
