import Rustylink.Daemon.Effects
import Rustylink.Tunnel.ReconnectLaw

/-!
# Attempts without a healthy session

How many connect attempts a loop makes in a row before one of them has a
healthy session, whatever else the daemon does meanwhile.
-/

namespace Rustylink.Daemon

open Rustylink.Foundation Rustylink.Core Rustylink.Tunnel

structure StreakTrace where
  daemon : DaemonState
  streak : Nat
  deriving DecidableEq, Repr

def SupervisorOutcome.wasHealthy : SupervisorOutcome → Bool
  | .trigger _ wasHealthy | .serverKickOut wasHealthy => wasHealthy
  | .cancelled => false

def LoopPc.streak (streak : Nat) : LoopPc → Nat
  | .setConfiguring => streak + 1
  | .teardown outcome => if outcome.wasHealthy then 0 else streak
  | _ => streak

def maxStreak : Nat := ReconnectPolicy.androidCompatibleDefault.maxAttempts + 1

namespace StreakTrace

def count (i : TaskId) (s : StreakTrace) : Action → Nat
  | .loop j _ => if j = i then (s.daemon.loops[i]?).elim s.streak
        (·.pc.streak s.streak)
      else s.streak
  | _ => s.streak

def step (i : TaskId) (s : StreakTrace) (a : Action) : Option StreakTrace :=
  (Daemon.step s.daemon a).map fun daemon => ⟨daemon, s.count i a⟩

def Initial (s : StreakTrace) : Prop := Daemon.Initial s.daemon ∧ s.streak = 0

/--
The loop has made no more attempts than that, and the last of them ends it in
`Failed`.
-/
structure Bounded (i : TaskId) (s : StreakTrace) : Prop where
  bound : s.streak ≤ maxStreak
  last : ∀ task decision, s.daemon.loops[i]? = some task →
    task.pc = .handleDecision decision →
    s.streak = maxStreak → decision = .stop
  fails : ∀ task event s', s.daemon.loops[i]? = some task →
    task.pc = .handleDecision .stop →
    s.step i (.loop i event) = some s' →
      (∃ task', s'.daemon.loops[i]? = some task' ∧ task'.pc = .returned) ∧
        ∀ vpn, s'.daemon.inner.vpn = some vpn → vpn.state.isFailed = true

end StreakTrace

/-! ## The invariant -/

def LoopPc.Streak (streak attempts : Nat) : LoopPc → Prop
  | .setConfiguring | .backoff => streak ≤ attempts ∧ attempts < maxStreak
  | .handleDecision decision =>
      streak ≤ attempts ∧ attempts ≤ maxStreak ∧
        (attempts = maxStreak → decision = .stop) ∧
        (decision ≠ .stop → attempts < maxStreak)
  | .markDisconnected | .returned => streak ≤ maxStreak
  | _ => streak ≤ attempts + 1 ∧ attempts < maxStreak

structure LoopTask.Streaks (streak : Nat) (task : LoopTask) : Prop where
  policy : task.controller.policy = .androidCompatibleDefault
  position : task.pc.Streak streak task.controller.attempts

theorem LoopTask.Streaks.goto {streak streak' : Nat}
    {task : LoopTask} {pc : LoopPc} (h : task.Streaks streak)
    (hposition : pc.Streak streak' task.controller.attempts) :
    (task.goto pc).Streaks streak' :=
  ⟨h.policy, hposition⟩

theorem record_default {controller : ReconnectController}
    (event : ReconnectEvent)
    (hpolicy : controller.policy = .androidCompatibleDefault)
    (hroom : controller.attempts < maxStreak) :
    (controller.record event).1 =
    { controller with attempts := controller.attempts + 1 } ∧
      ((controller.record event).2 = .stop ↔
          controller.attempts + 1 = maxStreak) := by
  have hmax : controller.policy.maxAttempts = 8 := by rw [hpolicy]; rfl
  have hnine : maxStreak = 9 := rfl
  have hbound : controller.policy.maxAttempts < u32Max := by
    rw [hpolicy]; decide
  obtain ⟨hcounted, hstop⟩ := record_of_room event hbound (by omega)
  refine ⟨hcounted, hstop.trans ?_⟩
  omega

theorem LoopTask.Streaks.record {streak : Nat} {task : LoopTask}
    (event : ReconnectEvent)
    (hpolicy : task.controller.policy = .androidCompatibleDefault)
    (hstreak : streak ≤ task.controller.attempts + 1)
    (hroom : task.controller.attempts < maxStreak) :
    (task.record event).Streaks streak := by
  obtain ⟨hcounted, hstop⟩ := record_default event hpolicy hroom
  have hcontroller : (task.record event).controller =
      { task.controller with attempts := task.controller.attempts + 1 } :=
        hcounted
  refine ⟨by rw [hcontroller]; exact hpolicy, ?_⟩
  rw [record_pc, hcontroller]
  refine ⟨hstreak, hroom, hstop.mpr, fun hgoing => ?_⟩
  have hne : task.controller.attempts + 1 ≠ maxStreak :=
    fun h => hgoing (hstop.mpr h)
  dsimp only
  omega

theorem LoopTask.Streaks.afterOutcome {streak : Nat} {task : LoopTask}
    (outcome : SupervisorOutcome)
    (hpolicy : task.controller.policy = .androidCompatibleDefault)
    (hstreak : streak ≤ task.controller.attempts + 1)
    (hroom : task.controller.attempts < maxStreak) :
    (task.afterOutcome outcome).Streaks
    (if outcome.wasHealthy then 0 else streak) := by
  cases outcome with
  | cancelled => exact ⟨hpolicy, Nat.le_trans hstreak hroom⟩
  | serverKickOut wasHealthy | trigger event wasHealthy =>
      cases wasHealthy with
      | true => exact .record _ hpolicy (Nat.zero_le 1) (Nat.succ_pos 8)
      | false => exact .record _ hpolicy hstreak hroom

theorem loopNext_streaks {inner inner' : DaemonInner} {isCancelled : Bool}
    {task task' : LoopTask} {event : LoopEvent} {streak : Nat}
    (hstreaks : task.Streaks streak)
    (h : loopNext inner isCancelled task event = some (inner', task')) :
    task'.Streaks (task.pc.streak streak) := by
  have hposition := hstreaks.position
  cases hpc : task.pc <;> cases event <;>
    simp only [loopNext, hpc, reduceCtorEq, Option.some.injEq,
      Prod.mk.injEq] at h hposition ⊢
  case setConfiguring.proceed =>
    obtain ⟨-, rfl⟩ := h
    exact hstreaks.goto ⟨Nat.succ_le_succ hposition.1, hposition.2⟩
  case checkClient.proceed | supervise.outcome =>
    split at h <;> cases h <;> exact hstreaks.goto hposition
  case teardown.proceed outcome =>
    obtain ⟨-, rfl⟩ := h
    exact .afterOutcome outcome hstreaks.policy hposition.1 hposition.2
  case checkCancelled.proceed =>
    split at h <;> cases h
    · exact hstreaks.goto (Nat.le_trans hposition.1 hposition.2)
    · exact .record _ hstreaks.policy hposition.1 hposition.2
  case handleDecision.proceed decision =>
    cases decision with
    | stop =>
        obtain ⟨-, rfl⟩ := h
        exact hstreaks.goto (Nat.le_trans hposition.1 hposition.2.1)
    | retry after attempt | switchNode after attempt =>
        obtain ⟨-, rfl⟩ := h
        exact hstreaks.goto ⟨hposition.1, hposition.2.2.2 (by simp)⟩
  case backoff.proceed =>
    obtain ⟨-, rfl⟩ := h
    exact hstreaks.goto hposition
  case backoff.cancelled =>
    split at h <;> cases h
    exact hstreaks.goto (Nat.le_trans hposition.1 (Nat.le_of_lt hposition.2))
  case markDisconnected.proceed =>
    obtain ⟨-, rfl⟩ := h
    exact hstreaks.goto hposition
  all_goals
    obtain ⟨-, rfl⟩ := h
    exact hstreaks.goto hposition

theorem LoopPc.Streak.le {streak attempts : Nat} {pc : LoopPc}
    (h : pc.Streak streak attempts) :
    streak ≤ maxStreak := by
  cases pc <;> simp only [LoopPc.Streak] at h <;> omega

namespace StreakTrace

variable {i : TaskId} {s s' t : StreakTrace} {a : Action}

structure StreakInv (i : TaskId) (s : StreakTrace) : Prop where
  loop : ∀ task, s.daemon.loops[i]? = some task → task.Streaks s.streak
  unspawned : s.daemon.loops[i]? = none → s.streak = 0

theorem StreakInv.initial (h : Initial s) : StreakInv i s := by
  obtain ⟨⟨auth, config, hdaemon⟩, hstreak⟩ := h
  refine ⟨fun task htask => ?_, fun _ => hstreak⟩
  rw [hdaemon] at htask
  cases htask

theorem StreakInv.frame (h : StreakInv i s) (hstreak : s'.streak = s.streak)
    (hloops : s'.daemon.loops = s.daemon.loops ∨
      ∃ task, s'.daemon.loops = s.daemon.loops ++ [task] ∧
        task.Fresh) : StreakInv i s' := by
  rcases hloops with hsame | ⟨fresh, hspawned, hfresh⟩
  · constructor
    · rw [hsame, hstreak]
      exact h.loop
    · rw [hsame, hstreak]
      exact h.unspawned
  · constructor
    · intro task htask
      rw [hspawned] at htask
      rw [hstreak]
      rcases get_spawn.mp htask with hold | ⟨rfl, rfl⟩
      · exact h.loop task hold
      · rw [h.unspawned (List.getElem?_eq_none (Nat.le_refl _))]
        refine ⟨by rw [hfresh.controller]; rfl, ?_⟩
        rw [hfresh.pc, hfresh.controller]
        exact ⟨Nat.le_refl 0, Nat.succ_pos 8⟩
    · intro hnone
      rw [hspawned, List.getElem?_append] at hnone
      rw [hstreak]
      split at hnone
      · exact h.unspawned hnone
      · exact h.unspawned (List.getElem?_eq_none (by omega))

theorem StreakInv.step (h : StreakInv i s) (hstep : s.step i a = some s') :
    StreakInv i s' := by
  obtain ⟨daemon, hdaemon, rfl⟩ := Option.map_eq_some_iff.mp hstep
  by_cases hloop : ∃ j event, a = .loop j event
  · obtain ⟨j, event, rfl⟩ := hloop
    obtain ⟨task, task', inner', hj, hnext, rfl⟩ :=
      DaemonState.stepLoop_spec hdaemon
    by_cases hji : j = i
    · subst hji
      have hcount : s.count j (.loop j event) = task.pc.streak s.streak := by
        simp [count, hj]
      constructor
      · intro other hother
        rw [get_set_self hj] at hother
        cases hother
        rw [hcount]
        exact loopNext_streaks (h.loop task hj) hnext
      · intro hnone
        rw [get_set_self hj] at hnone
        cases hnone
    · have hcount : s.count i (.loop j event) = s.streak := by simp [count, hji]
      have hsame : (s.daemon.loops.set j task')[i]? = s.daemon.loops[i]? :=
        List.getElem?_set_ne hji
      refine ⟨fun other hother => ?_, fun hnone => ?_⟩
      · rw [hcount]
        exact h.loop other (hsame ▸ hother)
      · rw [hcount]
        exact h.unspawned (hsame ▸ hnone)
  · have hother : ∀ j event, a ≠ .loop j event :=
      fun j event heq => hloop ⟨j, event, heq⟩
    have hcount : s.count i a = s.streak := by
      cases a <;> first | rfl | exact absurd rfl (hother _ _)
    exact h.frame hcount (step_loops hdaemon hother)

theorem StreakInv.bounded (h : StreakInv i s) : Bounded i s where
  bound := by
    cases hi : s.daemon.loops[i]? with
    | none => exact h.unspawned hi ▸ Nat.zero_le _
    | some task => exact (h.loop task hi).position.le
  last task decision hi hpc hstreak := by
    have hposition := (h.loop task hi).position
    rw [hpc] at hposition
    exact hposition.2.2.1
      (Nat.le_antisymm hposition.2.1 (hstreak ▸ hposition.1))
  fails task event s' hi hpc hstep := by
    obtain ⟨daemon, hdaemon, rfl⟩ := Option.map_eq_some_iff.mp hstep
    obtain ⟨same, task', inner', hsame, hnext, rfl⟩ :=
      DaemonState.stepLoop_spec hdaemon
    rw [hi] at hsame
    cases hsame
    cases event <;> simp only [loopNext, hpc, reduceCtorEq, Option.some.injEq,
      Prod.mk.injEq] at hnext
    obtain ⟨rfl, rfl⟩ := hnext
    refine ⟨⟨_, get_set_self hi, rfl⟩, fun vpn hvpn => ?_⟩
    rw [DaemonInner.markFailed_vpn] at hvpn
    obtain ⟨before, -, rfl⟩ := Option.map_eq_some_iff.mp hvpn
    rfl

theorem bounded (hinit : Initial s) {as : List Action}
    (hrun : exec (StreakTrace.step i) s as = some t) : t.Bounded i := by
  have hinv : StreakInv i t := exec_invariant (C := fun _ _ => True)
    (fun _ _ _ h _ hstep => StreakInv.step h hstep) (.initial hinit)
    (Along.of_forall fun _ _ _ => trivial) hrun
  exact hinv.bounded

end StreakTrace

/--
After any calls the next record is decided by the number of records since the
last reset, delays only grow between resets, counter and delay stay within
their types, and no loop makes more attempts in a row than the policy allows.
-/
theorem reconnect_policy_law {policy : ReconnectPolicy}
    (hmax : policy.maxAttempts < u32Max) (calls : List ReconnectCall)
    (event : ReconnectEvent) {s t : StreakTrace} {i : TaskId}
    {as : List Action} (hinit : s.Initial)
    (hrun : exec (StreakTrace.step i) s as = some t) :
    DecisionLaw policy event (recordsSinceReset calls + 1)
        ((policy.after calls).record event).2 ∧
      DelaysGrow policy calls event ∧
      (policy.after calls).attempts ≤ u32Max ∧
      (∀ d, ((policy.after calls).record event).2.delay = some d →
        d ≤ Duration.max) ∧
      t.Bounded i := by
  refine ⟨decision_law hmax calls event, delays_grow hmax calls event, ?_,
    fun d hd => ?_, StreakTrace.bounded hinit hrun⟩
  · rw [after_eq]
    exact Nat.min_le_right ..
  · rw [(decision_law hmax calls event).delay_eq hd]
    exact delay_le policy _

def refusedOnce : List Action :=
  [.connect .default, .loop 0 .proceed, .loop 0 .proceed, .loop 0 .proceed,
    .loop 0 .proceed, .loop 0 (.attemptError "refused"), .loop 0 .proceed,
    .loop 0 .proceed, .loop 0 .proceed]

theorem reconnect_policy_law_refused :
    DecisionLaw .androidCompatibleDefault .idleTimeout 2
        ((ReconnectPolicy.androidCompatibleDefault.after
          [.record .serverKickOut]).record .idleTimeout).2 ∧
      (final (StreakTrace.step 0) ⟨readyDaemon, 0⟩ refusedOnce).Bounded 0 := by
  have hmax : ReconnectPolicy.androidCompatibleDefault.maxAttempts <
      u32Max := by decide
  have hinit : StreakTrace.Initial ⟨readyDaemon, 0⟩ := ⟨⟨_, _, rfl⟩, rfl⟩
  have hrun : exec (StreakTrace.step 0) ⟨readyDaemon, 0⟩ refusedOnce =
      some (final (StreakTrace.step 0) ⟨readyDaemon, 0⟩ refusedOnce) :=
    exec_final (by decide +kernel)
  have hlaw := reconnect_policy_law hmax [.record .serverKickOut]
    .idleTimeout hinit hrun
  exact ⟨hlaw.1, hlaw.2.2.2.2⟩

end Rustylink.Daemon
