import Mathlib.Algebra.Group.Nat.Defs
import Mathlib.Data.List.Induction
import Mathlib.Order.MinMax
import Rustylink.Tunnel.Reconnect

/-!
# The law of the reconnect policy

What a controller decides is a function of the policy, the event and the
number of events since the last reset, for every sequence of calls.
-/

namespace Rustylink.Tunnel

open Rustylink.Core (u32Max)

inductive ReconnectCall where
  | record (event : ReconnectEvent)
  | reset
  deriving DecidableEq, Repr

def ReconnectController.call (controller : ReconnectController) :
    ReconnectCall →
    ReconnectController
  | .record event => (controller.record event).1
  | .reset => controller.reset

def ReconnectPolicy.after (policy : ReconnectPolicy)
    (calls : List ReconnectCall) :
    ReconnectController :=
  calls.foldl ReconnectController.call (.new policy)

def ReconnectCall.count (n : Nat) : ReconnectCall → Nat
  | .record _ => n + 1
  | .reset => 0

def recordsSinceReset (calls : List ReconnectCall) : Nat :=
  calls.foldl ReconnectCall.count 0

namespace ReconnectDecision

def attempt : ReconnectDecision → Option Nat
  | .retry _ attempt | .switchNode _ attempt => some attempt
  | .stop => none

def delay : ReconnectDecision → Option Duration
  | .retry after _ | .switchNode after _ => some after
  | .stop => none

def isSwitchNode : ReconnectDecision → Bool
  | .switchNode .. => true
  | _ => false

end ReconnectDecision

def ReconnectPolicy.delay (policy : ReconnectPolicy) (n : Nat) : Duration :=
  min (policy.baseDelay.saturatingMul (2 ^ min (n - 1) 5)) policy.maxDelay

/-- The decision on the `n`-th event since the last reset. -/
structure DecisionLaw (policy : ReconnectPolicy) (event : ReconnectEvent)
    (n : Nat) (decision : ReconnectDecision) : Prop where
  stop_iff : decision = .stop ↔ policy.maxAttempts < n
  attempt : n ≤ policy.maxAttempts → decision.attempt = some n
  switch_iff : n ≤ policy.maxAttempts →
    (decision.isSwitchNode = true ↔ event = .serverKickOut ∨
      policy.switchNodeAfter ≤ n)
  delay : n ≤ policy.maxAttempts → decision.delay = some (policy.delay n)

variable {policy : ReconnectPolicy}

@[simp] theorem ReconnectPolicy.after_append (policy : ReconnectPolicy)
    (calls more : List ReconnectCall) :
    policy.after (calls ++ more) = more.foldl ReconnectController.call
      (policy.after calls) := by
  simp [ReconnectPolicy.after]

@[simp] theorem recordsSinceReset_append_record (calls : List ReconnectCall)
    (event : ReconnectEvent) :
    recordsSinceReset (calls ++ [.record event]) =
      recordsSinceReset calls + 1 := by
  simp [recordsSinceReset, ReconnectCall.count]

@[simp] theorem recordsSinceReset_append_reset (calls : List ReconnectCall) :
    recordsSinceReset (calls ++ [.reset]) = 0 := by
  simp [recordsSinceReset, ReconnectCall.count]

theorem recordsSinceReset_append_records (calls : List ReconnectCall)
    (events : List ReconnectEvent) :
    recordsSinceReset (calls ++ events.map .record) = recordsSinceReset calls +
      events.length := by
  induction events using List.reverseRecOn with
  | nil => simp
  | append_singleton events event ih =>
      rw [List.map_append, ← List.append_assoc, List.map_singleton,
        recordsSinceReset_append_record, ih, List.length_append]
      simp
      omega

theorem record_fst (controller : ReconnectController) (event : ReconnectEvent) :
    (controller.record event).1 =
      { controller with attempts := min (controller.attempts + 1) u32Max } := by
  unfold ReconnectController.record
  dsimp only
  split
  · rfl
  · split <;> rfl

theorem after_eq (policy : ReconnectPolicy) (calls : List ReconnectCall) :
    policy.after calls = ⟨policy, min (recordsSinceReset calls) u32Max⟩ := by
  induction calls using List.reverseRecOn with
  | nil => simp [ReconnectPolicy.after, recordsSinceReset,
        ReconnectController.new]
  | append_singleton calls call ih =>
      rw [ReconnectPolicy.after_append, ih]
      cases call with
      | reset => simp [ReconnectController.call, ReconnectController.reset]
      | record event =>
          simp only [List.foldl_cons, List.foldl_nil, ReconnectController.call,
            record_fst, recordsSinceReset_append_record,
            ReconnectController.mk.injEq, true_and]
          omega

theorem delayForAttempt_eq (attempts n : Nat) :
    (ReconnectController.mk policy attempts).delayForAttempt n =
      policy.delay n := by
  have hsmall : 2 ^ min (n - 1) 5 ≤ 2 ^ 5 :=
    Nat.pow_le_pow_right (by decide) (Nat.min_le_right ..)
  have hfactor : min (2 ^ min (n - 1) 5) u32Max = 2 ^ min (n - 1) 5 :=
    Nat.min_eq_left (Nat.le_trans hsmall (by decide))
  unfold ReconnectController.delayForAttempt ReconnectPolicy.delay
  dsimp only
  rw [hfactor]

theorem record_decision (attempts : Nat) (event : ReconnectEvent)
    (hmax : policy.maxAttempts < u32Max) :
    DecisionLaw policy event (attempts + 1)
      ((ReconnectController.mk policy (min attempts u32Max)).record
        event).2 := by
  have hstop : policy.maxAttempts < min (min attempts u32Max + 1) u32Max ↔
      policy.maxAttempts < attempts + 1 := by omega
  unfold ReconnectController.record
  dsimp only
  by_cases hover : policy.maxAttempts < attempts + 1
  · rw [if_pos (hstop.mpr hover)]
    exact ⟨by simp [hover], by omega, by omega, by omega⟩
  · have hcount : min (min attempts u32Max + 1) u32Max = attempts + 1 := by
      omega
    rw [if_neg fun h => hover (hstop.mp h), hcount, delayForAttempt_eq]
    split
    · rename_i hswitch
      exact ⟨by simp [hover], fun _ => rfl,
        fun _ => ⟨fun _ => hswitch, fun _ => rfl⟩, fun _ => rfl⟩
    · rename_i hretry
      exact ⟨by simp [hover], fun _ => rfl,
        fun _ => ⟨nofun, fun h => absurd h hretry⟩, fun _ => rfl⟩

theorem record_of_room {controller : ReconnectController}
    (event : ReconnectEvent) (hmax : controller.policy.maxAttempts < u32Max)
    (hroom : controller.attempts ≤ controller.policy.maxAttempts) :
    (controller.record event).1 =
    { controller with attempts := controller.attempts + 1 } ∧
      ((controller.record event).2 = .stop ↔
        controller.attempts = controller.policy.maxAttempts) := by
  obtain ⟨policy, attempts⟩ := controller
  dsimp only at hmax hroom ⊢
  have hcount : min attempts u32Max = attempts := by omega
  have hnext : min (attempts + 1) u32Max = attempts + 1 := by omega
  have hstop := (record_decision attempts event hmax).stop_iff
  rw [hcount] at hstop
  rw [record_fst, hstop]
  dsimp only
  rw [hnext]
  exact ⟨rfl, by omega⟩

theorem decision_law (hmax : policy.maxAttempts < u32Max)
    (calls : List ReconnectCall) (event : ReconnectEvent) :
    DecisionLaw policy event (recordsSinceReset calls + 1)
      ((policy.after calls).record event).2 := by
  rw [after_eq]
  exact record_decision _ event hmax

/-! ## Delays -/

theorem delay_mono {n m : Nat} (h : n ≤ m) :
    policy.delay n ≤ policy.delay m := by
  have hpow : 2 ^ min (n - 1) 5 ≤ 2 ^ min (m - 1) 5 :=
    Nat.pow_le_pow_right (by decide) (by omega)
  have hmul := Nat.mul_le_mul_left policy.baseDelay hpow
  unfold ReconnectPolicy.delay Duration.saturatingMul
  exact min_le_min_right _ (min_le_min_right _ hmul)

theorem delay_le (policy : ReconnectPolicy) (n : Nat) :
    policy.delay n ≤ Duration.max :=
  Nat.le_trans (Nat.min_le_left ..) (Nat.min_le_right ..)

theorem DecisionLaw.delay_eq {event : ReconnectEvent} {n : Nat}
    {decision : ReconnectDecision} {d : Duration}
    (h : DecisionLaw policy event n decision) (hd : decision.delay = some d) :
    d = policy.delay n := by
  by_cases hover : policy.maxAttempts < n
  · rw [h.stop_iff.mpr hover] at hd
    cases hd
  · have hdelay := h.delay (by omega)
    rw [hd] at hdelay
    exact Option.some.inj hdelay

def DelaysGrow (policy : ReconnectPolicy) (calls : List ReconnectCall)
    (event : ReconnectEvent) : Prop :=
  ∀ (later : ReconnectEvent) (between : List ReconnectEvent) (a b : Duration),
    ((policy.after calls).record event).2.delay = some a →
    ((policy.after (calls ++ .record event :: between.map .record)).record
      later).2.delay = some b → a ≤ b

theorem delays_grow (hmax : policy.maxAttempts < u32Max)
    (calls : List ReconnectCall) (event : ReconnectEvent) :
    DelaysGrow policy calls event := by
  intro later between a b ha hb
  have hfirst := decision_law hmax calls event
  have hlater :=
    decision_law hmax (calls ++ .record event :: between.map .record) later
  have hcount :
      recordsSinceReset (calls ++ .record event :: between.map .record) =
      recordsSinceReset calls + (between.length + 1) :=
    recordsSinceReset_append_records calls (event :: between)
  rw [hfirst.delay_eq ha, hlater.delay_eq hb, hcount]
  exact delay_mono (by omega)

end Rustylink.Tunnel
