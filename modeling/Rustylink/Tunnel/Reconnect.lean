import Rustylink.Core.Vpn

/-!
# Reconnect policy

The controller counts the reconnect events since its last reset and turns
each into a decision.  Durations are whole nanoseconds that saturate at the
largest representable one.
-/

namespace Rustylink.Tunnel

open Rustylink.Core (u32Max)

abbrev Duration := Nat

/-- `Duration::MAX`: `u64::MAX` seconds and 999 999 999 nanoseconds. -/
def Duration.max : Duration := (2 ^ 64 - 1) * 10 ^ 9 + 999999999

def Duration.fromSecs (secs : Nat) : Duration := secs * 10 ^ 9

def Duration.saturatingMul (duration : Duration) (factor : Nat) : Duration :=
  min (duration * factor) Duration.max

inductive ReconnectEvent where
  | handshakeTimeout
  | idleTimeout
  | serverKickOut
  | networkChanged
  | transportFailed
  deriving DecidableEq, Repr

inductive ReconnectDecision where
  | retry (after : Duration) (attempt : Nat)
  | switchNode (after : Duration) (attempt : Nat)
  | stop
  deriving DecidableEq, Repr

structure ReconnectPolicy where
  maxAttempts : Nat
  baseDelay : Duration
  maxDelay : Duration
  switchNodeAfter : Nat
  deriving DecidableEq, Repr

structure ReconnectController where
  policy : ReconnectPolicy
  attempts : Nat
  deriving DecidableEq, Repr

def ReconnectPolicy.androidCompatibleDefault : ReconnectPolicy where
  maxAttempts := 8
  baseDelay := Duration.fromSecs 2
  maxDelay := Duration.fromSecs 60
  switchNodeAfter := 3

namespace ReconnectController

def new (policy : ReconnectPolicy) : ReconnectController := ⟨policy, 0⟩

def delayForAttempt (controller : ReconnectController) (attempt : Nat) :
    Duration :=
  let exponent := min (attempt - 1) 5
  let factor := min (2 ^ exponent) u32Max
  min (controller.policy.baseDelay.saturatingMul factor)
    controller.policy.maxDelay

def record (controller : ReconnectController) (event : ReconnectEvent) :
    ReconnectController × ReconnectDecision :=
  let attempts := min (controller.attempts + 1) u32Max
  let controller := { controller with attempts := attempts }
  if attempts > controller.policy.maxAttempts then
    (controller, .stop)
  else
    let delay := controller.delayForAttempt attempts
    if event = .serverKickOut ∨
        attempts ≥ controller.policy.switchNodeAfter then
      (controller, .switchNode delay attempts)
    else
      (controller, .retry delay attempts)

def reset (controller : ReconnectController) : ReconnectController :=
  { controller with attempts := 0 }

end ReconnectController

end Rustylink.Tunnel
