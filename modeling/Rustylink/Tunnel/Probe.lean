import Rustylink.Foundation.Net
import Rustylink.Tunnel.Reconnect

/-!
# The liveness probe

The task that asks the VPN DNS servers, one after the other, for a reply
through the tunnel.  Instants and durations are counts of nanoseconds; time
passes only up to the next timer of the task, and every query ends in a reply
or an error by its timeout.
-/

namespace Rustylink.Tunnel

open Rustylink.Foundation

/--
A timer that is due at once; a tick that was missed is made up for at once.
-/
structure Interval (period : Nat) where
  deadline : Nat
  deriving DecidableEq, Repr

namespace Interval

variable {period : Nat}

def new (period now : Nat) : Interval period := ⟨now⟩

def poll (now : Nat) (interval : Interval period) : Option (Interval period) :=
  if interval.deadline ≤ now then some ⟨interval.deadline + period⟩ else none

theorem poll_eq_some {now : Nat} {interval ticked : Interval period} :
    interval.poll now = some ticked ↔
      interval.deadline ≤ now ∧ ticked = ⟨interval.deadline + period⟩ := by
  unfold poll
  split
  · rename_i hdue
    simp [hdue, eq_comm]
  · rename_i hearly
    simp [hearly]

end Interval

/-! ## The task -/

def probeInterval : Nat := Duration.fromSecs 3

def dnsTimeout : Nat := Duration.fromSecs 3

theorem probeInterval_eq : probeInterval = 3000000000 := rfl

theorem dnsTimeout_eq : dnsTimeout = 3000000000 := rfl

inductive ProbePhase where
  | ticking
  | querying (index sentAt : Nat)
  deriving DecidableEq, Repr

/-- A query that has ended; a target is a position in the list of servers. -/
structure Attempt where
  index : Nat
  sentAt : Nat
  endedAt : Nat
  replied : Bool
  deriving DecidableEq, Repr

structure ProbeTask where
  servers : List SocketAddr
  tick : Interval probeInterval
  phase : ProbePhase
  lastRx : Option Nat
  attempts : List Attempt
  deriving DecidableEq, Repr

inductive ProbeEvent where
  | tick
  | reply
  | error
  deriving DecidableEq, Repr

namespace ProbeTask

def start (servers : List SocketAddr) (now : Nat) : ProbeTask where
  servers := servers
  tick := .new probeInterval now
  phase := .ticking
  lastRx := none
  attempts := []

def lastRxElapsed (now : Nat) (probe : ProbeTask) : Option Nat :=
  probe.lastRx.map (now - ·)

def walk (now index : Nat) (probe : ProbeTask) : ProbeTask :=
  { probe with
    phase :=
      if index < probe.servers.length then .querying index now else .ticking }

def attempted (index : Nat) (sentAt now : Nat) (replied : Bool)
    (probe : ProbeTask) :
    ProbeTask :=
  { probe with attempts := ⟨index, sentAt, now, replied⟩ :: probe.attempts }

def runProbe (now : Nat) (probe : ProbeTask)
    (event : ProbeEvent) : Option ProbeTask :=
  match probe.phase, event with
  | .ticking, .tick =>
      (probe.tick.poll now).map fun tick =>
        { probe with tick := tick }.walk now 0
  | .querying index sentAt, .reply =>
      some { probe.attempted index sentAt now true with
        phase := .ticking
        lastRx := some now }
  | .querying index sentAt, .error =>
      some ((probe.attempted index sentAt now false).walk now (index + 1))
  | _, _ => none

def timer (probe : ProbeTask) : Nat :=
  match probe.phase with
  | .ticking => probe.tick.deadline
  | .querying _ sentAt => sentAt + dnsTimeout

@[simp] theorem walk_lastRx (probe : ProbeTask) (now index : Nat) :
    (probe.walk now index).lastRx = probe.lastRx := rfl

@[simp] theorem walk_attempts (probe : ProbeTask) (now index : Nat) :
    (probe.walk now index).attempts = probe.attempts := rfl

theorem runProbe_cases {now : Nat} {probe next : ProbeTask} {event : ProbeEvent}
    (h : probe.runProbe now event = some next) :
    (event = .tick ∧ probe.phase = .ticking ∧ probe.tick.deadline ≤ now ∧
      next = { probe with tick := ⟨probe.tick.deadline + probeInterval⟩ }.walk
        now 0) ∨
    ∃ index sentAt, probe.phase = .querying index sentAt ∧
      ((event = .reply ∧ next = { probe.attempted index sentAt now true with
          phase := .ticking, lastRx := some now }) ∨
        (event = .error ∧
          next = (probe.attempted index sentAt now false).walk now
              (index + 1))) := by
  unfold runProbe at h
  split at h
  · rename_i hphase
    obtain ⟨tick, hpoll, rfl⟩ := Option.map_eq_some_iff.mp h
    obtain ⟨hdue, rfl⟩ := Interval.poll_eq_some.mp hpoll
    exact .inl ⟨rfl, hphase, hdue, rfl⟩
  · rename_i index sentAt hphase
    cases h
    exact .inr ⟨index, sentAt, hphase, .inl ⟨rfl, rfl⟩⟩
  · rename_i index sentAt hphase
    cases h
    exact .inr ⟨index, sentAt, hphase, .inr ⟨rfl, rfl⟩⟩
  · cases h

theorem runProbe_servers {now : Nat} {probe next : ProbeTask}
    {event : ProbeEvent} (h : probe.runProbe now event = some next) :
    next.servers = probe.servers := by
  rcases runProbe_cases h with
    ⟨-, -, -, rfl⟩ | ⟨index, sentAt, -, ⟨-, rfl⟩ | ⟨-, rfl⟩⟩ <;> rfl

/-! ## The record of the attempts -/

structure Recorded (now : Nat) (probe : ProbeTask) : Prop where
  begun : ∀ index sentAt, probe.phase = .querying index sentAt → sentAt ≤ now
  sent : ∀ attempt ∈ probe.attempts, attempt.sentAt ≤ now
  ended : ∀ attempt ∈ probe.attempts, attempt.endedAt ≤ now
  replied : ∀ attempt ∈ probe.attempts, attempt.replied = true →
    ∃ rx, probe.lastRx = some rx ∧ attempt.endedAt ≤ rx

theorem start_recorded (servers : List SocketAddr) (now : Nat) :
    (start servers now).Recorded now := by
  constructor <;> simp [start]

theorem Recorded.elapse {now later : Nat} {probe : ProbeTask}
    (h : probe.Recorded now) (hle : now ≤ later) : probe.Recorded later where
  begun index sentAt hphase := Nat.le_trans (h.begun index sentAt hphase) hle
  sent attempt hmem := Nat.le_trans (h.sent attempt hmem) hle
  ended attempt hmem := Nat.le_trans (h.ended attempt hmem) hle
  replied := h.replied

theorem walk_begun (probe : ProbeTask) (now first : Nat) {index sentAt : Nat}
    (h : (probe.walk now first).phase = .querying index sentAt) :
    sentAt = now := by
  unfold walk at h
  dsimp only at h
  split at h <;> cases h
  rfl

theorem Recorded.step {now : Nat} {probe next : ProbeTask} {event : ProbeEvent}
    (h : probe.Recorded now) (hstep : probe.runProbe now event = some next) :
    next.Recorded now := by
  rcases runProbe_cases hstep with
    ⟨-, -, -, rfl⟩ | ⟨index, sentAt, hphase, ⟨-, rfl⟩ | ⟨-, rfl⟩⟩
  · exact ⟨fun _ _ hwalks => Nat.le_of_eq (walk_begun _ _ _ hwalks),
      h.sent, h.ended, h.replied⟩
  · have hbegun := h.begun index sentAt hphase
    refine ⟨by simp, ?_, ?_, ?_⟩
    · simpa [attempted, hbegun] using h.sent
    · simpa [attempted] using h.ended
    · simp only [attempted, List.mem_cons, forall_eq_or_imp,
        Option.some.injEq, exists_eq_left', le_refl, implies_true, true_and]
      exact fun attempt hmem _ => h.ended attempt hmem
  · have hbegun := h.begun index sentAt hphase
    refine ⟨fun _ _ hwalks => Nat.le_of_eq (walk_begun _ _ _ hwalks), ?_, ?_,
      ?_⟩
    · simpa [attempted, hbegun] using h.sent
    · simpa [attempted] using h.ended
    · simpa [attempted] using h.replied

end ProbeTask

end Rustylink.Tunnel
