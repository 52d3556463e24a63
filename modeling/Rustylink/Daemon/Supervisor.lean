import Rustylink.Daemon.System
import Rustylink.Tunnel.ProbeWindow

/-!
# The supervisor

The loop that watches a running session, beside the liveness probe of that
session.  It may look late at a timer that is due, as an awaited call holds it
up; time passes up to the next timer of the probe.
-/

namespace Rustylink.Daemon

open Rustylink.Foundation Rustylink.Tunnel

def livenessPoll : Nat := Duration.fromSecs 3

def networkPoll : Nat := Duration.fromSecs 5

def reportInterval : Nat := Duration.fromSecs 60

def connectTimeout : Nat := Duration.fromSecs 15

def livenessTimeout : Nat := Duration.fromSecs 30

inductive LivenessStatus where
  | healthy
  | connectTimeout
  | stalled
  deriving DecidableEq, Repr

def livenessStatus (probeAge : Option Nat) (sessionAge : Nat) :
    LivenessStatus :=
  match probeAge with
  | none => if sessionAge > connectTimeout then .connectTimeout else .healthy
  | some age => if age > livenessTimeout then .stalled else .healthy

theorem livenessStatus_ne_healthy {probeAge : Option Nat} {sessionAge : Nat} :
    livenessStatus probeAge sessionAge ≠ .healthy ↔
      (probeAge = none ∧ connectTimeout < sessionAge) ∨
        ∃ age, probeAge = some age ∧ livenessTimeout < age := by
  unfold livenessStatus
  cases probeAge with
  | none => simp
  | some age => simp

/-! ## The loop -/

structure Timers where
  liveness : Interval livenessPoll
  network : Interval networkPoll
  report : Interval reportInterval
  deriving DecidableEq, Repr

def Timers.new (now : Nat) : Timers where
  liveness := .new livenessPoll now
  network := .new networkPoll now
  report := ⟨now + reportInterval⟩

structure InterfaceFingerprint where
  name : String
  index : Nat
  gateway : Option IpAddr
  addrs : List IpAddr
  deriving DecidableEq, Repr

structure NetworkSnapshot where
  defaultInterface : Option InterfaceFingerprint
  deriving DecidableEq, Repr, Inhabited

/-- Where `run` stands. -/
inductive Supervisor where
  | created
  | capturing (timers : Timers)
  | watching (timers : Timers) (lastNet : NetworkSnapshot) (started : Nat)
  | returned (outcome : SupervisorOutcome)
  deriving DecidableEq, Repr

/-- A branch that `select!` takes, with what its calls return. -/
inductive SupervisorEvent where
  | run
  | captured (snapshot : Option NetworkSnapshot)
  | cancelled
  | transportFailed
  | livenessTick
  | networkTick (present : Option Bool) (snapshot : Option NetworkSnapshot)
  | reportTick (kickOut : Bool)
  deriving DecidableEq, Repr

def networkChanged (outbound : Option String) (lastNet : NetworkSnapshot)
    (present : Option Bool) (snapshot : Option NetworkSnapshot) : Bool :=
  match outbound with
  | some _ => !present.getD false
  | none => snapshot.any (· ≠ lastNet)

def Supervisor.next (outbound : Option String) (now : Nat) (probe : ProbeTask) :
    Supervisor → SupervisorEvent → Option Supervisor
  | .created, .run => some (.capturing (.new now))
  | .capturing timers, .captured snapshot =>
      some (.watching timers (snapshot.getD default) now)
  | .watching .., .cancelled => some (.returned .cancelled)
  | .watching .., .transportFailed =>
      some (.returned (.trigger .transportFailed
        (probe.lastRxElapsed now).isSome))
  | .watching timers lastNet started, .livenessTick =>
      (timers.liveness.poll now).map fun tick =>
        if livenessStatus (probe.lastRxElapsed now) (now - started) =
          .healthy then
          .watching { timers with liveness := tick } lastNet started
        else .returned (.trigger .handshakeTimeout
          (probe.lastRxElapsed now).isSome)
  | .watching timers lastNet started, .networkTick present snapshot =>
      (timers.network.poll now).map fun tick =>
        if networkChanged outbound lastNet present snapshot then
          .returned (.trigger .networkChanged (probe.lastRxElapsed now).isSome)
        else .watching { timers with network := tick } lastNet started
  | .watching timers lastNet started, .reportTick kickOut =>
      (timers.report.poll now).map fun tick =>
        if kickOut then .returned
          (.serverKickOut (probe.lastRxElapsed now).isSome)
        else .watching { timers with report := tick } lastNet started
  | _, _ => none

theorem Supervisor.next_cases {outbound : Option String} {now : Nat}
    {probe : ProbeTask} {supervisor next : Supervisor} {event : SupervisorEvent}
    (h : supervisor.next outbound now probe event = some next) :
    (∃ timers, next = .capturing timers) ∨
    (∃ timers lastNet started, next = .watching timers lastNet started ∧
      (started = now ∨ ∃ timers lastNet, supervisor =
        .watching timers lastNet started)) ∨
    (∃ timers lastNet started, supervisor = .watching timers lastNet started ∧
      livenessStatus (probe.lastRxElapsed now) (now - started) ≠ .healthy ∧
      next = .returned (.trigger .handshakeTimeout
        (probe.lastRxElapsed now).isSome)) ∨
    ∃ outcome, next = .returned outcome ∧
      ∀ wasHealthy, outcome ≠ .trigger .handshakeTimeout wasHealthy := by
  unfold Supervisor.next at h
  split at h
  · cases h
    exact .inl ⟨_, rfl⟩
  · cases h
    exact .inr (.inl ⟨_, _, _, rfl, .inl rfl⟩)
  · cases h
    exact .inr (.inr (.inr ⟨_, rfl, by simp⟩))
  · cases h
    exact .inr (.inr (.inr ⟨_, rfl, by simp⟩))
  · obtain ⟨tick, -, rfl⟩ := Option.map_eq_some_iff.mp h
    split
    · exact .inr (.inl ⟨_, _, _, rfl, .inr ⟨_, _, rfl⟩⟩)
    · rename_i hsick
      exact .inr (.inr (.inl ⟨_, _, _, rfl, hsick, rfl⟩))
  · obtain ⟨tick, -, rfl⟩ := Option.map_eq_some_iff.mp h
    split
    · exact .inr (.inr (.inr ⟨_, rfl, by simp⟩))
    · exact .inr (.inl ⟨_, _, _, rfl, .inr ⟨_, _, rfl⟩⟩)
  · obtain ⟨tick, -, rfl⟩ := Option.map_eq_some_iff.mp h
    split
    · exact .inr (.inr (.inr ⟨_, rfl, by simp⟩))
    · exact .inr (.inl ⟨_, _, _, rfl, .inr ⟨_, _, rfl⟩⟩)
  · cases h

section

variable {outbound : Option String} {now : Nat} {probe : ProbeTask}
  {supervisor next : Supervisor}
  {event : SupervisorEvent}

theorem Supervisor.next_watching
    (h : supervisor.next outbound now probe event = some next) {timers : Timers}
    {lastNet : NetworkSnapshot} {started : Nat}
    (hnext : next = .watching timers lastNet started) :
    started = now ∨ ∃ timers lastNet, supervisor =
      .watching timers lastNet started := by
  subst hnext
  rcases next_cases h with
    ⟨_, hother⟩ | ⟨_, _, _, hthis, hstarted⟩ | ⟨_, _, _, -, -, hother⟩ |
    ⟨_, hother, -⟩
  · cases hother
  · cases hthis
    exact hstarted
  · cases hother
  · cases hother

theorem Supervisor.next_timedOut
    (h : supervisor.next outbound now probe event = some next)
    {wasHealthy : Bool}
    (hnext : next = .returned (.trigger .handshakeTimeout wasHealthy)) :
    ∃ timers lastNet started, supervisor = .watching timers lastNet started ∧
      livenessStatus (probe.lastRxElapsed now) (now - started) ≠ .healthy := by
  subst hnext
  rcases next_cases h with ⟨_, hother⟩ | ⟨_, _, _, hother, -⟩ |
    ⟨timers, lastNet, started, hwatching, hsick, -⟩ | ⟨_, hthis, hnot⟩
  · cases hother
  · cases hother
  · exact ⟨timers, lastNet, started, hwatching, hsick⟩
  · cases hthis
    exact absurd rfl (hnot wasHealthy)

end

/-! ## A session that is supervised -/

structure SupervisedSession where
  now : Nat
  probe : ProbeTask
  supervisor : Supervisor
  deriving DecidableEq, Repr

inductive SessionEvent where
  | elapse (duration : Nat)
  | probe (event : ProbeEvent)
  | supervisor (event : SupervisorEvent)
  deriving DecidableEq, Repr

namespace SupervisedSession

def start (servers : List SocketAddr) (now : Nat) : SupervisedSession where
  now := now
  probe := .start servers now
  supervisor := .created

def step (outbound : Option String) (s : SupervisedSession)
    (event : SessionEvent) : Option SupervisedSession :=
  match s.supervisor with
  | .returned _ => none
  | supervisor =>
      match event with
      | .elapse duration =>
          if s.now + duration ≤ s.probe.timer then some { s with now := s.now +
            duration }
          else none
      | .probe event => (s.probe.runProbe s.now event).map fun probe =>
          { s with probe := probe }
      | .supervisor event =>
          (supervisor.next outbound s.now s.probe event).map fun supervisor =>
            { s with supervisor := supervisor }

/-- How long the probe may be silent. -/
def window (s : SupervisedSession) : Nat :=
  match s.probe.lastRx with
  | none => connectTimeout
  | some _ => livenessTimeout

def timedOut (s : SupervisedSession) : Prop :=
  ∃ wasHealthy, s.supervisor = .returned (.trigger .handshakeTimeout wasHealthy)

/--
There are servers; to each of them a query was sent in the last window, and
there was no reply in it.
-/
structure Evidence (s : SupervisedSession) : Prop where
  targets : s.probe.servers ≠ []
  probed : ∀ index < s.probe.servers.length, ∃ sentAt,
    s.probe.Asked index sentAt ∧ s.now ≤ sentAt + s.window ∧ sentAt ≤ s.now
  silent : ∀ attempt ∈ s.probe.attempts, attempt.replied = true →
    attempt.endedAt + s.window < s.now

theorem step_cases {outbound : Option String} {s s' : SupervisedSession}
    {event : SessionEvent} (h : step outbound s event = some s') :
    (∀ outcome, s.supervisor ≠ .returned outcome) ∧
      ((∃ duration, event = .elapse duration ∧
        s.now + duration ≤ s.probe.timer ∧
          s' = { s with now := s.now + duration }) ∨
        (∃ probeEvent probe, event = .probe probeEvent ∧
          s.probe.runProbe s.now probeEvent = some probe ∧
          s' = { s with probe := probe }) ∨
        ∃ supervisorEvent supervisor, event = .supervisor supervisorEvent ∧
          s.supervisor.next outbound s.now s.probe supervisorEvent =
            some supervisor ∧
          s' = { s with supervisor := supervisor }) := by
  unfold step at h
  split at h
  · cases h
  · rename_i hruns
    refine ⟨hruns, ?_⟩
    cases event with
    | elapse duration =>
        dsimp only at h
        split at h
        · rename_i htimer
          cases h
          exact .inl ⟨duration, rfl, htimer, rfl⟩
        · cases h
    | probe probeEvent =>
        obtain ⟨probe, hprobe, rfl⟩ := Option.map_eq_some_iff.mp h
        exact .inr (.inl ⟨probeEvent, probe, rfl, hprobe, rfl⟩)
    | supervisor supervisorEvent =>
        obtain ⟨supervisor, hnext, rfl⟩ := Option.map_eq_some_iff.mp h
        exact .inr (.inr ⟨supervisorEvent, supervisor, rfl, hnext, rfl⟩)

section

variable {outbound : Option String} {s : SupervisedSession} {timers : Timers}
  {lastNet : NetworkSnapshot} {started : Nat}

theorem step_look_healthy
    (hwatching : s.supervisor = .watching timers lastNet started)
    (hdue : timers.liveness.deadline ≤ s.now) (hrx : s.probe.lastRx = none)
    (hearly : s.now ≤ started + connectTimeout) :
    step outbound s (.supervisor .livenessTick) = some { s with
      supervisor := .watching
        { timers with liveness := ⟨timers.liveness.deadline + livenessPoll⟩ }
        lastNet started } := by
  have hage : s.now - started ≤ connectTimeout := by omega
  simp [step, hwatching, Supervisor.next, Interval.poll, hdue,
    ProbeTask.lastRxElapsed, hrx, livenessStatus, hage]

theorem step_look_late
    (hwatching : s.supervisor = .watching timers lastNet started)
    (hdue : timers.liveness.deadline ≤ s.now) (hrx : s.probe.lastRx = none)
    (hlate : started + connectTimeout < s.now) :
    step outbound s (.supervisor .livenessTick) = some { s with
      supervisor := .returned (.trigger .handshakeTimeout false) } := by
  have hage : connectTimeout < s.now - started := by omega
  simp [step, hwatching, Supervisor.next, Interval.poll, hdue,
    ProbeTask.lastRxElapsed, hrx, livenessStatus, hage]

theorem step_queryTimeout {index : Nat}
    (hwatching : s.supervisor = .watching timers lastNet started)
    (hphase : s.probe.phase = .querying index s.now) :
    step outbound s (.elapse dnsTimeout) =
      some { s with now := s.now + dnsTimeout } := by
  simp [step, hwatching, hphase, ProbeTask.timer]

end

def AnswersAtOnce (index : Nat) (s : SupervisedSession)
    (event : SessionEvent) : Prop :=
  ∀ sentAt, s.probe.phase = .querying index sentAt →
    event ≠ .probe .error ∧ ∀ duration, event = .elapse duration → duration = 0

/-! ## What the supervisor has seen -/

structure Observed (servers : List SocketAddr) (start : Nat)
    (s : SupervisedSession) : Prop where
  servers_eq : s.probe.servers = servers
  begun : start ≤ s.now
  onTime : s.probe.OnTime start s.now
  recorded : s.probe.Recorded s.now
  watching : ∀ timers lastNet started, s.supervisor =
    .watching timers lastNet started →
    start ≤ started
  overdue : s.timedOut → s.probe.quietSince start + s.window < s.now

theorem start_observed (servers : List SocketAddr) (now : Nat) :
    Observed servers now (start servers now) where
  servers_eq := rfl
  begun := Nat.le_refl now
  onTime := ProbeTask.start_onTime servers now
  recorded := ProbeTask.start_recorded servers now
  watching _ _ _ h := by cases h
  overdue h := by
    obtain ⟨wasHealthy, h⟩ := h
    cases h

theorem Observed.quiet {servers : List SocketAddr} {start : Nat}
    {s : SupervisedSession} (h : Observed servers start s) {timers : Timers}
    {lastNet : NetworkSnapshot} {started : Nat}
    (hwatching : s.supervisor = .watching timers lastNet started)
    (hsick : livenessStatus (s.probe.lastRxElapsed s.now) (s.now - started) ≠
      .healthy) :
    s.probe.quietSince start + s.window < s.now := by
  have hstarted := h.watching timers lastNet started hwatching
  unfold ProbeTask.quietSince window
  rcases livenessStatus_ne_healthy.mp hsick with
    ⟨hnone, hlate⟩ | ⟨age, hsome, hlate⟩
  · rw [Option.map_eq_none_iff.mp hnone]
    show start + connectTimeout < s.now
    omega
  · obtain ⟨rx, hrx, rfl⟩ := Option.map_eq_some_iff.mp hsome
    rw [hrx]
    show rx + livenessTimeout < s.now
    omega

theorem Observed.step {servers : List SocketAddr} {start : Nat}
    {outbound : Option String} {s s' : SupervisedSession} {event : SessionEvent}
    (h : Observed servers start s)
    (hstep : step outbound s event = some s') : Observed servers start s' := by
  obtain ⟨hruns, hcases⟩ := step_cases hstep
  have hgoesOn : ¬ s.timedOut := fun ⟨wasHealthy, hover⟩ => hruns _ hover
  rcases hcases with ⟨duration, -, htimer, rfl⟩ | ⟨probeEvent, probe, -,
    hprobe, rfl⟩ | ⟨supervisorEvent, supervisor, -, hnext, rfl⟩
  · have hle := Nat.le_add_right s.now duration
    exact {
      servers_eq := h.servers_eq
      begun := Nat.le_trans h.begun hle
      onTime := h.onTime.elapse hle htimer
      recorded := h.recorded.elapse hle
      watching := h.watching
      overdue := fun hover => absurd hover hgoesOn }
  · exact {
      servers_eq := (ProbeTask.runProbe_servers hprobe).trans h.servers_eq
      begun := h.begun
      onTime := h.onTime.step hprobe
      recorded := h.recorded.step hprobe
      watching := h.watching
      overdue := fun hover => absurd hover hgoesOn }
  · refine ⟨h.servers_eq, h.begun, h.onTime, h.recorded, ?_, ?_⟩
    · intro timers lastNet started hwatching
      rcases Supervisor.next_watching hnext hwatching with
        rfl | ⟨timers, lastNet, hbefore⟩
      · exact h.begun
      · exact h.watching timers lastNet started hbefore
    · rintro ⟨wasHealthy, hover⟩
      obtain ⟨timers, lastNet, started, hwatching, hsick⟩ :=
        Supervisor.next_timedOut hnext hover
      exact h.quiet hwatching hsick

theorem Observed.run {servers : List SocketAddr} {now : Nat}
    {outbound : Option String} {s : SupervisedSession}
    {events : List SessionEvent}
    (hrun : exec (SupervisedSession.step outbound) (start servers now) events =
      some s) :
    Observed servers now s :=
  exec_invariant (C := fun _ _ => True) (fun _ _ _ hs _ hstep => hs.step hstep)
    (start_observed servers now) (Along.of_forall fun _ _ _ => trivial) hrun

theorem Observed.evidence {servers : List SocketAddr} {start : Nat}
    {s : SupervisedSession} (h : Observed servers start s)
    (hsome : servers ≠ [])
    (hfit : dnsTimeout * servers.length ≤ s.window) (hover : s.timedOut) :
    s.Evidence := by
  have hquiet := h.overdue hover
  rw [← h.servers_eq] at hsome hfit
  refine ⟨hsome, ?_, ?_⟩
  · intro index hindex
    obtain ⟨sentAt, hasked, hyoung⟩ := h.onTime.asked hfit hquiet hindex
    refine ⟨sentAt, hasked, hyoung, ?_⟩
    rcases hasked with ⟨endedAt, hmem⟩ | hphase
    · exact h.recorded.sent _ hmem
    · exact h.recorded.begun index sentAt hphase
  · intro attempt hmem hreplied
    obtain ⟨rx, hrx, hended⟩ := h.recorded.replied attempt hmem hreplied
    unfold ProbeTask.quietSince at hquiet
    rw [hrx] at hquiet
    exact Nat.lt_of_le_of_lt (Nat.add_le_add_right hended _) hquiet

theorem connectTimeout_le_window (s : SupervisedSession) :
    connectTimeout ≤ s.window := by
  unfold window
  split
  · exact Nat.le_refl _
  · decide

end SupervisedSession

end Rustylink.Daemon
