import Rustylink.Daemon.Supervisor

/-!
# When a tunnel is declared dead

The supervisor takes the probe's silence for a dead tunnel.  That is evidence
only if the probe asks every server within the shortest window: with no server
it asks nobody, and with many it may not come to the last of them in time.
-/

namespace Rustylink.Daemon

open Rustylink.Foundation Rustylink.Tunnel

namespace SupervisedSession

/--
In every run a timeout is one on evidence, and there is none where one of the
servers always answers at once.
-/
structure JudgedOnEvidence (servers : List SocketAddr) : Prop where
  evidence : ∀ outbound now events s,
    exec (step outbound) (start servers now) events = some s →
      s.timedOut → s.Evidence
  answering : ∀ outbound now events s,
    exec (step outbound) (start servers now) events = some s →
      ∀ index < servers.length,
      Along (step outbound) (AnswersAtOnce index) (start servers now) events →
        ¬ s.timedOut

structure Answering (index : Nat) (s : SupervisedSession) : Prop where
  answered : ∀ attempt ∈ s.probe.attempts,
    attempt.index = index → attempt.replied = true
  pending : ∀ sentAt, s.probe.phase = .querying index sentAt → s.now = sentAt

theorem Answering.step {outbound : Option String} {index : Nat}
    {s s' : SupervisedSession} {event : SessionEvent} (h : s.Answering index)
    (hanswers : s.AnswersAtOnce index event)
    (hstep : step outbound s event = some s') : s'.Answering index := by
  obtain ⟨-, ⟨duration, rfl, -, rfl⟩ | ⟨probeEvent, probe, rfl, hprobe, rfl⟩ |
    ⟨supervisorEvent, supervisor, -, -, rfl⟩⟩ := step_cases hstep
  · refine ⟨h.answered, fun sentAt hphase => ?_⟩
    have hnone := (hanswers sentAt hphase).2 duration rfl
    rw [hnone]
    exact h.pending sentAt hphase
  · rcases ProbeTask.runProbe_cases hprobe with
      ⟨-, -, -, rfl⟩ | ⟨asked, sentAt, hphase, ⟨-, rfl⟩ | ⟨rfl, rfl⟩⟩
    · exact ⟨h.answered, fun _ hwalks =>
        (ProbeTask.walk_begun _ _ _ hwalks).symm⟩
    · refine ⟨fun attempt hmem hindex => ?_, by simp⟩
      rcases List.mem_cons.mp hmem with rfl | hmem
      · rfl
      · exact h.answered attempt hmem hindex
    · refine ⟨fun attempt hmem hindex => ?_,
        fun _ hwalks => (ProbeTask.walk_begun _ _ _ hwalks).symm⟩
      rcases List.mem_cons.mp hmem with rfl | hmem
      · have hasked : asked = index := hindex
        subst hasked
        exact absurd rfl (hanswers sentAt hphase).1
      · exact h.answered attempt hmem hindex
  · exact ⟨h.answered, h.pending⟩

theorem Answering.run {outbound : Option String} {index now : Nat}
    {servers : List SocketAddr} {s : SupervisedSession}
    {events : List SessionEvent}
    (halong : Along (SupervisedSession.step outbound) (AnswersAtOnce index)
      (start servers now) events)
    (hrun : exec (SupervisedSession.step outbound) (start servers now) events =
      some s) : s.Answering index := by
  refine exec_invariant (fun _ _ _ h hanswers hstep => h.step hanswers hstep)
    ?_ halong hrun
  constructor <;> simp [start, ProbeTask.start]

theorem Answering.not_tried {index : Nat} {s : SupervisedSession}
    (h : s.Answering index) (tried : Nat) : ¬ s.probe.Tried index tried := by
  rintro ⟨endedAt, hmem⟩
  have hreplied := h.answered _ hmem rfl
  contradiction

theorem Answering.not_timedOut {servers : List SocketAddr} {start index : Nat}
    {s : SupervisedSession} (h : s.Answering index)
    (hobserved : Observed servers start s) (hindex : index < servers.length)
    (hfit : dnsTimeout * servers.length ≤ s.window) : ¬ s.timedOut := by
  intro hover
  have hquiet := hobserved.overdue hover
  rw [← hobserved.servers_eq] at hindex hfit
  obtain ⟨sentAt, hasked, -⟩ := hobserved.onTime.asked hfit hquiet hindex
  rcases hasked with htried | hphase
  · exact h.not_tried sentAt htried
  · have hnow := h.pending sentAt hphase
    have hyoung := hobserved.onTime.answering hfit hphase h.not_tried
    omega

/-! ## Timeouts without evidence -/

def idleEvents : List SessionEvent :=
  [.supervisor .run, .supervisor (.captured none)] ++
    (List.replicate 6 [.probe .tick, .supervisor .livenessTick,
      .elapse livenessPoll]).flatten ++
    [.supervisor .livenessTick]

theorem idle_timedOut :
    ∃ s, exec (step none) (start [] 0) idleEvents = some s ∧ s.timedOut ∧
      s.probe.servers = [] :=
  ⟨final (step none) (start [] 0) idleEvents, exec_final (by decide +kernel),
    ⟨false, by decide +kernel⟩, by decide +kernel⟩

def timeouts : Nat → List Attempt
  | 0 => []
  | k + 1 => ⟨k, dnsTimeout * k, dnsTimeout * (k + 1), false⟩ :: timeouts k

def stalledRound : List SessionEvent :=
  [.supervisor .livenessTick, .elapse dnsTimeout, .probe .error]

def stalledAt (servers : List SocketAddr) (k looks : Nat) :
    SupervisedSession where
  now := dnsTimeout * k
  probe := {
    servers := servers
    tick := ⟨probeInterval⟩
    phase :=
      if k < servers.length then .querying k (dnsTimeout * k) else .ticking
    lastRx := none
    attempts := timeouts k }
  supervisor :=
    .watching { Timers.new 0 with liveness := ⟨livenessPoll * looks⟩ } default 0

theorem stalled_first {servers : List SocketAddr} (hsome : 0 < servers.length)
    (events : List SessionEvent) :
    exec (step none) (start servers 0)
        (.supervisor .run :: .supervisor (.captured none) :: .probe
          .tick :: events) =
      exec (step none) (stalledAt servers 0 0) events := by
  simp [exec, step, start, Supervisor.next, ProbeTask.start, ProbeTask.runProbe,
    Interval.poll, Interval.new, ProbeTask.walk, Timers.new, stalledAt, hsome,
    timeouts]

theorem stalled_look {servers : List SocketAddr} {k : Nat}
    (hearly : dnsTimeout * k ≤ connectTimeout) :
    step none (stalledAt servers k k) (.supervisor .livenessTick) =
      some (stalledAt servers k (k + 1)) := by
  have hdue : livenessPoll * k ≤ dnsTimeout * k :=
    Nat.mul_le_mul_right k (by decide)
  have hwatching : (stalledAt servers k k).supervisor =
      .watching { Timers.new 0 with liveness := ⟨livenessPoll * k⟩ }
        default 0 := rfl
  rw [step_look_healthy hwatching hdue rfl (by rw [Nat.zero_add]; exact hearly)]
  simp only [stalledAt, Nat.mul_succ]

theorem stalled_round {servers : List SocketAddr} {k : Nat}
    (hk : k < servers.length) (hearly : dnsTimeout * k ≤ connectTimeout)
    (events : List SessionEvent) :
    exec (step none) (stalledAt servers k k) (stalledRound ++ events) =
      exec (step none) (stalledAt servers (k + 1) (k + 1)) events := by
  have hphase : (stalledAt servers k (k + 1)).probe.phase =
      .querying k (dnsTimeout * k) := by
    simp [stalledAt, hk]
  have hfails : step none { stalledAt servers k (k + 1) with
      now := (stalledAt servers k (k + 1)).now + dnsTimeout } (.probe .error) =
        some (stalledAt servers (k + 1) (k + 1)) := by
    simp [step, stalledAt, hk, ProbeTask.runProbe, ProbeTask.attempted,
      ProbeTask.walk, timeouts, Nat.mul_succ]
  simp only [stalledRound, List.cons_append, List.nil_append]
  rw [exec_of_step (stalled_look hearly),
    exec_of_step (step_queryTimeout rfl hphase), exec_of_step hfails]

theorem stalled_rounds {servers : List SocketAddr} {rounds k : Nat}
    (hservers : k + rounds ≤ servers.length)
    (hearly : dnsTimeout * (k + rounds) ≤ connectTimeout)
    (events : List SessionEvent) :
    exec (step none) (stalledAt servers k k)
        ((List.replicate rounds stalledRound).flatten ++ events) =
      exec (step none) (stalledAt servers (k + rounds) (k + rounds))
        events := by
  induction rounds generalizing k with
  | zero => rfl
  | succ rounds ih =>
      have hnow : dnsTimeout * k ≤ connectTimeout :=
        Nat.le_trans (Nat.mul_le_mul_left dnsTimeout (by omega)) hearly
      rw [List.replicate_succ, List.flatten_cons, List.append_assoc,
        stalled_round (by omega) hnow]
      have hindex : k + (rounds + 1) = k + 1 + rounds := by omega
      rw [hindex] at hservers hearly ⊢
      exact ih hservers hearly

theorem stalled_last {now index : Nat} {probe : ProbeTask} {timers : Timers}
    {lastNet : NetworkSnapshot} (hphase : probe.phase = .querying index now)
    (hrx : probe.lastRx = none) (hdue : timers.liveness.deadline ≤ now)
    (hnow : now = connectTimeout) :
    exec (step none) ⟨now, probe, .watching timers lastNet 0⟩
        [.supervisor .livenessTick, .elapse dnsTimeout,
          .supervisor .livenessTick] =
      some ⟨now + dnsTimeout, probe,
        .returned (.trigger .handshakeTimeout false)⟩ := by
  have htimeout : 0 < dnsTimeout := by decide
  have hdueAgain : timers.liveness.deadline + livenessPoll ≤ now + dnsTimeout :=
    Nat.add_le_add hdue (by decide)
  have hearly : now ≤ 0 + connectTimeout := by omega
  have hlate : 0 + connectTimeout < now + dnsTimeout := by omega
  have hlook : step none ⟨now, probe, .watching timers lastNet 0⟩
      (.supervisor .livenessTick) =
      some ⟨now, probe, .watching
        { timers with liveness := ⟨timers.liveness.deadline + livenessPoll⟩ }
            lastNet 0⟩ :=
    step_look_healthy rfl hdue hrx hearly
  have hwait : step none ⟨now, probe, .watching
      { timers with liveness := ⟨timers.liveness.deadline + livenessPoll⟩ }
        lastNet 0⟩
        (.elapse dnsTimeout) = some ⟨now + dnsTimeout, probe, .watching
      { timers with liveness := ⟨timers.liveness.deadline + livenessPoll⟩ }
          lastNet 0⟩ :=
    step_queryTimeout rfl hphase
  rw [exec_of_step hlook, exec_of_step hwait,
    exec_of_step (step_look_late rfl hdueAgain hrx hlate), exec_nil]

theorem stalled_timedOut {servers : List SocketAddr}
    (hmany : 6 ≤ servers.length) :
    ∃ events s, exec (step none) (start servers 0) events = some s ∧
      s.timedOut ∧ s.now = connectTimeout + dnsTimeout ∧
      s.window = connectTimeout ∧ s.probe.attempts = timeouts 5 ∧
      s.probe.phase = .querying 5 (dnsTimeout * 5) := by
  have hwindow : dnsTimeout * 5 = connectTimeout := by decide
  have hdue : livenessPoll * 5 ≤ dnsTimeout * 5 := by decide
  have hrun : ∀ events, exec (step none) (start servers 0)
      (.supervisor .run :: .supervisor (.captured none) :: .probe .tick ::
        ((List.replicate 5 stalledRound).flatten ++ events)) =
      exec (step none) (stalledAt servers 5 5) events := by
    intro events
    rw [stalled_first (by omega)]
    exact stalled_rounds (k := 0) (by omega) (by decide) events
  have hphase : (stalledAt servers 5 5).probe.phase =
      .querying 5 (dnsTimeout * 5) := by
    simp only [stalledAt]
    rw [if_pos (by omega)]
  exact ⟨_, _, (hrun _).trans (stalled_last hphase rfl hdue hwindow),
    ⟨false, rfl⟩, congrArg (· + dnsTimeout) hwindow, rfl, rfl, hphase⟩

/-! ## The exact condition -/

theorem walk_fits_iff {n : Nat} : dnsTimeout * n ≤ connectTimeout ↔ n < 6 := by
  have htimeout : dnsTimeout = 3000000000 := dnsTimeout_eq
  have hwindow : connectTimeout = 15000000000 := rfl
  rw [htimeout, hwindow]
  omega

theorem JudgedOnEvidence.ne_nil {servers : List SocketAddr}
    (h : JudgedOnEvidence servers) : servers ≠ [] := by
  rintro rfl
  obtain ⟨s, hrun, hover, hnone⟩ := idle_timedOut
  exact (h.evidence none 0 idleEvents s hrun hover).targets hnone

theorem JudgedOnEvidence.fits {servers : List SocketAddr}
    (h : JudgedOnEvidence servers) :
    dnsTimeout * servers.length ≤ connectTimeout := by
  rw [walk_fits_iff]
  by_contra hmany
  have hsix : 6 ≤ servers.length := by omega
  obtain ⟨events, s, hrun, hover, hnow, hwindow, hattempts, hphase⟩ :=
    stalled_timedOut hsix
  have hservers := (Observed.run hrun).servers_eq
  -- the first server was asked once, at the start, and the window begins after that
  obtain ⟨sentAt, hasked, hyoung, -⟩ :=
    (h.evidence none 0 events s hrun hover).probed 0 (by rw [hservers]; omega)
  rcases hasked with ⟨endedAt, hmem⟩ | hquerying
  · have hsent : ∀ attempt ∈ timeouts 5,
        attempt.index = 0 → attempt.sentAt = 0 := by decide
    rw [hattempts] at hmem
    have hfirst : sentAt = 0 := hsent _ hmem rfl
    rw [hfirst, hnow, hwindow] at hyoung
    have hpositive : 0 < dnsTimeout := by decide
    omega
  · rw [hphase] at hquerying
    cases hquerying

/--
The supervisor judges on evidence exactly when there are servers and all of
them can run into their timeouts within the shortest window: one to five.
-/
theorem judgedOnEvidence_iff (servers : List SocketAddr) :
    JudgedOnEvidence servers ↔
      servers ≠ [] ∧ dnsTimeout * servers.length ≤ connectTimeout := by
  refine ⟨fun h => ⟨h.ne_nil, h.fits⟩, ?_⟩
  rintro ⟨hsome, hfit⟩
  constructor
  · intro outbound now events s hrun hover
    have hwindow := Nat.le_trans hfit (connectTimeout_le_window s)
    exact (Observed.run hrun).evidence hsome hwindow hover
  · intro outbound now events s hrun index hindex halong
    have hwindow := Nat.le_trans hfit (connectTimeout_le_window s)
    exact (Answering.run halong hrun).not_timedOut (Observed.run hrun) hindex
      hwindow

def eightServers : List SocketAddr :=
  (List.range 8).map fun i => ⟨.v4 (Ipv4Addr.new 10 0 0 (.ofNat 8 i)), 53⟩

def sixTimeouts : List SessionEvent :=
  [.supervisor .run, .supervisor (.captured none), .probe .tick] ++
    (List.replicate 6 stalledRound).flatten ++ [.supervisor .livenessTick]

/--
Without servers the tunnel is dead; and with eight, the last of which always
answers.
-/
theorem dead_without_evidence :
    ¬ JudgedOnEvidence [] ∧
      ∃ s, exec (step none) (start eightServers 0) sixTimeouts = some s ∧
        s.timedOut ∧
        Along (step none) (AnswersAtOnce 7) (start eightServers 0)
          sixTimeouts := by
  refine ⟨fun h => h.ne_nil rfl, final (step none)
    (start eightServers 0) sixTimeouts, exec_final (by decide +kernel),
    ⟨false, by decide +kernel⟩, ?_⟩
  have hnever :
      Always (step none) (fun s => ∀ sentAt, s.probe.phase ≠ .querying 7 sentAt)
      (start eightServers 0) sixTimeouts := by
    refine Always.of_check (p := fun s => match s.probe.phase with
      | .querying 7 _ => false
      | _ => true) ?_ (by decide +kernel)
    intro s hs sentAt hphase
    simp [hphase] at hs
  exact hnever.along fun s event hphase sentAt hquerying =>
    absurd hquerying (hphase sentAt)

end SupervisedSession

end Rustylink.Daemon
