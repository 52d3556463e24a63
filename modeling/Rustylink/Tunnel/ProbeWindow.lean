import Rustylink.Tunnel.Probe

/-!
# How old an attempt can be

A walk of the probe over `n` servers takes at most `n` timeouts, and the next
one starts when it has ended or one interval after its start.  So every server
was asked not longer than `n` timeouts ago, unless the last reply is as young.
-/

namespace Rustylink.Tunnel.ProbeTask

open Rustylink.Foundation

variable {start now later : Nat} {probe next : ProbeTask}

def Tried (probe : ProbeTask) (index : Nat) (sentAt : Nat) : Prop :=
  ∃ endedAt, ⟨index, sentAt, endedAt, false⟩ ∈ probe.attempts

def quietSince (start : Nat) (probe : ProbeTask) : Nat :=
  probe.lastRx.getD start

def Waits (start now : Nat) (probe : ProbeTask) : Prop :=
  max now probe.tick.deadline ≤ probe.quietSince start + probeInterval ∨
    ∀ index < probe.servers.length, ∃ sentAt, probe.Tried index sentAt ∧
      max now probe.tick.deadline ≤ sentAt + dnsTimeout *
        (probe.servers.length - index)

/--
In a walk: the servers before this one were tried in it, the others in the
walk before, unless that was the first one since the last reply.
-/
structure Asks (start : Nat) (probe : ProbeTask) (now : Nat) (index : Nat)
    (sentAt : Nat) : Prop where
  listed : index < probe.servers.length
  begun : sentAt ≤ now
  inTime : now ≤ sentAt + dnsTimeout
  nextTick : probe.tick.deadline ≤ sentAt + probeInterval
  before : ∀ earlier < index, ∃ tried, probe.Tried earlier tried ∧
    sentAt ≤ tried + dnsTimeout * (index - earlier) ∧
    probe.tick.deadline ≤ tried + probeInterval
  after : ∀ other, index ≤ other → other < probe.servers.length →
    sentAt ≤ probe.quietSince start + dnsTimeout * (index + 1) ∨
      ∃ tried, probe.Tried other tried ∧
        sentAt ≤ tried + dnsTimeout * (probe.servers.length + index - other)

def OnTime (start now : Nat) (probe : ProbeTask) : Prop :=
  match probe.phase with
  | .ticking => probe.Waits start now
  | .querying index sentAt => probe.Asks start now index sentAt

theorem OnTime.waits (h : probe.OnTime start now)
    (hphase : probe.phase = .ticking) :
    probe.Waits start now := by
  unfold OnTime at h
  rw [hphase] at h
  exact h

theorem OnTime.asks {index : Nat} {sentAt : Nat} (h : probe.OnTime start now)
    (hphase : probe.phase = .querying index sentAt) :
    probe.Asks start now index sentAt := by
  unfold OnTime at h
  rw [hphase] at h
  exact h

theorem Tried.attempted {index other : Nat} {sentAt tried : Nat}
    {replied : Bool} (h : probe.Tried other tried) :
    (probe.attempted index sentAt now replied).Tried other tried := by
  obtain ⟨endedAt, hmem⟩ := h
  exact ⟨endedAt, List.mem_cons_of_mem _ hmem⟩

theorem tried_attempted (probe : ProbeTask) (index : Nat) (sentAt now : Nat) :
    (probe.attempted index sentAt now false).Tried index sentAt :=
  ⟨now, List.mem_cons_self ..⟩

theorem start_onTime (servers : List SocketAddr) (now : Nat) :
    (ProbeTask.start servers now).OnTime now now := by
  refine .inl ?_
  show max now now ≤ now + probeInterval
  omega

theorem OnTime.elapse (h : probe.OnTime start now) (hle : now ≤ later)
    (htimer : later ≤ probe.timer) : probe.OnTime start later := by
  unfold OnTime timer at *
  cases hphase : probe.phase with
  | ticking =>
      simp only [hphase] at h htimer ⊢
      unfold Waits at *
      rw [Nat.max_eq_right htimer]
      rw [Nat.max_eq_right (Nat.le_trans hle htimer)] at h
      exact h
  | querying index sentAt =>
      simp only [hphase] at h htimer ⊢
      exact { h with begun := Nat.le_trans h.begun hle, inTime := htimer }

theorem OnTime.tick (h : probe.Waits start now)
    (hdue : probe.tick.deadline ≤ now) :
    ({ probe with tick := ⟨probe.tick.deadline + probeInterval⟩ }.walk now
      0).OnTime start now := by
  unfold Waits at h
  rw [Nat.max_eq_left hdue] at h
  unfold OnTime walk
  by_cases hsome : 0 < probe.servers.length
  · simp only [hsome, if_true]
    refine ⟨hsome, Nat.le_refl now, Nat.le_add_right .., ?_, ?_, ?_⟩
    · exact Nat.add_le_add_right hdue probeInterval
    · intro earlier hnone
      omega
    · intro other _ hother
      rcases h with hquiet | htried
      · refine .inl ?_
        show now ≤ probe.quietSince start + dnsTimeout * (0 + 1)
        simpa [probeInterval_eq, dnsTimeout_eq] using hquiet
      · exact .inr (htried other hother)
  · simp only [hsome, if_false]
    exact .inr fun index hindex => absurd (Nat.zero_lt_of_lt hindex) hsome

theorem OnTime.reply {index : Nat} {sentAt : Nat}
    (h : probe.Asks start now index sentAt) :
    OnTime start now { probe.attempted index sentAt now true with
      phase := .ticking, lastRx := some now } := by
  refine .inl ?_
  have hnext := h.nextTick
  have hbegun := h.begun
  show max now probe.tick.deadline ≤ now + probeInterval
  omega

theorem OnTime.error {index : Nat} {sentAt : Nat}
    (h : probe.Asks start now index sentAt) :
    ((probe.attempted index sentAt now false).walk now (index + 1)).OnTime
      start now := by
  have hbegun := h.begun
  have hinTime := h.inTime
  have hnextTick := h.nextTick
  have htried := tried_attempted probe index sentAt now
  have hbefore : ∀ earlier < index + 1, ∃ tried,
      (probe.attempted index sentAt now false).Tried earlier tried ∧
        now ≤ tried + dnsTimeout * (index + 1 - earlier) ∧
        probe.tick.deadline ≤ tried + probeInterval := by
    intro earlier hearlier
    by_cases hthis : earlier = index
    · subst hthis
      exact ⟨sentAt, htried, by simpa using hinTime, hnextTick⟩
    · obtain ⟨tried, hold, hage, hdeadline⟩ := h.before earlier (by omega)
      refine ⟨tried, hold.attempted, ?_, hdeadline⟩
      simp only [dnsTimeout_eq] at hinTime hage ⊢
      omega
  unfold OnTime walk
  by_cases hmore : index + 1 < probe.servers.length
  · have hlisted : index + 1 <
        (probe.attempted index sentAt now false).servers.length := hmore
    simp only [hlisted, if_true]
    refine ⟨hmore, Nat.le_refl now, Nat.le_add_right .., ?_, hbefore, ?_⟩
    · show probe.tick.deadline ≤ now + probeInterval
      omega
    · intro other hother (hlast : other < probe.servers.length)
      rcases h.after other (by omega) hlast with hquiet | ⟨tried, hold, hage⟩
      · refine .inl ?_
        show now ≤ probe.quietSince start + dnsTimeout * (index + 1 + 1)
        rw [Nat.mul_succ, ← Nat.add_assoc]
        exact Nat.le_trans hinTime (Nat.add_le_add_right hquiet dnsTimeout)
      · refine .inr ⟨tried, hold.attempted, ?_⟩
        show now ≤ tried + dnsTimeout *
            (probe.servers.length + (index + 1) - other)
        simp only [dnsTimeout_eq] at hinTime hage ⊢
        omega
  · have hover : ¬ index + 1 <
        (probe.attempted index sentAt now false).servers.length := hmore
    simp only [hover, if_false]
    have hlength : probe.servers.length = index + 1 := by
      have hlisted := h.listed
      omega
    refine .inr fun other hother => ?_
    have hother : other < index + 1 := hlength ▸ hother
    obtain ⟨tried, hold, hage, hdeadline⟩ := hbefore other hother
    refine ⟨tried, hold, ?_⟩
    show max now probe.tick.deadline ≤
        tried + dnsTimeout * (probe.servers.length - other)
    rw [hlength]
    have hinterval := probeInterval_eq
    simp only [dnsTimeout_eq] at hage ⊢
    omega

theorem OnTime.step {event : ProbeEvent} (h : probe.OnTime start now)
    (hstep : probe.runProbe now event = some next) : next.OnTime start now := by
  rcases runProbe_cases hstep with
    ⟨-, hphase, hdue, rfl⟩ | ⟨index, sentAt, hphase, ⟨-, rfl⟩ | ⟨-, rfl⟩⟩
  · exact .tick (h.waits hphase) hdue
  · exact .reply (h.asks hphase)
  · exact .error (h.asks hphase)

def Asked (probe : ProbeTask) (index sentAt : Nat) : Prop :=
  probe.Tried index sentAt ∨ probe.phase = .querying index sentAt

/--
In a window of `n` timeouts without a reply, every server was at least asked.
-/
theorem OnTime.asked {window : Nat} (h : probe.OnTime start now)
    (hfit : dnsTimeout * probe.servers.length ≤ window)
    (hquiet : probe.quietSince start + window < now) {index : Nat}
    (hindex : index < probe.servers.length) :
    ∃ sentAt, probe.Asked index sentAt ∧ now ≤ sentAt + window := by
  cases hphase : probe.phase with
  | ticking =>
      rcases h.waits hphase with hyoung | htried
      · have hinterval := probeInterval_eq
        simp only [dnsTimeout_eq] at hfit
        omega
      · obtain ⟨sentAt, hsent, hage⟩ := htried index hindex
        refine ⟨sentAt, .inl hsent, ?_⟩
        simp only [dnsTimeout_eq] at hfit hage
        omega
  | querying current sentAt =>
      have hasks := h.asks hphase
      have hlisted := hasks.listed
      have hinTime := hasks.inTime
      rcases Nat.lt_trichotomy index current with hearlier | hthis | hlater
      · obtain ⟨tried, hsent, hage, -⟩ := hasks.before index hearlier
        refine ⟨tried, .inl hsent, ?_⟩
        simp only [dnsTimeout_eq] at hfit hinTime hage
        omega
      · subst hthis
        refine ⟨sentAt, .inr hphase, ?_⟩
        simp only [dnsTimeout_eq] at hfit hinTime
        omega
      · rcases hasks.after index (by omega) hindex with
          hyoung | ⟨tried, hsent, hage⟩
        · simp only [dnsTimeout_eq] at hfit hinTime hyoung
          omega
        · refine ⟨tried, .inl hsent, ?_⟩
          simp only [dnsTimeout_eq] at hfit hinTime hage
          omega

/-- A server that has never failed is asked before the window is over. -/
theorem OnTime.answering {window index sentAt : Nat}
    (h : probe.OnTime start now)
    (hfit : dnsTimeout * probe.servers.length ≤ window)
    (hphase : probe.phase = .querying index sentAt)
    (hnever : ∀ tried, ¬ probe.Tried index tried) :
    sentAt ≤ probe.quietSince start + window := by
  have hasks := h.asks hphase
  rcases hasks.after index (Nat.le_refl index) hasks.listed with
    hyoung | ⟨tried, htried, -⟩
  · have hlisted : dnsTimeout * (index + 1) ≤
        dnsTimeout * probe.servers.length :=
      Nat.mul_le_mul_left dnsTimeout hasks.listed
    omega
  · exact absurd htried (hnever tried)

end Rustylink.Tunnel.ProbeTask
