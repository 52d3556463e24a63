import Rustylink.Daemon.Effects

/-!
# The HTTP pool and the configured interface

The pool is built when the daemon starts, and rebuilt by the check that ends a
configuration update when the setting differs from `active_outbound`.  Updates
run one after the other here, and every build succeeds; connects, disconnects,
loops and auth calls interleave freely.
-/

namespace Rustylink.Daemon

open Rustylink.Foundation Rustylink.Core

def UpdatePc.beforeCheck : UpdatePc → Bool
  | .persistConfig | .checkOutbound => true
  | _ => false

def stepAlone (s : DaemonState) (a : Action) : Option DaemonState :=
  match a with
  | .beginUpdate _ =>
      if s.updates.all UpdatePc.isReturned then step s a else none
  | .stepUpdate _ built => if built then step s a else none
  | _ => step s a

/-! ## Histories of settings and sessions -/

/-- The run with what its history says of the interface; no step reads it. -/
structure PoolTrace where
  daemon : DaemonState
  before : Option String
  /--
  The interface, or `none` for automatic, of the session that was started
  last, until an attempt fails or the tunnel is down.
  -/
  session : Option (Option String)
  deriving DecidableEq, Repr

def LoopPc.session (setting : Option String)
    (session : Option (Option String)) : LoopPc → Option (Option String)
  | .startSession _ => some setting
  | .attemptFailed _ | .handleDecision .stop | .markDisconnected => none
  | _ => session

namespace PoolTrace

def setting (s : PoolTrace) : Option String :=
  s.daemon.inner.config.outboundInterface

def pool (s : PoolTrace) : Option String := s.daemon.inner.auth.httpPool

def nextBefore (s : PoolTrace) : Action → Option String
  | .beginUpdate _ => s.setting
  | _ => s.before

def nextSession (s : PoolTrace) : Action → Option (Option String)
  | .loop i _ =>
      match s.daemon.loops[i]? with
      | some task => task.pc.session s.setting s.session
      | none => s.session
  | _ => s.session

def step (s : PoolTrace) (a : Action) : Option PoolTrace :=
  (stepAlone s.daemon a).map fun daemon =>
    ⟨daemon, s.nextBefore a, s.nextSession a⟩

def Initial (s : PoolTrace) : Prop :=
  Daemon.Initial s.daemon ∧ s.pool = s.setting ∧ s.session = none

/-- Once every update has returned, the pool is the one for the setting. -/
def Follows (s : PoolTrace) : Prop :=
  (∀ pc ∈ s.daemon.updates, pc.isReturned = true) → s.pool = s.setting

/--
An update that changes the interface meets its check while the session in
progress runs over another one: it does not go back to automatic without a
session over a named interface, nor over to the interface of the session.
-/
def LeavesSession (s : PoolTrace) : Action → Prop
  | .stepUpdate call _ =>
      s.daemon.updates[call]? = some .checkOutbound →
        s.setting ≠ s.before → s.setting ≠ s.session.join
  | _ => True

instance (s : PoolTrace) (a : Action) : Decidable (s.LeavesSession a) :=
  match a with
  | .stepUpdate .. => inferInstanceAs (Decidable (_ → _ → _))
  | .auth .. | .connect _ | .beginDisconnect | .endDisconnect _
  | .beginUpdate _ | .loop .. => .isTrue trivial

end PoolTrace

/-! ## The steps -/

section

variable {s s' : DaemonState}

theorem isReturned_beforeCheck {pc : UpdatePc} (h : pc.isReturned = true) :
    pc.beforeCheck = false := by
  cases pc <;> first | rfl | contradiction

inductive PoolStep (s : DaemonState) (call : Nat) (s' : DaemonState) : Prop
  | before (hcall : s.updates[call]? = some .persistConfig)
      (hupdates : s'.updates = s.updates.set call .checkOutbound)
      (hsame : SameSettings s.inner s'.inner)
  | check {new : UpdatePc} (hcall : s.updates[call]? = some .checkOutbound)
      (hnew : new.beforeCheck = false)
      (hupdates : s'.updates = s.updates.set call new)
      (hconfig : s'.inner.config = s.inner.config)
      (hpool : s'.inner.auth.httpPool =
        if s.inner.config.outboundInterface = s.inner.activeOutbound then
          s.inner.auth.httpPool else s.inner.config.outboundInterface)
  | after {old new : UpdatePc} (hcall : s.updates[call]? = some old)
      (hold : old.isReturned = false) (hbefore : old.beforeCheck = false)
      (hnew : new.beforeCheck = false)
      (hupdates : s'.updates = s.updates.set call new)
      (hsame : SameSettings s.inner s'.inner)

theorem checkOutbound_pool {call : Nat}
    (hcall : s.updates[call]? = some .checkOutbound) :
    PoolStep s call (s.checkOutbound call true) := by
  have hreply : UpdatePc.reply.beforeCheck = false := rfl
  unfold DaemonState.checkOutbound
  split
  · rename_i hsame
    exact .check hcall hreply rfl rfl (if_pos hsame).symm
  · rename_i hchanged
    dsimp only
    split
    · exact .check hcall hreply rfl rfl (if_neg hchanged).symm
    · split
      · exact .check hcall hreply rfl rfl (if_neg hchanged).symm
      · rename_i vpn _ _ request _
        have hcaptured : (UpdatePc.captured request vpn.cancelToken
            s.inner.tunnelTask).beforeCheck = false := rfl
        exact .check hcall hcaptured rfl rfl (if_neg hchanged).symm

theorem stepUpdate_pool {call : Nat}
    (hstep : s.stepUpdate call true = some s') : PoolStep s call s' := by
  unfold DaemonState.stepUpdate at hstep
  split at hstep
  · cases hstep
    exact .before ‹_› rfl ⟨rfl, rfl⟩
  · cases hstep
    exact checkOutbound_pool ‹_›
  · cases hstep
    exact .after ‹_› rfl rfl rfl rfl ⟨rfl, rfl⟩
  · rename_i request task hcall
    split at hstep
    · cases hstep
      have hupdates := congrArg (List.set · call UpdatePc.reply)
        (s.connectTunnel_updates request)
      exact .after hcall rfl rfl rfl hupdates (connectTunnel_settings s request)
    · contradiction
  · cases hstep
    exact .after ‹_› rfl rfl rfl rfl ⟨rfl, rfl⟩
  · contradiction
  · contradiction

theorem stepAlone_beginUpdate {u : Configuration}
    (hstep : stepAlone s (.beginUpdate u) = some s') :
    (∀ pc ∈ s.updates, pc.isReturned = true) ∧ s' = s.beginUpdate u := by
  simp only [stepAlone] at hstep
  split at hstep
  · rename_i hreturned
    cases hstep
    exact ⟨List.all_eq_true.mp hreturned, rfl⟩
  · contradiction

theorem stepAlone_stepUpdate {call : Nat} {built : Bool}
    (hstep : stepAlone s (.stepUpdate call built) = some s') :
    PoolStep s call s' := by
  cases built with
  | true => exact stepUpdate_pool hstep
  | false => contradiction

theorem stepAlone_other {a : Action} (hbegin : ∀ u, a ≠ .beginUpdate u)
    (hupdate : ∀ call built, a ≠ .stepUpdate call built)
    (hstep : stepAlone s a = some s') :
    s'.updates = s.updates ∧
      s'.inner.auth.httpPool = s.inner.auth.httpPool ∧
      s'.inner.config = s.inner.config := by
  have htunnel : ∀ b : Action, b.ofTunnel = true → step s b = some s' →
      s'.updates = s.updates ∧
        s'.inner.auth.httpPool = s.inner.auth.httpPool ∧
        s'.inner.config = s.inner.config := by
    intro b hb hfree
    obtain ⟨hsame, hupdates⟩ := step_ofTunnel hfree hb
    exact ⟨hupdates, congrArg AuthView.httpPool hsame.auth, hsame.config⟩
  cases a with
  | auth state tenantClient =>
      cases hstep
      exact ⟨rfl, rfl, rfl⟩
  | beginUpdate u => exact absurd rfl (hbegin u)
  | stepUpdate call built => exact absurd rfl (hupdate call built)
  | connect request => exact htunnel (.connect request) rfl hstep
  | beginDisconnect => exact htunnel .beginDisconnect rfl hstep
  | endDisconnect call => exact htunnel (.endDisconnect call) rfl hstep
  | loop i event => exact htunnel (.loop i event) rfl hstep

end

/-! ## The session behind `active_outbound` -/

theorem loopNext_outbound {inner inner' : DaemonInner} {isCancelled : Bool}
    {task task' : LoopTask} {event : LoopEvent}
    {session : Option (Option String)}
    (h : loopNext inner isCancelled task event = some (inner', task'))
    (hsession : session.join = inner.activeOutbound) :
    (task.pc.session inner.config.outboundInterface session).join =
      inner'.activeOutbound := by
  cases hpc : task.pc <;> cases event <;>
    simp only [loopNext, hpc, reduceCtorEq, Option.some.injEq,
      Prod.mk.injEq] at h
  case startSession.proceed =>
    obtain ⟨rfl, -⟩ := h
    rfl
  case setConfiguring.proceed | markConnected.proceed =>
    obtain ⟨rfl, -⟩ := h
    simpa [LoopPc.session, DaemonInner.vpnTransition] using hsession
  case attemptFailed.proceed =>
    obtain ⟨rfl, -⟩ := h
    simp [LoopPc.session, DaemonInner.markFailed, DaemonInner.vpnTransition]
  case markDisconnected.proceed =>
    obtain ⟨rfl, -⟩ := h
    simp [LoopPc.session, DaemonInner.markDisconnected]
  case handleDecision.proceed decision =>
    cases decision with
    | stop =>
        obtain ⟨rfl, -⟩ := h
        simp [LoopPc.session, DaemonInner.markFailed,
          DaemonInner.vpnTransition]
    | retry after attempt | switchNode after attempt =>
        obtain ⟨rfl, -⟩ := h
        simpa [LoopPc.session, DaemonInner.vpnTransition] using hsession
  case checkClient.proceed | supervise.outcome | checkCancelled.proceed
      | backoff.cancelled =>
    split at h <;> cases h <;> exact hsession
  all_goals
    obtain ⟨rfl, -⟩ := h
    exact hsession

theorem connectTunnel_outbound (s : DaemonState) (request : VpnRequest) :
    (s.connectTunnel request).1.inner.activeOutbound =
      s.inner.activeOutbound := by
  rw [DaemonState.connectTunnel_fst]
  split
  · unfold DaemonState.spawnLoop DaemonState.withMachine
    split <;> rfl
  · rfl

theorem checkOutbound_outbound (s : DaemonState) (call : Nat) (built : Bool) :
    (s.checkOutbound call built).inner.activeOutbound =
      s.inner.activeOutbound := by
  have hpool : (s.rebuildPool built).inner.activeOutbound =
      s.inner.activeOutbound := by
    cases built <;> rfl
  unfold DaemonState.checkOutbound
  split
  · rfl
  · dsimp only
    split
    · exact hpool
    · split <;> exact hpool

theorem stepUpdate_outbound {s s' : DaemonState} {call : Nat} {built : Bool}
    (hstep : s.stepUpdate call built = some s') :
    s'.inner.activeOutbound = s.inner.activeOutbound := by
  unfold DaemonState.stepUpdate at hstep
  split at hstep
  · cases hstep
    rfl
  · cases hstep
    exact checkOutbound_outbound s call built
  · cases hstep
    rfl
  · split at hstep
    · cases hstep
      exact connectTunnel_outbound s _
    · contradiction
  · cases hstep
    rfl
  · contradiction
  · contradiction

namespace PoolTrace

variable {s s' : PoolTrace}

def TracksSession (s : PoolTrace) : Prop :=
  s.session.join = s.daemon.inner.activeOutbound

theorem TracksSession.step {a : Action} (h : s.TracksSession)
    (hstep : s.step a = some s') : s'.TracksSession := by
  obtain ⟨daemon, hdaemon, rfl⟩ := Option.map_eq_some_iff.mp hstep
  have hkept : daemon.inner.activeOutbound = s.daemon.inner.activeOutbound →
      s.session.join = daemon.inner.activeOutbound :=
    fun hsame => h.trans hsame.symm
  cases a with
  | auth state tenantClient =>
      cases hdaemon
      exact h
  | connect request =>
      cases hdaemon
      exact hkept (connectTunnel_outbound s.daemon request)
  | beginDisconnect =>
      cases hdaemon
      exact hkept (DaemonInner.broadcast_activeOutbound _ _)
  | endDisconnect call =>
      obtain ⟨task, tunnel, -, -, rfl⟩ :=
        DaemonState.endDisconnect_effect hdaemon
      exact hkept (DaemonInner.broadcast_activeOutbound _ _)
  | beginUpdate u =>
      obtain ⟨-, rfl⟩ := stepAlone_beginUpdate hdaemon
      exact h
  | stepUpdate call built =>
      have hupdate : s.daemon.stepUpdate call built = some daemon := by
        cases built with
        | true => exact hdaemon
        | false => contradiction
      exact hkept (stepUpdate_outbound hupdate)
  | loop i event =>
      obtain ⟨task, task', inner', hi, hnext, rfl⟩ :=
        DaemonState.stepLoop_spec hdaemon
      unfold TracksSession nextSession
      simp only [hi]
      exact loopNext_outbound hnext h

/-! ## The invariant -/

def Settled (s : PoolTrace) : Prop :=
  ∀ pc ∈ s.daemon.updates, pc.beforeCheck = false

/--
At most one update runs.  The pool is the configured one once its check is
behind it, and before that the one for the setting it found.
-/
structure Checked (s : PoolTrace) : Prop where
  alone : ∀ (i j : Nat) (p q : UpdatePc), s.daemon.updates[i]? = some p →
    s.daemon.updates[j]? = some q → p.isReturned = false →
    q.isReturned = false → i = j
  current : s.Settled → s.pool = s.setting
  pending : ¬ s.Settled → s.pool = s.before
  tracks : s.TracksSession

structure Stale (s : PoolTrace) : Prop where
  settled : s.Settled
  other : s.pool ≠ s.setting

theorem Settled.of_set {updates : List UpdatePc} {call : Nat}
    {old new : UpdatePc} (hcall : updates[call]? = some old)
    (hold : old.beforeCheck = false)
    (h : ∀ pc ∈ updates.set call new, pc.beforeCheck = false) :
    ∀ pc ∈ updates, pc.beforeCheck = false := by
  intro pc hpc
  by_cases hsame : pc = old
  · exact hsame ▸ hold
  · exact h pc (mem_set_of_ne hcall hpc hsame)

theorem Settled.set {updates : List UpdatePc} {call : Nat} {new : UpdatePc}
    (hnew : new.beforeCheck = false)
    (h : ∀ pc ∈ updates, pc.beforeCheck = false) :
    ∀ pc ∈ updates.set call new, pc.beforeCheck = false := by
  intro pc hpc
  rcases List.mem_or_eq_of_mem_set hpc with hold | rfl
  · exact h pc hold
  · exact hnew

theorem Checked.initial (h : s.Initial) : s.Checked := by
  obtain ⟨⟨auth, config, hdaemon⟩, hpool, hsession⟩ := h
  have hnone : s.daemon.updates = [] := by rw [hdaemon]; rfl
  refine ⟨fun i j p q hi => by simp [hnone] at hi, fun _ => hpool,
    fun hpending => ?_, ?_⟩
  · exact absurd (by simp [Settled, hnone]) hpending
  · unfold TracksSession
    rw [hsession, hdaemon]
    rfl

theorem Checked.follows (h : s.Checked) : s.Follows :=
  fun hreturned => h.current fun pc hpc =>
    isReturned_beforeCheck (hreturned pc hpc)

theorem Checked.alone_set (h : s.Checked) {call : Nat} {old new : UpdatePc}
    (hcall : s.daemon.updates[call]? = some old)
    (hold : old.isReturned = false) (i j : Nat) (p q : UpdatePc)
    (hi : (s.daemon.updates.set call new)[i]? = some p)
    (hj : (s.daemon.updates.set call new)[j]? = some q)
    (hp : p.isReturned = false) (hq : q.isReturned = false) : i = j := by
  rcases (get_set hcall).mp hi with ⟨rfl, -⟩ | ⟨hni, hi'⟩ <;>
    rcases (get_set hcall).mp hj with ⟨rfl, -⟩ | ⟨hnj, hj'⟩
  · rfl
  · exact absurd (h.alone _ _ _ _ hj' hcall hq hold) hnj
  · exact absurd (h.alone _ _ _ _ hi' hcall hp hold) hni
  · exact h.alone _ _ _ _ hi' hj' hp hq

theorem Checked.settled_set (h : s.Checked) {call : Nat} {new : UpdatePc}
    (hcall : s.daemon.updates[call]? = some .checkOutbound)
    (hnew : new.beforeCheck = false)
    (hupdates : s'.daemon.updates = s.daemon.updates.set call new) :
    s'.Settled := by
  unfold Settled
  rw [hupdates]
  intro pc hpc
  obtain ⟨other, hother⟩ := List.mem_iff_getElem?.mp hpc
  rcases (get_set hcall).mp hother with ⟨-, rfl⟩ | ⟨hne, hold⟩
  · exact hnew
  · by_contra hbefore
    apply hne
    apply h.alone _ _ _ _ hold hcall _ rfl
    cases pc <;> first | rfl | exact absurd rfl hbefore

theorem not_settled {call : Nat} {pc : UpdatePc}
    (hcall : s.daemon.updates[call]? = some pc)
    (hbefore : pc.beforeCheck = true) : ¬ s.Settled := by
  intro hsettled
  have hpast := hsettled pc (List.mem_of_getElem? hcall)
  rw [hbefore] at hpast
  contradiction

theorem Checked.begin {u : Configuration} (h : s.Checked)
    (hreturned : ∀ pc ∈ s.daemon.updates, pc.isReturned = true)
    (htracks : TracksSession ⟨s.daemon.beginUpdate u, s.setting, s.session⟩) :
    Checked ⟨s.daemon.beginUpdate u, s.setting, s.session⟩ where
  alone := by
    have hlast : ∀ (i : Nat) (p : UpdatePc),
        (s.daemon.updates ++ [.persistConfig])[i]? = some p →
        p.isReturned = false → i = s.daemon.updates.length := by
      intro i p hi hp
      rcases get_spawn.mp hi with hold | ⟨hlast, -⟩
      · rw [hreturned p (List.mem_of_getElem? hold)] at hp
        contradiction
      · exact hlast
    intro i j p q hi hj hp hq
    exact (hlast i p hi hp).trans (hlast j q hj hq).symm
  current hsettled := by
    have hnew := hsettled .persistConfig (by simp [DaemonState.beginUpdate])
    contradiction
  pending _ := h.follows hreturned
  tracks := htracks

theorem Checked.rebuilt {call : Nat} {built : Bool} (h : s.Checked)
    (hcall : s.daemon.updates[call]? = some .checkOutbound) :
    (if s.setting = s.daemon.inner.activeOutbound then s.pool
      else s.setting) = s.setting ↔
      s.LeavesSession (.stepUpdate call built) := by
  have hbefore := h.pending (not_settled hcall rfl)
  have htracks : s.session.join = s.daemon.inner.activeOutbound := h.tracks
  unfold LeavesSession
  rw [htracks, hbefore]
  split
  · rename_i hsame
    constructor
    · intro hkept _ hchanged
      exact absurd hkept.symm hchanged
    · intro hok
      by_contra hchanged
      exact hok hcall (Ne.symm hchanged) hsame
  · rename_i hother
    exact iff_of_true rfl fun _ _ => hother

theorem Checked.stepUpdate {call : Nat} {built : Bool} (h : s.Checked)
    (hok : s.LeavesSession (.stepUpdate call built)) {daemon : DaemonState}
    (htracks : TracksSession ⟨daemon, s.before, s.session⟩)
    (hstep : PoolStep s.daemon call daemon) :
    Checked ⟨daemon, s.before, s.session⟩ := by
  cases hstep with
  | before hcall hupdates hsame =>
      refine ⟨by rw [hupdates]; exact h.alone_set hcall rfl,
        fun hsettled => ?_, fun _ => ?_, htracks⟩
      · have hnew := hsettled .checkOutbound
          (hupdates ▸ List.mem_of_getElem? (get_set_self hcall))
        contradiction
      · unfold pool
        rw [hsame.auth]
        exact h.pending (not_settled hcall rfl)
  | check hcall hnew hupdates hconfig hpool =>
      refine ⟨by rw [hupdates]; exact h.alone_set hcall rfl, fun _ => ?_,
        fun hpending => ?_, htracks⟩
      · unfold pool setting
        rw [hpool, hconfig]
        exact (h.rebuilt hcall).mpr hok
      · exact absurd (h.settled_set hcall hnew hupdates) hpending
  | after hcall hold hbefore hnew hupdates hsame =>
      have hsettled : Settled ⟨daemon, s.before, s.session⟩ ↔ s.Settled := by
        unfold Settled
        rw [hupdates]
        exact ⟨Settled.of_set hcall hbefore, Settled.set hnew⟩
      refine ⟨by rw [hupdates]; exact h.alone_set hcall hold,
        fun hnow => ?_, fun hnow => ?_, htracks⟩
      · unfold pool setting
        rw [hsame.auth, hsame.config]
        exact h.current (hsettled.mp hnow)
      · unfold pool
        rw [hsame.auth]
        exact h.pending (mt hsettled.mpr hnow)

theorem Checked.frame (h : s.Checked) {daemon : DaemonState}
    {session : Option (Option String)}
    (htracks : TracksSession ⟨daemon, s.before, session⟩)
    (hupdates : daemon.updates = s.daemon.updates)
    (hpool : daemon.inner.auth.httpPool = s.daemon.inner.auth.httpPool)
    (hconfig : daemon.inner.config = s.daemon.inner.config) :
    Checked ⟨daemon, s.before, session⟩ := by
  have hsettled : Settled ⟨daemon, s.before, session⟩ ↔ s.Settled := by
    unfold Settled
    rw [hupdates]
  refine ⟨by rw [hupdates]; exact h.alone, fun hnow => ?_, fun hnow => ?_,
    htracks⟩
  · unfold pool setting
    rw [hpool, hconfig]
    exact h.current (hsettled.mp hnow)
  · unfold pool
    rw [hpool]
    exact h.pending (mt hsettled.mpr hnow)

theorem Checked.step {a : Action} (h : s.Checked) (hok : s.LeavesSession a)
    (hstep : s.step a = some s') : s'.Checked := by
  have htracks := h.tracks.step hstep
  obtain ⟨daemon, hdaemon, rfl⟩ := Option.map_eq_some_iff.mp hstep
  cases a with
  | beginUpdate u =>
      obtain ⟨hreturned, rfl⟩ := stepAlone_beginUpdate hdaemon
      exact h.begin hreturned htracks
  | stepUpdate call built =>
      exact h.stepUpdate hok htracks (stepAlone_stepUpdate hdaemon)
  | _ =>
      obtain ⟨hupdates, hpool, hconfig⟩ :=
        stepAlone_other (by simp) (by simp) hdaemon
      exact h.frame htracks hupdates hpool hconfig

/-! ## Where it breaks -/

theorem Checked.breaks {a : Action} (h : s.Checked)
    (hno : ¬ s.LeavesSession a) (hstep : s.step a = some s') : s'.Stale := by
  obtain ⟨daemon, hdaemon, rfl⟩ := Option.map_eq_some_iff.mp hstep
  cases a with
  | stepUpdate call built =>
      have hcall : s.daemon.updates[call]? = some .checkOutbound := by
        by_contra hother
        exact hno fun hcheck => absurd hcheck hother
      cases stepAlone_stepUpdate hdaemon with
      | before hbefore =>
          rw [hcall] at hbefore
          cases hbefore
      | check _ hnew hupdates hconfig hpool =>
          refine ⟨h.settled_set hcall hnew hupdates, ?_⟩
          unfold pool setting
          rw [hpool, hconfig]
          exact mt (h.rebuilt hcall).mp hno
      | after hafter _ hbefore =>
          rw [hcall] at hafter
          cases hafter
          contradiction
  | _ => exact absurd trivial hno

theorem Stale.lasts {a : Action} (h : s.Stale) (hfollows : s.Follows)
    (hstep : s.step a = some s') : s'.Stale := by
  obtain ⟨daemon, hdaemon, rfl⟩ := Option.map_eq_some_iff.mp hstep
  obtain ⟨hsettled, hother⟩ := h
  unfold pool setting at hother
  cases a with
  | beginUpdate u =>
      obtain ⟨hreturned, -⟩ := stepAlone_beginUpdate hdaemon
      exact absurd (hfollows hreturned) hother
  | stepUpdate call built =>
      cases stepAlone_stepUpdate hdaemon with
      | before hcall | check hcall =>
          exact absurd hsettled (not_settled hcall rfl)
      | after hcall _ _ hnew hupdates hsame =>
          constructor
          · unfold Settled
            rw [hupdates]
            exact Settled.set hnew hsettled
          · unfold pool setting
            rw [hsame.auth, hsame.config]
            exact hother
  | _ =>
      obtain ⟨hupdates, hpool, hconfig⟩ :=
        stepAlone_other (by simp) (by simp) hdaemon
      constructor
      · unfold Settled
        rw [hupdates]
        exact hsettled
      · unfold pool setting
        rw [hpool, hconfig]
        exact hother

/-! ## The run -/

/--
Whenever no update is in progress the pool is the one for the configured
interface, in every run in which no update changes the setting to what the
session in progress runs over; and in a run that ends with every update
returned, only then.
-/
theorem pool_follows {t : PoolTrace} {as : List Action} (hinit : s.Initial)
    (hrun : exec step s as = some t) :
    (Along step LeavesSession s as → Always step Follows s as) ∧
      ((∀ pc ∈ t.daemon.updates, pc.isReturned = true) →
        Always step Follows s as → Along step LeavesSession s as) := by
  constructor
  · exact .of_invariant (fun _ _ _ h hok hstep => Checked.step h hok hstep)
      (fun _ h => h.follows) (.initial hinit)
  · intro hreturned
    apply along_of_always (fun _ _ _ h hok hstep => Checked.step h hok hstep)
      (fun _ _ _ h hno hstep => Checked.breaks h hno hstep)
      (fun _ _ _ h hfollows hstep => Stale.lasts h hfollows hstep)
      (.initial hinit) hrun
    exact fun hstale => hstale.1.other (hstale.2 hreturned)

def newDaemon : PoolTrace := ⟨readyDaemon, none, none⟩

def selectEth0 : List Action :=
  [.beginUpdate (selectOutbound "eth0"), .stepUpdate 0 true,
    .stepUpdate 0 true, .stepUpdate 0 true]

def moveToEth1 : List Action :=
  selectEth0 ++ [.connect .default, .loop 0 .proceed, .loop 0 .proceed,
    .loop 0 .proceed, .loop 0 .proceed, .loop 0 (.configFetched
      ⟨some 7, some "lab", none, "192.0.2.7:51820", "10.8.0.2"⟩),
    .loop 0 .proceed, .loop 0 .proceed, .beginUpdate (selectOutbound "eth1"),
    .stepUpdate 1 true, .stepUpdate 1 true, .stepUpdate 1 true]

theorem pool_follows_eth1 :
    Always step Follows newDaemon moveToEth1 := by
  refine (pool_follows ⟨⟨_, _, rfl⟩, rfl, rfl⟩
    (exec_final (by decide +kernel))).1 ?_
  decide +kernel

def backToAutomatic : List Action :=
  [.beginUpdate { Configuration.empty with outboundInterface := some .auto },
    .stepUpdate 1 true, .stepUpdate 1 true, .stepUpdate 1 true]

theorem backToAutomatic_keeps_pool :
    ¬ ∀ (s t : PoolTrace) (as : List Action), s.Initial →
      exec step s as = some t → Always step Follows s as := by
  intro h
  have hrun : exec step newDaemon (selectEth0 ++ backToAutomatic) =
      some (final step newDaemon (selectEth0 ++ backToAutomatic)) :=
    exec_final (by decide +kernel)
  have hfollows := (h newDaemon _ _ ⟨⟨_, _, rfl⟩, rfl, rfl⟩ hrun).last hrun
  have hpool := hfollows (by decide +kernel)
  revert hpool
  decide +kernel

end PoolTrace

end Rustylink.Daemon
