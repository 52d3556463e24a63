import Rustylink.Daemon.AuthCalls

/-!
# Login flows and their completion

A completion authenticates whatever the machine has gone through since the flow
was started.  It completes the flow that is still pending, in its awaiting
state, as long as nothing else moves the machine while a flow can complete.
-/

namespace Rustylink.Daemon

open Rustylink.Foundation Rustylink.Core Rustylink.Api

namespace AuthDaemon

def PollsOnly (token : String) (s : AuthDaemon) : Prop :=
  ∀ (call : Nat) (pc : AuthCallPc) (other : String),
    s.calls[call]? = some pc → pc.pollToken = some other → other = token

def NoPoll (s : AuthDaemon) : Prop :=
  ∀ (call : Nat) (pc : AuthCallPc), s.calls[call]? = some pc →
    pc.pollToken = none

variable (isUrl : String → Bool)

/--
A completion that authenticates finds its own flow pending, and the machine in
the state that awaits it.
-/
def CompletesPending (s : AuthDaemon) : AuthAction → Prop
  | .op (.completeOauth code state server) => ∀ reply data,
      AuthOp.callbackReply s.auth code state server = some reply →
      s.auth.answered isUrl reply = some data →
        s.auth.state = .awaitingOauth ∧
          ∃ pending, s.auth.oauthPending = some pending ∧
            state = pending.oauthState
  | .completeDeviceLogin call => ∀ token, s.calls[call]? =
        some (.completing token) →
      s.auth.state = .awaitingDeviceLogin ∧
        ∃ pending, s.auth.deviceLoginPending = some pending ∧
          pending.pollToken = token
  | _ => True

/--
While an OAuth flow is pending nothing else enters another state, and while a
device login may complete nothing replaces or ends it; a callback that is
answered carries the state of the pending flow.
-/
def Undisturbed (s : AuthDaemon) : AuthAction → Prop
  | .op (.startOauth aliasKey pkceVerifier server) =>
      (AuthOp.startOauth aliasKey pkceVerifier server).takesEffect isUrl
        s.auth = true →
        s.auth.deviceLoginPending = none
  | .op (.startDeviceLogin aliasKey server) => ∀ providers pending,
      s.auth.answered isUrl (server "/api/tpslogin/link") = some providers →
      deviceFlow aliasKey providers = .ok pending →
        s.auth.oauthPending = none ∧ s.PollsOnly pending.pollToken
  | .op (.completeOauth code state server) => ∀ reply data pending,
      AuthOp.callbackReply s.auth code state server = some reply →
      s.auth.answered isUrl reply = some data →
        s.auth.oauthPending = some pending →
        state = pending.oauthState
  | .op (.logout _) => s.NoPoll
  | .op op => op.settles = true → op.takesEffect isUrl s.auth = true →
        s.auth.NoFlow
  | .completeDeviceLogin call =>
      ∀ (other : Nat) (pc : AuthCallPc) (token : String),
      s.calls[other]? = some pc → pc.pollToken = some token → other = call
  | _ => True

/-! ## The invariant -/

structure FlowsHeld (s : AuthDaemon) : Prop where
  oauth : s.auth.oauthPending.isSome = true → s.auth.state = .awaitingOauth
  device : s.auth.deviceLoginPending.isSome = true →
    s.auth.state = .awaitingDeviceLogin
  polls : ∀ (call : Nat) (pc : AuthCallPc) (token : String),
    s.calls[call]? = some pc → pc.pollToken = some token →
      ∃ pending, s.auth.deviceLoginPending = some pending ∧
        pending.pollToken = token

variable {isUrl} {s s' : AuthDaemon}

theorem FlowsHeld.initial (h : s.Initial) : FlowsHeld s := by
  obtain ⟨hauth, hcalls⟩ := h
  constructor
  · intro hpending
    rcases hauth with ⟨deviceId, hnew⟩ | ⟨creds, deviceId, -, hrestored⟩
    · simp [hnew, AuthCoordinator.new] at hpending
    · simp [hrestored, AuthCoordinator.restoreFromCredentials] at hpending
  · intro hpending
    rcases hauth with ⟨deviceId, hnew⟩ | ⟨creds, deviceId, -, hrestored⟩
    · simp [hnew, AuthCoordinator.new] at hpending
    · simp [hrestored, AuthCoordinator.restoreFromCredentials] at hpending
  · intro call pc token hcall
    simp [hcalls] at hcall

theorem FlowsHeld.noPoll (h : FlowsHeld s)
    (hnone : s.auth.deviceLoginPending = none) :
    s.NoPoll := by
  intro call pc hcall
  cases htoken : pc.pollToken with
  | none => rfl
  | some token =>
      obtain ⟨pending, hpending, -⟩ := h.polls call pc token hcall htoken
      rw [hnone] at hpending
      contradiction

theorem FlowsHeld.of_noFlow (hflow : s.auth.NoFlow) (hpoll : s.NoPoll) :
    FlowsHeld s := by
  obtain ⟨hoauth, hdevice⟩ := hflow
  refine ⟨by simp [hoauth], by simp [hdevice],
    fun call pc token hcall htoken => ?_⟩
  rw [hpoll call pc hcall] at htoken
  contradiction

theorem FlowsHeld.frame (h : FlowsHeld s)
    (hstate : s'.auth.state = s.auth.state)
    (hoauth : s'.auth.oauthPending = s.auth.oauthPending)
    (hdevice : s'.auth.deviceLoginPending = s.auth.deviceLoginPending)
    (hcalls : ∀ (call : Nat) (pc : AuthCallPc) (token : String),
      s'.calls[call]? = some pc → pc.pollToken = some token →
        ∃ (old : Nat) (opc : AuthCallPc),
          s.calls[old]? = some opc ∧ opc.pollToken = some token) :
    FlowsHeld s' := by
  refine ⟨?_, ?_, fun call pc token hcall htoken => ?_⟩
  · rw [hoauth, hstate]
    exact h.oauth
  · rw [hdevice, hstate]
    exact h.device
  · obtain ⟨old, opc, hold, hsame⟩ := hcalls call pc token hcall htoken
    rw [hdevice]
    exact h.polls old opc token hold hsame

theorem FlowsHeld.device_of_callback {code state : String}
    {server : OAuthCallbackRequest → Reply LoginResult}
    {reply : Reply LoginResult} (h : FlowsHeld s)
    (hreply : AuthOp.callbackReply s.auth code state server = some reply) :
    s.auth.deviceLoginPending = none := by
  have hstate := h.oauth (AuthOp.callbackReply_isSome hreply)
  cases hdevice : s.auth.deviceLoginPending with
  | none => rfl
  | some pending =>
      have hother := h.device (by rw [hdevice]; rfl)
      rw [hstate] at hother
      contradiction

theorem OpEffect.polls {op : AuthOp} (h : OpEffect isUrl s op s') {call : Nat}
    {pc : AuthCallPc} {token : String} (hcall : s'.calls[call]? = some pc)
    (htoken : pc.pollToken = some token) : s.calls[call]? = some pc := by
  rcases h.calls with hsame | hspawn
  · rw [← hsame]
    exact hcall
  · rw [hspawn] at hcall
    rcases get_spawn.mp hcall with hold | ⟨-, rfl⟩
    · exact hold
    · contradiction

theorem OpEffect.noPoll {op : AuthOp} (h : OpEffect isUrl s op s')
    (hpoll : s.NoPoll) :
    s'.NoPoll := by
  intro call pc hcall
  cases htoken : pc.pollToken with
  | none => rfl
  | some token =>
      rw [hpoll call pc (h.polls hcall htoken)] at htoken
      contradiction

theorem undisturbed_of_settles {op : AuthOp}
    (hok : Undisturbed isUrl s (.op op)) (hsettles : op.settles = true)
    (heffect : op.takesEffect isUrl s.auth = true) :
    s.auth.NoFlow := by
  cases op <;> first | contradiction | exact hok hsettles heffect

/-! ## The steps -/

theorem FlowsHeld.op {op : AuthOp} (h : FlowsHeld s)
    (hok : Undisturbed isUrl s (.op op)) (heffect : OpEffect isUrl s op s') :
    FlowsHeld s' := by
  obtain ⟨f, hperform, hmove⟩ := AuthOp.perform_moves isUrl s.auth op
  have hauth : s'.auth = f (s.auth.absorb (op.setCookies isUrl s.auth)) := by
    rw [heffect.auth]
    exact hperform
  have hold : ∀ (call : Nat) (pc : AuthCallPc) (token : String),
      s'.calls[call]? = some pc → pc.pollToken = some token →
        ∃ (old : Nat) (opc : AuthCallPc),
          s.calls[old]? = some opc ∧ opc.pollToken = some token :=
    fun call pc token hcall htoken =>
      ⟨call, pc, heffect.polls hcall htoken, htoken⟩
  cases hmove with
  | quiet | detectV1 | setTotp =>
      exact h.frame (by rw [hauth]; rfl) (by rw [hauth]; rfl)
        (by rw [hauth]; rfl) hold
  | @activate code baseUrl backupUrl server data hbody =>
      have hflow := undisturbed_of_settles hok rfl
        (by simp [AuthOp.takesEffect, hbody, Except.toOption])
      refine .of_noFlow ?_ (heffect.noPoll (h.noPoll hflow.2))
      rw [hauth]
      cases data <;> exact hflow
  | enter hreply hanswer =>
      have hflow := undisturbed_of_settles hok (AuthOp.settles_of_login hreply)
        (AuthOp.takesEffect_of_answered hreply hanswer)
      refine .of_noFlow ?_ (heffect.noPoll (h.noPoll hflow.2))
      rw [hauth]
      exact hflow
  | restore htenant =>
      have hflow := undisturbed_of_settles hok rfl htenant
      refine .of_noFlow ?_ (heffect.noPoll (h.noPoll hflow.2))
      rw [hauth, AuthCoordinator.restoreSession_of_tenant
        (by simpa using htenant)]
      exact hflow
  | startOauth hanswer hflow =>
      have hdevice :=
        hok (by simp [AuthOp.takesEffect, hanswer, hflow, Except.toOption])
      have hpoll := heffect.noPoll (h.noPoll hdevice)
      refine ⟨by simp [hauth], by simp [hauth, hdevice],
        fun call pc token hcall htoken => ?_⟩
      rw [hpoll call pc hcall] at htoken
      contradiction
  | dropOauth hreply =>
      have hflow := h.device_of_callback hreply
      refine .of_noFlow ?_ (heffect.noPoll (h.noPoll hflow))
      rw [hauth]
      exact ⟨rfl, hflow⟩
  | completeOauth hreply =>
      have hflow := h.device_of_callback hreply
      refine .of_noFlow ?_ (heffect.noPoll (h.noPoll hflow))
      rw [hauth]
      exact ⟨rfl, hflow⟩
  | @startDeviceLogin aliasKey server providers pending hanswer hflow =>
      obtain ⟨hoauth, hpolls⟩ := hok providers pending hanswer hflow
      refine ⟨by simp [hauth, hoauth], by simp [hauth],
        fun call pc token hcall htoken => ?_⟩
      rw [hauth]
      exact ⟨pending, rfl,
        (hpolls call pc token (heffect.polls hcall htoken) htoken).symm⟩
  | completeDeviceLogin => exact absurd heffect.handler (by decide)
  | logout =>
      refine .of_noFlow ?_ (heffect.noPoll hok)
      rw [hauth]
      exact ⟨rfl, rfl⟩

theorem FlowsHeld.goto {call : Nat} {pc next : AuthCallPc} (h : FlowsHeld s)
    (hcall : s.calls[call]? = some pc)
    (hnext : ∀ token, next.pollToken = some token → pc.pollToken = some token) :
    FlowsHeld (s.goto call next) := by
  refine h.frame rfl rfl rfl fun other opc token hother htoken => ?_
  rcases (get_set hcall).mp hother with ⟨-, rfl⟩ | ⟨-, hsame⟩
  · exact ⟨call, pc, hcall, hnext token htoken⟩
  · exact ⟨other, opc, hsame, htoken⟩

theorem FlowsHeld.absorb (h : FlowsHeld s) (setCookies : Cookies) :
    FlowsHeld (s.absorb setCookies) :=
  h.frame rfl rfl rfl fun call pc _ hcall htoken => ⟨call, pc, hcall, htoken⟩

theorem FlowsHeld.spawn {pc : AuthCallPc} (h : FlowsHeld s)
    (hpc : ∀ token, pc.pollToken = some token →
      ∃ pending, s.auth.deviceLoginPending = some pending ∧
        pending.pollToken = token) :
    FlowsHeld (s.spawn pc) := by
  refine ⟨h.oauth, h.device, fun call other token hcall htoken => ?_⟩
  rcases get_spawn.mp hcall with hold | ⟨-, rfl⟩
  · exact h.polls call other token hold htoken
  · exact hpc token htoken

theorem FlowsHeld.completeDeviceLogin {call : Nat} {token : String}
    (h : FlowsHeld s) (hcall : s.calls[call]? = some (.completing token))
    (honly : ∀ (other : Nat) (pc : AuthCallPc) (token : String),
      s.calls[other]? = some pc → pc.pollToken = some token → other = call) :
    FlowsHeld ({ s with auth := s.auth.completeDeviceLogin }.goto call
      .postLogin) := by
  obtain ⟨pending, hpending, -⟩ := h.polls call _ token hcall rfl
  have hstate := h.device (by rw [hpending]; rfl)
  apply FlowsHeld.of_noFlow
  · refine ⟨?_, rfl⟩
    cases hoauth : s.auth.oauthPending with
    | none => exact hoauth
    | some flow =>
        have hother := h.oauth (by rw [hoauth]; rfl)
        rw [hstate] at hother
        contradiction
  · intro other pc hother
    rcases (get_set hcall).mp hother with ⟨-, rfl⟩ | ⟨hne, hsame⟩
    · rfl
    · cases htoken : pc.pollToken with
      | none => rfl
      | some token => exact absurd (honly other pc token hsame htoken) hne

theorem FlowsHeld.step {a : AuthAction} (h : FlowsHeld s)
    (hok : Undisturbed isUrl s a) (hstep : step isUrl s a = some s') :
    FlowsHeld s' := by
  cases step_spec hstep with
  | op heffect => exact h.op hok heffect
  | beginPoll hclient hpending =>
      apply h.spawn
      intro token htoken
      cases htoken
      exact ⟨_, hpending, rfl⟩
  | pollDone hcall => exact (h.absorb _).goto hcall fun _ htoken => htoken
  | pollAgain => exact h.absorb _
  | pollTimeout hcall => exact h.goto hcall fun _ htoken => (nomatch htoken)
  | completeDeviceLogin hcall => exact h.completeDeviceLogin hcall hok
  | postLogin hcall | fetchTotp hcall =>
      apply h.goto hcall
      intro token htoken
      split at htoken <;> contradiction
  | totpFound hcall | totpMissing hcall =>
      exact (h.absorb _).goto hcall fun _ htoken => (nomatch htoken)
  | @setTotp call config hcall =>
      have hset : FlowsHeld { s with auth := s.auth.setTotp (some config) } :=
        h.frame rfl rfl rfl fun call pc _ hcall htoken =>
          ⟨call, pc, hcall, htoken⟩
      exact hset.goto hcall fun _ htoken => (nomatch htoken)
  | buildClient => exact h.spawn fun _ htoken => (nomatch htoken)
  | response => exact h.absorb _

theorem FlowsHeld.completesPending {a : AuthAction} (h : FlowsHeld s)
    (hok : Undisturbed isUrl s a) : CompletesPending isUrl s a := by
  cases a with
  | op op =>
      cases op
      case completeOauth code state server =>
        intro reply data hreply hanswer
        have hsome := AuthOp.callbackReply_isSome hreply
        obtain ⟨pending, hpending⟩ := Option.isSome_iff_exists.mp hsome
        exact ⟨h.oauth hsome, pending, hpending,
          hok reply data pending hreply hanswer hpending⟩
      all_goals trivial
  | completeDeviceLogin call =>
      intro token hcall
      obtain ⟨pending, hpending, htoken⟩ := h.polls call _ token hcall rfl
      exact ⟨h.device (by rw [hpending]; rfl), pending, hpending, htoken⟩
  | _ => trivial

/-! ## The run -/

/--
While nothing disturbs a flow that can still be completed, every completion of a
run that authenticates completes the pending flow in the state that awaits it.
-/
theorem flows_bound {as : List AuthAction} (hinit : s.Initial)
    (hok : Along (step isUrl) (Undisturbed isUrl) s as) :
    Along (step isUrl) (CompletesPending isUrl) s as :=
  Along.of_invariant (I := FlowsHeld)
    (fun _ _ _ h hok hstep => h.step hok hstep)
    (fun _ _ h hok => h.completesPending hok) (FlowsHeld.initial hinit) hok

def deviceLogin : List AuthAction :=
  [.op AuthCoordinator.activateExample,
    .op (.startDeviceLogin "sso" (AuthCoordinator.providersReply "token")),
    .beginPoll, .pollReply 0 ⟨[], .ok none⟩]

theorem flows_bound_deviceLogin :
    Along (step AuthCoordinator.httpsOnly)
      (CompletesPending AuthCoordinator.httpsOnly)
      fresh (deviceLogin ++ [.completeDeviceLogin 0]) := by
  apply flows_bound fresh_initial
  refine .cons_final (fun _ _ => ⟨rfl, rfl⟩) ?_
  refine .cons_final (fun providers pending _ _ => ⟨by decide +kernel, ?_⟩) ?_
  · intro call pc other hcall
    have hnone : (final (step AuthCoordinator.httpsOnly) fresh
        [.op AuthCoordinator.activateExample]).calls = [] := by decide +kernel
    simp [hnone] at hcall
  refine .cons_final trivial (.cons_final trivial ⟨?_, fun _ _ => trivial⟩)
  intro other pc token hcall _
  have hfirst : other < 1 :=
    Nat.lt_of_lt_of_eq (List.getElem?_eq_some_iff.mp hcall).1
      (by decide +kernel)
  omega

/--
The user logs out between two rounds of a poll, and the next round succeeds.
-/
def logoutDuringPoll : List AuthAction :=
  [.op AuthCoordinator.activateExample,
    .op (.startDeviceLogin "sso" (AuthCoordinator.providersReply "token")),
    .beginPoll, .op AuthCoordinator.logoutExample, .pollReply 0 ⟨[], .ok none⟩]

theorem logoutDuringPoll_authenticates :
    ¬ ∀ (isUrl : String →
      Bool) (s : AuthDaemon) (a : AuthAction) (s' : AuthDaemon),
      Reachable (step isUrl) Initial s → step isUrl s a = some s' →
        CompletesPending isUrl s a := by
  intro h
  have hrun : exec (step AuthCoordinator.httpsOnly) fresh logoutDuringPoll =
      some (final (step AuthCoordinator.httpsOnly) fresh logoutDuringPoll) :=
    exec_final (by decide +kernel)
  have hbound := h AuthCoordinator.httpsOnly
    (final (step AuthCoordinator.httpsOnly) fresh logoutDuringPoll)
    (.completeDeviceLogin 0) (final (step AuthCoordinator.httpsOnly) fresh
      (logoutDuringPoll ++ [.completeDeviceLogin 0]))
    ⟨fresh, logoutDuringPoll, fresh_initial, hrun⟩ (by decide +kernel) "token"
    (by decide +kernel)
  have hstate := hbound.1
  revert hstate
  decide +kernel

end AuthDaemon

end Rustylink.Daemon
