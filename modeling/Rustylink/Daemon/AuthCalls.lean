import Rustylink.Daemon.AuthMoves
import Rustylink.Foundation.TaskPool

/-!
# Auth calls in flight

Most auth operations ask the server while they hold the lock.  The rounds of a
device login, the fetch of the TOTP secret and the requests of every other
client are awaited without it: their responses reach the shared jar at any
time, and what a call goes on to do is a lock-held section of its own.
-/

namespace Rustylink.Daemon

open Rustylink.Foundation Rustylink.Core Rustylink.Api

/-! ## Calls -/

/--
Where a call stands between two sections; a constructor names what it awaits.
-/
inductive AuthCallPc where
  | polling (pollToken : String)
  | completing (pollToken : String)
  | postLogin
  | fetchTotp
  | totpRequested
  | setTotp (config : PersistedTotpConfig)
  | client
  | returned
  deriving DecidableEq, Repr

def AuthCallPc.pollToken : AuthCallPc → Option String
  | .polling token | .completing token => some token
  | _ => none

def totpFromProvision (now : Int)
    (provision : Api.OtpProvision) : Option PersistedTotpConfig :=
  if provision.url = "" then none
  else some ⟨provision.url,
    if 0 < provision.timestamp then provision.timestamp - now else 0⟩

structure AuthDaemon where
  auth : AuthCoordinator
  calls : List AuthCallPc
  deriving DecidableEq, Repr

inductive AuthAction where
  | op (op : AuthOp)
  | beginPoll
  | pollReply (call : Nat) (reply : Reply LoginResult)
  | pollTimeout (call : Nat)
  | completeDeviceLogin (call : Nat)
  | postLogin (call : Nat)
  | fetchTotp (call : Nat)
  | totpReply (call : Nat) (reply : Reply Api.OtpProvision) (now : Int)
  | setTotp (call : Nat)
  | buildClient
  | response (call : Nat) (setCookies : Cookies)

namespace AuthOp

/-- The handler goes on with the side effects of a login. -/
def continues : AuthOp → Bool
  | .login _ | .verifyLoginCode _ | .verifyMfa _ | .skipChallenge _
  | .completeOauth .. => true
  | _ => false

def ofHandler : AuthOp → Bool
  | .completeDeviceLogin | .setTotp _ => false
  | _ => true

end AuthOp

namespace AuthDaemon

variable (isUrl : String → Bool)

def spawn (pc : AuthCallPc) (s : AuthDaemon) : AuthDaemon :=
  { s with calls := s.calls ++ [pc] }

def goto (call : Nat) (pc : AuthCallPc) (s : AuthDaemon) : AuthDaemon :=
  { s with calls := s.calls.set call pc }

def absorb (setCookies : Cookies) (s : AuthDaemon) : AuthDaemon :=
  { s with auth := s.auth.absorb setCookies }

def performOp (op : AuthOp) (s : AuthDaemon) : Option AuthDaemon :=
  if op.ofHandler then
    (s.auth.step isUrl op).map fun auth =>
      let s' : AuthDaemon := { s with auth := auth }
      if op.continues && op.succeeds isUrl s.auth then s'.spawn .postLogin
      else s'
  else none

def beginPoll (s : AuthDaemon) : Option AuthDaemon :=
  if s.auth.state ≠ .unconfigured ∧ s.auth.buildTenantClient isUrl = true then
    s.auth.deviceLoginPending.map fun pending =>
      s.spawn (.polling pending.pollToken)
  else none

/--
One round of the poll; any success ends it, an error is a round to be repeated.
-/
def pollReply (call : Nat) (reply : Reply LoginResult)
    (s : AuthDaemon) : Option AuthDaemon :=
  match s.calls[call]? with
  | some (.polling token) =>
      let s := s.absorb reply.setCookies
      match reply.body with
      | .ok _ => some (s.goto call (.completing token))
      | .error _ => some s
  | _ => none

def totpReply (call : Nat) (reply : Reply Api.OtpProvision) (now : Int)
    (s : AuthDaemon) : Option AuthDaemon :=
  if s.calls[call]? = some .totpRequested then
    let s := s.absorb reply.setCookies
    match reply.body.toOption.join.bind (totpFromProvision now) with
    | some config => some (s.goto call (.setTotp config))
    | none => some (s.goto call .returned)
  else none

def step (s : AuthDaemon) : AuthAction → Option AuthDaemon
  | .op op => s.performOp isUrl op
  | .beginPoll => s.beginPoll isUrl
  | .pollReply call reply => s.pollReply call reply
  | .pollTimeout call =>
      match s.calls[call]? with
      | some (.polling _) => some (s.goto call .returned)
      | _ => none
  | .completeDeviceLogin call =>
      match s.calls[call]? with
      | some (.completing _) =>
          some ({ s with auth := s.auth.completeDeviceLogin }.goto
            call .postLogin)
      | _ => none
  | .postLogin call =>
      if s.calls[call]? = some .postLogin then
        some (s.goto call
          (if s.auth.state = .authenticated then .fetchTotp else .returned))
      else none
  | .fetchTotp call =>
      if s.calls[call]? = some .fetchTotp then
        some (s.goto call
          (if s.auth.buildTenantClient isUrl then .totpRequested
            else .returned))
      else none
  | .totpReply call reply now => s.totpReply call reply now
  | .setTotp call =>
      match s.calls[call]? with
      | some (.setTotp config) =>
          some ({ s with auth := s.auth.setTotp (some config) }.goto
            call .returned)
      | _ => none
  | .buildClient => some (s.spawn .client)
  | .response call setCookies =>
      if s.calls[call]? = some .client then some (s.absorb setCookies) else none

def Initial (s : AuthDaemon) : Prop := s.auth.Initial ∧ s.calls = []

def fresh : AuthDaemon := ⟨AuthCoordinator.new "device", []⟩

theorem fresh_initial : fresh.Initial := ⟨.inl ⟨_, rfl⟩, rfl⟩

/-! ## What a section does -/

variable {isUrl} {s s' : AuthDaemon} {op : AuthOp}

structure OpEffect (isUrl : String → Bool) (s : AuthDaemon) (op : AuthOp)
    (s' : AuthDaemon) : Prop where
  handler : op.ofHandler = true
  configured : op.requiresConfigured = true → s.auth.state ≠ .unconfigured
  auth : s'.auth = op.perform isUrl s.auth
  calls : s'.calls = s.calls ∨ s'.calls = s.calls ++ [.postLogin]

theorem performOp_effect (h : s.performOp isUrl op = some s') :
    OpEffect isUrl s op s' := by
  unfold performOp at h
  split at h
  · rename_i hhandler
    rw [Option.map_eq_some_iff] at h
    obtain ⟨auth, hauth, rfl⟩ := h
    obtain ⟨hconfigured, hperform⟩ := AuthCoordinator.step_spec hauth
    dsimp only
    split
    · exact ⟨hhandler, hconfigured, hperform, .inr rfl⟩
    · exact ⟨hhandler, hconfigured, hperform, .inl rfl⟩
  · contradiction

theorem performOp_spawns (h : s.performOp isUrl op = some s')
    (hcontinues : op.continues = true)
    (hsucceeds : op.succeeds isUrl s.auth = true) :
    s'.calls = s.calls ++ [.postLogin] := by
  unfold performOp at h
  split at h
  · rw [Option.map_eq_some_iff] at h
    obtain ⟨auth, -, rfl⟩ := h
    simp [hcontinues, hsucceeds, spawn]
  · contradiction

/--
What a section leaves; a section of a call is found where it awaits that step.
-/
inductive AuthStep (isUrl : String → Bool) (s : AuthDaemon) :
    AuthAction → AuthDaemon → Prop
  | op {op : AuthOp} {s' : AuthDaemon} (h : OpEffect isUrl s op s') :
      AuthStep isUrl s (.op op) s'
  | beginPoll {pending : DeviceLoginPending}
        (hclient : s.auth.buildTenantClient isUrl = true)
      (hpending : s.auth.deviceLoginPending = some pending) :
      AuthStep isUrl s .beginPoll (s.spawn (.polling pending.pollToken))
  | pollDone {call : Nat} {token : String} {reply : Reply LoginResult}
      (hcall : s.calls[call]? = some (.polling token)) :
      AuthStep isUrl s (.pollReply call reply)
        ((s.absorb reply.setCookies).goto call (.completing token))
  | pollAgain {call : Nat} {reply : Reply LoginResult} :
      AuthStep isUrl s (.pollReply call reply) (s.absorb reply.setCookies)
  | pollTimeout {call : Nat} {token : String}
      (hcall : s.calls[call]? = some (.polling token)) :
      AuthStep isUrl s (.pollTimeout call) (s.goto call .returned)
  | completeDeviceLogin {call : Nat} {token : String}
      (hcall : s.calls[call]? = some (.completing token)) :
      AuthStep isUrl s (.completeDeviceLogin call)
        ({ s with auth := s.auth.completeDeviceLogin }.goto call .postLogin)
  | postLogin {call : Nat} (hcall : s.calls[call]? = some .postLogin) :
      AuthStep isUrl s (.postLogin call)
        (s.goto call
          (if s.auth.state = .authenticated then .fetchTotp else .returned))
  | fetchTotp {call : Nat} (hcall : s.calls[call]? = some .fetchTotp) :
      AuthStep isUrl s (.fetchTotp call)
        (s.goto call (if s.auth.buildTenantClient isUrl then .totpRequested
          else .returned))
  | totpFound {call : Nat} {reply : Reply Api.OtpProvision} {now : Int}
      {config : PersistedTotpConfig}
      (hcall : s.calls[call]? = some .totpRequested) :
      AuthStep isUrl s (.totpReply call reply now)
        ((s.absorb reply.setCookies).goto call (.setTotp config))
  | totpMissing {call : Nat} {reply : Reply Api.OtpProvision} {now : Int}
      (hcall : s.calls[call]? = some .totpRequested) :
      AuthStep isUrl s (.totpReply call reply now)
        ((s.absorb reply.setCookies).goto call .returned)
  | setTotp {call : Nat} {config : PersistedTotpConfig}
      (hcall : s.calls[call]? = some (.setTotp config)) :
      AuthStep isUrl s (.setTotp call)
        ({ s with auth := s.auth.setTotp (some config) }.goto call .returned)
  | buildClient : AuthStep isUrl s .buildClient (s.spawn .client)
  | response {call : Nat} {setCookies : Cookies} :
      AuthStep isUrl s (.response call setCookies) (s.absorb setCookies)

theorem beginPoll_spec (h : s.beginPoll isUrl = some s') :
    AuthStep isUrl s .beginPoll s' := by
  unfold beginPoll at h
  split at h
  · rename_i hready
    obtain ⟨pending, hpending, rfl⟩ := Option.map_eq_some_iff.mp h
    exact .beginPoll hready.2 hpending
  · contradiction

theorem pollReply_spec {call : Nat} {reply : Reply LoginResult}
    (h : s.pollReply call reply = some s') :
    AuthStep isUrl s (.pollReply call reply) s' := by
  unfold pollReply at h
  split at h
  · rename_i token hcall
    split at h
    · obtain rfl := Option.some.inj h
      exact .pollDone hcall
    · obtain rfl := Option.some.inj h
      exact .pollAgain
  · contradiction

theorem totpReply_spec {call : Nat} {reply : Reply Api.OtpProvision} {now : Int}
    (h : s.totpReply call reply now = some s') :
    AuthStep isUrl s (.totpReply call reply now) s' := by
  unfold totpReply at h
  split at h
  · rename_i hcall
    split at h
    · obtain rfl := Option.some.inj h
      exact .totpFound hcall
    · obtain rfl := Option.some.inj h
      exact .totpMissing hcall
  · contradiction

theorem step_spec {a : AuthAction} (h : step isUrl s a = some s') :
    AuthStep isUrl s a s' := by
  cases a with
  | op op => exact .op (performOp_effect h)
  | beginPoll => exact beginPoll_spec h
  | pollReply call reply => exact pollReply_spec h
  | totpReply call reply now => exact totpReply_spec h
  | buildClient =>
      obtain rfl := Option.some.inj h
      exact .buildClient
  -- The other sections go on where the call stands, and from there only.
  | pollTimeout call =>
      simp only [step] at h
      split at h
      · rename_i token hcall
        obtain rfl := Option.some.inj h
        exact .pollTimeout hcall
      · contradiction
  | completeDeviceLogin call =>
      simp only [step] at h
      split at h
      · rename_i token hcall
        obtain rfl := Option.some.inj h
        exact .completeDeviceLogin hcall
      · contradiction
  | postLogin call =>
      simp only [step] at h
      split at h
      · rename_i hcall
        obtain rfl := Option.some.inj h
        exact .postLogin hcall
      · contradiction
  | fetchTotp call =>
      simp only [step] at h
      split at h
      · rename_i hcall
        obtain rfl := Option.some.inj h
        exact .fetchTotp hcall
      · contradiction
  | setTotp call =>
      simp only [step] at h
      split at h
      · rename_i config hcall
        obtain rfl := Option.some.inj h
        exact .setTotp hcall
      · contradiction
  | response call setCookies =>
      simp only [step] at h
      split at h
      · obtain rfl := Option.some.inj h
        exact .response
      · contradiction

end AuthDaemon

end Rustylink.Daemon
