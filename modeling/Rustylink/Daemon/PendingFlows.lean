import Rustylink.Daemon.AuthMoves

/-!
# Pending flows and the state

The two pending flows and the state are assigned independently of each other.
They agree in every state of a run exactly when each operation that leaves one
of the two awaiting states, or enters one, finds the flows as `KeepsFlows` says.
-/

namespace Rustylink.Daemon

open Rustylink.Foundation Rustylink.Core Rustylink.Api

/-! ## The session message -/

inductive Session.State where
  | unconfigured
  | configured
  | awaitingOtp
  | awaitingMfa
  | awaitingOauth
  | awaitingDeviceLogin
  | authenticated
  deriving DecidableEq, Repr

inductive LoginCodeType where
  | mobile
  | email
  deriving DecidableEq, Repr

def LoginCodeType.ofWire (value : String) : LoginCodeType :=
  if value = "email" then .email else .mobile

structure OtpChallenge where
  maskedTarget : String
  loginType : LoginCodeType
  deriving DecidableEq, Repr

structure MfaChallenge where
  mfaType : String
  authList : List String
  canSkip : Bool
  maskedMobile : String
  maskedEmail : String
  deriving DecidableEq, Repr

structure OauthChallenge where
  aliasKey : String
  state : String
  pollToken : String
  deriving DecidableEq, Repr

structure DeviceLoginChallenge where
  loginUrl : String
  aliasKey : String
  pollToken : String
  deriving DecidableEq, Repr

structure Session where
  state : Session.State
  tenantName : String
  baseUrl : String
  otpChallenge : Option OtpChallenge
  mfaChallenge : Option MfaChallenge
  oauthChallenge : Option OauthChallenge
  deviceLoginChallenge : Option DeviceLoginChallenge
  deriving DecidableEq, Repr

namespace AuthCoordinator

def sessionState : AuthState → Session.State
  | .unconfigured => .unconfigured
  | .configured => .configured
  | .awaitingOtp .. => .awaitingOtp
  | .awaitingMfa .. => .awaitingMfa
  | .awaitingOauth => .awaitingOauth
  | .awaitingDeviceLogin => .awaitingDeviceLogin
  | .authenticated => .authenticated

def toSessionProto (auth : AuthCoordinator) : Session :=
  let session : Session := {
    state := sessionState auth.state
    tenantName := auth.tenant.elim "" TenantConfig.name
    baseUrl := auth.tenant.elim "" TenantConfig.baseUrl
    otpChallenge := none
    mfaChallenge := none
    oauthChallenge := none
    deviceLoginChallenge := none }
  match auth.state with
  | .awaitingOtp maskedTarget loginType =>
      { session with otpChallenge := some ⟨maskedTarget, .ofWire loginType⟩ }
  | .awaitingMfa mfaType authList canSkip maskedMobile maskedEmail =>
      { session with
        mfaChallenge :=
          some ⟨mfaType, authList, canSkip, maskedMobile, maskedEmail⟩ }
  | .awaitingOauth =>
      { session with oauthChallenge := auth.oauthPending.map fun pending =>
          ⟨pending.aliasKey, pending.oauthState, pending.pollToken⟩ }
  | .awaitingDeviceLogin =>
      { session with deviceLoginChallenge := auth.deviceLoginPending.map fun pending =>
          ⟨pending.loginUrl, pending.aliasKey, pending.pollToken⟩ }
  | .unconfigured | .configured | .authenticated => session

/-! ## Agreement -/

structure FlowsMatch (auth : AuthCoordinator) : Prop where
  oauth : auth.oauthPending.isSome = true ↔ auth.state = .awaitingOauth
  device : auth.deviceLoginPending.isSome = true ↔
    auth.state = .awaitingDeviceLogin

/-- The session shows a challenge of the flow in exactly the awaiting states. -/
def ShowsChallenges (auth : AuthCoordinator) : Prop :=
  (auth.toSessionProto.oauthChallenge.isSome = true ↔
    auth.state = .awaitingOauth) ∧
    (auth.toSessionProto.deviceLoginChallenge.isSome = true ↔
      auth.state = .awaitingDeviceLogin)

/--
An operation that enters a state of neither flow finds none pending, one that
starts a flow finds the other not pending, and a callback that is made for a
pending flow succeeds.
-/
def KeepsFlows (isUrl : String → Bool) (auth : AuthCoordinator)
    (op : AuthOp) : Prop :=
  match op with
  | .startOauth .. => op.takesEffect isUrl auth = true →
        auth.deviceLoginPending = none
  | .startDeviceLogin .. => op.takesEffect isUrl auth = true →
        auth.oauthPending = none
  | .completeOauth code state server => ∀ reply,
      AuthOp.callbackReply auth code state server = some reply →
        (auth.answered isUrl reply).isSome = true
  | .completeDeviceLogin => auth.oauthPending = none
  | op => op.settles = true → op.takesEffect isUrl auth = true → NoFlow auth

instance (auth : AuthCoordinator) : Decidable (NoFlow auth) :=
  inferInstanceAs (Decidable (_ ∧ _))

instance (isUrl : String → Bool) (auth : AuthCoordinator) (op : AuthOp) :
    Decidable (KeepsFlows isUrl auth op) :=
  match op with
  | .startOauth .. | .startDeviceLogin .. =>
      inferInstanceAs (Decidable (_ = true → _ = none))
  | .completeOauth code state server =>
      inferInstanceAs (Decidable (∀ reply ∈
        AuthOp.callbackReply auth code state server,
          (auth.answered isUrl reply).isSome = true))
  | .completeDeviceLogin => inferInstanceAs (Decidable (_ = none))
  | .activate .. | .refreshLoginApiVersion _ | .login _ | .sendLoginCode _
  | .verifyLoginCode _ | .sendMfaCode _ | .verifyMfa _ | .skipChallenge _
  | .logout _ | .restoreSession | .setTotp _ =>
      inferInstanceAs (Decidable (_ = true → _ = true → NoFlow auth))

theorem FlowsMatch.showsChallenges {auth : AuthCoordinator}
    (h : FlowsMatch auth) :
    ShowsChallenges auth := by
  unfold ShowsChallenges toSessionProto
  cases hstate : auth.state
  case awaitingOauth => simp [h.oauth.mpr hstate]
  case awaitingDeviceLogin => simp [h.device.mpr hstate]
  all_goals simp

theorem flowsMatch_iff_noFlow {auth : AuthCoordinator}
    (hoauth : auth.state ≠ .awaitingOauth)
    (hdevice : auth.state ≠ .awaitingDeviceLogin) :
    FlowsMatch auth ↔ NoFlow auth := by
  constructor
  · intro h
    exact ⟨by simpa [hoauth] using h.oauth, by simpa [hdevice] using h.device⟩
  · rintro ⟨ho, hd⟩
    exact ⟨by simp [ho, hoauth], by simp [hd, hdevice]⟩

/-! ## The moves -/

section moves

variable {auth : AuthCoordinator} {setCookies : Cookies}

theorem FlowsMatch.absorb (h : FlowsMatch auth) :
    FlowsMatch (auth.absorb setCookies) :=
  ⟨h.oauth, h.device⟩

theorem absorb_noFlow : NoFlow (auth.absorb setCookies) ↔ NoFlow auth := Iff.rfl

theorem settled_flowsMatch_iff {state : AuthState}
    (hoauth : state ≠ .awaitingOauth) (hdevice : state ≠ .awaitingDeviceLogin) :
    FlowsMatch { auth with state := state } ↔ NoFlow auth :=
  flowsMatch_iff_noFlow hoauth hdevice

theorem activated_flowsMatch_iff {code : String}
    {baseUrl backupUrl : Option String} {data : Option ActivateInfo} :
    FlowsMatch (auth.activated code baseUrl backupUrl data) ↔ NoFlow auth := by
  rw [flowsMatch_iff_noFlow (by simp [activated]) (by simp [activated])]
  cases data <;> rfl

theorem closed_flowsMatch : FlowsMatch auth.closed :=
  ⟨by simp [closed, AuthMachine.logout], by simp [closed, AuthMachine.logout]⟩

theorem startOauth_flowsMatch_iff {pending : OAuthPending} :
    FlowsMatch { auth with
      oauthPending := some pending, state := .awaitingOauth } ↔
      auth.deviceLoginPending = none := by
  constructor
  · intro hstarted
    simpa using hstarted.device
  · intro hnone
    exact ⟨by simp, by simp [hnone]⟩

theorem startDeviceLogin_flowsMatch_iff {pending : DeviceLoginPending} :
    FlowsMatch { auth with
      deviceLoginPending := some pending, state := .awaitingDeviceLogin } ↔
      auth.oauthPending = none := by
  constructor
  · intro hstarted
    simpa using hstarted.oauth
  · intro hnone
    exact ⟨by simp [hnone], by simp⟩

theorem completeDeviceLogin_flowsMatch_iff :
    FlowsMatch auth.completeDeviceLogin ↔ auth.oauthPending = none := by
  constructor
  · intro hdone
    simpa [completeDeviceLogin] using hdone.oauth
  · intro hnone
    exact ⟨by simp [completeDeviceLogin, hnone], by simp [completeDeviceLogin]⟩

theorem FlowsMatch.completeOauth (h : FlowsMatch auth)
    (hawaiting : auth.state = .awaitingOauth) :
    FlowsMatch { auth with oauthPending := none, state := .authenticated } := by
  have hdevice : auth.deviceLoginPending = none := by
    simpa [hawaiting] using h.device
  exact ⟨by simp, by simp [hdevice]⟩

theorem not_flowsMatch_of_dropped (hawaiting : auth.state = .awaitingOauth) :
    ¬ FlowsMatch { auth with oauthPending := none } := by
  intro h
  have hsome := h.oauth.mpr hawaiting
  contradiction

end moves

end AuthCoordinator

namespace AuthOp

open AuthCoordinator

attribute [local simp] KeepsFlows settles

variable {isUrl : String → Bool} {auth : AuthCoordinator} {op : AuthOp}

theorem keepsFlows_of_login {reply : Reply LoginV2Result}
    (hreply : op.loginReply auth = some reply) :
    KeepsFlows isUrl auth op ↔
      (op.takesEffect isUrl auth = true → NoFlow auth) := by
  have hsettles := settles_of_login hreply
  cases op <;> first | contradiction | exact ⟨fun h => h rfl, fun h _ => h⟩

theorem keepsFlows_of_quiet (h : op.takesEffect isUrl auth = false) :
    KeepsFlows isUrl auth op := by
  cases op
  case completeDeviceLogin => contradiction
  case completeOauth code state server =>
    intro reply hreply
    simp [takesEffect] at h
    simp [callbackReply, h] at hreply
  all_goals simp_all

theorem keepsFlows_startOauth {aliasKey pkceVerifier : String}
    {server : Server (List ThirdPartyLoginInfo)}
    (h : (AuthOp.startOauth aliasKey pkceVerifier server).takesEffect isUrl
      auth =
      true) :
    KeepsFlows isUrl auth (.startOauth aliasKey pkceVerifier server) ↔
      auth.deviceLoginPending = none := by
  simp only [KeepsFlows, h, forall_const]

theorem keepsFlows_startDeviceLogin {aliasKey : String}
    {server : Server (List ThirdPartyLoginInfo)}
    (h : (AuthOp.startDeviceLogin aliasKey server).takesEffect isUrl auth =
      true) :
    KeepsFlows isUrl auth (.startDeviceLogin aliasKey server) ↔
      auth.oauthPending = none := by
  simp only [KeepsFlows, h, forall_const]

theorem keepsFlows_completeOauth {code state : String}
    {server : OAuthCallbackRequest → Reply LoginResult}
    {reply : Reply LoginResult}
    (hreply : callbackReply auth code state server = some reply) :
    KeepsFlows isUrl auth (.completeOauth code state server) ↔
      (auth.answered isUrl reply).isSome = true := by
  simp [hreply]

theorem flowsMatch_perform_iff (hmatch : FlowsMatch auth) (op : AuthOp) :
    FlowsMatch (op.perform isUrl auth) ↔ KeepsFlows isUrl auth op := by
  obtain ⟨f, hperform, hmove⟩ := perform_moves isUrl auth op
  unfold perform
  rw [hperform]
  have hcallback {code state : String}
      {server : OAuthCallbackRequest → Reply LoginResult}
      {reply : Reply LoginResult}
      (hreply : callbackReply auth code state server = some reply) :
      auth.state = .awaitingOauth := by
    rw [← hmatch.oauth, callbackReply_isSome hreply]
  cases hmove with
  | quiet hquiet => exact iff_of_true hmatch.absorb (keepsFlows_of_quiet hquiet)
  | activate hbody =>
      rw [activated_flowsMatch_iff, absorb_noFlow]
      simp [takesEffect, hbody, Except.toOption]
  | detectV1 | setTotp =>
      exact iff_of_true ⟨hmatch.oauth, hmatch.device⟩
        fun hsettles => absurd hsettles Bool.false_ne_true
  | enter hreply hanswer =>
      rw [settled_flowsMatch_iff (nextAuthState_ne_awaitingOauth _)
        (nextAuthState_ne_awaitingDeviceLogin _), absorb_noFlow,
        keepsFlows_of_login hreply, takesEffect_of_answered hreply hanswer]
      simp
  | startOauth hanswer hflow =>
      rw [startOauth_flowsMatch_iff, keepsFlows_startOauth
        (by simp [takesEffect, hanswer, hflow, Except.toOption])]
      rfl
  | dropOauth hreply hnone =>
      rw [keepsFlows_completeOauth hreply, hnone]
      exact iff_of_false (not_flowsMatch_of_dropped (hcallback hreply))
        (by simp)
  | completeOauth hreply hanswer =>
      rw [keepsFlows_completeOauth hreply, hanswer]
      exact iff_of_true (hmatch.absorb.completeOauth (hcallback hreply)) rfl
  | startDeviceLogin hanswer hflow =>
      rw [startDeviceLogin_flowsMatch_iff, keepsFlows_startDeviceLogin
        (by simp [takesEffect, hanswer, hflow, Except.toOption])]
      rfl
  | completeDeviceLogin => exact completeDeviceLogin_flowsMatch_iff
  | logout =>
      exact iff_of_true closed_flowsMatch
        fun hsettles => absurd hsettles Bool.false_ne_true
  | restore htenant =>
      rw [restoreSession_of_tenant (by simpa using htenant),
        settled_flowsMatch_iff (by split <;> simp) (by split <;> simp),
        absorb_noFlow]
      simp [takesEffect, htenant]

end AuthOp

namespace AuthCoordinator

variable {isUrl : String → Bool}

theorem FlowsMatch.initial {auth : AuthCoordinator} (h : Initial auth) :
    FlowsMatch auth := by
  rcases h with ⟨deviceId, rfl⟩ | ⟨creds, deviceId, -, rfl⟩
  · exact ⟨by simp [new], by simp [new]⟩
  · exact ⟨by simp [restoreFromCredentials], by simp [restoreFromCredentials]⟩

/-! ## The run -/

/--
The flows agree with the state in every state of a run, and the session shows
their challenges in exactly the awaiting states, exactly when all operations of
the run keep the flows.
-/
theorem pending_flows_iff {auth t : AuthCoordinator} {ops : List AuthOp}
    (hinit : Initial auth) (hrun : exec (step isUrl) auth ops = some t) :
    Always (step isUrl) (fun auth => FlowsMatch auth ∧
      ShowsChallenges auth) auth ops ↔
      Along (step isUrl) (KeepsFlows isUrl) auth ops := by
  apply always_iff_along (I := FlowsMatch) _ _ _ (FlowsMatch.initial hinit) hrun
  · intro auth op auth' hmatch hok hstep
    rw [(step_spec hstep).2]
    exact (AuthOp.flowsMatch_perform_iff hmatch op).mpr hok
  · intro auth hmatch
    exact ⟨hmatch, hmatch.showsChallenges⟩
  · intro auth op auth' hmatch hbad hstep hafter
    apply hbad
    rw [(step_spec hstep).2] at hafter
    exact (AuthOp.flowsMatch_perform_iff hmatch op).mp hafter.1

def bothFlows : List AuthOp :=
  [activateExample, oauthExample,
    .completeOauth "code" "state" fun _ => ⟨[("session", "1")], .ok none⟩,
    logoutExample, .startDeviceLogin "sso" (providersReply "token"),
    .completeDeviceLogin, loginExample]

theorem pending_flows_iff_bothFlows :
    Always (step httpsOnly) (fun auth => FlowsMatch auth ∧ ShowsChallenges auth)
      (new "device") bothFlows :=
  (pending_flows_iff (.inl ⟨_, rfl⟩) (exec_final (by decide +kernel))).mpr
    (by decide +kernel)

def activateDuringOauth : List AuthOp :=
  [activateExample, oauthExample, activateExample]

theorem activateDuringOauth_keeps_pending :
    ¬ ∀ (isUrl : String → Bool) (auth : AuthCoordinator),
      Reachable (step isUrl) Initial auth → FlowsMatch auth := by
  intro h
  have hmatch :=
    h httpsOnly (final (step httpsOnly) (new "device") activateDuringOauth)
    ⟨new "device", activateDuringOauth, .inl ⟨_, rfl⟩,
      exec_final (by decide +kernel)⟩
  have hstate :
      (final (step httpsOnly) (new "device") activateDuringOauth).state =
      .awaitingOauth := hmatch.oauth.mp (by decide +kernel)
  revert hstate
  decide +kernel

end AuthCoordinator

end Rustylink.Daemon
