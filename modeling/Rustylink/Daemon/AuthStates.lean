import Rustylink.Daemon.AuthCalls

/-!
# The state an auth operation enters

The state after an operation is told by its reply.  An operation that
authenticates has a client, and its handler goes on to keep the session.
-/

namespace Rustylink.Daemon

open Rustylink.Foundation Rustylink.Core Rustylink.Api

namespace AuthOp

open AuthCoordinator

variable (isUrl : String → Bool)

/--
The state that the operation enters; `none` where it leaves the state as it is.
-/
def enters (auth : AuthCoordinator) : AuthOp → Option AuthState
  | .activate _ _ _ server => (server "/api/match").body.toOption.map fun _ =>
      .configured
  | .startOauth aliasKey pkceVerifier server =>
      ((auth.answered isUrl (server "/api/tpslogin/link")).bind fun providers =>
        (oauthFlow aliasKey pkceVerifier providers).toOption).map fun _ =>
          .awaitingOauth
  | .completeOauth code state server =>
      ((callbackReply auth code state server).bind (auth.answered isUrl)).map
        fun _ => .authenticated
  | .startDeviceLogin aliasKey server =>
      ((auth.answered isUrl (server "/api/tpslogin/link")).bind fun providers =>
        (deviceFlow aliasKey providers).toOption).map fun _ =>
          .awaitingDeviceLogin
  | .completeDeviceLogin => some .authenticated
  | .logout _ => some .configured
  | .restoreSession =>
      auth.tenant.map fun _ =>
        if auth.cookies.isEmpty then .configured else .authenticated
  | .refreshLoginApiVersion _ | .sendLoginCode _ | .sendMfaCode _
  | .setTotp _ => none
  | op => ((op.loginReply auth).bind (auth.answered isUrl)).map nextAuthState

variable {isUrl} {auth : AuthCoordinator} {op : AuthOp}

theorem enters_of_quiet (h : op.takesEffect isUrl auth = false) :
    op.enters isUrl auth = none := by
  cases op
  case completeDeviceLogin => contradiction
  case logout => contradiction
  case restoreSession =>
    simp only [takesEffect, Option.isSome_eq_false_iff,
      Option.isNone_iff_eq_none] at h
    simp [enters, h]
  case completeOauth code state server =>
    simp only [takesEffect, Option.isSome_eq_false_iff,
      Option.isNone_iff_eq_none] at h
    simp [enters, callbackReply, h]
  all_goals simp_all [enters, takesEffect]

theorem enters_of_login {reply : Reply LoginV2Result}
    (hreply : op.loginReply auth = some reply) :
    op.enters isUrl auth = (auth.answered isUrl reply).map nextAuthState := by
  cases op <;> simp only [loginReply, Option.some.injEq,
    reduceCtorEq] at hreply <;>
    subst hreply <;> rfl

theorem perform_state (isUrl : String → Bool) (auth : AuthCoordinator)
    (op : AuthOp) :
    (op.perform isUrl auth).state = (op.enters isUrl auth).getD auth.state := by
  obtain ⟨f, hperform, hmove⟩ := perform_moves isUrl auth op
  unfold perform
  rw [hperform]
  cases hmove with
  | quiet hquiet =>
      rw [enters_of_quiet hquiet]
      rfl
  | activate hbody =>
      simp [activated, enters, hbody, Except.toOption]
  | detectV1 => rfl
  | enter hreply hanswer =>
      rw [enters_of_login hreply, hanswer]
      rfl
  | startOauth hanswer hflow => simp [enters, hanswer, hflow, Except.toOption]
  | dropOauth hreply hnone => simp [enters, hreply, hnone]
  | completeOauth hreply hanswer => simp [enters, hreply, hanswer]
  | startDeviceLogin hanswer hflow =>
      simp [enters, hanswer, hflow, Except.toOption]
  | completeDeviceLogin => rfl
  | logout => rfl
  | restore htenant =>
      rw [restoreSession_of_tenant (by simpa using htenant)]
      obtain ⟨tenant, htenant⟩ := Option.isSome_iff_exists.mp htenant
      simp [enters, htenant, setCookies, absorb_nil]
  | setTotp => rfl

theorem perform_of_stays (h : op.enters isUrl auth = none)
    (hrefresh : ∀ server, op ≠ .refreshLoginApiVersion server)
    (htotp : ∀ config, op ≠ .setTotp config) :
    (op.perform isUrl auth).toAuthMachine =
      (auth.absorb (op.setCookies isUrl auth)).toAuthMachine := by
  obtain ⟨f, hperform, hmove⟩ := perform_moves isUrl auth op
  unfold perform
  rw [hperform]
  cases hmove with
  | quiet => rfl
  | activate hbody => simp [enters, hbody, Except.toOption] at h
  | detectV1 => exact absurd rfl (hrefresh _)
  | enter hreply hanswer => simp [enters_of_login hreply, hanswer] at h
  | startOauth hanswer hflow =>
      simp [enters, hanswer, hflow, Except.toOption] at h
  | dropOauth => rfl
  | completeOauth hreply hanswer => simp [enters, hreply, hanswer] at h
  | startDeviceLogin hanswer hflow =>
      simp [enters, hanswer, hflow, Except.toOption] at h
  | completeDeviceLogin => simp [enters] at h
  | logout => simp [enters] at h
  | restore htenant =>
      obtain ⟨tenant, htenant⟩ := Option.isSome_iff_exists.mp htenant
      simp [enters, htenant] at h
  | setTotp => exact absurd rfl (htotp _)

theorem perform_tenant (isUrl : String → Bool) (auth : AuthCoordinator)
    (op : AuthOp) :
    ((op.perform isUrl auth).tenant = auth.tenant ∧
        (op.perform isUrl auth).signing = auth.signing) ∨
      ((op.perform isUrl auth).tenant.isSome = true ∧
        (op.perform isUrl auth).signing.isSome = true) := by
  obtain ⟨f, hperform, hmove⟩ := perform_moves isUrl auth op
  unfold perform
  rw [hperform]
  cases hmove with
  | @activate _ _ _ _ data =>
      cases data with
      | none => exact .inl ⟨rfl, rfl⟩
      | some data => exact .inr ⟨rfl, rfl⟩
  | restore htenant =>
      rw [restoreSession_of_tenant (by simpa using htenant)]
      exact .inl ⟨rfl, rfl⟩
  | _ => exact .inl ⟨rfl, rfl⟩

/-! ## Operations that authenticate -/

theorem client_of_answered {α : Type} {reply : Reply α} {data : Option α}
    (h : auth.answered isUrl reply = some data) :
    auth.buildTenantClient isUrl = true := by
  unfold answered at h
  split at h
  · assumption
  · contradiction

theorem enterNext_succeeds {v1Path legacyPath : String}
    {server : Server LoginV2Result} {data : Option LoginV2Result}
    (h : auth.answered isUrl (server (auth.versioned v1Path legacyPath)) =
      some data) :
    Foundation.succeeds (enterNext isUrl v1Path legacyPath server auth) =
      true := by
  unfold enterNext
  rw [run_versioned]
  rcases run_request_bind isUrl (server (auth.versioned v1Path legacyPath))
      _ auth with
    ⟨data', -, hrun⟩ | ⟨fault, hnone, -⟩
  · rw [hrun]
    rfl
  · rw [h] at hnone
    contradiction

theorem completeOauth_succeeds {code state : String}
    {server : OAuthCallbackRequest → Reply LoginResult}
    {reply : Reply LoginResult} {data : Option LoginResult}
    (hreply : callbackReply auth code state server = some reply)
    (h : auth.answered isUrl reply = some data) :
    (AuthOp.completeOauth code state server).succeeds isUrl auth = true := by
  unfold callbackReply at hreply
  rw [Option.map_eq_some_iff] at hreply
  obtain ⟨pending, hpending, rfl⟩ := hreply
  change Foundation.succeeds
    (AuthCoordinator.completeOauth isUrl code state server auth) = true
  rw [completeOauth_of_pending hpending]
  rcases run_request_bind isUrl
      (server ⟨pending.aliasKey, code, state, pending.pkceVerifier⟩)
      (fun _ => modify fun auth => { auth with state := .authenticated })
      { auth with oauthPending := none } with
      ⟨data', -, hrun⟩ | ⟨fault, hnone, -⟩
  · rw [hrun]
    rfl
  · have hsame : { auth with oauthPending := none }.answered isUrl
        (server ⟨pending.aliasKey, code, state, pending.pkceVerifier⟩) =
          some data := h
    rw [hsame] at hnone
    contradiction

theorem authenticates_spec (hhandler : op.ofHandler = true)
    (hrestore : op ≠ .restoreSession)
    (h : op.enters isUrl auth = some .authenticated) :
    auth.buildTenantClient isUrl = true ∧ op.continues = true ∧
      op.succeeds isUrl auth = true := by
  have hlogin : ∀ {v1Path legacyPath : String} {server : Server LoginV2Result},
      (auth.answered isUrl (server (auth.versioned v1Path legacyPath))).map
        nextAuthState =
          some .authenticated →
        auth.buildTenantClient isUrl = true ∧
          Foundation.succeeds (enterNext isUrl v1Path legacyPath server auth) =
              true := by
    intro v1Path legacyPath server henter
    rw [Option.map_eq_some_iff] at henter
    obtain ⟨data, hanswer, -⟩ := henter
    exact ⟨client_of_answered hanswer, enterNext_succeeds hanswer⟩
  cases op with
  | login server | verifyLoginCode server | verifyMfa server
  | skipChallenge server =>
      obtain ⟨hclient, hsucceeds⟩ := hlogin h
      exact ⟨hclient, rfl, hsucceeds⟩
  | completeOauth code state server =>
      simp only [enters, Option.map_eq_some_iff, Option.bind_eq_some_iff] at h
      obtain ⟨data, ⟨reply, hreply, hanswer⟩, -⟩ := h
      exact ⟨client_of_answered hanswer, rfl,
        completeOauth_succeeds hreply hanswer⟩
  | startOauth | startDeviceLogin =>
      simp only [enters, Option.map_eq_some_iff] at h
      obtain ⟨pending, -, hstate⟩ := h
      contradiction
  | restoreSession => exact absurd rfl hrestore
  | completeDeviceLogin => contradiction
  | _ => simp [enters] at h

end AuthOp

end Rustylink.Daemon
