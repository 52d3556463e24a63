import Rustylink.Daemon.AuthCoordinator

/-!
# What each auth operation can do

An operation merges the cookies of its reply into the jar and then makes one
of the moves below.  The invariants of the machine are derived from these and
never unfold the operations.
-/

namespace Rustylink.Daemon

open Rustylink.Foundation Rustylink.Core Rustylink.Api

namespace AuthCoordinator

/-! ## Replies -/

variable (isUrl : String → Bool)

def heard {α : Type} (auth : AuthCoordinator) (reply : Reply α) : Cookies :=
  if auth.buildTenantClient isUrl then reply.setCookies else []

def answered {α : Type} (auth : AuthCoordinator) (reply : Reply α) :
    Option (Option α) :=
  if auth.buildTenantClient isUrl then reply.body.toOption else none

end AuthCoordinator

namespace AuthOp

variable (isUrl : String → Bool)

def loginReply (auth : AuthCoordinator) : AuthOp → Option (Reply LoginV2Result)
  | .login server => some (server (auth.versioned "/api/v1/login" "/api/login"))
  | .verifyLoginCode server =>
      some (server
        (auth.versioned "/api/v1/login/verify" "/api/login/code/verify"))
  | .verifyMfa server =>
      some (server
        (auth.versioned "/api/v1/login/mfa/verify" "/api/mfa/code/verify"))
  | .skipChallenge server =>
      some (server (auth.versioned "/api/v1/login/skip" "/api/v1/login/skip"))
  | _ => none

def callbackReply (auth : AuthCoordinator) (code state : String)
    (server : OAuthCallbackRequest → Reply LoginResult) :
    Option (Reply LoginResult) :=
  auth.oauthPending.map fun pending =>
    server ⟨pending.aliasKey, code, state, pending.pkceVerifier⟩

def setCookies (auth : AuthCoordinator) : AuthOp → Cookies
  | .activate _ _ _ server => (server "/api/match").setCookies
  | .refreshLoginApiVersion server =>
      auth.heard isUrl (server "/api/login/setting")
  | .sendLoginCode server =>
      auth.heard isUrl
        (server (auth.versioned "/api/v1/login/send" "/api/login/code/send"))
  | .sendMfaCode server =>
      if auth.loginApiVersion = .v1 then
        auth.heard isUrl (server "/api/v1/login/mfa/send")
      else []
  | .startOauth _ _ server | .startDeviceLogin _ server =>
      auth.heard isUrl (server "/api/tpslogin/link")
  | .completeOauth code state server =>
      (callbackReply auth code state server).elim [] (auth.heard isUrl)
  | .logout server => auth.heard isUrl (server "/api/logout")
  | .completeDeviceLogin | .restoreSession | .setTotp _ => []
  | op => (op.loginReply auth).elim [] (auth.heard isUrl)

def takesEffect (auth : AuthCoordinator) : AuthOp → Bool
  | .activate _ _ _ server => (server "/api/match").body.toOption.isSome
  | .refreshLoginApiVersion server =>
      ((auth.answered isUrl (server "/api/login/setting")).join.any
        LoginSetting.isV1)
  | .sendLoginCode _ | .sendMfaCode _ => false
  | .startOauth aliasKey pkceVerifier server =>
      ((auth.answered isUrl (server "/api/tpslogin/link")).bind fun providers =>
        (oauthFlow aliasKey pkceVerifier providers).toOption).isSome
  | .startDeviceLogin aliasKey server =>
      ((auth.answered isUrl (server "/api/tpslogin/link")).bind fun providers =>
        (deviceFlow aliasKey providers).toOption).isSome
  | .completeOauth .. => auth.oauthPending.isSome
  | .restoreSession => auth.tenant.isSome
  | .completeDeviceLogin | .logout _ | .setTotp _ => true
  | op => ((op.loginReply auth).bind (auth.answered isUrl)).isSome

def settles : AuthOp → Bool
  | .activate .. | .login _ | .verifyLoginCode _ | .verifyMfa _
  | .skipChallenge _ | .restoreSession => true
  | _ => false

end AuthOp

/-! ## Moves -/

namespace AuthCoordinator

def NoFlow (auth : AuthCoordinator) : Prop :=
  auth.oauthPending = none ∧ auth.deviceLoginPending = none

def activated (code : String) (baseUrl backupUrl : Option String)
    (data : Option ActivateInfo) (auth : AuthCoordinator) : AuthCoordinator :=
  { data.elim auth fun data => auth.setTenant code baseUrl backupUrl data with
    state := .configured }

def closed (auth : AuthCoordinator) : AuthCoordinator :=
  { auth with
    toAuthMachine := auth.toAuthMachine.logout
    oauthPending := none
    deviceLoginPending := none }

end AuthCoordinator

open AuthCoordinator in
/--
What an operation does to the machine once the jar has absorbed its reply.
-/
inductive AuthMove (isUrl : String → Bool) (auth : AuthCoordinator) :
    AuthOp → (AuthCoordinator → AuthCoordinator) → Prop
  | quiet {op : AuthOp} (h : op.takesEffect isUrl auth = false) :
        AuthMove isUrl auth op id
  | activate {code : String} {baseUrl backupUrl : Option String}
      {server : Server ActivateInfo} {data : Option ActivateInfo}
      (h : (server "/api/match").body = .ok data) :
      AuthMove isUrl auth (.activate code baseUrl backupUrl server)
        (activated code baseUrl backupUrl data)
  | detectV1 {server : Server LoginSetting} {setting : LoginSetting}
      (h : auth.answered isUrl (server "/api/login/setting") =
        some (some setting))
      (hv1 : setting.isV1 = true) :
      AuthMove isUrl auth (.refreshLoginApiVersion server)
        fun auth => { auth with loginApiVersion := .v1 }
  | enter {op : AuthOp} {reply : Reply LoginV2Result}
      {data : Option LoginV2Result}
      (hreply : op.loginReply auth = some reply)
      (h : auth.answered isUrl reply = some data) :
      AuthMove isUrl auth op fun auth =>
        { auth with state := nextAuthState data }
  | startOauth {aliasKey pkceVerifier : String}
      {server : Server (List ThirdPartyLoginInfo)}
      {providers : Option (List ThirdPartyLoginInfo)} {pending : OAuthPending}
      (h : auth.answered isUrl (server "/api/tpslogin/link") = some providers)
      (hflow : oauthFlow aliasKey pkceVerifier providers = .ok pending) :
      AuthMove isUrl auth (.startOauth aliasKey pkceVerifier server) fun auth =>
        { auth with oauthPending := some pending, state := .awaitingOauth }
  | dropOauth {code state : String}
      {server : OAuthCallbackRequest → Reply LoginResult}
      {reply : Reply LoginResult}
      (hreply : AuthOp.callbackReply auth code state server = some reply)
      (h : auth.answered isUrl reply = none) :
      AuthMove isUrl auth (.completeOauth code state server) fun auth =>
        { auth with oauthPending := none }
  | completeOauth {code state : String}
      {server : OAuthCallbackRequest → Reply LoginResult}
      {reply : Reply LoginResult} {data : Option LoginResult}
      (hreply : AuthOp.callbackReply auth code state server = some reply)
      (h : auth.answered isUrl reply = some data) :
      AuthMove isUrl auth (.completeOauth code state server) fun auth =>
        { auth with oauthPending := none, state := .authenticated }
  | startDeviceLogin {aliasKey : String}
      {server : Server (List ThirdPartyLoginInfo)}
      {providers : Option (List ThirdPartyLoginInfo)}
      {pending : DeviceLoginPending}
      (h : auth.answered isUrl (server "/api/tpslogin/link") = some providers)
      (hflow : deviceFlow aliasKey providers = .ok pending) :
      AuthMove isUrl auth (.startDeviceLogin aliasKey server) fun auth =>
        { auth with
          deviceLoginPending := some pending
          state := .awaitingDeviceLogin }
  | completeDeviceLogin :
        AuthMove isUrl auth .completeDeviceLogin completeDeviceLogin
  | logout {server : Server Unit} : AuthMove isUrl auth (.logout server) closed
  | restore (h : auth.tenant.isSome = true) :
      AuthMove isUrl auth .restoreSession restoreSession
  | setTotp {config : Option PersistedTotpConfig} :
      AuthMove isUrl auth (.setTotp config) (setTotp config)

/-! ## The operations make these moves -/

namespace AuthCoordinator

variable (isUrl : String → Bool)

theorem absorb_nil (auth : AuthCoordinator) : auth.absorb [] = auth := rfl

theorem run_send {α : Type} (reply : Reply α) (auth : AuthCoordinator) :
    send reply auth =
      match reply.body with
      | .ok data => .ok data (auth.absorb reply.setCookies)
      | .error message =>
          .error (.auth (.api message)) (auth.absorb reply.setCookies) := by
  simp only [send, run_bind, run_modify]
  cases reply.body <;> rfl

theorem run_tenantClient (auth : AuthCoordinator) :
    tenantClient isUrl auth =
      if auth.buildTenantClient isUrl then .ok () auth
      else .error .notConfigured auth := by
  simp only [tenantClient, run_bind, run_get]
  split <;> rfl

theorem run_request {α : Type} (reply : Reply α) (auth : AuthCoordinator) :
    (∃ data, auth.answered isUrl reply = some data ∧
      (tenantClient isUrl >>= fun _ => send reply) auth =
        .ok data (auth.absorb (auth.heard isUrl reply))) ∨
    ∃ fault, auth.answered isUrl reply = none ∧
      (tenantClient isUrl >>= fun _ => send reply) auth =
        .error fault (auth.absorb (auth.heard isUrl reply)) := by
  simp only [run_bind, run_tenantClient, answered, heard]
  cases auth.buildTenantClient isUrl with
  | false => exact .inr ⟨_, rfl, rfl⟩
  | true =>
      simp only [if_true, run_send]
      cases reply.body with
      | ok data => exact .inl ⟨data, rfl, rfl⟩
      | error message => exact .inr ⟨_, rfl, rfl⟩

theorem run_request_bind {α β : Type} (reply : Reply α)
    (rest : Option α → AuthM β) (auth : AuthCoordinator) :
    (∃ data, auth.answered isUrl reply = some data ∧
      (tenantClient isUrl >>= fun _ => send reply >>= rest) auth =
        rest data (auth.absorb (auth.heard isUrl reply))) ∨
    ∃ fault, auth.answered isUrl reply = none ∧
      (tenantClient isUrl >>= fun _ => send reply >>= rest) auth =
        .error fault (auth.absorb (auth.heard isUrl reply)) := by
  rw [← bind_assoc, run_bind]
  rcases run_request isUrl reply auth with
    ⟨data, hdata, hrun⟩ | ⟨fault, hnone, hrun⟩
  · exact .inl ⟨data, hdata, by rw [hrun]⟩
  · exact .inr ⟨fault, hnone, by rw [hrun]⟩

end AuthCoordinator

namespace AuthOp

open AuthCoordinator

attribute [local simp] takesEffect setCookies loginReply

variable {isUrl : String → Bool} {auth : AuthCoordinator}

def Moves (isUrl : String → Bool) (auth : AuthCoordinator) (op : AuthOp)
    (m : AuthM Unit) : Prop :=
  ∃ f, leaves (m auth) = f (auth.absorb (op.setCookies isUrl auth)) ∧
    AuthMove isUrl auth op f

theorem run_versioned {α β : Type} (v1Path legacyPath : String)
    (server : Server α) (rest : Option α → AuthM β) :
    (tenantClient isUrl >>= fun _ => get >>= fun now : AuthCoordinator =>
      send (server (now.versioned v1Path legacyPath)) >>= rest) auth =
    (tenantClient isUrl >>= fun _ =>
      send (server (auth.versioned v1Path legacyPath)) >>= rest) auth := by
  simp only [run_bind, run_tenantClient]
  cases auth.buildTenantClient isUrl <;> rfl

theorem enterNext_moves {op : AuthOp} {v1Path legacyPath : String}
    {server : Server LoginV2Result}
    (hreply : op.loginReply auth =
      some (server (auth.versioned v1Path legacyPath)))
    (hcookies : op.setCookies isUrl auth =
      auth.heard isUrl (server (auth.versioned v1Path legacyPath)))
    (heffect : op.takesEffect isUrl auth =
      (auth.answered isUrl
        (server (auth.versioned v1Path legacyPath))).isSome) :
    Moves isUrl auth op (enterNext isUrl v1Path legacyPath server) := by
  unfold Moves enterNext
  rw [run_versioned, hcookies]
  rcases run_request_bind isUrl (server (auth.versioned v1Path legacyPath))
      _ auth with
    ⟨data, hdata, hrun⟩ | ⟨fault, hnone, hrun⟩
  · rw [hrun]
    exact ⟨_, rfl, .enter hreply hdata⟩
  · rw [hrun]
    exact ⟨id, rfl, .quiet (by rw [heffect, hnone]; rfl)⟩

theorem activate_moves (code : String) (baseUrl backupUrl : Option String)
    (server : Server ActivateInfo) :
    Moves isUrl auth (.activate code baseUrl backupUrl server)
      (AuthCoordinator.activate code baseUrl backupUrl server) := by
  unfold Moves AuthCoordinator.activate
  simp only [run_bind, run_send, setCookies]
  cases hbody : (server "/api/match").body with
  | error message =>
      exact ⟨id, rfl, .quiet (by simp [hbody, Except.toOption])⟩
  | ok data =>
      refine ⟨activated code baseUrl backupUrl data, ?_, .activate hbody⟩
      cases data <;> rfl

theorem refreshLoginApiVersion_moves (server : Server LoginSetting) :
    Moves isUrl auth (.refreshLoginApiVersion server)
      (modify (AuthCoordinator.refreshLoginApiVersion isUrl server)) := by
  unfold Moves
  simp only [run_modify, leaves, AuthCoordinator.refreshLoginApiVersion,
    setCookies, heard]
  cases hclient : auth.buildTenantClient isUrl with
  | false => exact ⟨id, rfl, .quiet (by simp [answered, hclient])⟩
  | true =>
      simp only [if_true]
      split
      · rename_i setting hbody
        have hanswer : auth.answered isUrl (server "/api/login/setting") =
            some (some setting) := by
          simp [answered, hclient, hbody, Except.toOption]
        cases hv1 : setting.isV1 with
        | true =>
            refine ⟨_, ?_, .detectV1 hanswer hv1⟩
            rfl
        | false => exact ⟨id, rfl, .quiet (by simp [hanswer, hv1])⟩
      · rename_i hbody
        refine ⟨id, rfl, .quiet ?_⟩
        cases hreply : (server "/api/login/setting").body with
        | error message => simp [answered, hclient, hreply, Except.toOption]
        | ok data =>
            cases data with
            | none => simp [answered, hclient, hreply, Except.toOption]
            | some setting => exact absurd hreply (hbody setting)

theorem sendLoginCode_moves (server : Server Unit) :
    Moves isUrl auth (.sendLoginCode server)
      (AuthCoordinator.sendLoginCode isUrl server) := by
  unfold Moves AuthCoordinator.sendLoginCode
  rw [run_versioned]
  rcases run_request_bind isUrl (server
      (auth.versioned "/api/v1/login/send" "/api/login/code/send")) _ auth with
    ⟨data, -, hrun⟩ | ⟨fault, -, hrun⟩
  · rw [hrun]
    exact ⟨id, rfl, .quiet rfl⟩
  · rw [hrun]
    exact ⟨id, rfl, .quiet rfl⟩

theorem sendMfaCode_moves (server : Server Unit) :
    Moves isUrl auth (.sendMfaCode server)
      (AuthCoordinator.sendMfaCode isUrl server) := by
  refine ⟨id, ?_, .quiet rfl⟩
  simp only [AuthCoordinator.sendMfaCode, setCookies, heard, run_bind,
    run_tenantClient]
  cases auth.buildTenantClient isUrl with
  | false => cases auth.loginApiVersion <;> rfl
  | true =>
      cases hversion : auth.loginApiVersion with
      | legacy => simp [hversion, leaves, absorb_nil]
      | v1 =>
          simp only [if_true, run_bind, run_get, hversion, run_send]
          cases (server "/api/v1/login/mfa/send").body <;> rfl

theorem startOauth_moves (aliasKey pkceVerifier : String)
    (server : Server (List ThirdPartyLoginInfo)) :
    Moves isUrl auth (.startOauth aliasKey pkceVerifier server)
      (AuthCoordinator.startOauth isUrl aliasKey pkceVerifier server) := by
  unfold Moves AuthCoordinator.startOauth ask
  rw [bind_assoc]
  rcases run_request_bind isUrl (server "/api/tpslogin/link") _ auth with
    ⟨providers, hanswer, hrun⟩ | ⟨fault, hnone, hrun⟩
  · rw [hrun]
    cases hflow : oauthFlow aliasKey pkceVerifier providers with
    | ok pending => exact ⟨_, rfl, .startOauth hanswer hflow⟩
    | error error =>
        exact ⟨id, rfl, .quiet
          (by simp [hanswer, hflow, Except.toOption])⟩
  · rw [hrun]
    exact ⟨id, rfl, .quiet (by simp [hnone])⟩

theorem startDeviceLogin_moves (aliasKey : String)
    (server : Server (List ThirdPartyLoginInfo)) :
    Moves isUrl auth (.startDeviceLogin aliasKey server)
      (AuthCoordinator.startDeviceLogin isUrl aliasKey server) := by
  unfold Moves AuthCoordinator.startDeviceLogin ask
  rw [bind_assoc]
  rcases run_request_bind isUrl (server "/api/tpslogin/link") _ auth with
    ⟨providers, hanswer, hrun⟩ | ⟨fault, hnone, hrun⟩
  · rw [hrun]
    cases hflow : deviceFlow aliasKey providers with
    | ok pending => exact ⟨_, rfl, .startDeviceLogin hanswer hflow⟩
    | error error =>
        exact ⟨id, rfl, .quiet
          (by simp [hanswer, hflow, Except.toOption])⟩
  · rw [hrun]
    exact ⟨id, rfl, .quiet (by simp [hnone])⟩

theorem completeOauth_of_pending {code state : String} {pending : OAuthPending}
    {server : OAuthCallbackRequest → Reply LoginResult}
    (hpending : auth.oauthPending = some pending) :
    AuthCoordinator.completeOauth isUrl code state server auth =
      (tenantClient isUrl >>= fun _ =>
        send (server ⟨pending.aliasKey, code, state, pending.pkceVerifier⟩) >>=
          fun _ => modify fun auth => { auth with state := .authenticated })
        { auth with oauthPending := none } := by
  unfold AuthCoordinator.completeOauth
  rw [run_bind, run_get]
  simp only [hpending]
  rfl

theorem completeOauth_moves (code state : String)
    (server : OAuthCallbackRequest → Reply LoginResult) :
    Moves isUrl auth (.completeOauth code state server)
      (AuthCoordinator.completeOauth isUrl code state server) := by
  unfold Moves
  cases hpending : auth.oauthPending with
  | none =>
      refine ⟨id, ?_, .quiet (by simp [hpending])⟩
      simp only [AuthCoordinator.completeOauth, run_bind, run_get,
        hpending, setCookies, callbackReply]
      rfl
  | some pending =>
      have hreply : callbackReply auth code state server =
          some (server ⟨pending.aliasKey, code, state,
              pending.pkceVerifier⟩) := by
        simp [callbackReply, hpending]
      rw [completeOauth_of_pending hpending]
      simp only [setCookies, hreply]
      rcases run_request_bind isUrl
          (server ⟨pending.aliasKey, code, state, pending.pkceVerifier⟩)
          (fun _ => modify fun auth => { auth with state := .authenticated })
          { auth with oauthPending := none } with
        ⟨data, hanswer, hrun⟩ | ⟨fault, hnone, hrun⟩
      · rw [hrun]
        exact ⟨_, rfl, .completeOauth hreply hanswer⟩
      · rw [hrun]
        exact ⟨_, rfl, .dropOauth hreply hnone⟩

theorem perform_moves (isUrl : String → Bool) (auth : AuthCoordinator)
    (op : AuthOp) :
    Moves isUrl auth op (op.run isUrl) := by
  cases op with
  | activate code baseUrl backupUrl server =>
      exact activate_moves code baseUrl backupUrl server
  | refreshLoginApiVersion server => exact refreshLoginApiVersion_moves server
  | login server => exact enterNext_moves rfl rfl rfl
  | sendLoginCode server => exact sendLoginCode_moves server
  | verifyLoginCode server => exact enterNext_moves rfl rfl rfl
  | sendMfaCode server => exact sendMfaCode_moves server
  | verifyMfa server => exact enterNext_moves rfl rfl rfl
  | skipChallenge server => exact enterNext_moves rfl rfl rfl
  | startOauth aliasKey pkceVerifier server =>
      exact startOauth_moves aliasKey pkceVerifier server
  | completeOauth code state server =>
      exact completeOauth_moves code state server
  | startDeviceLogin aliasKey server =>
      exact startDeviceLogin_moves aliasKey server
  | completeDeviceLogin => exact ⟨_, rfl, .completeDeviceLogin⟩
  | logout server =>
      refine ⟨closed, ?_, .logout⟩
      simp only [run, run_modify, leaves, AuthCoordinator.logout,
        setCookies, heard]
      cases auth.buildTenantClient isUrl <;> rfl
  | restoreSession =>
      cases htenant : auth.tenant with
      | none =>
          refine ⟨id, ?_, .quiet (by simp [htenant])⟩
          simp only [run, run_modify, leaves, AuthCoordinator.restoreSession,
            htenant]
          rfl
      | some tenant => exact ⟨_, rfl, .restore (by simp [htenant])⟩
  | setTotp config => exact ⟨_, rfl, .setTotp⟩

/-! ## Consequences of the replies -/

variable {op : AuthOp}

theorem takesEffect_of_answered {reply : Reply LoginV2Result}
    {data : Option LoginV2Result} (hreply : op.loginReply auth = some reply)
    (h : auth.answered isUrl reply = some data) :
    op.takesEffect isUrl auth = true := by
  cases op <;> simp only [loginReply, Option.some.injEq,
    reduceCtorEq] at hreply <;>
    subst hreply <;> simp [h]

theorem callbackReply_isSome {code state : String}
    {server : OAuthCallbackRequest → Reply LoginResult}
    {reply : Reply LoginResult}
    (h : callbackReply auth code state server = some reply) :
    auth.oauthPending.isSome = true := by
  unfold callbackReply at h
  rw [Option.map_eq_some_iff] at h
  obtain ⟨pending, hpending, -⟩ := h
  rw [hpending]
  rfl

theorem perform_state_of_answered {reply : Reply LoginV2Result}
    {data : Option LoginV2Result} (hreply : op.loginReply auth = some reply)
    (h : auth.answered isUrl reply = some data) :
    (op.perform isUrl auth).state = nextAuthState data := by
  obtain ⟨f, hperform, hmove⟩ := perform_moves isUrl auth op
  unfold perform
  rw [hperform]
  cases hmove with
  | quiet hquiet =>
      rw [takesEffect_of_answered hreply h] at hquiet
      contradiction
  | enter hreply' h' =>
      rw [hreply] at hreply'
      cases hreply'
      rw [h] at h'
      cases h'
      rfl
  | _ => contradiction

theorem perform_state_of_callback {code state : String}
    {server : OAuthCallbackRequest → Reply LoginResult}
    {reply : Reply LoginResult} {data : Option LoginResult}
    (hreply : callbackReply auth code state server = some reply)
    (h : auth.answered isUrl reply = some data) :
    ((AuthOp.completeOauth code state server).perform isUrl auth).state =
      .authenticated := by
  obtain ⟨f, hperform, hmove⟩ :=
    perform_moves isUrl auth (.completeOauth code state server)
  unfold perform
  rw [hperform]
  cases hmove with
  | quiet hquiet =>
      simp only [takesEffect, callbackReply_isSome hreply] at hquiet
      contradiction
  | enter hreply' => contradiction
  | dropOauth hreply' hnone =>
      rw [hreply] at hreply'
      cases hreply'
      rw [h] at hnone
      contradiction
  | completeOauth => rfl

theorem perform_session (hlogout : ∀ server, op ≠ .logout server) :
    (op.perform isUrl auth).cookies =
        (mergeCookies (op.setCookies isUrl auth) auth.cookies).1 ∧
      (op.perform isUrl auth).knockToken = auth.knockToken := by
  obtain ⟨f, hperform, hmove⟩ := perform_moves isUrl auth op
  unfold perform
  rw [hperform]
  cases hmove with
  | @activate _ _ _ _ data =>
      cases data <;> exact ⟨rfl, rfl⟩
  | logout => exact absurd rfl (hlogout _)
  | restore htenant =>
      rw [restoreSession_of_tenant (by simpa using htenant)]
      exact ⟨rfl, rfl⟩
  | _ => exact ⟨rfl, rfl⟩

theorem perform_totp (hlogout : ∀ server, op ≠ .logout server)
    (htotp : ∀ config, op ≠ .setTotp config) :
    (op.perform isUrl auth).totp = auth.totp := by
  obtain ⟨f, hperform, hmove⟩ := perform_moves isUrl auth op
  unfold perform
  rw [hperform]
  cases hmove with
  | @activate _ _ _ _ data =>
      cases data <;> rfl
  | logout => exact absurd rfl (hlogout _)
  | setTotp => exact absurd rfl (htotp _)
  | restore htenant =>
      rw [restoreSession_of_tenant (by simpa using htenant)]
      rfl
  | _ => rfl

theorem activate_succeeds {code : String} {baseUrl backupUrl : Option String}
    {server : Server ActivateInfo} {data : Option ActivateInfo}
    (h : (server "/api/match").body = .ok data) :
    (AuthOp.activate code baseUrl backupUrl server).succeeds isUrl auth =
      true := by
  simp only [AuthOp.succeeds, AuthOp.run, AuthCoordinator.activate,
    run_bind, run_send, h]
  cases data <;> rfl

theorem settles_of_login {reply : Reply LoginV2Result}
    (hreply : op.loginReply auth = some reply) : op.settles = true := by
  cases op <;> first | rfl | contradiction

theorem requiresConfigured_of_login {reply : Reply LoginV2Result}
    (hreply : op.loginReply auth = some reply) :
    op.requiresConfigured = true := by
  cases op <;> first | rfl | contradiction

end AuthOp

theorem AuthCoordinator.step_spec {isUrl : String → Bool}
    {auth auth' : AuthCoordinator} {op : AuthOp}
    (h : AuthCoordinator.step isUrl auth op = some auth') :
    (op.requiresConfigured = true → auth.state ≠ .unconfigured) ∧
      auth' = op.perform isUrl auth := by
  unfold AuthCoordinator.step at h
  split at h
  · contradiction
  · rename_i hguard
    cases h
    exact ⟨fun hrequires hstate => hguard ⟨hrequires, hstate⟩, rfl⟩

end Rustylink.Daemon
