import Rustylink.Core.Login
import Rustylink.Daemon.Persist
import Rustylink.Foundation.Fallible

/-!
# The auth coordinator

Each operation is one lock-held section: the lock is kept while the server is
asked, so its replies are inputs of the operation.  Of a request only what
decides the reply is modelled, its path and, for the OAuth callback, its body.
`isUrl` says which texts `Url::parse` accepts.
-/

namespace Rustylink.Daemon

open Rustylink.Foundation Rustylink.Core Rustylink.Api

structure AuthCoordinator extends AuthMachine where
  deviceId : String
  oauthPending : Option OAuthPending
  deviceLoginPending : Option DeviceLoginPending
  deriving DecidableEq, Repr

inductive AuthFault where
  | auth (error : AuthError)
  | notConfigured
  | invalidArgument (message : String)
  | unavailable (message : String)
  deriving DecidableEq, Repr

abbrev AuthM := EStateM AuthFault AuthCoordinator

namespace AuthCoordinator

def new (deviceId : String) : AuthCoordinator where
  state := .unconfigured
  tenant := none
  signing := none
  cookies := []
  knockToken := none
  totp := none
  loginApiVersion := .legacy
  deviceId := deviceId
  oauthPending := none
  deviceLoginPending := none

def restoreFromCredentials (creds : PersistedCredentials) (deviceId : String) :
    AuthCoordinator where
  state := .unconfigured
  tenant := some creds.tenant
  signing := some creds.signing
  cookies := creds.cookies
  knockToken := creds.knockToken
  totp := creds.totp
  loginApiVersion := creds.loginApiVersion
  deviceId := deviceId
  oauthPending := none
  deviceLoginPending := none

/-! ## Requests -/

/-- A response is merged into the jar before anything is made of it. -/
def absorb (setCookies : Cookies) (auth : AuthCoordinator) : AuthCoordinator :=
  { auth with cookies := (mergeCookies setCookies auth.cookies).1 }

section absorb

variable (setCookies : Cookies) (auth : AuthCoordinator)

@[simp] theorem absorb_state : (auth.absorb setCookies).state = auth.state :=
  rfl

@[simp] theorem absorb_tenant : (auth.absorb setCookies).tenant = auth.tenant :=
  rfl

@[simp] theorem absorb_oauthPending :
    (auth.absorb setCookies).oauthPending = auth.oauthPending := rfl

@[simp] theorem absorb_deviceLoginPending :
    (auth.absorb setCookies).deviceLoginPending = auth.deviceLoginPending := rfl

end absorb

def setTenant (code : String) (baseUrl backupUrl : Option String)
    (data : ActivateInfo) (auth : AuthCoordinator) : AuthCoordinator :=
  let update := extractActivationUpdate data
  { auth with
    tenant := some {
      baseUrl := (update.baseUrl <|> baseUrl).getD ""
      backupUrl := update.backupUrl <|> backupUrl
      useBackup := update.useBackup.getD false
      name := update.name.getD "" }
    signing := some ⟨false, code, auth.deviceId⟩ }

def send {α : Type} (reply : Reply α) : AuthM (Option α) := do
  modify (absorb reply.setCookies)
  match reply.body with
  | .ok data => pure data
  | .error message => throw (.auth (.api message))

variable (isUrl : String → Bool)

def buildTenantClient (auth : AuthCoordinator) : Bool :=
  auth.tenant.any fun tenant => isUrl tenant.baseUrl

def tenantClient : AuthM Unit := do
  if (← get).buildTenantClient isUrl then pure () else throw .notConfigured

def ask {α : Type} (path : String) (server : Server α) : AuthM (Option α) := do
  tenantClient isUrl
  send (server path)

def versioned (v1Path legacyPath : String) (auth : AuthCoordinator) : String :=
  if auth.loginApiVersion = .v1 then v1Path else legacyPath

/-! ## Operations -/

def activate (code : String) (baseUrl backupUrl : Option String)
    (server : Server ActivateInfo) : AuthM Unit := do
  match ← send (server "/api/match") with
  | some data => modify (setTenant code baseUrl backupUrl data)
  | none => pure ()
  modify fun auth => { auth with state := .configured }

def refreshLoginApiVersion (server : Server LoginSetting)
    (auth : AuthCoordinator) :
    AuthCoordinator :=
  if auth.buildTenantClient isUrl then
    let reply := server "/api/login/setting"
    let auth := auth.absorb reply.setCookies
    match reply.body with
    | .ok (some setting) =>
        if setting.isV1 then { auth with loginApiVersion := .v1 } else auth
    | _ => auth
  else auth

/--
Send the request of the tenant's API version and enter the state its reply asks
for.
-/
def enterNext (v1Path legacyPath : String) (server : Server LoginV2Result) :
    AuthM Unit := do
  tenantClient isUrl
  let data ← send (server ((← get).versioned v1Path legacyPath))
  modify fun auth => { auth with state := nextAuthState data }

def login : Server LoginV2Result → AuthM Unit :=
  enterNext isUrl "/api/v1/login" "/api/login"

def verifyLoginCode : Server LoginV2Result → AuthM Unit :=
  enterNext isUrl "/api/v1/login/verify" "/api/login/code/verify"

def verifyMfa : Server LoginV2Result → AuthM Unit :=
  enterNext isUrl "/api/v1/login/mfa/verify" "/api/mfa/code/verify"

def skipChallenge : Server LoginV2Result → AuthM Unit :=
  enterNext isUrl "/api/v1/login/skip" "/api/v1/login/skip"

def sendLoginCode (server : Server Unit) : AuthM Unit := do
  tenantClient isUrl
  let _ ← send
      (server ((← get).versioned "/api/v1/login/send" "/api/login/code/send"))
  pure ()

def sendMfaCode (server : Server Unit) : AuthM Unit := do
  tenantClient isUrl
  if (← get).loginApiVersion = .v1 then
    let _ ← send (server "/api/v1/login/mfa/send")
    pure ()

def startOauth (aliasKey pkceVerifier : String)
    (server : Server (List ThirdPartyLoginInfo)) : AuthM Unit := do
  let providers ← ask isUrl "/api/tpslogin/link" server
  match oauthFlow aliasKey pkceVerifier providers with
  | .ok pending =>
      modify fun auth =>
        { auth with oauthPending := some pending, state := .awaitingOauth }
  | .error error => throw (.auth error)

/-- The pending flow is taken first, so it is gone on every way out. -/
def completeOauth (code state : String)
    (server : OAuthCallbackRequest → Reply LoginResult) : AuthM Unit := do
  match (← get).oauthPending with
  | none => throw (.invalidArgument "no pending OAuth flow")
  | some pending =>
      modify fun auth => { auth with oauthPending := none }
      tenantClient isUrl
      let request := ⟨pending.aliasKey, code, state, pending.pkceVerifier⟩
      let _ ← send (server request)
      modify fun auth => { auth with state := .authenticated }

def startDeviceLogin (aliasKey : String)
    (server : Server (List ThirdPartyLoginInfo)) : AuthM Unit := do
  let providers ← ask isUrl "/api/tpslogin/link" server
  match deviceFlow aliasKey providers with
  | .ok pending => modify fun auth => { auth with
      deviceLoginPending := some pending, state := .awaitingDeviceLogin }
  | .error error => throw (.auth error)

def completeDeviceLogin (auth : AuthCoordinator) : AuthCoordinator :=
  { auth with deviceLoginPending := none, state := .authenticated }

/--
The server is told when there is a client; whatever it answers is forgotten.
-/
def logout (server : Server Unit) (auth : AuthCoordinator) : AuthCoordinator :=
  let auth :=
    if auth.buildTenantClient isUrl then auth.absorb
      (server "/api/logout").setCookies
    else auth
  { auth with
    toAuthMachine := auth.toAuthMachine.logout
    oauthPending := none
    deviceLoginPending := none }

def restoreSession (auth : AuthCoordinator) : AuthCoordinator :=
  if auth.tenant.isNone then auth
  else { auth with state :=
    if auth.cookies.isEmpty then .configured else .authenticated }

theorem restoreSession_of_tenant {auth : AuthCoordinator}
    (h : auth.tenant.isSome = true) :
    auth.restoreSession =
      { auth with state :=
        if auth.cookies.isEmpty then .configured else .authenticated } := by
  unfold restoreSession
  rw [if_neg]
  cases htenant : auth.tenant <;> simp_all

def setTotp (config : Option PersistedTotpConfig) (auth : AuthCoordinator) :
    AuthCoordinator :=
  { auth with totp := config }

end AuthCoordinator

/-! ## The machine -/

inductive AuthOp where
  | activate (code : String) (baseUrl backupUrl : Option String)
      (server : Server ActivateInfo)
  | refreshLoginApiVersion (server : Server LoginSetting)
  | login (server : Server LoginV2Result)
  | sendLoginCode (server : Server Unit)
  | verifyLoginCode (server : Server LoginV2Result)
  | sendMfaCode (server : Server Unit)
  | verifyMfa (server : Server LoginV2Result)
  | skipChallenge (server : Server LoginV2Result)
  | startOauth (aliasKey pkceVerifier : String)
        (server : Server (List ThirdPartyLoginInfo))
  | completeOauth (code state : String)
        (server : OAuthCallbackRequest → Reply LoginResult)
  | startDeviceLogin (aliasKey : String)
        (server : Server (List ThirdPartyLoginInfo))
  | completeDeviceLogin
  | logout (server : Server Unit)
  | restoreSession
  | setTotp (config : Option PersistedTotpConfig)

namespace AuthOp

variable (isUrl : String → Bool)

open AuthCoordinator in
def run : AuthOp → AuthM Unit
  | .activate code baseUrl backupUrl server =>
      AuthCoordinator.activate code baseUrl backupUrl server
  | .refreshLoginApiVersion server =>
      modify (AuthCoordinator.refreshLoginApiVersion isUrl server)
  | .login server => AuthCoordinator.login isUrl server
  | .sendLoginCode server => AuthCoordinator.sendLoginCode isUrl server
  | .verifyLoginCode server => AuthCoordinator.verifyLoginCode isUrl server
  | .sendMfaCode server => AuthCoordinator.sendMfaCode isUrl server
  | .verifyMfa server => AuthCoordinator.verifyMfa isUrl server
  | .skipChallenge server => AuthCoordinator.skipChallenge isUrl server
  | .startOauth aliasKey pkceVerifier server =>
      AuthCoordinator.startOauth isUrl aliasKey pkceVerifier server
  | .completeOauth code state server =>
      AuthCoordinator.completeOauth isUrl code state server
  | .startDeviceLogin aliasKey server =>
      AuthCoordinator.startDeviceLogin isUrl aliasKey server
  | .completeDeviceLogin => modify AuthCoordinator.completeDeviceLogin
  | .logout server => modify (AuthCoordinator.logout isUrl server)
  | .restoreSession => modify AuthCoordinator.restoreSession
  | .setTotp config => modify (AuthCoordinator.setTotp config)

def requiresConfigured : AuthOp → Bool
  | .activate .. | .refreshLoginApiVersion _ | .restoreSession => false
  | _ => true

def perform (op : AuthOp) (auth : AuthCoordinator) : AuthCoordinator :=
  leaves (op.run isUrl auth)

def succeeds (op : AuthOp) (auth : AuthCoordinator) : Bool :=
  Foundation.succeeds (op.run isUrl auth)

end AuthOp

namespace AuthCoordinator

/--
A machine that has left `Unconfigured` never returns to it, so the guard stays
true.
-/
def step (isUrl : String → Bool) (auth : AuthCoordinator)
    (op : AuthOp) : Option AuthCoordinator :=
  if op.requiresConfigured = true ∧ auth.state = .unconfigured then none
  else some (op.perform isUrl auth)

/--
`Daemon::new`, without a credentials file or with one that a `BTreeMap` wrote.
-/
def Initial (auth : AuthCoordinator) : Prop :=
  (∃ deviceId, auth = new deviceId) ∨
    ∃ creds deviceId, creds.cookies.Pairwise (fun a b => a.1 < b.1) ∧
      auth = restoreFromCredentials creds deviceId

def httpsOnly (text : String) : Bool := "https://".toList.isPrefixOf text.toList

def tenantReply (host : String) : Server ActivateInfo := fun _ =>
  ⟨[], .ok (some { ActivateInfo.default with activateHost := some host })⟩

def providersReply (token : String) : Server (List ThirdPartyLoginInfo) :=
  fun _ => ⟨[], .ok (some [⟨none, some "sso", none,
    some "https://sso.example.com", some token, some "state"⟩])⟩

def activateExample : AuthOp :=
  .activate "code" none none (tenantReply "https://vpn.example.com")

def loginExample : AuthOp := .login fun _ => ⟨[("session", "1")], .ok none⟩

def logoutExample : AuthOp := .logout fun _ => ⟨[], .ok none⟩

def oauthExample : AuthOp := .startOauth "sso" "verifier" (providersReply "")

end AuthCoordinator

end Rustylink.Daemon
