import Rustylink.Api.Auth
import Rustylink.Foundation.Text

/-!
# Login steps

The states of the login flow, and the decisions that it takes from a reply: the
tenant that an activation names, the step that follows a login, the flow that a
third-party provider starts.
-/

namespace Rustylink.Core

open Rustylink.Foundation Rustylink.Api

inductive AuthState where
  | unconfigured
  | configured
  | awaitingOtp (maskedTarget loginType : String)
  | awaitingMfa (mfaType : String) (authList : List String) (canSkip : Bool)
      (maskedMobile maskedEmail : String)
  | awaitingOauth
  | awaitingDeviceLogin
  | authenticated
  deriving DecidableEq, Repr

/-! ## Activation -/

structure ActivationTenantUpdate where
  baseUrl : Option String
  backupUrl : Option String
  useBackup : Option Bool
  name : Option String
  deriving DecidableEq, Repr

def firstNonEmpty (values : List (Option String)) : Option String :=
  (values.reduceOption.map trim).find? (· ≠ "")

def extractActivationUpdate (data : ActivateInfo) : ActivationTenantUpdate where
  baseUrl := firstNonEmpty [data.activateHost, data.domain]
  backupUrl := data.activateBackupDomain
  useBackup := data.activateEnableBackupDomain
  name := firstNonEmpty [data.tenantName, data.name, data.zhName, data.enName]

/-! ## Login, code and MFA replies -/

inductive LoginStep where
  | authenticated
  | awaitingMfa (mfaType : String) (authList : List String) (canSkip : Bool)
      (maskedMobile maskedEmail : String)
  | awaitingOtp (maskedTarget loginType : String)
  deriving DecidableEq, Repr

def isMfaAction (action : String) : Bool :=
  let action := toAsciiLowercase action
  action = "2fa" || action = "mfa" || action = "verify_mfa"

def isGotoLink (action : String) : Bool :=
  let action := toAsciiLowercase action
  action = "goto_link" || action = "gotolink"

/--
The channel of a one-time code is the one that a masked target was given for.
-/
def otpChallenge (next : LoginV2Next) : LoginStep :=
  match next.mobile.filter (· ≠ ""), next.email.filter (· ≠ "") with
  | some mobile, _ => .awaitingOtp mobile "mobile"
  | none, some email => .awaitingOtp email "email"
  | none, none => .awaitingOtp "" "mobile"

def nextLoginStep : Option LoginV2Result → LoginStep
  | none => .authenticated
  | some result =>
      match result.next with
      | none => .authenticated
      | some next =>
          let action := next.action.getD ""
          if isMfaAction action then
            let authList := next.authList.getD []
            .awaitingMfa (authList.head?.getD action) authList
              (next.canSkip.getD false) (next.mobile.getD "")
              (next.email.getD "")
          else if isGotoLink action then .authenticated
          else if result.result = some "success" then .authenticated
          else otpChallenge next

def nextAuthState (result : Option LoginV2Result) : AuthState :=
  match nextLoginStep result with
  | .authenticated => .authenticated
  | .awaitingMfa mfaType authList canSkip maskedMobile maskedEmail =>
      .awaitingMfa mfaType authList canSkip maskedMobile maskedEmail
  | .awaitingOtp maskedTarget loginType => .awaitingOtp maskedTarget loginType

/-! ## Third-party flows -/

structure OAuthPending where
  aliasKey : String
  oauthState : String
  pollToken : String
  pkceVerifier : String
  url : String
  deriving DecidableEq, Repr

structure DeviceLoginPending where
  loginUrl : String
  aliasKey : String
  pollToken : String
  deriving DecidableEq, Repr

inductive AuthError where
  | api (message : String)
  | unknownProvider (aliasKey : String)
  | providerNoLoginUrl (aliasKey : String)
  | providerNoDeviceLogin (aliasKey : String)
  deriving DecidableEq, Repr

def findProvider (aliasKey : String)
    (providers : Option (List ThirdPartyLoginInfo)) :
    Except AuthError ThirdPartyLoginInfo :=
  match (providers.getD []).find? fun info =>
      info.aliasKey = some aliasKey || info.providerAlias = some aliasKey with
  | some info => .ok info
  | none => .error (.unknownProvider aliasKey)

def oauthFlow (aliasKey pkceVerifier : String)
    (providers : Option (List ThirdPartyLoginInfo)) :
    Except AuthError OAuthPending := do
  let provider ← findProvider aliasKey providers
  match provider.loginUrl <|> provider.url with
  | none => .error (.providerNoLoginUrl aliasKey)
  | some loginUrl =>
      .ok ⟨aliasKey, provider.state.getD "", provider.token.getD "",
        pkceVerifier, loginUrl⟩

def deviceFlow (aliasKey : String)
    (providers : Option (List ThirdPartyLoginInfo)) :
    Except AuthError DeviceLoginPending := do
  let provider ← findProvider aliasKey providers
  let loginUrl := (provider.loginUrl <|> provider.url).getD ""
  let pollToken := provider.token.getD ""
  if pollToken = "" then .error (.providerNoDeviceLogin aliasKey)
  else .ok ⟨loginUrl, aliasKey, pollToken⟩

/-! ## What the next state can be -/

theorem nextAuthState_ne_awaitingOauth (result : Option LoginV2Result) :
    nextAuthState result ≠ .awaitingOauth := by
  unfold nextAuthState
  split <;> simp

theorem nextAuthState_ne_awaitingDeviceLogin (result : Option LoginV2Result) :
    nextAuthState result ≠ .awaitingDeviceLogin := by
  unfold nextAuthState
  split <;> simp

end Rustylink.Core
