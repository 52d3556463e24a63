import Mathlib.Data.List.Basic

/-!
# Replies of the auth endpoints

The fields that the auth code reads, and what a request comes back with.
-/

namespace Rustylink.Api

structure ActivateInfo where
  activateHost : Option String
  activateBackupDomain : Option String
  activateEnableBackupDomain : Option Bool
  tenantName : Option String
  name : Option String
  zhName : Option String
  enName : Option String
  domain : Option String
  deriving DecidableEq, Repr

def ActivateInfo.default : ActivateInfo :=
  ⟨none, none, none, none, none, none, none, none⟩

structure LoginSetting where
  loginVersion : Option String
  deriving DecidableEq, Repr

def LoginSetting.isV1 (setting : LoginSetting) : Bool :=
  setting.loginVersion = some "v1"

structure LoginV2Next where
  action : Option String
  canSkip : Option Bool
  authList : Option (List String)
  mobile : Option String
  email : Option String
  deriving DecidableEq, Repr

structure LoginV2Result where
  result : Option String
  next : Option LoginV2Next
  deriving DecidableEq, Repr

structure LoginResult where
  needVerify : Option Bool
  needMfa : Option Bool
  deriving DecidableEq, Repr

structure OtpProvision where
  url : String
  timestamp : Int
  deriving DecidableEq, Repr

structure ThirdPartyLoginInfo where
  providerAlias : Option String
  aliasKey : Option String
  url : Option String
  loginUrl : Option String
  token : Option String
  state : Option String
  deriving DecidableEq, Repr

structure OAuthCallbackRequest where
  aliasKey : String
  code : String
  state : String
  codeVerifier : String
  deriving DecidableEq, Repr

/--
The cookies that a response sets, and its `data` or the error of the call.
-/
structure Reply (α : Type) where
  setCookies : List (String × String)
  body : Except String (Option α)

/-- What the server answers on each path. -/
abbrev Server (α : Type) := String → Reply α

end Rustylink.Api
