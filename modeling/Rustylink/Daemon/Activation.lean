import Mathlib.Data.String.Basic
import Rustylink.Daemon.AuthMoves
import Rustylink.Foundation.SortedMap

/-!
# What an activation leaves of the past

The tenant and its signing config are replaced.  The jar, the login version,
the knock token, the TOTP config and the pending flows are those of the tenant
before, up to what the two responses set.
-/

namespace Rustylink.Daemon

open Rustylink.Foundation Rustylink.Core Rustylink.Api

/-! ## The jar as a sorted map -/

theorem insertCookie_eq (name value : String) (cookies : Cookies) :
    insertCookie name value cookies = insertKey name value cookies := by
  induction cookies with
  | nil => rfl
  | cons entry rest ih =>
      obtain ⟨other, old⟩ := entry
      simp only [insertCookie, insertKey, ih]

theorem mergeCookies_eq {cookies : Cookies} (updates : Cookies)
    (h : SortedKeys cookies) :
    (mergeCookies updates cookies).1 = mergeKeys updates cookies := by
  induction updates generalizing cookies with
  | nil => rfl
  | cons update rest ih =>
      rw [mergeCookies_cons, mergeKeys, List.foldl_cons, ← mergeKeys]
      split
      · rename_i hsame
        rw [ih h, h.insertKey_eq_self hsame]
      · rw [insertCookie_eq]
        exact ih h.insertKey

namespace AuthCoordinator

variable {isUrl : String → Bool} {auth other : AuthCoordinator}

theorem jar_sorted (h : Reachable (step isUrl) Initial auth) :
    SortedKeys auth.cookies := by
  apply Reachable.invariant _ _ h
  · rintro auth (⟨deviceId, rfl⟩ | ⟨creds, deviceId, hsorted, rfl⟩)
    · exact List.Pairwise.nil
    · exact hsorted
  · intro auth op auth' hsorted hstep
    obtain ⟨-, rfl⟩ := step_spec hstep
    by_cases hlogout : ∃ server, op = .logout server
    · obtain ⟨server, rfl⟩ := hlogout
      have hcleared : ((AuthOp.logout server).perform isUrl auth).cookies =
          [] := rfl
      rw [hcleared]
      exact List.Pairwise.nil
    · rw [(AuthOp.perform_session (not_exists.mp hlogout)).1,
        mergeCookies_eq _ hsorted]
      exact hsorted.mergeKeys

/-! ## The flow -/

variable (isUrl) (code : String) (baseUrl backupUrl : Option String)
  (matchServer : Server ActivateInfo) (settingServer : Server LoginSetting)

def activateFlow (auth : AuthCoordinator) : AuthCoordinator :=
  let activation := AuthOp.activate code baseUrl backupUrl matchServer
  if activation.succeeds isUrl auth then
    (AuthOp.refreshLoginApiVersion settingServer).perform isUrl
    (activation.perform isUrl auth)
  else activation.perform isUrl auth

structure SameSession (auth other : AuthCoordinator) : Prop where
  tenant : auth.tenant = other.tenant
  signing : auth.signing = other.signing
  loginApiVersion : auth.loginApiVersion = other.loginApiVersion
  cookies : auth.cookies = other.cookies
  knockToken : auth.knockToken = other.knockToken
  totp : auth.totp = other.totp
  oauthPending : auth.oauthPending = other.oauthPending
  deviceLoginPending : auth.deviceLoginPending = other.deviceLoginPending

def activatedUrl (data : ActivateInfo) : String :=
  ((extractActivationUpdate data).baseUrl <|> baseUrl).getD ""

def settingReply (data : ActivateInfo) : Reply LoginSetting :=
  if isUrl (activatedUrl baseUrl data) then settingServer "/api/login/setting"
  else ⟨[], .ok none⟩

def detectsV1 (data : ActivateInfo) : Bool :=
  (settingReply isUrl baseUrl settingServer data).body.toOption.join.any
    LoginSetting.isV1

def activationCookies (data : ActivateInfo) : Cookies :=
  (matchServer "/api/match").setCookies ++
    (settingReply isUrl baseUrl settingServer data).setCookies

/-- The two machines agree on all that the two responses do not set. -/
structure AgreeOutside (data : ActivateInfo)
    (auth other : AuthCoordinator) : Prop where
  loginApiVersion : detectsV1 isUrl baseUrl settingServer data = false →
    auth.loginApiVersion = other.loginApiVersion
  cookies : ∀ name,
    name ∉ (activationCookies isUrl baseUrl matchServer settingServer data).map
      Prod.fst →
      auth.cookies.lookup name = other.cookies.lookup name
  knockToken : auth.knockToken = other.knockToken
  totp : auth.totp = other.totp
  oauthPending : auth.oauthPending = other.oauthPending
  deviceLoginPending : auth.deviceLoginPending = other.deviceLoginPending

variable {isUrl code baseUrl backupUrl matchServer settingServer}
  {data : ActivateInfo}

theorem perform_activate
    (h : (matchServer "/api/match").body = .ok (some data)) :
    (AuthOp.activate code baseUrl backupUrl matchServer).perform isUrl auth =
      (auth.absorb (matchServer "/api/match").setCookies).activated code
        baseUrl backupUrl (some data) := by
  obtain ⟨f, hperform, hmove⟩ := AuthOp.perform_moves isUrl auth
    (.activate code baseUrl backupUrl matchServer)
  unfold AuthOp.perform
  rw [hperform]
  cases hmove with
  | quiet hquiet => simp [AuthOp.takesEffect, h, Except.toOption] at hquiet
  | activate hbody =>
      rw [h] at hbody
      cases hbody
      rfl
  | enter hreply => contradiction

variable (data) in
theorem perform_refresh
    (hurl : auth.tenant.map TenantConfig.baseUrl =
      some (activatedUrl baseUrl data)) :
    (AuthOp.refreshLoginApiVersion settingServer).perform isUrl auth =
      { auth.absorb
        (settingReply isUrl baseUrl settingServer data).setCookies with
        loginApiVersion :=
          if detectsV1 isUrl baseUrl settingServer data then .v1
          else auth.loginApiVersion } := by
  have hclient : auth.buildTenantClient isUrl =
      isUrl (activatedUrl baseUrl data) := by
    rw [Option.map_eq_some_iff] at hurl
    obtain ⟨tenant, htenant, hbase⟩ := hurl
    simp [buildTenantClient, htenant, hbase]
  have hrun : (AuthOp.refreshLoginApiVersion settingServer).perform isUrl auth =
      refreshLoginApiVersion isUrl settingServer auth := rfl
  rw [hrun]
  unfold refreshLoginApiVersion detectsV1 settingReply
  rw [hclient]
  cases isUrl (activatedUrl baseUrl data) with
  | false => rfl
  | true =>
      cases hbody : (settingServer "/api/login/setting").body with
      | error message => simp [hbody, Except.toOption, absorb]
      | ok answer =>
          cases answer with
          | none => simp [hbody, Except.toOption, absorb]
          | some setting =>
              cases hv1 :
                setting.isV1 <;> simp [hbody, hv1, Except.toOption, absorb]

theorem activateFlow_eq (hsorted : SortedKeys auth.cookies)
    (h : (matchServer "/api/match").body = .ok (some data)) :
    activateFlow isUrl code baseUrl backupUrl matchServer settingServer auth =
      { auth.activated code baseUrl backupUrl (some data) with
        cookies := mergeKeys
          (activationCookies isUrl baseUrl matchServer settingServer data)
          auth.cookies
        loginApiVersion :=
          if detectsV1 isUrl baseUrl settingServer data then .v1
          else auth.loginApiVersion } := by
  have hfirst := mergeCookies_eq (matchServer "/api/match").setCookies hsorted
  have hmerged : SortedKeys
      (mergeKeys (matchServer "/api/match").setCookies auth.cookies) :=
    hsorted.mergeKeys
  have hsecond :=
    mergeCookies_eq (settingReply isUrl baseUrl settingServer data).setCookies
      hmerged
  simp only [activateFlow, AuthOp.activate_succeeds h, if_true]
  rw [perform_activate h, perform_refresh data rfl]
  simp only [activated, setTenant, absorb, hfirst, hsecond, activationCookies,
    mergeKeys_append, Option.elim_some]

/--
Two machines of one client end an activation with the same session exactly when
they agreed before on everything that its two responses do not set.
-/
theorem activation_independent_iff (hauth : Reachable (step isUrl) Initial auth)
    (hother : Reachable (step isUrl) Initial other)
    (hdevice : auth.deviceId = other.deviceId)
    (h : (matchServer "/api/match").body = .ok (some data)) :
    SameSession (activateFlow isUrl code baseUrl backupUrl matchServer
      settingServer auth)
        (activateFlow isUrl code baseUrl backupUrl matchServer
          settingServer other) ↔
      AgreeOutside isUrl baseUrl matchServer settingServer data auth other := by
  have hsorted := jar_sorted hauth
  have hsorted' := jar_sorted hother
  rw [activateFlow_eq hsorted h, activateFlow_eq hsorted' h]
  constructor
  · intro hsame
    refine ⟨?_, ?_, hsame.knockToken, hsame.totp, hsame.oauthPending,
      hsame.deviceLoginPending⟩
    · intro hversion
      simpa [hversion] using hsame.loginApiVersion
    · exact (hsorted.mergeKeys_eq_iff hsorted').mp hsame.cookies
  · intro hagree
    refine ⟨rfl, ?_, ?_, ?_, hagree.knockToken, hagree.totp,
      hagree.oauthPending, hagree.deviceLoginPending⟩
    · simp [activated, setTenant, hdevice]
    · dsimp only
      split
      · rfl
      · rename_i hversion
        exact hagree.loginApiVersion (by simpa using hversion)
    · exact (hsorted.mergeKeys_eq_iff hsorted').mpr hagree.cookies

def legacySetting : Server LoginSetting :=
  fun _ => ⟨[], .ok (some ⟨some "legacy"⟩)⟩

def loggedIn : AuthCoordinator :=
  final (step httpsOnly) (new "device") [activateExample, loginExample]

theorem loggedIn_reachable : Reachable (step httpsOnly) Initial loggedIn :=
  ⟨new "device", [activateExample, loginExample], .inl ⟨_, rfl⟩, exec_final rfl⟩

theorem new_reachable : Reachable (step httpsOnly) Initial (new "device") :=
  ⟨new "device", [], .inl ⟨_, rfl⟩, rfl⟩

theorem activation_independent_iff_loggedIn :
    SameSession
        (activateFlow httpsOnly "code" none none
          (tenantReply "https://vpn.example.com") legacySetting (new "device"))
        (activateFlow httpsOnly "code" none none
          (tenantReply "https://vpn.example.com") legacySetting loggedIn) ↔
      AgreeOutside httpsOnly none (tenantReply "https://vpn.example.com")
        legacySetting
        { ActivateInfo.default with
          activateHost := some "https://vpn.example.com" }
        (new "device") loggedIn :=
  activation_independent_iff new_reachable loggedIn_reachable
    (by decide +kernel) rfl

/-- The session cookies of the old tenant are sent to the new one. -/
theorem activation_keeps_cookies :
    ¬ ∀ (isUrl : String → Bool) (auth other : AuthCoordinator) (code : String)
        (baseUrl backupUrl : Option String) (matchServer : Server ActivateInfo)
        (settingServer : Server LoginSetting) (data : ActivateInfo)
        (setting : LoginSetting),
      Reachable (step isUrl) Initial auth →
        Reachable (step isUrl) Initial other →
      auth.deviceId = other.deviceId →
      (matchServer "/api/match").body = .ok (some data) →
      (settingServer "/api/login/setting").body = .ok (some setting) →
        SameSession (activateFlow isUrl code baseUrl backupUrl matchServer
          settingServer auth)
          (activateFlow isUrl code baseUrl backupUrl matchServer
            settingServer other) := by
  intro h
  have hsame := h httpsOnly (new "device") loggedIn "code" none none
    (tenantReply "https://vpn.example.org") legacySetting _ _ new_reachable
      loggedIn_reachable
    (by decide +kernel) rfl rfl
  have hcookies := hsame.cookies
  revert hcookies
  decide +kernel

end AuthCoordinator

end Rustylink.Daemon
