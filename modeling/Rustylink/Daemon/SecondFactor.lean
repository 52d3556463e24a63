import Rustylink.Daemon.AuthMoves

/-!
# Second factors

Four operations decide with `next_login_step` what follows a login.  The OAuth
callback and the token check of a device login are answered with a
`LoginResult`, whose two flags nothing reads.
-/

namespace Rustylink.Api

open Rustylink.Foundation

def LoginV2Result.DemandsFactor (result : LoginV2Result) : Prop :=
  ∃ next action, result.next = some next ∧ next.action = some action ∧
    (InAnyCase action "2fa" ∨ InAnyCase action "mfa" ∨
      InAnyCase action "verify_mfa")

def LoginResult.DemandsFactor (result : LoginResult) : Prop :=
  result.needMfa = some true ∨ result.needVerify = some true

end Rustylink.Api

namespace Rustylink.Daemon

open Rustylink.Foundation Rustylink.Core Rustylink.Api AuthCoordinator

/-! ## The device login -/

def pollTokenCheck : List (Reply LoginResult) → AuthM Unit
  | [] => throw (.unavailable "device login timed out waiting for user")
  | reply :: rounds => do
      modify (absorb reply.setCookies)
      match reply.body with
      | .ok _ => pure ()
      | .error _ => pollTokenCheck rounds

def pollDeviceLogin (isUrl : String → Bool)
    (rounds : List (Reply LoginResult)) : AuthM Unit := do
  match (← get).deviceLoginPending with
  | none => throw (.invalidArgument "no pending device login flow")
  | some _ =>
      tenantClient isUrl
      pollTokenCheck rounds
      modify AuthCoordinator.completeDeviceLogin

/-! ## Calls that can authenticate -/

inductive LoginCall where
  | ofOp (op : AuthOp)
  | completeDeviceLogin (rounds : List (Reply LoginResult))

inductive LoginReply where
  | next (data : Option LoginV2Result)
  | result (data : Option LoginResult)
  deriving DecidableEq

namespace LoginReply

def DemandsFactor : LoginReply → Prop
  | .next data => ∃ result, data = some result ∧ result.DemandsFactor
  | .result data => ∃ result, data = some result ∧ result.DemandsFactor

end LoginReply

namespace LoginCall

variable (isUrl : String → Bool)

def run : LoginCall → AuthM Unit
  | .ofOp op => op.run isUrl
  | .completeDeviceLogin rounds => pollDeviceLogin isUrl rounds

def decoded (auth : AuthCoordinator) : LoginCall → Option LoginReply
  | .ofOp (.completeOauth code state server) =>
      ((AuthOp.callbackReply auth code state server).bind
        (auth.answered isUrl)).map .result
  | .ofOp op => ((op.loginReply auth).bind (auth.answered isUrl)).map .next
  | .completeDeviceLogin rounds =>
      if auth.deviceLoginPending.isSome && auth.buildTenantClient isUrl then
        (rounds.findSome? fun reply => reply.body.toOption).map .result
      else none

end LoginCall

/-! ## What the decisions and the discarded replies mean -/

theorem isMfaAction_iff (action : String) :
    isMfaAction action = true ↔
      InAnyCase action "2fa" ∨ InAnyCase action "mfa" ∨
        InAnyCase action "verify_mfa" := by
  simp only [isMfaAction, Bool.or_eq_true, decide_eq_true_eq, or_assoc]
  rw [toAsciiLowercase_eq_iff (by decide), toAsciiLowercase_eq_iff (by decide),
    toAsciiLowercase_eq_iff (by decide)]

theorem nextAuthState_of_demandsFactor {result : LoginV2Result}
    (h : result.DemandsFactor) :
    nextAuthState (some result) ≠ .authenticated := by
  obtain ⟨next, action, hnext, haction, hmfa⟩ := h
  rw [← isMfaAction_iff] at hmfa
  simp [nextAuthState, nextLoginStep, hnext, haction, hmfa]

namespace LoginCall

variable {isUrl : String → Bool} {auth : AuthCoordinator}

theorem run_pollTokenCheck {rounds : List (Reply LoginResult)}
    {data : Option LoginResult}
    (h : (rounds.findSome? fun reply => reply.body.toOption) = some data)
    (auth : AuthCoordinator) :
    ∃ cookies, pollTokenCheck rounds auth =
      .ok () { auth with cookies := cookies } := by
  induction rounds generalizing auth with
  | nil => simp at h
  | cons reply rounds ih =>
      simp only [pollTokenCheck, run_bind, run_modify]
      cases hbody : reply.body with
      | ok found => exact ⟨_, rfl⟩
      | error message =>
          simp only [List.findSome?_cons, hbody, Except.toOption] at h
          obtain ⟨cookies, hrun⟩ := ih h (auth.absorb reply.setCookies)
          exact ⟨cookies, hrun⟩

theorem run_pollDeviceLogin {rounds : List (Reply LoginResult)}
    {data : Option LoginResult}
    (hpending : auth.deviceLoginPending.isSome = true)
    (hclient : auth.buildTenantClient isUrl = true)
    (h : (rounds.findSome? fun reply => reply.body.toOption) = some data) :
    (leaves (pollDeviceLogin isUrl rounds auth)).state = .authenticated := by
  obtain ⟨cookies, hrun⟩ := run_pollTokenCheck h auth
  obtain ⟨pending, hdevice⟩ := Option.isSome_iff_exists.mp hpending
  simp only [pollDeviceLogin, run_bind, run_get, hdevice, run_tenantClient,
    hclient, if_true, hrun, run_modify]
  rfl

theorem state_of_decoded {call : LoginCall} {reply : LoginReply}
    (h : call.decoded isUrl auth = some reply) :
    (leaves (call.run isUrl auth)).state =
      match reply with
      | .next data => nextAuthState data
      | .result _ => .authenticated := by
  cases call with
  | ofOp op =>
      cases op
      case completeOauth code state server =>
        simp only [decoded, Option.map_eq_some_iff,
          Option.bind_eq_some_iff] at h
        obtain ⟨data, ⟨response, hreply, hanswer⟩, rfl⟩ := h
        exact AuthOp.perform_state_of_callback hreply hanswer
      all_goals
        simp only [decoded, Option.map_eq_some_iff,
          Option.bind_eq_some_iff] at h
        obtain ⟨data, ⟨response, hreply, hanswer⟩, rfl⟩ := h
        exact AuthOp.perform_state_of_answered hreply hanswer
  | completeDeviceLogin rounds =>
      simp only [decoded, Option.ite_none_right_eq_some, Bool.and_eq_true,
        Option.map_eq_some_iff] at h
      obtain ⟨⟨hpending, hclient⟩, data, hdata, rfl⟩ := h
      exact run_pollDeviceLogin hpending hclient hdata

/--
A call that decodes a successful response enters `Authenticated` only when the
response demands no further factor, exactly when it is not a `LoginResult` that
demands one.
-/
theorem second_factor_iff {call : LoginCall} {reply : LoginReply}
    (h : call.decoded isUrl auth = some reply) :
    ((leaves (call.run isUrl auth)).state = .authenticated →
      ¬ reply.DemandsFactor) ↔
      ∀ result, reply = .result (some result) →
        result.needMfa ≠ some true ∧ result.needVerify ≠ some true := by
  rw [state_of_decoded h]
  cases reply with
  | next data =>
      constructor
      · intro _ result hresult
        contradiction
      · rintro - hstate ⟨result, rfl, hdemands⟩
        exact nextAuthState_of_demandsFactor hdemands hstate
  | result data =>
      constructor
      · rintro hnone result ⟨⟩
        have hdemands : ¬ result.DemandsFactor := fun hdemands =>
          hnone rfl ⟨result, rfl, hdemands⟩
        exact not_or.mp hdemands
      · rintro hflags - ⟨result, rfl, hdemands⟩
        exact not_or.mpr (hflags result rfl) hdemands

def passwordLogin : LoginCall :=
  .ofOp (.login fun _ =>
    ⟨[("session", "1")], .ok (some ⟨some "success", none⟩)⟩)

def configuredMachine : AuthCoordinator :=
  final (step httpsOnly) (.new "device") [activateExample]

theorem second_factor_iff_passwordLogin :
    ((leaves (passwordLogin.run httpsOnly configuredMachine)).state =
      .authenticated →
      ¬ (LoginReply.next (some ⟨some "success", none⟩)).DemandsFactor) ↔
      ∀ result, LoginReply.next (some ⟨some "success", none⟩) =
        .result (some result) →
        result.needMfa ≠ some true ∧ result.needVerify ≠ some true := by
  have hdecoded : passwordLogin.decoded httpsOnly configuredMachine =
      some (.next (some ⟨some "success", none⟩)) := by decide +kernel
  exact second_factor_iff hdecoded

def callbackNeedsMfa : LoginCall :=
  .ofOp (.completeOauth "code" "state" fun _ =>
    ⟨[], .ok (some ⟨none, some true⟩)⟩)

theorem callbackNeedsMfa_authenticates :
    ¬ ∀ (isUrl : String → Bool) (auth : AuthCoordinator) (call : LoginCall)
        (reply : LoginReply),
      Reachable (step isUrl) Initial auth →
      call.decoded isUrl auth = some reply →
      (leaves (call.run isUrl auth)).state = .authenticated →
        ¬ reply.DemandsFactor := by
  intro h
  have hreachable : Reachable (step httpsOnly) Initial
      (final (step httpsOnly) (.new "device")
        [activateExample, oauthExample]) :=
    ⟨.new "device", _, .inl ⟨_, rfl⟩, exec_final (by decide +kernel)⟩
  have hdecoded : callbackNeedsMfa.decoded httpsOnly
      (final (step httpsOnly) (.new "device")
        [activateExample, oauthExample]) =
      some (.result (some ⟨none, some true⟩)) := by decide +kernel
  exact h httpsOnly _ callbackNeedsMfa _ hreachable hdecoded (by decide +kernel)
    ⟨_, rfl, .inl rfl⟩

end LoginCall

end Rustylink.Daemon
