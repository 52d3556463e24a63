import Rustylink.Daemon.AuthMoves

/-!
# A configured machine has a client

A machine that has left `Unconfigured` needs a tenant whose base URL parses.
An activation is reported as a success whatever its reply holds, and a restored
tenant is never parsed; every other operation leaves the tenant alone.
-/

namespace Rustylink.Daemon

open Rustylink.Foundation Rustylink.Core Rustylink.Api

namespace AuthCoordinator

variable (isUrl : String → Bool)

def Usable (auth : AuthCoordinator) : Prop :=
  auth.state ≠ .unconfigured → auth.buildTenantClient isUrl = true

/--
The host that an activation is given: the one of its reply, or, where that has
none and the override of the caller counts as a host, the override.
-/
def givenHost (override : Bool) (baseUrl : Option String)
    (data : Option ActivateInfo) : Option String :=
  data.bind fun data =>
    (extractActivationUpdate data).baseUrl <|>
      if override then baseUrl else none

def HostParses (override : Bool) (baseUrl : Option String)
    (data : Option ActivateInfo) : Prop :=
  ∃ host, givenHost override baseUrl data = some host ∧ isUrl host = true

instance (override : Bool) (baseUrl : Option String)
    (data : Option ActivateInfo) :
    Decidable (HostParses isUrl override baseUrl data) :=
  decidable_of_iff ((givenHost override baseUrl data).any isUrl = true)
    (by simp [HostParses, Option.any_eq_true])

def RefusesUnusable (override : Bool) (auth : AuthCoordinator)
    (op : AuthOp) : Prop :=
  match op with
  | .activate _ baseUrl _ server => ∀ data,
        (server "/api/match").body = .ok data →
      ¬ HostParses isUrl override baseUrl data →
        op.succeeds isUrl auth = false ∧
          (op.perform isUrl auth).state = auth.state
  | _ => True

/--
Activations are answered with a usable host, and a restored tenant has one.
-/
def HostsParse (override : Bool) (auth : AuthCoordinator) : AuthOp → Prop
  | .activate _ baseUrl _ server => ∀ data,
        (server "/api/match").body = .ok data →
      HostParses isUrl override baseUrl data
  | .restoreSession => auth.tenant.isSome = true →
        auth.buildTenantClient isUrl = true
  | _ => True

instance (override : Bool) (auth : AuthCoordinator) (op : AuthOp) :
    Decidable (HostsParse isUrl override auth op) :=
  match op with
  | .activate _ baseUrl _ server =>
      decidable_of_iff (∀ data ∈ (server "/api/match").body.toOption,
        HostParses isUrl override baseUrl data) <| by
        cases hbody : (server "/api/match").body <;>
          simp [HostsParse, Except.toOption, hbody]
  | .restoreSession => inferInstanceAs (Decidable (_ → _))
  | .refreshLoginApiVersion _ | .login _ | .sendLoginCode _
  | .verifyLoginCode _ | .sendMfaCode _ | .verifyMfa _ | .skipChallenge _
  | .startOauth .. | .completeOauth .. | .startDeviceLogin ..
  | .completeDeviceLogin | .logout _ | .setTotp _ => .isTrue trivial

variable {isUrl} {override : Bool} {auth auth' : AuthCoordinator} {op : AuthOp}

theorem Usable.initial (h : Initial auth) : Usable isUrl auth := by
  intro hstate
  rcases h with ⟨deviceId, rfl⟩ | ⟨creds, deviceId, -, rfl⟩
  · contradiction
  · contradiction

theorem activated_client {code : String} {baseUrl backupUrl : Option String}
    {data : Option ActivateInfo} (h : HostParses isUrl override baseUrl data) :
    (auth.activated code baseUrl backupUrl data).buildTenantClient isUrl =
      true := by
  obtain ⟨host, hhost, hurl⟩ := h
  cases data with
  | none => contradiction
  | some data =>
      have hbase : ((extractActivationUpdate data).baseUrl <|> baseUrl) =
          some host := by
        unfold givenHost at hhost
        simp only [Option.bind_some] at hhost
        cases hown : (extractActivationUpdate data).baseUrl with
        | some own =>
            rw [hown] at hhost
            exact hhost
        | none =>
            rw [hown] at hhost
            cases override with
            | true => exact hhost
            | false => contradiction
      show isUrl (((extractActivationUpdate data).baseUrl <|> baseUrl).getD
          "") = true
      rw [hbase]
      exact hurl

theorem Usable.step (husable : Usable isUrl auth)
    (hok : HostsParse isUrl override auth op)
    (hstep : step isUrl auth op = some auth') : Usable isUrl auth' := by
  obtain ⟨hguard, rfl⟩ := step_spec hstep
  obtain ⟨f, hperform, hmove⟩ := AuthOp.perform_moves isUrl auth op
  unfold AuthOp.perform
  rw [hperform]
  intro hstate
  cases hmove with
  | quiet => exact husable hstate
  | detectV1 => exact husable hstate
  | dropOauth => exact husable hstate
  | setTotp => exact husable hstate
  | activate hbody => exact activated_client (hok _ hbody)
  | enter hreply => exact husable (hguard (AuthOp.requiresConfigured_of_login hreply))
  | startOauth => exact husable (hguard rfl)
  | completeOauth => exact husable (hguard rfl)
  | startDeviceLogin => exact husable (hguard rfl)
  | completeDeviceLogin => exact husable (hguard rfl)
  | logout => exact husable (hguard rfl)
  | restore htenant =>
      rw [restoreSession_of_tenant (by simpa using htenant)]
      exact hok htenant

theorem HostsParse.refuses (h : HostsParse isUrl override auth op) :
    RefusesUnusable isUrl override auth op := by
  cases op
  case activate =>
    intro data hbody hbad
    exact absurd (h data hbody) hbad
  all_goals trivial

theorem not_hostsParse (hbad : ¬ HostsParse isUrl override auth op)
    (hstep : step isUrl auth op = some auth')
    (hrefuses : RefusesUnusable isUrl override auth op) :
    ¬ Usable isUrl auth' := by
  cases op
  case activate code baseUrl backupUrl server =>
    simp only [HostsParse, not_forall] at hbad
    obtain ⟨data, hbody, hhost⟩ := hbad
    have hrefused := (hrefuses data hbody hhost).1
    rw [AuthOp.activate_succeeds hbody] at hrefused
    contradiction
  case restoreSession =>
    simp only [HostsParse, not_forall] at hbad
    obtain ⟨htenant, hclient⟩ := hbad
    obtain ⟨-, rfl⟩ := step_spec hstep
    intro husable
    apply hclient
    have hrestored : AuthOp.restoreSession.perform isUrl auth =
        auth.restoreSession := rfl
    rw [hrestored, restoreSession_of_tenant htenant] at husable
    apply husable
    dsimp only
    split <;> simp
  all_goals exact absurd trivial hbad

/-! ## The run -/

/--
Every state of a run that is not `Unconfigured` has a client, and no activation
without a usable host is reported as a success or moves the machine, exactly
when every activation is answered with a usable host and a restored tenant has
one; whether or not the caller's override counts as the host of an activation.
-/
theorem usable_tenant_iff (override : Bool) {t : AuthCoordinator}
    {ops : List AuthOp} (hinit : Initial auth)
    (hrun : exec (AuthCoordinator.step isUrl) auth ops = some t) :
    Always (AuthCoordinator.step isUrl) (Usable isUrl) auth ops ∧
        Along (AuthCoordinator.step isUrl) (RefusesUnusable isUrl override)
          auth ops ↔
      Along (AuthCoordinator.step isUrl) (HostsParse isUrl override) auth ops :=
  always_and_along_iff (I := Usable isUrl)
    (fun _ _ _ h hok hstep => h.step hok hstep) (fun _ h => h)
    (fun _ _ _ hok => hok.refuses)
    (fun _ _ _ _ hbad hstep hrefuses => not_hostsParse hbad hstep hrefuses)
    (Usable.initial hinit) hrun

def activateAgain : List AuthOp :=
  [activateExample, loginExample, logoutExample,
    .activate "other" none none fun _ => ⟨[], .error "unknown code"⟩,
    .activate "other" none none (tenantReply "https://other.example.com"),
    oauthExample]

theorem usable_tenant_iff_activateAgain :
    Always (AuthCoordinator.step httpsOnly) (Usable httpsOnly) (new "device")
        activateAgain ∧
      Along (AuthCoordinator.step httpsOnly) (RefusesUnusable httpsOnly false)
        (new "device") activateAgain :=
  (usable_tenant_iff false (.inl ⟨_, rfl⟩) (exec_final (by decide +kernel))).mpr
    (by decide +kernel)

def activateWithoutData : AuthOp :=
  .activate "code" none none fun _ => ⟨[], .ok none⟩

theorem activateWithoutData_unusable :
    ¬ ∀ (isUrl : String → Bool) (auth : AuthCoordinator),
      Reachable (AuthCoordinator.step isUrl) Initial auth →
        Usable isUrl auth := by
  intro h
  have husable := h httpsOnly
    (final (AuthCoordinator.step httpsOnly) (new "device")
      [activateWithoutData])
    ⟨new "device", [activateWithoutData], .inl ⟨_, rfl⟩,
      exec_final (by decide +kernel)⟩
    (by decide +kernel)
  revert husable
  decide +kernel

end AuthCoordinator

end Rustylink.Daemon
