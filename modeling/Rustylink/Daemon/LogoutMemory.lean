import Rustylink.Daemon.AuthCalls

/-!
# The session after a logout

A logout clears the shared jar and the TOTP secret while other clients still
await their responses, and while a fetched secret may wait to be stored.  What
they bring goes into the closed session.
-/

namespace Rustylink.Daemon

open Rustylink.Foundation Rustylink.Core Rustylink.Api

def AuthOp.isLogin : AuthOp → Bool
  | .login _ | .sendLoginCode _ | .verifyLoginCode _ | .sendMfaCode _
  | .verifyMfa _ | .skipChallenge _ | .startOauth .. | .completeOauth ..
  | .startDeviceLogin .. => true
  | _ => false

def AuthAction.beginsLogin : AuthAction → Bool
  | .op call => call.isLogin
  | .beginPoll => true
  | _ => false

def AuthCoordinator.Cleared (auth : AuthCoordinator) : Prop :=
  auth.cookies = [] ∧ auth.totp = none ∧ auth.knockToken = none

namespace AuthDaemon

variable (isUrl : String → Bool)

/-- The daemon until the next login-type call begins. -/
def untilLogin (s : AuthDaemon) (a : AuthAction) : Option AuthDaemon :=
  if a.beginsLogin then none else step isUrl s a

/--
The response at hand sets no cookie, and no fetched secret is stored.  What the
reply to a further logout sets is cleared with the rest.
-/
def SetsNothing (s : AuthDaemon) : AuthAction → Prop
  | .op (.logout _) => True
  | .op op => op.setCookies isUrl s.auth = []
  | .pollReply _ reply => reply.setCookies = []
  | .totpReply _ reply _ => reply.setCookies = []
  | .response _ setCookies => setCookies = []
  | .setTotp _ => False
  | _ => True

instance (s : AuthDaemon) (a : AuthAction) :
    Decidable (SetsNothing isUrl s a) :=
  match a with
  | .op (.logout _) => .isTrue trivial
  | .op (.activate ..) | .op (.refreshLoginApiVersion _) | .op (.login _)
  | .op (.sendLoginCode _) | .op (.verifyLoginCode _) | .op (.sendMfaCode _)
  | .op (.verifyMfa _) | .op (.skipChallenge _) | .op (.startOauth ..)
  | .op (.completeOauth ..) | .op (.startDeviceLogin ..)
  | .op .completeDeviceLogin | .op .restoreSession | .op (.setTotp _)
  | .pollReply .. | .totpReply .. | .response .. =>
      inferInstanceAs (Decidable (_ = _))
  | .setTotp _ => .isFalse id
  | .beginPoll | .pollTimeout _ | .completeDeviceLogin _ | .postLogin _
  | .fetchTotp _ | .buildClient => .isTrue trivial

variable {isUrl} {s s' : AuthDaemon}

theorem cleared_absorb_iff {auth : AuthCoordinator} (h : auth.Cleared)
    (setCookies : Cookies) :
    (auth.absorb setCookies).Cleared ↔ setCookies = [] := by
  obtain ⟨hcookies, htotp, hknock⟩ := h
  simp [AuthCoordinator.Cleared, AuthCoordinator.absorb, hcookies,
    htotp, hknock, mergeCookies_empty_eq_nil]

theorem logout_cleared (server : Server Unit) (auth : AuthCoordinator) :
    ((AuthOp.logout server).perform isUrl auth).Cleared := by
  obtain ⟨f, hperform, hmove⟩ :=
    AuthOp.perform_moves isUrl auth (.logout server)
  unfold AuthOp.perform
  rw [hperform]
  cases hmove with
  | quiet hquiet => contradiction
  | enter hreply => contradiction
  | logout => exact ⟨rfl, rfl, rfl⟩

theorem cleared_op_iff {op : AuthOp} (h : s.auth.Cleared)
    (heffect : OpEffect isUrl s op s') :
    s'.auth.Cleared ↔ SetsNothing isUrl s (.op op) := by
  rw [heffect.auth]
  by_cases hlogout : ∃ server, op = .logout server
  · obtain ⟨server, rfl⟩ := hlogout
    exact ⟨fun _ => trivial, fun _ => logout_cleared server s.auth⟩
  · simp only [not_exists] at hlogout
    have htotp : ∀ config, op ≠ .setTotp config := by
      rintro config rfl
      exact (nomatch heffect.handler)
    have hsets : SetsNothing isUrl s (.op op) ↔
        op.setCookies isUrl s.auth = [] := by
      cases op <;> first | exact Iff.rfl | exact absurd rfl (hlogout _)
    obtain ⟨hcookies, hknock⟩ := AuthOp.perform_session hlogout
    rw [hsets, ← cleared_absorb_iff h]
    unfold AuthCoordinator.Cleared
    rw [hcookies, hknock, AuthOp.perform_totp hlogout htotp]
    exact Iff.rfl

theorem cleared_step_iff {a : AuthAction} (h : s.auth.Cleared)
    (hstep : step isUrl s a = some s') :
    s'.auth.Cleared ↔ SetsNothing isUrl s a := by
  cases step_spec hstep with
  | op heffect => exact cleared_op_iff h heffect
  | pollDone | pollAgain | totpFound | totpMissing | response =>
      exact cleared_absorb_iff h _
  | setTotp =>
      constructor
      · intro hcleared
        have htotp := hcleared.2.1
        contradiction
      · intro hnever
        contradiction
  | beginPoll | pollTimeout | completeDeviceLogin | postLogin | fetchTotp
  | buildClient =>
      exact ⟨fun _ => trivial, fun _ => h⟩

/-! ## The run -/

/--
From the logout to the next login-type call the jar stays empty and neither a
TOTP secret nor a knock token appears, exactly when no response of that time
sets a cookie and no fetched secret is stored in it.
-/
theorem logout_final_iff {t : AuthDaemon} {server : Server Unit}
    {as : List AuthAction}
    (hlogout : step isUrl s (.op (.logout server)) = some s')
    (hrun : exec (untilLogin isUrl) s' as = some t) :
    Always (untilLogin isUrl) (fun s => s.auth.Cleared) s' as ↔
      Along (untilLogin isUrl) (SetsNothing isUrl) s' as := by
  have hcleared : s'.auth.Cleared := by
    rw [(performOp_effect hlogout).auth]
    exact logout_cleared server s.auth
  have hnext : ∀ s a s', s.auth.Cleared → untilLogin isUrl s a = some s' →
      (s'.auth.Cleared ↔ SetsNothing isUrl s a) := by
    intro s a s' h hstep
    unfold untilLogin at hstep
    split at hstep
    · contradiction
    · exact cleared_step_iff h hstep
  exact always_iff_along (I := fun s => s.auth.Cleared)
    (P := fun s => s.auth.Cleared)
    (fun s a s' h hok hstep => (hnext s a s' h hstep).mpr hok) (fun _ h => h)
    (fun s a s' h hbad hstep hafter => hbad ((hnext s a s' h hstep).mp hafter))
      hcleared hrun

def reporting : List AuthAction :=
  [.op AuthCoordinator.activateExample, .op AuthCoordinator.loginExample,
    .buildClient]

def reportingClosed : AuthDaemon :=
  final (step AuthCoordinator.httpsOnly) fresh
    (reporting ++ [.op AuthCoordinator.logoutExample])

theorem reporting_closes :
    step AuthCoordinator.httpsOnly
      (final (step AuthCoordinator.httpsOnly) fresh reporting)
      (.op AuthCoordinator.logoutExample) = some reportingClosed := by
  decide +kernel

def lateResponses : List AuthAction :=
  [.response 1 [], .postLogin 0, .buildClient, .response 2 [],
    .op AuthCoordinator.activateExample, .response 1 [],
    .op AuthCoordinator.logoutExample, .response 2 []]

theorem logout_final_iff_lateResponses :
    Always (untilLogin AuthCoordinator.httpsOnly) (fun s => s.auth.Cleared)
      reportingClosed lateResponses :=
  (logout_final_iff reporting_closes (exec_final (by decide +kernel))).mpr
    (by decide +kernel)

theorem lateResponse_setsCookie :
    ¬ ∀ (isUrl : String → Bool) (s s' t : AuthDaemon) (server : Server Unit)
        (as : List AuthAction),
      Reachable (step isUrl) Initial s →
        step isUrl s (.op (.logout server)) = some s' →
      exec (untilLogin isUrl) s' as = some t →
        Always (untilLogin isUrl) (fun s => s.auth.Cleared) s' as := by
  intro h
  have hlate : exec (untilLogin AuthCoordinator.httpsOnly) reportingClosed
      [.response 1 [("vpn-token", "2")]] =
        some (reportingClosed.absorb [("vpn-token", "2")]) := by decide +kernel
  have halways := h AuthCoordinator.httpsOnly
    (final (step AuthCoordinator.httpsOnly) fresh reporting)
      reportingClosed _ _ _
    ⟨fresh, reporting, fresh_initial, exec_final (by decide +kernel)⟩
      reporting_closes hlate
  have hcleared := halways.2 (reportingClosed.absorb [("vpn-token", "2")])
    (by decide +kernel)
  have hcookies := hcleared.1
  revert hcookies
  decide +kernel

end AuthDaemon

end Rustylink.Daemon
