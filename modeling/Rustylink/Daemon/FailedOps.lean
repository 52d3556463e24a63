import Rustylink.Daemon.AuthMoves

/-!
# Auth operations that fail

An operation that returns an error has asked for a client, and perhaps a
server.  It has changed nothing but the jar then, with one exception: the
callback of an OAuth flow takes the pending flow before it does either.
-/

namespace Rustylink.Daemon

open Rustylink.Foundation Rustylink.Core Rustylink.Api

namespace AuthCoordinator

def SameButCookies (auth s : AuthCoordinator) : Prop :=
  s = { auth with cookies := s.cookies }

variable {auth : AuthCoordinator} {α : Type}

theorem SameButCookies.refl (auth : AuthCoordinator) :
    SameButCookies auth auth := rfl

theorem SameButCookies.absorb {s : AuthCoordinator} (h : SameButCookies auth s)
    (setCookies : Cookies) : SameButCookies auth (s.absorb setCookies) := by
  unfold SameButCookies at h ⊢
  rw [h]
  rfl

/-! ## Bodies that fail without a trace -/

def FailsClean (auth : AuthCoordinator) (m : AuthM α) : Prop :=
  Spec (SameButCookies auth) m (fun _ _ => True) (SameButCookies auth)

def LeavesClean (auth : AuthCoordinator) (m : AuthM α) : Prop :=
  Spec (SameButCookies auth) m (fun _ => SameButCookies auth)
    (SameButCookies auth)

theorem LeavesClean.bind {β : Type} {m : AuthM α} {f : α → AuthM β}
    (hm : LeavesClean auth m) (hf : ∀ a, FailsClean auth (f a)) :
    FailsClean auth (m >>= f) :=
  Spec.bind hm hf

theorem FailsClean.modify (f : AuthCoordinator → AuthCoordinator) :
    FailsClean auth (modify f) :=
  Spec.modify fun _ _ => trivial

theorem FailsClean.throw (fault : AuthFault) :
    FailsClean auth (throw fault : AuthM α) :=
  Spec.throw fun _ hs => hs

theorem tenantClient_clean (isUrl : String → Bool) :
    LeavesClean auth (tenantClient isUrl) := by
  apply Spec.bind (Q := fun _ => SameButCookies auth) (Spec.get fun _ hs => hs)
  intro now
  split
  · exact Spec.pure fun _ hs => hs
  · exact Spec.throw fun _ hs => hs

theorem send_clean (reply : Reply α) : LeavesClean auth (send reply) := by
  apply Spec.bind (Q := fun _ => SameButCookies auth)
    (Spec.modify fun _ hs => hs.absorb reply.setCookies)
  intro _
  cases reply.body with
  | ok data => exact Spec.pure fun _ hs => hs
  | error message => exact Spec.throw fun _ hs => hs

theorem enterNext_clean (isUrl : String → Bool) (v1Path legacyPath : String)
    (server : Server LoginV2Result) :
    FailsClean auth (enterNext isUrl v1Path legacyPath server) := by
  apply (tenantClient_clean isUrl).bind
  intro _
  apply LeavesClean.bind (Spec.get fun _ hs => hs)
  intro now
  exact (send_clean _).bind fun data => .modify _

theorem completeOauth_clean (isUrl : String → Bool) (code state : String)
    (server : OAuthCallbackRequest → Reply LoginResult)
    (h : auth.oauthPending = none) :
    FailsClean auth (completeOauth isUrl code state server) := by
  apply Spec.bind (Q := fun now s => SameButCookies auth s ∧
    now.oauthPending = none)
  · apply Spec.get
    intro s hs
    refine ⟨hs, ?_⟩
    rw [hs]
    exact h
  · intro now
    apply Spec.extract
    intro hnone
    rw [hnone]
    exact Spec.throw fun _ hs => hs

end AuthCoordinator

namespace AuthOp

variable {isUrl : String → Bool} {auth : AuthCoordinator}

def TakesPending (auth : AuthCoordinator) (op : AuthOp) : Prop :=
  ∃ code state server, op = .completeOauth code state server ∧
    auth.oauthPending.isSome = true

open AuthCoordinator

theorem run_clean {op : AuthOp} (h : ¬ op.TakesPending auth) :
    FailsClean auth (op.run isUrl) := by
  cases op with
  | activate code baseUrl backupUrl server =>
      apply (send_clean _).bind
      intro data
      cases data <;> exact fun _ _ => trivial
  | login server | verifyLoginCode server | verifyMfa server
  | skipChallenge server =>
      exact enterNext_clean isUrl _ _ server
  | sendLoginCode server =>
      apply (tenantClient_clean isUrl).bind
      intro _
      apply LeavesClean.bind (Spec.get fun _ hs => hs)
      intro now
      exact (send_clean _).bind fun _ _ _ => trivial
  | sendMfaCode server =>
      apply (tenantClient_clean isUrl).bind
      intro _
      apply LeavesClean.bind (Spec.get fun _ hs => hs)
      intro now
      split
      · exact (send_clean _).bind fun _ _ _ => trivial
      · exact fun _ _ => trivial
  | startOauth aliasKey pkceVerifier server =>
      apply LeavesClean.bind
        (Spec.bind (tenantClient_clean isUrl) fun _ =>
          send_clean (server "/api/tpslogin/link"))
      intro providers
      split
      · exact .modify _
      · exact .throw _
  | completeOauth code state server =>
      apply completeOauth_clean
      cases hpending : auth.oauthPending with
      | none => rfl
      | some pending =>
          exact absurd ⟨code, state, server, rfl, by simp [hpending]⟩ h
  | startDeviceLogin aliasKey server =>
      apply LeavesClean.bind
        (Spec.bind (tenantClient_clean isUrl) fun _ =>
          send_clean (server "/api/tpslogin/link"))
      intro providers
      split
      · exact .modify _
      · exact .throw _
  | refreshLoginApiVersion | completeDeviceLogin | logout | restoreSession
  | setTotp =>
      exact .modify _

theorem takesPending_drops {op : AuthOp} (h : op.TakesPending auth)
    (hfails : op.succeeds isUrl auth = false) :
    (op.perform isUrl auth).oauthPending = none := by
  obtain ⟨code, state, server, rfl, hpending⟩ := h
  obtain ⟨pending, hsome⟩ := Option.isSome_iff_exists.mp hpending
  unfold AuthOp.succeeds at hfails
  unfold AuthOp.perform
  simp only [run, completeOauth_of_pending hsome] at hfails ⊢
  rcases run_request_bind isUrl
      (server ⟨pending.aliasKey, code, state, pending.pkceVerifier⟩)
      (fun _ => modify fun auth => { auth with state := .authenticated })
      { auth with oauthPending := none } with ⟨data, -, hrun⟩ | ⟨fault, -, hrun⟩
  · rw [hrun] at hfails
    cases hfails
  · rw [hrun]
    rfl

/--
An auth operation that fails leaves everything but the cookies as it was,
exactly when it is not an OAuth callback that finds its flow pending.
-/
theorem failed_op_clean_iff {op : AuthOp}
    (hfails : op.succeeds isUrl auth = false) :
    SameButCookies auth (op.perform isUrl auth) ↔ ¬ op.TakesPending auth := by
  constructor
  · intro hsame htakes
    have hdropped := takesPending_drops htakes hfails
    rw [hsame] at hdropped
    obtain ⟨code, state, server, -, hpending⟩ := htakes
    rw [hdropped] at hpending
    cases hpending
  · intro hno
    have hclean : FailsClean auth (op.run isUrl) := run_clean hno
    have hrun := hclean auth (.refl auth)
    obtain ⟨fault, herror⟩ := eq_error_of_not_succeeds hfails
    rw [herror] at hrun
    exact hrun

theorem failed_op_clean_iff_unconfigured :
    SameButCookies (.new "device")
      (loginExample.perform httpsOnly (.new "device")) ↔
      ¬ loginExample.TakesPending (.new "device") :=
  failed_op_clean_iff (by decide +kernel)

def awaitingCallback : AuthCoordinator :=
  oauthExample.perform httpsOnly
    (activateExample.perform httpsOnly (.new "device"))

def timedOutCallback : AuthOp :=
  .completeOauth "code" "state" fun _ => ⟨[], .error "operation timed out"⟩

theorem timedOutCallback_loses_flow :
    ¬ ∀ (isUrl : String → Bool) (auth : AuthCoordinator) (op : AuthOp),
      op.succeeds isUrl auth = false →
        SameButCookies auth (op.perform isUrl auth) := by
  intro h
  have hsame :=
    h httpsOnly awaitingCallback timedOutCallback (by decide +kernel)
  have hpending := congrArg AuthCoordinator.oauthPending hsame
  revert hpending
  decide +kernel

end AuthOp

end Rustylink.Daemon
