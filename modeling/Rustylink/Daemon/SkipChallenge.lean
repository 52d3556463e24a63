import Rustylink.Daemon.AuthMoves
import Rustylink.Foundation.Transition

/-!
# Skipping a challenge

The handler asks only for a configured tenant, the coordinator only for a
client, and the core function decides the next state from the reply alone:
none of them looks at the state that is left.
-/

namespace Rustylink.Core

def AuthState.isSkippable : AuthState → Bool
  | .awaitingMfa _ _ canSkip _ _ => canSkip
  | _ => false

end Rustylink.Core

namespace Rustylink.Daemon

open Rustylink.Foundation Rustylink.Core Rustylink.Api

namespace AuthCoordinator

variable (isUrl : String → Bool)

def requireConfigured : AuthM Unit := do
  if (← get).state = .unconfigured then throw .notConfigured else pure ()

def skipPendingChallenge (server : Server LoginV2Result) : AuthM Unit := do
  requireConfigured
  skipChallenge isUrl server

/--
A skip authenticates only out of a skippable challenge, and fails everywhere
else.
-/
structure SkipGuarded (server : Server LoginV2Result)
    (auth : AuthCoordinator) : Prop where
  authenticates : auth.state ≠ .authenticated →
    (leaves (skipPendingChallenge isUrl server auth)).state = .authenticated →
      auth.state.isSkippable = true
  elsewhere : auth.state.isSkippable = false →
    Foundation.succeeds (skipPendingChallenge isUrl server auth) = false ∧
      (leaves (skipPendingChallenge isUrl server auth)).state = auth.state

/--
The challenge is skippable, or there is nobody to ask, or the server refuses.
-/
def SkipRefused (server : Server LoginV2Result)
    (auth : AuthCoordinator) : Prop :=
  auth.state.isSkippable = true ∨ auth.state = .unconfigured ∨
    auth.buildTenantClient isUrl = false ∨
      ∃ message, (server "/api/v1/login/skip").body = .error message

variable {isUrl} {server : Server LoginV2Result} {auth : AuthCoordinator}

theorem answered_eq_none_iff {α : Type} {reply : Reply α} :
    auth.answered isUrl reply = none ↔
      auth.buildTenantClient isUrl = false ∨
        ∃ message, reply.body = .error message := by
  unfold answered
  cases auth.buildTenantClient isUrl <;> cases hbody : reply.body <;>
    simp [Except.toOption]

theorem run_requireConfigured (auth : AuthCoordinator) :
    requireConfigured auth =
      if auth.state = .unconfigured then .error .notConfigured auth
        else .ok () auth := by
  simp only [requireConfigured, run_bind, run_get]
  split <;> rfl

theorem run_skipPendingChallenge (isUrl : String → Bool)
    (server : Server LoginV2Result) (auth : AuthCoordinator) :
    (auth.state ≠ .unconfigured ∧
      ∃ data, auth.answered isUrl (server "/api/v1/login/skip") = some data ∧
        ∃ after, skipPendingChallenge isUrl server auth = .ok () after ∧
          after.state = nextAuthState data) ∨
    ((auth.state = .unconfigured ∨
        auth.answered isUrl (server "/api/v1/login/skip") = none) ∧
      ∃ fault after, skipPendingChallenge isUrl server auth =
        .error fault after ∧
        after.state = auth.state) := by
  have hpath : auth.versioned "/api/v1/login/skip" "/api/v1/login/skip" =
      "/api/v1/login/skip" := ite_self _
  simp only [skipPendingChallenge, run_bind, run_requireConfigured]
  by_cases hstate : auth.state = .unconfigured
  · rw [if_pos hstate]
    exact .inr ⟨.inl hstate, _, _, rfl, rfl⟩
  · rw [if_neg hstate]
    dsimp only
    unfold skipChallenge enterNext
    rw [AuthOp.run_versioned, hpath]
    rcases run_request_bind isUrl (server "/api/v1/login/skip") _ auth with
      ⟨data, hanswer, hrun⟩ | ⟨fault, hnone, hrun⟩
    · rw [hrun]
      exact .inl ⟨hstate, data, hanswer, _, rfl, rfl⟩
    · rw [hrun]
      exact .inr ⟨.inr hnone, fault, _, rfl, rfl⟩

theorem skipGuarded_iff :
    SkipGuarded isUrl server auth ↔ SkipRefused isUrl server auth := by
  rcases run_skipPendingChallenge isUrl server auth with
    ⟨hconfigured, data, hanswer, after, hrun, hnext⟩ | ⟨hwhy, fault,
      after, hrun, hsame⟩
  · constructor
    · intro hguarded
      by_contra hnot
      have hskip : auth.state.isSkippable = false := by
        by_contra hskip
        exact hnot (.inl (by simpa using hskip))
      have hfails := (hguarded.elsewhere hskip).1
      rw [hrun] at hfails
      cases hfails
    · intro hrefused
      have hskip : auth.state.isSkippable = true := by
        rcases hrefused with h | h | h
        · exact h
        · exact absurd h hconfigured
        · rw [answered_eq_none_iff.mpr h] at hanswer
          cases hanswer
      exact ⟨fun _ _ => hskip, fun hno => by rw [hskip] at hno; cases hno⟩
  · have hrefused : SkipRefused isUrl server auth := by
      rcases hwhy with h | h
      · exact .inr (.inl h)
      · exact .inr (.inr (answered_eq_none_iff.mp h))
    refine ⟨fun _ => hrefused, fun _ => ⟨fun hstate hafter => ?_, fun _ => ?_⟩⟩
    · rw [hrun] at hafter
      exact absurd (hsame.symm.trans hafter) hstate
    · rw [hrun]
      exact ⟨rfl, hsame⟩

/--
In a run of the machine every skip is guarded exactly when each of them finds
a skippable challenge or is refused.
-/
theorem skips_guarded_iff {auth : AuthCoordinator} {ops : List AuthOp} :
    Along (step isUrl) (fun auth op =>
        ∀ server, op = .skipChallenge server → SkipGuarded isUrl server auth)
          auth ops ↔
      Along (step isUrl) (fun auth op =>
        ∀ server, op = .skipChallenge server → SkipRefused isUrl server auth)
          auth ops := by
  constructor
  · exact .of_invariant (I := fun _ => True) (fun _ _ _ _ _ _ => trivial)
      (fun _ _ _ hguarded server hop =>
        skipGuarded_iff.mp (hguarded server hop)) trivial
  · exact .of_invariant (I := fun _ => True) (fun _ _ _ _ _ _ => trivial)
      (fun _ _ _ hrefused server hop =>
        skipGuarded_iff.mpr (hrefused server hop)) trivial

def skipReply : Server LoginV2Result := fun _ => ⟨[], .ok none⟩

theorem skip_authenticates_configured :
    ∃ auth, Reachable (step httpsOnly) Initial auth ∧ auth.state = .configured ∧
      Foundation.succeeds (skipPendingChallenge httpsOnly skipReply auth) =
        true ∧
      (leaves (skipPendingChallenge httpsOnly skipReply auth)).state =
        .authenticated :=
  ⟨final (step httpsOnly) (new "device") [activateExample],
    ⟨new "device", [activateExample], .inl ⟨"device", rfl⟩,
      exec_final (by decide +kernel)⟩,
    by decide +kernel, by decide +kernel, by decide +kernel⟩

end AuthCoordinator

end Rustylink.Daemon
