import Rustylink.Daemon.Persist

/-!
# Logging out

`logout` clears the session in one lock-held section and deletes the
credentials file afterwards.  A call of `persist_credentials` that took its
snapshot before that section is not awaited, and may save it at any time.
-/

namespace Rustylink.Daemon

open Rustylink.Foundation Rustylink.Core

inductive LogoutPc where
  | refused
  | configured
  | cleared
  | returned
  deriving DecidableEq, Repr

structure LogoutState where
  store : CredentialStore
  logouts : List LogoutPc
  deriving DecidableEq, Repr

inductive LogoutAction where
  | persist (action : SaveAction CredentialChange String)
  | logout
  | clear (call : Nat)
  | delete (call : Nat) (removed : Bool)

def requireConfigured (auth : AuthMachine) : Bool := auth.state ≠ .unconfigured

namespace LogoutState

def clearSection (s : LogoutState) : CredentialStore :=
  { s.store with
    memory := { s.store.memory with auth := s.store.memory.auth.logout } }

def step (s : LogoutState) : LogoutAction → Option LogoutState
  | .persist action =>
      (s.store.step persistCredentials action).map fun store =>
        { s with store := store }
  | .logout =>
      let pc :=
        if requireConfigured s.store.memory.auth then .configured else .refused
      some { s with logouts := s.logouts ++ [pc] }
  | .clear call =>
      if s.logouts[call]? = some .configured then
        some ⟨s.clearSection, s.logouts.set call .cleared⟩
      else none
  | .delete call removed =>
      if s.logouts[call]? = some .cleared then
        some ⟨if removed then s.store.delete else s.store,
          s.logouts.set call .returned⟩
      else none

def Initial (s : LogoutState) : Prop := s.store.Fresh ∧ s.logouts = []

def NoAuthentication : LogoutAction → Prop
  | .persist (.change (.auth auth)) => auth.state ≠ .authenticated
  | _ => True

/-- The call deletes the file, and no other call is about to write it again. -/
def DeletesForGood (call : Nat) (s : LogoutState) : LogoutAction → Prop
  | .delete other removed => other = call → removed = true ∧ s.store.NothingHeld
  | _ => True

/-! ## The invariant -/

structure LoggedOut (call : Nat) (s : LogoutState) : Prop where
  state : s.store.memory.auth.state ≠ .authenticated
  file : s.logouts[call]? = some .cleared ∨
    (s.logouts[call]? = some .returned ∧ s.store.file = none ∧
      s.store.NothingHeld)

theorem snapshotCredentials_eq_none {memory : CredentialMemory} (now : String)
    (h : memory.auth.state ≠ .authenticated) :
    snapshotCredentials now memory = none := by
  unfold snapshotCredentials
  exact if_pos h

theorem persist_state {s s' : CredentialStore}
    {action : SaveAction CredentialChange String}
    (h : s.memory.auth.state ≠ .authenticated)
    (hok : NoAuthentication (.persist action))
    (hstep : s.step persistCredentials action = some s') :
    s'.memory.auth.state ≠ .authenticated := by
  cases action with
  | change change =>
      cases hstep
      have hmemory : (s.change persistCredentials change).memory =
          (applyCredentialChange change s.memory).1 := by
        unfold SnapshotStore.change
        dsimp only
        split <;> rfl
      rw [hmemory]
      cases change with
      | mergeCookies updates => exact h
      | auth auth => exact hok
      | vpn vpn => exact h
  | begin =>
      cases hstep
      exact h
  | snapshot now moment =>
      simp only [SnapshotStore.step, SnapshotStore.takeSnapshot] at hstep
      split at hstep
      · split at hstep <;> cases hstep <;> exact h
      · cases hstep
  | save other written =>
      simp only [SnapshotStore.step, SnapshotStore.save] at hstep
      split at hstep
      · split at hstep <;> cases hstep <;> exact h
      · cases hstep

theorem LoggedOut.persist {call : Nat} {s : LogoutState}
    {store : CredentialStore} {action : SaveAction CredentialChange String}
    (h : LoggedOut call s)
    (hok : NoAuthentication (.persist action))
    (hstep : s.store.step persistCredentials action = some store) :
    LoggedOut call { s with store := store } := by
  refine ⟨persist_state h.state hok hstep, ?_⟩
  rcases h.file with hcleared | ⟨hreturned, hfile, hheld⟩
  · exact .inl hcleared
  · have hnone : ∀ now, persistCredentials.snapshot now s.store.memory = none :=
      fun now => snapshotCredentials_eq_none now h.state
    obtain ⟨hheld', hfile'⟩ := hheld.step hnone hstep
    exact .inr ⟨hreturned, hfile'.trans hfile, hheld'⟩

theorem set_other {logouts : List LogoutPc} {call other : Nat}
    {old new pc : LogoutPc} (hother : logouts[other]? = some old)
    (hne : call ≠ other)
    (h : logouts[call]? = some pc) : (logouts.set other new)[call]? = some pc :=
  (get_set hother).mpr (.inr ⟨hne, h⟩)

theorem LoggedOut.step {call : Nat} {s s' : LogoutState} {a : LogoutAction}
    (h : LoggedOut call s) (hok : NoAuthentication a ∧ DeletesForGood call s a)
    (hstep : s.step a = some s') : LoggedOut call s' := by
  cases a with
  | persist action =>
      simp only [LogoutState.step, Option.map_eq_some_iff] at hstep
      obtain ⟨store, hstore, rfl⟩ := hstep
      exact h.persist hok.1 hstore
  | logout =>
      cases hstep
      refine ⟨h.state, ?_⟩
      rcases h.file with hcleared | ⟨hreturned, hfile, hheld⟩
      · exact .inl (get_spawn.mpr (.inl hcleared))
      · exact .inr ⟨get_spawn.mpr (.inl hreturned), hfile, hheld⟩
  | clear other =>
      simp only [LogoutState.step, Option.ite_none_right_eq_some,
        Option.some.injEq]
        at hstep
      obtain ⟨hother, rfl⟩ := hstep
      refine ⟨by simp [clearSection, AuthMachine.logout], ?_⟩
      have hne : ∀ pc, pc ≠ .configured → s.logouts[call]? = some pc →
          call ≠ other := by
        rintro pc hpc hcall rfl
        rw [hcall] at hother
        cases hother
        exact hpc rfl
      rcases h.file with hcleared | ⟨hreturned, hfile, hheld⟩
      · exact .inl (set_other hother (hne _ (by decide) hcleared) hcleared)
      · exact .inr ⟨set_other hother (hne _ (by decide) hreturned) hreturned,
          hfile, hheld⟩
  | delete other removed =>
      simp only [LogoutState.step, Option.ite_none_right_eq_some,
        Option.some.injEq]
        at hstep
      obtain ⟨hother, rfl⟩ := hstep
      refine ⟨by cases removed <;> exact h.state, ?_⟩
      by_cases hsame : other = call
      · subst hsame
        obtain ⟨rfl, hheld⟩ := hok.2 rfl
        exact .inr ⟨get_set_self hother, rfl, hheld⟩
      · rcases h.file with hcleared | ⟨hreturned, hfile, hheld⟩
        · exact .inl (set_other hother (Ne.symm hsame) hcleared)
        · refine .inr ⟨set_other hother (Ne.symm hsame) hreturned, ?_⟩
          cases removed with
          | true => exact ⟨rfl, hheld⟩
          | false => exact ⟨hfile, hheld⟩

theorem LoggedOut.begin {call : Nat} {s s' : LogoutState}
    (hstep : s.step (.clear call) = some s') : LoggedOut call s' := by
  simp only [LogoutState.step, Option.ite_none_right_eq_some,
    Option.some.injEq] at hstep
  obtain ⟨hcall, rfl⟩ := hstep
  exact ⟨by simp [clearSection, AuthMachine.logout],
    .inl (get_set_self hcall)⟩

/-! ## The run -/

/--
Let any steps follow the clearing section of a logout that authenticate nothing,
and let it delete the file while no snapshot waits to be saved.  Once it has
returned there is no credentials file, in that state and in all later ones.
-/
theorem logout_final {call : Nat} {s₀ s t : LogoutState}
    {as : List LogoutAction} (hclear : s₀.step (.clear call) = some s)
    (hok : Along step (fun s a => NoAuthentication a ∧ DeletesForGood call s a)
      s as)
    (hrun : exec step s as = some t)
    (hreturned : t.logouts[call]? = some .returned) :
    t.store.file = none := by
  have hlogged : LoggedOut call t :=
    exec_invariant (fun _ _ _ h hok hstep => h.step hok hstep)
      (.begin hclear) hok hrun
  rcases hlogged.file with hcleared | ⟨-, hfile, -⟩
  · rw [hreturned] at hcleared
    cases hcleared
  · exact hfile

def restored : LogoutState := ⟨unsavedSession, []⟩

def savedBefore : LogoutState :=
  final step restored [.persist .begin,
    .persist (.snapshot 0 "2025-01-01T00:00:00Z"), .persist (.save 0 true),
    .logout]

theorem logout_final_savedBefore :
    (final step savedBefore [.clear 0, .delete 0 true]).store.file = none := by
  have hclear : savedBefore.step (.clear 0) =
      some (final step savedBefore [.clear 0]) :=
    rfl
  have hok : Along step (fun s a => NoAuthentication a ∧ DeletesForGood 0 s a)
      (final step savedBefore [.clear 0]) [.delete 0 true] := by
    refine ⟨⟨trivial, fun _ => ⟨rfl, ?_⟩⟩, fun _ _ => trivial⟩
    intro other data index hother
    have hfinished := List.mem_singleton.mp (List.mem_of_getElem? hother)
    cases hfinished
  exact logout_final hclear hok rfl rfl

def savedAfter : List LogoutAction := [.delete 0 true, .persist (.save 0 true)]

def snapshotBefore : List LogoutAction :=
  [.persist .begin, .persist (.snapshot 0 "2025-01-01T00:00:00Z"), .logout]

theorem savedAfter_restores_session :
    ¬ ∀ (call : Nat) (s₀ s t : LogoutState) (as : List LogoutAction),
      Reachable step Initial s₀ → s₀.step (.clear call) = some s →
      (∀ a ∈ as, NoAuthentication a) → exec step s as = some t →
      t.logouts[call]? = some .returned → t.store.AllFinished →
      t.store.file = none := by
  intro h
  have hreachable :
      Reachable step Initial (final step restored snapshotBefore) :=
    ⟨restored, snapshotBefore,
      ⟨⟨rfl, rfl, by simp [restored, unsavedSession]⟩, rfl⟩,
      exec_final (by decide)⟩
  have hno : ∀ a ∈ savedAfter, NoAuthentication a := by
    simp [savedAfter, NoAuthentication]
  have hfile := h 0 _ (final step restored (snapshotBefore ++ [.clear 0]))
    (final step restored (snapshotBefore ++ [.clear 0] ++ savedAfter))
      savedAfter
    hreachable rfl hno rfl rfl (by decide)
  revert hfile
  decide

end LogoutState

end Rustylink.Daemon
