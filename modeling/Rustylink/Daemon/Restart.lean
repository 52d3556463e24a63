import Rustylink.Daemon.AuthStates

/-!
# The session after a restart

The credentials file is written by `persist_credentials` and removed by
`delete_credentials`, each an atomic step here.  A handler comes to its own
save after the side effects of the login; a changed jar has one spawned by its
listener, and so has a tunnel that comes up.
-/

namespace Rustylink.Daemon

open Rustylink.Foundation Rustylink.Core Rustylink.Api

inductive SaveTask where
  | persist
  | delete
  | done
  deriving DecidableEq, Repr

structure StoredDaemon where
  daemon : AuthDaemon
  file : Option PersistedCredentials
  saves : List SaveTask
  deriving DecidableEq, Repr

inductive StoredAction where
  | auth (action : AuthAction)
  | beginPersist
  | persist (task : Nat) (vpn : Option VpnState) (now : String)
  | delete (task : Nat)

def AuthCallPc.persistsLater : AuthCallPc → Bool
  | .postLogin | .fetchTotp | .totpRequested | .setTotp _ => true
  | _ => false

/-- The daemon as it starts, from what the credentials file holds. -/
def restart (deviceId : String) (file : Option PersistedCredentials) :
    AuthCoordinator :=
  match file with
  | none => (AuthCoordinator.new deviceId).restoreSession
  | some creds =>
      (AuthCoordinator.restoreFromCredentials creds deviceId).restoreSession

/-- The cookies that a section merges into the jar. -/
def AuthAction.setCookies (isUrl : String → Bool) (s : AuthDaemon) :
    AuthAction → Cookies
  | .op call => call.setCookies isUrl s.auth
  | .pollReply _ reply => reply.setCookies
  | .totpReply _ reply _ => reply.setCookies
  | .response _ setCookies => setCookies
  | _ => []

namespace StoredDaemon

variable (isUrl : String → Bool)

def spawned (a : AuthAction) (before after : AuthDaemon) : List SaveTask :=
  let ofListener : List SaveTask :=
    if (mergeCookies (a.setCookies isUrl before)
      before.auth.cookies).2 then [.persist] else []
  let ofHandler : List SaveTask :=
    match a with
    | .op (.logout _) => [.delete]
    | .op (.refreshLoginApiVersion _) => [.persist]
    | .postLogin call | .fetchTotp call | .totpReply call _ _ | .setTotp call =>
        if after.calls[call]? = some .returned then [.persist] else []
    | _ => []
  ofListener ++ ofHandler

def after (a : AuthAction) (s : StoredDaemon) (daemon : AuthDaemon) :
    StoredDaemon :=
  ⟨daemon, s.file, s.saves ++ spawned isUrl a s.daemon daemon⟩

def step (s : StoredDaemon) : StoredAction → Option StoredDaemon
  | .auth (.op .restoreSession) => none
  | .auth a => (s.daemon.step isUrl a).map (s.after isUrl a)
  | .beginPersist => some { s with saves := s.saves ++ [.persist] }
  | .persist task vpn now =>
      if s.saves[task]? = some .persist then some { s with
        file :=
          (snapshotCredentials now ⟨s.daemon.auth.toAuthMachine, vpn⟩).or s.file
        saves := s.saves.set task .done }
      else none
  | .delete task =>
      if s.saves[task]? = some .delete then
        some { s with file := none, saves := s.saves.set task .done }
      else none

def Initial (s : StoredDaemon) : Prop :=
  (∃ deviceId, s.daemon.auth = restart deviceId s.file) ∧ s.daemon.calls = [] ∧
    s.saves = []

/-! ## Faithful restarts -/

def PersistPending (s : StoredDaemon) : Prop :=
  (∃ pc ∈ s.daemon.calls, pc.persistsLater = true) ∨ .persist ∈ s.saves

instance (s : StoredDaemon) : Decidable s.PersistPending :=
  inferInstanceAs
    (Decidable ((∃ pc ∈ s.daemon.calls, pc.persistsLater = true) ∨
      .persist ∈ s.saves))

def NothingInFlight (s : StoredDaemon) : Prop :=
  ¬ s.PersistPending ∧ .delete ∉ s.saves

instance (s : StoredDaemon) : Decidable s.NothingInFlight :=
  inferInstanceAs (Decidable (¬ s.PersistPending ∧ .delete ∉ s.saves))

structure SameCredentials (auth other : AuthMachine) : Prop where
  tenant : auth.tenant = other.tenant
  signing : auth.signing = other.signing
  cookies : auth.cookies = other.cookies
  knockToken : auth.knockToken = other.knockToken
  totp : auth.totp = other.totp
  loginApiVersion : auth.loginApiVersion = other.loginApiVersion

def RestartFaithful (s : StoredDaemon) : Prop :=
  s.NothingInFlight → ∀ deviceId,
    ((restart deviceId s.file).state = .authenticated ↔
      s.daemon.auth.state = .authenticated) ∧
      (s.daemon.auth.state = .authenticated →
        SameCredentials (restart deviceId s.file).toAuthMachine
          s.daemon.auth.toAuthMachine)

/-- The file holds no session, or is about to be deleted. -/
def NoSession (s : StoredDaemon) : Prop :=
  (∀ creds, s.file = some creds → creds.cookies = []) ∨ .delete ∈ s.saves

/--
Nothing but a logout ends a session that the file holds; whatever authenticates
leaves a cookie in the jar; and the file is not deleted under a session whose
last save is over.
-/
def FileFollows (s : StoredDaemon) : StoredAction → Prop
  | .auth (.op (.logout _)) => True
  | .auth (.op call) => ∀ state, call.enters isUrl s.daemon.auth = some state →
      if state = .authenticated then
        s.daemon.auth.cookies ≠ [] ∨ call.setCookies isUrl s.daemon.auth ≠ []
      else s.daemon.auth.state = .authenticated → s.NoSession
  | .auth (.completeDeviceLogin _) => s.daemon.auth.cookies ≠ []
  | .delete _ => s.daemon.auth.state = .authenticated → s.PersistPending
  | _ => True

/-! ## The invariant -/

def Holds (file : Option PersistedCredentials) (auth : AuthMachine) : Prop :=
  ∃ creds, file = some creds ∧ auth.tenant = some creds.tenant ∧
    auth.signing = some creds.signing ∧ auth.cookies = creds.cookies ∧
    auth.knockToken = creds.knockToken ∧ auth.totp = creds.totp ∧
    auth.loginApiVersion = creds.loginApiVersion

structure Follows (s : StoredDaemon) : Prop where
  signed : s.daemon.auth.tenant.isSome = true →
    s.daemon.auth.signing.isSome = true
  polls : ∀ pc ∈ s.daemon.calls, pc.pollToken.isSome = true →
    s.daemon.auth.tenant.isSome = true
  session : s.daemon.auth.state = .authenticated →
    s.daemon.auth.tenant.isSome = true ∧ s.daemon.auth.cookies ≠ []
  saved : s.daemon.auth.state = .authenticated →
    s.PersistPending ∨ Holds s.file s.daemon.auth.toAuthMachine
  closed : s.daemon.auth.state ≠ .authenticated → s.NoSession

variable {isUrl} {s s' : StoredDaemon}

theorem restart_authenticated_iff (deviceId : String)
    (file : Option PersistedCredentials) :
    (restart deviceId file).state = .authenticated ↔
      ∃ creds, file = some creds ∧ creds.cookies ≠ [] := by
  cases file with
  | none => simp [restart, AuthCoordinator.restoreSession, AuthCoordinator.new]
  | some creds =>
      simp only [restart, Option.some.injEq, exists_eq_left']
      rw [AuthCoordinator.restoreSession_of_tenant rfl]
      cases hcookies : creds.cookies <;>
        simp [AuthCoordinator.restoreFromCredentials, hcookies]

theorem restart_holds (deviceId : String) (creds : PersistedCredentials) :
    Holds (some creds) (restart deviceId (some creds)).toAuthMachine := by
  have hrestart : restart deviceId (some creds) = _ :=
    AuthCoordinator.restoreSession_of_tenant rfl
  rw [hrestart]
  exact ⟨creds, rfl, rfl, rfl, rfl, rfl, rfl, rfl⟩

theorem Holds.sameCredentials {file : Option PersistedCredentials}
    {auth other : AuthMachine} (h : Holds file auth) (hother : Holds file other)
    : SameCredentials auth other := by
  obtain ⟨creds, hfile, htenant, hsigning, hcookies, hknock, htotp, hversion⟩ :=
    h
  obtain ⟨creds', hfile', htenant', hsigning', hcookies', hknock', htotp',
      hversion'⟩ := hother
  rw [hfile] at hfile'
  cases hfile'
  exact ⟨htenant.trans htenant'.symm, hsigning.trans hsigning'.symm,
    hcookies.trans hcookies'.symm, hknock.trans hknock'.symm,
    htotp.trans htotp'.symm, hversion.trans hversion'.symm⟩

theorem Follows.faithful (h : Follows s) : s.RestartFaithful := by
  rintro ⟨hpersist, hdelete⟩ deviceId
  rw [restart_authenticated_iff]
  by_cases hstate : s.daemon.auth.state = .authenticated
  · have hholds := (h.saved hstate).resolve_left hpersist
    have hholds' := hholds
    obtain ⟨creds, hfile, -, -, hcookies, -⟩ := hholds'
    refine ⟨⟨fun _ => hstate, fun _ => ⟨creds, hfile, ?_⟩⟩, fun _ => ?_⟩
    · rw [← hcookies]
      exact (h.session hstate).2
    · apply Holds.sameCredentials _ hholds
      rw [hfile]
      exact restart_holds deviceId creds
  · refine ⟨⟨?_, fun hauth => absurd hauth hstate⟩, fun hauth =>
      absurd hauth hstate⟩
    rintro ⟨creds, hfile, hcookies⟩
    have hnone := (h.closed hstate).resolve_right hdelete
    exact absurd (hnone creds hfile) hcookies

theorem Follows.initial (h : s.Initial) : Follows s := by
  obtain ⟨⟨deviceId, hauth⟩, hcalls, hsaves⟩ := h
  have hstart := restart_authenticated_iff deviceId s.file
  rw [← hauth] at hstart
  have hholds : ∀ creds, s.file = some creds →
      Holds s.file s.daemon.auth.toAuthMachine := by
    intro creds hfile
    rw [hauth, hfile]
    exact restart_holds deviceId creds
  refine ⟨fun htenant =>
    ?_, by simp [hcalls], fun hstate => ?_, fun hstate => ?_,
    fun hstate => .inl fun creds hfile => ?_⟩
  · cases hfile : s.file with
    | none =>
        rw [hauth, hfile] at htenant
        contradiction
    | some creds =>
        obtain ⟨creds, -, -, hsigning, -⟩ := hholds creds hfile
        rw [hsigning]
        rfl
  · obtain ⟨creds, hfile, hcookies⟩ := hstart.mp hstate
    obtain ⟨creds', hfile', htenant, -, hjar, -⟩ := hholds creds hfile
    rw [hfile] at hfile'
    cases hfile'
    rw [htenant, hjar]
    exact ⟨rfl, hcookies⟩
  · obtain ⟨creds, hfile, -⟩ := hstart.mp hstate
    exact .inr (hholds creds hfile)
  · by_contra hcookies
    exact hstate (hstart.mpr ⟨creds, hfile, hcookies⟩)

/-! ## The steps -/

theorem NoSession.mono (h : s.NoSession) (hfile : s'.file = s.file)
    (hdelete : .delete ∈ s.saves → .delete ∈ s'.saves) : s'.NoSession := by
  rcases h with hnone | hpending
  · exact .inl (hfile ▸ hnone)
  · exact .inr (hdelete hpending)

theorem Follows.frame (h : Follows s)
    (hstate : s'.daemon.auth.state = s.daemon.auth.state)
    (htenant : s.daemon.auth.tenant.isSome = true →
      s'.daemon.auth.tenant.isSome = true)
    (hsigned : s'.daemon.auth.tenant.isSome = true →
      s'.daemon.auth.signing.isSome = true)
    (hcookies : s.daemon.auth.cookies ≠ [] → s'.daemon.auth.cookies ≠ [])
    (hfile : s'.file = s.file)
    (hdelete : .delete ∈ s.saves → .delete ∈ s'.saves)
    (hpolls : ∀ pc ∈ s'.daemon.calls, pc.pollToken.isSome = true →
      s.daemon.auth.tenant.isSome = true)
    (hsaved : s'.PersistPending ∨ (s.PersistPending → s'.PersistPending) ∧
      s'.daemon.auth.toAuthMachine = s.daemon.auth.toAuthMachine) :
        Follows s' := by
  refine ⟨hsigned, fun pc hpc htoken => htenant (hpolls pc hpc htoken),
    fun hauth => ?_, fun hauth => ?_, fun hauth => ?_⟩
  · rw [hstate] at hauth
    exact ⟨htenant (h.session hauth).1, hcookies (h.session hauth).2⟩
  · rw [hstate] at hauth
    rcases hsaved with hpending | ⟨hpending, hsame⟩
    · exact .inl hpending
    · rw [hsame, hfile]
      exact (h.saved hauth).imp_left hpending
  · rw [hstate] at hauth
    exact (h.closed hauth).mono hfile hdelete

section after

variable {a : AuthAction} {daemon : AuthDaemon}

theorem delete_mem_after (h : .delete ∈ s.saves) :
    .delete ∈ (s.after isUrl a daemon).saves :=
  List.mem_append_left _ h

theorem pending_of_changed
    (h : (mergeCookies (a.setCookies isUrl s.daemon) s.daemon.auth.cookies).2 =
      true) :
    (s.after isUrl a daemon).PersistPending := by
  right
  simp [after, spawned, h]

theorem pending_of_calls {pc : AuthCallPc} (hpc : pc ∈ daemon.calls)
    (hpersists : pc.persistsLater = true) :
    (s.after isUrl a daemon).PersistPending :=
  .inl ⟨pc, hpc, hpersists⟩

end after

theorem Follows.absorb {a : AuthAction} {daemon : AuthDaemon} (h : Follows s)
    (hauth : daemon.auth.toAuthMachine =
      (s.daemon.auth.absorb (a.setCookies isUrl s.daemon)).toAuthMachine)
    (hpolls : ∀ pc ∈ daemon.calls, pc.pollToken.isSome = true →
      s.daemon.auth.tenant.isSome = true)
    (hcalls : s.PersistPending → (s.after isUrl a daemon).PersistPending) :
    Follows (s.after isUrl a daemon) := by
  have hstate := congrArg AuthMachine.state hauth
  have htenant : daemon.auth.tenant = s.daemon.auth.tenant :=
    (congrArg AuthMachine.tenant hauth :)
  have hsigning : daemon.auth.signing = s.daemon.auth.signing :=
    (congrArg AuthMachine.signing hauth :)
  have hjar := congrArg AuthMachine.cookies hauth
  refine h.frame hstate (htenant ▸ id) (htenant ▸ hsigning ▸ h.signed)
    (fun hcookies => ?_) rfl delete_mem_after hpolls ?_
  · change daemon.auth.cookies ≠ []
    rw [hjar]
    exact mergeCookies_ne_nil _ hcookies
  · cases hchanged :
        (mergeCookies (a.setCookies isUrl s.daemon)
            s.daemon.auth.cookies).2 with
    | true => exact .inl (pending_of_changed hchanged)
    | false =>
        refine .inr ⟨hcalls, hauth.trans ?_⟩
        rw [AuthCoordinator.absorb, mergeCookies_unchanged hchanged]

/-! ### Operations -/

theorem tenant_of_client {auth : AuthCoordinator}
    (h : auth.buildTenantClient isUrl = true) :
    auth.tenant.isSome = true := by
  unfold AuthCoordinator.buildTenantClient at h
  cases htenant : auth.tenant with
  | none =>
      rw [htenant] at h
      contradiction
  | some tenant => rfl

section tenant

variable {auth : AuthCoordinator} {call : AuthOp}

theorem perform_tenant_isSome (h : auth.tenant.isSome = true) :
    (call.perform isUrl auth).tenant.isSome = true := by
  rcases AuthOp.perform_tenant isUrl auth call with ⟨hsame, -⟩ | ⟨hsome, -⟩
  · rw [hsame]
    exact h
  · exact hsome

theorem perform_signed
    (h : auth.tenant.isSome = true → auth.signing.isSome = true)
    (htenant : (call.perform isUrl auth).tenant.isSome = true) :
    (call.perform isUrl auth).signing.isSome = true := by
  rcases AuthOp.perform_tenant isUrl auth call with
    ⟨hsame, hsigning⟩ | ⟨-, hsome⟩
  · rw [hsame] at htenant
    rw [hsigning]
    exact h htenant
  · exact hsome

end tenant

section op

variable {call : AuthOp} {daemon : AuthDaemon}

theorem op_keeps_pending
    (heffect : AuthDaemon.OpEffect isUrl s.daemon call daemon)
    (h : s.PersistPending) :
    (s.after isUrl (.op call) daemon).PersistPending := by
  rcases h with ⟨pc, hpc, hpersists⟩ | hsave
  · refine pending_of_calls ?_ hpersists
    rcases heffect.calls with hsame | hspawn
    · rw [hsame]
      exact hpc
    · rw [hspawn]
      exact List.mem_append_left _ hpc
  · exact .inr (List.mem_append_left _ hsave)

theorem op_polls (h : Follows s)
    (heffect : AuthDaemon.OpEffect isUrl s.daemon call daemon) :
    ∀ pc ∈ daemon.calls, pc.pollToken.isSome = true →
      s.daemon.auth.tenant.isSome = true := by
  intro pc hpc htoken
  rcases heffect.calls with hsame | hspawn
  · rw [hsame] at hpc
    exact h.polls pc hpc htoken
  · rw [hspawn] at hpc
    rcases List.mem_append.mp hpc with hold | hnew
    · exact h.polls pc hold htoken
    · cases List.mem_singleton.mp hnew
      contradiction

theorem Follows.op_stays (h : Follows s)
    (heffect : AuthDaemon.OpEffect isUrl s.daemon call daemon)
    (hstays : call.enters isUrl s.daemon.auth = none) :
    Follows (s.after isUrl (.op call) daemon) := by
  have htotp : ∀ config, call ≠ .setTotp config := by
    rintro config rfl
    exact (nomatch heffect.handler)
  by_cases hrefresh : ∃ server, call = .refreshLoginApiVersion server
  · obtain ⟨server, rfl⟩ := hrefresh
    have hstate :=
      AuthOp.perform_state isUrl s.daemon.auth (.refreshLoginApiVersion server)
    have hcookies :
        ((AuthOp.refreshLoginApiVersion server).perform isUrl
            s.daemon.auth).cookies = _ :=
      (AuthOp.perform_session (by simp)).1
    rw [hstays, ← heffect.auth] at hstate
    rw [← heffect.auth] at hcookies
    refine h.frame hstate ?_ ?_ (fun hne => ?_) rfl delete_mem_after
      (op_polls h heffect)
      (.inl (.inr (by simp [after, spawned])))
    · exact heffect.auth ▸ perform_tenant_isSome
    · exact heffect.auth ▸ perform_signed h.signed
    · change daemon.auth.cookies ≠ []
      rw [hcookies]
      exact mergeCookies_ne_nil _ hne
  · have hmachine :=
      AuthOp.perform_of_stays hstays (not_exists.mp hrefresh) htotp
    rw [← heffect.auth] at hmachine
    exact h.absorb hmachine (op_polls h heffect) (op_keeps_pending heffect)

theorem Follows.op_authenticates (h : Follows s)
    (heffect : AuthDaemon.OpEffect isUrl s.daemon call daemon)
    (hspawns : call.continues = true →
      call.succeeds isUrl s.daemon.auth = true →
      daemon.calls = s.daemon.calls ++ [.postLogin])
    (hok : FileFollows isUrl s (.auth (.op call)))
    (hrestore : call ≠ .restoreSession)
    (henters : call.enters isUrl s.daemon.auth = some .authenticated) :
    Follows (s.after isUrl (.op call) daemon) := by
  obtain ⟨hclient, hcontinues, hsucceeds⟩ :=
    AuthOp.authenticates_spec heffect.handler hrestore henters
  have hlogout : ∀ server, call ≠ .logout server := by
    rintro server rfl
    contradiction
  have hsets : s.daemon.auth.cookies ≠ [] ∨
      call.setCookies isUrl s.daemon.auth ≠ [] := by
    cases call <;> first | exact absurd rfl (hlogout _) | simpa using hok _ henters
  have hstate : daemon.auth.state = .authenticated := by
    rw [heffect.auth, AuthOp.perform_state, henters]
    rfl
  have htenant : daemon.auth.tenant.isSome = true :=
    heffect.auth ▸ perform_tenant_isSome (tenant_of_client hclient)
  have hcookies : daemon.auth.cookies ≠ [] := by
    rw [heffect.auth, (AuthOp.perform_session hlogout).1]
    by_cases hempty : s.daemon.auth.cookies = []
    · rw [hempty, ne_eq, mergeCookies_empty_eq_nil]
      exact hsets.resolve_left (not_not_intro hempty)
    · exact mergeCookies_ne_nil _ hempty
  refine ⟨heffect.auth ▸ perform_signed h.signed, fun _ _ _ => htenant,
    fun _ => ⟨htenant, hcookies⟩, fun _ => .inl ?_,
    fun hother => absurd hstate hother⟩
  have hspawned : .postLogin ∈ daemon.calls := by
    rw [hspawns hcontinues hsucceeds]
    exact List.mem_append_right _ (List.mem_singleton_self _)
  exact pending_of_calls hspawned rfl

theorem Follows.op_leaves {state : AuthState} (h : Follows s)
    (heffect : AuthDaemon.OpEffect isUrl s.daemon call daemon)
    (hok : FileFollows isUrl s (.auth (.op call)))
    (henters : call.enters isUrl s.daemon.auth = some state)
    (hne : state ≠ .authenticated) :
    Follows (s.after isUrl (.op call) daemon) := by
  have hstate : daemon.auth.state ≠ .authenticated := by
    rw [heffect.auth, AuthOp.perform_state, henters]
    exact hne
  refine ⟨heffect.auth ▸ perform_signed h.signed, fun pc hpc htoken => ?_,
    fun hauth => absurd hauth hstate, fun hauth => absurd hauth hstate,
    fun _ => ?_⟩
  · exact heffect.auth ▸ perform_tenant_isSome
      (op_polls h heffect pc hpc htoken)
  · by_cases hlogout : ∃ server, call = .logout server
    · obtain ⟨server, rfl⟩ := hlogout
      exact .inr (by simp [after, spawned])
    · have hends : s.daemon.auth.state = .authenticated → s.NoSession := by
        cases call <;>
          first | exact absurd ⟨_, rfl⟩ hlogout | simpa [hne] using hok _ henters
      have hnone : s.NoSession := by
        by_cases hauth : s.daemon.auth.state = .authenticated
        · exact hends hauth
        · exact h.closed hauth
      exact hnone.mono rfl delete_mem_after

end op

/-! ### Calls -/

section calls

variable {a : AuthAction} {call : Nat} {pc next : AuthCallPc}

theorem goto_keeps_pending {auth : AuthCoordinator} (h : s.PersistPending)
    (hcall : s.daemon.calls[call]? = some pc) (hpc : pc.persistsLater = false) :
    (s.after isUrl a
      ({ s.daemon with auth := auth }.goto call next)).PersistPending := by
  rcases h with ⟨other, hother, hpersists⟩ | hsave
  · refine pending_of_calls (mem_set_of_ne hcall hother ?_) hpersists
    rintro rfl
    rw [hpc] at hpersists
    contradiction
  · exact .inr (List.mem_append_left _ hsave)

theorem goto_polls (h : Follows s) (hnext : next.pollToken = none ∨
      ∃ token, s.daemon.calls[call]? = some (.polling token)) :
    ∀ pc ∈ s.daemon.calls.set call next, pc.pollToken.isSome = true →
      s.daemon.auth.tenant.isSome = true := by
  intro pc hpc htoken
  rcases List.mem_or_eq_of_mem_set hpc with hold | rfl
  · exact h.polls pc hold htoken
  · rcases hnext with hnone | ⟨token, hcall⟩
    · rw [hnone] at htoken
      contradiction
    · exact h.polls _ (List.mem_of_getElem? hcall) rfl

theorem spawn_keeps_pending (h : s.PersistPending) :
    (s.after isUrl a (s.daemon.spawn next)).PersistPending := by
  rcases h with ⟨other, hother, hpersists⟩ | hsave
  · exact pending_of_calls (List.mem_append_left _ hother) hpersists
  · exact .inr (List.mem_append_left _ hsave)

theorem spawn_polls (h : Follows s)
    (hnext : next.pollToken.isSome = true →
      s.daemon.auth.tenant.isSome = true) :
    ∀ pc ∈ (s.daemon.spawn next).calls, pc.pollToken.isSome = true →
      s.daemon.auth.tenant.isSome = true := by
  intro pc hpc htoken
  rcases List.mem_append.mp hpc with hold | hnew
  · exact h.polls pc hold htoken
  · cases List.mem_singleton.mp hnew
    exact hnext htoken

theorem handler_pending {auth : AuthCoordinator}
    (hcall : s.daemon.calls[call]? = some pc)
    (hhandler : a = .postLogin call ∨ a = .fetchTotp call ∨ a = .setTotp call ∨
      ∃ reply now, a = .totpReply call reply now)
    (hnext : next.persistsLater = true ∨ next = .returned) :
    (s.after isUrl a
      ({ s.daemon with auth := auth }.goto call next)).PersistPending := by
  have hset : (s.daemon.calls.set call next)[call]? = some next :=
    get_set_self hcall
  rcases hnext with hpersists | rfl
  · exact pending_of_calls (List.mem_of_getElem? hset) hpersists
  · right
    rcases hhandler with rfl | rfl | rfl | ⟨reply, now, rfl⟩ <;>
      simp [after, spawned, AuthDaemon.goto, hset]

end calls

theorem Follows.auth_step {a : AuthAction} {daemon : AuthDaemon} (h : Follows s)
    (hok : FileFollows isUrl s (.auth a)) (hrestore : a ≠ .op .restoreSession)
    (hstep : s.daemon.step isUrl a = some daemon) :
    Follows (s.after isUrl a daemon) := by
  cases AuthDaemon.step_spec hstep with
  | @op call _ heffect =>
      cases henters : call.enters isUrl s.daemon.auth with
      | none => exact h.op_stays heffect henters
      | some state =>
          by_cases hauth : state = .authenticated
          · subst hauth
            refine h.op_authenticates heffect
              (fun hcontinues => AuthDaemon.performOp_spawns hstep hcontinues)
                hok ?_ henters
            rintro rfl
            exact hrestore rfl
          · exact h.op_leaves heffect hok henters hauth
  | beginPoll hclient =>
      exact h.absorb rfl (spawn_polls h fun _ => tenant_of_client hclient)
        spawn_keeps_pending
  | @pollDone call token _ hcall =>
      exact h.absorb rfl (goto_polls h (.inr ⟨token, hcall⟩))
        fun hpending => goto_keeps_pending hpending hcall rfl
  | pollAgain | response =>
      refine h.absorb rfl h.polls fun hpending => ?_
      rcases hpending with ⟨pc, hpc, hpersists⟩ | hsave
      · exact pending_of_calls hpc hpersists
      · exact .inr (List.mem_append_left _ hsave)
  | pollTimeout hcall =>
      exact h.absorb rfl (goto_polls h (.inl rfl))
        fun hpending => goto_keeps_pending hpending hcall rfl
  | @completeDeviceLogin call token hcall =>
      have htenant := h.polls _ (List.mem_of_getElem? hcall) rfl
      refine ⟨h.signed, goto_polls h (.inl rfl), fun _ => ⟨htenant, hok⟩,
        fun _ => .inl ?_, fun hother => absurd rfl hother⟩
      have hset : (s.daemon.calls.set call .postLogin)[call]? =
          some .postLogin :=
        get_set_self hcall
      exact pending_of_calls (List.mem_of_getElem? hset) rfl
  | postLogin hcall =>
      refine h.absorb rfl (goto_polls h (.inl (by split <;> rfl)))
        fun _ => handler_pending hcall (.inl rfl) ?_
      split
      · exact .inl rfl
      · exact .inr rfl
  | fetchTotp hcall =>
      refine h.absorb rfl (goto_polls h (.inl (by split <;> rfl)))
        fun _ => handler_pending hcall (.inr (.inl rfl)) ?_
      split
      · exact .inl rfl
      · exact .inr rfl
  | totpFound hcall =>
      exact h.absorb rfl (goto_polls h (.inl rfl))
        fun _ => handler_pending hcall (.inr (.inr (.inr ⟨_, _, rfl⟩)))
          (.inl rfl)
  | totpMissing hcall =>
      exact h.absorb rfl (goto_polls h (.inl rfl))
        fun _ => handler_pending hcall (.inr (.inr (.inr ⟨_, _, rfl⟩)))
          (.inr rfl)
  | setTotp hcall =>
      exact h.frame rfl id h.signed id rfl delete_mem_after
        (goto_polls h (.inl rfl))
        (.inl (handler_pending hcall (.inr (.inr (.inl rfl))) (.inr rfl)))
  | buildClient =>
      exact h.absorb rfl (spawn_polls h fun htoken => (nomatch htoken))
        spawn_keeps_pending

theorem Follows.persist {task : Nat} {vpn : Option VpnState} {now : String}
    (h : Follows s) (htask : s.saves[task]? = some .persist) :
    Follows { s with
      file :=
        (snapshotCredentials now ⟨s.daemon.auth.toAuthMachine, vpn⟩).or s.file
      saves := s.saves.set task .done } := by
  by_cases hauth : s.daemon.auth.state = .authenticated
  · have htenant := (h.session hauth).1
    obtain ⟨signing, hsigning⟩ := Option.isSome_iff_exists.mp (h.signed htenant)
    obtain ⟨tenant, htenant⟩ := Option.isSome_iff_exists.mp htenant
    refine ⟨h.signed, h.polls, h.session, fun _ => .inr ?_, fun hother =>
      absurd hauth hother⟩
    simp [snapshotCredentials, hauth, AuthMachine.toCredentialsWithVpn,
      AuthMachine.toCredentials, htenant, hsigning, Holds]
  · have hsnapshot :
        snapshotCredentials now ⟨s.daemon.auth.toAuthMachine, vpn⟩ = none :=
      if_pos hauth
    refine ⟨h.signed, h.polls, h.session, fun hother => absurd hother hauth,
      fun _ => ?_⟩
    exact (h.closed hauth).mono (by rw [hsnapshot]; rfl)
      fun hdelete => mem_set_of_ne htask hdelete (by simp)

theorem Follows.delete {task : Nat} (h : Follows s)
    (htask : s.saves[task]? = some .delete)
    (hok : s.daemon.auth.state = .authenticated → s.PersistPending) :
    Follows { s with file := none, saves := s.saves.set task .done } := by
  refine ⟨h.signed, h.polls, h.session, fun hauth => .inl ?_, fun _ =>
    .inl (by simp)⟩
  rcases hok hauth with hcall | hsave
  · exact .inl hcall
  · exact .inr (mem_set_of_ne htask hsave (by simp))

theorem Follows.step {a : StoredAction} (h : Follows s)
    (hok : FileFollows isUrl s a) (hstep : s.step isUrl a = some s') :
    Follows s' := by
  cases a with
  | auth a =>
      have hrestore : a ≠ .op .restoreSession := by
        rintro rfl
        contradiction
      have hmap : (s.daemon.step isUrl a).map (s.after isUrl a) = some s' := by
        cases a
        case op call => cases call <;> first | exact absurd rfl hrestore | exact hstep
        all_goals exact hstep
      rw [Option.map_eq_some_iff] at hmap
      obtain ⟨daemon, hdaemon, rfl⟩ := hmap
      exact h.auth_step hok hrestore hdaemon
  | beginPersist =>
      cases hstep
      exact h.frame rfl id h.signed id rfl (List.mem_append_left _) h.polls
        (.inl (.inr (List.mem_append_right _ (List.mem_singleton_self _))))
  | persist task vpn now =>
      simp only [StoredDaemon.step] at hstep
      split at hstep
      · rename_i htask
        cases hstep
        exact h.persist htask
      · contradiction
  | delete task =>
      simp only [StoredDaemon.step] at hstep
      split at hstep
      · rename_i htask
        cases hstep
        exact h.delete htask hok
      · contradiction

/-! ## The run -/

/--
As long as the file follows the session, a restart from every state of a run
that has nothing in flight is authenticated exactly when the daemon was, with
the same credentials.
-/
theorem restart_faithful {as : List StoredAction} (hinit : s.Initial)
    (hok : Along (step isUrl) (FileFollows isUrl) s as) :
    Always (step isUrl) RestartFaithful s as :=
  Always.of_invariant (I := Follows) (fun _ _ _ h hok hstep => h.step hok hstep)
    (fun _ h => h.faithful) (Follows.initial hinit) hok

def fresh : StoredDaemon := ⟨AuthDaemon.fresh, none, []⟩

theorem fresh_initial : fresh.Initial := ⟨⟨"device", rfl⟩, rfl, rfl⟩

def savedLogin : List StoredAction :=
  [.auth (.op AuthCoordinator.activateExample),
    .auth (.op AuthCoordinator.loginExample), .auth (.postLogin 0),
    .auth (.fetchTotp 0), .auth (.totpReply 0 ⟨[], .ok none⟩ 0),
    .persist 0 none "2025-01-01T00:00:00Z",
    .persist 1 none "2025-01-01T00:00:01Z"]

theorem restart_faithful_savedLogin :
    Always (step AuthCoordinator.httpsOnly) RestartFaithful fresh
      savedLogin := by
  apply restart_faithful fresh_initial
  refine .cons_final ?_ (.cons_final ?_ (.of_forall ?_))
  · intro state henters
    have hstate : state = .configured := by
      apply Option.some.inj
      rw [← henters]
      decide +kernel
    subst hstate
    intro hauth
    contradiction
  · intro state henters
    have hstate : state = .authenticated := by
      apply Option.some.inj
      rw [← henters]
      decide +kernel
    subst hstate
    exact .inr (by decide +kernel)
  · intro a ha s
    simp only [List.mem_cons, List.not_mem_nil, or_false] at ha
    rcases ha with rfl | rfl | rfl | rfl | rfl <;> trivial

def reactivated : List StoredAction :=
  savedLogin ++ [.auth (.op AuthCoordinator.activateExample)]

theorem reactivated_restores_session :
    ¬ ∀ (isUrl : String → Bool) (s : StoredDaemon),
      Reachable (step isUrl) Initial s → s.RestartFaithful := by
  intro h
  have hfaithful := h AuthCoordinator.httpsOnly
    (final (step AuthCoordinator.httpsOnly) fresh reactivated)
    ⟨fresh, reactivated, fresh_initial, exec_final (by decide +kernel)⟩
    (by decide +kernel) "device"
  have hstate := hfaithful.1.mp (by decide +kernel)
  revert hstate
  decide +kernel

end StoredDaemon

end Rustylink.Daemon
