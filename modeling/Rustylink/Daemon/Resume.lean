import Rustylink.Daemon.Requests
import Rustylink.Daemon.Restart

/-!
# Resuming the tunnel after a restart

The request to resume is stored with the session, by whichever save comes
last, as the request that the tunnel's state carries at that instant.  The
daemon runs through several lifetimes here; the credentials file is all that
one leaves to the next.  What is wanted (the request of the last tunnel to
come up, until a client disconnects or logs out), and whether a save has been
made for it, is recorded beside them and read by no step.
-/

namespace Rustylink.Daemon

open Rustylink.Foundation Rustylink.Core

/-! ## The request to resume -/

def parseMode (text : String) : Option VpnConnectMode :=
  if toAsciiLowercase text = "full" then some .full
  else if toAsciiLowercase text = "split" then some .split
  else none

def PersistedVpnRequest.resumed (persisted : PersistedVpnRequest) :
    VpnRequest where
  mode := (parseMode persisted.mode).getD .full
  locationId := persisted.locationId
  otp := none
  reconnect := persisted.reconnect
  protocolMode := persisted.protocolMode

def resumedRequest (file : Option PersistedCredentials) : Option VpnRequest :=
  (file.bind (·.lastVpnRequest)).map PersistedVpnRequest.resumed

def autoResume (config : DaemonConfig)
    (file : Option PersistedCredentials) : Option VpnRequest :=
  if config.autoReconnect then resumedRequest file else none

def DaemonState.maybeAutoResume (file : Option PersistedCredentials)
    (s : DaemonState) :
    DaemonState :=
  match autoResume s.inner.config file with
  | none => s
  | some request => (s.connectTunnel request).1

def persistedForm (request : VpnRequest) : PersistedVpnRequest :=
  ⟨modeName request.mode, request.locationId, request.protocolMode,
    request.reconnect⟩

def withoutOtp (request : VpnRequest) : VpnRequest :=
  { request with otp := none }

theorem parseMode_modeName (mode : VpnConnectMode) :
    parseMode (modeName mode) = some mode := by
  cases mode <;> decide

theorem resumed_persistedForm (request : VpnRequest) :
    (persistedForm request).resumed = withoutOtp request := by
  unfold PersistedVpnRequest.resumed persistedForm
  dsimp only
  rw [parseMode_modeName]
  rfl

theorem resumed_map_persistedForm (request : Option VpnRequest) :
    (request.map persistedForm).map PersistedVpnRequest.resumed =
      request.map withoutOtp := by
  cases request with
  | none => rfl
  | some request => exact congrArg some (resumed_persistedForm request)

theorem snapshot_resumed {now : String} {memory : CredentialMemory}
    {creds : PersistedCredentials}
    (h : snapshotCredentials now memory = some creds) :
    creds.lastVpnRequest = (memory.vpn.bind VpnState.currentRequest).map
      persistedForm := by
  rw [snapshot_lastVpnRequest h]
  cases memory.vpn <;> rfl

/-! ## The lifetimes of a daemon -/

inductive CredentialPc where
  | persist
  | save (creds : PersistedCredentials) (carried : Option VpnRequest)
  | delete
  | done
  deriving DecidableEq, Repr

def SaveTask.pc : SaveTask → CredentialPc
  | .persist => .persist
  | .delete => .delete
  | .done => .done

def CredentialPc.carried : CredentialPc → Option VpnRequest
  | .save _ carried => carried
  | .persist | .delete | .done => none

structure CredentialTask where
  pc : CredentialPc
  loop : Option TaskId
  deriving DecidableEq, Repr

structure ResumeDaemon where
  auth : AuthDaemon
  tunnel : DaemonState
  file : Option PersistedCredentials
  tasks : List CredentialTask
  shutdown : Option Nat
  wanted : Option VpnRequest
  /--
  The save carried out last was taken while the tunnel's state carried what
  was wanted, or the removal while nothing was, and that is still wanted.
  -/
  kept : Bool
  deriving DecidableEq, Repr

inductive ResumeAction where
  | auth (action : AuthAction)
  | tunnel (action : Action)
  | shutdown
  | persist (task : Nat) (now : String)
  | save (task : Nat) (saved : Bool)
  | delete (task : Nat) (deleted : Bool)
  | restart (deviceId : String) (config : DaemonConfig)
        (httpPool : Option String)

def AuthAction.served : AuthAction → Bool
  | .op _ | .beginPoll => true
  | _ => false

def ResumeAction.served : ResumeAction → Bool
  | .auth a => a.served
  | .tunnel (.connect _) | .tunnel .beginDisconnect
  | .tunnel (.beginUpdate _) => true
  | _ => false

def DisconnectPc.isReturned : DisconnectPc → Bool
  | .returned _ => true
  | .awaiting _ => false

namespace DaemonState

def disconnected (call : Nat) (s : DaemonState) : Bool :=
  (s.disconnects[call]?).any DisconnectPc.isReturned

def connecting (i : TaskId) (s : DaemonState) : Option VpnRequest :=
  match s.loops[i]? with
  | some ⟨request, _, _, .markConnected _⟩ => some request
  | _ => none

end DaemonState

theorem step_disconnected {s s' : DaemonState} {a : Action}
    (hstep : step s a = some s') (call : Nat) :
    s'.disconnected call = true ↔ s.disconnected call = true ∨
      a = .endDisconnect call := by
  unfold DaemonState.disconnected
  cases a with
  | auth | beginUpdate =>
      cases hstep
      simp [DaemonState.beginUpdate]
  | connect request =>
      cases hstep
      simp [s.connectTunnel_disconnects]
  | beginDisconnect =>
      cases hstep
      simp only [DaemonState.beginDisconnect, Option.any_eq_true,
        get_spawn, reduceCtorEq, or_false]
      constructor
      · rintro ⟨pc, hold | ⟨-, rfl⟩, hreturned⟩
        · exact ⟨pc, hold, hreturned⟩
        · contradiction
      · rintro ⟨pc, hold, hreturned⟩
        exact ⟨pc, .inl hold, hreturned⟩
  | endDisconnect other =>
      obtain ⟨task, tunnel, hcall, -, rfl⟩ :=
        DaemonState.endDisconnect_effect hstep
      simp only [Option.any_eq_true, get_set hcall, Action.endDisconnect.injEq]
      constructor
      · rintro ⟨pc, ⟨rfl, -⟩ | ⟨-, hold⟩, hreturned⟩
        · exact .inr rfl
        · exact .inl ⟨pc, hold, hreturned⟩
      · by_cases hsame : call = other
        · intro _
          exact ⟨_, .inl ⟨hsame, rfl⟩, rfl⟩
        · rintro (⟨pc, hold, hreturned⟩ | rfl)
          · exact ⟨pc, .inr ⟨hsame, hold⟩, hreturned⟩
          · exact absurd rfl hsame
  | stepUpdate other built =>
      cases DaemonState.stepUpdate_effect hstep with
      | quiet | capture | cancel =>
          simp [DaemonState.cancel, DaemonState.setUpdate]
      | connect => simp [DaemonState.setUpdate, s.connectTunnel_disconnects]
  | loop i event =>
      obtain ⟨task, task', inner', -, -, rfl⟩ := DaemonState.stepLoop_spec hstep
      simp

namespace ResumeDaemon

variable (isUrl : String → Bool)

def start (deviceId : String) (config : DaemonConfig)
    (httpPool : Option String) (file : Option PersistedCredentials)
    (wanted : Option VpnRequest) (kept : Bool) : ResumeDaemon :=
  let auth := restart deviceId file
  let view : AuthView := ⟨auth.state, auth.buildTenantClient isUrl, httpPool⟩
  { auth := ⟨auth, []⟩
    tunnel := (DaemonState.new view config).maybeAutoResume file
    file := file
    tasks := []
    shutdown := none
    wanted := wanted
    kept := kept }

def idle (s : ResumeDaemon) : Bool :=
  s.auth.calls.all (fun pc => pc = .client ∨ pc = .returned) &&
    s.tunnel.disconnects.all DisconnectPc.isReturned &&
    s.tunnel.updates.all UpdatePc.isReturned

def shutDown (s : ResumeDaemon) : Bool :=
  s.shutdown.any fun call => s.tunnel.disconnected call

/--
A lifetime ends by the graceful shutdown, or by a crash with no save in flight.
-/
def MayEnd (s : ResumeDaemon) : Prop :=
  s.shutDown = true ∨ ∀ task ∈ s.tasks, task.pc = .done

instance (s : ResumeDaemon) : Decidable s.MayEnd :=
  inferInstanceAs (Decidable (_ ∨ ∀ task ∈ s.tasks, task.pc = .done))

def awaitsSave (s : ResumeDaemon) : Action → Bool
  | .loop i _ => (s.tunnel.loops[i]?).any (·.pc = .persistCredentials) &&
      s.tasks.any fun task => task.loop = some i ∧ task.pc ≠ .done
  | _ => false

def nextWanted (s : ResumeDaemon) : ResumeAction → Option VpnRequest
  | .tunnel .beginDisconnect | .auth (.op (.logout _)) => none
  | .tunnel (.endDisconnect call) =>
      if s.shutdown = some call then s.wanted else none
  | .tunnel (.loop i _) => (s.tunnel.connecting i).or s.wanted
  | _ => s.wanted

def nextKept (s : ResumeDaemon) (a : ResumeAction) : Bool :=
  s.kept && decide ((s.nextWanted a).map withoutOtp = s.wanted.map withoutOtp)

def afterAuth (a : AuthAction) (s : ResumeDaemon)
    (auth : AuthDaemon) : Option ResumeDaemon :=
  let tenantClient := auth.auth.buildTenantClient isUrl
  (Daemon.step s.tunnel (.auth auth.auth.state tenantClient)).map
    fun tunnel => { s with
      auth := auth
      tunnel := tunnel
      tasks := s.tasks ++
        (StoredDaemon.spawned isUrl a s.auth auth).map (⟨·.pc, none⟩)
      wanted := s.nextWanted (.auth a)
      kept := s.nextKept (.auth a) }

def afterTunnel (a : Action) (s : ResumeDaemon) (tunnel : DaemonState) :
    ResumeDaemon :=
  let ofLoop : List CredentialTask :=
    match a with
    | .loop i _ =>
        if (s.tunnel.connecting i).isSome then [⟨.persist, some i⟩] else []
    | _ => []
  { s with
    tunnel := tunnel
    tasks := s.tasks ++ ofLoop
    wanted := s.nextWanted (.tunnel a)
    kept := s.nextKept (.tunnel a) }

def memory (s : ResumeDaemon) : CredentialMemory :=
  ⟨s.auth.auth.toAuthMachine, s.tunnel.inner.vpn.map VpnMachine.state⟩

def carries (s : ResumeDaemon) : Option VpnRequest :=
  s.memory.vpn.bind VpnState.currentRequest

def persist (task : Nat) (now : String)
    (s : ResumeDaemon) : Option ResumeDaemon :=
  match s.tasks[task]? with
  | some ⟨.persist, loop⟩ =>
      match snapshotCredentials now s.memory with
      | some creds => some { s with
          tasks := s.tasks.set task ⟨.save creds s.carries, loop⟩ }
      | none => some { s with tasks := s.tasks.set task ⟨.done, loop⟩ }
  | _ => none

def save (task : Nat) (saved : Bool) (s : ResumeDaemon) : Option ResumeDaemon :=
  match s.tasks[task]? with
  | some ⟨.save creds carried, loop⟩ => some { s with
      file := if saved then some creds else s.file
      tasks := s.tasks.set task ⟨.done, loop⟩
      kept :=
        if saved then decide (carried.map withoutOtp = s.wanted.map withoutOtp)
        else s.kept }
  | _ => none

def delete (task : Nat) (deleted : Bool)
    (s : ResumeDaemon) : Option ResumeDaemon :=
  match s.tasks[task]? with
  | some ⟨.delete, loop⟩ => some { s with
      file := if deleted then none else s.file
      tasks := s.tasks.set task ⟨.done, loop⟩
      kept := if deleted then s.wanted.isNone else s.kept }
  | _ => none

def perform (s : ResumeDaemon) : ResumeAction → Option ResumeDaemon
  | .auth (.op .restoreSession) => none
  | .auth a => (s.auth.step isUrl a).bind (s.afterAuth isUrl a)
  | .tunnel (.auth ..) => none
  | .tunnel a =>
      if s.awaitsSave a then none
      else (Daemon.step s.tunnel a).map (s.afterTunnel a)
  | .shutdown =>
      if s.shutdown = none ∧ s.idle = true then some { s with
        tunnel := s.tunnel.beginDisconnect
        shutdown := some s.tunnel.disconnects.length }
      else none
  | .persist task now => s.persist task now
  | .save task saved => s.save task saved
  | .delete task deleted => s.delete task deleted
  | .restart deviceId config httpPool =>
      if s.MayEnd then
        some (start isUrl deviceId config httpPool s.file s.wanted s.kept)
      else none

def step (s : ResumeDaemon) (a : ResumeAction) : Option ResumeDaemon :=
  if s.shutdown.isSome = true ∧ a.served = true then none else s.perform isUrl a

def Initial (s : ResumeDaemon) : Prop :=
  ∃ deviceId config httpPool file,
    s = start isUrl deviceId config httpPool file (resumedRequest file) true

/-! ## Faithful resumes -/

/-- The next start resumes what is wanted, and nothing else. -/
def Resumes (s : ResumeDaemon) : Prop :=
  ∀ config : DaemonConfig, config.autoReconnect = true →
    autoResume config s.file = s.wanted.map withoutOtp

def ResumesWanted (s : ResumeDaemon) : Prop := s.MayEnd → s.Resumes

def OtherInFlight (task : Nat) (s : ResumeDaemon) : Prop :=
  s.shutDown = false ∧ ∃ other ∈ s.tasks.eraseIdx task, other.pc ≠ .done

instance (task : Nat) (s : ResumeDaemon) : Decidable (s.OtherInFlight task) :=
  inferInstanceAs (Decidable (_ ∧ ∃ other ∈ s.tasks.eraseIdx task, _))

/--
A client disconnects when nothing is wanted or with a save still to come.  The
last save in flight was taken while the tunnel's state carried what is wanted,
the last removal finds nothing wanted, and what ends without touching the file
comes after one that was made in time.  The shutdown comes after such a save
too, and no other tunnel comes up after it.
-/
def SavesInTime (s : ResumeDaemon) : ResumeAction → Prop
  | .tunnel .beginDisconnect => s.wanted = none ∨ ¬ s.MayEnd
  | .tunnel (.endDisconnect call) =>
      if s.shutdown = some call then s.kept = true
      else s.wanted = none ∨ ¬ s.MayEnd
  | .tunnel (.loop i _) =>
      ∀ request ∈ s.tunnel.connecting i, s.shutDown = true →
        s.wanted.map withoutOtp = some (withoutOtp request)
  | .persist task now =>
      snapshotCredentials now s.memory = none →
        s.kept = true ∨ s.OtherInFlight task
  | .save task true =>
      ∀ t ∈ s.tasks[task]?,
        t.pc.carried.map withoutOtp = s.wanted.map withoutOtp ∨
          s.OtherInFlight task
  | .delete task true => s.wanted = none ∨ s.OtherInFlight task
  | .save task false | .delete task false =>
      s.kept = true ∨ s.OtherInFlight task
  | _ => True

instance (s : ResumeDaemon) (a : ResumeAction) : Decidable (s.SavesInTime a) :=
  match a with
  | .tunnel .beginDisconnect | .delete _ true | .save _ false
  | .delete _ false => inferInstanceAs (Decidable (_ ∨ _))
  | .tunnel (.endDisconnect call) =>
      inferInstanceAs (Decidable (if s.shutdown = some call then _ = _
        else s.wanted = none ∨ ¬ s.MayEnd))
  | .tunnel (.loop i _) =>
      inferInstanceAs (Decidable (∀ request ∈ s.tunnel.connecting i, _ → _))
  | .persist .. => inferInstanceAs (Decidable (_ → _ ∨ _))
  | .save task true =>
      inferInstanceAs (Decidable (∀ t ∈ s.tasks[task]?, _ ∨ _))
  | .auth _ | .shutdown | .restart .. | .tunnel (.auth ..)
  | .tunnel (.connect _) | .tunnel (.beginUpdate _)
  | .tunnel (.stepUpdate ..) => .isTrue trivial

variable {isUrl} {s s' : ResumeDaemon}

inductive ResumeStep (isUrl : String → Bool) (s : ResumeDaemon) :
    ResumeAction → ResumeDaemon → Prop
  | auth {a : AuthAction} {auth : AuthDaemon} {tunnel : DaemonState}
      {new : List CredentialTask}
      (hdisconnects : tunnel.disconnects = s.tunnel.disconnects)
      (hnew : ∀ task ∈ new, ∀ creds carried, task.pc ≠ .save creds carried)
      (hlogout : s.nextWanted (.auth a) ≠ s.wanted →
        s.shutdown = none ∧ ∃ task ∈ new, task.pc ≠ .done) :
      ResumeStep isUrl s (.auth a) { s with
        auth := auth
        tunnel := tunnel
        tasks := s.tasks ++ new
        wanted := s.nextWanted (.auth a)
        kept := s.nextKept (.auth a) }
  | tunnel {a : Action} {tunnel : DaemonState}
      (hstep : Daemon.step s.tunnel a = some tunnel) :
      ResumeStep isUrl s (.tunnel a) (s.afterTunnel a tunnel)
  | shutdown (hserving : s.shutdown = none) :
      ResumeStep isUrl s .shutdown { s with
        tunnel := s.tunnel.beginDisconnect
        shutdown := some s.tunnel.disconnects.length }
  | snapshot {task : Nat} {now : String} {loop : Option TaskId}
      {creds : PersistedCredentials}
      (htask : s.tasks[task]? = some ⟨.persist, loop⟩)
      (hsnapshot : snapshotCredentials now s.memory = some creds) :
      ResumeStep isUrl s (.persist task now) { s with
        tasks := s.tasks.set task ⟨.save creds s.carries, loop⟩ }
  | skip {task : Nat} {now : String} {loop : Option TaskId}
      (htask : s.tasks[task]? = some ⟨.persist, loop⟩)
      (hsnapshot : snapshotCredentials now s.memory = none) :
      ResumeStep isUrl s (.persist task now)
        { s with tasks := s.tasks.set task ⟨.done, loop⟩ }
  | save {task : Nat} {saved : Bool} {loop : Option TaskId}
      {creds : PersistedCredentials} {carried : Option VpnRequest}
      (htask : s.tasks[task]? = some ⟨.save creds carried, loop⟩) :
      ResumeStep isUrl s (.save task saved) { s with
        file := if saved then some creds else s.file
        tasks := s.tasks.set task ⟨.done, loop⟩
        kept :=
          if saved then
            decide (carried.map withoutOtp = s.wanted.map withoutOtp)
          else s.kept }
  | delete {task : Nat} {deleted : Bool} {loop : Option TaskId}
      (htask : s.tasks[task]? = some ⟨.delete, loop⟩) :
      ResumeStep isUrl s (.delete task deleted) { s with
        file := if deleted then none else s.file
        tasks := s.tasks.set task ⟨.done, loop⟩
        kept := if deleted then s.wanted.isNone else s.kept }
  | restart {deviceId : String} {config : DaemonConfig}
      {httpPool : Option String} (hend : s.MayEnd) :
      ResumeStep isUrl s (.restart deviceId config httpPool)
        (start isUrl deviceId config httpPool s.file s.wanted s.kept)

theorem afterAuth_spec {a : AuthAction} {auth : AuthDaemon}
    (hserving : a.served = true → s.shutdown = none)
    (h : s.afterAuth isUrl a auth = some s') :
    ResumeStep isUrl s (.auth a) s' := by
  unfold afterAuth at h
  obtain ⟨tunnel, htunnel, rfl⟩ := Option.map_eq_some_iff.mp h
  cases htunnel
  refine .auth rfl ?_ ?_
  · intro task htask creds carried
    obtain ⟨save, -, rfl⟩ := List.mem_map.mp htask
    cases save <;> simp [SaveTask.pc]
  · intro hchanged
    cases a with
    | op op =>
        cases op with
        | logout server =>
            have hdelete : ∃ task ∈ (StoredDaemon.spawned isUrl
                (.op (.logout server)) s.auth auth).map
                  (fun save => (⟨save.pc, none⟩ : CredentialTask)),
                task.pc ≠ .done := by
              refine ⟨_, List.mem_map.mpr ⟨.delete, ?_, rfl⟩, ?_⟩
              · simp [StoredDaemon.spawned]
              · simp [SaveTask.pc]
            exact ⟨hserving rfl, hdelete⟩
        | _ => exact absurd rfl hchanged
    | _ => exact absurd rfl hchanged

theorem perform_spec {a : ResumeAction}
    (hserving : a.served = true → s.shutdown = none)
    (h : s.perform isUrl a = some s') : ResumeStep isUrl s a s' := by
  cases a with
  | auth a =>
      have hbind :
          (s.auth.step isUrl a).bind (s.afterAuth isUrl a) = some s' := by
        cases a
        case op op => cases op <;> first | contradiction | exact h
        all_goals exact h
      obtain ⟨auth, -, hafter⟩ := Option.bind_eq_some_iff.mp hbind
      exact afterAuth_spec hserving hafter
  | tunnel a =>
      have hmap : (Daemon.step s.tunnel a).map (s.afterTunnel a) = some s' := by
        cases a
        case auth state tenantClient => contradiction
        all_goals
          simp only [perform] at h
          split at h
          · contradiction
          · exact h
      obtain ⟨tunnel, htunnel, rfl⟩ := Option.map_eq_some_iff.mp hmap
      exact .tunnel htunnel
  | shutdown =>
      simp only [perform] at h
      split at h
      · rename_i hidle
        cases h
        exact .shutdown hidle.1
      · contradiction
  | persist task now =>
      simp only [perform, persist] at h
      split at h
      · rename_i loop htask
        split at h
        · cases h
          exact .snapshot htask ‹_›
        · cases h
          exact .skip htask ‹_›
      · contradiction
  | save task saved =>
      simp only [perform, save] at h
      split at h
      · cases h
        exact .save ‹_›
      · contradiction
  | delete task deleted =>
      simp only [perform, delete] at h
      split at h
      · cases h
        exact .delete ‹_›
      · contradiction
  | restart deviceId config httpPool =>
      simp only [perform] at h
      split at h
      · cases h
        exact .restart ‹_›
      · contradiction

theorem step_spec {a : ResumeAction} (h : s.step isUrl a = some s') :
    ResumeStep isUrl s a s' := by
  unfold step at h
  split at h
  · contradiction
  · rename_i hopen
    apply perform_spec _ h
    intro hserved
    cases hshutdown : s.shutdown with
    | none => rfl
    | some call => exact absurd ⟨by simp [hshutdown], hserved⟩ hopen

theorem resumes_iff :
    s.Resumes ↔ resumedRequest s.file = s.wanted.map withoutOtp := by
  constructor
  · intro h
    exact h { DaemonConfig.default with autoReconnect := true } rfl
  · intro h config hconfig
    rw [autoResume, if_pos hconfig]
    exact h

/-! ## What a save in time leaves in the file -/

structure Recorded (s : ResumeDaemon) : Prop where
  stores : ∀ task ∈ s.tasks, ∀ creds carried,
    task.pc = .save creds carried →
      creds.lastVpnRequest = carried.map persistedForm
  file : s.kept = true → resumedRequest s.file = s.wanted.map withoutOtp

theorem nextKept_iff {a : ResumeAction} :
    s.nextKept a = true ↔ s.kept = true ∧
      (s.nextWanted a).map withoutOtp = s.wanted.map withoutOtp := by
  simp [nextKept]

theorem Recorded.file_next (h : s.Recorded) (a : ResumeAction)
    (hkept : s.nextKept a = true) :
    resumedRequest s.file = (s.nextWanted a).map withoutOtp := by
  obtain ⟨hold, hsame⟩ := nextKept_iff.mp hkept
  rw [hsame]
  exact h.file hold

theorem Recorded.stores_append {new : List CredentialTask} (h : s.Recorded)
    (hnew : ∀ task ∈ new, ∀ creds carried, task.pc ≠ .save creds carried) :
    ∀ task ∈ s.tasks ++ new, ∀ creds carried,
      task.pc = .save creds carried →
        creds.lastVpnRequest = carried.map persistedForm := by
  intro task htask creds carried hsave
  rcases List.mem_append.mp htask with hold | hadded
  · exact h.stores task hold creds carried hsave
  · exact absurd hsave (hnew task hadded creds carried)

theorem Recorded.stores_set {task : Nat} {new : CredentialTask}
    (h : s.Recorded) (hnew : ∀ creds carried, new.pc = .save creds carried →
      creds.lastVpnRequest = carried.map persistedForm) :
    ∀ t ∈ s.tasks.set task new, ∀ creds carried,
      t.pc = .save creds carried →
        creds.lastVpnRequest = carried.map persistedForm := by
  intro t ht
  rcases List.mem_or_eq_of_mem_set ht with hold | rfl
  · exact h.stores t hold
  · exact hnew

theorem resumedRequest_save {creds : PersistedCredentials}
    {carried : Option VpnRequest}
    (h : creds.lastVpnRequest = carried.map persistedForm) :
    resumedRequest (some creds) = carried.map withoutOtp := by
  rw [resumedRequest, Option.bind_some, h, resumed_map_persistedForm]

theorem Recorded.step {a : ResumeAction} (h : s.Recorded)
    (hstep : ResumeStep isUrl s a s') : s'.Recorded := by
  cases hstep with
  | @auth a auth tunnel new hdisconnects hnew hlogout =>
      exact ⟨h.stores_append hnew, h.file_next (.auth a)⟩
  | @tunnel a tunnel hstep =>
      refine ⟨h.stores_append fun task htask creds => ?_,
        h.file_next (.tunnel a)⟩
      cases a
      case loop i event =>
        dsimp only at htask
        split at htask
        · rw [List.mem_singleton.mp htask]
          simp
        · contradiction
      all_goals contradiction
  | shutdown hserving => exact ⟨h.stores, h.file⟩
  | snapshot htask hsnapshot =>
      refine ⟨h.stores_set fun creds carried hsave => ?_, h.file⟩
      cases hsave
      exact snapshot_resumed hsnapshot
  | skip htask hsnapshot => exact ⟨h.stores_set (by simp), h.file⟩
  | @save task saved loop creds carried htask =>
      refine ⟨h.stores_set (by simp), ?_⟩
      cases saved with
      | false => exact h.file
      | true =>
          intro hkept
          have hstored :=
            h.stores _ (List.mem_of_getElem? htask) creds carried rfl
          exact (resumedRequest_save hstored).trans (of_decide_eq_true hkept)
  | @delete task deleted loop htask =>
      refine ⟨h.stores_set (by simp), ?_⟩
      cases deleted with
      | false => exact h.file
      | true =>
          intro hkept
          have hnone : s.wanted = none := Option.isNone_iff_eq_none.mp hkept
          change none = s.wanted.map withoutOtp
          rw [hnone]
          rfl
  | restart hend => exact ⟨List.forall_mem_nil _, h.file⟩

/-! ## What is in flight -/

def EndsKept (s : ResumeDaemon) : Prop := s.MayEnd → s.kept = true

theorem shutDown_iff : s.shutDown = true ↔
    ∃ call, s.shutdown = some call ∧ s.tunnel.disconnected call = true := by
  simp [shutDown, Option.any_eq_true]

theorem not_shutDown (h : s.shutdown = none) : s.shutDown = false := by
  simp [shutDown, h]

theorem mayEnd_of_append {new : List CredentialTask}
    (htasks : s'.tasks = s.tasks ++ new)
    (hdown : s'.shutDown = true → s.shutDown = true) (h : s'.MayEnd) :
    s.MayEnd := by
  rcases h with hdown' | hdone
  · exact .inl (hdown hdown')
  · exact .inr fun task htask =>
      hdone task (htasks ▸ List.mem_append_left _ htask)

theorem not_otherInFlight {task : Nat} {old new : CredentialTask}
    {file : Option PersistedCredentials} {kept : Bool}
    (htask : s.tasks[task]? = some old)
    (h : MayEnd { s with
      file := file, tasks := s.tasks.set task new, kept := kept }) :
    ¬ s.OtherInFlight task := by
  rintro ⟨hrunning, t, ht, hpc⟩
  obtain ⟨other, hne, hother⟩ := List.mem_eraseIdx_iff_getElem?.mp ht
  rcases h with hdown | hdone
  · change s.shutDown = true at hdown
    rw [hrunning] at hdown
    contradiction
  · have hkept : (s.tasks.set task new)[other]? = some t :=
      (get_set htask).mpr (.inr ⟨hne, hother⟩)
    exact hpc (hdone t (List.mem_of_getElem? hkept))

section sections

variable {a : Action} {tunnel : DaemonState}

theorem shutDown_afterTunnel (hstep : Daemon.step s.tunnel a = some tunnel) :
    (s.afterTunnel a tunnel).shutDown = true ↔
      s.shutDown = true ∨
        ∃ call, s.shutdown = some call ∧ a = .endDisconnect call := by
  simp only [shutDown_iff, afterTunnel, step_disconnected hstep, and_or_left,
    exists_or]

theorem mayEnd_afterTunnel (hstep : Daemon.step s.tunnel a = some tunnel)
    (hend : ∀ call, s.shutdown = some call → a ≠ .endDisconnect call)
    (h : (s.afterTunnel a tunnel).MayEnd) : s.MayEnd := by
  refine mayEnd_of_append rfl (fun hdown => ?_) h
  rcases (shutDown_afterTunnel hstep).mp hdown with hold | ⟨call, hcall, hlast⟩
  · exact hold
  · exact absurd hlast (hend call hcall)

theorem EndsKept.quiet (h : s.EndsKept)
    (hstep : Daemon.step s.tunnel a = some tunnel)
    (hend : ∀ call, s.shutdown = some call → a ≠ .endDisconnect call)
    (hwanted : (s.nextWanted (.tunnel a)).map withoutOtp =
      s.wanted.map withoutOtp) :
    (s.afterTunnel a tunnel).EndsKept := by
  intro hmay
  exact nextKept_iff.mpr ⟨h (mayEnd_afterTunnel hstep hend hmay), hwanted⟩

theorem EndsKept.clears (h : s.EndsKept)
    (hstep : Daemon.step s.tunnel a = some tunnel)
    (hend : ∀ call, s.shutdown = some call → a ≠ .endDisconnect call)
    (hnone : s.nextWanted (.tunnel a) = none)
    (hok : s.wanted = none ∨ ¬ s.MayEnd) :
    (s.afterTunnel a tunnel).EndsKept := by
  rcases hok with hwanted | hflight
  · exact h.quiet hstep hend (by rw [hnone, hwanted])
  · intro hmay
    exact absurd (mayEnd_afterTunnel hstep hend hmay) hflight

theorem EndsKept.endDisconnect {call : Nat} (h : s.EndsKept)
    (hok : s.SavesInTime (.tunnel (.endDisconnect call)))
    (hstep : Daemon.step s.tunnel (.endDisconnect call) = some tunnel) :
    (s.afterTunnel (.endDisconnect call) tunnel).EndsKept := by
  unfold SavesInTime at hok
  dsimp only at hok
  split at hok
  · rename_i hlast
    intro _
    exact nextKept_iff.mpr ⟨hok, by rw [nextWanted, if_pos hlast]⟩
  · rename_i hclient
    refine h.clears hstep ?_ (if_neg hclient) hok
    rintro other hother hsame
    cases hsame
    exact hclient hother

theorem EndsKept.loop {i : TaskId} {event : LoopEvent} (h : s.EndsKept)
    (hok : s.SavesInTime (.tunnel (.loop i event)))
    (hstep : Daemon.step s.tunnel (.loop i event) = some tunnel) :
    (s.afterTunnel (.loop i event) tunnel).EndsKept := by
  cases hconnecting : s.tunnel.connecting i with
  | none => exact h.quiet hstep (by simp) (by simp [nextWanted, hconnecting])
  | some request =>
      -- the tunnel's own save is in flight from here on
      rintro (hdown | hdone)
      · have hold : s.shutDown = true := by
          simpa [shutDown_afterTunnel hstep] using hdown
        refine nextKept_iff.mpr ⟨h (.inl hold), ?_⟩
        rw [hok request hconnecting hold]
        simp [nextWanted, hconnecting]
      · have hpersist := hdone ⟨.persist, some i⟩
          (by simp [afterTunnel, hconnecting])
        contradiction

theorem EndsKept.afterTunnel (h : s.EndsKept) (hok : s.SavesInTime (.tunnel a))
    (hstep : Daemon.step s.tunnel a = some tunnel) :
    (s.afterTunnel a tunnel).EndsKept := by
  cases a with
  | beginDisconnect => exact h.clears hstep (by simp) rfl hok
  | endDisconnect call => exact h.endDisconnect hok hstep
  | loop i event => exact h.loop hok hstep
  | auth | connect | beginUpdate | stepUpdate =>
      exact h.quiet hstep (by simp) rfl

end sections

theorem EndsKept.step {a : ResumeAction} (h : s.EndsKept)
    (hok : s.SavesInTime a) (hstep : ResumeStep isUrl s a s') :
    s'.EndsKept := by
  cases hstep with
  | @auth a auth tunnel new hdisconnects hnew hlogout =>
      intro hmay
      have hdown : shutDown { s with
          auth := auth
          tunnel := tunnel
          tasks := s.tasks ++ new
          wanted := s.nextWanted (.auth a)
          kept := s.nextKept (.auth a) } = s.shutDown := by
        simp [shutDown, DaemonState.disconnected, hdisconnects]
      by_cases hwanted : s.nextWanted (.auth a) = s.wanted
      · have hold := mayEnd_of_append rfl (fun hnow => hdown ▸ hnow) hmay
        exact nextKept_iff.mpr ⟨h hold, by rw [hwanted]⟩
      · -- a logout: its removal of the file is in flight
        obtain ⟨hserving, task, htask, hpc⟩ := hlogout hwanted
        rcases hmay with hnow | hdone
        · rw [hdown, not_shutDown hserving] at hnow
          contradiction
        · exact absurd (hdone task (List.mem_append_right _ htask)) hpc
  | tunnel hstep => exact h.afterTunnel hok hstep
  | shutdown hserving =>
      rintro (hdown | hdone)
      · simp [shutDown, DaemonState.disconnected, DaemonState.beginDisconnect,
          DisconnectPc.isReturned] at hdown
      · exact h (.inr hdone)
  | @snapshot task now loop creds htask hsnapshot =>
      rintro (hdown | hdone)
      · exact h (.inl hdown)
      · have hpc := hdone _ (List.mem_of_getElem? (get_set_self htask))
        contradiction
  | skip htask hsnapshot =>
      intro hmay
      exact (hok hsnapshot).resolve_right (not_otherInFlight htask hmay)
  | @save task saved loop creds carried htask =>
      intro hmay
      have halone := not_otherInFlight htask hmay
      cases saved with
      | false => exact hok.resolve_right halone
      | true =>
          exact decide_eq_true ((hok _ htask).resolve_right halone)
  | @delete task deleted loop htask =>
      intro hmay
      have halone := not_otherInFlight htask hmay
      cases deleted with
      | false => exact hok.resolve_right halone
      | true => exact Option.isNone_iff_eq_none.mpr (hok.resolve_right halone)
  | restart hend => exact fun _ => h hend

/-! ## The run -/

theorem initial_kept (h : s.Initial isUrl) : s.Recorded ∧ s.EndsKept := by
  obtain ⟨deviceId, config, httpPool, file, rfl⟩ := h
  refine ⟨⟨List.forall_mem_nil _, fun _ => ?_⟩, fun _ => rfl⟩
  unfold start resumedRequest
  cases file.bind (·.lastVpnRequest) <;> rfl

def resuming : DaemonConfig :=
  { DaemonConfig.default with autoReconnect := true }

def fresh : ResumeDaemon :=
  start AuthCoordinator.httpsOnly "device" resuming none none none true

theorem fresh_initial : fresh.Initial AuthCoordinator.httpsOnly :=
  ⟨"device", resuming, none, none, rfl⟩

def resumeRequest : VpnRequest :=
  { RequestTrace.splitRequest with otp := some "123456" }

def connected : List ResumeAction :=
  [.auth (.op AuthCoordinator.activateExample),
    .auth (.op AuthCoordinator.loginExample),
    .persist 0 "2025-01-01T00:00:00Z", .save 0 true,
    .tunnel (.connect resumeRequest), .tunnel (.loop 0 .proceed),
    .tunnel (.loop 0 .proceed), .tunnel (.loop 0 .proceed),
    .tunnel (.loop 0 .proceed),
    .tunnel (.loop 0 (.configFetched RequestTrace.dotAnswer)),
    .tunnel (.loop 0 .proceed), .tunnel (.loop 0 .proceed),
    .tunnel (.loop 0 .proceed), .persist 1 "2025-01-01T00:00:01Z", .save 1 true]

def restarted : List ResumeAction :=
  connected ++ [.tunnel (.loop 0 .proceed), .tunnel (.loop 0 .proceed),
    .tunnel (.loop 0 .proceed), .auth (.postLogin 0), .auth (.fetchTotp 0),
    .auth (.totpReply 0 ⟨[], .ok none⟩ 0), .persist 2 "2025-01-01T00:00:02Z",
    .save 2 true, .shutdown, .tunnel (.loop 0 (.outcome .cancelled)),
    .tunnel (.loop 0 .proceed), .tunnel (.loop 0 .proceed),
    .tunnel (.endDisconnect 0), .restart "device" resuming none]

example :
    (final (step AuthCoordinator.httpsOnly) fresh restarted).tunnel.inner.vpn =
      some ⟨.connecting (withoutOtp resumeRequest), 1⟩ := by decide +kernel

end ResumeDaemon

end Rustylink.Daemon
