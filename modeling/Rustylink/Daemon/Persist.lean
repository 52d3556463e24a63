import Rustylink.Core.Login
import Rustylink.Core.Vpn
import Rustylink.Daemon.Config
import Rustylink.Foundation.SnapshotStore

/-!
# What the daemon keeps on disk

`persist_credentials` and `persist_config` take a snapshot under the daemon's
lock and save it after the lock is released.  A saved file is what it is
parsed to.
-/

namespace Rustylink.Daemon

open Rustylink.Foundation Rustylink.Core

/-! ## Credentials -/

structure TenantConfig where
  baseUrl : String
  backupUrl : Option String
  useBackup : Bool
  name : String
  deriving DecidableEq, Repr

structure PersistedSigningConfig where
  enabled : Bool
  activationCode : String
  deviceId : String
  deriving DecidableEq, Repr

structure PersistedTotpConfig where
  url : String
  timeDiffSeconds : Int
  deriving DecidableEq, Repr

structure PersistedVpnRequest where
  mode : String
  locationId : Option Int
  protocolMode : ProtocolMode
  reconnect : Bool
  deriving DecidableEq, Repr

inductive LoginApiVersion where
  | legacy
  | v1
  deriving DecidableEq, Repr

abbrev Cookies := List (String × String)

structure PersistedCredentials where
  tenant : TenantConfig
  signing : PersistedSigningConfig
  cookies : Cookies
  knockToken : Option String
  totp : Option PersistedTotpConfig
  loginApiVersion : LoginApiVersion
  lastVpnRequest : Option PersistedVpnRequest
  savedAt : String
  deriving DecidableEq, Repr

/-- The auth machine, without the clients and the pending flows. -/
structure AuthMachine where
  state : AuthState
  tenant : Option TenantConfig
  signing : Option PersistedSigningConfig
  cookies : Cookies
  knockToken : Option String
  totp : Option PersistedTotpConfig
  loginApiVersion : LoginApiVersion
  deriving DecidableEq, Repr

namespace AuthMachine

def clearSession (auth : AuthMachine) : AuthMachine :=
  { auth with cookies := [], knockToken := none, totp := none }

def logout (auth : AuthMachine) : AuthMachine :=
  { auth.clearSession with state := .configured }

def toCredentials (auth : AuthMachine) (now : String) :
    Option PersistedCredentials := do
  let tenant ← auth.tenant
  let signing ← auth.signing
  return {
    tenant := tenant
    signing := signing
    cookies := auth.cookies
    knockToken := auth.knockToken
    totp := auth.totp
    loginApiVersion := auth.loginApiVersion
    lastVpnRequest := none
    savedAt := now }

def toCredentialsWithVpn (auth : AuthMachine)
    (vpnRequest : Option PersistedVpnRequest)
    (now : String) : Option PersistedCredentials :=
  (auth.toCredentials now).map fun creds =>
    { creds with lastVpnRequest := vpnRequest }

end AuthMachine

def modeName : VpnConnectMode → String
  | .full => "Full"
  | .split => "Split"

def currentPersistedRequest (state : VpnState) : Option PersistedVpnRequest :=
  state.currentRequest.map fun request =>
    ⟨modeName request.mode, request.locationId, request.protocolMode,
      request.reconnect⟩

/-! ## The cookie jar -/

def insertCookie (name value : String) : Cookies → Cookies
  | [] => [(name, value)]
  | (other, old) :: rest =>
      if name = other then (name, value) :: rest
      else if name < other then (name, value) :: (other, old) :: rest
      else (other, old) :: insertCookie name value rest

def mergeCookies (updates : Cookies) (cookies : Cookies) : Cookies × Bool :=
  updates.foldl (fun jar update =>
    if jar.1.lookup update.1 = some update.2 then jar
    else (insertCookie update.1 update.2 jar.1, true)) (cookies, false)

theorem insertCookie_ne_nil (name value : String) (cookies : Cookies) :
    insertCookie name value cookies ≠ [] := by
  cases cookies with
  | nil => simp [insertCookie]
  | cons head rest =>
      simp only [insertCookie]
      split
      · simp
      · split <;> simp

@[simp] theorem mergeCookies_nil (cookies : Cookies) :
    mergeCookies [] cookies = (cookies, false) := rfl

theorem foldl_mergeCookies (updates cookies : Cookies) (changed : Bool) :
    updates.foldl (fun jar update =>
        if jar.1.lookup update.1 = some update.2 then jar
        else (insertCookie update.1 update.2 jar.1, true)) (cookies, changed) =
      ((mergeCookies updates cookies).1, changed ||
        (mergeCookies updates cookies).2) := by
  induction updates generalizing cookies changed with
  | nil => simp
  | cons update rest ih =>
      simp only [mergeCookies, List.foldl_cons]
      split
      · rw [ih, ih]
        simp
      · rw [ih]
        simp

theorem mergeCookies_cons (update : String × String) (rest cookies : Cookies) :
    mergeCookies (update :: rest) cookies =
      if cookies.lookup update.1 = some update.2 then mergeCookies rest cookies
      else ((mergeCookies rest (insertCookie update.1 update.2 cookies)).1,
        true) := by
  rw [mergeCookies, List.foldl_cons]
  split
  · rw [foldl_mergeCookies]
    simp
  · rw [foldl_mergeCookies]
    simp

theorem mergeCookies_unchanged {updates cookies : Cookies}
    (h : (mergeCookies updates cookies).2 = false) :
    (mergeCookies updates cookies).1 = cookies := by
  induction updates with
  | nil => rfl
  | cons update rest ih =>
      rw [mergeCookies_cons] at h ⊢
      split at h
      · rename_i hsame
        rw [if_pos hsame]
        exact ih h
      · contradiction

theorem mergeCookies_ne_nil {cookies : Cookies} (updates : Cookies)
    (h : cookies ≠ []) :
    (mergeCookies updates cookies).1 ≠ [] := by
  induction updates generalizing cookies with
  | nil => exact h
  | cons update rest ih =>
      rw [mergeCookies_cons]
      split
      · exact ih h
      · exact ih (insertCookie_ne_nil update.1 update.2 cookies)

theorem mergeCookies_empty_eq_nil {updates : Cookies} :
    (mergeCookies updates []).1 = [] ↔ updates = [] := by
  cases updates with
  | nil => simp
  | cons update rest =>
      rw [mergeCookies_cons]
      simp [mergeCookies_ne_nil rest (insertCookie_ne_nil update.1 update.2 [])]

/-! ## Persisting -/

structure CredentialMemory where
  auth : AuthMachine
  vpn : Option VpnState
  deriving DecidableEq, Repr

inductive CredentialChange where
  /-- A response sets cookies; a changed jar notifies its listener. -/
  | mergeCookies (updates : Cookies)
  | auth (auth : AuthMachine)
  | vpn (vpn : Option VpnState)

def applyCredentialChange (change : CredentialChange)
    (memory : CredentialMemory) :
    CredentialMemory × Bool :=
  match change with
  | .mergeCookies updates =>
      let (cookies, changed) := mergeCookies updates memory.auth.cookies
      ({ memory with auth := { memory.auth with cookies := cookies } }, changed)
  | .auth auth => ({ memory with auth := auth }, false)
  | .vpn vpn => ({ memory with vpn := vpn }, false)

def snapshotCredentials (now : String)
    (memory : CredentialMemory) : Option PersistedCredentials :=
  if memory.auth.state ≠ .authenticated then none
  else
    memory.auth.toCredentialsWithVpn (memory.vpn.bind currentPersistedRequest)
      now

theorem snapshot_lastVpnRequest {now : String} {memory : CredentialMemory}
    {creds : PersistedCredentials}
    (h : snapshotCredentials now memory = some creds) :
    creds.lastVpnRequest = memory.vpn.bind currentPersistedRequest := by
  unfold snapshotCredentials AuthMachine.toCredentialsWithVpn at h
  split at h
  · contradiction
  · obtain ⟨old, -, rfl⟩ := Option.map_eq_some_iff.mp h
    rfl

def persistCredentials :
    Persistence CredentialMemory PersistedCredentials CredentialChange String
      where
  apply := applyCredentialChange
  snapshot := snapshotCredentials

def persistConfig :
    Persistence DaemonConfig DaemonConfig Configuration Unit where
  apply := fun u config => (config.update u, true)
  snapshot := fun _ config => some config

abbrev CredentialStore := SnapshotStore CredentialMemory PersistedCredentials
abbrev ConfigStore := SnapshotStore DaemonConfig DaemonConfig

/-! ## The order of the saves -/

/--
Both files, in every run whose calls save in the order of their snapshots: no
older snapshot replaces a newer one, and once all calls have finished the file
is the most recent snapshot that any of them took.
-/
theorem saves_in_order {s t : CredentialStore} {u v : ConfigStore}
    {as : List (SaveAction CredentialChange String)}
    {bs : List (SaveAction Configuration Unit)}
    (hcredentials : s.Fresh) (hconfig : u.Fresh)
    (hcredentialsRun : exec (SnapshotStore.step persistCredentials) s as =
      some t)
    (hconfigRun : exec (SnapshotStore.step persistConfig) u bs = some v)
    (hcredentialsOrder :
      Along (SnapshotStore.step persistCredentials) SnapshotStore.InOrder s as)
    (hconfigOrder : Along (SnapshotStore.step persistConfig)
      SnapshotStore.InOrder u bs) :
    (Along (SnapshotStore.step persistCredentials)
        (fun s a => ¬ SnapshotStore.OverwritesNewer s a) s as ∧
      (t.AllFinished → t.taken ≠ [] → t.file = t.taken.getLast?)) ∧
    Along (SnapshotStore.step persistConfig)
        (fun u b => ¬ SnapshotStore.OverwritesNewer u b) u bs ∧
      (v.AllFinished → v.taken ≠ [] → v.file = v.taken.getLast?) := by
  constructor
  · exact SnapshotStore.run_in_order hcredentials hcredentialsOrder
      hcredentialsRun
  · exact SnapshotStore.run_in_order hconfig hconfigOrder hconfigRun

def unsavedConfig : ConfigStore := ⟨.default, none, [], [], none⟩

def unsavedSession : CredentialStore where
  memory :=
    ⟨⟨.authenticated, some ⟨"https://vpn.example.com", none, false, "example"⟩,
    some ⟨false, "code", "device"⟩, [("session", "1")], none, none, .legacy⟩,
      none⟩
  file := none
  calls := []
  taken := []
  source := none

def listenOn (port : Nat) : Configuration :=
  ⟨none, none, some port, none, none, none⟩

def saveTwice {Change Moment : Type} (first second : Change)
    (moment later : Moment) : List (SaveAction Change Moment) :=
  [.change first, .snapshot 0 moment, .change second, .snapshot 1 later,
    .save 0 true, .save 1 true]

def refreshedTwice : List (SaveAction CredentialChange String) :=
  saveTwice (.mergeCookies [("vpn-token", "2")])
    (.mergeCookies [("vpn-token", "3")])
    "2025-01-01T00:00:00Z" "2025-01-01T00:00:01Z"

def listenTwice : List (SaveAction Configuration Unit) :=
  saveTwice (listenOn 5353) (listenOn 5354) () ()

theorem saves_in_order_twice :
    ((final (SnapshotStore.step persistCredentials) unsavedSession
        refreshedTwice).file.map PersistedCredentials.cookies =
      some [("session", "1"), ("vpn-token", "3")]) ∧
    (final (SnapshotStore.step persistConfig) unsavedConfig listenTwice).file =
      some { DaemonConfig.default with dnsListenPort := some 5354 } := by
  have hrefreshed : exec (SnapshotStore.step persistCredentials) unsavedSession
      refreshedTwice = some (final _ unsavedSession refreshedTwice) :=
    exec_final (by decide)
  have hlistening : exec (SnapshotStore.step persistConfig) unsavedConfig
      listenTwice = some (final _ unsavedConfig listenTwice) :=
    exec_final (by decide)
  obtain ⟨⟨-, hsession⟩, -, hsettings⟩ := saves_in_order
    ⟨rfl, rfl, by simp [unsavedSession]⟩ ⟨rfl, rfl, by simp [unsavedConfig]⟩
    hrefreshed hlistening (by decide) (by decide)
  rw [hsession (by decide) (by decide), hsettings (by decide) (by decide)]
  decide

def swappedSaves : List (SaveAction Configuration Unit) :=
  [.change (listenOn 5353), .snapshot 0 (), .change (listenOn 5354),
    .snapshot 1 (), .save 1 true, .save 0 true]

theorem swappedSaves_keeps_older :
    ¬ ∀ (s t : ConfigStore) (as : List (SaveAction Configuration Unit)),
      s.Fresh → exec (SnapshotStore.step persistConfig) s as = some t →
      Along (SnapshotStore.step persistConfig)
          (fun s a => ¬ SnapshotStore.OverwritesNewer s a) s as ∧
        (t.AllFinished → t.taken ≠ [] → t.file = t.taken.getLast?) := by
  intro h
  have hfresh : unsavedConfig.Fresh := ⟨rfl, rfl, by simp [unsavedConfig]⟩
  have hlast :=
    (h unsavedConfig (final (SnapshotStore.step persistConfig) unsavedConfig
    swappedSaves) swappedSaves hfresh (exec_final (by decide))).2
  have hfile := hlast (by decide) (by decide)
  revert hfile
  decide

end Rustylink.Daemon
