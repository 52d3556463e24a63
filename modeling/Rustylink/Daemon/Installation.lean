import Rustylink.Daemon.AtomicWrite
import Rustylink.Daemon.DeviceIdentity
import Rustylink.Foundation.Hex

/-!
# An installation over its starts

A start reads `config.json`, completes the identity in it, writes it back and
only then runs the daemon.  Every write is an `atomic_write` of its own, made
step by step, so a daemon that stops or a machine that crashes may leave any
of them unfinished.  The writer and the reader of configurations are
third-party code and parameters.
-/

namespace Rustylink.Daemon

open Rustylink.Foundation Rustylink.Api

structure ConfigCrates extends IdentityCrates where
  toVecPretty : DaemonConfig → Option (List UInt8)
  fromSlice : List UInt8 → Option DaemonConfig

structure ConfigCrates.Lawful (crates : ConfigCrates) : Prop
    extends crates.toIdentityCrates.Lawful where
  fromSlice_toVecPretty : ∀ config data, crates.toVecPretty config = some data →
    crates.fromSlice data = some config

/--
A running daemon with its settings and the identity that its client presents.
-/
structure RunningDaemon where
  config : DaemonConfig
  identity : ClientIdentity
  deriving DecidableEq, Repr

inductive Phase where
  | off
  | starting (found : DaemonConfig) (default : ClientIdentity)
  | running (daemon : RunningDaemon)
  deriving DecidableEq, Repr

structure Installation where
  disk : DiskState
  phase : Phase

inductive InstallationEvent where
  | start (machineUid : Option String)
  | write (call : Nat) (event : WriteEvent)
  | launch
  | update (u : Configuration)
  /-- `persist_config` takes a snapshot and begins to write it. -/
  | persist
  | stop
  | crash (lost : Nat → List UInt8)

namespace Installation

def daemon (s : Installation) : Option RunningDaemon :=
  match s.phase with
  | .running daemon => some daemon
  | .off | .starting .. => none

variable (crates : ConfigCrates) (path : FilePath)

def loadOrDefault (fs : FileSystem FilePath) : Option DaemonConfig :=
  match fs.contents path with
  | some data => crates.fromSlice data
  | none => some .default

def beginWrite (data : List UInt8) (s : Installation) : Installation :=
  { s with disk := { s.disk with writers := s.disk.writers ++
    [⟨data, .createDirAll⟩] } }

/--
`main`, up to the write; a configuration that cannot be read or written ends
it.
-/
def start (machineUid : Option String) (s : Installation) : Installation :=
  let default := ClientIdentity.default crates.toIdentityCrates machineUid
  let read : Option (DaemonConfig × List UInt8) := do
    let found ← loadOrDefault crates path s.disk.fs
    let data ← crates.toVecPretty (found.completed default)
    return (found, data)
  match read with
  | some (found, data) =>
      { s.beginWrite data with phase := .starting found default }
  | none => s

def halt (fs : FileSystem FilePath) : Installation := ⟨⟨fs, []⟩, .off⟩

def launch (s : Installation) : Option Installation :=
  match s.phase, s.disk.writers with
  | .starting found default, ⟨_, .returned (.ok ())⟩ :: _ =>
      let config := found.completed default
      some { s with
        phase := .running ⟨config, config.identity.toClientIdentity default⟩ }
  | .starting .., ⟨_, .returned (.error _)⟩ :: _ => some (halt s.disk.fs)
  | _, _ => none

def step (s : Installation) : InstallationEvent → Option Installation
  | .start machineUid =>
      match s.phase with
      | .off => some (s.start crates path machineUid)
      | .starting .. | .running _ => none
  | .write call event =>
      match s.phase with
      | .off => none
      | .starting .. | .running _ =>
          (s.disk.step path (.advance call event)).map fun disk =>
            { s with disk := disk }
  | .launch => s.launch
  | .update u =>
      s.daemon.map fun daemon =>
        { s with
          phase := .running { daemon with config := daemon.config.update u } }
  | .persist =>
      s.daemon.map fun daemon =>
        match crates.toVecPretty daemon.config with
        | some data => s.beginWrite data
        | none => s
  | .stop =>
      match s.phase with
      | .off => none
      | .starting .. | .running _ => some (halt s.disk.fs)
  | .crash lost => some (halt (s.disk.fs.crash lost))

/-- No write opens the `.tmp` file while another one still uses it. -/
def OpensAlone (s : Installation) : InstallationEvent → Prop
  | .write call event => s.disk.OpensAlone (.advance call event)
  | _ => True

instance (s : Installation) :
    (event : InstallationEvent) → Decidable (s.OpensAlone event)
  | .write call event =>
      inferInstanceAs (Decidable (s.disk.OpensAlone (.advance call event)))
  | .start _ | .launch | .update _ | .persist | .stop | .crash _ =>
      .isTrue trivial

/-! ## What is on disk -/

variable (device : ClientIdentity)

/-- The bytes of a configuration that stands for the device. -/
def Reads (data : List UInt8) : Prop :=
  ∃ config, crates.fromSlice data = some config ∧ StandsFor device config

structure Settled (s : Installation) : Prop where
  disk : ∃ data, Reads crates device data ∧
    DiskState.DiskInv path (some data) s.disk
  writers : ∀ w ∈ s.disk.writers, Reads crates device w.data
  idle : s.phase = .off → s.disk.writers = []
  starting : ∀ found default, s.phase = .starting found default →
    StandsFor device found
  running : ∀ daemon, s.phase = .running daemon →
    daemon.identity = device ∧ StandsFor device daemon.config

structure Opening (found : DaemonConfig) (default : ClientIdentity)
    (s : Installation) : Prop where
  phase : s.phase = .starting found default
  gaps : FillsGaps default
  disk : ∃ previous, DiskState.DiskInv path previous s.disk
  only : ∃ w, s.disk.writers = [w] ∧
    crates.toVecPretty (found.completed default) = some w.data ∧
    (w.pc = .returned (.ok ()) → s.disk.fs.contents path = some w.data)

structure Off (s : Installation) : Prop where
  phase : s.phase = .off
  writers : s.disk.writers = []
  synced : s.disk.fs.Synced path

variable {crates} {path} {device} {s s' : Installation}

theorem Settled.contents (h : Settled crates path device s) :
    ∃ data, s.disk.fs.contents path = some data ∧ Reads crates device data := by
  obtain ⟨data, hdata, hdisk⟩ := h.disk
  rcases hdisk.whole with hprevious | ⟨w, hw, hcontent⟩
  · exact ⟨data, hprevious, hdata⟩
  · exact ⟨w.data, hcontent, h.writers w hw⟩

theorem Settled.synced (h : Settled crates path device s) :
    s.disk.fs.Synced path := by
  obtain ⟨_, _, hdisk⟩ := h.disk
  exact hdisk.synced

theorem Settled.halt (h : Settled crates path device s)
    {fs' : FileSystem FilePath} (hcrash : s.disk.fs.CrashesTo fs') :
    Settled crates path device (halt fs') := by
  obtain ⟨data, hcontents, hdata⟩ := h.contents
  refine ⟨⟨data, hdata, ?_⟩, ?_, fun _ => rfl, ?_, ?_⟩
  · have hsame : fs'.contents path = some data :=
      (hcrash.contents h.synced).trans hcontents
    rw [← hsame]
    exact DiskState.DiskInv.initial path (s := ⟨fs', []⟩) rfl
      (hcrash.synced h.synced)
  · exact fun w hw => (List.not_mem_nil hw).elim
  · intro found default hphase
    cases hphase
  · intro daemon hphase
    cases hphase

theorem Settled.beginWrite (h : Settled crates path device s)
    {data : List UInt8} (hdata : Reads crates device data)
    (hpath : path ≠ tmpPath path) :
    (∃ old, Reads crates device old ∧
      DiskState.DiskInv path (some old) (s.beginWrite data).disk) ∧
      ∀ w ∈ (s.beginWrite data).disk.writers, Reads crates device w.data := by
  obtain ⟨old, hold, hdisk⟩ := h.disk
  refine ⟨⟨old, hold, hdisk.step (a := .begin data) hpath trivial rfl⟩,
    fun w hw => ?_⟩
  rcases List.mem_append.mp hw with hmem | hnew
  · exact h.writers w hmem
  · rw [List.mem_singleton.mp hnew]
    exact hdata

theorem Settled.write (h : Settled crates path device s)
    {disk : DiskState} {call : Nat} {event : WriteEvent}
    (hpath : path ≠ tmpPath path)
    (hok : s.disk.OpensAlone (.advance call event)) (hphase : s.phase ≠ .off)
    (hstep : s.disk.step path (.advance call event) = some disk) :
    Settled crates path device { s with disk := disk } := by
  obtain ⟨data, hdata, hdisk⟩ := h.disk
  refine ⟨⟨data, hdata, hdisk.step hpath hok hstep⟩, fun u hu => ?_,
    fun hoff => (hphase hoff).elim, h.starting, h.running⟩
  obtain ⟨fs', w, w', hw, heffect, rfl⟩ := DiskState.step_advance hstep
  rcases List.mem_or_eq_of_mem_set hu with hold | rfl
  · exact h.writers u hold
  · rw [heffect.data_eq]
    exact h.writers w (List.mem_of_getElem? hw)

theorem start_spec (crates : ConfigCrates) (path : FilePath)
    (machineUid : Option String) (s : Installation) :
    s.start crates path machineUid = s ∨
      ∃ found data, loadOrDefault crates path s.disk.fs = some found ∧
        crates.toVecPretty
          (found.completed (.default crates.toIdentityCrates machineUid)) =
            some data ∧
        s.start crates path machineUid = { s.beginWrite data with
          phase := .starting found
            (.default crates.toIdentityCrates machineUid) } := by
  unfold start
  cases hload : loadOrDefault crates path s.disk.fs with
  | none => exact .inl rfl
  | some found =>
      cases hwrite : crates.toVecPretty
        (found.completed (.default crates.toIdentityCrates machineUid)) with
      | none =>
          left
          simp [hwrite]
      | some data =>
          refine .inr ⟨found, data, rfl, hwrite, ?_⟩
          simp [hwrite]

theorem Settled.start (hcrates : crates.Lawful)
    (h : Settled crates path device s) (hpath : path ≠ tmpPath path)
    (machineUid : Option String) :
    Settled crates path device (s.start crates path machineUid) := by
  rcases start_spec crates path machineUid s with
    hsame | ⟨found, data, hload, hwrite, hstart⟩
  · rw [hsame]
    exact h
  · rw [hstart]
    obtain ⟨held, hcontents, config, hread, hstands⟩ := h.contents
    have hfound : config = found := by
      unfold loadOrDefault at hload
      rw [hcontents] at hload
      exact Option.some.inj (hread.symm.trans hload)
    subst hfound
    rw [hstands.completed_eq] at hwrite
    obtain ⟨hdisk, hwriters⟩ := h.beginWrite
      ⟨config, hcrates.fromSlice_toVecPretty _ _ hwrite, hstands⟩ hpath
    refine ⟨hdisk, hwriters, nofun, ?_, ?_⟩
    · intro found default hphase
      cases hphase
      exact hstands
    · intro daemon hphase
      cases hphase

theorem launch_spec (h : s.launch = some s') :
    ∃ found default, s.phase = .starting found default ∧
      ((∃ w rest, s.disk.writers = w :: rest ∧ w.pc = .returned (.ok ()) ∧
        s' = { s with phase := .running ⟨found.completed default,
          (found.completed default).identity.toClientIdentity default⟩ }) ∨
        s' = halt s.disk.fs) := by
  unfold launch at h
  split at h
  · next found default data rest hphase hwriters =>
      cases h
      exact ⟨found, default, hphase, .inl ⟨_, rest, hwriters, rfl, rfl⟩⟩
  · next found default data error rest hphase hwriters =>
      cases h
      exact ⟨found, default, hphase, .inr rfl⟩
  · contradiction

theorem daemon_eq_some {daemon : RunningDaemon} (h : s.daemon = some daemon) :
    s.phase = .running daemon := by
  unfold Installation.daemon at h
  split at h
  · next hphase =>
      cases h
      exact hphase
  · contradiction
  · contradiction

theorem Settled.run {daemon : RunningDaemon}
    (hidentity : daemon.identity = device)
    (hstands : StandsFor device daemon.config)
    (hdisk : ∃ data, Reads crates device data ∧
      DiskState.DiskInv path (some data) s.disk)
    (hwriters : ∀ w ∈ s.disk.writers, Reads crates device w.data) :
    Settled crates path device { s with phase := .running daemon } := by
  refine ⟨hdisk, hwriters, ?_, ?_, ?_⟩
  · intro hoff
    cases hoff
  · intro found default hstarting
    cases hstarting
  · intro other hother
    obtain rfl := Phase.running.inj hother
    exact ⟨hidentity, hstands⟩

theorem Settled.launch (h : Settled crates path device s)
    (hlaunch : s.launch = some s') :
    Settled crates path device s' := by
  obtain ⟨found, default, hphase, hstarted | rfl⟩ := launch_spec hlaunch
  · obtain ⟨w, rest, -, -, rfl⟩ := hstarted
    have hstands := h.starting found default hphase
    rw [hstands.completed_eq]
    exact .run (hstands.2 default) hstands h.disk h.writers
  · exact h.halt (.refl _)

theorem Settled.update (h : Settled crates path device s)
    {daemon : RunningDaemon} (hrunning : s.phase = .running daemon)
    (u : Configuration) :
    Settled crates path device
      { s with
        phase := .running
          { daemon with config := daemon.config.update u } } := by
  obtain ⟨hidentity, hstands⟩ := h.running daemon hrunning
  exact .run hidentity hstands h.disk h.writers

theorem Settled.persist (hcrates : crates.Lawful)
    (h : Settled crates path device s) (hpath : path ≠ tmpPath path)
    {daemon : RunningDaemon}
    (hrunning : s.phase = .running daemon) {data : List UInt8}
    (hwrite : crates.toVecPretty daemon.config = some data) :
    Settled crates path device (s.beginWrite data) := by
  have hstands := (h.running daemon hrunning).2
  obtain ⟨hdisk, hwriters⟩ := h.beginWrite
    ⟨daemon.config, hcrates.fromSlice_toVecPretty _ _ hwrite, hstands⟩ hpath
  refine ⟨hdisk, hwriters, fun hoff => ?_, h.starting, h.running⟩
  have hphase : s.phase = .off := hoff
  rw [hrunning] at hphase
  cases hphase

theorem Settled.step (hcrates : crates.Lawful) (hpath : path ≠ tmpPath path)
    {event : InstallationEvent} (h : Settled crates path device s)
    (hok : s.OpensAlone event) (hstep : s.step crates path event = some s') :
    Settled crates path device s' := by
  cases event with
  | start machineUid =>
      simp only [Installation.step] at hstep
      split at hstep <;> cases hstep
      exact h.start hcrates hpath machineUid
  | write call event =>
      simp only [Installation.step] at hstep
      split at hstep
      · contradiction
      all_goals
        next hphase =>
          obtain ⟨disk, hdisk, rfl⟩ := Option.map_eq_some_iff.mp hstep
          refine h.write hpath hok ?_ hdisk
          rw [hphase]
          nofun
  | launch => exact h.launch hstep
  | update u =>
      obtain ⟨daemon, hdaemon, rfl⟩ := Option.map_eq_some_iff.mp hstep
      exact h.update (daemon_eq_some hdaemon) u
  | persist =>
      obtain ⟨daemon, hdaemon, rfl⟩ := Option.map_eq_some_iff.mp hstep
      split
      · next hwrite => exact h.persist hcrates hpath (daemon_eq_some hdaemon) hwrite
      · exact h
  | stop =>
      simp only [Installation.step] at hstep
      split at hstep <;> cases hstep
      all_goals exact h.halt (.refl _)
  | crash lost =>
      cases hstep
      exact h.halt (FileSystem.crash_crashesTo lost _)

/-! ## A start with nothing to build on -/

theorem Off.halt {fs : FileSystem FilePath} (h : fs.Synced path) :
    Off path (halt fs) :=
  ⟨rfl, rfl, h⟩

theorem Off.start (hcrates : crates.Lawful) (h : Off path s)
    (hpath : path ≠ tmpPath path) (machineUid : Option String) :
    Off path (s.start crates path machineUid) ∨
      ∃ found default, Opening crates path found default
        (s.start crates path machineUid) := by
  rcases start_spec crates path machineUid s with
    hsame | ⟨found, data, -, hwrite, hstart⟩
  · rw [hsame]
    exact .inl h
  · rw [hstart]
    have hinitial := DiskState.DiskInv.initial path h.writers h.synced
    refine .inr ⟨found, _, rfl, default_fillsGaps hcrates.toLawful machineUid,
      ⟨_, hinitial.step (a := .begin data) hpath trivial rfl⟩,
      ⟨data, .createDirAll⟩, ?_, hwrite, nofun⟩
    simp [Installation.beginWrite, h.writers]

variable {found : DaemonConfig} {default : ClientIdentity}

theorem Opening.synced (h : Opening crates path found default s) :
    s.disk.fs.Synced path := by
  obtain ⟨_, hdisk⟩ := h.disk
  exact hdisk.synced

theorem Opening.write (h : Opening crates path found default s)
    {disk : DiskState} {call : Nat} {event : WriteEvent}
    (hpath : path ≠ tmpPath path)
    (hok : s.disk.OpensAlone (.advance call event))
    (hstep : s.disk.step path (.advance call event) = some disk) :
    Opening crates path found default { s with disk := disk } := by
  obtain ⟨previous, hdisk⟩ := h.disk
  obtain ⟨w, hwriters, hwrite, -⟩ := h.only
  have hafter := hdisk.step hpath hok hstep
  have hown := hdisk.installsOwn (a := .advance call event) disk
  obtain ⟨fs', u, w', hu, heffect, rfl⟩ := DiskState.step_advance hstep
  -- the only call is the one of the start
  rw [hwriters] at hu
  obtain ⟨rfl, rfl⟩ : call = 0 ∧ w = u := by
    cases call with
    | zero => exact ⟨rfl, Option.some.inj hu⟩
    | succ n => contradiction
  have hsingle : s.disk.writers.set 0 w' = [w'] := by rw [hwriters]; rfl
  refine ⟨h.phase, h.gaps, ⟨previous, hafter⟩, w', hsingle, ?_,
    fun hreturned => ?_⟩
  · rw [heffect.data_eq]
    exact hwrite
  · exact hown w' hstep (by rw [hsingle]; rfl) hreturned

theorem Opening.launch (hcrates : crates.Lawful)
    (h : Opening crates path found default s) (hlaunch : s.launch = some s') :
    Off path s' ∨ ∃ daemon, s'.phase = .running daemon ∧
      daemon.identity = found.identity.toClientIdentity default ∧
      Settled crates path (found.identity.toClientIdentity default) s' := by
  obtain ⟨found', default', hphase, hstarted | rfl⟩ := launch_spec hlaunch
  · obtain ⟨u, rest, hfirst, hreturned, rfl⟩ := hstarted
    obtain ⟨rfl, rfl⟩ := Phase.starting.inj (h.phase.symm.trans hphase)
    obtain ⟨previous, hdisk⟩ := h.disk
    obtain ⟨w, hwriters, hwrite, hown⟩ := h.only
    obtain ⟨rfl, rfl⟩ := List.cons.inj (hwriters.symm.trans hfirst)
    have hstands := StandsFor.completed h.gaps found
    have hreads :
        Reads crates (found.identity.toClientIdentity default) w.data :=
      ⟨_, hcrates.fromSlice_toVecPretty _ _ hwrite, hstands⟩
    -- what the file held before the start is of no account any more
    refine .inr ⟨_, rfl, hstands.2 default, .run (hstands.2 default) hstands
      ⟨w.data, hreads, { hdisk with whole := .inl (hown hreturned) }⟩
        fun v hv => ?_⟩
    rw [hwriters, List.mem_singleton] at hv
    rw [hv]
    exact hreads
  · exact .inl (.halt h.synced)

inductive Sound (crates : ConfigCrates) (path : FilePath)
    (s : Installation) : Prop
  | off (h : Off path s)
  | opening {found : DaemonConfig} {default : ClientIdentity}
      (h : Opening crates path found default s)
  | settled {daemon : RunningDaemon} (hrunning : s.phase = .running daemon)
      (h : Settled crates path daemon.identity s)

theorem Sound.synced (h : Sound crates path s) : s.disk.fs.Synced path := by
  cases h with
  | off h => exact h.synced
  | opening h => exact h.synced
  | settled _ h => exact h.synced

theorem Sound.launch (hcrates : crates.Lawful) (h : Sound crates path s)
    (hlaunch : s.launch = some s') : Sound crates path s' := by
  cases h with
  | off h =>
      obtain ⟨found, default, hphase, -⟩ := launch_spec hlaunch
      rw [h.phase] at hphase
      cases hphase
  | opening h =>
      rcases h.launch hcrates hlaunch with
        hoff | ⟨daemon, hrunning, hidentity, hsettled⟩
      · exact .off hoff
      · exact .settled hrunning (hidentity ▸ hsettled)
  | settled hrunning h =>
      obtain ⟨found, default, hphase, -⟩ := launch_spec hlaunch
      rw [hrunning] at hphase
      cases hphase

theorem Sound.write (h : Sound crates path s) {disk : DiskState} {call : Nat}
    {event : WriteEvent} (hpath : path ≠ tmpPath path)
    (hok : s.disk.OpensAlone (.advance call event)) (hphase : s.phase ≠ .off)
    (hstep : s.disk.step path (.advance call event) = some disk) :
    Sound crates path { s with disk := disk } := by
  cases h with
  | off h => exact (hphase h.phase).elim
  | opening h => exact .opening (h.write hpath hok hstep)
  | settled hrunning h =>
      exact .settled hrunning (h.write hpath hok hphase hstep)

theorem Sound.of_running (h : Sound crates path s) {daemon : RunningDaemon}
    (hrunning : s.phase = .running daemon) :
    Settled crates path daemon.identity s := by
  cases h with
  | off h =>
      rw [h.phase] at hrunning
      cases hrunning
  | opening h =>
      rw [h.phase] at hrunning
      cases hrunning
  | settled hother h =>
      rw [hother] at hrunning
      cases hrunning
      exact h

theorem Sound.step (hcrates : crates.Lawful) (hpath : path ≠ tmpPath path)
    {event : InstallationEvent} (h : Sound crates path s)
    (hok : s.OpensAlone event) (hstep : s.step crates path event = some s') :
    Sound crates path s' := by
  cases event with
  | start machineUid =>
      simp only [Installation.step] at hstep
      split at hstep <;> cases hstep
      next hphase =>
        have hoff : Off path s := by
          cases h with
          | off h => exact h
          | opening h =>
              rw [h.phase] at hphase
              cases hphase
          | settled hrunning _ =>
              rw [hrunning] at hphase
              cases hphase
        rcases hoff.start hcrates hpath machineUid with hsame | ⟨_, _, hopening⟩
        · exact .off hsame
        · exact .opening hopening
  | write call event =>
      simp only [Installation.step] at hstep
      split at hstep
      · contradiction
      all_goals
        next hphase =>
          obtain ⟨disk, hdisk, rfl⟩ := Option.map_eq_some_iff.mp hstep
          refine h.write hpath hok ?_ hdisk
          rw [hphase]
          nofun
  | launch => exact h.launch hcrates hstep
  | update u =>
      obtain ⟨daemon, hdaemon, rfl⟩ := Option.map_eq_some_iff.mp hstep
      have hrunning := daemon_eq_some hdaemon
      exact .settled rfl ((h.of_running hrunning).update hrunning u)
  | persist =>
      obtain ⟨daemon, hdaemon, rfl⟩ := Option.map_eq_some_iff.mp hstep
      have hrunning := daemon_eq_some hdaemon
      split
      · next hwrite =>
          exact .settled hrunning
            ((h.of_running hrunning).persist hcrates hpath hrunning hwrite)
      · exact h
  | stop =>
      simp only [Installation.step] at hstep
      split at hstep <;> cases hstep
      all_goals exact .off (.halt h.synced)
  | crash lost =>
      cases hstep
      exact .off (.halt ((FileSystem.crash_crashesTo lost _).synced h.synced))

/-! ## Runs -/

def machineDigest (message : ByteString) : ByteString :=
  if message = utf8 "device-id-v1" then
    [0x28, 0x9c, 0x61, 0x83, 0x05, 0xab, 0x09, 0x5d, 0xf6, 0xee, 0xf8, 0x42,
      0x04, 0xc1, 0x45, 0x8e, 0x03, 0x15, 0xd8, 0x68, 0xa6, 0x03, 0x3d, 0xf9,
      0x94, 0x22, 0x68, 0x76, 0x69, 0x1a, 0xb6, 0x6b]
  else
    [0x53, 0x2c, 0xdf, 0xf8, 0x68, 0x5e, 0xaf, 0xa5, 0x24, 0xa3, 0x18, 0x0b,
      0x13, 0xb2, 0xab, 0x72, 0x67, 0x1e, 0xac, 0x15, 0xf6, 0x64, 0x99, 0x81,
      0xc8, 0x1a, 0x3f, 0xe6, 0x89, 0x61, 0xfa, 0x78]

def machineCrates : IdentityCrates := ⟨machineDigest, hexEncode⟩

theorem machineCrates_lawful : machineCrates.Lawful where
  sha256_length message := by
    show (machineDigest message).length = 32
    unfold machineDigest
    split <;> rfl
  hexEncode_length bytes := by
    rw [String.length_toList]
    exact length_hexEncode bytes
  hexEncode_digits bytes c hc := by
    have hall : ∀ n < 16, hexDigit n ∈ hexDigitChars := by decide
    obtain ⟨n, hn, rfl⟩ := hexEncode_digits bytes c hc
    exact hall n hn

def firstConfig : DaemonConfig :=
  DaemonConfig.default.completed (ClientIdentity.default machineCrates none)

def configText (outbound : String) : List UInt8 :=
  [10].intercalate (List.map utf8
    ["\x7b",
      "  \"identity\": \x7b",
      "    \"device_id\": \"289c618305ab095df6eef84204c1458e\",",
      "    \"os\": \"Android\",",
      "    \"os_version\": \"35\",",
      "    \"app_version\": \"3.2.16\",",
      "    \"brand\": \"google\",",
      "    \"model\": \"Pixel 8\",",
      "    \"build_number\": \"2008\",",
      "    \"os_version_patch\": \"2025-05-05\",",
      "    \"client_source\": \"FeiLian\",",
      "    \"language\": \"en\",",
      "    \"user_agent\": \"CorpLink/3.2.16 (googlePixel 8; Android 15; en)\"",
      "  \x7d,",
      "  \"outbound_interface\": " ++ outbound ++ ",",
      "  \"fallback_dns\": null,",
      "  \"tun_interface\": null,",
      "  \"auto_reconnect\": false,",
      "  \"dns_listen_port\": null,",
      "  \"dns_listen_host\": null,",
      "  \"route_system_dns\": null",
      "\x7d"])

def configTexts : List (DaemonConfig × List UInt8) :=
  [(firstConfig, configText "null"),
    ({ firstConfig with outboundInterface := some "en0" },
      configText "\"en0\"")]

def textCrates : ConfigCrates where
  toIdentityCrates := machineCrates
  toVecPretty config :=
    (configTexts.find? fun row => row.1 = config).map Prod.snd
  fromSlice data := (configTexts.find? fun row => row.2 = data).map Prod.fst

theorem textCrates_lawful : textCrates.Lawful where
  toLawful := machineCrates_lawful
  fromSlice_toVecPretty config data h := by
    have hall : ∀ row ∈ configTexts, textCrates.fromSlice row.2 =
        some row.1 := by
      decide +kernel
    obtain ⟨row, hrow, rfl⟩ := Option.map_eq_some_iff.mp h
    have hconfig := List.find?_some hrow
    rw [hall row (List.mem_of_find?_eq_some hrow), of_decide_eq_true hconfig]

def written (call : Nat) (outbound : String) : List InstallationEvent :=
  [.write call .done, .write call .done,
    .write call (.wrote (configText outbound).length), .write call .done,
    .write call .done, .write call .done]

abbrev textStep : Installation → InstallationEvent → Option Installation :=
  step textCrates (PersistedFile.config.path "/etc/rustylink")

def emptyDisk : FileSystem FilePath where
  inodes := []
  entries _ := none
  valid := nofun
  single := nofun

def firstStart : Installation :=
  final textStep (halt emptyDisk) (.start none :: written 0 "null")

def firstRun : Installation := firstStart.launch.getD firstStart

/--
A setting changes, the machine crashes in the middle of a write, and it has a
UID now.
-/
def laterEvents : List InstallationEvent :=
  [.update (selectOutbound "en0"), .persist] ++ written 1 "\"en0\"" ++
    [.persist, .write 2 .done, .write 2 .done, .write 2 (.wrote 5),
      .crash fun _ => [0],
      .start (some "abc")] ++ written 0 "\"en0\"" ++ [.launch]

theorem emptyDisk_off :
    Off (PersistedFile.config.path "/etc/rustylink") (halt emptyDisk) where
  phase := rfl
  writers := rfl
  synced := by
    intro held hheld
    cases hheld

end Installation

end Rustylink.Daemon
