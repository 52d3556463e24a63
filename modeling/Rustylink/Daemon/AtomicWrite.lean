import Rustylink.Foundation.FileSystem
import Rustylink.Foundation.TaskPool
import Rustylink.Foundation.Transition

/-!
# Atomic writes

`atomic_write` writes a sibling `.tmp` file, syncs it and renames it over the
target.  Every call on one target uses the same `.tmp` name, so a call that
opens it while another one is between its open and its rename truncates the
file that the other one is about to install.
-/

namespace Rustylink.Daemon

open Rustylink.Foundation

structure FilePath where
  parent : String
  stem : String
  extension : Option String
  deriving DecidableEq, Repr

def FilePath.withExtension (path : FilePath) (extension : String) : FilePath :=
  { path with extension := some extension }

inductive PersistedFile where
  | config
  | credentials
  deriving DecidableEq, Repr

def PersistedFile.path (configDir : String) : PersistedFile → FilePath
  | .config => ⟨configDir, "config", some "json"⟩
  | .credentials => ⟨configDir, "credentials", some "json"⟩

inductive PersistError where
  | createDir (path source : String)
  | write (path : FilePath) (source : String)
  deriving DecidableEq, Repr

inductive WritePc where
  | createDirAll
  | openTmp
  | writing (inode offset : Nat)
  | setPermissions
  | rename
  | returned (result : Except PersistError Unit)
  deriving DecidableEq

structure Writer where
  data : List UInt8
  pc : WritePc

structure DiskState where
  fs : FileSystem FilePath
  writers : List Writer

inductive WriteEvent where
  | done
  | wrote (count : Nat)
  | failed (source : String)
  deriving DecidableEq, Repr

inductive DiskAction where
  | begin (data : List UInt8)
  | advance (call : Nat) (event : WriteEvent)

def WritePc.active : WritePc → Bool
  | .writing .. | .setPermissions | .rename => true
  | .createDirAll | .openTmp | .returned _ => false

variable (path : FilePath)

def tmpPath : FilePath := path.withExtension "tmp"

namespace Writer

def fail (source : String) (w : Writer) : Option Writer :=
  match w.pc with
  | .createDirAll =>
      some { w with pc := .returned (.error (.createDir path.parent source)) }
  | .openTmp | .writing .. | .setPermissions =>
      some { w with pc := .returned (.error (.write (tmpPath path) source)) }
  | .rename => some { w with pc := .returned (.error (.write path source)) }
  | .returned _ => none

def finish (fs : FileSystem FilePath) (w : Writer) :
    Option (FileSystem FilePath × Writer) :=
  match w.pc with
  | .createDirAll => some (fs, { w with pc := .openTmp })
  | .openTmp =>
      let (inode, fs) := fs.openTruncate (tmpPath path)
      some (fs, { w with pc := .writing inode 0 })
  | .writing inode offset =>
      if offset = w.data.length then some (fs.sync inode,
        { w with pc := .setPermissions })
      else none
  | .setPermissions =>
      if (fs.entries (tmpPath path)).isSome then some (fs,
        { w with pc := .rename })
      else none
  | .rename =>
      (fs.rename (tmpPath path) path).map fun fs =>
        (fs, { w with pc := .returned (.ok ()) })
  | .returned _ => none

def writeSome (fs : FileSystem FilePath) (count : Nat) (w : Writer) :
    Option (FileSystem FilePath × Writer) :=
  match w.pc with
  | .writing inode offset =>
      if 0 < count ∧ offset + count ≤ w.data.length then
        some (fs.writeAt inode offset ((w.data.drop offset).take count),
          { w with pc := .writing inode (offset + count) })
      else none
  | _ => none

def advance (fs : FileSystem FilePath) (w : Writer) :
    WriteEvent → Option (FileSystem FilePath × Writer)
  | .done => w.finish path fs
  | .wrote count => w.writeSome fs count
  | .failed source => (w.fail path source).map fun w => (fs, w)

variable {path : FilePath}

inductive Effect (path : FilePath) (fs : FileSystem FilePath) (w : Writer) :
    WriteEvent → FileSystem FilePath → Writer → Prop
  | quiet {event : WriteEvent} {pc : WritePc} : pc.active = false →
      pc ≠ .returned (.ok ()) → Effect path fs w event fs { w with pc := pc }
  | opened : w.pc = .openTmp →
      Effect path fs w .done (fs.openTruncate (tmpPath path)).2
        { w with pc := .writing (fs.openTruncate (tmpPath path)).1 0 }
  | wrote {inode offset count : Nat} : w.pc = .writing inode offset →
      offset + count ≤ w.data.length →
      Effect path fs w (.wrote count)
        (fs.writeAt inode offset ((w.data.drop offset).take count))
        { w with pc := .writing inode (offset + count) }
  | synced {inode : Nat} : w.pc = .writing inode w.data.length →
      Effect path fs w .done (fs.sync inode) { w with pc := .setPermissions }
  | permitted : w.pc = .setPermissions →
      Effect path fs w .done fs { w with pc := .rename }
  | renamed {fs' : FileSystem FilePath} : w.pc = .rename →
      fs.rename (tmpPath path) path = some fs' →
      Effect path fs w .done fs' { w with pc := .returned (.ok ()) }

theorem Effect.data_eq {fs fs' : FileSystem FilePath} {w w' : Writer}
    {event : WriteEvent} (h : Effect path fs w event fs' w') :
    w'.data = w.data := by
  cases h <;> rfl

theorem finish_effect {fs fs' : FileSystem FilePath} {w w' : Writer}
    (h : w.finish path fs = some (fs', w')) :
    Effect path fs w .done fs' w' := by
  unfold finish at h
  split at h
  · cases h
    exact .quiet rfl (by simp)
  · rename_i hpc
    cases h
    exact .opened hpc
  · rename_i inode offset hpc
    split at h
    · rename_i hlength
      cases h
      exact .synced (hlength ▸ hpc)
    · cases h
  · rename_i hpc
    split at h
    · cases h
      exact .permitted hpc
    · cases h
  · rename_i hpc
    obtain ⟨renamed, hrename, heq⟩ := Option.map_eq_some_iff.mp h
    cases heq
    exact .renamed hpc hrename
  · cases h

theorem writeSome_effect {fs fs' : FileSystem FilePath}
    {w w' : Writer} {count : Nat} (h : w.writeSome fs count = some (fs', w')) :
    Effect path fs w (.wrote count) fs' w' := by
  unfold writeSome at h
  split at h
  · rename_i inode offset hpc
    split at h
    · rename_i hcount
      cases h
      exact .wrote hpc hcount.2
    · cases h
  · cases h

theorem fail_effect {fs : FileSystem FilePath} {w w' : Writer} {source : String}
    (h : w.fail path source = some w') :
    Effect path fs w (.failed source) fs w' := by
  unfold fail at h
  split at h
  · cases h
    exact .quiet rfl (by simp)
  · cases h
    exact .quiet rfl (by simp)
  · cases h
    exact .quiet rfl (by simp)
  · cases h
    exact .quiet rfl (by simp)
  · cases h
    exact .quiet rfl (by simp)
  · cases h

theorem advance_effect {fs fs' : FileSystem FilePath} {w w' : Writer}
    {event : WriteEvent} (h : w.advance path fs event = some (fs', w')) :
    Effect path fs w event fs' w' := by
  cases event with
  | done => exact finish_effect h
  | wrote count => exact writeSome_effect h
  | failed source =>
      obtain ⟨failed, hfail, heq⟩ := Option.map_eq_some_iff.mp h
      cases heq
      exact fail_effect hfail

end Writer

namespace DiskState

def step (s : DiskState) : DiskAction → Option DiskState
  | .begin data =>
      some { s with writers := s.writers ++ [⟨data, .createDirAll⟩] }
  | .advance call event =>
      match s.writers[call]? with
      | none => none
      | some w =>
          (w.advance path s.fs event).map fun (fs, w) =>
            ⟨fs, s.writers.set call w⟩

theorem step_advance {path : FilePath} {s s' : DiskState} {call : Nat}
    {event : WriteEvent} (h : s.step path (.advance call event) = some s') :
    ∃ fs' w w', s.writers[call]? = some w ∧
      Writer.Effect path s.fs w event fs' w' ∧
        s' = ⟨fs', s.writers.set call w'⟩ := by
  simp only [step] at h
  split at h
  · cases h
  · rename_i w hw
    obtain ⟨⟨fs', w'⟩, hadvance, rfl⟩ := Option.map_eq_some_iff.mp h
    exact ⟨fs', w, w', hw, Writer.advance_effect hadvance, rfl⟩

/-- The previous content of the file, or all the bytes of one of the calls. -/
def Whole (previous : Option (List UInt8)) (writers : List Writer)
    (content : Option (List UInt8)) : Prop :=
  content = previous ∨ ∃ w ∈ writers, content = some w.data

/-- A call that returns `Ok` in this step has put its own bytes in place. -/
def InstallsOwn (s : DiskState) : DiskAction → Prop
  | .begin _ => True
  | .advance call event => ∀ (s' : DiskState) (w : Writer),
      s.step path (.advance call event) = some s' → s'.writers[call]? = some w →
      w.pc = .returned (.ok ()) → s'.fs.contents path = some w.data

/-- No call opens the `.tmp` file while another one still uses it. -/
def OpensAlone (s : DiskState) : DiskAction → Prop
  | .advance call .done => ∀ (w : Writer), s.writers[call]? = some w →
        w.pc = .openTmp →
      ∀ (other : Nat) (u : Writer), s.writers[other]? = some u →
        u.pc.active = false
  | _ => True

instance (s : DiskState) (a : DiskAction) : Decidable (s.OpensAlone a) :=
  match a with
  | .advance call .done =>
      decidable_of_iff (∀ w ∈ s.writers[call]?, w.pc = .openTmp →
        ∀ u ∈ s.writers, u.pc.active = false)
        ⟨fun h w hw hpc _ u hu => h w hw hpc u (List.mem_of_getElem? hu),
          fun h w hw hpc u hu =>
            have ⟨other, hother⟩ := List.mem_iff_getElem?.mp hu
            h w hw hpc other u hother⟩
  | .begin _ | .advance _ (.wrote _) | .advance _ (.failed _) => .isTrue trivial

/-! ## The invariant -/

def TmpHolds (fs : FileSystem FilePath) (w : Writer) : Prop :=
  match w.pc with
  | .writing inode offset =>
      offset ≤ w.data.length ∧ fs.entries (tmpPath path) = some inode ∧
        ∃ held, fs.lookup (tmpPath path) = some held ∧
        held.data = w.data.take offset
  | .setPermissions | .rename => fs.lookup (tmpPath path) = some ⟨w.data, true⟩
  | .createDirAll | .openTmp | .returned _ => True

structure DiskInv (previous : Option (List UInt8)) (s : DiskState) : Prop where
  whole : Whole previous s.writers (s.fs.contents path)
  synced : s.fs.Synced path
  alone : ∀ (i j : Nat) (w u : Writer), s.writers[i]? = some w →
    s.writers[j]? = some u →
    w.pc.active = true → u.pc.active = true → i = j
  tmp : EveryTask (fun _ w => TmpHolds path s.fs w) s.writers

variable {path : FilePath} {previous : Option (List UInt8)}

theorem TmpHolds.of_inactive {fs : FileSystem FilePath} {w : Writer}
    (h : w.pc.active = false) : TmpHolds path fs w := by
  unfold TmpHolds
  cases hpc : w.pc <;> simp_all [WritePc.active]

theorem Whole.mono {writers writers' : List Writer}
    {content : Option (List UInt8)} (h : Whole previous writers content)
    (hwriters : ∀ w ∈ writers, ∃ w' ∈ writers', w'.data = w.data) :
    Whole previous writers' content := by
  rcases h with hprevious | ⟨w, hw, hcontent⟩
  · exact .inl hprevious
  · obtain ⟨w', hw', hdata⟩ := hwriters w hw
    exact .inr ⟨w', hw', hdata ▸ hcontent⟩

theorem set_data {writers : List Writer} {call : Nat} {w w' : Writer}
    (hw : writers[call]? = some w) (hdata : w'.data = w.data) :
    ∀ u ∈ writers, ∃ u' ∈ writers.set call w', u'.data = u.data := by
  intro u hu
  obtain ⟨j, hj⟩ := List.mem_iff_getElem?.mp hu
  by_cases hsame : j = call
  · subst hsame
    rw [hw] at hj
    cases hj
    exact ⟨w', List.mem_of_getElem? (get_set_self hw), hdata⟩
  · exact ⟨u, List.mem_of_getElem? ((get_set hw).mpr (.inr ⟨hsame, hj⟩)), rfl⟩

theorem DiskInv.move {s : DiskState} {fs' : FileSystem FilePath} {call : Nat}
    {w w' : Writer} (h : DiskInv path previous s)
    (hw : s.writers[call]? = some w) (hdata : w'.data = w.data)
    (hpath : fs'.lookup path = s.fs.lookup path)
    (hidle : w'.pc.active = true → ∀ (other : Nat) (u : Writer), other ≠ call →
      s.writers[other]? = some u → u.pc.active = false)
    (hothers : ∀ (other : Nat) (u : Writer), other ≠ call →
      s.writers[other]? = some u →
      TmpHolds path fs' u)
    (htmp : TmpHolds path fs' w') :
    DiskInv path previous ⟨fs', s.writers.set call w'⟩ where
  whole := by
    have hcontents : fs'.contents path = s.fs.contents path :=
      congrArg (Option.map Inode.data) hpath
    rw [hcontents]
    exact h.whole.mono (set_data hw hdata)
  synced := by
    intro held hheld
    rw [hpath] at hheld
    exact h.synced held hheld
  alone := by
    intro i j first second hi hj hfirst hsecond
    rcases (get_set hw).mp hi with ⟨rfl, rfl⟩ | ⟨hne, hold⟩
    · rcases (get_set hw).mp hj with ⟨rfl, -⟩ | ⟨hne', hold'⟩
      · rfl
      · rw [hidle hfirst j second hne' hold'] at hsecond
        cases hsecond
    · rcases (get_set hw).mp hj with ⟨rfl, rfl⟩ | ⟨-, hold'⟩
      · rw [hidle hsecond i first hne hold] at hfirst
        cases hfirst
      · exact h.alone i j first second hold hold' hfirst hsecond
  tmp := by
    intro i u hi
    rcases (get_set hw).mp hi with ⟨-, rfl⟩ | ⟨hne, hold⟩
    · exact htmp
    · exact hothers i u hne hold

theorem DiskInv.others_idle {s : DiskState} {call : Nat} {w : Writer}
    (h : DiskInv path previous s) (hw : s.writers[call]? = some w)
    (hactive : w.pc.active = true) (other : Nat) (u : Writer)
    (hne : other ≠ call) (hu : s.writers[other]? = some u) :
    u.pc.active = false := by
  by_contra hbusy
  rw [Bool.not_eq_false] at hbusy
  exact hne (h.alone other call u w hu hw hbusy hactive)

theorem DiskInv.renamed {s : DiskState} {fs' : FileSystem FilePath} {call : Nat}
    {w : Writer} (h : DiskInv path previous s) (hw : s.writers[call]? = some w)
    (hactive : w.pc.active = true)
    (hlookup : fs'.lookup path = some ⟨w.data, true⟩) :
    DiskInv path previous
      ⟨fs', s.writers.set call { w with pc := .returned (.ok ()) }⟩ where
  whole := by
    have hmem : ({ w with pc := .returned (.ok ()) } : Writer) ∈
        s.writers.set call { w with pc := .returned (.ok ()) } :=
      List.mem_of_getElem? (get_set_self hw)
    refine .inr ⟨_, hmem, ?_⟩
    rw [FileSystem.contents, hlookup]
    rfl
  synced := by
    intro held hheld
    rw [hlookup] at hheld
    cases hheld
    rfl
  alone := by
    intro i j first second hi hj hfirst hsecond
    rcases (get_set hw).mp hi with ⟨-, rfl⟩ | ⟨hne, hold⟩
    · cases hfirst
    · rw [h.others_idle hw hactive i first hne hold] at hfirst
      cases hfirst
  tmp := by
    intro i u hi
    rcases (get_set hw).mp hi with ⟨-, rfl⟩ | ⟨hne, hold⟩
    · trivial
    · exact .of_inactive (h.others_idle hw hactive i u hne hold)

theorem DiskInv.advance {s : DiskState} {fs' : FileSystem FilePath} {call : Nat}
    {event : WriteEvent} {w w' : Writer} (h : DiskInv path previous s)
    (hpath : path ≠ tmpPath path) (hw : s.writers[call]? = some w)
    (hok : s.OpensAlone (.advance call event))
    (heffect : Writer.Effect path s.fs w event fs' w') :
    DiskInv path previous ⟨fs', s.writers.set call w'⟩ := by
  have hkeeps : TmpHolds path s.fs w := h.tmp call w hw
  have hidle := h.others_idle hw
  have hinactive : ∀ fs, w.pc.active = true →
      ∀ (other : Nat) (u : Writer), other ≠ call →
      s.writers[other]? = some u → TmpHolds path fs u :=
    fun fs hactive other u hne hu => .of_inactive (hidle hactive other u hne hu)
  cases heffect with
  | quiet hquiet _ =>
      refine h.move hw rfl rfl ?_ (fun other u _ hu => h.tmp other u hu)
        (.of_inactive hquiet)
      intro hactive
      rw [hquiet] at hactive
      cases hactive
  | opened hpc =>
      obtain ⟨hentry, hlookup, hframe⟩ := s.fs.openTruncate_spec (tmpPath path)
      have hothers := hok w hw hpc
      refine h.move hw rfl (hframe path hpath)
        (fun _ other u _ hu => hothers other u hu)
        (fun other u _ hu => .of_inactive (hothers other u hu)) ?_
      exact ⟨Nat.zero_le _, hentry, _, hlookup, by simp⟩
  | @wrote inode offset count hpc hcount =>
      have hactive : w.pc.active = true := by rw [hpc]; rfl
      rw [TmpHolds, hpc] at hkeeps
      obtain ⟨hoffset, hentry, held, hheld, hwritten⟩ := hkeeps
      obtain ⟨hentries, hlookup, hframe⟩ := FileSystem.writeAt_spec offset
        ((w.data.drop offset).take count) hentry hheld
      refine h.move hw rfl (hframe path hpath) (fun _ => hidle hactive)
        (hinactive _ hactive) ?_
      refine ⟨hcount, by rw [hentries]; exact hentry, _, hlookup, ?_⟩
      rw [hwritten]
      exact overwrite_take hoffset
  | @synced inode hpc =>
      have hactive : w.pc.active = true := by rw [hpc]; rfl
      rw [TmpHolds, hpc] at hkeeps
      obtain ⟨-, hentry, held, hheld, hall⟩ := hkeeps
      obtain ⟨-, hlookup, hframe⟩ := FileSystem.sync_spec hentry hheld
      refine h.move hw rfl (hframe path hpath) (fun _ => hidle hactive)
        (hinactive _ hactive) ?_
      show (s.fs.sync inode).lookup (tmpPath path) = some ⟨w.data, true⟩
      rw [hlookup, hall, List.take_length]
  | permitted hpc =>
      have hactive : w.pc.active = true := by rw [hpc]; rfl
      rw [TmpHolds, hpc] at hkeeps
      exact h.move hw rfl rfl (fun _ => hidle hactive)
        (hinactive _ hactive) hkeeps
  | renamed hpc hrename =>
      rw [TmpHolds, hpc] at hkeeps
      exact h.renamed hw (by rw [hpc]; rfl)
        ((FileSystem.rename_lookup hrename).trans hkeeps)

theorem DiskInv.step {s s' : DiskState} {a : DiskAction}
    (h : DiskInv path previous s) (hpath : path ≠ tmpPath path)
    (hok : s.OpensAlone a) (hstep : s.step path a = some s') :
    DiskInv path previous s' := by
  cases a with
  | begin data =>
      cases hstep
      refine ⟨h.whole.mono fun w hw => ⟨w, List.mem_append_left _ hw, rfl⟩,
        h.synced, ?_, h.tmp.spawn trivial⟩
      intro i j w u hi hj hw hu
      rcases get_spawn.mp hi with hold | ⟨-, rfl⟩
      · rcases get_spawn.mp hj with hold' | ⟨-, rfl⟩
        · exact h.alone i j w u hold hold' hw hu
        · cases hu
      · cases hw
  | advance call event =>
      obtain ⟨fs', w, w', hw, heffect, rfl⟩ := step_advance hstep
      exact h.advance hpath hw hok heffect

theorem DiskInv.installsOwn {s : DiskState} {a : DiskAction}
    (h : DiskInv path previous s) :
    s.InstallsOwn path a := by
  cases a with
  | begin data => trivial
  | advance call event =>
      intro s' w hstep hw' hreturned
      obtain ⟨fs', before, after, hw, heffect, rfl⟩ := step_advance hstep
      have hafter : after = w := by
        rcases (get_set hw).mp hw' with ⟨-, rfl⟩ | ⟨hne, -⟩
        · rfl
        · exact absurd rfl hne
      subst hafter
      have hkeeps : TmpHolds path s.fs before := h.tmp call before hw
      cases heffect with
      | quiet _ hnot => exact absurd hreturned hnot
      | opened | wrote | synced | permitted => cases hreturned
      | renamed hpc hrename =>
          rw [TmpHolds, hpc] at hkeeps
          show (fs'.lookup path).map Inode.data = some before.data
          rw [FileSystem.rename_lookup hrename, hkeeps]
          rfl

/-! ## The run -/

theorem path_ne_tmpPath (configDir : String) (file : PersistedFile) :
    file.path configDir ≠ tmpPath (file.path configDir) := by
  cases file <;> simp [PersistedFile.path, tmpPath, FilePath.withExtension]

theorem DiskInv.initial (path : FilePath) {s : DiskState}
    (hnone : s.writers = []) (hsynced : s.fs.Synced path) :
    DiskInv path (s.fs.contents path) s where
  whole := .inl rfl
  synced := hsynced
  alone := by simp [hnone]
  tmp := by simp [EveryTask, hnone]

/--
Calls that never open the `.tmp` file while another one uses it.  At every
moment, and after a crash at that moment, the file is whole; and every call
that returns `Ok` has put its own bytes in place.
-/
theorem atomic_writes_whole {configDir : String} {file : PersistedFile}
    {s t : DiskState} {as : List DiskAction} (hnone : s.writers = [])
    (hsynced : s.fs.Synced (file.path configDir))
    (hrun : exec (step (file.path configDir)) s as = some t)
    (hok : Along (step (file.path configDir)) OpensAlone s as) :
    (∀ fs', t.fs.CrashesTo fs' →
      Whole (s.fs.contents (file.path configDir)) t.writers
        (fs'.contents (file.path configDir))) ∧
      Along (step (file.path configDir)) (InstallsOwn (file.path configDir))
        s as := by
  have hpath := path_ne_tmpPath configDir file
  have hinitial := DiskInv.initial (file.path configDir) hnone hsynced
  have hpreserved : ∀ (u : DiskState) (a : DiskAction) (u' : DiskState),
      DiskInv (file.path configDir) (s.fs.contents (file.path configDir)) u →
      u.OpensAlone a → u.step (file.path configDir) a = some u' →
      DiskInv (file.path configDir) (s.fs.contents (file.path configDir)) u' :=
    fun _ _ _ h hok hstep => h.step hpath hok hstep
  have hinv := exec_invariant hpreserved hinitial hok hrun
  constructor
  · intro fs' hcrash
    rw [hcrash.contents hinv.synced]
    exact hinv.whole
  · exact hok.of_invariant hpreserved (fun _ _ h _ => h.installsOwn) hinitial

def oldConfig : DiskState where
  fs := {
    inodes := [⟨[0x7b, 0x7d], true⟩]
    entries := fun path =>
      if path = PersistedFile.config.path "/etc/rustylink" then some 0 else none
    valid := by
      intro path inode h
      simp only [Option.ite_none_right_eq_some, Option.some.injEq] at h
      simp [← h.2]
    single := by
      intro path other inode h h'
      simp only [Option.ite_none_right_eq_some] at h h'
      rw [h.1, h'.1] }
  writers := []

theorem oldConfig_synced :
    oldConfig.fs.Synced (PersistedFile.config.path "/etc/rustylink") := by
  intro held hheld
  cases hheld
  rfl

def twoWrites : List DiskAction :=
  [.begin [0x41], .begin [0x42, 0x43], .advance 1 .done, .advance 0 .done,
    .advance 0 .done, .advance 0 (.wrote 1), .advance 0 .done,
    .advance 0 .done, .advance 0 .done, .advance 1 .done,
    .advance 1 (.wrote 1), .advance 1 (.wrote 1), .advance 1 .done,
    .advance 1 .done, .advance 1 .done]

theorem atomic_writes_whole_twoWrites :
    (final (step (PersistedFile.config.path "/etc/rustylink")) oldConfig
        twoWrites).writers.map Writer.data = [[0x41], [0x42, 0x43]] ∧
      Whole (some [0x7b, 0x7d])
        (final (step (PersistedFile.config.path "/etc/rustylink")) oldConfig
          twoWrites).writers
        ((final (step (PersistedFile.config.path "/etc/rustylink")) oldConfig
          twoWrites).fs.contents (PersistedFile.config.path "/etc/rustylink")) ∧
      Along (step (PersistedFile.config.path "/etc/rustylink"))
        (InstallsOwn (PersistedFile.config.path "/etc/rustylink")) oldConfig
        twoWrites := by
  have hrun : exec (step (PersistedFile.config.path "/etc/rustylink")) oldConfig
      twoWrites = some (final _ oldConfig twoWrites) :=
    exec_final (by decide +kernel)
  obtain ⟨hwhole, hown⟩ := atomic_writes_whole rfl oldConfig_synced hrun
    (by decide +kernel)
  exact ⟨by decide +kernel, hwhole _ (.refl _), hown⟩

/-- A second call opens the `.tmp` file before the first one renames it. -/
def overlappingWrites : List DiskAction :=
  [.begin [0x41], .begin [0x42], .advance 0 .done, .advance 0 .done,
    .advance 0 (.wrote 1), .advance 0 .done, .advance 0 .done, .advance 1 .done,
    .advance 1 .done, .advance 0 .done]

theorem overlappingWrites_empty_file :
    ¬ ∀ (configDir : String) (file : PersistedFile) (s t : DiskState)
      (as : List DiskAction), s.writers = [] →
        s.fs.Synced (file.path configDir) →
      exec (step (file.path configDir)) s as = some t →
      (∀ fs', t.fs.CrashesTo fs' →
        Whole (s.fs.contents (file.path configDir)) t.writers
          (fs'.contents (file.path configDir))) ∧
        Along (step (file.path configDir)) (InstallsOwn (file.path configDir))
          s as := by
  intro h
  have hwhole := (h "/etc/rustylink" .config oldConfig
    (final (step (PersistedFile.config.path "/etc/rustylink"))
      oldConfig overlappingWrites)
    overlappingWrites rfl oldConfig_synced (exec_final (by decide +kernel))).1 _
      (.refl _)
  have hempty :
      (final (step (PersistedFile.config.path "/etc/rustylink")) oldConfig
      overlappingWrites).fs.contents
        (PersistedFile.config.path "/etc/rustylink") = some [] := by
    decide +kernel
  have hdata :
      (final (step (PersistedFile.config.path "/etc/rustylink")) oldConfig
      overlappingWrites).writers.map Writer.data = [[0x41], [0x42]] := by
    decide +kernel
  rw [hempty] at hwhole
  rcases hwhole with hprevious | ⟨w, hw, hcontent⟩
  · revert hprevious
    decide +kernel
  · have hmem := List.mem_map_of_mem (f := Writer.data) hw
    rw [hdata, ← Option.some.inj hcontent] at hmem
    revert hmem
    decide

end DiskState

end Rustylink.Daemon
