import Mathlib.Data.List.Basic
import Mathlib.Logic.Function.Basic

/-!
# A file system with inodes

A name leads to an inode, and an open file is an inode, whatever its name does
in the meantime.  A crash leaves the names as they are and keeps the data of
every inode that was synced after its last write.
-/

namespace Rustylink.Foundation

structure Inode where
  data : List UInt8
  synced : Bool
  deriving DecidableEq, Repr

/-- Every name leads to an inode that exists, and no two names share one. -/
structure FileSystem (Path : Type) where
  inodes : List Inode
  entries : Path → Option Nat
  valid : ∀ path inode, entries path = some inode → inode < inodes.length
  single : ∀ path other inode,
    entries path = some inode → entries other = some inode → path = other

def overwrite (data : List UInt8) (offset : Nat)
    (bytes : List UInt8) : List UInt8 :=
  data.take offset ++ List.replicate (offset - data.length) 0 ++ bytes ++
    data.drop (offset + bytes.length)

theorem overwrite_take {data : List UInt8} {offset count : Nat}
    (h : offset ≤ data.length) :
    overwrite (data.take offset) offset ((data.drop offset).take count) =
      data.take (offset + count) := by
  have hlength : (data.take offset).length = offset := by
    rw [List.length_take]
    omega
  have hdrop : (data.take offset).drop
      (offset + ((data.drop offset).take count).length) = [] := by
    apply List.drop_eq_nil_of_le
    omega
  unfold overwrite
  rw [hdrop, hlength, Nat.sub_self, List.replicate_zero, List.append_nil,
    List.append_nil, List.take_take, Nat.min_self, List.take_add]

namespace FileSystem

variable {Path : Type}

def lookup (fs : FileSystem Path) (path : Path) : Option Inode :=
  (fs.entries path).bind fun inode => fs.inodes[inode]?

def contents (fs : FileSystem Path) (path : Path) : Option (List UInt8) :=
  (fs.lookup path).map Inode.data

def setInode (fs : FileSystem Path) (inode : Nat) (new : Inode) :
    FileSystem Path where
  inodes := fs.inodes.set inode new
  entries := fs.entries
  valid := by
    intro path other hother
    rw [List.length_set]
    exact fs.valid path other hother
  single := fs.single

def writeAt (fs : FileSystem Path) (inode offset : Nat) (bytes : List UInt8) :
    FileSystem Path :=
  match fs.inodes[inode]? with
  | some old => fs.setInode inode ⟨overwrite old.data offset bytes, false⟩
  | none => fs

def sync (fs : FileSystem Path) (inode : Nat) : FileSystem Path :=
  match fs.inodes[inode]? with
  | some old => fs.setInode inode ⟨old.data, true⟩
  | none => fs

/-- A state that a crash may leave behind. -/
def CrashesTo (fs fs' : FileSystem Path) : Prop :=
  fs'.entries = fs.entries ∧ fs'.inodes.length = fs.inodes.length ∧
    ∀ (inode : Nat) (held : Inode), fs.inodes[inode]? = some held →
      held.synced = true → fs'.inodes[inode]? = some held

def crash (lost : Nat → List UInt8) (fs : FileSystem Path) :
    FileSystem Path where
  inodes := fs.inodes.mapIdx fun inode held =>
    if held.synced then held else ⟨lost inode, true⟩
  entries := fs.entries
  valid := by simpa using fs.valid
  single := fs.single

def Synced (fs : FileSystem Path) (path : Path) : Prop :=
  ∀ held, fs.lookup path = some held → held.synced = true

variable {fs fs' : FileSystem Path} {path other : Path} {inode : Nat}

theorem exists_lookup (h : fs.entries path = some inode) :
    ∃ held, fs.lookup path = some held ∧ fs.inodes[inode]? = some held := by
  have hlt := fs.valid path inode h
  refine ⟨fs.inodes[inode], ?_, List.getElem?_eq_getElem hlt⟩
  rw [lookup, h, Option.bind_some, List.getElem?_eq_getElem hlt]

theorem setInode_lookup {new : Inode} (h : fs.entries path = some inode) :
    (fs.setInode inode new).lookup path = some new := by
  have hlt := fs.valid path inode h
  simp [lookup, setInode, h, hlt]

theorem setInode_lookup_other {new : Inode} (h : fs.entries path = some inode)
    (hne : other ≠ path) :
    (fs.setInode inode new).lookup other = fs.lookup other := by
  unfold lookup setInode
  cases hother : fs.entries other with
  | none => rfl
  | some held =>
      have hdiff : inode ≠ held := by
        rintro rfl
        exact hne (fs.single other path inode hother h)
      simp [hdiff]

theorem writeAt_spec (offset : Nat) (bytes : List UInt8) {held : Inode}
    (h : fs.entries path = some inode) (hheld : fs.lookup path = some held) :
    (fs.writeAt inode offset bytes).entries = fs.entries ∧
      (fs.writeAt inode offset bytes).lookup path =
        some ⟨overwrite held.data offset bytes, false⟩ ∧
      ∀ other, other ≠ path →
        (fs.writeAt inode offset bytes).lookup other = fs.lookup other := by
  obtain ⟨found, hfound, hinode⟩ := exists_lookup h
  rw [hheld] at hfound
  cases hfound
  unfold writeAt
  rw [hinode]
  exact ⟨rfl, setInode_lookup h, fun other hne => setInode_lookup_other h hne⟩

theorem sync_spec {held : Inode} (h : fs.entries path = some inode)
    (hheld : fs.lookup path = some held) :
    (fs.sync inode).entries = fs.entries ∧
      (fs.sync inode).lookup path = some ⟨held.data, true⟩ ∧
      ∀ other, other ≠ path →
        (fs.sync inode).lookup other = fs.lookup other := by
  obtain ⟨found, hfound, hinode⟩ := exists_lookup h
  rw [hheld] at hfound
  cases hfound
  unfold sync
  rw [hinode]
  exact ⟨rfl, setInode_lookup h, fun other hne => setInode_lookup_other h hne⟩

theorem lookup_eq_none_iff :
    fs.lookup path = none ↔ fs.entries path = none := by
  cases hpath : fs.entries path with
  | none => simp [lookup, hpath]
  | some inode =>
      obtain ⟨held, hheld, -⟩ := exists_lookup hpath
      simp [hheld]

theorem CrashesTo.lookup (h : CrashesTo fs fs')
    (hsynced : fs.Synced path) : fs'.lookup path = fs.lookup path := by
  obtain ⟨hentries, -, hinodes⟩ := h
  cases hpath : fs.entries path with
  | none =>
      have hpath' : fs'.entries path = none := by rw [hentries, hpath]
      rw [lookup_eq_none_iff.mpr hpath, lookup_eq_none_iff.mpr hpath']
  | some inode =>
      obtain ⟨held, hheld, hinode⟩ := exists_lookup hpath
      rw [hheld, FileSystem.lookup, hentries, hpath, Option.bind_some]
      exact hinodes inode held hinode (hsynced held hheld)

theorem CrashesTo.refl (fs : FileSystem Path) : CrashesTo fs fs :=
  ⟨rfl, rfl, fun _ _ h _ => h⟩

theorem CrashesTo.synced (h : CrashesTo fs fs') (hsynced : fs.Synced path) :
    fs'.Synced path := by
  intro held hheld
  rw [h.lookup hsynced] at hheld
  exact hsynced held hheld

theorem CrashesTo.contents (h : CrashesTo fs fs') (hsynced : fs.Synced path) :
    fs'.contents path = fs.contents path :=
  congrArg (Option.map Inode.data) (h.lookup hsynced)

theorem crash_crashesTo (lost : Nat → List UInt8) (fs : FileSystem Path) :
    CrashesTo fs (fs.crash lost) := by
  refine ⟨rfl, List.length_mapIdx, fun inode held hheld hsynced => ?_⟩
  simp [crash, hheld, hsynced]

/-! ## Operations on names -/

variable [DecidableEq Path]

def create (fs : FileSystem Path) (path : Path) : FileSystem Path where
  inodes := fs.inodes ++ [⟨[], false⟩]
  entries := Function.update fs.entries path (some fs.inodes.length)
  valid := by
    intro name inode hinode
    rw [List.length_append, List.length_singleton]
    by_cases hname : name = path
    · subst hname
      rw [Function.update_self, Option.some.injEq] at hinode
      omega
    · rw [Function.update_of_ne hname] at hinode
      have hlt := fs.valid name inode hinode
      omega
  single := by
    have hold : ∀ name inode, fs.entries name = some inode →
        inode ≠ fs.inodes.length :=
          fun name inode h => Nat.ne_of_lt (fs.valid name inode h)
    intro name other inode hname hother
    by_cases hfirst : name = path <;> by_cases hsecond : other = path
    · rw [hfirst, hsecond]
    · subst hfirst
      rw [Function.update_self, Option.some.injEq] at hname
      rw [Function.update_of_ne hsecond] at hother
      exact absurd hname.symm (hold other inode hother)
    · subst hsecond
      rw [Function.update_self, Option.some.injEq] at hother
      rw [Function.update_of_ne hfirst] at hname
      exact absurd hother.symm (hold name inode hname)
    · rw [Function.update_of_ne hfirst] at hname
      rw [Function.update_of_ne hsecond] at hother
      exact fs.single name other inode hname hother

def openTruncate (fs : FileSystem Path) (path : Path) : Nat × FileSystem Path :=
  match fs.entries path with
  | some inode => (inode, fs.setInode inode ⟨[], false⟩)
  | none => (fs.inodes.length, fs.create path)

def rename (fs : FileSystem Path) (source target : Path) :
    Option (FileSystem Path) :=
  match hsource : fs.entries source with
  | none => none
  | some inode => some {
      inodes := fs.inodes
      entries := Function.update (Function.update fs.entries source none) target
        (some inode)
      valid := by
        intro name other hother
        by_cases htarget : name = target
        · subst htarget
          rw [Function.update_self, Option.some.injEq] at hother
          exact hother ▸ fs.valid source inode hsource
        · rw [Function.update_of_ne htarget] at hother
          by_cases hname : name = source
          · subst hname
            rw [Function.update_self] at hother
            cases hother
          · rw [Function.update_of_ne hname] at hother
            exact fs.valid name other hother
      single := by
        have hold : ∀ name, name ≠ target →
            Function.update fs.entries source none name ≠ some inode := by
          intro name _ hname
          by_cases hsame : name = source
          · subst hsame
            rw [Function.update_self] at hname
            cases hname
          · rw [Function.update_of_ne hsame] at hname
            exact hsame (fs.single name source inode hname hsource)
        intro name other held hname hother
        by_cases hfirst : name = target <;> by_cases hsecond : other = target
        · rw [hfirst, hsecond]
        · subst hfirst
          rw [Function.update_self, Option.some.injEq] at hname
          rw [Function.update_of_ne hsecond, ← hname] at hother
          exact absurd hother (hold other hsecond)
        · subst hsecond
          rw [Function.update_self, Option.some.injEq] at hother
          rw [Function.update_of_ne hfirst, ← hother] at hname
          exact absurd hname (hold name hfirst)
        · rw [Function.update_of_ne hfirst] at hname
          rw [Function.update_of_ne hsecond] at hother
          have hkeep : ∀ path, Function.update fs.entries source none path =
              some held →
              fs.entries path = some held := by
            intro path hpath
            by_cases hsame : path = source
            · subst hsame
              rw [Function.update_self] at hpath
              cases hpath
            · rw [Function.update_of_ne hsame] at hpath
              exact hpath
          exact fs.single name other held (hkeep name hname)
            (hkeep other hother) }

theorem create_lookup_other (hne : other ≠ path) :
    (fs.create path).lookup other = fs.lookup other := by
  have hentry : (fs.create path).entries other = fs.entries other :=
    Function.update_of_ne hne _ _
  unfold lookup
  rw [hentry]
  cases hother : fs.entries other with
  | none => rfl
  | some held =>
      have hlt := fs.valid other held hother
      simp [create, List.getElem?_append_left hlt]

theorem openTruncate_spec (fs : FileSystem Path) (path : Path) :
    (fs.openTruncate path).2.entries path = some (fs.openTruncate path).1 ∧
      (fs.openTruncate path).2.lookup path = some ⟨[], false⟩ ∧
      ∀ other, other ≠ path →
        (fs.openTruncate path).2.lookup other = fs.lookup other := by
  unfold openTruncate
  cases hpath : fs.entries path with
  | some inode =>
      exact ⟨hpath, setInode_lookup hpath, fun other hne =>
        setInode_lookup_other hpath hne⟩
  | none =>
      exact ⟨by simp [create], by simp [lookup, create],
        fun other hne => create_lookup_other hne⟩

theorem rename_lookup {source target : Path}
    (h : fs.rename source target = some fs') :
    fs'.lookup target = fs.lookup source := by
  unfold rename at h
  split at h
  · cases h
  · rename_i inode hsource
    cases h
    simp [lookup, hsource]

end FileSystem

end Rustylink.Foundation
