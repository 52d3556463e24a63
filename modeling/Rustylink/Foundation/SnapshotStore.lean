import Rustylink.Foundation.TaskPool
import Rustylink.Foundation.Transition

/-!
# Saving snapshots of a changing memory

Calls save the memory to a file in two steps: a snapshot is taken, and later
the file is overwritten with it.  Between the two anything may happen, so the
calls may reach the file in another order than the one of their snapshots.
-/

namespace Rustylink.Foundation

inductive SaveCall (Data : Type) where
  | started
  | saving (data : Data) (index : Nat)
  | finished
  deriving DecidableEq, Repr

def SaveCall.index {Data : Type} : SaveCall Data → Option Nat
  | .saving _ index => some index
  | .started | .finished => none

theorem SaveCall.index_eq_some {Data : Type} {c : SaveCall Data} {index : Nat} :
    c.index = some index ↔ ∃ data, c = .saving data index := by
  cases c <;> simp [SaveCall.index]

structure Persistence (Memory Data Change Moment : Type) where
  apply : Change → Memory → Memory × Bool
  snapshot : Moment → Memory → Option Data

/-- The memory, the file and the calls; `taken` and `source` only record. -/
structure SnapshotStore (Memory Data : Type) where
  memory : Memory
  file : Option Data
  calls : List (SaveCall Data)
  taken : List Data
  source : Option Nat
  deriving DecidableEq, Repr

inductive SaveAction (Change Moment : Type) where
  | change (change : Change)
  | begin
  | snapshot (call : Nat) (moment : Moment)
  | save (call : Nat) (written : Bool)

namespace SnapshotStore

variable {Memory Data Change Moment : Type}

def begin (s : SnapshotStore Memory Data) : SnapshotStore Memory Data :=
  { s with calls := s.calls ++ [.started] }

def change (P : Persistence Memory Data Change Moment) (c : Change)
    (s : SnapshotStore Memory Data) : SnapshotStore Memory Data :=
  let (memory, saves) := P.apply c s.memory
  let s := { s with memory := memory }
  if saves then s.begin else s

def takeSnapshot (P : Persistence Memory Data Change Moment) (call : Nat)
    (moment : Moment) (s : SnapshotStore Memory Data) :
    Option (SnapshotStore Memory Data) :=
  match s.calls[call]? with
  | some .started =>
      match P.snapshot moment s.memory with
      | none => some { s with calls := s.calls.set call .finished }
      | some data => some { s with
          calls := s.calls.set call (.saving data s.taken.length)
          taken := s.taken ++ [data] }
  | _ => none

def save (call : Nat) (written : Bool) (s : SnapshotStore Memory Data) :
    Option (SnapshotStore Memory Data) :=
  match s.calls[call]? with
  | some (.saving data index) =>
      let s := { s with calls := s.calls.set call .finished }
      if written then some { s with file := some data, source := some index }
      else some s
  | _ => none

def delete (s : SnapshotStore Memory Data) : SnapshotStore Memory Data :=
  { s with file := none, source := none }

def step (P : Persistence Memory Data Change Moment)
    (s : SnapshotStore Memory Data) :
    SaveAction Change Moment → Option (SnapshotStore Memory Data)
  | .change c => some (s.change P c)
  | .begin => some s.begin
  | .snapshot call moment => s.takeSnapshot P call moment
  | .save call written => s.save call written

def Fresh (s : SnapshotStore Memory Data) : Prop :=
  s.taken = [] ∧ s.source = none ∧ ∀ call ∈ s.calls, call = .started

def AllFinished (s : SnapshotStore Memory Data) : Prop :=
  ∀ call ∈ s.calls, call = .finished

instance [DecidableEq Data] (s : SnapshotStore Memory Data) :
    Decidable s.AllFinished :=
  inferInstanceAs (Decidable (∀ call ∈ s.calls, call = .finished))

def NothingHeld (s : SnapshotStore Memory Data) : Prop :=
  ∀ (call : Nat) (data : Data) (index : Nat),
    s.calls[call]? ≠ some (.saving data index)

def OverwritesNewer (s : SnapshotStore Memory Data) :
    SaveAction Change Moment → Prop
  | .save call true => ∃ data index held,
      s.calls[call]? = some (.saving data index) ∧ s.source = some held ∧
        index < held
  | _ => False

/--
The call saves while no other call holds an older snapshot, and fails to save
only when its snapshot is not the last one.
-/
def SavesInOrder (s : SnapshotStore Memory Data) (call : Nat)
    (written : Bool) : Prop :=
  ∀ data index, s.calls[call]? = some (.saving data index) →
    if written then ∀ (other : Nat) (data' : Data) (index' : Nat),
      s.calls[other]? = some (.saving data' index') → index ≤ index'
    else index + 1 < s.taken.length

def InOrder (s : SnapshotStore Memory Data) : SaveAction Change Moment → Prop
  | .save call written => s.SavesInOrder call written
  | _ => True

instance (s : SnapshotStore Memory Data) (call : Nat) (written : Bool) :
    Decidable (s.SavesInOrder call written) :=
  decidable_of_iff
    (∀ c ∈ s.calls[call]?, ∀ index ∈ c.index, if written then
      ∀ other ∈ s.calls, ∀ index' ∈ other.index, index ≤ index'
      else index + 1 < s.taken.length) <| by
    simp only [SavesInOrder, Option.mem_def, SaveCall.index_eq_some,
      List.mem_iff_getElem?]
    constructor
    · intro h data index hcall
      have hordered := h _ hcall index ⟨data, rfl⟩
      cases written with
      | false => exact hordered
      | true => exact fun other data' index' hother =>
          hordered _ ⟨other, hother⟩ index' ⟨data', rfl⟩
    · rintro h c hcall index ⟨data, rfl⟩
      have hordered := h data index hcall
      cases written with
      | false => exact hordered
      | true =>
          rintro c' ⟨other, hother⟩ index' ⟨data', rfl⟩
          exact hordered other data' index' hother

instance (s : SnapshotStore Memory Data) (a : SaveAction Change Moment) :
    Decidable (s.InOrder a) :=
  match a with
  | .save call written =>
      inferInstanceAs (Decidable (s.SavesInOrder call written))
  | .change _ | .begin | .snapshot .. => .isTrue trivial

/-! ## What runs in order keep -/

structure Ordered (s : SnapshotStore Memory Data) : Prop where
  held : ∀ (call : Nat) (data : Data) (index : Nat),
    s.calls[call]? = some (.saving data index) → s.taken[index]? = some data
  distinct : ∀ (call other : Nat) (data data' : Data) (index : Nat),
    s.calls[call]? = some (.saving data index) →
    s.calls[other]? = some (.saving data' index) → call = other
  file : ∀ index, s.source = some index →
    index < s.taken.length ∧ s.file = s.taken[index]?
  newer : ∀ (call : Nat) (data : Data) (index held : Nat),
    s.calls[call]? = some (.saving data index) → s.source = some held →
      held < index
  last : ∀ index, index + 1 = s.taken.length → s.source = some index ∨
    ∃ (call : Nat) (data : Data), s.calls[call]? = some (.saving data index)

variable {P : Persistence Memory Data Change Moment}
  {s s' : SnapshotStore Memory Data}

theorem Fresh.nothingHeld (h : Fresh s) : NothingHeld s := by
  intro call data index hcall
  have hstarted := h.2.2 _ (List.mem_of_getElem? hcall)
  cases hstarted

theorem Fresh.ordered (h : Fresh s) : Ordered s := by
  have hnone := h.nothingHeld
  obtain ⟨htaken, hsource, -⟩ := h
  refine ⟨fun call data index h => absurd h (hnone _ _ _),
    fun call _ data _ index h => absurd h (hnone _ _ _), ?_,
    fun call data index _ h => absurd h (hnone _ _ _), ?_⟩
  · intro index hindex
    rw [hsource] at hindex
    cases hindex
  · intro index hindex
    rw [htaken] at hindex
    cases hindex

theorem Ordered.frame (h : Ordered s) (htaken : s'.taken = s.taken)
    (hfile : s'.file = s.file) (hsource : s'.source = s.source)
    (hcalls : ∀ (call : Nat) (data : Data) (index : Nat),
      s'.calls[call]? = some (.saving data index) ↔
        s.calls[call]? = some (.saving data index)) : Ordered s' := by
  constructor <;> simp only [htaken, hfile, hsource, hcalls]
  · exact h.held
  · exact h.distinct
  · exact h.file
  · exact h.newer
  · exact h.last

theorem begin_saving {call : Nat} {data : Data} {index : Nat} :
    s.begin.calls[call]? = some (.saving data index) ↔
      s.calls[call]? = some (.saving data index) := by
  constructor
  · intro h
    rcases get_spawn.mp h with hold | ⟨-, hnew⟩
    · exact hold
    · cases hnew
  · intro h
    exact get_spawn.mpr (.inl h)

theorem Ordered.begin (h : Ordered s) : Ordered s.begin :=
  h.frame rfl rfl rfl fun _ _ _ => begin_saving

theorem Ordered.change (h : Ordered s) (c : Change) :
    Ordered (s.change P c) := by
  have hmemory : ∀ memory, Ordered { s with memory := memory } := fun memory =>
    h.frame rfl rfl rfl fun _ _ _ => Iff.rfl
  unfold SnapshotStore.change
  dsimp only
  split
  · exact (hmemory _).begin
  · exact hmemory _

theorem finish_saving {call other : Nat} {old : SaveCall Data} {data : Data}
    {index : Nat} (hcall : s.calls[call]? = some old) :
    (s.calls.set call .finished)[other]? = some (.saving data index) ↔
      other ≠ call ∧ s.calls[other]? = some (.saving data index) := by
  rw [get_set hcall]
  constructor
  · rintro (⟨-, hfinished⟩ | hold)
    · cases hfinished
    · exact hold
  · exact .inr

theorem Ordered.finish_held {call : Nat} {old : SaveCall Data} (h : Ordered s)
    (hcall : s.calls[call]? = some old) (other : Nat)
    (data : Data) (index : Nat)
    (hother : (s.calls.set call .finished)[other]? =
      some (.saving data index)) :
    s.taken[index]? = some data :=
  h.held other data index ((finish_saving hcall).mp hother).2

theorem Ordered.finish_distinct {call : Nat} {old : SaveCall Data}
    (h : Ordered s) (hcall : s.calls[call]? = some old) (first second : Nat)
    (data data' : Data)
    (index : Nat)
    (hfirst : (s.calls.set call .finished)[first]? = some (.saving data index))
    (hsecond : (s.calls.set call .finished)[second]? =
      some (.saving data' index)) :
    first = second :=
  h.distinct first second data data' index ((finish_saving hcall).mp hfirst).2
    ((finish_saving hcall).mp hsecond).2

theorem Ordered.held_lt {call : Nat} {data : Data} {index : Nat} (h : Ordered s)
    (hcall : s.calls[call]? = some (.saving data index)) :
    index < s.taken.length :=
  (List.getElem?_eq_some_iff.mp (h.held call data index hcall)).1

theorem Ordered.taken {call : Nat} (h : Ordered s) (data : Data)
    (hcall : s.calls[call]? = some .started) :
    Ordered { s with
      calls := s.calls.set call (.saving data s.taken.length)
      taken := s.taken ++ [data] } := by
  refine ⟨?_, ?_, ?_, ?_, ?_⟩
  · intro other data' index hother
    rcases (get_set hcall).mp hother with ⟨-, hnew⟩ | ⟨-, hold⟩
    · cases hnew
      simp
    · rw [List.getElem?_append_left (h.held_lt hold)]
      exact h.held _ _ _ hold
  · intro first second data' data'' index hfirst hsecond
    rcases (get_set hcall).mp hfirst with ⟨rfl, hnew⟩ | ⟨-, hold⟩
    · cases hnew
      rcases (get_set hcall).mp hsecond with ⟨rfl, -⟩ | ⟨-, hold'⟩
      · rfl
      · exact absurd (h.held_lt hold') (Nat.lt_irrefl _)
    · rcases (get_set hcall).mp hsecond with ⟨rfl, hnew⟩ | ⟨-, hold'⟩
      · cases hnew
        exact absurd (h.held_lt hold) (Nat.lt_irrefl _)
      · exact h.distinct _ _ _ _ _ hold hold'
  · intro index hindex
    obtain ⟨hlt, hfile⟩ := h.file index hindex
    constructor
    · simp only [List.length_append, List.length_singleton]
      omega
    · rw [List.getElem?_append_left hlt]
      exact hfile
  · intro other data' index held hother hheld
    rcases (get_set hcall).mp hother with ⟨-, hnew⟩ | ⟨-, hold⟩
    · cases hnew
      exact (h.file held hheld).1
    · exact h.newer _ _ _ _ hold hheld
  · intro index hindex
    have hlast : index = s.taken.length := by
      simp only [List.length_append, List.length_singleton] at hindex
      omega
    subst hlast
    exact .inr ⟨call, data, get_set_self hcall⟩

theorem Ordered.written {call : Nat} {data : Data} {index : Nat} (h : Ordered s)
    (hcall : s.calls[call]? = some (.saving data index))
    (holdest : ∀ (other : Nat) (data' : Data) (index' : Nat),
      s.calls[other]? = some (.saving data' index') → index ≤ index') :
    Ordered { s with
      calls := s.calls.set call .finished
      file := some data
      source := some index } := by
  refine ⟨h.finish_held hcall, h.finish_distinct hcall, ?_, ?_, ?_⟩
  · intro index' heq
    cases heq
    exact ⟨h.held_lt hcall, (h.held _ _ _ hcall).symm⟩
  · intro other data' index' held hother hheld
    cases hheld
    obtain ⟨hne, hold⟩ := (finish_saving hcall).mp hother
    have hle := holdest other data' index' hold
    have hdiff : index ≠ index' := by
      rintro rfl
      exact hne (h.distinct _ _ _ _ _ hold hcall)
    omega
  · intro index' hlast
    rcases h.last index' hlast with hsource | ⟨other, data', hother⟩
    · -- the file cannot hold the last snapshot while `call` holds one
      have hlt := h.newer _ _ _ _ hcall hsource
      have hbound := h.held_lt hcall
      have hlength : index' + 1 = s.taken.length := hlast
      omega
    · by_cases hsame : other = call
      · subst hsame
        rw [hcall] at hother
        cases hother
        exact .inl rfl
      · exact .inr ⟨other, data', (finish_saving hcall).mpr ⟨hsame, hother⟩⟩

theorem Ordered.failed {call : Nat} {data : Data} {index : Nat} (h : Ordered s)
    (hcall : s.calls[call]? = some (.saving data index))
    (hlater : index + 1 < s.taken.length) :
    Ordered { s with calls := s.calls.set call .finished } := by
  refine ⟨h.finish_held hcall, h.finish_distinct hcall, h.file, ?_, ?_⟩
  · intro other data' index' held hother hheld
    exact h.newer _ _ _ _ ((finish_saving hcall).mp hother).2 hheld
  · intro index' hlast
    rcases h.last index' hlast with hsource | ⟨other, data', hother⟩
    · exact .inl hsource
    · refine .inr ⟨other, data', (finish_saving hcall).mpr ⟨?_, hother⟩⟩
      rintro rfl
      rw [hcall] at hother
      cases hother
      have hlength : index + 1 = s.taken.length := hlast
      omega

theorem Ordered.takeSnapshot {call : Nat} {moment : Moment} (h : Ordered s)
    (hstep : s.takeSnapshot P call moment = some s') : Ordered s' := by
  unfold SnapshotStore.takeSnapshot at hstep
  split at hstep
  · rename_i hcall
    split at hstep
    · cases hstep
      refine h.frame rfl rfl rfl fun other data index => ?_
      rw [finish_saving hcall]
      constructor
      · exact And.right
      · intro hother
        refine ⟨?_, hother⟩
        rintro rfl
        rw [hcall] at hother
        cases hother
    · rename_i data hdata
      cases hstep
      exact h.taken data hcall
  · cases hstep

theorem Ordered.save {call : Nat} {written : Bool} (h : Ordered s)
    (hok : s.SavesInOrder call written)
    (hstep : s.save call written = some s') :
    Ordered s' := by
  unfold SnapshotStore.save at hstep
  split at hstep
  · rename_i data index hcall
    have horder := hok data index hcall
    cases written with
    | true =>
        cases hstep
        exact h.written hcall horder
    | false =>
        cases hstep
        exact h.failed hcall (by simpa using horder)
  · cases hstep

theorem Ordered.step {a : SaveAction Change Moment} (h : Ordered s)
    (hok : InOrder s a) (hstep : s.step P a = some s') : Ordered s' := by
  cases a with
  | change c =>
      cases hstep
      exact h.change c
  | begin =>
      cases hstep
      exact h.begin
  | snapshot call moment => exact h.takeSnapshot hstep
  | save call written => exact h.save hok hstep

theorem Ordered.not_overwritesNewer {a : SaveAction Change Moment}
    (h : Ordered s) :
    ¬ OverwritesNewer s a := by
  cases a with
  | save call written =>
      cases written with
      | true =>
          rintro ⟨data, index, held, hcall, hheld, hlt⟩
          have hnewer := h.newer call data index held hcall hheld
          omega
      | false => exact id
  | change c => exact id
  | begin => exact id
  | snapshot call moment => exact id

theorem Ordered.file_eq_last (h : Ordered s) (hfinished : AllFinished s)
    (htaken : s.taken ≠ []) : s.file = s.taken.getLast? := by
  have hpositive : 0 < s.taken.length := List.length_pos_iff.mpr htaken
  rcases h.last (s.taken.length - 1) (by omega) with
    hsource | ⟨call, data, hcall⟩
  · rw [(h.file _ hsource).2, List.getLast?_eq_getElem?]
  · have hfin := hfinished _ (List.mem_of_getElem? hcall)
    cases hfin

/-! ## A memory that is not saved -/

theorem NothingHeld.begin (h : NothingHeld s) : NothingHeld s.begin :=
  fun _ _ _ hcall => h _ _ _ (begin_saving.mp hcall)

theorem NothingHeld.step {a : SaveAction Change Moment} (h : NothingHeld s)
    (hnone : ∀ moment, P.snapshot moment s.memory = none)
    (hstep : s.step P a = some s') : NothingHeld s' ∧ s'.file = s.file := by
  cases a with
  | change c =>
      cases hstep
      unfold SnapshotStore.change
      dsimp only
      split
      · exact ⟨NothingHeld.begin h, rfl⟩
      · exact ⟨h, rfl⟩
  | begin =>
      cases hstep
      exact ⟨h.begin, rfl⟩
  | snapshot call moment =>
      simp only [SnapshotStore.step, SnapshotStore.takeSnapshot, hnone] at hstep
      split at hstep
      · rename_i hcall
        cases hstep
        exact ⟨fun _ _ _ hother => h _ _ _ ((finish_saving hcall).mp hother).2,
          rfl⟩
      · cases hstep
  | save call written =>
      simp only [SnapshotStore.step, SnapshotStore.save] at hstep
      split at hstep
      · rename_i hcall
        exact absurd hcall (h _ _ _)
      · cases hstep

/-! ## Runs -/

/-- In a run in order no snapshot replaces a newer one, and the newest stays. -/
theorem run_in_order {as : List (SaveAction Change Moment)} (hfresh : Fresh s)
    (hok : Along (step P) InOrder s as) (hrun : exec (step P) s as = some s') :
    Along (step P) (fun s a => ¬ OverwritesNewer s a) s as ∧
      (AllFinished s' → s'.taken ≠ [] → s'.file = s'.taken.getLast?) := by
  have hpreserved :
      ∀ (s : SnapshotStore Memory Data) (a : SaveAction Change Moment)
      (s' : SnapshotStore Memory Data),
      Ordered s → InOrder s a → step P s a = some s' → Ordered s' :=
    fun _ _ _ h hok hstep => h.step hok hstep
  have hordered := exec_invariant hpreserved hfresh.ordered hok hrun
  exact ⟨hok.of_invariant hpreserved (fun _ _ h _ => h.not_overwritesNewer)
    hfresh.ordered, hordered.file_eq_last⟩

end SnapshotStore

end Rustylink.Foundation
