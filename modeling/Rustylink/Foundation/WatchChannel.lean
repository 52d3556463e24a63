import Rustylink.Foundation.TaskPool
import Rustylink.Foundation.Transition

/-!
# A system that is watched

A watch channel keeps the last value that was sent on it, and a stream over it
yields what the channel holds whenever that is new to the stream.  What the
channel library does is a parameter with its laws.  `observedStep` runs a
transition system together with the channel that its steps send on and with
any number of clients that subscribe, poll and leave, in any order.
-/

namespace Rustylink.Foundation

/-- A channel with the streams over it, which are numbered as they are made. -/
structure WatchCrate (α Channel : Type) where
  channel : α → Channel
  send : α → Channel → Channel
  subscribe : Channel → Channel
  /-- `none` while the stream has to wait. -/
  pollNext : Nat → Channel → Option (α × Channel)
  dropStream : Nat → Channel → Channel
  borrow : Channel → α
  receivers : Channel → Nat
  streams : Channel → Nat
  hasChanged : Nat → Channel → Bool

variable {α Channel : Type}

structure WatchCrate.Same (crate : WatchCrate α Channel)
    (c d : Channel) : Prop where
  borrow : crate.borrow d = crate.borrow c
  receivers : crate.receivers d = crate.receivers c
  streams : crate.streams d = crate.streams c

/-- What the library documents; a value sent to no receiver may be refused. -/
structure WatchCrate.Lawful (crate : WatchCrate α Channel) : Prop where
  channel : ∀ init, crate.borrow (crate.channel init) = init ∧
    crate.receivers (crate.channel init) = 1 ∧
    crate.streams (crate.channel init) = 0
  send : ∀ value c, 0 < crate.receivers c →
    crate.borrow (crate.send value c) = value ∧
    crate.receivers (crate.send value c) = crate.receivers c ∧
    crate.streams (crate.send value c) = crate.streams c ∧
    ∀ i < crate.streams c, crate.hasChanged i (crate.send value c) = true
  subscribe : ∀ c, crate.borrow (crate.subscribe c) = crate.borrow c ∧
    crate.receivers (crate.subscribe c) = crate.receivers c + 1 ∧
    crate.streams (crate.subscribe c) = crate.streams c + 1 ∧
    crate.hasChanged (crate.streams c) (crate.subscribe c) = true ∧
    ∀ i < crate.streams c,
      crate.hasChanged i (crate.subscribe c) = crate.hasChanged i c
  waits : ∀ i c, crate.hasChanged i c = false → crate.pollNext i c = none
  yields : ∀ i c, i < crate.streams c → crate.hasChanged i c = true →
    ∃ d, crate.pollNext i c = some (crate.borrow c, d) ∧ crate.Same c d ∧
      crate.hasChanged i d = false ∧
      ∀ j ≠ i, crate.hasChanged j d = crate.hasChanged j c
  dropStream : ∀ i c, crate.borrow (crate.dropStream i c) = crate.borrow c ∧
    crate.receivers (crate.dropStream i c) = crate.receivers c - 1 ∧
    crate.streams (crate.dropStream i c) = crate.streams c ∧
    ∀ j ≠ i, crate.hasChanged j (crate.dropStream i c) = crate.hasChanged j c

theorem WatchCrate.Lawful.pollNext_some {crate : WatchCrate α Channel}
    (h : crate.Lawful) {i : Nat} {c d : Channel} {value : α}
    (hi : i < crate.streams c) (hpoll : crate.pollNext i c = some (value, d)) :
    value = crate.borrow c ∧ crate.Same c d ∧
      crate.hasChanged i c = true ∧ crate.hasChanged i d = false ∧
      ∀ j ≠ i, crate.hasChanged j d = crate.hasChanged j c := by
  cases hchanged : crate.hasChanged i c with
  | false =>
      rw [h.waits i c hchanged] at hpoll
      contradiction
  | true =>
      obtain ⟨d', hd', hsame, hseen, hothers⟩ := h.yields i c hi hchanged
      rw [hd', Option.some.injEq, Prod.mk.injEq] at hpoll
      obtain ⟨rfl, rfl⟩ := hpoll
      exact ⟨rfl, hsame, rfl, hseen, hothers⟩

/-! ## A system and its clients -/

/--
A client: its first item is the value with the number `since`, or a later one.
-/
structure WatchClient (α : Type) where
  since : Nat
  items : List α
  gone : Bool
  deriving DecidableEq, Repr

structure Observed (State α Channel : Type) where
  state : State
  channel : Channel
  sent : List α
  clients : List (WatchClient α)

inductive ObservedLabel (Label : Type) where
  | act (a : Label)
  | subscribe
  | poll (i : Nat)
  | close (i : Nat)
  deriving DecidableEq, Repr

namespace Observed

variable {State Label : Type} (crate : WatchCrate α Channel)

def new (s : State) (init : α) : Observed State α Channel :=
  ⟨s, crate.channel init, [init], []⟩

def send (value : Option α) (w : Observed State α Channel) :
    Observed State α Channel :=
  match value with
  | none => w
  | some value =>
      { w with
        channel := crate.send value w.channel
        sent := w.sent ++ [value] }

def subscribe (w : Observed State α Channel) : Observed State α Channel :=
  { w with
    channel := crate.subscribe w.channel
    clients := w.clients ++ [⟨w.sent.length - 1, [], false⟩] }

def setClient (i : Nat) (client : WatchClient α) (channel : Channel)
    (w : Observed State α Channel) : Observed State α Channel :=
  { w with channel := channel, clients := w.clients.set i client }

def poll (i : Nat) (w : Observed State α Channel) :
    Option (Observed State α Channel) :=
  (w.clients[i]?.filter fun client => !client.gone).bind fun client =>
    (crate.pollNext i w.channel).map fun (item, channel) =>
      w.setClient i { client with items := client.items ++ [item] } channel

def close (i : Nat) (w : Observed State α Channel) :
    Option (Observed State α Channel) :=
  (w.clients[i]?.filter fun client => !client.gone).map fun client =>
    w.setClient i { client with gone := true } (crate.dropStream i w.channel)

def observedStep (step : State → Label → Option State)
    (sends : State → Label → Option α) (w : Observed State α Channel) :
    ObservedLabel Label → Option (Observed State α Channel)
  | .act a =>
      (step w.state a).map fun s =>
        { w.send crate (sends w.state a) with state := s }
  | .subscribe => some (w.subscribe crate)
  | .poll i => w.poll crate i
  | .close i => w.close crate i

end Observed

/-! ## The invariant -/

structure WatchClient.Shown (client : WatchClient α) (sent : List α) (value : α)
    (changed : Bool) : Prop where
  since_lt : client.since < sent.length
  sublist : client.items.Sublist (sent.drop client.since)
  behind : client.gone = false → changed = true →
    (client.items ++ [value]).Sublist (sent.drop client.since)
  caughtUp : client.gone = false → changed = false →
    client.items.getLast? = some value

namespace WatchClient.Shown

variable {client : WatchClient α} {sent : List α} {value : α} {changed : Bool}

theorem send (h : client.Shown sent value changed) (next : α) :
    client.Shown (sent ++ [next]) next true := by
  have hdrop : (sent ++ [next]).drop client.since =
      sent.drop client.since ++ [next] :=
    List.drop_append_of_le_length (Nat.le_of_lt h.since_lt)
  refine ⟨by simpa using Nat.lt_succ_of_lt h.since_lt, ?_, fun _ _ => ?_,
    fun _ hfalse => by cases hfalse⟩
  · rw [hdrop]
    exact h.sublist.trans (List.sublist_append_left _ _)
  · rw [hdrop]
    exact h.sublist.append (List.Sublist.refl _)

theorem yield (h : client.Shown sent value true) (hhere : client.gone = false) :
    ({ client with items := client.items ++ [value] } : WatchClient α).Shown
      sent value false :=
  ⟨h.since_lt, h.behind hhere rfl, fun _ hfalse => by simp at hfalse,
    fun _ _ => by simp⟩

theorem leave (h : client.Shown sent value changed) (later : Bool) :
    ({ client with gone := true } : WatchClient α).Shown sent value later :=
  ⟨h.since_lt, h.sublist, fun hgone _ => by simp at hgone,
    fun hgone _ => by simp at hgone⟩

end WatchClient.Shown

namespace Observed

variable {State Label : Type} {crate : WatchCrate α Channel}

structure Inv (crate : WatchCrate α Channel)
    (w : Observed State α Channel) : Prop where
  streams : crate.streams w.channel = w.clients.length
  receivers : crate.receivers w.channel =
    1 + w.clients.countP fun client => !client.gone
  value : w.sent.getLast? = some (crate.borrow w.channel)
  shown :
    EveryTask (fun i client => client.Shown w.sent (crate.borrow w.channel)
    (crate.hasChanged i w.channel)) w.clients

variable {w w' : Observed State α Channel} {i : Nat}

theorem Inv.new (hcrate : crate.Lawful) (s : State) (init : α) :
    Inv crate (new crate s init) := by
  obtain ⟨hborrow, hreceivers, hstreams⟩ := hcrate.channel init
  exact ⟨hstreams, hreceivers,
    congrArg some hborrow.symm, by simp [EveryTask, Observed.new]⟩

theorem Inv.of_state (h : Inv crate w) (s : State) :
    Inv crate { w with state := s } :=
  ⟨h.streams, h.receivers, h.value, h.shown⟩

theorem Inv.receivers_pos (h : Inv crate w) :
    0 < crate.receivers w.channel := by
  rw [h.receivers]
  omega

theorem Inv.lt_streams (h : Inv crate w) {client : WatchClient α}
    (hi : w.clients[i]? = some client) : i < crate.streams w.channel := by
  rw [h.streams]
  exact (List.getElem?_eq_some_iff.mp hi).1

theorem Inv.send (hcrate : crate.Lawful) (h : Inv crate w) (value : Option α) :
    Inv crate (w.send crate value) := by
  cases value with
  | none => exact h
  | some value =>
      obtain ⟨hborrow, hreceivers, hstreams, hchanged⟩ :=
        hcrate.send value w.channel h.receivers_pos
      refine ⟨hstreams.trans h.streams, hreceivers.trans h.receivers, ?_, ?_⟩
      · show (w.sent ++ [value]).getLast? =
            some (crate.borrow (crate.send value w.channel))
        rw [hborrow, List.getLast?_concat]
      · intro i client hi
        show client.Shown (w.sent ++ [value])
            (crate.borrow (crate.send value w.channel))
          (crate.hasChanged i (crate.send value w.channel))
        rw [hborrow, hchanged i (h.lt_streams hi)]
        exact (h.shown i client hi).send value

theorem Inv.subscribe (hcrate : crate.Lawful) (h : Inv crate w) :
    Inv crate (w.subscribe crate) := by
  obtain ⟨hborrow, hreceivers, hstreams, hnew, hothers⟩ :=
    hcrate.subscribe w.channel
  obtain ⟨before, hsent⟩ := List.getLast?_eq_some_iff.mp h.value
  refine ⟨?_, ?_, ?_, ?_⟩
  · simp [Observed.subscribe, hstreams, h.streams]
  · simp [Observed.subscribe, hreceivers, h.receivers, Nat.add_assoc]
  · simpa [Observed.subscribe, hborrow] using h.value
  · intro i client hi
    show client.Shown w.sent (crate.borrow (crate.subscribe w.channel))
      (crate.hasChanged i (crate.subscribe w.channel))
    rw [hborrow]
    rcases get_spawn.mp hi with hold | ⟨rfl, rfl⟩
    · rw [hothers i (h.lt_streams hold)]
      exact h.shown i client hold
    · -- the first poll of the stream yields the value that is there
      rw [← h.streams, hnew]
      have hlast : w.sent.drop (w.sent.length - 1) =
          [crate.borrow w.channel] := by
        simp [hsent]
      refine ⟨by simp [hsent], List.nil_sublist _, fun _ _ => ?_,
        fun _ hfalse => by cases hfalse⟩
      rw [hlast]
      exact List.Sublist.refl _

theorem poll_spec (h : w.poll crate i = some w') :
    ∃ client item channel, w.clients[i]? = some client ∧ client.gone = false ∧
      crate.pollNext i w.channel = some (item, channel) ∧
      w' = w.setClient i { client with items := client.items ++ [item] }
        channel := by
  unfold Observed.poll at h
  obtain ⟨client, hclient, hpoll⟩ := Option.bind_eq_some_iff.mp h
  obtain ⟨⟨item, channel⟩, hitem, rfl⟩ := Option.map_eq_some_iff.mp hpoll
  obtain ⟨hi, hhere⟩ := Option.filter_eq_some_iff.mp hclient
  exact ⟨client, item, channel, hi, by simpa using hhere, hitem, rfl⟩

theorem close_spec (h : w.close crate i = some w') :
    ∃ client, w.clients[i]? = some client ∧ client.gone = false ∧
      w' = w.setClient i { client with gone := true }
        (crate.dropStream i w.channel) := by
  unfold Observed.close at h
  obtain ⟨client, hclient, rfl⟩ := Option.map_eq_some_iff.mp h
  obtain ⟨hi, hhere⟩ := Option.filter_eq_some_iff.mp hclient
  exact ⟨client, hi, by simpa using hhere, rfl⟩

theorem Inv.setClient {c : Channel} {client moved : WatchClient α}
    (h : Inv crate w) (hi : w.clients[i]? = some client)
    (hborrow : crate.borrow c = crate.borrow w.channel)
    (hstreams : crate.streams c = crate.streams w.channel)
    (hreceivers : crate.receivers c =
      1 + (w.clients.set i moved).countP fun client => !client.gone)
    (hothers : ∀ j ≠ i, crate.hasChanged j c = crate.hasChanged j w.channel)
    (hmoved : moved.Shown w.sent (crate.borrow w.channel)
      (crate.hasChanged i c)) :
    Inv crate (w.setClient i moved c) := by
  refine ⟨?_, hreceivers, ?_, fun j other hj => ?_⟩
  · simpa [Observed.setClient, hstreams] using h.streams
  · simpa [Observed.setClient, hborrow] using h.value
  · show other.Shown w.sent (crate.borrow c) (crate.hasChanged j c)
    rw [hborrow]
    rcases (get_set hi).mp hj with ⟨rfl, rfl⟩ | ⟨hne, hold⟩
    · exact hmoved
    · rw [hothers j hne]
      exact h.shown j other hold

theorem countP_set {client moved : WatchClient α}
    {clients : List (WatchClient α)} (hi : clients[i]? = some client)
    (hhere : client.gone = false) :
    (clients.set i moved).countP (fun client => !client.gone) =
      clients.countP (fun client => !client.gone) - 1 +
        (!moved.gone).toNat := by
  obtain ⟨hlt, hget⟩ := List.getElem?_eq_some_iff.mp hi
  rw [List.countP_set hlt, hget, hhere]
  cases moved.gone <;> rfl

theorem countP_pos {client : WatchClient α} {clients : List (WatchClient α)}
    (hi : clients[i]? = some client) (hhere : client.gone = false) :
    0 < clients.countP fun client => !client.gone :=
  List.countP_pos_iff.mpr ⟨client, List.mem_of_getElem? hi, by simp [hhere]⟩

theorem Inv.poll (hcrate : crate.Lawful) (h : Inv crate w)
    (hpoll : w.poll crate i = some w') : Inv crate w' := by
  obtain ⟨client, item, channel, hi, hhere, hitem, rfl⟩ := poll_spec hpoll
  obtain ⟨rfl, hsame, hchanged, hseen, hothers⟩ :=
    hcrate.pollNext_some (h.lt_streams hi) hitem
  refine h.setClient hi hsame.borrow hsame.streams ?_ hothers ?_
  · have hpos := countP_pos hi hhere
    rw [hsame.receivers, h.receivers, countP_set hi hhere]
    simp only [hhere, Bool.not_false, Bool.toNat_true]
    omega
  · rw [hseen]
    have hshown : client.Shown w.sent (crate.borrow w.channel)
        (crate.hasChanged i w.channel) := h.shown i client hi
    rw [hchanged] at hshown
    exact hshown.yield hhere

theorem Inv.close (hcrate : crate.Lawful) (h : Inv crate w)
    (hclose : w.close crate i = some w') : Inv crate w' := by
  obtain ⟨client, hi, hhere, rfl⟩ := close_spec hclose
  obtain ⟨hborrow, hreceivers, hstreams, hothers⟩ :=
    hcrate.dropStream i w.channel
  refine h.setClient hi hborrow hstreams ?_ hothers
    ((h.shown i client hi).leave _)
  have hpos := countP_pos hi hhere
  rw [hreceivers, h.receivers, countP_set hi hhere]
  simp only [Bool.not_true, Bool.toNat_false]
  omega

theorem observedStep_inv (hcrate : crate.Lawful)
    {step : State → Label → Option State} {sends : State → Label → Option α}
    {label : ObservedLabel Label} (h : Inv crate w)
    (hstep : observedStep crate step sends w label = some w') :
    Inv crate w' := by
  cases label with
  | act a =>
      obtain ⟨s, -, rfl⟩ := Option.map_eq_some_iff.mp hstep
      exact (h.send hcrate _).of_state s
  | subscribe =>
      cases hstep
      exact h.subscribe hcrate
  | poll i => exact h.poll hcrate hstep
  | close i => exact h.close hcrate hstep

end Observed

/-! ## A channel with flags -/

structure FlagChannel (α : Type) where
  value : α
  receivers : Nat
  flags : List Bool
  deriving DecidableEq, Repr

def flagCrate : WatchCrate α (FlagChannel α) where
  channel init := ⟨init, 1, []⟩
  send value c := { c with value := value, flags := c.flags.map fun _ => true }
  subscribe c :=
    { c with receivers := c.receivers + 1, flags := c.flags ++ [true] }
  pollNext i c :=
    if c.flags[i]? = some true then
      some (c.value, { c with flags := c.flags.set i false })
    else none
  dropStream _ c := { c with receivers := c.receivers - 1 }
  borrow := FlagChannel.value
  receivers := FlagChannel.receivers
  streams c := c.flags.length
  hasChanged i c := c.flags[i]? = some true

theorem flagCrate_lawful : (flagCrate : WatchCrate α _).Lawful where
  channel init := ⟨rfl, rfl, rfl⟩
  send value c _ := by
    refine ⟨rfl, rfl, List.length_map _, fun i hi => ?_⟩
    have hlt : i < c.flags.length := hi
    simp [flagCrate, hlt]
  subscribe c := by
    refine ⟨rfl, rfl, by simp [flagCrate], by simp [flagCrate], fun i hi => ?_⟩
    have hlt : i < c.flags.length := hi
    simp [flagCrate, List.getElem?_append_left hlt]
  waits i c h := if_neg (of_decide_eq_false h)
  yields i c hi h := by
    have hlt : i < c.flags.length := hi
    refine ⟨_, if_pos (of_decide_eq_true h), ⟨rfl, rfl, by simp [flagCrate]⟩,
      ?_, fun j hj => ?_⟩
    · simp [flagCrate, hlt]
    · simp [flagCrate, List.getElem?_set_ne hj.symm]
  dropStream i c := ⟨rfl, rfl, rfl, fun _ _ => rfl⟩

end Rustylink.Foundation
