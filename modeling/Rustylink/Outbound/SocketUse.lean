import Rustylink.Foundation.Transition
import Rustylink.Outbound.Sockets

/-!
# Who holds the sockets of a dialer

A socket is its caller's from the call that returns it to the drop of it.  A
pair of sockets is the one of several rounds that was not in conflict.
-/

namespace Rustylink.Outbound.Sockets

open Rustylink.Foundation Rustylink.Outbound

variable {os : SocketOs} {dialer : Dialer} {options : DialerOptions}
  {pin : Bool}

/-! ## Every use of a dialer -/

inductive Purpose where
  | stream (destination : SocketAddr)
  | wireguard
  | query (server : SocketAddr)
  deriving DecidableEq, Repr

def Purpose.pins : Purpose → Bool
  | .stream destination => shouldBind destination.ip
  | .wireguard => true
  | .query server => shouldBind server.ip

def Purpose.sendsTo : Purpose → SocketAddr → Bool
  | .stream _, _ => false
  | .wireguard, _ => true
  | .query server, destination => destination = server

structure Held where
  socket : Nat
  purpose : Purpose
  deriving DecidableEq, Repr

structure Usage where
  trace : SocketTrace
  held : List Held
  deriving DecidableEq, Repr

inductive SocketOp where
  | connectTcp (destination : SocketAddr)
  | bindUdp (address : SocketAddr)
  | bindUdpTo (server : SocketAddr)
  | bindUdpPair (addrV4 : BitVec 32) (addrV6 : BitVec 128) (port : Nat)
  | sendTo (holder : Held) (destination : SocketAddr)
  | drop (holder : Held)
  deriving DecidableEq, Repr

namespace Usage

def start : Usage := ⟨⟨[], []⟩, []⟩

def receive {α : Type} (s : Usage) (holders : α → List Held) :
    EStateM.Result DialError SocketTrace α → Usage
  | .ok a trace => ⟨trace, s.held ++ holders a⟩
  | .error _ trace => ⟨trace, s.held⟩

def step (os : SocketOs) (dialer : Dialer) (options : DialerOptions)
    (s : Usage) :
    SocketOp → Option Usage
  | .connectTcp destination =>
      some (s.receive (fun socket => [⟨socket, .stream destination⟩])
        (Sockets.connectTcp os dialer options destination s.trace))
  | .bindUdp address =>
      some (s.receive (fun socket => [⟨socket, .wireguard⟩])
        (Sockets.bindUdp os dialer address s.trace))
  | .bindUdpTo server =>
      some (s.receive (fun socket => [⟨socket, .query server⟩])
        (Sockets.bindUdpTo os dialer server s.trace))
  | .bindUdpPair addrV4 addrV6 port =>
      some (s.receive (fun pair => [⟨pair.1, .wireguard⟩, ⟨pair.2, .wireguard⟩])
        (Sockets.bindUdpPair os dialer addrV4 addrV6 port s.trace))
  | .sendTo holder destination =>
      if holder ∈ s.held ∧ holder.purpose.sendsTo destination then
        some (s.receive (fun _ => [])
          (perform os holder.socket (.sendTo destination) .setOption s.trace))
      else none
  | .drop holder =>
      if holder ∈ s.held then
        some ⟨s.trace.close holder.socket, s.held.filter fun other =>
          other.socket ≠ holder.socket⟩
      else none

/--
Exactly the held sockets are open, they are usable, and every call was careful.
-/
structure Accounted (platform : Platform) (dialer : Dialer)
    (s : Usage) : Prop where
  careful : ∀ used ∈ s.trace.calls, Careful platform dialer used
  held : ∀ i socket, s.trace.table[i]? = some socket →
    (socket.closed = false ↔ ∃ holder ∈ s.held, holder.socket = i)
  usable : ∀ holder ∈ s.held, ∃ socket, s.trace.table[holder.socket]? =
    some socket ∧
    Usable platform dialer holder.purpose.pins socket

variable {u : Usage}

theorem Accounted.opened (h : Accounted os.platform dialer u)
    {trace : SocketTrace} {holders : List Held}
    (hopened : Opened os.platform dialer u.trace pin
      (holders.map Held.socket) trace)
    (hpins : ∀ holder ∈ holders, holder.purpose.pins = pin) :
    Accounted os.platform dialer ⟨trace, u.held ++ holders⟩ := by
  obtain ⟨new, hgrown, hopen, hheld⟩ := hopened
  obtain ⟨calls, hcalls, hcareful⟩ := hgrown.calls
  have hold : ∀ i, i < u.trace.table.length →
      trace.table[i]? = u.trace.table[i]? := fun i hlt => by
    rw [hgrown.table, List.getElem?_append_left hlt]
  have hnew : ∀ i, trace.table[u.trace.table.length + i]? = new[i]? :=
    fun i => by
    rw [hgrown.table, List.getElem?_append_right (Nat.le_add_right _ _),
      Nat.add_sub_cancel_left]
  have hbound : ∀ holder ∈ u.held, holder.socket < u.trace.table.length :=
    fun holder hmem => by
    obtain ⟨socket, hget, -⟩ := h.usable holder hmem
    exact (List.getElem?_eq_some_iff.mp hget).1
  have hadded : ∀ holder ∈ holders, ∃ i socket, holder.socket =
      u.trace.table.length + i ∧
      new[i]? = some socket ∧ Usable os.platform dialer pin socket :=
    fun holder hmem => hheld _ (List.mem_map_of_mem hmem)
  refine ⟨fun used hused => ?_, fun i socket hi => ?_, fun holder hmem => ?_⟩
  · rw [hcalls] at hused
    rcases List.mem_append.mp hused with hused | hused
    · exact h.careful used hused
    · exact hcareful used hused
  · rcases Nat.lt_or_ge i u.trace.table.length with hlt | hge
    · rw [hold i hlt] at hi
      rw [h.held i socket hi]
      constructor
      · rintro ⟨holder, hmem, rfl⟩
        exact ⟨holder, List.mem_append.mpr (.inl hmem), rfl⟩
      · rintro ⟨holder, hmem, rfl⟩
        rcases List.mem_append.mp hmem with hmem | hmem
        · exact ⟨holder, hmem, rfl⟩
        · obtain ⟨j, -, heq, -⟩ := hadded holder hmem
          omega
    · obtain ⟨j, rfl⟩ := Nat.exists_eq_add_of_le hge
      rw [hnew] at hi
      constructor
      · intro hclosed
        rcases hopen j socket hi with hdone | hmem
        · rw [hdone] at hclosed
          cases hclosed
        · obtain ⟨holder, hholder, heq⟩ := List.mem_map.mp hmem
          exact ⟨holder, List.mem_append.mpr (.inr hholder), heq⟩
      · rintro ⟨holder, hmem, heq⟩
        rcases List.mem_append.mp hmem with hmem | hmem
        · have hlt := hbound holder hmem
          omega
        · obtain ⟨k, other, hsocket, hget, husable⟩ := hadded holder hmem
          obtain rfl : k = j := by omega
          rw [hi] at hget
          obtain rfl := Option.some.inj hget
          exact husable.notClosed
  · rcases List.mem_append.mp hmem with hmem | hmem
    · obtain ⟨socket, hget, husable⟩ := h.usable holder hmem
      exact ⟨socket, by rw [hold _ (hbound holder hmem), hget], husable⟩
    · obtain ⟨i, socket, hsocket, hget, husable⟩ := hadded holder hmem
      exact ⟨socket, by rw [hsocket, hnew, hget],
        by rw [hpins holder hmem]; exact husable⟩

theorem Purpose.pins_of_sendsTo {purpose : Purpose} {destination : SocketAddr}
    (h : purpose.sendsTo destination = true)
    (hbind : shouldBind destination.ip = true) :
    purpose.pins = true := by
  cases purpose with
  | stream => cases h
  | wireguard => rfl
  | query server =>
      obtain rfl : destination = server := by simpa [Purpose.sendsTo] using h
      exact hbind

theorem Accounted.sent (h : Accounted os.platform dialer u) {holder : Held}
    {destination : SocketAddr} (hmem : holder ∈ u.held)
    (hsends : holder.purpose.sendsTo destination = true) :
    Accounted os.platform dialer (u.receive (fun _ => [])
      (perform os holder.socket (.sendTo destination) .setOption u.trace)) := by
  obtain ⟨socket, hget, husable⟩ := h.usable holder hmem
  obtain ⟨hlt, hsame⟩ := List.getElem?_eq_some_iff.mp hget
  have hcareful : Careful os.platform dialer ⟨.sendTo destination, socket⟩ := by
    refine ⟨husable.notClosed, fun _ => husable.nonblocking, nofun, ?_⟩
    rintro other (hother | hother) hbind
    · cases hother
    · obtain rfl := Call.sendTo.inj hother
      exact husable.pinned (Purpose.pins_of_sendsTo hsends hbind)
  have hkept : Accounted os.platform dialer
      ⟨{ u.trace with calls := u.trace.calls ++
          [⟨.sendTo destination, socket⟩] }, u.held⟩ := by
    refine ⟨fun used hused => ?_, h.held, h.usable⟩
    rcases List.mem_append.mp hused with hused | hused
    · exact h.careful used hused
    · rw [List.mem_singleton.mp hused]
      exact hcareful
  have hset : u.trace.table.set holder.socket
      (Call.effect (.sendTo destination) socket) =
      u.trace.table := by
    rw [← hsame]
    exact List.set_getElem_self hlt
  simp only [perform, hget]
  cases os.refuse u.trace holder.socket (.sendTo destination) with
  | some error => exact hkept
  | none => simpa [receive, hset] using hkept

theorem Accounted.dropped (h : Accounted os.platform dialer u) {holder : Held}
    (hmem : holder ∈ u.held) :
    Accounted os.platform dialer ⟨u.trace.close holder.socket,
      u.held.filter fun other => other.socket ≠ holder.socket⟩ := by
  obtain ⟨socket, hget, husable⟩ := h.usable holder hmem
  have hclose : u.trace.close holder.socket = { u.trace with
      table :=
        u.trace.table.set holder.socket { socket with closed := true } } := by
    rw [SocketTrace.close, hget]
  rw [hclose]
  refine ⟨h.careful, fun i other hi => ?_, fun other hother => ?_⟩
  · simp only [List.mem_filter, decide_eq_true_eq]
    rw [List.getElem?_set] at hi
    split at hi
    · next heq =>
        split at hi
        · obtain rfl := Option.some.inj hi
          refine iff_of_false (by simp) ?_
          rintro ⟨other, ⟨-, hne⟩, rfl⟩
          exact hne heq.symm
        · contradiction
    · next hne =>
        rw [h.held i other hi]
        constructor
        · rintro ⟨other, hother, rfl⟩
          exact ⟨other, ⟨hother, Ne.symm hne⟩, rfl⟩
        · rintro ⟨other, ⟨hother, -⟩, rfl⟩
          exact ⟨other, hother, rfl⟩
  · simp only [List.mem_filter, decide_eq_true_eq] at hother
    obtain ⟨state, hstate, hgood⟩ := h.usable other hother.1
    exact ⟨state,
      by rw [List.getElem?_set_ne (Ne.symm hother.2), hstate], hgood⟩

theorem Accounted.receive {α : Type} {body : SocketBody α}
    {holders : α → List Held} (h : Accounted os.platform dialer u)
    (hspec : Spec (· = u.trace) body
      (fun a => Opened os.platform dialer u.trace pin
        ((holders a).map Held.socket))
      (Opened os.platform dialer u.trace pin []))
    (hpins : ∀ a, ∀ holder ∈ holders a, holder.purpose.pins = pin) :
    Accounted os.platform dialer (u.receive holders (body u.trace)) := by
  have hrun := hspec u.trace rfl
  cases hbody : body u.trace with
  | ok a trace =>
      rw [hbody] at hrun
      exact h.opened hrun (hpins a)
  | error error trace =>
      rw [hbody] at hrun
      have hnone : Accounted os.platform dialer ⟨trace, u.held ++ []⟩ :=
        h.opened hrun (by simp)
      rwa [List.append_nil] at hnone

theorem Accounted.step (h : Accounted os.platform dialer u)
    {op : SocketOp} {v : Usage} (hstep : u.step os dialer options op = some v) :
    Accounted os.platform dialer v := by
  cases op with
  | connectTcp destination =>
      obtain rfl := Option.some.inj hstep
      exact h.receive (connectTcp_spec destination) (by simp [Purpose.pins])
  | bindUdp address =>
      obtain rfl := Option.some.inj hstep
      exact h.receive (bindDatagram_spec address true) (by simp [Purpose.pins])
  | bindUdpTo server =>
      obtain rfl := Option.some.inj hstep
      exact h.receive (bindDatagram_spec (unspecifiedFor server)
        (shouldBind server.ip))
        (by simp [Purpose.pins])
  | bindUdpPair addrV4 addrV6 port =>
      obtain rfl := Option.some.inj hstep
      exact h.receive (bindPairLoop_spec addrV4 addrV6 port bindMaxRetries)
        (by simp [Purpose.pins])
  | sendTo holder destination =>
      simp only [Usage.step, Option.ite_none_right_eq_some,
        Option.some.injEq] at hstep
      obtain ⟨⟨hmem, hsends⟩, rfl⟩ := hstep
      exact h.sent hmem hsends
  | drop holder =>
      simp only [Usage.step, Option.ite_none_right_eq_some,
        Option.some.injEq] at hstep
      obtain ⟨hmem, rfl⟩ := hstep
      exact h.dropped hmem

theorem Accounted.start : Accounted os.platform dialer start where
  careful := fun used hused => (List.not_mem_nil hused).elim
  held := fun i socket hi => by simp [Usage.start] at hi
  usable := fun holder hmem => (List.not_mem_nil hmem).elim

end Usage

/--
Whatever the system refuses and when, the open sockets of a dialer are exactly
those that its callers hold: a call that fails leaves none behind, the rounds
of a pair included.  No call is made on a closed socket, and whatever connects
or sends to a routable address does so on a socket already bound to the
interface of the dialer.
-/
theorem sockets_accounted {ops : List SocketOp} {u : Usage}
    (hrun : exec (Usage.step os dialer options) Usage.start ops = some u) :
    (∀ i socket, u.trace.table[i]? = some socket →
      (socket.closed = false ↔ ∃ holder ∈ u.held, holder.socket = i)) ∧
    ∀ used ∈ u.trace.calls, Careful os.platform dialer used := by
  have haccounted := exec_invariant (C := fun _ _ => True)
    (fun _ _ _ h _ hstep => Usage.Accounted.step h hstep) Usage.Accounted.start
    (.of_forall fun _ _ _ => trivial) hrun
  exact ⟨haccounted.held, haccounted.careful⟩

def busyPort : SocketOs where
  platform := .linux
  create _ _ _ := none
  refuse _ _ call :=
    match call with
    | .bind ⟨.v6 _, 40000⟩ => some ⟨.addrInUse, "Address already in use"⟩
    | _ => none
  localPort _ id := 40000 + id
  timesOut _ _ := false

def pairInUse : List SocketOp :=
  [.bindUdpPair 0 0 0,
    .sendTo ⟨2, .wireguard⟩ ⟨.v4 (Ipv4Addr.new 203 0 113 7), 51820⟩,
    .drop ⟨2, .wireguard⟩]

theorem sockets_accounted_busyPort :
    ∃ socket,
      (final (Usage.step busyPort ⟨some ⟨"eth0", 2, none, none⟩⟩ ⟨10000, true⟩)
      Usage.start pairInUse).trace.table[3]? = some socket ∧
        socket.closed = false := by
  have hrun :
      exec (Usage.step busyPort ⟨some ⟨"eth0", 2, none, none⟩⟩ ⟨10000, true⟩)
      Usage.start pairInUse =
        some (final (Usage.step busyPort ⟨some ⟨"eth0", 2, none, none⟩⟩
          ⟨10000, true⟩) Usage.start pairInUse) := rfl
  have hheld :
      (final (Usage.step busyPort ⟨some ⟨"eth0", 2, none, none⟩⟩ ⟨10000, true⟩)
      Usage.start pairInUse).held = [⟨3, .wireguard⟩] := rfl
  refine ⟨_, rfl, ((sockets_accounted hrun).1 3 _ rfl).mpr
    ⟨⟨3, .wireguard⟩, ?_, rfl⟩⟩
  rw [hheld]
  exact List.mem_singleton.mpr rfl

/-! ## Pairs -/

section Pair

variable {addrV4 : BitVec 32} {addrV6 : BitVec 128} {port : Nat}
  {r : EStateM.Result DialError SocketTrace (Nat × Nat)}

inductive Conflicts (os : SocketOs) (dialer : Dialer) (addrV4 : BitVec 32)
    (addrV6 : BitVec 128) (port : Nat) : Nat → SocketTrace →
        SocketTrace → Prop where
  | none (s : SocketTrace) : Conflicts os dialer addrV4 addrV6 port 0 s s
  | round {s s₁ t : SocketTrace} {error : DialError} {rounds : Nat}
      (hround : bindPairOnce os dialer addrV4 addrV6 port s =
        .ok (.error error) s₁)
      (hretry : isBindRetry os.platform error = true)
      (hrest : Conflicts os dialer addrV4 addrV6 port rounds s₁ t) :
      Conflicts os dialer addrV4 addrV6 port (rounds + 1) s t

def lastRound :
    EStateM.Result DialError SocketTrace (Except DialError (Nat × Nat)) →
      EStateM.Result DialError SocketTrace (Nat × Nat)
  | .ok (.ok pair) t => .ok pair t
  | .ok (.error error) t => .error error t
  | .error error t => .error error t

def inConflict (platform : Platform) :
    EStateM.Result DialError SocketTrace (Except DialError (Nat × Nat)) → Bool
  | .ok (.error error) _ => isBindRetry platform error
  | _ => false

theorem inConflict_iff {platform : Platform}
    {round : EStateM.Result DialError SocketTrace
      (Except DialError (Nat × Nat))} :
    inConflict platform round = true ↔
      ∃ error t, round = .ok (.error error) t ∧
        isBindRetry platform error = true := by
  constructor
  · intro h
    unfold inConflict at h
    split at h
    · next error t => exact ⟨error, t, rfl, h⟩
    · contradiction
  · rintro ⟨error, t, rfl, h⟩
    exact h

theorem bindPairLoop_last {retries : Nat} {s : SocketTrace}
    (h : retries = 0 ∨ ¬ (port = 0 ∧
      inConflict os.platform (bindPairOnce os dialer addrV4 addrV6 port s) =
        true)) :
    bindPairLoop os dialer addrV4 addrV6 port retries s =
      lastRound (bindPairOnce os dialer addrV4 addrV6 port s) := by
  cases retries with
  | zero =>
      rw [bindPairLoop, run_bind]
      cases bindPairOnce os dialer addrV4 addrV6 port s with
      | error error t => rfl
      | ok result t => cases result <;> rfl
  | succ retries =>
      have hlast := h.resolve_left (Nat.succ_ne_zero retries)
      rw [bindPairLoop, run_bind]
      cases hround : bindPairOnce os dialer addrV4 addrV6 port s with
      | error error t => rfl
      | ok result t =>
          cases result with
          | ok pair => rfl
          | error error =>
              rw [hround] at hlast
              have hstop :
                  ¬ (port = 0 ∧ isBindRetry os.platform error = true) := hlast
              show (if port = 0 ∧ isBindRetry os.platform error = true then
                bindPairLoop os dialer addrV4 addrV6 port
                  retries else throw error) t = _
              rw [if_neg hstop]
              rfl

theorem bindPairLoop_conflict {retries : Nat} {s t : SocketTrace}
    {error : DialError} (hport : port = 0)
    (hround : bindPairOnce os dialer addrV4 addrV6 port s =
      .ok (.error error) t)
    (hretry : isBindRetry os.platform error = true) :
    bindPairLoop os dialer addrV4 addrV6 port (retries + 1) s =
      bindPairLoop os dialer addrV4 addrV6 port retries t := by
  rw [bindPairLoop, run_bind, hround]
  show (if port = 0 ∧ isBindRetry os.platform error = true then
    bindPairLoop os dialer addrV4 addrV6 port retries else throw error) t = _
  rw [if_pos ⟨hport, hretry⟩]

def retriesFor (port retries : Nat) : Nat := if port = 0 then retries else 0

theorem bindPairLoop_iff (retries : Nat) (s : SocketTrace) :
    bindPairLoop os dialer addrV4 addrV6 port retries s = r ↔
      ∃ rounds t, Conflicts os dialer addrV4 addrV6 port rounds s t ∧
        rounds ≤ retriesFor port retries ∧
        (inConflict os.platform (bindPairOnce os dialer addrV4 addrV6 port t) =
          true →
          rounds = retriesFor port retries) ∧
        r = lastRound (bindPairOnce os dialer addrV4 addrV6 port t) := by
  by_cases hlast : retriesFor port retries = 0 ∨
      inConflict os.platform (bindPairOnce os dialer addrV4 addrV6 port s) ≠
        true
  · have hno : retries = 0 ∨ ¬ (port = 0 ∧
        inConflict os.platform (bindPairOnce os dialer addrV4 addrV6 port s) =
            true) := by
      rcases hlast with hspent | hnone
      · by_cases hport : port = 0
        · exact .inl (by simpa [retriesFor, hport] using hspent)
        · exact .inr fun h => hport h.1
      · exact .inr fun h => hnone h.2
    rw [bindPairLoop_last hno]
    constructor
    · rintro rfl
      exact ⟨0, s, .none s, Nat.zero_le _,
        fun h => (hlast.resolve_right fun hnot => hnot h).symm, rfl⟩
    · rintro ⟨rounds, t, hconflicts, hle, -, rfl⟩
      cases hconflicts with
      | none => rfl
      | round hround hretry hrest =>
          rcases hlast with hspent | hnone
          · omega
          · exact (hnone (inConflict_iff.mpr ⟨_, _, hround, hretry⟩)).elim
  · simp only [not_or, ne_eq, not_not] at hlast
    obtain ⟨hmore, hconflict⟩ := hlast
    obtain ⟨error, s₁, hround, hretry⟩ := inConflict_iff.mp hconflict
    have hport : port = 0 := by
      by_contra hport
      exact hmore (if_neg hport)
    cases retries with
    | zero => exact (hmore (by simp [retriesFor])).elim
    | succ retries =>
        rw [bindPairLoop_conflict hport hround hretry,
          bindPairLoop_iff retries s₁]
        simp only [retriesFor, if_pos hport]
        constructor
        · rintro ⟨rounds, t, hconflicts, hle, hspent, rfl⟩
          exact ⟨rounds + 1, t, .round hround hretry hconflicts,
            Nat.succ_le_succ hle, fun h => by rw [hspent h], rfl⟩
        · rintro ⟨rounds, t, hconflicts, hle, hspent, rfl⟩
          cases hconflicts with
          | none =>
              have hzero := hspent hconflict
              omega
          | round hround' hretry' hrest =>
              rw [hround] at hround'
              cases hround'
              exact ⟨_, t, hrest, Nat.le_of_succ_le_succ hle,
                fun h => Nat.succ.inj (hspent h), rfl⟩

def SharesPort (os : SocketOs) (addrV4 : BitVec 32) (addrV6 : BitVec 128)
    (port : Nat) (pair : Nat × Nat) (t : SocketTrace) : Prop :=
  ∃ first second s₁, t.table[pair.1]? = some first ∧
    t.table[pair.2]? = some second ∧
    s₁.table[pair.1]? = some first ∧ first.bound = some ⟨.v4 addrV4, port⟩ ∧
    second.bound = some ⟨.v6 addrV6, os.localPort s₁ pair.1⟩

theorem bindPairOnce_ports {s : SocketTrace} :
    Spec (· = s) (bindPairOnce os dialer addrV4 addrV6 port)
      (fun result t => ∀ pair, result = .ok pair →
        SharesPort os addrV4 addrV6 port pair t)
      fun _ => True := by
  refine ((bindFirst_next addrV4 port).weaken (fun _ h => h) (fun _ _ h => h)
    fun _ _ => trivial).bind ?_
  rintro ⟨udpV4, boundPort⟩ s₁ ⟨hport, hnext, first, hfirst, -, hbound⟩
  obtain rfl : udpV4 = s.table.length := hnext
  obtain rfl : boundPort = os.localPort s₁ s.table.length := hport
  have hsecond : Meets _ _ (bindDatagram os dialer
      ⟨.v6 addrV6, os.localPort s₁ s.table.length⟩ true s₁) :=
    bindDatagram_next ⟨.v6 addrV6, os.localPort s₁ s.table.length⟩ true s₁ rfl
  simp only [bindUdp]
  cases hrun : bindDatagram os dialer
      ⟨.v6 addrV6, os.localPort s₁ s.table.length⟩ true s₁ with
  | error error t => exact fun pair hpair => by cases hpair
  | ok udpV6 t =>
      rw [hrun] at hsecond
      obtain ⟨rfl, second, hgrown, -, hbound'⟩ := hsecond
      rintro pair hpair
      obtain rfl := Except.ok.inj hpair
      refine ⟨first, second, s₁, ?_, hgrown.get_last, hfirst.get_last,
        hbound, hbound'⟩
      have hlt : s.table.length < s₁.table.length := by
        rw [hfirst.table, List.length_append]
        exact Nat.lt_succ_self _
      rw [hgrown.table, List.getElem?_append_left hlt, hfirst.get_last]

def SocketOs.ReportsBound (os : SocketOs) : Prop :=
  ∀ s id socket address, s.table[id]? = some socket →
    socket.bound = some address →
    address.port ≠ 0 → os.localPort s id = address.port

/--
A pair comes from the first round that is not in conflict, of at most eleven
for a port that the system chooses and of one for a given port; any other
error ends the loop at once.  Both sockets of the pair are on one port, and on
the given one if there is one.
-/
theorem bind_udp_pair_law (os : SocketOs) (dialer : Dialer) (addrV4 : BitVec 32)
    (addrV6 : BitVec 128) (port : Nat) (s : SocketTrace) :
    (∀ r, bindUdpPair os dialer addrV4 addrV6 port s = r ↔
      ∃ rounds t, Conflicts os dialer addrV4 addrV6 port rounds s t ∧
        rounds ≤ retriesFor port bindMaxRetries ∧
        (inConflict os.platform (bindPairOnce os dialer addrV4 addrV6 port t) =
          true →
          rounds = retriesFor port bindMaxRetries) ∧
        r = lastRound (bindPairOnce os dialer addrV4 addrV6 port t)) ∧
    ∀ pair t, bindUdpPair os dialer addrV4 addrV6 port s = .ok pair t →
      SharesPort os addrV4 addrV6 port pair t ∧
      (os.ReportsBound → port ≠ 0 → ∃ second, t.table[pair.2]? = some second ∧
        second.bound = some ⟨.v6 addrV6, port⟩) := by
  refine ⟨fun r => bindPairLoop_iff bindMaxRetries s, fun pair t hpair => ?_⟩
  obtain ⟨rounds, before, -, -, -, hlast⟩ :=
    (bindPairLoop_iff bindMaxRetries s).mp hpair
  have hshares : SharesPort os addrV4 addrV6 port pair t := by
    have hports :
        Meets _ _ (bindPairOnce os dialer addrV4 addrV6 port before) :=
      bindPairOnce_ports before rfl
    unfold lastRound at hlast
    split at hlast
    · next other t' hround =>
        cases hlast
        rw [hround] at hports
        exact hports pair rfl
    · contradiction
    · contradiction
  refine ⟨hshares, fun hreports hport => ?_⟩
  obtain ⟨first, second, s₁, -, hsecond, hfirst, hbound, hbound'⟩ := hshares
  exact ⟨second,
    hsecond, by rw [hbound', hreports s₁ pair.1 first _ hfirst hbound hport]⟩

end Pair

end Rustylink.Outbound.Sockets
