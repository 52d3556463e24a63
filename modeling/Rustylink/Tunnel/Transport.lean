import Rustylink.Foundation.Framing
import Rustylink.Foundation.Net
import Rustylink.Foundation.TaskPool
import Rustylink.Foundation.Transition

/-!
# The FeiLian TCP transport

WireGuard datagrams as frames on a TCP connection.  The clones of a sender
share one writer, which is replaced when the destination changes and dropped
when a write fails.  A call of `send_to` holds the lock to its end, so a run
is a list of calls, each with what the network answers.
-/

namespace Rustylink.Tunnel

open Rustylink.Foundation

def feilianFrame : FrameFormat := ⟨4, 65535, by decide⟩

inductive TunnelTransportError where
  | dial (transport : String) (destination : SocketAddr) (source : String)
  | send (destination : SocketAddr) (len : Nat) (source : String)
  | invalidFrame (transport : String) (frameLen : Nat) (peer : SocketAddr)
  deriving DecidableEq, Repr

/-! ## Sending -/

structure TcpConnection where
  destination : SocketAddr
  bytes : ByteString
  deriving DecidableEq, Repr

structure TcpWriterState where
  destination : SocketAddr
  writer : Nat
  deriving DecidableEq, Repr

structure FeilianTcpSend where
  state : Option TcpWriterState
  connections : List TcpConnection
  deriving DecidableEq, Repr

/--
A call, with the error of its dial if it dials and fails, the number of bytes
that the connection takes before a write fails, and the error of that write.
-/
structure SendCall where
  payload : ByteString
  destination : SocketAddr
  dialError : Option String
  room : Nat
  writeError : String
  deriving DecidableEq, Repr

def frameLen (payload : ByteString) : Option Nat :=
  (if payload.length < 2 ^ 32 then some payload.length else none).filter
    fun len => len != 0 && len ≤ feilianFrame.max

namespace FeilianTcpSend

def new : FeilianTcpSend := ⟨none, []⟩

def dial (s : FeilianTcpSend) (call : SendCall) :
    Except TunnelTransportError (FeilianTcpSend × TcpWriterState) :=
  match call.dialError with
  | some source => .error (.dial "FeiLian TCP" call.destination source)
  | none =>
      let state : TcpWriterState := ⟨call.destination, s.connections.length⟩
      .ok (⟨some state, s.connections ++ [⟨call.destination, []⟩]⟩, state)

def connect (s : FeilianTcpSend) (call : SendCall) :
    Except TunnelTransportError (FeilianTcpSend × TcpWriterState) :=
  match s.state with
  | none => s.dial call
  | some current =>
      if current.destination ≠ call.destination then s.dial call
      else .ok (s, current)

def writeAll (writer : Nat) (data : ByteString) (room : Nat)
    (s : FeilianTcpSend) :
    FeilianTcpSend × Option Nat :=
  ({ s with connections := s.connections.modify writer fun connection =>
      { connection with bytes := connection.bytes ++ data.take room } },
    if data.length ≤ room then some (room - data.length) else none)

def writeFrame (current : TcpWriterState) (len : Nat) (call : SendCall)
    (s : FeilianTcpSend) :
    FeilianTcpSend × Except TunnelTransportError Unit :=
  let (s, room) := s.writeAll current.writer (toLeBytes 4 len) call.room
  let (s, room) :=
    match room with
    | none => (s, none)
    | some room => s.writeAll current.writer call.payload room
  match room with
  | none =>
      -- the next datagram dials again
      ({ s with state := none },
        .error (.send call.destination call.payload.length call.writeError))
  | some _ => (s, .ok ())

def sendTo (s : FeilianTcpSend) (call : SendCall) :
    FeilianTcpSend × Except TunnelTransportError Unit :=
  match frameLen call.payload with
  | none =>
      (s, .error (.invalidFrame "FeiLian TCP" call.payload.length
        call.destination))
  | some len =>
      match s.connect call with
      | .error error => (s, .error error)
      | .ok (s, current) => s.writeFrame current len call

end FeilianTcpSend

/-! ## Receiving -/

/--
The frames that reach the receiver, from a connection that delivers these
chunks; `isOpen` says of the number of frames sent before whether the receiver
is still there.
-/
def readFeilianTcpFrames (isOpen : Nat → Bool) (source : SocketAddr)
    (sent : Nat) (reader : List ByteString) : List (ByteString × SocketAddr) :=
  match h : feilianFrame.read reader with
  | none => []
  | some (payload, reader') =>
      if isOpen sent then
        (payload, source) :: readFeilianTcpFrames isOpen source
        (sent + 1) reader'
      else []
termination_by reader.flatten.length
decreasing_by exact FrameFormat.read_length h

/-! ## Runs of the sender -/

structure Sent where
  connection : Option Nat
  destination : SocketAddr
  payload : ByteString
  deriving DecidableEq, Repr

structure SendTrace where
  sender : FeilianTcpSend
  sent : List Sent
  deriving DecidableEq, Repr

namespace SendTrace

def step (s : SendTrace) (call : SendCall) : Option SendTrace :=
  match s.sender.sendTo call with
  | (sender, .ok ()) =>
      some ⟨sender, s.sent ++
        [⟨sender.state.map TcpWriterState.writer, call.destination,
          call.payload⟩]⟩
  | (sender, .error _) => some ⟨sender, s.sent⟩

def Initial (s : SendTrace) : Prop := s = ⟨.new, []⟩

def packetsOn (s : SendTrace) (i : Nat) : List ByteString :=
  (s.sent.filter (·.connection = some i)).map Sent.payload

end SendTrace

/-! ## What a call does -/

theorem frameLen_eq (payload : ByteString) :
    frameLen payload =
      if feilianFrame.Frameable payload then some payload.length else none := by
  have hframeable : (payload.length != 0 &&
      decide (payload.length ≤ feilianFrame.max)) = true ↔
      feilianFrame.Frameable payload := by
    simp [FrameFormat.Frameable, List.length_pos_iff]
  unfold frameLen
  by_cases hframe : feilianFrame.Frameable payload
  · have hsmall : payload.length < 2 ^ 32 :=
      Nat.lt_of_le_of_lt hframe.2 (by decide)
    rw [if_pos hframe, if_pos hsmall, Option.filter_some,
      if_pos (hframeable.mpr hframe)]
  · rw [if_neg hframe]
    by_cases hsmall : payload.length < 2 ^ 32
    · rw [if_pos hsmall, Option.filter_some, if_neg (mt hframeable.mp hframe)]
    · rw [if_neg hsmall, Option.filter_none]

def transmit (writer : Nat) (data : ByteString)
    (connections : List TcpConnection) : List TcpConnection :=
  connections.modify writer fun connection =>
    { connection with bytes := connection.bytes ++ data }

theorem transmit_transmit (writer : Nat) (first second : ByteString)
    (connections : List TcpConnection) :
    transmit writer second (transmit writer first connections) =
      transmit writer (first ++ second) connections := by
  simp [transmit, List.modify_modify_eq, Function.comp_def]

theorem transmit_get {writer i : Nat} {data : ByteString}
    {connections : List TcpConnection} :
    (transmit writer data connections)[i]? =
      (connections[i]?).map fun connection =>
        ⟨connection.destination,
          if writer = i then connection.bytes ++ data
            else connection.bytes⟩ := by
  simp only [transmit, List.getElem?_modify]
  by_cases hi : writer = i <;> simp [hi]

theorem transmit_get_some {i : Nat} {connections : List TcpConnection}
    {connection : TcpConnection} (writer : Nat) (data : ByteString)
    (h : connections[i]? = some connection) :
    ∃ connection', (transmit writer data connections)[i]? = some connection' ∧
      connection'.destination = connection.destination := by
  rw [transmit_get, h]
  exact ⟨_, rfl, rfl⟩

@[simp] theorem length_transmit (writer : Nat) (data : ByteString)
    (connections : List TcpConnection) :
    (transmit writer data connections).length = connections.length := by
  simp [transmit]

namespace FeilianTcpSend

theorem writeFrame_spec (s : FeilianTcpSend) (current : TcpWriterState)
    (call : SendCall) :
    s.writeFrame current call.payload.length call =
      if (feilianFrame.frame call.payload).length ≤ call.room then
        (⟨s.state, transmit current.writer (feilianFrame.frame call.payload)
          s.connections⟩, .ok ())
      else
        (⟨none, transmit current.writer
          ((feilianFrame.frame call.payload).take call.room)
            s.connections⟩,
          .error (.send call.destination call.payload.length
            call.writeError)) := by
  have hframe : feilianFrame.frame call.payload =
      toLeBytes 4 call.payload.length ++ call.payload := rfl
  have hlength : (feilianFrame.frame call.payload).length =
      4 + call.payload.length :=
    FrameFormat.length_frame call.payload
  by_cases hheader : 4 ≤ call.room
  · have htake : (toLeBytes 4 call.payload.length).take call.room =
        toLeBytes 4 call.payload.length :=
          List.take_of_length_le (by simpa using hheader)
    have hsplit : (feilianFrame.frame call.payload).take call.room =
        toLeBytes 4 call.payload.length ++ call.payload.take
            (call.room - 4) := by
      rw [hframe, List.take_append, htake, length_toLeBytes]
    have hwrites :=
      transmit_transmit current.writer (toLeBytes 4 call.payload.length)
      (call.payload.take (call.room - 4)) s.connections
    rw [← hsplit] at hwrites
    by_cases hall : (feilianFrame.frame call.payload).length ≤ call.room
    · have hpayload : call.payload.length ≤ call.room - 4 := by omega
      rw [List.take_of_length_le hall] at hwrites
      simp only [writeFrame, writeAll, length_toLeBytes, hheader, if_true,
        hpayload, htake, hall]
      rw [← hwrites]
      rfl
    · have hpayload : ¬ call.payload.length ≤ call.room - 4 := by omega
      simp only [writeFrame, writeAll, length_toLeBytes, hheader, if_true,
        hpayload, htake, hall, if_false]
      rw [← hwrites]
      rfl
  · have hall : ¬ (feilianFrame.frame call.payload).length ≤ call.room := by
      omega
    have hsplit : (feilianFrame.frame call.payload).take call.room =
        (toLeBytes 4 call.payload.length).take call.room := by
      rw [hframe, List.take_append_of_le_length (by simp; omega)]
    simp only [writeFrame, writeAll, length_toLeBytes, hheader,
      if_false, hall, hsplit]
    rfl

inductive Connected (s : FeilianTcpSend) (destination : SocketAddr) :
    FeilianTcpSend → TcpWriterState → Prop
  | same {current : TcpWriterState} (hstate : s.state = some current)
      (hdestination : current.destination = destination) :
        Connected s destination s current
  | dialed : Connected s destination
      ⟨some ⟨destination, s.connections.length⟩, s.connections ++
        [⟨destination, []⟩]⟩
      ⟨destination, s.connections.length⟩

def Rejects : TunnelTransportError → Prop
  | .send .. => False
  | _ => True

theorem connect_spec (s : FeilianTcpSend) (call : SendCall) :
    (∃ error, s.connect call = .error error ∧ Rejects error) ∨
      ∃ base current, s.connect call = .ok (base, current) ∧
        Connected s call.destination base current := by
  have hdial : (∃ error, s.dial call = .error error ∧ Rejects error) ∨
      ∃ base current, s.dial call = .ok (base, current) ∧
        Connected s call.destination base current := by
    unfold dial
    split
    · exact .inl ⟨_, rfl, trivial⟩
    · exact .inr ⟨_, _, rfl, .dialed⟩
  unfold connect
  split
  · exact hdial
  · rename_i current hstate
    split
    · exact hdial
    · rename_i hsame
      exact .inr ⟨s, current, rfl, .same hstate (not_not.mp hsame)⟩

inductive SendEffect (s : FeilianTcpSend) (call : SendCall) :
    FeilianTcpSend × Except TunnelTransportError Unit → Prop
  | rejected {error : TunnelTransportError} (herror : Rejects error) :
      SendEffect s call (s, .error error)
  | sent {base : FeilianTcpSend} {current : TcpWriterState}
      (hframe : feilianFrame.Frameable call.payload)
      (hbase : Connected s call.destination base current) :
      SendEffect s call
        (⟨base.state, transmit current.writer (feilianFrame.frame call.payload)
          base.connections⟩, .ok ())
  | broken {base : FeilianTcpSend} {current : TcpWriterState}
        {error : TunnelTransportError}
      (hframe : feilianFrame.Frameable call.payload)
      (hbase : Connected s call.destination base current)
      (hroom : call.room < (feilianFrame.frame call.payload).length)
      (herror : ¬ Rejects error) :
      SendEffect s call
        (⟨none, transmit current.writer
          ((feilianFrame.frame call.payload).take call.room)
          base.connections⟩, .error error)

theorem sendTo_effect (s : FeilianTcpSend) (call : SendCall) :
    SendEffect s call (s.sendTo call) := by
  unfold sendTo
  rw [frameLen_eq]
  by_cases hframe : feilianFrame.Frameable call.payload
  · rw [if_pos hframe]
    rcases s.connect_spec call with
      ⟨error, hconnect, herror⟩ | ⟨base, current, hconnect, hbase⟩
    · simp only [hconnect]
      exact .rejected herror
    · simp only [hconnect, writeFrame_spec]
      split
      · exact .sent hframe hbase
      · exact .broken hframe hbase (by omega) id
  · rw [if_neg hframe]
    exact .rejected trivial

end FeilianTcpSend

/-! ## The invariant -/

def Truncated (tail : ByteString) : Prop :=
  ∃ payload, feilianFrame.Frameable payload ∧
    tail <+: feilianFrame.frame payload ∧
    0 < tail.length ∧ tail.length < (feilianFrame.frame payload).length

namespace SendTrace

/-- The writer does not stand on this connection, and never will again. -/
def Retired (s : SendTrace) (i : Nat) : Prop :=
  i < s.sender.connections.length ∧
    ∀ current, s.sender.state = some current → current.writer ≠ i

structure Streams (s : SendTrace) : Prop where
  current : ∀ current, s.sender.state = some current → ∃ connection,
    s.sender.connections[current.writer]? = some connection ∧
      connection.destination = current.destination
  streams : ∀ i connection, s.sender.connections[i]? = some connection →
    connection.bytes = feilianFrame.stream (s.packetsOn i) ∨
      ∃ tail, connection.bytes = feilianFrame.stream (s.packetsOn i) ++ tail ∧
        Truncated tail ∧ s.Retired i
  placed : ∀ sent ∈ s.sent, ∃ i connection, sent.connection = some i ∧
    s.sender.connections[i]? = some connection ∧
    connection.destination = sent.destination
  frameable : ∀ sent ∈ s.sent, feilianFrame.Frameable sent.payload

variable {s s' : SendTrace}

theorem Streams.initial (h : s.Initial) : Streams s := by
  subst h
  constructor <;> simp [FeilianTcpSend.new]

theorem Streams.packetsOn_new (h : Streams s) :
    s.packetsOn s.sender.connections.length = [] := by
  unfold packetsOn
  rw [List.map_eq_nil_iff, List.filter_eq_nil_iff]
  intro sent hsent hconnection
  obtain ⟨i, connection, hplace, hi, -⟩ := h.placed sent hsent
  have hlt : i < s.sender.connections.length :=
    (List.getElem?_eq_some_iff.mp hi).1
  simp only [hplace, Option.some.injEq, decide_eq_true_eq] at hconnection
  omega

theorem Streams.connect {base : FeilianTcpSend} {current : TcpWriterState}
    {destination : SocketAddr} (h : Streams s)
    (hbase : s.sender.Connected destination base current) :
    Streams ⟨base, s.sent⟩ ∧ base.state = some current ∧
      current.destination = destination := by
  cases hbase with
  | same hstate hdestination => exact ⟨h, hstate, hdestination⟩
  | dialed =>
      refine ⟨⟨?_, ?_, ?_, h.frameable⟩, rfl, rfl⟩
      · rintro current hcurrent
        cases hcurrent
        exact ⟨_, get_spawn.mpr (.inr ⟨rfl, rfl⟩), rfl⟩
      · intro i connection hi
        rcases get_spawn.mp hi with hold | ⟨rfl, rfl⟩
        · have hlt : i < s.sender.connections.length :=
            (List.getElem?_eq_some_iff.mp hold).1
          rcases h.streams i connection hold with
            hwhole | ⟨tail, hbytes, htail, -⟩
          · exact .inl hwhole
          · refine .inr ⟨tail, hbytes, htail, by simp; omega, ?_⟩
            rintro current hcurrent
            cases hcurrent
            exact Nat.ne_of_gt hlt
        · exact .inl (congrArg feilianFrame.stream h.packetsOn_new).symm
      · intro sent hsent
        obtain ⟨i, connection, hplace, hi, hdestination⟩ := h.placed sent hsent
        exact ⟨i, connection, hplace, get_spawn.mpr (.inl hi), hdestination⟩

theorem packetsOn_append (sender sender' : FeilianTcpSend)
    {sent more : List Sent} {writer : Nat}
    (h : ∀ entry ∈ more, entry.connection = some writer) (i : Nat) :
    packetsOn ⟨sender', sent ++ more⟩ i =
      packetsOn ⟨sender, sent⟩ i ++
        if writer = i then more.map Sent.payload else [] := by
  unfold packetsOn
  rw [List.filter_append, List.map_append]
  congr 1
  split
  · rename_i hi
    rw [List.filter_eq_self.mpr
      fun entry hentry => by simp [h entry hentry, hi]]
  · rename_i hi
    rw [List.map_eq_nil_iff, List.filter_eq_nil_iff]
    intro entry hentry
    simp [h entry hentry, hi]

theorem Retired.transmit {base : FeilianTcpSend} {current : TcpWriterState}
    {data : ByteString} {state : Option TcpWriterState} {sent sent' : List Sent}
    {i : Nat}
    (h : Retired ⟨base, sent⟩ i) (hcurrent : base.state = some current)
    (hstate : state = none ∨ state = some current) :
    Retired ⟨⟨state, Tunnel.transmit current.writer data base.connections⟩,
      sent'⟩ i := by
  refine ⟨by simpa using h.1, fun other hother => ?_⟩
  rcases hstate with rfl | rfl
  · cases hother
  · exact h.2 other (hcurrent.trans hother)

theorem Streams.transmit {base : FeilianTcpSend} {current : TcpWriterState}
    {data : ByteString} {state : Option TcpWriterState} {sent more : List Sent}
    (h : Streams ⟨base, sent⟩)
    (hcurrent : base.state = some current)
    (hstate : state = none ∨ state = some current)
    (hmore : ∀ entry ∈ more, entry.connection = some current.writer ∧
      entry.destination = current.destination ∧
        feilianFrame.Frameable entry.payload)
    (hdata : data = feilianFrame.stream (more.map Sent.payload) ∨
      (more = [] ∧ Truncated data ∧ state = none)) :
    Streams ⟨⟨state, Tunnel.transmit current.writer data base.connections⟩,
      sent ++ more⟩ := by
  constructor
  case current =>
    intro other hother
    rcases hstate with rfl | rfl
    · cases hother
    · cases hother
      obtain ⟨connection, hi, hdestination⟩ := h.current current hcurrent
      obtain ⟨connection', hi', hsame⟩ :=
        transmit_get_some current.writer data hi
      exact ⟨connection', hi', hsame.trans hdestination⟩
  case streams =>
    intro i connection' hi'
    dsimp only at hi'
    rw [transmit_get, Option.map_eq_some_iff] at hi'
    obtain ⟨connection, hi, rfl⟩ := hi'
    rw [packetsOn_append base _ fun entry hentry => (hmore entry hentry).1]
    by_cases hwriter : current.writer = i
    · simp only [hwriter, if_true]
      have hwhole : connection.bytes =
          feilianFrame.stream (packetsOn ⟨base, sent⟩ i) := by
        rcases h.streams i connection hi with hwhole | ⟨tail, -, -, -, haway⟩
        · exact hwhole
        · exact absurd hwriter (haway current hcurrent)
      rcases hdata with rfl | ⟨rfl, hcut, rfl⟩
      · exact .inl (by rw [hwhole, FrameFormat.stream_append])
      · have hlt : i < base.connections.length :=
          (List.getElem?_eq_some_iff.mp hi).1
        exact .inr ⟨data, by simp [hwhole], hcut, by simpa using hlt,
          fun _ hother => by cases hother⟩
    · simp only [hwriter, if_false, List.append_nil]
      rcases h.streams i connection hi with
        hwhole | ⟨tail, hbytes, hcut, hretired⟩
      · exact .inl hwhole
      · exact .inr ⟨tail, hbytes, hcut, hretired.transmit hcurrent hstate⟩
  case placed =>
    intro entry hentry
    rcases List.mem_append.mp hentry with hold | hnew
    · obtain ⟨i, connection, hplace, hi, hdestination⟩ := h.placed entry hold
      obtain ⟨connection', hi', hsame⟩ :=
        transmit_get_some current.writer data hi
      exact ⟨i, connection', hplace, hi', hsame.trans hdestination⟩
    · obtain ⟨hplace, hdestination, -⟩ := hmore entry hnew
      obtain ⟨connection, hi, hsame⟩ := h.current current hcurrent
      obtain ⟨connection', hi', hsame'⟩ :=
        transmit_get_some current.writer data hi
      exact ⟨_, connection', hplace, hi',
        hsame'.trans (hsame.trans hdestination.symm)⟩
  case frameable =>
    intro entry hentry
    rcases List.mem_append.mp hentry with hold | hnew
    · exact h.frameable entry hold
    · exact (hmore entry hnew).2.2

theorem step_spec (s : SendTrace) (call : SendCall) :
    ∃ more, s.step call = some ⟨(s.sender.sendTo call).1, s.sent ++ more⟩ ∧
      more = match (s.sender.sendTo call).2 with
        | .ok () => [⟨(s.sender.sendTo call).1.state.map TcpWriterState.writer,
            call.destination, call.payload⟩]
        | .error _ => [] := by
  unfold step
  rcases s.sender.sendTo call with ⟨sender, error | ok⟩
  · exact ⟨[], by simp⟩
  · exact ⟨_, rfl, rfl⟩

theorem Streams.step {call : SendCall} (h : Streams s)
    (hstep : s.step call = some s') :
    Streams s' := by
  obtain ⟨more, hnext, hmore⟩ := step_spec s call
  rw [hnext] at hstep
  cases hstep
  have heffect := s.sender.sendTo_effect call
  generalize s.sender.sendTo call = outcome at heffect hmore ⊢
  cases heffect with
  | rejected herror =>
      subst hmore
      simpa using h
  | @sent base current hframe hbase =>
      obtain ⟨hbasic, hstate, hdestination⟩ := h.connect hbase
      subst hmore
      apply hbasic.transmit hstate (.inr hstate)
      · intro entry hentry
        rw [List.mem_singleton.mp hentry]
        exact ⟨by simp [hstate], hdestination.symm, hframe⟩
      · left
        simp
  | @broken base current error hframe hbase hroom herror =>
      obtain ⟨hbasic, hstate, -⟩ := h.connect hbase
      subst hmore
      have hlength : ((feilianFrame.frame call.payload).take call.room).length =
          call.room :=
        List.length_take_of_le (Nat.le_of_lt hroom)
      apply hbasic.transmit hstate (.inl rfl) (by simp)
      cases hzero : call.room with
      | zero => simp
      | succ room =>
          refine .inr
            ⟨rfl, ⟨call.payload, hframe, List.take_prefix _ _, ?_, ?_⟩, rfl⟩ <;>
            rw [← hzero, hlength] <;> omega

theorem Retired.step {call : SendCall} {i : Nat} (h : s.Retired i)
    (hstep : s.step call = some s') :
    s'.Retired i ∧ s'.sender.connections[i]? = s.sender.connections[i]? := by
  obtain ⟨more, hnext, -⟩ := step_spec s call
  rw [hnext] at hstep
  cases hstep
  have hlt := h.1
  have hconnect : ∀ {base : FeilianTcpSend} {current : TcpWriterState},
      s.sender.Connected call.destination base current →
      base.state = some current ∧ Retired ⟨base, s.sent⟩ i ∧
        base.connections[i]? = s.sender.connections[i]? := by
    rintro base current (⟨hstate, -⟩ | _)
    · exact ⟨hstate, h, rfl⟩
    · refine ⟨rfl, ⟨by simp; omega, ?_⟩, List.getElem?_append_left hlt⟩
      rintro other hother
      cases hother
      exact Nat.ne_of_gt hlt
  have heffect := s.sender.sendTo_effect call
  generalize s.sender.sendTo call = outcome at heffect ⊢
  cases heffect with
  | rejected herror => exact ⟨h, rfl⟩
  | @sent base current hframe hbase | @broken base current error hframe hbase =>
      obtain ⟨hstate, hretired, hsame⟩ := hconnect hbase
      refine ⟨hretired.transmit hstate (by simp [hstate]), ?_⟩
      dsimp only
      rw [transmit_get, hsame]
      simp [hretired.2 current hstate]

theorem Retired.run {i : Nat} {later : List SendCall} (h : s.Retired i)
    (hrun : exec SendTrace.step s later = some s') :
    s'.sender.connections[i]? = s.sender.connections[i]? := by
  have hkept := exec_invariant (C := fun _ _ => True)
    (I := fun t => t.Retired i ∧
      t.sender.connections[i]? = s.sender.connections[i]?)
    (fun _ _ _ hI _ hstep =>
      ⟨(hI.1.step hstep).1, (hI.1.step hstep).2.trans hI.2⟩)
    ⟨h, rfl⟩ (.of_forall fun _ _ _ => trivial) hrun
  exact hkept.2

theorem Streams.of_reachable (h : Reachable SendTrace.step Initial s) :
    Streams s :=
  h.invariant (fun _ => .initial) fun _ _ _ hI hstep => hI.step hstep

/-! ## What a run leaves on the connections -/

/--
Each connection carries the frames of the packets accepted on it, and perhaps
a part of a frame, after which it is left alone; each accepted packet is on
one connection, to its destination; and a rejected call changes nothing.
-/
theorem streams_intact (h : Reachable SendTrace.step Initial s) :
    (∀ i connection, s.sender.connections[i]? = some connection →
      connection.bytes = feilianFrame.stream (s.packetsOn i) ∨
        ∃ tail, connection.bytes = feilianFrame.stream (s.packetsOn i) ++ tail ∧
          Truncated tail ∧ ∀ later t, exec SendTrace.step s later = some t →
            t.sender.connections[i]? = some connection) ∧
    (∀ sent ∈ s.sent, ∃ i connection, sent.connection = some i ∧
      sent.payload ∈ s.packetsOn i ∧
      s.sender.connections[i]? = some connection ∧
        connection.destination = sent.destination) ∧
    (∀ call t, (s.sender.sendTo call).2 = .ok () → s.step call = some t →
      ∃ i, t.sent = s.sent ++ [⟨some i, call.destination, call.payload⟩]) ∧
    ∀ call error, (s.sender.sendTo call).2 = .error error →
      FeilianTcpSend.Rejects error → (s.sender.sendTo call).1 = s.sender := by
  have hstreams := Streams.of_reachable h
  refine ⟨?_, ?_, ?_, ?_⟩
  · intro i connection hi
    rcases hstreams.streams i connection hi with
      hwhole | ⟨tail, hbytes, hcut, hretired⟩
    · exact .inl hwhole
    · exact .inr ⟨tail, hbytes, hcut, fun later t hrun =>
        (hretired.run hrun).trans hi⟩
  · intro sent hsent
    obtain ⟨i, connection, hplace, hi, hdestination⟩ :=
      hstreams.placed sent hsent
    refine ⟨i, connection, hplace, ?_, hi, hdestination⟩
    exact List.mem_map_of_mem (List.mem_filter.mpr ⟨hsent, by simp [hplace]⟩)
  · intro call t hok hstep
    obtain ⟨more, hnext, hmore⟩ := step_spec s call
    rw [hnext] at hstep
    cases hstep
    have heffect := s.sender.sendTo_effect call
    generalize s.sender.sendTo call = outcome at heffect hok hmore
    cases heffect with
    | rejected | broken => cases hok
    | @sent base current hframe hbase =>
        obtain ⟨-, hstate, -⟩ := hstreams.connect hbase
        exact ⟨current.writer, by simp [hmore, hstate]⟩
  · intro call error herror hrejects
    have heffect := s.sender.sendTo_effect call
    generalize s.sender.sendTo call = outcome at heffect herror ⊢
    cases heffect with
    | rejected => rfl
    | sent => cases herror
    | broken hframe hbase hroom hbroken =>
        cases herror
        exact absurd hrejects hbroken

def peerAddr : SocketAddr := ⟨.v4 (Ipv4Addr.new 192 0 2 1), 443⟩

def brokenOnSecond : List SendCall :=
  [⟨[7, 8], peerAddr, none, 100, ""⟩, ⟨[9], peerAddr, none, 3, "broken pipe"⟩]

def afterBroken : SendTrace := final SendTrace.step ⟨.new, []⟩ brokenOnSecond

theorem streams_intact_brokenOnSecond :
    (∀ i connection, afterBroken.sender.connections[i]? = some connection →
      connection.bytes = feilianFrame.stream (afterBroken.packetsOn i) ∨
        ∃ tail, connection.bytes =
          feilianFrame.stream (afterBroken.packetsOn i) ++ tail ∧
          Truncated tail ∧ ∀ later t, exec SendTrace.step afterBroken later =
            some t →
            t.sender.connections[i]? = some connection) ∧
    (∀ sent ∈ afterBroken.sent, ∃ i connection, sent.connection = some i ∧
      sent.payload ∈ afterBroken.packetsOn i ∧
      afterBroken.sender.connections[i]? = some connection ∧
      connection.destination = sent.destination) ∧
    (∀ call t, (afterBroken.sender.sendTo call).2 = .ok () →
      afterBroken.step call = some t →
      ∃ i, t.sent = afterBroken.sent ++
        [⟨some i, call.destination, call.payload⟩]) ∧
    ∀ call error, (afterBroken.sender.sendTo call).2 = .error error →
      FeilianTcpSend.Rejects error →
        (afterBroken.sender.sendTo call).1 = afterBroken.sender :=
  streams_intact ⟨⟨.new, []⟩, brokenOnSecond, rfl,
    exec_final (by decide +kernel)⟩

/-! ## What the other side reads -/

theorem readFeilianTcpFrames_longest (source : SocketAddr) (sent : Nat)
    (reader : List ByteString) :
    ∃ payloads rest, readFeilianTcpFrames (fun _ => true) source sent reader =
        payloads.map (·, source) ∧
      feilianFrame.Longest reader.flatten payloads rest := by
  fun_induction readFeilianTcpFrames (fun _ => true) source sent reader with
  | case1 sent reader hread =>
      exact ⟨[], reader.flatten, rfl, .nil (FrameFormat.read_none hread)⟩
  | case2 sent reader payload reader' hread _ ih =>
      obtain ⟨payloads, rest, hdelivered, hlongest⟩ := ih
      obtain ⟨hframe, hsplit⟩ := FrameFormat.read_some hread
      rw [hdelivered, hsplit]
      exact ⟨payload :: payloads, rest, rfl, hlongest.cons hframe⟩
  | case3 sent reader payload reader' hread hclosed => exact absurd rfl hclosed

theorem readFeilianTcpFrames_stream {packets reader : List ByteString}
    {tail : ByteString} (source : SocketAddr)
    (hframes : ∀ packet ∈ packets, feilianFrame.Frameable packet)
    (hstops : ¬ feilianFrame.Starts tail)
    (hsplit : reader.flatten = feilianFrame.stream packets ++ tail) :
    readFeilianTcpFrames (fun _ => true) source 0 reader =
      packets.map (·, source) := by
  obtain ⟨payloads, rest, hdelivered, hlongest⟩ :=
    readFeilianTcpFrames_longest source 0 reader
  rw [hdelivered, (hlongest.unique ⟨hsplit, hframes, hstops⟩).1]

/--
However the bytes of a connection are cut into reads, the frames delivered are
the packets accepted on it; and of any byte stream they are the longest prefix
of frames.
-/
theorem frames_read_back (h : Reachable SendTrace.step Initial s) :
    (∀ i connection reader source, s.sender.connections[i]? = some connection →
      reader.flatten = connection.bytes →
        readFeilianTcpFrames (fun _ => true) source 0 reader =
          (s.packetsOn i).map (·, source)) ∧
    (∀ packets reader source,
      (∀ packet ∈ packets, feilianFrame.Frameable packet) →
      reader.flatten = feilianFrame.stream packets →
        readFeilianTcpFrames (fun _ => true) source 0 reader =
          packets.map (·, source)) ∧
    ∀ reader source, ∃ payloads rest,
      readFeilianTcpFrames (fun _ => true) source 0 reader =
        payloads.map (·, source) ∧
        feilianFrame.Longest reader.flatten payloads rest := by
  have hstreams := Streams.of_reachable h
  refine ⟨?_, ?_, fun reader source =>
    readFeilianTcpFrames_longest source 0 reader⟩
  · intro i connection reader source hi hbytes
    have hframes : ∀ packet ∈ s.packetsOn i, feilianFrame.Frameable packet := by
      intro packet hpacket
      obtain ⟨sent, hsent, rfl⟩ := List.mem_map.mp hpacket
      exact hstreams.frameable sent (List.mem_filter.mp hsent).1
    rcases hstreams.streams i connection hi with hwhole | ⟨tail, htail, hcut, -⟩
    · exact readFeilianTcpFrames_stream source hframes
        FrameFormat.not_starts_nil (by rw [hbytes, hwhole, List.append_nil])
    · obtain ⟨payload, hframe, hprefix, -, hproper⟩ := hcut
      exact readFeilianTcpFrames_stream source hframes
        (FrameFormat.not_starts_of_proper hframe hprefix hproper)
        (hbytes.trans htail)
  · intro packets reader source hframes hsplit
    exact readFeilianTcpFrames_stream source hframes FrameFormat.not_starts_nil
      (by rw [hsplit, List.append_nil])

theorem frames_read_back_brokenOnSecond :
    readFeilianTcpFrames (fun _ => true) peerAddr 0 [[2, 0], [0, 0, 7],
      [8, 1, 0, 0]] =
      [([7, 8], peerAddr)] :=
  (frames_read_back ⟨⟨.new, []⟩, brokenOnSecond, rfl,
    exec_final (by decide +kernel)⟩).1 0
    ⟨peerAddr, [2, 0, 0, 0, 7, 8, 1, 0, 0]⟩ _ _ (by decide +kernel) rfl

end SendTrace

end Rustylink.Tunnel
