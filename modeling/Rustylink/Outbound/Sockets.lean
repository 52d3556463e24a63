import Rustylink.Foundation.Fallible
import Rustylink.Outbound.Dialer

/-!
# The sockets of the dialer

Every function of the dialer creates a socket, sets it up call by call and
gives it to its caller, or fails at one of the calls and drops it.  The system
may refuse any call; what it answers is an input that may depend on everything
before.
-/

namespace Rustylink.Outbound.Sockets

open Rustylink.Foundation Rustylink.Outbound

inductive Platform where
  | linux
  | macos
  | windows
  | other
  deriving DecidableEq, Repr

inductive IoErrorKind where
  | addrInUse
  | permissionDenied
  | invalidInput
  | other
  deriving DecidableEq, Repr

structure IoError where
  kind : IoErrorKind
  message : String
  deriving DecidableEq, Repr

inductive DialError where
  | socketCreate (source : IoError)
  | interfaceBind (interface : String) (source : IoError)
  | socketBind (address : SocketAddr) (source : IoError)
  | connectTimeout (destination : SocketAddr) (timeout : Nat)
  | connect (destination : SocketAddr) (source : IoError)
  | setOption (source : IoError)
  | unsupported (interface : String)
  deriving DecidableEq, Repr

inductive SocketFamily where
  | v4
  | v6
  deriving DecidableEq, Repr

def SocketFamily.fromAddr (addr : SocketAddr) : SocketFamily :=
  if addr.ip.isV4 then .v4 else .v6

inductive SocketType where
  | stream
  | dgram
  deriving DecidableEq, Repr

/-! ## Sockets and calls -/

structure SocketState where
  family : SocketFamily
  type : SocketType
  nonblocking : Bool
  reuseAddress : Bool
  nodelay : Bool
  device : Option Nat
  mark : Option Nat
  bound : Option SocketAddr
  closed : Bool
  deriving DecidableEq, Repr

def SocketState.new (family : SocketFamily) (type : SocketType) : SocketState :=
  ⟨family, type, false, false, false, none, none, none, false⟩

inductive Call where
  | setNonblocking
  | setReuseAddress
  | setTcpNodelay
  /--
  `bind_device_by_index_v4` and `_v6`, or the unicast interface option on
  Windows.
  -/
  | bindDevice (family : SocketFamily) (index : Nat)
  | setMark (mark : Nat)
  | bind (address : SocketAddr)
  | localAddr
  /-- `from_std`, which registers the socket with the reactor. -/
  | register
  | connect (destination : SocketAddr)
  | sendTo (destination : SocketAddr)
  deriving DecidableEq, Repr

def Call.effect (call : Call) (socket : SocketState) : SocketState :=
  match call with
  | .setNonblocking => { socket with nonblocking := true }
  | .setReuseAddress => { socket with reuseAddress := true }
  | .setTcpNodelay => { socket with nodelay := true }
  | .bindDevice _ index => { socket with device := some index }
  | .setMark mark => { socket with mark := some mark }
  | .bind address => { socket with bound := some address }
  | .localAddr | .register | .connect _ | .sendTo _ => socket

structure Used where
  call : Call
  socket : SocketState
  deriving DecidableEq, Repr

/-- Every socket ever created, in this order, and every call made on one. -/
structure SocketTrace where
  table : List SocketState
  calls : List Used
  deriving DecidableEq, Repr

structure SocketOs where
  platform : Platform
  create : SocketTrace → SocketFamily → SocketType → Option IoError
  refuse : SocketTrace → Nat → Call → Option IoError
  localPort : SocketTrace → Nat → Nat
  timesOut : SocketTrace → Nat → Bool

abbrev SocketBody := EStateM DialError SocketTrace

section Calls

variable (os : SocketOs)

def perform (socket : Nat) (call : Call) (wrap : IoError → DialError) :
    SocketBody Unit :=
  fun s =>
    match s.table[socket]? with
    | none => .ok () s
    | some state =>
        let calls := s.calls ++ [⟨call, state⟩]
        match os.refuse s socket call with
        | some error => .error (wrap error) { s with calls := calls }
        | none =>
            .ok ()
              { table := s.table.set socket (call.effect state), calls := calls }

def create (family : SocketFamily) (type : SocketType) :
    SocketBody Nat := fun s =>
  match os.create s family type with
  | some error => .error (.socketCreate error) s
  | none => .ok s.table.length { s with table := s.table ++ [.new family type] }

def SocketTrace.close (s : SocketTrace) (socket : Nat) : SocketTrace :=
  match s.table[socket]? with
  | none => s
  | some state =>
      { s with table := s.table.set socket { state with closed := true } }

/-- A body that owns the socket drops it when it fails. -/
def owning {α : Type} (socket : Nat) (body : SocketBody α) :
    SocketBody α := fun s =>
  match body s with
  | .ok a s => .ok a s
  | .error e s => .error e (s.close socket)

def onlyIf (condition : Bool) (body : SocketBody Unit) : SocketBody Unit :=
  if condition then body else pure ()

/-! ## The dialer -/

def bypassFwmark : Nat := 0x162E

def bindMaxRetries : Nat := 10

structure DialerOptions where
  connectTimeout : Nat
  tcpNodelay : Bool
  deriving DecidableEq, Repr

def newSocket2 (family : SocketFamily) (type : SocketType) :
    SocketBody Nat := do
  let socket ← create os family type
  owning socket (perform os socket .setNonblocking .setOption)
  return socket

/--
Linux and macOS refuse an interface without an index; Windows has no such
check.
-/
def bindSocketToInterfaceInner (socket : Nat) (family : SocketFamily)
    (interface : OutboundInterface) : SocketBody Unit := do
  match os.platform with
  | .linux =>
      if interface.index = 0 then
        throw (.interfaceBind interface.name
          ⟨.invalidInput, s!"interface `{interface.name}` has no OS index"⟩)
      perform os socket (.bindDevice family interface.index)
        (.interfaceBind interface.name)
      perform os socket (.setMark bypassFwmark) .setOption
  | .macos =>
      if interface.index = 0 then
        throw (.interfaceBind interface.name
          ⟨.invalidInput, s!"interface `{interface.name}` has no OS index"⟩)
      perform os socket (.bindDevice family interface.index)
        (.interfaceBind interface.name)
  | .windows =>
      perform os socket (.bindDevice family interface.index)
        (.interfaceBind interface.name)
  | .other => throw (.unsupported interface.name)

def bindToInterface (socket : Nat) (family : SocketFamily) :
    Option OutboundInterface → SocketBody Unit
  | none => return
  | some interface => bindSocketToInterfaceInner os socket family interface

def connect (socket : Nat) (destination : SocketAddr) (timeout : Nat) :
    SocketBody Unit := do
  perform os socket (.connect destination) (.connect destination)
  let s ← get
  if os.timesOut s socket then throw (.connectTimeout destination timeout)

variable (dialer : Dialer) (options : DialerOptions)

def connectTcp (destination : SocketAddr) : SocketBody Nat := do
  let family := SocketFamily.fromAddr destination
  let socket ← newSocket2 os family .stream
  owning socket do
    onlyIf (shouldBind destination.ip)
      (bindToInterface os socket family dialer.interface)
    onlyIf options.tcpNodelay (perform os socket .setTcpNodelay .setOption)
    connect os socket destination options.connectTimeout
  return socket

def bindDatagram (address : SocketAddr) (pin : Bool) : SocketBody Nat := do
  let family := SocketFamily.fromAddr address
  let socket ← newSocket2 os family .dgram
  owning socket do
    perform os socket .setReuseAddress .setOption
    onlyIf pin (bindToInterface os socket family dialer.interface)
    perform os socket (.bind address) (.socketBind address)
    perform os socket .register .socketCreate
  return socket

def bindUdp (address : SocketAddr) : SocketBody Nat :=
  bindDatagram os dialer address true

def bindUdpTo (server : SocketAddr) : SocketBody Nat :=
  bindDatagram os dialer (unspecifiedFor server) (shouldBind server.ip)

def isBindRetry (platform : Platform) : DialError → Bool
  | .socketBind _ source =>
      source.kind = .addrInUse ||
        (platform = .windows && source.kind = .permissionDenied)
  | _ => false

def bindFirst (addrV4 : BitVec 32) (port : Nat) : SocketBody (Nat × Nat) := do
  let udpV4 ← bindUdp os dialer ⟨.v4 addrV4, port⟩
  owning udpV4 (perform os udpV4 .localAddr .socketCreate)
  let s ← get
  return (udpV4, os.localPort s udpV4)

def bindPairOnce (addrV4 : BitVec 32) (addrV6 : BitVec 128) (port : Nat) :
    SocketBody (Except DialError (Nat × Nat)) := do
  let (udpV4, boundPort) ← bindFirst os dialer addrV4 port
  fun s =>
    match bindUdp os dialer ⟨.v6 addrV6, boundPort⟩ s with
    | .ok udpV6 s => .ok (.ok (udpV4, udpV6)) s
    | .error error s => .ok (.error error) (s.close udpV4)

def bindPairLoop (addrV4 : BitVec 32) (addrV6 : BitVec 128) (port : Nat) :
    Nat → SocketBody (Nat × Nat)
  | 0 => do
      match ← bindPairOnce os dialer addrV4 addrV6 port with
      | .ok pair => return pair
      | .error error => throw error
  | left + 1 => do
      match ← bindPairOnce os dialer addrV4 addrV6 port with
      | .ok pair => return pair
      | .error error =>
          if port = 0 ∧ isBindRetry os.platform error then
            bindPairLoop addrV4 addrV6 port left
          else throw error

def bindUdpPair (addrV4 : BitVec 32) (addrV6 : BitVec 128) (port : Nat) :
    SocketBody (Nat × Nat) :=
  bindPairLoop os dialer addrV4 addrV6 port bindMaxRetries

end Calls

/-! ## What becomes of one socket -/

def Pinned (platform : Platform) (dialer : Dialer)
    (socket : SocketState) : Prop :=
  ∀ interface, dialer.interface = some interface →
    socket.device = some interface.index ∧
      (platform = .linux → socket.mark = some bypassFwmark)

/--
A call on an open socket; what leaves the host leaves on one that is pinned.
-/
structure Careful (platform : Platform) (dialer : Dialer)
    (used : Used) : Prop where
  notClosed : used.socket.closed = false
  nonblocking : used.call ≠ .setNonblocking → used.socket.nonblocking = true
  reuse : ∀ address, used.call = .bind address → used.socket.reuseAddress = true
  pinned : ∀ destination, used.call = .connect destination ∨
    used.call = .sendTo destination →
    shouldBind destination.ip = true → Pinned platform dialer used.socket

structure Usable (platform : Platform) (dialer : Dialer) (pin : Bool)
    (socket : SocketState) : Prop where
  notClosed : socket.closed = false
  nonblocking : socket.nonblocking = true
  pinned : pin = true → Pinned platform dialer socket

structure Grown (platform : Platform) (dialer : Dialer) (s₀ : SocketTrace)
    (new : List SocketState) (s : SocketTrace) : Prop where
  table : s.table = s₀.table ++ new
  calls : ∃ calls, s.calls = s₀.calls ++ calls ∧
    ∀ used ∈ calls, Careful platform dialer used

def One (platform : Platform) (dialer : Dialer) (s₀ : SocketTrace)
    (R : SocketState → Prop) (s : SocketTrace) : Prop :=
  ∃ socket, Grown platform dialer s₀ [socket] s ∧ R socket

/--
Of the sockets created since `s₀` exactly these are open, and they are usable.
-/
def Opened (platform : Platform) (dialer : Dialer)
    (s₀ : SocketTrace) (pin : Bool) (held : List Nat)
    (s : SocketTrace) : Prop :=
  ∃ new, Grown platform dialer s₀ new s ∧
    (∀ i socket, new[i]? = some socket → socket.closed = true ∨
      s₀.table.length + i ∈ held) ∧
    ∀ id ∈ held, ∃ i socket, id = s₀.table.length + i ∧ new[i]? = some socket ∧
      Usable platform dialer pin socket

variable {os : SocketOs} {dialer : Dialer} {options : DialerOptions}
  {s₀ s₁ s : SocketTrace}
  {R R' : SocketState → Prop} {new later : List SocketState} {pin : Bool}

theorem Grown.refl (s : SocketTrace) : Grown os.platform dialer s [] s :=
  ⟨(List.append_nil _).symm, [], (List.append_nil _).symm, by simp⟩

theorem Grown.trans (h : Grown os.platform dialer s₀ new s₁)
    (h' : Grown os.platform dialer s₁ later s) :
    Grown os.platform dialer s₀ (new ++ later) s := by
  obtain ⟨first, hfirst, hcareful⟩ := h.calls
  obtain ⟨second, hsecond, hcareful'⟩ := h'.calls
  refine ⟨by rw [h'.table, h.table, List.append_assoc], first ++ second, ?_, ?_⟩
  · rw [hsecond, hfirst, List.append_assoc]
  · intro used hused
    rcases List.mem_append.mp hused with hused | hused
    · exact hcareful used hused
    · exact hcareful' used hused

theorem One.weaken {platform : Platform} (h : One platform dialer s₀ R s)
    (hR : ∀ socket, R socket → R' socket) : One platform dialer s₀ R' s := by
  obtain ⟨socket, hgrown, hsocket⟩ := h
  exact ⟨socket, hgrown, hR socket hsocket⟩

theorem Grown.get_last {socket : SocketState}
    (h : Grown os.platform dialer s₀ [socket] s) :
    s.table[s₀.table.length]? = some socket := by
  rw [h.table, List.getElem?_append_right (Nat.le_refl _), Nat.sub_self]
  rfl

theorem Grown.set_last {socket : SocketState}
    (h : Grown os.platform dialer s₀ [socket] s) (changed : SocketState) :
    s.table.set s₀.table.length changed = s₀.table ++ [changed] := by
  rw [h.table, List.set_append_right _ _ (Nat.le_refl _), Nat.sub_self]
  rfl

theorem perform_one {call : Call} {wrap : IoError → DialError}
    (hcareful : ∀ socket, R socket → Careful os.platform dialer ⟨call, socket⟩)
    (heffect : ∀ socket, R socket → R' (call.effect socket)) :
    Spec (One os.platform dialer s₀ R) (perform os s₀.table.length call wrap)
      (fun _ => One os.platform dialer s₀ R')
      (One os.platform dialer s₀ fun _ => True) := by
  rintro s ⟨socket, hgrown, hR⟩
  obtain ⟨calls, hcalls, hbefore⟩ := hgrown.calls
  have hextended : ∃ later, s.calls ++ [⟨call, socket⟩] = s₀.calls ++ later ∧
      ∀ used ∈ later, Careful os.platform dialer used := by
    refine ⟨calls ++
      [⟨call, socket⟩], by rw [hcalls, List.append_assoc], fun used hused => ?_⟩
    rcases List.mem_append.mp hused with hused | hused
    · exact hbefore used hused
    · rw [List.mem_singleton.mp hused]
      exact hcareful socket hR
  simp only [perform, hgrown.get_last]
  cases os.refuse s s₀.table.length call with
  | some error => exact ⟨socket, ⟨hgrown.table, hextended⟩, trivial⟩
  | none => exact ⟨call.effect socket, ⟨hgrown.set_last _, hextended⟩,
        heffect socket hR⟩

theorem closed_grown (h : One os.platform dialer s₀ R s) :
    Opened os.platform dialer s₀ pin [] (s.close s₀.table.length) := by
  obtain ⟨socket, hgrown, -⟩ := h
  refine ⟨[{ socket with closed := true }], ⟨?_, ?_⟩, ?_, by simp⟩
  · rw [SocketTrace.close, hgrown.get_last]
    exact hgrown.set_last _
  · rw [SocketTrace.close, hgrown.get_last]
    exact hgrown.calls
  · intro i closed hi
    cases i with
    | zero =>
        obtain rfl := Option.some.inj hi
        exact .inl rfl
    | succ i => simp at hi

theorem owning_one {body : SocketBody Unit}
    (h : Spec (One os.platform dialer s₀ R) body
      (fun _ => One os.platform dialer s₀ R')
      (One os.platform dialer s₀ fun _ => True)) :
    Spec (One os.platform dialer s₀ R) (owning s₀.table.length body)
      (fun _ => One os.platform dialer s₀ R')
      (Opened os.platform dialer s₀ pin []) := by
  intro s hs
  have hbody := h s hs
  unfold owning
  cases hrun : body s with
  | ok a t =>
      rw [hrun] at hbody
      exact hbody
  | error e t =>
      rw [hrun] at hbody
      exact closed_grown hbody

theorem One.opened
    (h : One os.platform dialer s₀ (Usable os.platform dialer pin) s) :
    Opened os.platform dialer s₀ pin [s₀.table.length] s := by
  obtain ⟨socket, hgrown, husable⟩ := h
  refine ⟨[socket], hgrown, ?_, ?_⟩
  · intro i other hi
    cases i with
    | zero => exact .inr (List.mem_singleton.mpr rfl)
    | succ i => simp at hi
  · intro id hid
    exact ⟨0, socket, List.mem_singleton.mp hid, rfl, husable⟩

def NextOne (platform : Platform) (dialer : Dialer) (s₀ : SocketTrace)
    (R : SocketState → Prop) (socket : Nat) (s : SocketTrace) : Prop :=
  socket = s₀.table.length ∧ One platform dialer s₀ R s

structure SetUp (reuse : Bool) (socket : SocketState) : Prop where
  notClosed : socket.closed = false
  nonblocking : socket.nonblocking = true
  reuse : reuse = true → socket.reuseAddress = true

def Fresh (reuse : Bool) (socket : SocketState) : Prop :=
  SetUp reuse socket ∧ socket.device = none

def AsPlanned (platform : Platform) (dialer : Dialer) (pin : Bool)
    (socket : SocketState) : Prop :=
  platform ≠ .windows →
    (if pin then bindSocketToInterface dialer.interface else .ok ⟨none⟩) =
      .ok ⟨socket.device⟩

structure Ready (platform : Platform) (dialer : Dialer) (reuse pin : Bool)
    (socket : SocketState) : Prop where
  setUp : SetUp reuse socket
  pinned : pin = true → Pinned platform dialer socket
  planned : AsPlanned platform dialer pin socket

def Call.isLocal : Call → Bool
  | .bind _ | .connect _ | .sendTo _ => false
  | _ => true

theorem SetUp.careful {reuse : Bool} {socket : SocketState} {call : Call}
    (h : SetUp reuse socket) (hlocal : call.isLocal = true) :
    Careful os.platform dialer ⟨call, socket⟩ where
  notClosed := h.notClosed
  nonblocking := fun _ => h.nonblocking
  reuse := fun address hcall => by
    obtain rfl : call = .bind address := hcall
    cases hlocal
  pinned := fun destination hcall => by
    rcases hcall with hcall | hcall
    · obtain rfl : call = .connect destination := hcall
      cases hlocal
    · obtain rfl : call = .sendTo destination := hcall
      cases hlocal

theorem SetUp.effect {reuse : Bool} {socket : SocketState}
    (h : SetUp reuse socket) (call : Call) :
    SetUp reuse (call.effect socket) := by
  obtain ⟨hopen, hblock, hreuse⟩ := h
  cases call with
  | setNonblocking => exact ⟨hopen, rfl, hreuse⟩
  | setReuseAddress => exact ⟨hopen, hblock, fun _ => rfl⟩
  | setTcpNodelay | bindDevice | setMark | bind | localAddr | register | connect
  | sendTo =>
      exact ⟨hopen, hblock, hreuse⟩

/-! ## The functions of the dialer -/

theorem Opened.none (s : SocketTrace) : Opened os.platform dialer s pin [] s :=
  ⟨[], .refl s, by simp, by simp⟩

theorem owning_next {body : SocketBody Unit}
    (h : Spec (One os.platform dialer s₀ R) body
      (fun _ => One os.platform dialer s₀ R')
      (One os.platform dialer s₀ fun _ => True)) :
    Spec (One os.platform dialer s₀ R)
      (owning s₀.table.length body >>= fun _ => pure s₀.table.length)
      (NextOne os.platform dialer s₀ R')
      (Opened os.platform dialer s₀ pin []) :=
  (owning_one h).bind fun _ => .pure fun _ ht => ⟨rfl, ht⟩

theorem newSocket2_spec (family : SocketFamily) (type : SocketType) :
    Spec (· = s₀) (newSocket2 os family type)
      (NextOne os.platform dialer s₀ (Fresh false))
      (Opened os.platform dialer s₀ pin []) := by
  have hcreate : Spec (· = s₀) (create os family type)
      (NextOne os.platform dialer s₀ fun socket => socket.closed = false ∧
        socket.device = none)
      (Opened os.platform dialer s₀ pin []) := by
    rintro s rfl
    unfold create
    cases os.create s family type with
    | some error => exact .none s
    | none =>
        exact ⟨rfl, .new family type,
          ⟨rfl, [], (List.append_nil _).symm, by simp⟩, rfl, rfl⟩
  have hblock : Spec (One os.platform dialer s₀ fun socket =>
        socket.closed = false ∧ socket.device = none)
      (perform os s₀.table.length .setNonblocking .setOption)
      (fun _ => One os.platform dialer s₀ (Fresh false))
      (One os.platform dialer s₀ fun _ => True) :=
    perform_one
      (fun socket h =>
        ⟨h.1, fun hcall => (hcall rfl).elim, nofun, fun _ hcall => by
          rcases hcall with hcall | hcall <;> cases hcall⟩)
      fun socket h => ⟨⟨h.1, rfl, nofun⟩, h.2⟩
  refine hcreate.bind fun socket => ?_
  rintro s ⟨rfl, hs⟩
  exact owning_next hblock s hs

theorem setUp_spec {family : SocketFamily} {type : SocketType}
    {body : Nat → SocketBody Unit}
    (h : Spec (One os.platform dialer s₀ (Fresh false)) (body s₀.table.length)
      (fun _ => One os.platform dialer s₀ R)
      (One os.platform dialer s₀ fun _ => True)) :
    Spec (· = s₀) (do
      let socket ← newSocket2 os family type
      owning socket (body socket)
      return socket)
      (NextOne os.platform dialer s₀ R)
      (Opened os.platform dialer s₀ pin []) := by
  refine (newSocket2_spec family type).bind fun socket => ?_
  rintro s ⟨rfl, hs⟩
  exact owning_next h s hs

section Binding

variable {reuse : Bool} {family : SocketFamily} {interface : OutboundInterface}

theorem bindDevice_one :
    Spec (One os.platform dialer s₀ (Fresh reuse))
      (perform os s₀.table.length (.bindDevice family interface.index)
        (.interfaceBind interface.name))
      (fun _ => One os.platform dialer s₀ fun socket =>
        SetUp reuse socket ∧ socket.device = some interface.index)
      (One os.platform dialer s₀ fun _ => True) :=
  perform_one (fun _ h => h.1.careful rfl) fun _ h => ⟨h.1.effect _, rfl⟩

theorem setMark_one :
    Spec (One os.platform dialer s₀ fun socket =>
        SetUp reuse socket ∧ socket.device = some interface.index)
      (perform os s₀.table.length (.setMark bypassFwmark) .setOption)
      (fun _ => One os.platform dialer s₀ fun socket =>
        (SetUp reuse socket ∧ socket.device = some interface.index) ∧
          socket.mark = some bypassFwmark)
      (One os.platform dialer s₀ fun _ => True) :=
  perform_one (fun _ h => h.1.careful rfl) fun _ h =>
    ⟨⟨h.1.effect _, h.2⟩, rfl⟩

theorem SetUp.ready {platform : Platform} {socket : SocketState}
    (h : SetUp reuse socket) (hinterface : dialer.interface = some interface)
    (hdevice : socket.device = some interface.index)
    (hmark : platform = .linux → socket.mark = some bypassFwmark)
    (hindex : platform ≠ .windows → interface.index ≠ 0) :
    Ready platform dialer reuse true socket := by
  refine ⟨h, fun _ other hother => ?_, fun hplatform => ?_⟩
  · rw [hinterface] at hother
    obtain rfl := Option.some.inj hother
    exact ⟨hdevice, hmark⟩
  · rw [if_pos rfl, hinterface, bindSocketToInterface]
    rw [if_neg (hindex hplatform), hdevice]

theorem throw_one {platform : Platform} {R R' : SocketState → Prop}
    (error : DialError) :
    Spec (One platform dialer s₀ R) (throw error : SocketBody Unit)
      (fun _ => One platform dialer s₀ R')
      (One platform dialer s₀ fun _ => True) :=
  .throw fun _ hs => hs.weaken fun _ _ => trivial

theorem bindInner_one (hinterface : dialer.interface = some interface) :
    Spec (One os.platform dialer s₀ (Fresh reuse))
      (bindSocketToInterfaceInner os s₀.table.length family interface)
      (fun _ => One os.platform dialer s₀
        (Ready os.platform dialer reuse true))
      (One os.platform dialer s₀ fun _ => True) := by
  unfold bindSocketToInterfaceInner
  cases hplatform : os.platform with
  | linux =>
      by_cases hzero : interface.index = 0
      · simp only [hzero, ↓reduceIte]
        exact throw_one _
      · simp only [hzero, ↓reduceIte]
        rw [← hplatform]
        exact bindDevice_one.bind fun _ => setMark_one.weaken
          (fun _ h => h)
          (fun _ _ h => h.weaken fun socket hs =>
            hs.1.1.ready hinterface hs.1.2 (fun _ => hs.2) fun _ => hzero)
          fun _ h => h
  | macos =>
      by_cases hzero : interface.index = 0
      · simp only [hzero, ↓reduceIte]
        exact throw_one _
      · simp only [hzero, ↓reduceIte]
        rw [← hplatform]
        exact bindDevice_one.weaken (fun _ h => h)
          (fun _ _ h => h.weaken fun socket hs => hs.1.ready hinterface hs.2
            (fun hlinux => by simp [hplatform] at hlinux) fun _ => hzero)
          fun _ h => h
  | windows =>
      dsimp only
      rw [← hplatform]
      exact bindDevice_one.weaken (fun _ h => h)
        (fun _ _ h => h.weaken fun socket hs => hs.1.ready hinterface hs.2
          (fun hlinux => by simp [hplatform] at hlinux)
          fun hnot => (hnot hplatform).elim)
        fun _ h => h
  | other => exact throw_one _

end Binding

theorem pinIf_one {reuse : Bool} (family : SocketFamily) (pin : Bool) :
    Spec (One os.platform dialer s₀ (Fresh reuse))
      (onlyIf pin (bindToInterface os s₀.table.length family dialer.interface))
      (fun _ => One os.platform dialer s₀ (Ready os.platform dialer reuse pin))
      (One os.platform dialer s₀ fun _ => True) := by
  cases pin with
  | false =>
      exact .pure fun s hs => hs.weaken fun _ h =>
        ⟨h.1, nofun, fun _ => by rw [h.2]; rfl⟩
  | true =>
      cases hinterface : dialer.interface with
      | none =>
          refine .pure fun s hs => hs.weaken fun socket h =>
            ⟨h.1, fun _ interface hsome => ?_,
            fun _ => by rw [hinterface, h.2]; rfl⟩
          rw [hinterface] at hsome
          contradiction
      | some interface => exact bindInner_one hinterface

theorem perform_ready {reuse : Bool} {call : Call} {wrap : IoError → DialError}
    (hcareful : ∀ socket, Ready os.platform dialer reuse pin socket →
      Careful os.platform dialer ⟨call, socket⟩)
    (hkeeps : ∀ socket : SocketState, (call.effect socket).device =
      socket.device ∧
      (call.effect socket).mark = socket.mark) :
    Spec (One os.platform dialer s₀ (Ready os.platform dialer reuse pin))
      (perform os s₀.table.length call wrap)
      (fun _ => One os.platform dialer s₀ (Ready os.platform dialer reuse pin))
      (One os.platform dialer s₀ fun _ => True) := by
  refine perform_one hcareful fun socket h =>
    ⟨h.setUp.effect call, fun hpin interface hsome => ?_, fun hplatform => ?_⟩
  · rw [(hkeeps socket).1, (hkeeps socket).2]
    exact h.pinned hpin interface hsome
  · rw [(hkeeps socket).1]
    exact h.planned hplatform

theorem NextOne.opened {socket : Nat} {reuse : Bool}
    (h : NextOne os.platform dialer s₀ (Ready os.platform dialer reuse pin)
      socket s) :
    Opened os.platform dialer s₀ pin [socket] s := by
  obtain ⟨rfl, hone⟩ := h
  exact (hone.weaken fun _ h =>
    (⟨h.setUp.notClosed, h.setUp.nonblocking, h.pinned⟩ :
    Usable os.platform dialer pin _)).opened

theorem connectTcp_spec (destination : SocketAddr) :
    Spec (· = s₀) (connectTcp os dialer options destination)
      (fun socket => Opened os.platform dialer s₀ (shouldBind destination.ip)
        [socket])
      (Opened os.platform dialer s₀ (shouldBind destination.ip) []) := by
  have hpin : Spec (One os.platform dialer s₀ (Fresh false))
      (onlyIf (shouldBind destination.ip)
        (bindToInterface os s₀.table.length (.fromAddr destination)
          dialer.interface))
      (fun _ => One os.platform dialer s₀
        (Ready os.platform dialer false (shouldBind destination.ip)))
      (One os.platform dialer s₀ fun _ => True) := pinIf_one _ _
  have hnodelay : Spec (One os.platform dialer s₀
        (Ready os.platform dialer false (shouldBind destination.ip)))
      (onlyIf options.tcpNodelay
        (perform os s₀.table.length .setTcpNodelay .setOption))
      (fun _ => One os.platform dialer s₀
        (Ready os.platform dialer false (shouldBind destination.ip)))
      (One os.platform dialer s₀ fun _ => True) := by
    unfold onlyIf
    split
    · exact perform_ready (fun socket h => h.setUp.careful rfl) fun _ =>
        ⟨rfl, rfl⟩
    · exact .pure fun s hs => hs
  have hperform : Spec (One os.platform dialer s₀
        (Ready os.platform dialer false (shouldBind destination.ip)))
      (perform os s₀.table.length (.connect destination) (.connect destination))
      (fun _ => One os.platform dialer s₀
        (Ready os.platform dialer false (shouldBind destination.ip)))
      (One os.platform dialer s₀ fun _ => True) := by
    refine perform_ready (fun socket h =>
      ⟨h.setUp.notClosed, fun _ => h.setUp.nonblocking, nofun,
      ?_⟩) fun _ => ⟨rfl, rfl⟩
    rintro other (hother | hother)
    · obtain rfl := Call.connect.inj hother
      exact h.pinned
    · cases hother
  have hconnect : Spec (One os.platform dialer s₀
        (Ready os.platform dialer false (shouldBind destination.ip)))
      (connect os s₀.table.length destination options.connectTimeout)
      (fun _ => One os.platform dialer s₀
        (Ready os.platform dialer false (shouldBind destination.ip)))
      (One os.platform dialer s₀ fun _ => True) := by
    refine hperform.bind fun _ => ?_
    intro s hs
    show Meets _ _ ((if os.timesOut s s₀.table.length then
      throw (.connectTimeout destination options.connectTimeout) else pure () :
        SocketBody Unit) s)
    split
    · exact hs.weaken fun _ _ => trivial
    · exact hs
  have hsetUp : Spec (· = s₀) (connectTcp os dialer options destination)
      (NextOne os.platform dialer s₀
        (Ready os.platform dialer false (shouldBind destination.ip)))
      (Opened os.platform dialer s₀ (shouldBind destination.ip) []) := by
    unfold connectTcp
    exact setUp_spec (hpin.bind fun _ => hnodelay.bind fun _ => hconnect)
  exact hsetUp.weaken (fun _ h => h) (fun _ _ h => h.opened) fun _ h => h

theorem bindDatagram_next (address : SocketAddr) (pin : Bool) :
    Spec (· = s₀) (bindDatagram os dialer address pin)
      (NextOne os.platform dialer s₀ fun socket =>
        Ready os.platform dialer true pin socket ∧ socket.bound = some address)
      (Opened os.platform dialer s₀ pin []) := by
  have hreuse : Spec (One os.platform dialer s₀ (Fresh false))
      (perform os s₀.table.length .setReuseAddress .setOption)
      (fun _ => One os.platform dialer s₀ (Fresh true))
      (One os.platform dialer s₀ fun _ => True) :=
    perform_one (fun _ h => h.1.careful rfl) fun _ h =>
      ⟨⟨h.1.notClosed, h.1.nonblocking, fun _ => rfl⟩, h.2⟩
  have hbind :
      Spec (One os.platform dialer s₀ (Ready os.platform dialer true pin))
      (perform os s₀.table.length (.bind address) (.socketBind address))
      (fun _ => One os.platform dialer s₀ fun socket =>
        Ready os.platform dialer true pin socket ∧ socket.bound = some address)
      (One os.platform dialer s₀ fun _ => True) := by
    refine perform_one (fun socket h =>
      ⟨h.setUp.notClosed, fun _ => h.setUp.nonblocking,
      fun _ _ => h.setUp.reuse rfl, ?_⟩) fun socket h =>
        ⟨⟨h.setUp.effect _, h.pinned, h.planned⟩, rfl⟩
    rintro other (hother | hother)
    · cases hother
    · cases hother
  have hregister : Spec (One os.platform dialer s₀ fun socket =>
        Ready os.platform dialer true pin socket ∧ socket.bound = some address)
      (perform os s₀.table.length .register .socketCreate)
      (fun _ => One os.platform dialer s₀ fun socket =>
        Ready os.platform dialer true pin socket ∧ socket.bound = some address)
      (One os.platform dialer s₀ fun _ => True) :=
    perform_one (fun _ h => h.1.setUp.careful rfl) fun _ h => h
  unfold bindDatagram
  exact setUp_spec (hreuse.bind fun _ => (pinIf_one _ pin).bind fun _ =>
    hbind.bind fun _ => hregister)

theorem bindDatagram_spec (address : SocketAddr) (pin : Bool) :
    Spec (· = s₀) (bindDatagram os dialer address pin)
      (fun socket => Opened os.platform dialer s₀ pin [socket])
      (Opened os.platform dialer s₀ pin []) :=
  (bindDatagram_next address pin).weaken (fun _ h => h)
    (fun _ _ h => NextOne.opened ⟨h.1, h.2.weaken fun _ hsocket => hsocket.1⟩)
      fun _ h => h

/-! ## Several sockets -/

theorem Opened.trans {held held' : List Nat}
    (h : Opened os.platform dialer s₀ pin held s₁)
    (h' : Opened os.platform dialer s₁ pin held' s) :
    Opened os.platform dialer s₀ pin (held ++ held') s := by
  obtain ⟨new, hgrown, hopen, hheld⟩ := h
  obtain ⟨later, hgrown', hopen', hheld'⟩ := h'
  have hlength : s₁.table.length = s₀.table.length + new.length := by
    rw [hgrown.table, List.length_append]
  refine ⟨new ++ later, hgrown.trans hgrown', fun i socket hi => ?_,
    fun id hid => ?_⟩
  · rcases Nat.lt_or_ge i new.length with hlt | hge
    · rw [List.getElem?_append_left hlt] at hi
      exact (hopen i socket hi).imp_right fun hmem =>
        List.mem_append.mpr (.inl hmem)
    · rw [List.getElem?_append_right hge] at hi
      refine (hopen' _ socket hi).imp_right fun hmem =>
        List.mem_append.mpr (.inr ?_)
      rw [hlength, Nat.add_assoc, Nat.add_sub_cancel' hge] at hmem
      exact hmem
  · rcases List.mem_append.mp hid with hid | hid
    · obtain ⟨i, socket, rfl, hi, husable⟩ := hheld id hid
      have hlt : i < new.length := (List.getElem?_eq_some_iff.mp hi).1
      exact ⟨i, socket, rfl, by rw [List.getElem?_append_left hlt, hi], husable⟩
    · obtain ⟨i, socket, rfl, hi, husable⟩ := hheld' id hid
      refine ⟨new.length + i,
        socket, by rw [hlength, Nat.add_assoc], ?_, husable⟩
      rw [List.getElem?_append_right (Nat.le_add_right _ _),
        Nat.add_sub_cancel_left, hi]

theorem Opened.close {held : List Nat} {id : Nat}
    (h : Opened os.platform dialer s₀ pin held s) (hid : id ∈ held) :
    Opened os.platform dialer s₀ pin (held.filter (· ≠ id)) (s.close id) := by
  obtain ⟨new, hgrown, hopen, hheld⟩ := h
  obtain ⟨i, socket, rfl, hi, husable⟩ := hheld id hid
  have hget : s.table[s₀.table.length + i]? = some socket := by
    rw [hgrown.table, List.getElem?_append_right (Nat.le_add_right _ _),
      Nat.add_sub_cancel_left, hi]
  have hclose : s.close (s₀.table.length + i) =
      { s with table := s₀.table ++
          new.set i { socket with closed := true } } := by
    rw [SocketTrace.close, hget]
    simp only [SocketTrace.mk.injEq, and_true]
    rw [hgrown.table, List.set_append_right _ _ (Nat.le_add_right _ _),
      Nat.add_sub_cancel_left]
  rw [hclose]
  refine ⟨_, ⟨rfl, hgrown.calls⟩, fun j other hj => ?_, fun id hmem => ?_⟩
  · rw [List.getElem?_set] at hj
    split at hj
    · split at hj
      · obtain rfl := Option.some.inj hj
        exact .inl rfl
      · contradiction
    · next hne =>
        refine (hopen j other hj).imp_right fun hmem =>
          List.mem_filter.mpr ⟨hmem, ?_⟩
        simp only [ne_eq, decide_not, Bool.not_eq_true',
          decide_eq_false_iff_not]
        omega
  · obtain ⟨hmem, hne⟩ := List.mem_filter.mp hmem
    obtain ⟨j, other, rfl, hj, hother⟩ := hheld id hmem
    refine ⟨j, other, rfl, ?_, hother⟩
    simp only [ne_eq, decide_not, Bool.not_eq_true',
      decide_eq_false_iff_not] at hne
    rw [List.getElem?_set_ne (by omega), hj]

theorem bindFirst_next (addrV4 : BitVec 32) (port : Nat) :
    Spec (· = s₀) (bindFirst os dialer addrV4 port)
      (fun bound s => bound.2 = os.localPort s bound.1 ∧
        NextOne os.platform dialer s₀ (fun socket =>
          Ready os.platform dialer true true socket ∧
          socket.bound = some ⟨.v4 addrV4, port⟩) bound.1 s)
      (Opened os.platform dialer s₀ true []) := by
  have hlocal : Spec (One os.platform dialer s₀ fun socket =>
        Ready os.platform dialer true true socket ∧
          socket.bound = some ⟨.v4 addrV4, port⟩)
      (perform os s₀.table.length .localAddr .socketCreate)
      (fun _ => One os.platform dialer s₀ fun socket =>
        Ready os.platform dialer true true socket ∧
          socket.bound = some ⟨.v4 addrV4, port⟩)
      (One os.platform dialer s₀ fun _ => True) :=
    perform_one (fun _ h => h.1.setUp.careful rfl) fun _ h => h
  refine (bindDatagram_next ⟨.v4 addrV4, port⟩ true).bind fun udpV4 => ?_
  rintro s ⟨rfl, hs⟩
  refine (owning_one hlocal).bind (fun _ => ?_) s hs
  intro t ht
  exact ⟨rfl, rfl, ht⟩

theorem bindFirst_spec (addrV4 : BitVec 32) (port : Nat) :
    Spec (· = s₀) (bindFirst os dialer addrV4 port)
      (fun bound => Opened os.platform dialer s₀ true [bound.1])
      (Opened os.platform dialer s₀ true []) :=
  (bindFirst_next addrV4 port).weaken (fun _ h => h)
    (fun _ _ h => NextOne.opened ⟨h.2.1, h.2.2.weaken fun _ hsocket =>
      hsocket.1⟩) fun _ h => h

theorem bindPairOnce_spec (addrV4 : BitVec 32) (addrV6 : BitVec 128)
    (port : Nat) :
    Spec (· = s₀) (bindPairOnce os dialer addrV4 addrV6 port)
      (fun result s => match result with
        | .ok (udpV4, udpV6) =>
            Opened os.platform dialer s₀ true [udpV4, udpV6] s
        | .error _ => Opened os.platform dialer s₀ true [] s)
      (Opened os.platform dialer s₀ true []) := by
  refine (bindFirst_spec addrV4 port).bind ?_
  rintro ⟨udpV4, boundPort⟩ s₁ hfirst
  have hsecond :
      Meets _ _ (bindDatagram os dialer ⟨.v6 addrV6, boundPort⟩ true s₁) :=
    bindDatagram_spec ⟨.v6 addrV6, boundPort⟩ true s₁ rfl
  simp only [bindUdp]
  cases hrun : bindDatagram os dialer ⟨.v6 addrV6, boundPort⟩ true s₁ with
  | ok udpV6 s =>
      rw [hrun] at hsecond
      exact hfirst.trans hsecond
  | error error s =>
      rw [hrun] at hsecond
      have hboth : Opened os.platform dialer s₀ true [] (s.close udpV4) := by
        simpa using (hfirst.trans hsecond).close (List.mem_singleton.mpr rfl)
      exact hboth

theorem bindPairLoop_spec (addrV4 : BitVec 32) (addrV6 : BitVec 128)
    (port retries : Nat) :
    Spec (· = s₀) (bindPairLoop os dialer addrV4 addrV6 port retries)
      (fun pair => Opened os.platform dialer s₀ true [pair.1, pair.2])
      (Opened os.platform dialer s₀ true []) := by
  induction retries generalizing s₀ with
  | zero =>
      refine (bindPairOnce_spec addrV4 addrV6 port).bind fun result => ?_
      cases result with
      | ok pair => exact .pure fun s hs => hs
      | error error => exact .throw fun s hs => hs
  | succ retries ih =>
      refine (bindPairOnce_spec addrV4 addrV6 port).bind fun result => ?_
      cases result with
      | ok pair => exact .pure fun s hs => hs
      | error error =>
          intro s hs
          show Meets _ _ ((if port = 0 ∧ isBindRetry os.platform error then
            bindPairLoop os dialer addrV4 addrV6 port retries else throw error)
              s)
          split
          · have hrest : Meets _ _ (bindPairLoop os dialer addrV4 addrV6 port
                retries s) := ih s rfl
            cases hrun :
                bindPairLoop os dialer addrV4 addrV6 port retries s with
            | ok pair t =>
                rw [hrun] at hrest
                exact Opened.trans hs hrest
            | error e t =>
                rw [hrun] at hrest
                exact Opened.trans hs hrest
          · exact hs

end Rustylink.Outbound.Sockets
