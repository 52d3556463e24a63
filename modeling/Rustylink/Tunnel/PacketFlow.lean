import Rustylink.Dns.Forwarder
import Rustylink.Foundation.Dispatch
import Rustylink.Foundation.Transition
import Rustylink.Tunnel.Hijack

/-!
# Packets through the TUN device

WireGuard reads the device through `recv`, which keeps the hijacked queries
back and answers each from a task of its own; WireGuard's packets and the
answers are written to the same device.
-/

namespace Rustylink.Tunnel

open Rustylink.Foundation Rustylink.Dns Rustylink.Outbound

def dnsResponseHopLimit : Nat := 64

inductive IpHeader where
  | ipv4 (source destination : BitVec 32)
  | ipv6 (source destination : BitVec 128)
  deriving DecidableEq, Repr

/-- `PacketBuilder::ipv4` or `PacketBuilder::ipv6`, then `udp`. -/
structure UdpPacketBuilder where
  header : IpHeader
  hopLimit : Nat
  sourcePort : Nat
  destinationPort : Nat
  deriving DecidableEq, Repr

structure PacketCrates where
  /-- `SlicedPacket::from_ip`. -/
  fromIp : Bytes → Option SlicedPacket
  /-- `Packet::try_into_ip`, with the text of its error. -/
  tryIntoIp : Bytes → Except String Unit
  /-- `PacketBuilderStep::write`; `none` for a payload that does not fit. -/
  write : UdpPacketBuilder → Bytes → Option Bytes

inductive TunError where
  | buildResponse
  | addressFamilyMismatch
  | invalidIpPacket (reason : String)
  | recv (reason : String)
  deriving DecidableEq, Repr

def writeUdpPacket (crates : PacketCrates) (builder : UdpPacketBuilder)
    (payload : Bytes) :
    Except TunError Bytes :=
  match crates.write builder payload with
  | some packet => .ok packet
  | none => .error .buildResponse

def DnsWireQuery.responsePacket (crates : PacketCrates) (query : DnsWireQuery)
    (dnsPayload : Bytes) : Except TunError Bytes :=
  match query.source, query.destination with
  | .v4 source, .v4 destination =>
      writeUdpPacket crates ⟨.ipv4 destination source, dnsResponseHopLimit,
        query.destinationPort, query.sourcePort⟩ dnsPayload
  | .v6 source, .v6 destination =>
      writeUdpPacket crates ⟨.ipv6 destination source, dnsResponseHopLimit,
        query.destinationPort, query.sourcePort⟩ dnsPayload
  | _, _ => .error .addressFamilyMismatch

/-! ## The device -/

inductive Written where
  | tunnel (packet : Bytes)
  | answer (packet : Bytes)
  deriving DecidableEq, Repr

def Written.ofTunnel? : Written → Option Bytes
  | .tunnel packet => some packet
  | .answer _ => none

def Written.ofAnswer? : Written → Option Bytes
  | .answer packet => some packet
  | .tunnel _ => none

/--
What `recv` has returned, the hijacked queries, and what was written to the
device.
-/
structure TunFlow where
  received : List (Except TunError Bytes)
  answers : Dispatch DnsWireQuery Bytes
  written : List Written

inductive TunEvent where
  | arrived (packet : Bytes)
  | recvFailed (reason : String)
  | resolved (task : Nat) (exchanges : Nat → Exchange) (finished : List Nat)
  | injected (task : Nat) (delivered : Bool)
  | send (packet : Bytes) (delivered : Bool)

namespace TunFlow

def start : TunFlow := ⟨[], .idle, []⟩

section Step

variable (crates : PacketCrates) (dns : DnsCrates) (tun : VpnTun)

def hijacked (packet : Bytes) : Option DnsWireQuery :=
  (crates.fromIp packet).bind tun.hijacks

def intoIp (packet : Bytes) : Except TunError Bytes :=
  match crates.tryIntoIp packet with
  | .ok _ => .ok packet
  | .error reason => .error (.invalidIpPacket reason)

def answer (exchanges : Nat → Exchange) (finished : List Nat)
    (query : DnsWireQuery) : Option Bytes :=
  tun.resolver.bind fun resolver =>
    (query.responsePacket crates (resolver.resolve dns query.payload
      (resolver.upstream dns query.payload exchanges finished)).1).toOption

def step (s : TunFlow) : TunEvent → Option TunFlow
  | .arrived packet =>
      match hijacked crates tun packet with
      | some query => some { s with answers := s.answers.take query }
      | none => some { s with received := s.received ++ [intoIp crates packet] }
  | .recvFailed reason =>
      some { s with received := s.received ++ [.error (.recv reason)] }
  | .resolved task exchanges finished =>
      (s.answers.finish (answer crates dns tun exchanges finished) task).map
        fun answers => { s with answers := answers }
  | .injected task delivered => do
      let packet ← s.answers.pending task
      let answers ← s.answers.deliver task delivered
      return { s with
        answers := answers
        written := s.written ++ if delivered then [.answer packet] else [] }
  | .send packet delivered =>
      some { s with written := s.written ++
        if delivered then [.tunnel packet] else [] }

end Step

end TunFlow

/-! ## Queries and the packets that answer them -/

def netSlice : IpAddr → IpAddr → Option NetSlice
  | .v4 source, .v4 destination => some (.ipv4 source destination)
  | .v6 source, .v6 destination => some (.ipv6 source destination)
  | _, _ => none

def DnsWireQuery.answerPacket (query : DnsWireQuery) (payload : Bytes) :
    SlicedPacket where
  net := netSlice query.destination query.source
  transport := some (.udp query.destinationPort query.sourcePort payload)

def UdpPacketBuilder.packet (builder : UdpPacketBuilder) (payload : Bytes) :
    SlicedPacket where
  net := some (match builder.header with
    | .ipv4 source destination => .ipv4 source destination
    | .ipv6 source destination => .ipv6 source destination)
  transport := some (.udp builder.sourcePort builder.destinationPort payload)

/-- What the writer writes the parser reads back. -/
def PacketCrates.Lawful (crates : PacketCrates) : Prop :=
  ∀ builder payload packet, crates.write builder payload = some packet →
    crates.fromIp packet = some (builder.packet payload)

theorem fromIpPacket_some {packet : SlicedPacket} {query : DnsWireQuery}
    (h : DnsWireQuery.fromIpPacket packet = some query) :
    packet.net = netSlice query.source query.destination ∧ packet.net ≠ none ∧
      packet.transport = some (.udp query.sourcePort dnsPort query.payload) ∧
      query.destinationPort = dnsPort := by
  obtain ⟨net, transport⟩ := packet
  unfold DnsWireQuery.fromIpPacket at h
  split at h
  · next sourcePort destinationPort payload htransport =>
      simp only [ne_eq, ite_not, Option.ite_none_right_eq_some] at h
      obtain ⟨hport, h⟩ := h
      subst hport
      split at h
      · obtain rfl := Option.some.inj h
        exact ⟨rfl, Option.some_ne_none _, htransport, rfl⟩
      · obtain rfl := Option.some.inj h
        exact ⟨rfl, Option.some_ne_none _, htransport, rfl⟩
      · contradiction
  · contradiction

variable {crates : PacketCrates} {dns : DnsCrates} {tun : VpnTun}
  {query : DnsWireQuery}

theorem hijacked_some {packet : Bytes}
    (h : TunFlow.hijacked crates tun packet = some query) :
    ∃ sliced resolver, crates.fromIp packet = some sliced ∧
      tun.resolver = some resolver ∧
      DnsWireQuery.fromIpPacket sliced = some query ∧
      query.destination ∉ resolver.vpnDnsIps := by
  obtain ⟨sliced, hsliced, hquery⟩ := Option.bind_eq_some_iff.mp h
  unfold VpnTun.hijacks VpnTun.recv at hquery
  cases hresolver : tun.resolver with
  | none => simp [hresolver] at hquery
  | some resolver =>
      cases hwire : DnsWireQuery.fromIpPacket sliced with
      | none => simp [hresolver, hwire] at hquery
      | some found =>
          by_cases hvpn : found.destination ∈ resolver.vpnDnsIps
          · simp [hresolver, hwire, hvpn] at hquery
          · have hsame : found = query := by
              simpa [hresolver, hwire, hvpn] using hquery
            subst hsame
            exact ⟨sliced, resolver, hsliced, rfl, hwire, hvpn⟩

theorem responsePacket_cases (crates : PacketCrates)
    (hfamily : netSlice query.source query.destination ≠ none)
    (payload : Bytes) :
    ∃ builder : UdpPacketBuilder,
      builder.packet payload = query.answerPacket payload ∧
      query.responsePacket crates payload =
        writeUdpPacket crates builder payload := by
  obtain ⟨source, destination, sourcePort, destinationPort, asked⟩ := query
  cases source <;> cases destination
  · exact ⟨_, rfl, rfl⟩
  · exact (hfamily rfl).elim
  · exact (hfamily rfl).elim
  · exact ⟨_, rfl, rfl⟩

theorem responsePacket_ok (hcrates : crates.Lawful) {payload packet : Bytes}
    (h : query.responsePacket crates payload = .ok packet) :
    crates.fromIp packet = some (query.answerPacket payload) := by
  have hfamily : netSlice query.source query.destination ≠ none := by
    intro hnone
    unfold DnsWireQuery.responsePacket at h
    split at h
    · next hsource hdestination =>
        simp [hsource, hdestination, netSlice] at hnone
    · next hsource hdestination =>
        simp [hsource, hdestination, netSlice] at hnone
    · contradiction
  obtain ⟨builder, hpacket, hwrite⟩ :=
    responsePacket_cases crates hfamily payload
  rw [hwrite, writeUdpPacket] at h
  split at h
  · next written hwritten =>
      obtain rfl := Except.ok.inj h
      rw [hcrates _ _ _ hwritten, hpacket]
  · contradiction

theorem responsePacket_hijacked {packet : Bytes}
    (h : TunFlow.hijacked crates tun packet = some query) (payload : Bytes) :
    query.responsePacket crates payload ≠ .error .addressFamilyMismatch := by
  obtain ⟨sliced, resolver, -, -, hquery, -⟩ := hijacked_some h
  obtain ⟨hnet, hsome, -, -⟩ := fromIpPacket_some hquery
  rw [hnet] at hsome
  obtain ⟨builder, -, hwrite⟩ := responsePacket_cases crates hsome payload
  rw [hwrite, writeUdpPacket]
  split <;> simp

/-! ## Runs -/

namespace TunFlow

/-- A packet that mirrors the query and carries what the resolver has for it. -/
def Answered (crates : PacketCrates) (dns : DnsCrates) (tun : VpnTun)
    (query : DnsWireQuery) (packet : Bytes) : Prop :=
  ∃ resolver exchanges finished, tun.resolver = some resolver ∧
    crates.fromIp packet =
      some (query.answerPacket (resolver.resolve dns query.payload
      (resolver.upstream dns query.payload exchanges finished)).1)

theorem answered_of_answer (hcrates : crates.Lawful)
    {exchanges : Nat → Exchange} {finished : List Nat} {packet : Bytes}
    (h : answer crates dns tun exchanges finished query = some packet) :
    Answered crates dns tun query packet := by
  obtain ⟨resolver, hresolver, hpacket⟩ := Option.bind_eq_some_iff.mp h
  refine ⟨resolver, exchanges, finished, hresolver,
    responsePacket_ok hcrates ?_⟩
  cases hresult :
    query.responsePacket crates (resolver.resolve dns query.payload
      (resolver.upstream dns query.payload exchanges finished)).1 with
  | error error => simp [hresult, Except.toOption] at hpacket
  | ok built => simpa [hresult, Except.toOption] using hpacket

def queries (crates : PacketCrates) (tun : VpnTun)
    (events : List TunEvent) : List DnsWireQuery :=
  events.filterMap fun event =>
    match event with
    | .arrived packet => hijacked crates tun packet
    | _ => none

theorem mem_queries {events : List TunEvent}
    (h : query ∈ queries crates tun events) :
    ∃ packet, hijacked crates tun packet = some query := by
  obtain ⟨event, -, hevent⟩ := List.mem_filterMap.mp h
  cases event with
  | arrived packet => exact ⟨packet, hevent⟩
  | recvFailed | resolved | injected | send => contradiction

def passed (crates : PacketCrates) (tun : VpnTun) (events : List TunEvent) :
    List (Except TunError Bytes) :=
  events.filterMap fun event =>
    match event with
    | .arrived packet =>
        if (hijacked crates tun packet).isSome then none
        else some (intoIp crates packet)
    | .recvFailed reason => some (.error (.recv reason))
    | _ => none

def sends (events : List TunEvent) : List Bytes :=
  events.filterMap fun event =>
    match event with
    | .send packet true => some packet
    | _ => none

structure Traced (crates : PacketCrates) (dns : DnsCrates) (tun : VpnTun)
    (events : List TunEvent) (s : TunFlow) : Prop where
  accounted : s.answers.Accounted (Answered crates dns tun)
  asked : s.answers.requests = queries crates tun events
  received : s.received = passed crates tun events
  answers : s.written.filterMap Written.ofAnswer? = s.answers.replies
  tunnel : s.written.filterMap Written.ofTunnel? = sends events

variable {s t : TunFlow} {events done : List TunEvent} {event : TunEvent}

theorem Traced.start : Traced crates dns tun [] start :=
  ⟨.idle, rfl, rfl, rfl, rfl⟩

theorem Traced.step (hcrates : crates.Lawful) (h : Traced crates dns tun done s)
    (hstep : s.step crates dns tun event = some t) :
    Traced crates dns tun (done ++ [event]) t := by
  cases event with
  | arrived packet =>
      simp only [TunFlow.step] at hstep
      split at hstep
      · next query hquery =>
          obtain rfl := Option.some.inj hstep
          exact ⟨h.accounted.take query, by simp [queries, hquery, h.asked],
            by simp [passed, hquery, h.received], h.answers,
            by simp [sends, h.tunnel]⟩
      · next hquery =>
          obtain rfl := Option.some.inj hstep
          exact ⟨h.accounted, by simp [queries, hquery, h.asked],
            by simp [passed, hquery, h.received], h.answers,
            by simp [sends, h.tunnel]⟩
  | recvFailed reason =>
      obtain rfl := Option.some.inj hstep
      exact ⟨h.accounted, by simp [queries, h.asked],
        by simp [passed, h.received], h.answers, by simp [sends, h.tunnel]⟩
  | resolved task exchanges finished =>
      obtain ⟨answers, hfinish, rfl⟩ := Option.map_eq_some_iff.mp hstep
      exact ⟨h.accounted.finish (fun _ _ hanswer =>
        answered_of_answer hcrates hanswer) hfinish,
        by simp [queries, h.asked, Dispatch.requests_finish hfinish],
        by simp [passed, h.received],
        h.answers.trans (Dispatch.replies_finish hfinish).symm,
        by simp [sends, h.tunnel]⟩
  | injected task delivered =>
      simp only [TunFlow.step, Option.bind_eq_bind, Option.bind_eq_some_iff,
        Option.pure_def, Option.some.injEq] at hstep
      obtain ⟨packet, hpending, answers, hdeliver, rfl⟩ := hstep
      have hreplies := Dispatch.replies_deliver hdeliver hpending
      refine ⟨h.accounted.deliver hdeliver,
        by simp [queries, h.asked, Dispatch.requests_deliver hdeliver],
        by simp [passed, h.received], ?_, ?_⟩
      · cases delivered <;> simp [hreplies, h.answers, Written.ofAnswer?]
      · cases delivered <;> simp [sends, h.tunnel, Written.ofTunnel?]
  | send packet delivered =>
      obtain rfl := Option.some.inj hstep
      refine ⟨h.accounted, by simp [queries, h.asked],
        by simp [passed, h.received], ?_, ?_⟩
      · cases delivered <;> simp [h.answers, Written.ofAnswer?]
      · cases delivered <;> simp [sends, h.tunnel, Written.ofTunnel?]

theorem Traced.run (hcrates : crates.Lawful) (h : Traced crates dns tun done s)
    (hrun : exec (TunFlow.step crates dns tun) s events = some t) :
    Traced crates dns tun (done ++ events) t := by
  induction events generalizing s done with
  | nil =>
      obtain rfl := Option.some.inj hrun
      simpa using h
  | cons event events ih =>
      obtain ⟨next, hstep, hrest⟩ := exec_cons.mp hrun
      simpa using ih (h.step hcrates hstep) hrest

end TunFlow

/--
Nothing is lost or duplicated on the device.  `recv` returns the packets that
are not hijacked, in the order of their arrival; each answer written to the
device mirrors one hijacked query, no query has two, and once the tasks are
done every query has one but those whose packet could not be built or written,
which the address families are never the reason for; WireGuard's packets are
written in their order, whatever answers come between.
-/
theorem tun_flow (hcrates : crates.Lawful) {events : List TunEvent}
    {s : TunFlow}
    (hrun : exec (TunFlow.step crates dns tun) TunFlow.start events = some s) :
    s.received = TunFlow.passed crates tun events ∧
    (∀ query ∈ TunFlow.queries crates tun events, ∀ payload,
      query.responsePacket crates payload ≠ .error .addressFamilyMismatch) ∧
    AnswersEach (TunFlow.Answered crates dns tun)
      (TunFlow.queries crates tun events)
      (s.written.filterMap Written.ofAnswer?) ∧
    (s.answers.Quiet → (s.written.filterMap Written.ofAnswer?).length +
      s.answers.dropped = (TunFlow.queries crates tun events).length) ∧
    s.written.filterMap Written.ofTunnel? = TunFlow.sends events := by
  have htraced := TunFlow.Traced.start.run hcrates hrun
  rw [List.nil_append] at htraced
  rw [htraced.answers, ← htraced.asked]
  refine ⟨htraced.received, fun query hquery => ?_,
    htraced.accounted.answersEach, htraced.accounted.length_quiet,
    htraced.tunnel⟩
  rw [htraced.asked] at hquery
  obtain ⟨packet, hpacket⟩ := TunFlow.mem_queries hquery
  exact responsePacket_hijacked hpacket

/-! ## Answers out of order -/

def ipv4Start (checksum source destination : Bytes) : Bytes :=
  [0x45, 0, 0, 0x3d, 0, 0, 0x40, 0, 0x40, 0x11] ++ checksum ++ source ++
    destination

def clientBytes : Bytes := [10, 8, 0, 2]

def serverBytes : Bytes := [192, 168, 1, 1]

def vpnServerBytes : Bytes := [10, 0, 0, 53]

def firstQuery : Bytes :=
  ipv4Start [0x6e, 0xfd] clientBytes serverBytes ++
    [0x9c, 0x40, 0, 0x35, 0, 0x29, 0x41, 0xed] ++ vpnQuery

def firstAnswer : Bytes :=
  ipv4Start [0x6e, 0xfd] serverBytes clientBytes ++
    [0, 0x35, 0x9c, 0x40, 0, 0x29, 0xc1, 0x6a] ++ vpnFailure

def secondQuery : Bytes :=
  ipv4Start [0x6e, 0xfd] clientBytes serverBytes ++
    [0x9c, 0x41, 0, 0x35, 0, 0x29, 0x41, 0xec] ++ vpnQuery

def secondAnswer : Bytes :=
  ipv4Start [0x6e, 0xfd] serverBytes clientBytes ++
    [0, 0x35, 0x9c, 0x41, 0, 0x29, 0xc1, 0x69] ++ vpnFailure

def tunnelQuery : Bytes :=
  ipv4Start [0x26, 0x72] clientBytes vpnServerBytes ++
    [0x9c, 0x42, 0, 0x35, 0, 0x29, 0xf9, 0x5f] ++ vpnQuery

def tunnelAnswer : Bytes :=
  ipv4Start [0x26, 0x72] vpnServerBytes clientBytes ++
    [0, 0x35, 0x9c, 0x42, 0, 0x29, 0x78, 0xdd] ++ vpnFailure

def slicedUdp (source destination : BitVec 32)
    (sourcePort destinationPort : Nat) (payload : Bytes) : SlicedPacket where
  net := some (.ipv4 source destination)
  transport := some (.udp sourcePort destinationPort payload)

def packetForms : List (Bytes × SlicedPacket) :=
  let client := Ipv4Addr.new 10 8 0 2
  let server := Ipv4Addr.new 192 168 1 1
  let vpnServer := Ipv4Addr.new 10 0 0 53
  [(firstQuery, slicedUdp client server 40000 53 vpnQuery),
    (firstAnswer, slicedUdp server client 53 40000 vpnFailure),
    (secondQuery, slicedUdp client server 40001 53 vpnQuery),
    (secondAnswer, slicedUdp server client 53 40001 vpnFailure),
    (tunnelQuery, slicedUdp client vpnServer 40002 53 vpnQuery),
    (tunnelAnswer, slicedUdp vpnServer client 53 40002 vpnFailure)]

def packetCrates : PacketCrates where
  fromIp := fun packet => (packetForms.find? (·.1 = packet)).map (·.2)
  tryIntoIp := fun packet =>
    if packet.isEmpty then .error "packet is empty" else .ok ()
  write := fun builder payload =>
    if builder.hopLimit = 64 then
      (packetForms.find? (·.2 = builder.packet payload)).map (·.1)
    else none

theorem packetCrates_lawful : packetCrates.Lawful := by
  have hreads : ∀ form ∈ packetForms,
      packetCrates.fromIp form.1 = some form.2 := by
    decide +kernel
  intro builder payload packet h
  obtain ⟨-, hfind⟩ := Option.ite_none_right_eq_some.mp h
  obtain ⟨form, hform, rfl⟩ := Option.map_eq_some_iff.mp hfind
  have hpacket : form.2 = builder.packet payload := by
    simpa using List.find?_some hform
  rw [← hpacket]
  exact hreads form (List.mem_of_find?_eq_some hform)

def hijackingTun : VpnTun := ⟨"tun0", 1280, some silentResolver⟩

def interleaved : List TunEvent :=
  [.arrived firstQuery, .arrived tunnelQuery, .arrived secondQuery,
    .resolved 1 (fun _ => ⟨none, none, []⟩) [], .injected 1 true,
    .send tunnelAnswer true, .resolved 0 (fun _ => ⟨none, none, []⟩) [],
    .injected 0 true]

theorem tun_flow_interleaved :
    ∃ s, exec (TunFlow.step packetCrates wireCrates hijackingTun)
        TunFlow.start interleaved = some s ∧
      s.received = [.ok tunnelQuery] ∧
      s.written = [.answer secondAnswer, .tunnel tunnelAnswer,
        .answer firstAnswer] ∧
      AnswersEach (TunFlow.Answered packetCrates wireCrates hijackingTun)
        (TunFlow.queries packetCrates hijackingTun interleaved)
        [secondAnswer, firstAnswer] := by
  have hrun : exec (TunFlow.step packetCrates wireCrates hijackingTun)
      TunFlow.start interleaved = some (final
        (TunFlow.step packetCrates wireCrates hijackingTun) TunFlow.start
        interleaved) := rfl
  have hwritten : (final (TunFlow.step packetCrates wireCrates hijackingTun)
      TunFlow.start interleaved).written =
        [.answer secondAnswer, .tunnel tunnelAnswer, .answer firstAnswer] := by
    decide +kernel
  obtain ⟨hreceived, -, hanswers, -⟩ := tun_flow packetCrates_lawful hrun
  refine ⟨_, hrun, ?_, hwritten, ?_⟩
  · rw [hreceived]
    decide +kernel
  · rw [hwritten] at hanswers
    exact hanswers

end Rustylink.Tunnel
