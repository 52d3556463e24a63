import Rustylink.Dns.Answers
import Rustylink.Outbound.Resolver

/-!
# Which datagrams are taken for replies

The fan-out of a query down to its sockets.  Every server is asked on a socket
of its own, and what arrives there first is its reply; nothing compares the
source, the transaction id or the question with those of the query.
-/

namespace Rustylink.Dns

open Rustylink.Foundation Rustylink.Outbound

def maxDnsPacket : Nat := 4096

inductive ForwardError where
  | bindSocket (server : SocketAddr) (source : String)
  | bindDirected (server : SocketAddr) (source : DialerError)
  | send (server : SocketAddr) (source : String)
  | recv (server : SocketAddr) (source : String)
  | timeout (server : SocketAddr)
  | allFailed
  deriving DecidableEq, Repr

def ForwardError.ofExchange (server : SocketAddr) : ExchangeError → ForwardError
  | .send source => .send server source
  | .recv source => .recv server source
  | .timeout => .timeout server

namespace Forwarder

def querySingle (server : SocketAddr) (exchange : Exchange) :
    Except ForwardError Bytes :=
  match exchange.reply maxDnsPacket with
  | .error error => .error (.ofExchange server error)
  | .ok reply => .ok reply

abbrev Bind := SocketAddr → Exchange → Except ForwardError UdpSocket

def bindRouted : Bind := fun server exchange =>
  match exchange.bindError with
  | some source => .error (.bindSocket server source)
  | none => .ok ⟨none⟩

def bindDirected (dialer : Dialer) : Bind := fun server exchange =>
  match exchange.bindUdpTo dialer server with
  | .error source => .error (.bindDirected server source)
  | .ok socket => .ok socket

def queryServer (bind : Bind) (server : SocketAddr) (exchange : Exchange) :
    Except ForwardError Bytes :=
  match bind server exchange with
  | .error error => .error error
  | .ok _ => querySingle server exchange

def replies (bind : Bind) (servers : List SocketAddr)
    (exchanges : Nat → Exchange) (finished : List Nat) : List Bytes :=
  finished.filterMap fun i =>
    (servers[i]?).bind fun server =>
      (queryServer bind server (exchanges i)).toOption

def parallelQuery (bind : Bind) (servers : List SocketAddr)
    (exchanges : Nat → Exchange) (finished : List Nat) :
    Except ForwardError Bytes :=
  match servers with
  | [] => .error .allFailed
  | [server] => queryServer bind server (exchanges 0)
  | _ =>
      match (replies bind servers exchanges finished).head? with
      | some response => .ok response
      | none => .error .allFailed

def upstream (bind : Bind) (servers : List SocketAddr)
    (exchanges : Nat → Exchange) (finished : List Nat) : Upstream where
  sends server :=
    let exchange := exchanges (servers.idxOf server)
    exchange.bindError.isNone && exchange.sendError.isNone
  replies := (parallelQuery bind servers exchanges finished).toOption.toList

end Forwarder

namespace DnsResolver

variable (crates : DnsCrates)

def servers (resolver : DnsResolver) (payload : Bytes) : List SocketAddr :=
  if resolver.config.routeThroughVpn crates.toTextCrates
      (parseQuestionDomain crates payload) then resolver.vpnServers
  else resolver.systemServers

def upstream (resolver : DnsResolver) (payload : Bytes)
    (exchanges : Nat → Exchange) (finished : List Nat) : Upstream :=
  if resolver.config.routeThroughVpn crates.toTextCrates
      (parseQuestionDomain crates payload) then
    Forwarder.upstream Forwarder.bindRouted resolver.vpnServers
      exchanges finished
  else
    Forwarder.upstream (Forwarder.bindDirected resolver.directedDialer)
      resolver.systemServers exchanges finished

def serve (resolver : DnsResolver) (client : SocketAddr) (datagram : Bytes)
    (exchanges : Nat → Exchange) (finished : List Nat) : SocketAddr × Bytes :=
  let buf := datagram.take maxDnsPacket
  (client, (resolver.resolve crates buf
    (resolver.upstream crates buf exchanges finished)).1)

end DnsResolver

/-! ## Accepted replies -/

/--
The datagram comes from the server and carries the id and the question of the
query.
-/
structure Genuine (crates : DnsCrates) (server : SocketAddr) (query : Bytes)
    (arrival : Arrival) : Prop where
  source : arrival.source = server
  id : transactionId arrival.payload = transactionId query
  question : (crates.fromVec arrival.payload).map DnsMessage.queries =
    (crates.fromVec query).map DnsMessage.queries

/--
The reply is the first datagram that arrived for one of the servers, cut to the
buffer.
-/
def TakenFrom (servers : List SocketAddr) (exchanges : Nat → Exchange)
    (size : Nat) (server : SocketAddr) (arrival : Arrival)
    (reply : Bytes) : Prop :=
  ∃ i, servers[i]? = some server ∧ (exchanges i).First arrival ∧
    reply = arrival.payload.take size

theorem toOption_eq_some {result : Except ForwardError Bytes} {reply : Bytes} :
    result.toOption = some reply ↔ result = .ok reply := by
  cases result <;> simp [Except.toOption]

theorem querySingle_ok_iff {server : SocketAddr} {exchange : Exchange}
    {reply : Bytes} :
    Forwarder.querySingle server exchange = .ok reply ↔
      ∃ arrival, exchange.First arrival ∧
        reply = arrival.payload.take maxDnsPacket := by
  rw [← reply_ok_iff]
  unfold Forwarder.querySingle
  cases exchange.reply maxDnsPacket <;> simp

theorem queryServer_ok {bind : Forwarder.Bind} {server : SocketAddr}
    {exchange : Exchange} {reply : Bytes}
    (h : Forwarder.queryServer bind server exchange = .ok reply) :
    ∃ arrival, exchange.First arrival ∧
      reply = arrival.payload.take maxDnsPacket := by
  unfold Forwarder.queryServer at h
  split at h
  · cases h
  · exact querySingle_ok_iff.mp h

theorem parallelQuery_ok {bind : Forwarder.Bind} {servers : List SocketAddr}
    {exchanges : Nat → Exchange} {finished : List Nat} {reply : Bytes}
    (h : Forwarder.parallelQuery bind servers exchanges finished = .ok reply) :
    ∃ server arrival, TakenFrom servers exchanges maxDnsPacket server
      arrival reply := by
  unfold Forwarder.parallelQuery at h
  split at h
  · cases h
  · rename_i server
    obtain ⟨arrival, hfirst, hreply⟩ := queryServer_ok h
    exact ⟨server, arrival, 0, rfl, hfirst, hreply⟩
  · split at h
    · rename_i response hhead
      cases h
      obtain ⟨i, -, hi⟩ := List.mem_filterMap.mp (List.mem_of_mem_head? hhead)
      obtain ⟨server, hserver, hasked⟩ := Option.bind_eq_some_iff.mp hi
      obtain ⟨arrival, hfirst, hreply⟩ :=
        queryServer_ok (toOption_eq_some.mp hasked)
      exact ⟨server, arrival, i, hserver, hfirst, hreply⟩
    · cases h

theorem parallelQuery_upstream
    (bind : SocketAddr → Except DialerError UdpSocket) (bind' : Forwarder.Bind)
    (servers : List SocketAddr) (payload : Bytes)
    (exchanges : Nat → Exchange) (finished : List Nat) :
    (parallelQuery bind servers payload
        (Forwarder.upstream bind' servers exchanges finished)).1 =
      (Forwarder.parallelQuery bind' servers exchanges finished).toOption := by
  unfold parallelQuery Forwarder.upstream
  cases servers with
  | nil => rfl
  | cons server rest =>
      cases (Forwarder.parallelQuery bind' (server :: rest)
        exchanges finished).toOption <;> rfl

theorem forward_taken {crates : DnsCrates} {resolver : DnsResolver}
    {payload : Bytes} {exchanges : Nat → Exchange} {finished : List Nat}
    {reply : Bytes}
    (h : (resolver.forward crates payload
      (resolver.upstream crates payload exchanges finished)).1 = some reply) :
    ∃ server arrival, TakenFrom (resolver.servers crates payload)
      exchanges maxDnsPacket server arrival reply := by
  unfold DnsResolver.forward DnsResolver.upstream at h
  unfold DnsResolver.servers
  split at h
  · rename_i hrouted
    rw [parallelQueryRouted, parallelQuery_upstream, toOption_eq_some] at h
    rw [if_pos hrouted]
    exact parallelQuery_ok h
  · rename_i hdirected
    rw [parallelQueryDirected, parallelQuery_upstream, toOption_eq_some] at h
    rw [if_neg hdirected]
    exact parallelQuery_ok h

theorem serve_taken {crates : DnsCrates} {resolver : DnsResolver}
    {client : SocketAddr} {datagram reply : Bytes} {exchanges : Nat → Exchange}
    {finished : List Nat}
    (h : resolver.serve crates client datagram exchanges finished =
      (client, reply)) :
    synthesize crates resolver.config (datagram.take maxDnsPacket) =
      some reply ∨
      reply = synthesizeFailure crates (datagram.take maxDnsPacket) .servFail ∨
        ∃ server arrival, TakenFrom
          (resolver.servers crates (datagram.take maxDnsPacket))
          exchanges maxDnsPacket server arrival reply := by
  have hreply := congrArg Prod.snd h
  simp only [DnsResolver.serve, DnsResolver.resolve] at hreply
  split at hreply
  · rename_i answer hanswer
    rw [hanswer, ← hreply]
    exact .inl rfl
  · dsimp only at hreply
    cases hforward : (resolver.forward crates (datagram.take maxDnsPacket)
        (resolver.upstream crates (datagram.take maxDnsPacket)
            exchanges finished)).1 with
    | none =>
        rw [hforward] at hreply
        exact .inr (.inl hreply.symm)
    | some response =>
        rw [hforward] at hreply
        cases hreply
        exact .inr (.inr (forward_taken hforward))

/-! ## The three query paths -/

/--
The reply that is accepted on each of the query paths is the first datagram
that arrives on the socket of its query, whatever its source, id and question.
-/
theorem first_arrival_accepted (crates : DnsCrates) :
    (∀ server exchange reply, Forwarder.querySingle server exchange =
      .ok reply ↔
      ∃ arrival, exchange.First arrival ∧
        reply = arrival.payload.take maxDnsPacket) ∧
    (∀ (resolver : DnsResolver) payload exchanges finished reply,
      (resolver.forward crates payload
        (resolver.upstream crates payload exchanges finished)).1 = some reply →
      ∃ server arrival, TakenFrom (resolver.servers crates payload)
        exchanges maxDnsPacket server arrival reply) ∧
    (∀ (resolver : DnsResolver) client datagram exchanges finished reply,
      resolver.serve crates client datagram exchanges finished =
        (client, reply) →
      synthesize crates resolver.config (datagram.take maxDnsPacket) =
        some reply ∨
        reply = synthesizeFailure crates (datagram.take maxDnsPacket)
          .servFail ∨
          ∃ server arrival, TakenFrom
            (resolver.servers crates (datagram.take maxDnsPacket))
            exchanges maxDnsPacket server arrival reply) ∧
    (∀ (resolver : Resolver) server exchange message,
      resolver.sendQuery crates server exchange = .ok message ↔
        (∃ socket, exchange.bindUdpTo resolver.dialer server = .ok socket) ∧
          ∃ arrival, exchange.First arrival ∧
            crates.fromVec (arrival.payload.take maxDnsResponse) =
              some message) ∧
    ∀ (resolver : Resolver) recordType exchanges addrs, addrs ≠ [] →
      resolver.queryRecord crates recordType exchanges = .ok addrs →
      ∃ server arrival reply message, TakenFrom resolver.servers exchanges
        maxDnsResponse
        server arrival reply ∧ crates.fromVec reply = some message ∧
          addrs = extractAddrs message recordType := by
  refine ⟨fun _ _ _ => querySingle_ok_iff, fun _ _ _ _ _ => forward_taken,
    fun _ _ _ _ _ _ => serve_taken, fun _ _ _ _ => Resolver.sendQuery_ok_iff,
    ?_⟩
  intro resolver recordType exchanges addrs hsome h
  obtain ⟨i, server, message, hserver, haccepted, haddrs⟩ :=
    Resolver.queryRecord_ok hsome h
  obtain ⟨-, arrival, hfirst, hdecoded⟩ :=
    Resolver.sendQuery_ok_iff.mp haccepted
  exact ⟨server, arrival, _, message, ⟨i, hserver, hfirst, rfl⟩,
    hdecoded, haddrs⟩

def queriedServer : SocketAddr := ⟨.v4 (Ipv4Addr.new 10 0 0 53), 53⟩

def forgedArrival : Arrival :=
  ⟨⟨.v4 (Ipv4Addr.new 203 0 113 9), 4242⟩,
    [0xff, 0xff, 0x81, 0x80, 0, 0, 0, 0, 0, 0, 0, 0]⟩

theorem forgedArrival_accepted :
    ¬ ∀ (crates : DnsCrates) (server : SocketAddr) (query :
      Bytes) (exchange : Exchange)
      (reply : Bytes), Forwarder.querySingle server exchange = .ok reply →
      ∃ arrival, .ok arrival ∈ exchange.received ∧
        reply = arrival.payload.take maxDnsPacket ∧
          Genuine crates server query arrival := by
  intro h
  obtain ⟨arrival, harrived, -, hgenuine⟩ := h wireCrates queriedServer vpnQuery
    ⟨none, none, [.ok forgedArrival]⟩ forgedArrival.payload rfl
  have hforged : arrival = forgedArrival := by simpa using harrived
  have hsource := hgenuine.source
  rw [hforged] at hsource
  revert hsource
  decide

end Rustylink.Dns
