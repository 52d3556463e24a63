import Rustylink.Dns.Synthesis
import Rustylink.Outbound.Dialer

/-!
# Queries on a socket of their own

Every DNS query is sent from a socket that is bound for it alone, and the
first datagram that arrives there before the time limit is its reply.  The
interface-bound resolver asks its servers one after the other.
-/

namespace Rustylink.Outbound

open Rustylink.Foundation Rustylink.Dns

/-- A datagram that arrives on a socket, and where it comes from. -/
structure Arrival where
  source : SocketAddr
  payload : Bytes
  deriving DecidableEq, Repr

/--
What the system and the network do with one query: the errors of binding and
sending, and what `recv_from` returns, call after call, within the time limit.
-/
structure Exchange where
  bindError : Option String
  sendError : Option String
  received : List (Except String Arrival)
  deriving Repr

inductive ExchangeError where
  | send (source : String)
  | recv (source : String)
  | timeout
  deriving DecidableEq, Repr

def Exchange.bindUdpTo (dialer : Dialer) (server : SocketAddr)
    (exchange : Exchange) : Except DialerError UdpSocket :=
  match dialer.bindUdpTo server with
  | .error source => .error source
  | .ok socket =>
      match exchange.bindError with
      | some source => .error (.socketBind (unspecifiedFor server) source)
      | none => .ok socket

/--
Send, then receive once into a buffer of this size; the source is dropped.
-/
def Exchange.reply (size : Nat) (exchange : Exchange) :
    Except ExchangeError Bytes :=
  match exchange.sendError with
  | some source => .error (.send source)
  | none =>
      match exchange.received with
      | [] => .error .timeout
      | .error source :: _ => .error (.recv source)
      | .ok arrival :: _ => .ok (arrival.payload.take size)

/--
The query was sent, and this is the first datagram that arrived on its socket.
-/
def Exchange.First (exchange : Exchange) (arrival : Arrival) : Prop :=
  exchange.sendError = none ∧ exchange.received.head? = some (.ok arrival)

theorem reply_ok_iff {size : Nat} {exchange : Exchange} {reply : Bytes} :
    exchange.reply size = .ok reply ↔
      ∃ arrival, exchange.First arrival ∧
        reply = arrival.payload.take size := by
  unfold Exchange.reply Exchange.First
  cases exchange.sendError with
  | some source => simp
  | none =>
      cases exchange.received with
      | nil => simp
      | cons result rest =>
          cases result with
          | error source => simp
          | ok arrival => simp [eq_comm]

/-! ## The resolver -/

def maxDnsResponse : Nat := 4096

inductive ResolverError where
  | bind (server : SocketAddr) (source : DialerError)
  | send (server : SocketAddr) (source : String)
  | recv (server : SocketAddr) (source : String)
  | queryTimeout (server : SocketAddr)
  | decode (server : SocketAddr)
  deriving DecidableEq, Repr

def ResolverError.ofExchange (server : SocketAddr) :
    ExchangeError → ResolverError
  | .send source => .send server source
  | .recv source => .recv server source
  | .timeout => .queryTimeout server

structure Resolver where
  dialer : Dialer
  servers : List SocketAddr
  deriving DecidableEq, Repr

def recordAddr (record : Record) : Option IpAddr :=
  match record.data with
  | .a address => some (.v4 address)
  | .aaaa address => some (.v6 address)
  | .other _ _ => none

def extractAddrs (message : DnsMessage)
    (recordType : RecordType) : List IpAddr :=
  (message.answers.filter (·.data.recordType = recordType)).filterMap recordAddr

namespace Resolver

variable (crates : DnsCrates)

def sendQuery (resolver : Resolver) (server : SocketAddr)
    (exchange : Exchange) :
    Except ResolverError DnsMessage :=
  match exchange.bindUdpTo resolver.dialer server with
  | .error source => .error (.bind server source)
  | .ok _ =>
      match exchange.reply maxDnsResponse with
      | .error error => .error (.ofExchange server error)
      | .ok bytes =>
          match crates.fromVec bytes with
          | none => .error (.decode server)
          | some message => .ok message

def queryServers (resolver : Resolver) (recordType : RecordType) :
    List (SocketAddr × Exchange) → Option ResolverError →
      Except ResolverError (List IpAddr)
  | [], none => .ok []
  | [], some error => .error error
  | (server, exchange) :: rest, lastError =>
      match resolver.sendQuery crates server exchange with
      | .ok response =>
          if extractAddrs response recordType ≠ [] then
            .ok (extractAddrs response recordType)
          else queryServers resolver recordType rest lastError
      | .error error => queryServers resolver recordType rest (some error)

def queryRecord (resolver : Resolver) (recordType : RecordType)
    (exchanges : Nat → Exchange) :
    Except ResolverError (List IpAddr) :=
  resolver.queryServers crates recordType
    (resolver.servers.zipIdx.map fun (server, i) => (server, exchanges i)) none

variable {crates} {resolver : Resolver}

theorem sendQuery_ok_iff {server : SocketAddr} {exchange : Exchange}
    {message : DnsMessage} :
    resolver.sendQuery crates server exchange = .ok message ↔
      (∃ socket, exchange.bindUdpTo resolver.dialer server = .ok socket) ∧
        ∃ arrival, exchange.First arrival ∧
          crates.fromVec (arrival.payload.take maxDnsResponse) =
            some message := by
  unfold sendQuery
  cases exchange.bindUdpTo resolver.dialer server with
  | error source => simp
  | ok socket =>
      cases hreply : exchange.reply maxDnsResponse with
      | error error =>
          simp only [reduceCtorEq, Except.ok.injEq, exists_eq',
            true_and, false_iff]
          rintro ⟨arrival, hfirst, -⟩
          rw [reply_ok_iff.mpr ⟨arrival, hfirst, rfl⟩] at hreply
          cases hreply
      | ok bytes =>
          obtain ⟨arrival, hfirst, rfl⟩ := reply_ok_iff.mp hreply
          have honly : ∀ other, exchange.First other ↔ other = arrival := by
            intro other
            constructor
            · intro hother
              have hsame := hother.2.symm.trans hfirst.2
              simpa using hsame
            · rintro rfl
              exact hfirst
          simp only [Except.ok.injEq, exists_eq', true_and, honly,
            exists_eq_left]
          cases crates.fromVec (arrival.payload.take maxDnsResponse) <;> simp

theorem queryServers_ok {recordType : RecordType}
    {asked : List (SocketAddr × Exchange)} {lastError : Option ResolverError}
    {addrs : List IpAddr} (hnone : addrs ≠ [])
    (h : resolver.queryServers crates recordType asked lastError = .ok addrs) :
    ∃ server exchange message, (server, exchange) ∈ asked ∧
      resolver.sendQuery crates server exchange = .ok message ∧
      addrs = extractAddrs message recordType := by
  induction asked generalizing lastError with
  | nil => cases lastError <;> simp_all [queryServers]
  | cons head rest ih =>
      obtain ⟨server, exchange⟩ := head
      have hlater : ∀ lastError, resolver.queryServers crates recordType
          rest lastError =
          .ok addrs → ∃ other exchange' message, (other, exchange') ∈
            (server, exchange) :: rest ∧
            resolver.sendQuery crates other exchange' = .ok message ∧
            addrs = extractAddrs message recordType := by
        intro lastError hrest
        obtain ⟨other, exchange', message, hmem, haccepted⟩ := ih hrest
        exact ⟨other, exchange', message, List.mem_cons_of_mem _ hmem,
          haccepted⟩
      unfold queryServers at h
      cases hsend : resolver.sendQuery crates server exchange with
      | error error =>
          rw [hsend] at h
          exact hlater _ h
      | ok response =>
          simp only [hsend] at h
          split at h
          · cases h
            exact ⟨server, exchange, response, by simp, hsend, rfl⟩
          · exact hlater _ h

theorem queryRecord_ok {recordType : RecordType} {exchanges : Nat → Exchange}
    {addrs : List IpAddr} (hnone : addrs ≠ [])
    (h : resolver.queryRecord crates recordType exchanges = .ok addrs) :
    ∃ i server message, resolver.servers[i]? = some server ∧
      resolver.sendQuery crates server (exchanges i) = .ok message ∧
      addrs = extractAddrs message recordType := by
  obtain ⟨server, exchange, message, hasked, haccepted, haddrs⟩ :=
    queryServers_ok hnone h
  obtain ⟨⟨server', i⟩, hi, hpair⟩ := List.mem_map.mp hasked
  cases hpair
  exact ⟨i, server, message, List.mem_zipIdx_iff_getElem?.mp hi,
    haccepted, haddrs⟩

end Resolver

end Rustylink.Outbound
