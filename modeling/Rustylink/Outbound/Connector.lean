import Rustylink.Foundation.Fallible
import Rustylink.Foundation.NetText
import Rustylink.Foundation.Table
import Rustylink.Outbound.Resolver

/-!
# The connector

HTTP connections to the host of a URI.  The resolver knows static overrides
and IP literals, and asks its servers about every other name; the queries sent
and the addresses dialed are the state.
-/

namespace Rustylink.Outbound

open Rustylink.Foundation Rustylink.Dns

structure Uri where
  scheme : Option String
  host : Option String
  port : Option Nat
  deriving DecidableEq, Repr

structure HostResolver extends Resolver where
  overrides : Table String (List SocketAddr)

inductive NetEvent where
  | query (server : SocketAddr) (recordType : RecordType)
  | dial (addr : SocketAddr)
  deriving DecidableEq, Repr

/-- What the libraries and the network do. -/
structure NetWorld where
  crates : DnsCrates
  nameError : String → Option String
  exchanges : RecordType → Nat → Exchange
  tcp : List NetEvent → SocketAddr → Except String Unit

inductive ResolveError where
  | noRecords (host : String)
  | query (source : ResolverError)
  deriving DecidableEq, Repr

inductive ConnectorError where
  | missingHost
  | unsupportedScheme (scheme : String)
  | resolve (host : String) (source : ResolveError)
  | noAddress (host : String)
  | connect (host source : String)
  deriving DecidableEq, Repr

/-! ## Resolving -/

namespace HostResolver

def new (dialer : Dialer) (servers : List SocketAddr) : HostResolver where
  dialer := dialer
  servers := servers
  overrides := fun _ => none

def withOverride (hostname : String) (pinnedAddr : SocketAddr)
    (resolver : HostResolver) :
    HostResolver :=
  { resolver with overrides :=
      resolver.overrides.put hostname ((resolver.overrides hostname).getD [] ++
        [pinnedAddr]) }

end HostResolver

def Resolver.asked (crates : DnsCrates) (resolver : Resolver)
    (recordType : RecordType) :
    List (SocketAddr × Exchange) → List SocketAddr
  | [] => []
  | (server, exchange) :: rest =>
      let sent :=
        match exchange.bindUdpTo resolver.dialer server with
        | .ok _ => [server]
        | .error _ => []
      match resolver.sendQuery crates server exchange with
      | .ok response =>
          if extractAddrs response recordType ≠ [] then sent
          else sent ++ asked crates resolver recordType rest
      | .error _ => sent ++ asked crates resolver recordType rest

abbrev NetBody (Error : Type) := EStateM Error (List NetEvent)

variable (world : NetWorld)

def lookup (resolver : HostResolver) (recordType : RecordType) :
    NetBody ResolveError (Except ResolverError (List IpAddr)) := do
  let exchanges := world.exchanges recordType
  modify (· ++ (resolver.asked world.crates recordType
    (resolver.servers.zipIdx.map fun (server, i) => (server, exchanges i))).map
      (NetEvent.query · recordType))
  return resolver.queryRecord world.crates recordType exchanges

def gather (host : String) (a aaaa : Except ResolverError (List IpAddr)) :
    Except ResolveError (List IpAddr) :=
  match a.toOption.getD [] ++ aaaa.toOption.getD [] with
  | [] =>
      match a, aaaa with
      | .error source, _ => .error (.query source)
      | _, .error source => .error (.query source)
      | _, _ => .error (.noRecords host)
  | ips => .ok ips

def resolveHost (resolver : HostResolver) (host : String) (port : Nat) :
    NetBody ResolveError (List SocketAddr) :=
  match resolver.overrides host with
  | some addrs => pure addrs
  | none =>
      match IpAddr.parse host with
      | some ip => pure [⟨ip, port⟩]
      | none =>
          match world.nameError host with
          | some reason => throw (.noRecords (host ++ ": " ++ reason))
          | none => do
              let a ← lookup world resolver .a
              let aaaa ← lookup world resolver .aaaa
              let ips ← ofExcept (gather host a aaaa)
              return ips.map fun ip => ⟨ip, port⟩

/-! ## Connecting -/

def Uri.effectivePort (uri : Uri) : Nat :=
  uri.port.getD (if uri.scheme = some "https" then 443 else 80)

def parseUriHostPort (uri : Uri) : Except ConnectorError (String × Nat) :=
  match uri.host with
  | none => .error .missingHost
  | some host =>
      let scheme := uri.scheme.getD "http"
      if scheme ≠ "http" ∧ scheme ≠ "https" then .error
        (.unsupportedScheme scheme)
      else .ok (host, uri.effectivePort)

def dialAddrs (host : String) :
    List SocketAddr → Option String → NetBody ConnectorError Unit
  | [], none => throw (.noAddress host)
  | [], some source => throw (.connect host source)
  | addr :: addrs, _ => do
      let outcome := world.tcp (← get) addr
      modify (· ++ [.dial addr])
      match outcome with
      | .ok () => pure ()
      | .error source => dialAddrs host addrs (some source)

def connectTo (resolver : HostResolver) (uri : Uri) :
    NetBody ConnectorError Unit := do
  let (host, port) ← ofExcept (parseUriHostPort uri)
  let addrs ← EStateM.adaptExcept (.resolve host)
      (resolveHost world resolver host port)
  dialAddrs world host addrs none

/-! ## What a connection dials -/

variable {world} {resolver : HostResolver} {host : String} {port : Nat}
  {addr : SocketAddr}

theorem dialAddrs_leaves (world : NetWorld) (host : String)
    (addrs : List SocketAddr) (last : Option String) (log : List NetEvent) :
    ∃ dialed, leaves (dialAddrs world host addrs last log) =
      log ++ dialed.map NetEvent.dial ∧
      dialed <+: addrs ∧ (addrs ≠ [] → dialed ≠ []) := by
  induction addrs generalizing last log with
  | nil =>
      refine ⟨[], ?_, List.prefix_refl [], fun h => absurd rfl h⟩
      cases last <;> simp [dialAddrs, leaves]
  | cons addr addrs ih =>
      simp only [dialAddrs, run_bind, run_get, run_modify]
      cases world.tcp log addr with
      | ok accepted => exact ⟨[addr], by simp [leaves], by simp, by simp⟩
      | error source =>
          obtain ⟨dialed, hlog, hprefix, -⟩ :=
            ih (some source) (log ++ [.dial addr])
          refine ⟨addr :: dialed, ?_, List.cons_prefix_cons.mpr
            ⟨rfl, hprefix⟩, by simp⟩
          rw [hlog, List.map_cons, List.append_assoc, List.singleton_append]

theorem dialAddrs_single_iff (world : NetWorld) (host : String)
    (addrs : List SocketAddr) (last : Option String) (log : List NetEvent)
    (addr : SocketAddr) :
    leaves (dialAddrs world host addrs last log) = log ++ [.dial addr] ↔
      ∃ rest, addrs = addr :: rest ∧
        (rest = [] ∨ world.tcp log addr = .ok ()) := by
  cases addrs with
  | nil =>
      obtain ⟨dialed, hlog, hprefix, -⟩ :=
        dialAddrs_leaves world host [] last log
      rw [hlog, List.prefix_nil.mp hprefix]
      simp
  | cons first rest =>
      simp only [dialAddrs, run_bind, run_get, run_modify]
      cases htcp : world.tcp log first with
      | ok accepted =>
          simp only [leaves, run_pure, List.append_cancel_left_eq,
            List.cons.injEq, NetEvent.dial.injEq, and_true]
          constructor
          · rintro rfl
            exact ⟨rest, ⟨rfl, rfl⟩, .inr htcp⟩
          · rintro ⟨rest', ⟨h, -⟩, -⟩
            exact h
      | error source =>
          obtain ⟨dialed, hlog, hprefix, hmore⟩ :=
            dialAddrs_leaves world host rest (some source)
              (log ++ [.dial first])
          dsimp only
          rw [hlog, List.append_assoc, List.singleton_append,
            List.append_cancel_left_eq, List.cons.injEq, NetEvent.dial.injEq,
            List.map_eq_nil_iff]
          constructor
          · rintro ⟨rfl, hnone⟩
            refine ⟨rest, rfl, .inl ?_⟩
            by_contra hrest
            exact hmore hrest hnone
          · rintro ⟨rest', heq, hrest⟩
            obtain ⟨rfl, rfl⟩ := List.cons.inj heq
            rcases hrest with rfl | hok
            · exact ⟨rfl, List.prefix_nil.mp hprefix⟩
            · rw [htcp] at hok
              cases hok

/-! ## What a name is resolved to -/

theorem Resolver.asked_ne_nil {crates : DnsCrates} {resolver : Resolver}
    {recordType : RecordType} {asked : List (SocketAddr × Exchange)}
    {lastError : Option ResolverError} {ips : List IpAddr} (hips : ips ≠ [])
    (h : resolver.queryServers crates recordType asked lastError = .ok ips) :
    resolver.asked crates recordType asked ≠ [] := by
  induction asked generalizing lastError with
  | nil => cases lastError <;> simp_all [queryServers]
  | cons head rest ih =>
      obtain ⟨server, exchange⟩ := head
      unfold Resolver.asked
      cases hsend : resolver.sendQuery crates server exchange with
      | ok response =>
          obtain ⟨socket, hbind⟩ := (sendQuery_ok_iff.mp hsend).1
          simp only [hbind]
          split <;> simp
      | error error =>
          unfold queryServers at h
          rw [hsend] at h
          simp only [ne_eq, List.append_eq_nil_iff, not_and]
          exact fun _ => ih h

theorem run_lookup (world : NetWorld) (resolver : HostResolver)
    (recordType : RecordType) (log : List NetEvent) :
    ∃ queries, lookup world resolver recordType log =
        .ok (resolver.queryRecord world.crates recordType
          (world.exchanges recordType))
          (log ++ queries.map (NetEvent.query · recordType)) ∧
      ∀ ips, resolver.queryRecord world.crates recordType
        (world.exchanges recordType) = .ok ips → ips ≠ [] → queries ≠ [] :=
  ⟨_, rfl, fun _ hips hsome => Resolver.asked_ne_nil hsome hips⟩

theorem gather_ok {host : String} {a aaaa : Except ResolverError (List IpAddr)}
    {ips : List IpAddr} (h : gather host a aaaa = .ok ips) :
    (∃ found, a = .ok found ∧ found ≠ []) ∨ ∃ found, aaaa = .ok found ∧
      found ≠ [] := by
  by_contra hnone
  rw [not_or, not_exists, not_exists] at hnone
  have hempty : ∀ result : Except ResolverError (List IpAddr),
      (∀ found, ¬ (result = .ok found ∧ found ≠ [])) →
          result.toOption.getD [] = [] := by
    intro result hresult
    cases result with
    | error source => rfl
    | ok found =>
        by_contra hfound
        exact hresult found ⟨rfl, hfound⟩
  unfold gather at h
  rw [hempty a hnone.1, hempty aaaa hnone.2] at h
  cases a <;> cases aaaa <;> cases h

theorem run_resolveHost (world : NetWorld) (resolver : HostResolver)
    (host : String) (port : Nat) (log : List NetEvent) :
    (∃ addrs, resolver.overrides host = some addrs ∧
      resolveHost world resolver host port log = .ok addrs log) ∨
    (resolver.overrides host = none ∧ ∃ ip, IpAddr.parse host = some ip ∧
      resolveHost world resolver host port log = .ok [⟨ip, port⟩] log) ∨
    (resolver.overrides host = none ∧ IpAddr.parse host = none ∧
      ∃ queries : List (SocketAddr × RecordType),
        (∃ error, resolveHost world resolver host port log =
          .error error (log ++ queries.map fun q => .query q.1 q.2)) ∨
        (queries ≠ [] ∧ ∃ addrs, resolveHost world resolver host port log =
          .ok addrs (log ++ queries.map fun q => .query q.1 q.2))) := by
  unfold resolveHost
  cases resolver.overrides host with
  | some addrs => exact .inl ⟨addrs, rfl, rfl⟩
  | none =>
      cases IpAddr.parse host with
      | some ip => exact .inr (.inl ⟨rfl, ip, rfl, rfl⟩)
      | none =>
          refine .inr (.inr ⟨rfl, rfl, ?_⟩)
          cases world.nameError host with
          | some reason =>
              refine ⟨[], .inl ⟨.noRecords (host ++ ": " ++ reason), ?_⟩⟩
              rw [List.map_nil, List.append_nil]
              rfl
          | none =>
              obtain ⟨first, hfirst, hfirstSome⟩ :=
                run_lookup world resolver .a log
              obtain ⟨second, hsecond, hsecondSome⟩ :=
                run_lookup world resolver .aaaa
                (log ++ first.map (NetEvent.query · .a))
              have hlog : log ++ first.map (NetEvent.query · .a) ++
                  second.map (NetEvent.query · .aaaa) =
                  log ++ (first.map (·, RecordType.a) ++ second.map
                    (·, RecordType.aaaa)).map fun q => .query q.1 q.2 := by
                simp [List.map_append, Function.comp_def]
              refine ⟨first.map (·, .a) ++ second.map (·, .aaaa), ?_⟩
              simp only [run_bind, hfirst, hsecond, hlog]
              cases hgather : gather host
                  (resolver.queryRecord world.crates .a (world.exchanges .a))
                  (resolver.queryRecord world.crates .aaaa
                      (world.exchanges .aaaa)) with
              | error error => exact .inl ⟨error, rfl⟩
              | ok ips =>
                  refine .inr ⟨?_, _, rfl⟩
                  rcases gather_ok hgather with
                    ⟨found, hfound, hne⟩ | ⟨found, hfound, hne⟩
                  · simp [hfirstSome found hfound hne]
                  · simp [hsecondSome found hfound hne]

/--
The address is pinned first, and reached at once; or the host is its literal.
-/
def DialsOnly (world : NetWorld) (resolver : HostResolver)
    (host : String) (port : Nat) (addr : SocketAddr) : Prop :=
  (∃ rest, resolver.overrides host = some (addr :: rest) ∧
      (rest = [] ∨ world.tcp [] addr = .ok ())) ∨
    (resolver.overrides host = none ∧ IpAddr.parse host = some addr.ip ∧
      addr.port = port)

theorem connectTo_eq {uri : Uri}
    (huri : parseUriHostPort uri = .ok (host, port)) :
    connectTo world resolver uri =
      EStateM.adaptExcept (.resolve host)
        (resolveHost world resolver host port) >>=
        fun addrs => dialAddrs world host addrs none := by
  unfold connectTo
  rw [huri]
  rfl

theorem connectTo_single_iff {uri : Uri}
    (huri : parseUriHostPort uri = .ok (host, port)) :
    leaves (connectTo world resolver uri []) = [.dial addr] ↔
      DialsOnly world resolver host port addr := by
  rw [connectTo_eq huri, run_bind]
  unfold EStateM.adaptExcept DialsOnly
  rcases run_resolveHost world resolver host port [] with
    ⟨addrs, hover, hrun⟩ | ⟨hover, ip, hparse, hrun⟩ | ⟨hover, hparse,
      queries, hrun⟩
  · have hsingle := dialAddrs_single_iff world host addrs none [] addr
    rw [List.nil_append] at hsingle
    simp only [hrun, hover]
    rw [hsingle]
    simp
  · have hsingle := dialAddrs_single_iff world host [⟨ip, port⟩] none [] addr
    rw [List.nil_append] at hsingle
    simp only [hrun, hover]
    rw [hsingle, hparse]
    constructor
    · rintro ⟨rest, heq, -⟩
      rw [← (List.cons.inj heq).1]
      exact .inr ⟨trivial, rfl, rfl⟩
    · rintro (⟨rest, hnone, -⟩ | ⟨-, hip, hport⟩)
      · cases hnone
      · have hsame : (⟨ip, port⟩ : SocketAddr) = addr := by
          rw [Option.some.inj hip, ← hport]
        exact ⟨[], by rw [hsame], .inl rfl⟩
  · have hnever : ¬ DialsOnly world resolver host port addr := by
      rintro (⟨rest, hpinned, -⟩ | ⟨-, hliteral, -⟩)
      · rw [hover] at hpinned
        cases hpinned
      · rw [hparse] at hliteral
        cases hliteral
    refine iff_of_false ?_ hnever
    rcases hrun with ⟨error, hrun⟩ | ⟨hqueries, addrs, hrun⟩
    · simp only [hrun, leaves, List.nil_append]
      cases queries with
      | nil => simp
      | cons first rest => simp
    · obtain ⟨dialed, hlog, -⟩ := dialAddrs_leaves world host addrs none
        ([] ++ queries.map fun q => .query q.1 q.2)
      simp only [hrun, hlog]
      obtain ⟨first, rest, rfl⟩ := List.exists_cons_of_ne_nil hqueries
      simp

end Rustylink.Outbound
