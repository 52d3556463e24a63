import Rustylink.Outbound.Connector

/-!
# What a host is resolved to

The two queries of a host are answered each by the first server that has records
of its type, whatever the others reply.  The connector is followed here up to
its panic, which the list that it dials rules out.
-/

namespace Rustylink.Outbound

open Rustylink.Foundation Rustylink.Dns

/-! ## Replies -/

/-- The message that the first datagram for the query decodes to. -/
def Resolver.Replied (crates : DnsCrates) (resolver : Resolver)
    (server : SocketAddr) (exchange : Exchange) (message : DnsMessage) : Prop :=
  (∃ socket, exchange.bindUdpTo resolver.dialer server = .ok socket) ∧
    ∃ arrival, exchange.First arrival ∧
      crates.fromVec (arrival.payload.take maxDnsResponse) = some message

def addressData : IpAddr → RData
  | .v4 address => .a address
  | .v6 address => .aaaa address

variable (world : NetWorld) (resolver : HostResolver)

def HostResolver.RepliedAt (recordType : RecordType) (i : Nat)
    (message : DnsMessage) : Prop :=
  ∃ server, resolver.servers[i]? = some server ∧
    resolver.Replied world.crates server (world.exchanges recordType i) message

/--
A reply to the query for A records has one, or one to that for AAAA records.
-/
def HostResolver.Answered : Prop :=
  ∃ recordType ∈ [RecordType.a, .aaaa], ∃ i message,
    resolver.RepliedAt world recordType i message ∧
      ∃ record ∈ message.answers, record.data.recordType = recordType

def HostResolver.Lacks (recordType : RecordType) (i : Nat) : Prop :=
  ∀ message, resolver.RepliedAt world recordType i message →
    ∀ record ∈ message.answers, record.data.recordType ≠ recordType

/--
The addresses are those in the records of the type, in their order, that the
first server with any replied with, and none if there is no such server.
-/
def HostResolver.FirstRecords (recordType : RecordType)
    (ips : List IpAddr) : Prop :=
  (ips = [] ∧ ∀ i, resolver.Lacks world recordType i) ∨
    ∃ i message, resolver.RepliedAt world recordType i message ∧
      ips.map addressData = (message.answers.map Record.data).filter
        (·.recordType = recordType) ∧
      ips ≠ [] ∧ ∀ earlier < i, resolver.Lacks world recordType earlier

/-! ## Answers -/

def Resolver.answer (crates : DnsCrates) (resolver : Resolver)
    (recordType : RecordType) (server : SocketAddr)
    (exchange : Exchange) : List IpAddr :=
  match resolver.sendQuery crates server exchange with
  | .ok message => extractAddrs message recordType
  | .error _ => []

def firstAnswer (answers : List (List IpAddr)) : List IpAddr :=
  (answers.find? (· ≠ [])).getD []

theorem firstAnswer_cons_nil (answers : List (List IpAddr)) :
    firstAnswer ([] :: answers) = firstAnswer answers := by
  simp [firstAnswer]

theorem firstAnswer_cons {ips : List IpAddr} (h : ips ≠ [])
    (answers : List (List IpAddr)) :
    firstAnswer (ips :: answers) = ips := by
  simp [firstAnswer, h]

theorem firstAnswer_eq_nil {answers : List (List IpAddr)} :
    firstAnswer answers = [] ↔ ∀ ips ∈ answers, ips = [] := by
  induction answers with
  | nil => simp [firstAnswer]
  | cons ips answers ih =>
      by_cases hips : ips = []
      · rw [hips, firstAnswer_cons_nil, ih]
        simp
      · rw [firstAnswer_cons hips]
        simp [hips]

theorem firstAnswer_position {answers : List (List IpAddr)}
    (h : firstAnswer answers ≠ []) :
    ∃ i : Nat, answers[i]? = some (firstAnswer answers) ∧
      ∀ earlier < i, answers[earlier]? = some [] := by
  induction answers with
  | nil => exact absurd rfl h
  | cons ips answers ih =>
      by_cases hips : ips = []
      · rw [hips, firstAnswer_cons_nil] at h ⊢
        obtain ⟨i, hi, hbefore⟩ := ih h
        refine ⟨i + 1, hi, fun earlier hearlier => ?_⟩
        cases earlier with
        | zero => rfl
        | succ earlier => exact hbefore earlier (by omega)
      · rw [firstAnswer_cons hips]
        exact ⟨0, rfl, fun earlier hearlier => by omega⟩

theorem recordAddr_eq_some {record : Record}
    (h : record.data.recordType ∈ [RecordType.a, .aaaa]) :
    ∃ ip, recordAddr record = some ip ∧ addressData ip = record.data := by
  unfold recordAddr
  cases hdata : record.data with
  | a address => exact ⟨.v4 address, rfl, rfl⟩
  | aaaa address => exact ⟨.v6 address, rfl, rfl⟩
  | other code data =>
      rw [hdata] at h
      simp [RData.recordType] at h

theorem extractAddrs_data {message : DnsMessage} {recordType : RecordType}
    (h : recordType ∈ [RecordType.a, .aaaa]) :
    (extractAddrs message recordType).map addressData =
      (message.answers.map Record.data).filter (·.recordType = recordType) := by
  unfold extractAddrs
  induction message.answers with
  | nil => rfl
  | cons record answers ih =>
      rw [List.filter_cons, List.map_cons, List.filter_cons]
      split
      · rename_i htype
        obtain ⟨ip, hip, hdata⟩ :=
          recordAddr_eq_some (of_decide_eq_true htype ▸ h)
        rw [List.filterMap_cons_some hip, List.map_cons, ih, hdata]
      · exact ih

theorem extractAddrs_eq_nil {message : DnsMessage} {recordType : RecordType}
    (h : recordType ∈ [RecordType.a, .aaaa]) :
    extractAddrs message recordType = [] ↔
      ∀ record ∈ message.answers, record.data.recordType ≠ recordType := by
  rw [← List.map_eq_nil_iff (f := addressData), extractAddrs_data h,
    List.filter_eq_nil_iff]
  simp

theorem queryServers_answer {crates : DnsCrates} {resolver : Resolver}
    {recordType : RecordType} (asked : List (SocketAddr × Exchange))
    (lastError : Option ResolverError) :
    (resolver.queryServers crates recordType asked lastError).toOption.getD [] =
      firstAnswer (asked.map fun (server, exchange) =>
        resolver.answer crates recordType server exchange) := by
  induction asked generalizing lastError with
  | nil => cases lastError <;> rfl
  | cons head rest ih =>
      obtain ⟨server, exchange⟩ := head
      rw [List.map_cons, Resolver.queryServers]
      dsimp only
      cases hsend : resolver.sendQuery crates server exchange with
      | error error =>
          have hnone : resolver.answer crates recordType server exchange =
              [] := by
            rw [Resolver.answer, hsend]
          rw [hnone, firstAnswer_cons_nil]
          exact ih (some error)
      | ok message =>
          have hsome : resolver.answer crates recordType server exchange =
              extractAddrs message recordType := by
            rw [Resolver.answer, hsend]
          rw [hsome]
          dsimp only
          by_cases hips : extractAddrs message recordType = []
          · rw [if_neg (not_not.mpr hips), hips, firstAnswer_cons_nil]
            exact ih lastError
          · rw [if_pos hips, firstAnswer_cons hips]
            rfl

theorem gather_eq_ok {host : String}
    {a aaaa : Except ResolverError (List IpAddr)} {ips : List IpAddr} :
    gather host a aaaa = .ok ips ↔
      ips = a.toOption.getD [] ++ aaaa.toOption.getD [] ∧ ips ≠ [] := by
  unfold gather
  split
  · rename_i hnone
    rw [hnone]
    constructor
    · intro h
      cases a <;> cases aaaa <;> cases h
    · rintro ⟨rfl, hips⟩
      exact absurd rfl hips
  · rename_i found hfound
    constructor
    · intro h
      cases h
      exact ⟨rfl, hfound⟩
    · rintro ⟨rfl, -⟩
      rfl

/-! ## Hosts -/

def HostResolver.answers (recordType : RecordType) : List (List IpAddr) :=
  resolver.servers.zipIdx.map fun (server, i) =>
    resolver.answer world.crates recordType server
      (world.exchanges recordType i)

def HostResolver.found : List IpAddr :=
  firstAnswer (resolver.answers world .a) ++ firstAnswer
    (resolver.answers world .aaaa)

variable {world resolver}

theorem answers_getElem? (recordType : RecordType) (i : Nat) :
    (resolver.answers world recordType)[i]? =
      (resolver.servers[i]?).map fun server => resolver.answer world.crates
        recordType server (world.exchanges recordType i) := by
  simp [HostResolver.answers, List.getElem?_zipIdx, Function.comp_def]

theorem answer_replied {recordType : RecordType} {i : Nat}
    {message : DnsMessage} (h : resolver.RepliedAt world recordType i message) :
    (resolver.answers world recordType)[i]? =
      some (extractAddrs message recordType) := by
  obtain ⟨server, hserver, hreplied⟩ := h
  rw [answers_getElem?, hserver, Option.map_some, Resolver.answer,
    Resolver.sendQuery_ok_iff.mpr hreplied]

theorem replied_of_answer {recordType : RecordType} {i : Nat}
    {ips : List IpAddr} (h : (resolver.answers world recordType)[i]? = some ips)
    (hips : ips ≠ []) :
    ∃ message, resolver.RepliedAt world recordType i message ∧
      extractAddrs message recordType = ips := by
  rw [answers_getElem?] at h
  obtain ⟨server, hserver, rfl⟩ := Option.map_eq_some_iff.mp h
  cases hsend : resolver.sendQuery world.crates server
      (world.exchanges recordType i) with
  | error error =>
      rw [Resolver.answer, hsend] at hips
      exact absurd rfl hips
  | ok message =>
      refine ⟨message, ⟨server, hserver, Resolver.sendQuery_ok_iff.mp hsend⟩,
        ?_⟩
      rw [Resolver.answer, hsend]

theorem lacks_of_answer {recordType : RecordType} {i : Nat}
    (hrecord : recordType ∈ [RecordType.a, .aaaa])
    (h : ∀ ips, (resolver.answers world recordType)[i]? = some ips → ips = []) :
    resolver.Lacks world recordType i := by
  intro message hreplied
  exact (extractAddrs_eq_nil hrecord).mp (h _ (answer_replied hreplied))

theorem firstAnswer_records {recordType : RecordType}
    (hrecord : recordType ∈ [RecordType.a, .aaaa]) :
    resolver.FirstRecords world recordType
      (firstAnswer (resolver.answers world recordType)) := by
  by_cases hfirst : firstAnswer (resolver.answers world recordType) = []
  · refine .inl ⟨hfirst, fun i => lacks_of_answer hrecord fun ips hips => ?_⟩
    exact firstAnswer_eq_nil.mp hfirst ips (List.mem_of_getElem? hips)
  · obtain ⟨i, hi, hbefore⟩ := firstAnswer_position hfirst
    obtain ⟨message, hreplied, hips⟩ := replied_of_answer hi hfirst
    refine .inr ⟨i, message, hreplied, ?_, hfirst, fun earlier hearlier => ?_⟩
    · rw [← hips, extractAddrs_data hrecord]
    · refine lacks_of_answer hrecord fun ips hips => ?_
      rw [hbefore earlier hearlier] at hips
      exact (Option.some.inj hips).symm

theorem firstAnswer_ne_nil {recordType : RecordType}
    (hrecord : recordType ∈ [RecordType.a, .aaaa]) :
    firstAnswer (resolver.answers world recordType) ≠ [] ↔
      ∃ i message, resolver.RepliedAt world recordType i message ∧
        ∃ record ∈ message.answers, record.data.recordType = recordType := by
  constructor
  · intro hfirst
    obtain ⟨i, hi, -⟩ := firstAnswer_position hfirst
    obtain ⟨message, hreplied, hips⟩ := replied_of_answer hi hfirst
    refine ⟨i, message, hreplied, ?_⟩
    by_contra hnone
    push Not at hnone
    rw [(extractAddrs_eq_nil hrecord).mpr hnone] at hips
    exact hfirst hips.symm
  · rintro ⟨i, message, hreplied, record, hmem, htype⟩ hfirst
    have hanswer := List.mem_of_getElem? (answer_replied hreplied)
    have hnone := firstAnswer_eq_nil.mp hfirst _ hanswer
    exact (extractAddrs_eq_nil hrecord).mp hnone record hmem htype

theorem found_ne_nil : resolver.found world ≠ [] ↔ resolver.Answered world := by
  rw [HostResolver.found, ne_eq, List.append_eq_nil_iff,
    not_and_or, ← ne_eq, ← ne_eq, firstAnswer_ne_nil (by simp),
    firstAnswer_ne_nil (by simp)]
  simp only [HostResolver.Answered, List.mem_cons, List.not_mem_nil, or_false,
    exists_eq_or_imp, exists_eq_left]

theorem queryRecord_answers (recordType : RecordType) :
    (resolver.queryRecord world.crates recordType
      (world.exchanges recordType)).toOption.getD [] =
        firstAnswer (resolver.answers world recordType) := by
  rw [Resolver.queryRecord, queryServers_answer, List.map_map]
  rfl

variable {host : String} {port : Nat}

theorem resolveHost_name (port : Nat) (hover : resolver.overrides host = none)
    (hliteral : IpAddr.parse host = none) (hname : world.nameError host = none)
    (log : List NetEvent) :
    ∃ log', (resolver.found world ≠ [] ∧
      resolveHost world resolver host port log =
        .ok ((resolver.found world).map fun ip => ⟨ip, port⟩) log') ∨
      (resolver.found world = [] ∧
        ∃ error, resolveHost world resolver host port log =
        .error error log') := by
  obtain ⟨first, hfirst, -⟩ := run_lookup world resolver .a log
  obtain ⟨second, hsecond, -⟩ := run_lookup world resolver .aaaa
    (log ++ first.map (NetEvent.query · .a))
  refine ⟨log ++ first.map (NetEvent.query · .a) ++ second.map
    (NetEvent.query · .aaaa), ?_⟩
  unfold resolveHost
  simp only [hover, hliteral, hname, run_bind, hfirst, hsecond]
  cases hgather :
    gather host (resolver.queryRecord world.crates .a (world.exchanges .a))
      (resolver.queryRecord world.crates .aaaa (world.exchanges .aaaa)) with
  | ok ips =>
      obtain ⟨hips, hsome⟩ := gather_eq_ok.mp hgather
      rw [queryRecord_answers, queryRecord_answers] at hips
      left
      rw [HostResolver.found, ← hips]
      exact ⟨hsome, rfl⟩
  | error error =>
      right
      refine ⟨?_, error, rfl⟩
      by_contra hfound
      have hok : gather host
          (resolver.queryRecord world.crates .a (world.exchanges .a))
          (resolver.queryRecord world.crates .aaaa (world.exchanges .aaaa)) =
            .ok (resolver.found world) := by
        rw [gather_eq_ok, queryRecord_answers, queryRecord_answers]
        exact ⟨rfl, hfound⟩
      rw [hok] at hgather
      cases hgather

/-! ## Resolvers as they are built -/

inductive HostResolver.Built : HostResolver → Prop
  | new (dialer : Dialer) (servers : List SocketAddr) :
        Built (.new dialer servers)
  | withOverride {resolver : HostResolver} (h : Built resolver)
        (hostname : String)
      (pinnedAddr : SocketAddr) :
        Built (resolver.withOverride hostname pinnedAddr)

theorem HostResolver.Built.override_ne_nil (h : resolver.Built)
    {addrs : List SocketAddr} (hover : resolver.overrides host = some addrs) :
    addrs ≠ [] := by
  induction h generalizing addrs with
  | new dialer servers => cases hover
  | @withOverride resolver h hostname pinnedAddr ih =>
      by_cases hsame : host = hostname
      · rw [hsame] at hover
        have hput :
            (resolver.withOverride hostname pinnedAddr).overrides hostname =
            some ((resolver.overrides hostname).getD [] ++ [pinnedAddr]) :=
              Table.put_same ..
        rw [hput] at hover
        cases hover
        simp
      · have hkept :
            (resolver.withOverride hostname pinnedAddr).overrides host =
            resolver.overrides host := Table.put_of_ne hsame
        rw [hkept] at hover
        exact ih hover

theorem resolveHost_ne_nil (hbuilt : resolver.Built) {log log' : List NetEvent}
    {addrs : List SocketAddr}
    (h : resolveHost world resolver host port log = .ok addrs log') :
    addrs ≠ [] := by
  cases hover : resolver.overrides host with
  | some pinned =>
      unfold resolveHost at h
      rw [hover] at h
      cases h
      exact hbuilt.override_ne_nil hover
  | none =>
      cases hliteral : IpAddr.parse host with
      | some ip =>
          unfold resolveHost at h
          rw [hover, hliteral] at h
          cases h
          exact List.cons_ne_nil _ _
      | none =>
          cases hname : world.nameError host with
          | some reason =>
              unfold resolveHost at h
              rw [hover, hliteral, hname] at h
              cases h
          | none =>
              obtain ⟨log'', ⟨hsome, hok⟩ | ⟨-, error, herror⟩⟩ :=
                resolveHost_name port hover hliteral hname log
              · rw [hok] at h
                cases h
                simpa using hsome
              · rw [herror] at h
                cases h

/-! ## The connector, with its panic -/

inductive ConnectEnd where
  | connected
  | failed (error : ConnectorError)
  | panicked
  deriving DecidableEq, Repr

variable (world)

/--
The loop over the addresses: a stream, or the last error if there was one.
-/
def dialLoop : List SocketAddr → Option String → List NetEvent →
    Except (Option String) Unit × List NetEvent
  | [], lastErr, log => (.error lastErr, log)
  | addr :: addrs, _, log =>
      match world.tcp log addr with
      | .ok () => (.ok (), log ++ [.dial addr])
      | .error source => dialLoop addrs (some source) (log ++ [.dial addr])

def connectAddrs (host : String) (addrs : List SocketAddr)
    (log : List NetEvent) :
    ConnectEnd × List NetEvent :=
  if addrs = [] then (.failed (.noAddress host), log)
  else
    match dialLoop world addrs none log with
    | (.ok (), log) => (.connected, log)
    | (.error (some source), log) => (.failed (.connect host source), log)
    | (.error none, log) => (.panicked, log)

def connectEnd (resolver : HostResolver) (uri : Uri) (log : List NetEvent) :
    ConnectEnd × List NetEvent :=
  match parseUriHostPort uri with
  | .error error => (.failed error, log)
  | .ok (host, port) =>
      match resolveHost world resolver host port log with
      | .error source log => (.failed (.resolve host source), log)
      | .ok addrs log => connectAddrs world host addrs log

def ConnectEnd.result : ConnectEnd × List NetEvent →
    Option (EStateM.Result ConnectorError (List NetEvent) Unit)
  | (.connected, log) => some (.ok () log)
  | (.failed error, log) => some (.error error log)
  | (.panicked, _) => none

theorem dialAddrs_eq (host : String) (addrs : List SocketAddr)
    (lastErr : Option String) (log : List NetEvent) :
    dialAddrs world host addrs lastErr log =
      match dialLoop world addrs lastErr log with
      | (.ok (), log) => .ok () log
      | (.error (some source), log) => .error (.connect host source) log
      | (.error none, log) => .error (.noAddress host) log := by
  induction addrs generalizing lastErr log with
  | nil => cases lastErr <;> rfl
  | cons addr addrs ih =>
      simp only [dialAddrs, dialLoop, run_bind, run_get, run_modify]
      cases world.tcp log addr with
      | ok accepted => rfl
      | error source => exact ih (some source) _

theorem dialLoop_spec (addrs : List SocketAddr) (lastErr : Option String)
    (log : List NetEvent) (h : addrs ≠ [] ∨ lastErr.isSome = true) :
    (dialLoop world addrs lastErr log).1 ≠ .error none := by
  induction addrs generalizing lastErr log with
  | nil =>
      cases lastErr with
      | none => simp at h
      | some source => simp [dialLoop]
  | cons addr addrs ih =>
      unfold dialLoop
      cases world.tcp log addr with
      | ok accepted => simp
      | error source => exact ih (some source) _ (.inr rfl)

theorem connectAddrs_ne_panicked (host : String) (addrs : List SocketAddr)
    (log : List NetEvent) :
    (connectAddrs world host addrs log).1 ≠ .panicked := by
  unfold connectAddrs
  by_cases hnone : addrs = []
  · simp [hnone]
  · rw [if_neg hnone]
    have hloop := dialLoop_spec world addrs none log (.inl hnone)
    generalize dialLoop world addrs none log = loop at hloop
    obtain ⟨outcome, log'⟩ := loop
    match outcome, hloop with
    | .ok (), _ => simp
    | .error (some source), _ => simp
    | .error none, hloop => exact absurd rfl hloop

theorem connectAddrs_result (host : String) (addrs : List SocketAddr)
    (log : List NetEvent) :
    ConnectEnd.result (connectAddrs world host addrs log) =
      some (dialAddrs world host addrs none log) := by
  by_cases hnone : addrs = []
  · rw [hnone]
    rfl
  · have hend := connectAddrs_ne_panicked world host addrs log
    rw [dialAddrs_eq]
    unfold connectAddrs at hend ⊢
    rw [if_neg hnone] at hend ⊢
    generalize dialLoop world addrs none log = loop at hend
    obtain ⟨outcome, log'⟩ := loop
    match outcome, hend with
    | .ok (), _ => rfl
    | .error (some source), _ => rfl
    | .error none, hend => exact absurd rfl hend

variable {world}

theorem connectEnd_result (uri : Uri) (log : List NetEvent) :
    ConnectEnd.result (connectEnd world resolver uri log) =
      some (connectTo world resolver uri log) := by
  unfold connectEnd
  cases huri : parseUriHostPort uri with
  | error error =>
      unfold connectTo
      rw [huri]
      rfl
  | ok target =>
      obtain ⟨host, port⟩ := target
      rw [connectTo_eq huri, run_bind]
      unfold EStateM.adaptExcept
      cases hrun : resolveHost world resolver host port log with
      | error source log' =>
          simp only [hrun]
          rfl
      | ok addrs log' =>
          simp only [hrun]
          exact connectAddrs_result world host addrs log'

theorem connectEnd_ne_panicked (uri : Uri) (log : List NetEvent) :
    (connectEnd world resolver uri log).1 ≠ .panicked := by
  unfold connectEnd
  split
  · simp
  · split
    · simp
    · exact connectAddrs_ne_panicked world _ _ _

theorem connectAddrs_ne_noAddress {addrs : List SocketAddr} (h : addrs ≠ [])
    (log : List NetEvent) (other : String) :
    (connectAddrs world host addrs log).1 ≠ .failed (.noAddress other) := by
  unfold connectAddrs
  rw [if_neg h]
  split <;> simp

theorem connectEnd_ne_noAddress (hbuilt : resolver.Built) (uri : Uri)
    (log : List NetEvent) (other : String) :
    (connectEnd world resolver uri log).1 ≠ .failed (.noAddress other) := by
  unfold connectEnd
  split
  · rename_i error herror
    unfold parseUriHostPort at herror
    split at herror
    · cases herror
      simp
    · dsimp only at herror
      split at herror
      · cases herror
        simp
      · cases herror
  · split
    · simp
    · rename_i hrun
      exact connectAddrs_ne_noAddress (resolveHost_ne_nil hbuilt hrun) _ other

/--
The two queries decide what a name is resolved to; no list is empty, and so the
connector neither lacks an address nor panics.
-/
theorem host_resolution_exact (world : NetWorld) {resolver : HostResolver}
    (hbuilt : resolver.Built) :
    (∀ host port log, resolver.overrides host = none →
      IpAddr.parse host = none → world.nameError host = none →
      ((∃ addrs log', resolveHost world resolver host port log =
        .ok addrs log') ↔
        resolver.Answered world) ∧
      ∀ addrs log', resolveHost world resolver host port log = .ok addrs log' →
        ∃ a aaaa, resolver.FirstRecords world .a a ∧
          resolver.FirstRecords world .aaaa aaaa ∧
          addrs = (a ++ aaaa).map fun ip => ⟨ip, port⟩) ∧
    (∀ host port log addrs log',
      resolveHost world resolver host port log = .ok addrs log' → addrs ≠ []) ∧
    ∀ uri log,
      (∀ host, (connectEnd world resolver uri log).1 ≠
        .failed (.noAddress host)) ∧
      (connectEnd world resolver uri log).1 ≠ .panicked ∧
      ConnectEnd.result (connectEnd world resolver uri log) =
        some (connectTo world resolver uri log) := by
  refine ⟨fun host port log hover hliteral hname => ?_,
    fun _ _ _ _ _ => resolveHost_ne_nil hbuilt,
    fun uri log => ⟨connectEnd_ne_noAddress hbuilt uri log,
      connectEnd_ne_panicked uri log, connectEnd_result uri log⟩⟩
  obtain ⟨log', ⟨hsome, hok⟩ | ⟨hnone, error, herror⟩⟩ :=
    resolveHost_name port hover hliteral hname log
  · refine ⟨iff_of_true ⟨_, _, hok⟩ (found_ne_nil.mp hsome),
      fun addrs log'' h => ?_⟩
    rw [hok] at h
    cases h
    exact ⟨_, _, firstAnswer_records (by simp), firstAnswer_records (by simp),
      rfl⟩
  · refine ⟨iff_of_false ?_ (mt found_ne_nil.mpr (not_not.mpr hnone)),
      fun addrs log'' h => ?_⟩
    · rintro ⟨addrs, log'', h⟩
      rw [herror] at h
      cases h
    · rw [herror] at h
      cases h

/-! ## Two servers -/

def answeringServer : SocketAddr := ⟨.v4 (Ipv4Addr.new 10 0 0 53), 53⟩

def answeringReply : Bytes :=
  [0x12, 0x34, 0x81, 0x80, 0, 1, 0, 1, 0, 0, 0, 0, 3, 0x76, 0x70, 0x6e, 7,
    0x65, 0x78, 0x61, 0x6d, 0x70, 0x6c, 0x65, 3, 0x63, 0x6f, 0x6d, 0, 0, 1, 0,
    1, 0xc0, 0x0c, 0, 1, 0, 1, 0, 0, 0, 60, 0, 4, 10, 1, 2, 3]

def answeringWorld : NetWorld where
  crates := {
    toLowercase := id
    parseUrl := fun _ => none
    wildMatch := fun _ _ => false
    fromVec := fun bytes =>
      if bytes = answeringReply then
        some ⟨0x1234, .response, .noError, true, [⟨"vpn.example.com.", .a⟩],
          [⟨"vpn.example.com.", 60, .a (Ipv4Addr.new 10 1 2 3)⟩], [1]⟩
      else none
    toVec := fun _ => none }
  nameError := fun _ => none
  exchanges := fun recordType i =>
    ⟨none, none, if recordType = .a ∧
      i = 1 then [.ok ⟨answeringServer, answeringReply⟩] else []⟩
  tcp := fun _ _ => .ok ()

def answeringResolver : HostResolver :=
  .new ⟨none⟩ [answeringServer, answeringServer]

theorem answeringResolver_answered :
    answeringResolver.Answered answeringWorld :=
  ⟨.a, by simp, 1, _, ⟨answeringServer, rfl, ⟨_, rfl⟩, _, ⟨rfl, rfl⟩, rfl⟩, _,
    List.mem_singleton_self _, rfl⟩

theorem host_resolution_exact_answered :
    (∃ addrs log', resolveHost answeringWorld answeringResolver
        "vpn.example.com" 443 [] = .ok addrs log') ∧
      ∀ addrs log', resolveHost answeringWorld answeringResolver
        "vpn.example.com" 443 [] = .ok addrs log' →
        ∃ a aaaa, answeringResolver.FirstRecords answeringWorld .a a ∧
          answeringResolver.FirstRecords answeringWorld .aaaa aaaa ∧
          addrs = (a ++ aaaa).map fun ip => ⟨ip, 443⟩ := by
  obtain ⟨hiff, haddrs⟩ := (host_resolution_exact answeringWorld
    (.new ⟨none⟩ [answeringServer, answeringServer])).1
    "vpn.example.com" 443 [] rfl (by decide +kernel) rfl
  exact ⟨hiff.mpr answeringResolver_answered, haddrs⟩

end Rustylink.Outbound
