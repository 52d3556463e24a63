import Rustylink.Dns.Answers
import Rustylink.Dns.Subdomain

/-!
# Managed names

Which names the tables answer, and with what: the entry that wins for a name,
the records that are made of its values, and how the two query types agree.
-/

namespace Rustylink.Dns

open Rustylink.Foundation

/-! ## The entry that wins -/

def FirstOver (table : Api.HashMap) (name : String)
    (values : List String) : Prop :=
  ∃ before key after, table = before ++ (key, values) :: after ∧
    Covers key name ∧
    ∀ e ∈ before, ¬ Covers e.1 name

/-- Exact entries win over wildcard ones, and these over suffixes. -/
inductive WinsV4 (tables : DynamicDomainTables) (name : String) :
    List String → Prop where
  | exact {values : List String} (h : get tables.exactV4 name = some values) :
      WinsV4 tables name values
  | wildcard {values : List String} (hexact : ∀ e ∈ tables.exactV4, e.1 ≠ name)
      (h : FirstOver tables.wildcardV4 name values) : WinsV4 tables name values
  | suffix {values : List String} (hexact : ∀ e ∈ tables.exactV4, e.1 ≠ name)
      (hwildcard : ∀ e ∈ tables.wildcardV4, ¬ Covers e.1 name)
      (h : FirstOver tables.suffixV4 name values) : WinsV4 tables name values

def DynamicDomainTables.Manages (tables : DynamicDomainTables)
    (name : String) : Prop :=
  (∃ e ∈ tables.exactV4 ++ tables.exactV6, e.1 = name) ∨
    ∃ e ∈ tables.wildcardV4 ++ tables.suffixV4, IsUnder name e.1

variable {tables : DynamicDomainTables} {table : Api.HashMap} {name : String}
  {values : List String}

theorem mem_of_get (h : get table name = some values) :
    (name, values) ∈ table := by
  unfold get at h
  obtain ⟨e, hfind, rfl⟩ := Option.map_eq_some_iff.mp h
  have hkey : e.1 = name := by simpa using List.find?_some hfind
  rw [← hkey]
  exact List.mem_of_find?_eq_some hfind

theorem lookupTable_some
    (h : DynamicDomainTables.lookupTable table name = some values) :
    FirstOver table name values := by
  unfold DynamicDomainTables.lookupTable at h
  obtain ⟨⟨key, _⟩, hfind, rfl⟩ := Option.map_eq_some_iff.mp h
  obtain ⟨hcovers, before, after, rfl, hbefore⟩ :=
    List.find?_eq_some_iff_append.mp hfind
  refine ⟨before, key, after, rfl, (underPattern_iff_covers key).mp hcovers,
    fun e he => ?_⟩
  rw [← underPattern_iff_covers]
  simpa using hbefore e he

theorem lookupV4_wins (h : tables.lookupV4 name = some values) :
    WinsV4 tables name values := by
  unfold DynamicDomainTables.lookupV4 at h
  cases hexact : get tables.exactV4 name with
  | some found =>
      rw [hexact] at h
      cases h
      exact .exact hexact
  | none =>
      rw [hexact] at h
      cases hwildcard :
          DynamicDomainTables.lookupTable tables.wildcardV4 name with
      | some found =>
          rw [hwildcard] at h
          cases h
          exact .wildcard (get_none_iff.mp hexact) (lookupTable_some hwildcard)
      | none =>
          rw [hwildcard] at h
          exact .suffix (get_none_iff.mp hexact)
            (lookupTable_none_iff.mp hwildcard)
            (lookupTable_some h)

theorem FirstOver.exists_under (h : FirstOver table name values) :
    ∃ e ∈ table, IsUnder name e.1 := by
  obtain ⟨before, key, after, rfl, hcovers, -⟩ := h
  exact ⟨(key, values), by simp, hcovers.2⟩

theorem WinsV4.manages (h : WinsV4 tables name values) :
    tables.Manages name := by
  cases h with
  | exact h => exact .inl ⟨_, List.mem_append_left _ (mem_of_get h), rfl⟩
  | wildcard _ h =>
      obtain ⟨e, he, hunder⟩ := h.exists_under
      exact .inr ⟨e, List.mem_append_left _ he, hunder⟩
  | suffix _ _ h =>
      obtain ⟨e, he, hunder⟩ := h.exists_under
      exact .inr ⟨e, List.mem_append_right _ he, hunder⟩

theorem lookupV6_manages (h : tables.lookupV6 name = some values) :
    tables.Manages name :=
  .inl ⟨_, List.mem_append_right _ (mem_of_get h), rfl⟩

theorem lookup_of_isEmpty (h : tables.isEmpty = true) (name : String) :
    tables.lookupV4 name = none ∧ tables.lookupV6 name = none := by
  simp only [DynamicDomainTables.isEmpty, Bool.and_eq_true,
    List.isEmpty_iff] at h
  obtain ⟨⟨⟨hv4, hv6⟩, hwildcard⟩, hsuffix⟩ := h
  simp [DynamicDomainTables.lookupV4, DynamicDomainTables.lookupV6,
    DynamicDomainTables.lookupTable, get, hv4, hv6, hwildcard, hsuffix]

/-! ## The records -/

def addressText (value : String) : String :=
  trim (String.ofList (value.toList.takeWhile (· ≠ '/')))

theorem splitChars_head (p : Char → Bool) (cs : List Char) :
    (splitChars p cs).head? = some (cs.takeWhile fun c => !p c) := by
  induction cs with
  | nil => rfl
  | cons c cs ih =>
      unfold splitChars
      cases hc : p c with
      | true => simp [hc]
      | false =>
          cases hrest : splitChars p cs with
          | nil => simp [hrest] at ih
          | cons piece pieces =>
              rw [hrest, List.head?_cons, Option.some_inj] at ih
              simp [hc, ih]

theorem valueToken_eq (value : String) :
    valueToken value = addressText value := by
  unfold valueToken addressText split
  rw [List.head?_map, splitChars_head]
  simp

def recordsV4 (name : String) (values : List String) : List Record :=
  values.filterMap fun value =>
    (Ipv4Addr.parse (valueToken value)).map fun ip => ⟨name, dynamicTtl, .a ip⟩

def recordsV6 (name : String) (values : List String) : List Record :=
  values.filterMap fun value =>
    (Ipv6Addr.parse (valueToken value)).map fun ip =>
      ⟨name, dynamicTtl, .aaaa ip⟩

variable {crates : DnsCrates} {config : DnsConfig} {request : DnsMessage}
  {query : Query}
  {payload : Bytes}

theorem tableAnswers_a (hquery : request.queries.head? = some query)
    (htype : query.queryType = .a) :
    tableAnswers crates config request =
      if normalizeDomain crates.toTextCrates query.name = "" then none
      else (config.dynamic.lookupV4
        (normalizeDomain crates.toTextCrates query.name)).bind fun values =>
          if recordsV4 query.name values = [] then none
            else some (recordsV4 query.name values) := by
  unfold tableAnswers
  cases hempty : config.dynamic.isEmpty with
  | true => simp [(lookup_of_isEmpty hempty _).1]
  | false =>
      by_cases hname : normalizeDomain crates.toTextCrates query.name = ""
      · simp [hquery, hname]
      · simp only [hquery, htype, hname, if_false, Bool.false_eq_true,
          Option.bind_eq_bind, Option.bind_some]
        rfl

theorem tableAnswers_aaaa (hquery : request.queries.head? = some query)
    (htype : query.queryType = .aaaa) :
    tableAnswers crates config request =
      if normalizeDomain crates.toTextCrates query.name = "" then none
      else
        ((config.dynamic.lookupV6
          (normalizeDomain crates.toTextCrates query.name)).map
          (recordsV6 query.name)).or
            (if (config.dynamic.lookupV4
                (normalizeDomain crates.toTextCrates query.name)).isSome = true
              then some [] else none) := by
  unfold tableAnswers
  cases hempty : config.dynamic.isEmpty with
  | true => simp [lookup_of_isEmpty hempty]
  | false =>
      by_cases hname : normalizeDomain crates.toTextCrates query.name = ""
      · simp [hquery, hname]
      · simp only [hquery, htype, hname, if_false, Bool.false_eq_true,
          Option.bind_eq_bind, Option.bind_some]
        cases config.dynamic.lookupV6
          (normalizeDomain crates.toTextCrates query.name) <;> rfl

theorem tableAnswers_other {code : Nat}
    (hquery : request.queries.head? = some query)
    (htype : query.queryType = .other code) :
    tableAnswers crates config request = none := by
  unfold tableAnswers
  cases config.dynamic.isEmpty with
  | true => simp
  | false =>
      by_cases hname : normalizeDomain crates.toTextCrates query.name = "" <;>
        simp [hquery, htype, hname]

theorem recordsV4_eq_nil : recordsV4 name values = [] ↔
    ∀ value ∈ values, Ipv4Addr.parse (valueToken value) = none := by
  simp [recordsV4, List.filterMap_eq_nil_iff]

/-! ## The two query types -/

structure Asks (crates : DnsCrates) (config : DnsConfig) (payload : Bytes)
    (request : DnsMessage) (query : Query) : Prop where
  decodes : crates.fromVec payload = some request
  question : request.queries.head? = some query
  encodes : ∀ answers, tableAnswers crates config request = some answers →
    (crates.toVec (request.reply .noError answers)).isSome = true

def AnswersNodata (crates : DnsCrates) (config : DnsConfig) (payload : Bytes)
    (request : DnsMessage) : Prop :=
  ∃ reply, synthesize crates config payload = some reply ∧
    crates.toVec (request.reply .noError []) = some reply

theorem Asks.synthesize_eq (h : Asks crates config payload request query) :
    synthesize crates config payload =
      (tableAnswers crates config request).bind fun answers =>
        crates.toVec (request.reply .noError answers) := by
  rw [Dns.synthesize_eq, h.decodes, Option.bind_some]

theorem Asks.synthesize_isSome (h : Asks crates config payload request query) :
    (synthesize crates config payload).isSome = true ↔
      (tableAnswers crates config request).isSome = true := by
  rw [h.synthesize_eq]
  cases hanswers : tableAnswers crates config request with
  | none => simp
  | some answers => simp [h.encodes answers hanswers]

theorem Asks.a_isSome (h : Asks crates config payload request query)
    (htype : query.queryType = .a) :
    (synthesize crates config payload).isSome = true ↔
      normalizeDomain crates.toTextCrates query.name ≠ "" ∧ ∃ values,
        config.dynamic.lookupV4
          (normalizeDomain crates.toTextCrates query.name) = some values ∧
        ∃ value ∈ values, (Ipv4Addr.parse (valueToken value)).isSome =
          true := by
  rw [h.synthesize_isSome, tableAnswers_a h.question htype]
  by_cases hname : normalizeDomain crates.toTextCrates query.name = ""
  · simp [hname]
  · cases config.dynamic.lookupV4
        (normalizeDomain crates.toTextCrates query.name) with
    | none => simp [hname]
    | some values =>
        by_cases hnil : recordsV4 query.name values = []
        · have hnone := recordsV4_eq_nil.mp hnil
          simp +contextual [hname, hnil, hnone]
        · have hsome : ∃ value ∈ values,
              (Ipv4Addr.parse (valueToken value)).isSome = true := by
            simpa [recordsV4_eq_nil, Option.isSome_iff_ne_none] using hnil
          simpa [hname, hnil] using hsome

theorem Asks.aaaa_nodata (h : Asks crates config payload request query)
    (htype : query.queryType = .aaaa)
    (hv6 : config.dynamic.lookupV6
      (normalizeDomain crates.toTextCrates query.name) = none) :
    AnswersNodata crates config payload request ↔
      normalizeDomain crates.toTextCrates query.name ≠ "" ∧
        (config.dynamic.lookupV4
          (normalizeDomain crates.toTextCrates query.name)).isSome = true := by
  have htable : tableAnswers crates config request = _ :=
    tableAnswers_aaaa h.question htype
  have hencodes := h.encodes []
  unfold AnswersNodata
  rw [h.synthesize_eq]
  rw [hv6, Option.map_none, Option.none_or] at htable
  by_cases hname : normalizeDomain crates.toTextCrates query.name = ""
  · rw [if_pos hname] at htable
    simp [htable, hname]
  · rw [if_neg hname] at htable
    split at htable
    · rename_i hmanaged
      obtain ⟨reply, hreply⟩ := Option.isSome_iff_exists.mp (hencodes htable)
      simp [htable, hname, hmanaged, hreply]
    · rename_i hmanaged
      simp [htable, hmanaged]

/--
AAAA is suppressed for exactly the names that are answered for A, unless the
entry of a name has no value that is an IPv4 address.
-/
theorem aaaa_suppressed_iff_answered {name : String}
    {payloadA payloadAaaa : Bytes} {requestA requestAaaa : DnsMessage}
    (ha : Asks crates config payloadA requestA ⟨name, .a⟩)
    (haaaa : Asks crates config payloadAaaa requestAaaa ⟨name, .aaaa⟩)
    (hv6 : config.dynamic.lookupV6 (normalizeDomain crates.toTextCrates name) =
      none) :
    (AnswersNodata crates config payloadAaaa requestAaaa ↔
        (synthesize crates config payloadA).isSome = true) ↔
      (normalizeDomain crates.toTextCrates name = "" ∨
        ∀ values, config.dynamic.lookupV4
          (normalizeDomain crates.toTextCrates name) =
          some values → ∃ value ∈ values,
            (Ipv4Addr.parse (valueToken value)).isSome = true) := by
  rw [ha.a_isSome rfl, haaaa.aaaa_nodata rfl hv6]
  dsimp only
  by_cases hname : normalizeDomain crates.toTextCrates name = ""
  · simp [hname]
  · cases config.dynamic.lookupV4 (normalizeDomain crates.toTextCrates name) <;>
      simp [hname]

def gitQuestion (type : UInt8) : Bytes :=
  [3, 0x67, 0x69, 0x74, 4, 0x63, 0x6f, 0x72, 0x70, 0, 0, type, 0, 1]

def gitQuery (type : UInt8) : Bytes :=
  [0x12, 0x34, 1, 0, 0, 1, 0, 0, 0, 0, 0, 0] ++ gitQuestion type

def gitRequest (type : RecordType) : DnsMessage :=
  ⟨0x1234, .query, .noError, false, [⟨"git.corp.", type⟩], [], [1]⟩

def gitRecord : Record := ⟨"git.corp.", 3600, .a 0x0a090909⟩

def gitReply : Bytes :=
  [0x12, 0x34, 0x81, 0x80, 0, 1, 0, 1, 0, 0, 0, 0] ++ gitQuestion 1 ++
    [0xc0, 0x0c, 0, 1, 0, 1, 0, 0, 0x0e, 0x10, 0, 4, 10, 9, 9, 9]

def gitNodata : Bytes :=
  [0x12, 0x34, 0x81, 0x80, 0, 1, 0, 0, 0, 0, 0, 0] ++ gitQuestion 28

def gitMessages : List (Bytes × DnsMessage) :=
  [(gitQuery 1, gitRequest .a), (gitQuery 28, gitRequest .aaaa),
    (gitReply, (gitRequest .a).reply .noError [gitRecord]),
    (gitNodata, (gitRequest .aaaa).reply .noError [])]

def gitCrates : DnsCrates where
  toTextCrates := asciiCrates
  fromVec :=
    fun bytes => (gitMessages.find? fun pair => pair.1 = bytes).map Prod.snd
  toVec :=
    fun message => (gitMessages.find? fun pair => pair.2 = message).map Prod.fst

def gitConfig (values : List String) : DnsConfig :=
  ⟨false, ["10.0.0.53:53"], [], ⟨[("git.corp", values)], [], [], []⟩⟩

theorem gitQuery_asks (values : List String)
    (htable : tableAnswers gitCrates (gitConfig values)
      (gitRequest .a) = none ∨
    tableAnswers gitCrates (gitConfig values) (gitRequest .a) =
      some [gitRecord]) :
    Asks gitCrates (gitConfig values) (gitQuery 1) (gitRequest .a)
      ⟨"git.corp.", .a⟩ where
  decodes := by decide +kernel
  question := rfl
  encodes answers h := by
    rcases htable with hnone | hrecord
    · rw [hnone] at h
      cases h
    · rw [hrecord] at h
      cases h
      decide +kernel

theorem gitQuery_asks_aaaa (values : List String)
    (htable : tableAnswers gitCrates (gitConfig values) (gitRequest .aaaa) =
      some []) :
    Asks gitCrates (gitConfig values) (gitQuery 28) (gitRequest .aaaa)
      ⟨"git.corp.", .aaaa⟩ where
  decodes := by decide +kernel
  question := rfl
  encodes answers h := by
    rw [htable] at h
    cases h
    decide +kernel

theorem aaaa_suppressed_git :
    (AnswersNodata gitCrates (gitConfig ["10.9.9.9/32"]) (gitQuery 28)
      (gitRequest .aaaa) ↔
        (synthesize gitCrates (gitConfig ["10.9.9.9/32"]) (gitQuery 1)).isSome =
          true) ↔
      (normalizeDomain asciiCrates "git.corp." = "" ∨
        ∀ values, (gitConfig ["10.9.9.9/32"]).dynamic.lookupV4
            (normalizeDomain asciiCrates "git.corp.") = some values →
          ∃ value ∈ values, (Ipv4Addr.parse (valueToken value)).isSome =
            true) :=
  aaaa_suppressed_iff_answered (gitQuery_asks _ (.inr (by decide +kernel)))
    (gitQuery_asks_aaaa _ (by decide +kernel)) (by decide +kernel)

/--
A value that is no address: AAAA is suppressed, and A goes to the upstream.
-/
theorem aaaa_suppressed_alone :
    Asks gitCrates (gitConfig ["gateway.corp"]) (gitQuery 1) (gitRequest .a)
        ⟨"git.corp.", .a⟩ ∧
      Asks gitCrates (gitConfig ["gateway.corp"]) (gitQuery 28)
        (gitRequest .aaaa) ⟨"git.corp.", .aaaa⟩ ∧
      (gitConfig ["gateway.corp"]).dynamic.lookupV6
        (normalizeDomain asciiCrates "git.corp.") = none ∧
      ¬ (AnswersNodata gitCrates (gitConfig ["gateway.corp"]) (gitQuery 28)
        (gitRequest .aaaa) ↔
        (synthesize gitCrates (gitConfig ["gateway.corp"])
          (gitQuery 1)).isSome = true) := by
  refine ⟨gitQuery_asks _ (.inl (by decide +kernel)),
    gitQuery_asks_aaaa _ (by decide +kernel), by decide +kernel, fun h => ?_⟩
  have hnodata : AnswersNodata gitCrates (gitConfig ["gateway.corp"])
      (gitQuery 28)
      (gitRequest .aaaa) :=
    ⟨gitNodata, by decide +kernel, by decide +kernel⟩
  have hnone : (synthesize gitCrates (gitConfig ["gateway.corp"])
      (gitQuery 1)).isSome = false := by
    decide +kernel
  rw [h.mp hnodata] at hnone
  cases hnone

/-! ## What is synthesized -/

inductive RecordsOf (tables : DynamicDomainTables) (name : String)
    (query : Query) :
    List Record → Prop where
  | a {values : List String} (htype : query.queryType = .a)
        (hwins : WinsV4 tables name values)
      (hsome : ∃ value ∈ values, (Ipv4Addr.parse (addressText value)).isSome =
        true) :
      RecordsOf tables name query (values.filterMap fun value =>
        (Ipv4Addr.parse (addressText value)).map fun ip =>
          ⟨query.name, 3600, .a ip⟩)
  | aaaa {values : List String} (htype : query.queryType = .aaaa)
      (hentry : get tables.exactV6 name = some values) :
      RecordsOf tables name query (values.filterMap fun value =>
        (Ipv6Addr.parse (addressText value)).map fun ip =>
          ⟨query.name, 3600, .aaaa ip⟩)
  | nodata {values : List String} (htype : query.queryType = .aaaa)
      (hentry : get tables.exactV6 name = none)
      (hwins : WinsV4 tables name values) :
      RecordsOf tables name query []

theorem tableAnswers_recordsOf {answers : List Record}
    (h : tableAnswers crates config request = some answers) :
    ∃ query, request.queries.head? = some query ∧
      RecordsOf config.dynamic (normalizeDomain crates.toTextCrates query.name)
        query answers := by
  cases hquery : request.queries.head? with
  | none =>
      unfold tableAnswers at h
      split at h <;> simp [hquery] at h
  | some query =>
      refine ⟨query, rfl, ?_⟩
      cases htype : query.queryType with
      | other code =>
          rw [tableAnswers_other hquery htype] at h
          cases h
      | a =>
          rw [tableAnswers_a hquery htype] at h
          split at h
          · cases h
          · obtain ⟨values, hlookup, hrecords⟩ := Option.bind_eq_some_iff.mp h
            split at hrecords
            · cases hrecords
            · rename_i hnil
              cases hrecords
              have hsome : ∃ value ∈ values,
                  (Ipv4Addr.parse (addressText value)).isSome = true := by
                simpa [recordsV4_eq_nil, Option.isSome_iff_ne_none,
                  valueToken_eq] using hnil
              simpa only [recordsV4, valueToken_eq, dynamicTtl] using
                RecordsOf.a htype (lookupV4_wins hlookup) hsome
      | aaaa =>
          rw [tableAnswers_aaaa hquery htype] at h
          split at h
          · cases h
          · cases hv6 : config.dynamic.lookupV6
                (normalizeDomain crates.toTextCrates query.name) with
            | some values =>
                rw [hv6] at h
                cases h
                simpa only [recordsV6, valueToken_eq,
                  dynamicTtl] using RecordsOf.aaaa htype hv6
            | none =>
                rw [hv6, Option.map_none, Option.none_or] at h
                split at h
                · rename_i hmanaged
                  cases h
                  obtain ⟨values, hlookup⟩ :=
                    Option.isSome_iff_exists.mp hmanaged
                  exact .nodata htype hv6 (lookupV4_wins hlookup)
                · cases h

variable {answers : List Record}

theorem RecordsOf.type (h : RecordsOf tables name query answers) :
    query.queryType = .a ∨ query.queryType = .aaaa := by
  cases h with
  | a htype => exact .inl htype
  | aaaa htype => exact .inr htype
  | nodata htype => exact .inr htype

theorem RecordsOf.manages (h : RecordsOf tables name query answers) :
    tables.Manages name := by
  cases h with
  | a _ hwins => exact hwins.manages
  | aaaa _ hentry => exact lookupV6_manages hentry
  | nodata _ _ hwins => exact hwins.manages

theorem RecordsOf.ttl (h : RecordsOf tables name query answers) :
    ∀ record ∈ answers, record.ttl = 3600 ∧ record.name = query.name := by
  intro record hrecord
  cases h with
  | nodata => cases hrecord
  | a _ _ _ =>
      obtain ⟨value, -, hvalue⟩ := List.mem_filterMap.mp hrecord
      obtain ⟨ip, -, rfl⟩ := Option.map_eq_some_iff.mp hvalue
      exact ⟨rfl, rfl⟩
  | aaaa _ _ =>
      obtain ⟨value, -, hvalue⟩ := List.mem_filterMap.mp hrecord
      obtain ⟨ip, -, rfl⟩ := Option.map_eq_some_iff.mp hvalue
      exact ⟨rfl, rfl⟩

theorem RecordsOf.ne_nil (h : RecordsOf tables name query answers)
    (htype : query.queryType = .a) : answers ≠ [] := by
  cases h with
  | a _ _ hsome =>
      obtain ⟨value, hvalue, hparse⟩ := hsome
      intro hnil
      have hnone := List.filterMap_eq_nil_iff.mp hnil value hvalue
      rw [Option.map_eq_none_iff] at hnone
      simp [hnone] at hparse
  | aaaa htype' => rw [htype] at htype'; cases htype'
  | nodata htype' => rw [htype] at htype'; cases htype'

/--
What is synthesized for a query without answers is the encoding of a NOERROR
response to it, with the records that the tables have for its first question.
-/
theorem synthesize_sound {reply : Bytes}
    (hrequest : crates.fromVec payload = some request)
    (hanswers : request.answers = [])
    (h : synthesize crates config payload = some reply) :
    ∃ query response, request.queries.head? = some query ∧
      crates.toVec response = some reply ∧
      (crates.Lawful → crates.fromVec reply = some response) ∧
      (query.queryType = .a ∨ query.queryType = .aaaa) ∧
      config.dynamic.Manages (normalizeDomain crates.toTextCrates query.name) ∧
      response.id = request.id ∧ response.queries = request.queries ∧
      response.messageType = .response ∧ response.responseCode = .noError ∧
      (∀ record ∈ response.answers, record.ttl = 3600 ∧
        record.name = query.name) ∧
      RecordsOf config.dynamic (normalizeDomain crates.toTextCrates query.name)
        query response.answers ∧
      (query.queryType = .a → response.answers ≠ []) := by
  rw [synthesize_eq, hrequest, Option.bind_some] at h
  obtain ⟨answers, htable, hencoded⟩ := Option.bind_eq_some_iff.mp h
  obtain ⟨query, hquery, hrecords⟩ := tableAnswers_recordsOf htable
  have hresponse : (request.reply .noError answers).answers = answers := by
    simp [DnsMessage.reply, hanswers]
  refine ⟨query, request.reply .noError answers, hquery, hencoded,
    fun hcodec => hcodec.decodes _ _ hencoded, hrecords.type, hrecords.manages,
    rfl, rfl, rfl, rfl, ?_, ?_, ?_⟩ <;> rw [hresponse]
  · exact hrecords.ttl
  · exact hrecords
  · exact hrecords.ne_nil

theorem synthesize_sound_git :
    ∃ query response, (gitRequest .a).queries.head? = some query ∧
      gitCrates.toVec response = some gitReply ∧
      RecordsOf (gitConfig ["10.9.9.9/32"]).dynamic
        (normalizeDomain asciiCrates query.name) query
        response.answers := by
  have hrequest : gitCrates.fromVec (gitQuery 1) = some (gitRequest .a) := by
    decide +kernel
  have hreply : synthesize gitCrates (gitConfig ["10.9.9.9/32"]) (gitQuery 1) =
      some gitReply := by decide +kernel
  obtain ⟨query, response, hquery, hencoded, -, -, -, -, -, -, -, -,
      hrecords, -⟩ :=
    synthesize_sound hrequest rfl hreply
  exact ⟨query, response, hquery, hencoded, hrecords⟩

end Rustylink.Dns
