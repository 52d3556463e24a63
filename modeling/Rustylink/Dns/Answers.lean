import Rustylink.Dns.Resolver

/-!
# What a client is answered

`resolve` answers from the tables, with an upstream datagram, or with a
failure that it makes of the query.  The last two steps of the making have a
fallback, and both fall back to the query itself.
-/

namespace Rustylink.Dns

open Rustylink.Foundation

/-! ## The header on the wire -/

def transactionId (bytes : Bytes) : Nat :=
  256 * (bytes.getD 0 0).toNat + (bytes.getD 1 0).toNat

def isResponse (bytes : Bytes) : Bool := 128 ≤ (bytes.getD 2 0).toNat

/--
The codec decodes what it encodes, and takes the id and the message type from
their places in the header.
-/
structure DnsCrates.Lawful (crates : DnsCrates) : Prop where
  decodes : ∀ message bytes, crates.toVec message = some bytes →
    crates.fromVec bytes = some message
  id : ∀ message bytes, crates.fromVec bytes = some message →
    transactionId bytes = message.id
  messageType : ∀ message bytes, crates.fromVec bytes = some message →
    (isResponse bytes = true ↔ message.messageType = .response)

/--
A DNS message that answers the query: a response with its id, and not the
query.
-/
structure Answers (crates : DnsCrates) (payload reply : Bytes) : Prop where
  decodes : (crates.fromVec reply).isSome = true
  response : isResponse reply = true
  id : transactionId reply = transactionId payload
  fresh : reply ≠ payload

/-! ## The reply that is made of a message -/

def DnsMessage.reply (code : ResponseCode) (answers : List Record)
    (message : DnsMessage) :
    DnsMessage :=
  { message with
    messageType := .response
    responseCode := code
    recursionAvailable := true
    answers := message.answers ++ answers }

variable (crates : DnsCrates)

def tableAnswers (config : DnsConfig) (request : DnsMessage) :
    Option (List Record) := do
  if config.dynamic.isEmpty then none
  let question ← request.queries.head?
  let name := normalizeDomain crates.toTextCrates question.name
  if name = "" then none
  match question.queryType with
  | .a =>
      let values ← config.dynamic.lookupV4 name
      let answers := values.filterMap fun value =>
        (Ipv4Addr.parse (valueToken value)).map fun ip =>
          { name := question.name, ttl := dynamicTtl, data := .a ip : Record }
      if answers = [] then none else some answers
  | .aaaa =>
      match config.dynamic.lookupV6 name with
      | some values =>
          some (values.filterMap fun value =>
            (Ipv6Addr.parse (valueToken value)).map fun ip =>
              { name := question.name, ttl := dynamicTtl,
                data := .aaaa ip : Record })
      | none => if (config.dynamic.lookupV4 name).isSome then some [] else none
  | .other _ => none

theorem synthesize_eq (config : DnsConfig) (payload : Bytes) :
    synthesize crates config payload =
      (crates.fromVec payload).bind fun request =>
        (tableAnswers crates config request).bind fun answers =>
          crates.toVec (request.reply .noError answers) := by
  unfold synthesize tableAnswers
  cases hempty : config.dynamic.isEmpty with
  | true => cases crates.fromVec payload <;> simp
  | false =>
      cases hrequest : crates.fromVec payload with
      | none => simp
      | some request =>
          cases hquestion : request.queries.head? with
          | none => simp [hquestion]
          | some question =>
              by_cases hname :
                normalizeDomain crates.toTextCrates question.name = ""
              · simp [hquestion, hname]
              · simp only [hquestion, hname, Bool.false_eq_true, if_false,
                  Option.bind_some, Option.bind_eq_bind]
                cases question.queryType with
                | a =>
                    cases config.dynamic.lookupV4
                        (normalizeDomain crates.toTextCrates question.name) with
                    | none => rfl
                    | some values =>
                        simp only [Option.bind_some]
                        split <;> rfl
                | aaaa =>
                    cases config.dynamic.lookupV6
                        (normalizeDomain crates.toTextCrates question.name) with
                    | none =>
                        dsimp only
                        split <;> rfl
                    | some values => rfl
                | other code => rfl

def localReply (config : DnsConfig) (message : DnsMessage) : DnsMessage :=
  match tableAnswers crates config message with
  | none => message.reply .servFail []
  | some answers =>
      if (crates.toVec (message.reply .noError answers)).isSome then
        message.reply .noError answers
      else message.reply .servFail []

/--
The query decodes and the reply made of it encodes, and the query is not the
encoding of a message that is its own reply.
-/
def Answerable (config : DnsConfig) (payload : Bytes) : Prop :=
  ∃ message, crates.fromVec payload = some message ∧
    (crates.toVec (localReply crates config message)).isSome = true ∧
    ¬ (localReply crates config message = message ∧
      crates.toVec message = some payload)

/-! ## What comes back without an upstream datagram -/

variable {crates} {resolver : DnsResolver} {payload : Bytes}
  {upstream : Upstream}

theorem synthesizeFailure_eq (payload : Bytes) (code : ResponseCode) :
    synthesizeFailure crates payload code =
      ((crates.fromVec payload).bind fun message =>
        crates.toVec (message.reply code [])).getD payload := by
  unfold synthesizeFailure DnsMessage.reply
  cases crates.fromVec payload <;> simp

theorem localReply_eq (message : DnsMessage) (config : DnsConfig) :
    crates.toVec (localReply crates config message) =
      ((tableAnswers crates config message).bind fun answers =>
        crates.toVec (message.reply .noError answers)).or
          (crates.toVec (message.reply .servFail [])) := by
  unfold localReply
  cases tableAnswers crates config message with
  | none => simp
  | some answers =>
      cases hencoded : crates.toVec (message.reply .noError answers) <;>
        simp [hencoded]

theorem resolve_eq (hlocal : synthesize crates resolver.config payload = none →
      (resolver.forward crates payload upstream).1 = none) :
    (resolver.resolve crates payload upstream).1 =
      ((crates.fromVec payload).bind fun message =>
        crates.toVec (localReply crates resolver.config message)).getD
          payload := by
  unfold DnsResolver.resolve
  simp only [localReply_eq]
  rw [synthesize_eq] at hlocal ⊢
  cases hrequest : crates.fromVec payload with
  | none =>
      rw [hrequest] at hlocal
      simp [hlocal rfl, synthesizeFailure_eq, hrequest]
  | some request =>
      simp only [hrequest, Option.bind_some] at hlocal ⊢
      cases hanswer :
          (tableAnswers crates resolver.config request).bind fun answers =>
            crates.toVec (request.reply .noError answers) with
      | none => simp [hlocal hanswer, synthesizeFailure_eq, hrequest]
      | some answer => simp

/--
Without an upstream datagram the client gets a response to its query exactly
when the query decodes and the reply made of it encodes, to something else.
-/
theorem resolve_answers_iff (hcodec : crates.Lawful)
    (hlocal : synthesize crates resolver.config payload = none →
      (resolver.forward crates payload upstream).1 = none) :
    Answers crates payload (resolver.resolve crates payload upstream).1 ↔
      Answerable crates resolver.config payload := by
  rw [resolve_eq hlocal]
  constructor
  · intro hanswers
    have hfresh := hanswers.fresh
    cases hrequest : crates.fromVec payload with
    | none => simp [hrequest] at hfresh
    | some message =>
        cases hreply :
            crates.toVec (localReply crates resolver.config message) with
        | none => simp [hrequest, hreply] at hfresh
        | some reply =>
            refine ⟨message, hrequest, by simp [hreply], ?_⟩
            rintro ⟨hsame, hencoded⟩
            rw [hsame, hencoded] at hreply
            simp [hrequest, hsame, hencoded] at hfresh
  · rintro ⟨message, hrequest, hencodes, hnotsame⟩
    obtain ⟨reply, hreply⟩ := Option.isSome_iff_exists.mp hencodes
    have hdecoded := hcodec.decodes _ _ hreply
    have hmade : (localReply crates resolver.config message).messageType =
        .response ∧
        (localReply crates resolver.config message).id = message.id := by
      unfold localReply
      split
      · exact ⟨rfl, rfl⟩
      · split <;> exact ⟨rfl, rfl⟩
    simp only [hrequest, Option.bind_some, hreply, Option.getD_some]
    refine ⟨by simp [hdecoded],
      (hcodec.messageType _ _ hdecoded).mpr hmade.1, ?_, ?_⟩
    · rw [hcodec.id _ _ hdecoded, hcodec.id _ _ hrequest, hmade.2]
    · rintro rfl
      rw [hrequest] at hdecoded
      have hsame := Option.some.inj hdecoded
      exact hnotsame ⟨hsame.symm, by rwa [← hsame] at hreply⟩

def vpnQuestion : Bytes :=
  [3, 0x76, 0x70, 0x6e, 7, 0x65, 0x78, 0x61, 0x6d, 0x70, 0x6c, 0x65, 3, 0x63,
    0x6f, 0x6d, 0, 0, 1, 0, 1]

def vpnQuery : Bytes :=
  [0x12, 0x34, 1, 0, 0, 1, 0, 0, 0, 0, 0, 0] ++ vpnQuestion

def vpnFailure : Bytes :=
  [0x12, 0x34, 0x81, 0x82, 0, 1, 0, 0, 0, 0, 0, 0] ++ vpnQuestion

def vpnMessage : DnsMessage :=
  ⟨0x1234, .query, .noError, false, [⟨"vpn.example.com.", .a⟩], [], [1]⟩

def wireForms : List (Bytes × DnsMessage) :=
  [(vpnQuery, vpnMessage), (vpnFailure, vpnMessage.reply .servFail []),
    ([0x12, 0x34, 1, 0, 0, 0, 0, 0, 0, 0, 0, 0],
      { vpnMessage with queries := [] }),
    ([0x12, 0x34, 0x81, 0x82, 0, 0, 0, 0, 0, 0, 0, 0],
      ({ vpnMessage with queries := [] }).reply .servFail [])]

def wireCrates : DnsCrates where
  toLowercase := id
  parseUrl := fun _ => none
  wildMatch := fun pattern text => pattern = text
  fromVec := fun bytes => (wireForms.find? (·.1 = bytes)).map (·.2)
  toVec := fun message => (wireForms.find? (·.2 = message)).map (·.1)

theorem wireCrates_lawful : wireCrates.Lawful := by
  have hfrom : ∀ message bytes, wireCrates.fromVec bytes = some message →
      (bytes, message) ∈ wireForms := by
    intro message bytes h
    obtain ⟨form, hform, rfl⟩ := Option.map_eq_some_iff.mp h
    have hbytes : form.1 = bytes := by simpa using List.find?_some hform
    rw [← hbytes]
    exact List.mem_of_find?_eq_some hform
  have hto : ∀ message bytes, wireCrates.toVec message = some bytes →
      (bytes, message) ∈ wireForms := by
    intro message bytes h
    obtain ⟨form, hform, rfl⟩ := Option.map_eq_some_iff.mp h
    have hmessage : form.2 = message := by simpa using List.find?_some hform
    rw [← hmessage]
    exact List.mem_of_find?_eq_some hform
  have hdecodes : ∀ form ∈ wireForms, wireCrates.fromVec form.1 =
      some form.2 := by
    decide +kernel
  have hid : ∀ form ∈ wireForms, transactionId form.1 = form.2.id := by
    decide +kernel
  have htype : ∀ form ∈ wireForms,
      (isResponse form.1 = true ↔ form.2.messageType = .response) := by
    decide +kernel
  exact {
    decodes := fun message bytes h => hdecodes _ (hto message bytes h)
    id := fun message bytes h => hid _ (hfrom message bytes h)
    messageType := fun message bytes h => htype _ (hfrom message bytes h) }

def silentResolver : DnsResolver where
  config := ⟨false, ["10.0.0.53:53"], [], ⟨[], [], [], []⟩⟩
  vpnServers := [⟨.v4 (Ipv4Addr.new 10 0 0 53), 53⟩]
  systemServers := [⟨.v4 (Ipv4Addr.new 192 168 1 1), 53⟩,
    ⟨.v4 (Ipv4Addr.new 192 168 1 2), 53⟩]
  vpnDnsIps := [.v4 (Ipv4Addr.new 10 0 0 53)]
  directedDialer := ⟨none⟩

theorem resolve_answers_iff_vpnQuery :
    Answers wireCrates vpnQuery
      (silentResolver.resolve wireCrates vpnQuery ⟨fun _ => true, []⟩).1 :=
  (resolve_answers_iff wireCrates_lawful fun _ => by decide +kernel).mpr
    ⟨vpnMessage, by decide +kernel, by decide +kernel, by decide +kernel⟩

def truncatedQuery : Bytes := [0x12, 0x34, 1, 0, 0, 1, 0, 0, 0, 0, 0, 0]

theorem truncatedQuery_echoed :
    ¬ ∀ (crates : DnsCrates) (resolver : DnsResolver) (payload :
      Bytes) (upstream : Upstream), crates.Lawful → 12 ≤ payload.length →
      (synthesize crates resolver.config payload = none →
        (resolver.forward crates payload upstream).1 = none) →
      Answers crates payload (resolver.resolve crates payload upstream).1 := by
  intro h
  have hanswers :=
    h wireCrates silentResolver truncatedQuery ⟨fun _ => true, []⟩
    wireCrates_lawful (by decide) fun _ => by decide +kernel
  exact hanswers.fresh (by decide +kernel)

end Rustylink.Dns
