import Rustylink.Dns.Config

/-!
# Answers from the dynamic-domain tables

A query for a managed name is answered locally.  Encoding and decoding of DNS
messages is a third-party codec; a message is what it decodes to.
-/

namespace Rustylink.Dns

open Rustylink.Foundation

abbrev Bytes := List UInt8

inductive RecordType where
  | a
  | aaaa
  | other (code : Nat)
  deriving DecidableEq, Repr

inductive RData where
  | a (address : BitVec 32)
  | aaaa (address : BitVec 128)
  | other (code : Nat) (data : Bytes)
  deriving DecidableEq, Repr

def RData.recordType : RData → RecordType
  | .a _ => .a
  | .aaaa _ => .aaaa
  | .other code _ => .other code

inductive MessageType where
  | query
  | response
  deriving DecidableEq, Repr

inductive ResponseCode where
  | noError
  | servFail
  | other (code : Nat)
  deriving DecidableEq, Repr

structure Query where
  name : String
  queryType : RecordType
  deriving DecidableEq, Repr

structure Record where
  name : String
  ttl : Nat
  data : RData
  deriving DecidableEq, Repr

/-- A decoded message; `rest` is everything that the code only copies. -/
structure DnsMessage where
  id : Nat
  messageType : MessageType
  responseCode : ResponseCode
  recursionAvailable : Bool
  queries : List Query
  answers : List Record
  rest : Bytes
  deriving DecidableEq, Repr

structure DnsCrates extends TextCrates where
  fromVec : Bytes → Option DnsMessage
  toVec : DnsMessage → Option Bytes

def dynamicTtl : Nat := 3600

variable (crates : DnsCrates)

def buildResponse (request : DnsMessage)
    (answers : List Record) : Option Bytes :=
  crates.toVec { request with
    messageType := .response
    responseCode := .noError
    recursionAvailable := true
    answers := request.answers ++ answers }

def synthesize (config : DnsConfig) (payload : Bytes) : Option Bytes := do
  if config.dynamic.isEmpty then none
  let request ← crates.fromVec payload
  let question ← request.queries.head?
  let name := normalizeDomain crates.toTextCrates question.name
  if name = "" then none
  match question.queryType with
  | .a =>
      let values ← config.dynamic.lookupV4 name
      let answers := values.filterMap fun value =>
        (Ipv4Addr.parse (valueToken value)).map fun ip =>
          { name := question.name, ttl := dynamicTtl, data := .a ip : Record }
      if answers = [] then none
      buildResponse crates request answers
  | .aaaa =>
      match config.dynamic.lookupV6 name with
      | some values =>
          buildResponse crates request (values.filterMap fun value =>
            (Ipv6Addr.parse (valueToken value)).map fun ip =>
              { name := question.name, ttl := dynamicTtl,
                data := .aaaa ip : Record })
      | none =>
          -- managed for IPv4 only: suppress AAAA with NODATA
          if (config.dynamic.lookupV4 name).isSome then
            buildResponse crates request []
          else none
  | .other _ => none

def synthesizeFailure (queryPayload : Bytes) (code : ResponseCode) : Bytes :=
  match crates.fromVec queryPayload with
  | some message =>
      (crates.toVec { message with
        messageType := .response
        responseCode := code
        recursionAvailable := true }).getD queryPayload
  | none => queryPayload

def parseQuestionDomain (payload : Bytes) : Option String := do
  let message ← crates.fromVec payload
  let query ← message.queries.head?
  return normalizeDomain crates.toTextCrates query.name

end Rustylink.Dns
