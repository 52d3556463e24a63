import Rustylink.Api.Vpn
import Rustylink.Foundation.NetText
import Rustylink.Foundation.Text

/-!
# DNS configuration from the `/vpn/conn` response

The resolver endpoints, the split-domain matchers and the dynamic-domain
answer tables.  What the code takes from third-party crates and from the
Unicode case tables is a parameter.
-/

namespace Rustylink.Dns

open Rustylink.Foundation Rustylink.Api

inductive Host where
  | domain (domain : String)
  | ipv4 (address : BitVec 32)
  | ipv6 (address : BitVec 128)
  deriving DecidableEq, Repr

structure Url where
  scheme : String
  path : String
  host : Option Host
  port : Option Nat
  deriving DecidableEq, Repr

/-- Lower-casing, URL parsing and wildcard matching. -/
structure TextCrates where
  toLowercase : String → String
  parseUrl : String → Option Url
  wildMatch : String → String → Bool

def dnsPort : Nat := 53

/-! ## Dynamic-domain tables -/

structure DynamicDomainTables where
  exactV4 : HashMap
  exactV6 : HashMap
  wildcardV4 : HashMap
  suffixV4 : HashMap
  deriving DecidableEq, Repr

def get (map : HashMap) (name : String) : Option (List String) :=
  (map.find? fun entry => entry.1 = name).map Prod.snd

def extendEntry (map : HashMap) (entry : String × List String) : HashMap :=
  if map.any fun old => old.1 = entry.1 then
    map.map fun old =>
      if old.1 = entry.1 then (old.1, old.2 ++ entry.2) else old
  else map ++ [entry]

def insertEntry (map : HashMap) (entry : String × List String) : HashMap :=
  if map.any fun old => old.1 = entry.1 then
    map.map fun old => if old.1 = entry.1 then entry else old
  else map ++ [entry]

namespace DynamicDomainTables

def underPattern (name pattern : String) : Bool :=
  pattern ≠ "" && (name = pattern ||
    ("." ++ pattern).toList.isSuffixOf name.toList)

def lookupTable (table : HashMap) (name : String) : Option (List String) :=
  (table.find? fun entry => underPattern name entry.1).map Prod.snd

def lookupV4 (tables : DynamicDomainTables) (name : String) :
    Option (List String) :=
  get tables.exactV4 name <|> lookupTable tables.wildcardV4 name <|>
    lookupTable tables.suffixV4 name

def lookupV6 (tables : DynamicDomainTables) (name : String) :
    Option (List String) :=
  get tables.exactV6 name

def isEmpty (tables : DynamicDomainTables) : Bool :=
  tables.exactV4.isEmpty && tables.exactV6.isEmpty &&
    tables.wildcardV4.isEmpty && tables.suffixV4.isEmpty

end DynamicDomainTables

/-! ## Parsing -/

variable (crates : TextCrates)

def normalizeDomain (value : String) : String :=
  let value := trim value
  let value := trimMatches (· = '"') value
  let value := trimMatches (· = '\'') value
  let value := trimStartPair '*' '.' value
  let value := trimStartMatches (· = '.') value
  let value := trimEndMatches (· = '.') value
  crates.toLowercase value

def splitConfigTokens (value : String) : List String :=
  ((split (fun c => c = ';' || c = ',' || isWhitespace c) value).map
    trim).filter (· ≠ "")

def parseDnsEndpoint (value : String) : Option String :=
  let value := trim value
  let value := trimMatches (· = '"') value
  let value := trimMatches (· = '\'') value
  if value = "" ∨
    (containsChar '/' value ∧ ¬ containsText "://" value) then none
  else if (SocketAddr.parse value).isSome then some value
  else
    match IpAddr.parse value with
    | some ip => some (SocketAddr.display ⟨ip, dnsPort⟩)
    | none => do
        let url ← crates.parseUrl
          (if containsText "://" value then value else "dns://" ++ value)
        if url.scheme ∉ ["dns", "udp"] ∨ url.path ∉ ["", "/"] then none
        let port := url.port.getD dnsPort
        match ← url.host with
        | .domain domain => some (domain ++ ":" ++ toString port)
        | .ipv4 ip => some (SocketAddr.display ⟨.v4 ip, port⟩)
        | .ipv6 ip => some (SocketAddr.display ⟨.v6 ip, port⟩)

def collectVpnServers (sources : List (Option String)) : List String :=
  ((sources.reduceOption.flatMap splitConfigTokens).filterMap
    (parseDnsEndpoint crates)).eraseDups

/-- The name that an entry of the split list stands for, if it is accepted. -/
def acceptDomain (value : String) : Option String :=
  let domain := normalizeDomain crates value
  if domain = "" ∨ containsChar '/' domain ∨ ¬ containsChar '.' domain ∨
      (IpAddr.parse domain).isSome ∨ (SocketAddr.parse domain).isSome then none
  else some domain

def normalizedEntries (map : Option HashMap) : HashMap :=
  (map.getD []).filterMap fun (key, values) =>
    let domain := normalizeDomain crates key
    if domain = "" then none else some (domain, values)

def valueToken (value : String) : String :=
  trim (((split (· = '/') value).head?).getD value)

/-! ## The configuration -/

structure DnsConfig where
  fullTunnel : Bool
  vpnServers : List String
  splitMatchers : List String
  dynamic : DynamicDomainTables
  deriving DecidableEq, Repr

namespace DnsConfig

def fromVpnConn (conn : VpnConnResponse) (localDns : Option String)
    (fullTunnel : Bool) : DnsConfig :=
  let setting := conn.setting
  let split := ((setting.vpnDnsDomainSplit.getD []).filterMap
    (acceptDomain crates)).eraseDups
  { fullTunnel := fullTunnel
    vpnServers := collectVpnServers crates
      [localDns, setting.vpnDns, setting.vpnDnsBackup]
    splitMatchers := split.flatMap fun domain => [domain, "*." ++ domain]
    dynamic := {
      exactV4 := (normalizedEntries crates setting.dynamicDomain ++
        normalizedEntries crates setting.vpnDynamicDomainRouteSplit).foldl
          extendEntry []
      exactV6 := (normalizedEntries crates
        setting.v6VpnDynamicDomainRouteSplit).foldl insertEntry []
      wildcardV4 :=
        normalizedEntries crates setting.vpnWildcardDynamicDomainRouteSplit
      suffixV4 :=
        normalizedEntries crates
          setting.suffixWildcardDynamicDomainRouteSplit } }

def isDisabled (config : DnsConfig) : Bool := config.vpnServers.isEmpty

def resolveVpnServers (lookupHost : String → Option (List SocketAddr))
    (config : DnsConfig) : List SocketAddr :=
  ((config.vpnServers.filterMap lookupHost).flatten).eraseDups

def matchesSplit (config : DnsConfig) (domain : String) : Bool :=
  let domain := normalizeDomain crates domain
  config.splitMatchers.any fun pattern => crates.wildMatch pattern domain

def routeThroughVpn (config : DnsConfig) (domain : Option String) : Bool :=
  config.fullTunnel || domain.any fun domain =>
    config.matchesSplit crates domain

end DnsConfig

end Rustylink.Dns
