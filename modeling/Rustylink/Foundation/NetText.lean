import Mathlib.Algebra.Group.Nat.Defs
import Rustylink.Foundation.Net

/-!
# Addresses as text

The parsers and the displayed forms of the Rust standard library.  Each
`read` function takes a prefix of the text and returns what is left, and a
`parse` function accepts a text that is read to its end.
-/

namespace Rustylink.Foundation

/-! ## Parsing -/

def digitValue (radix : Nat) (c : Char) : Option Nat :=
  let n := c.toNat
  let value :=
    if 48 ≤ n ∧ n ≤ 57 then some (n - 48)
    else if 97 ≤ n ∧ n ≤ 102 then some (n - 87)
    else if 65 ≤ n ∧ n ≤ 70 then some (n - 55)
    else none
  value.filter (· < radix)

def readDigits (radix : Nat) : List Char → List Nat × List Char
  | [] => ([], [])
  | c :: cs =>
      match digitValue radix c with
      | none => ([], c :: cs)
      | some digit =>
          let (digits, rest) := readDigits radix cs
          (digit :: digits, rest)

def ofDigits (radix : Nat) (digits : List Nat) : Nat :=
  digits.foldl (fun value digit => value * radix + digit) 0

/--
A number of at most `maxDigits` digits (if given) and below `bound`, where a
leading zero is refused unless `allowZeroPrefix`.
-/
def readNumber (radix bound : Nat) (maxDigits : Option Nat)
    (allowZeroPrefix : Bool) (cs : List Char) : Option (Nat × List Char) :=
  let (digits, rest) := readDigits radix cs
  if digits = [] ∨ maxDigits.any (· < digits.length) ∨
      (allowZeroPrefix = false ∧ digits.head? = some 0 ∧ 1 < digits.length) ∨
      bound ≤ ofDigits radix digits then none
  else some (ofDigits radix digits, rest)

def readChar (c : Char) : List Char → Option (List Char)
  | [] => none
  | x :: cs => if x = c then some cs else none

def readSeparated {α : Type} (separator : Char) (index : Nat)
    (read : List Char → Option (α × List Char)) (cs : List Char) :
    Option (α × List Char) :=
  if index = 0 then read cs else (readChar separator cs).bind read

def readOctet (index : Nat) (cs : List Char) : Option (Nat × List Char) :=
  readSeparated '.' index (readNumber 10 256 (some 3) false) cs

def readIpv4Addr (cs : List Char) : Option (BitVec 32 × List Char) := do
  let (a, cs) ← readOctet 0 cs
  let (b, cs) ← readOctet 1 cs
  let (c, cs) ← readOctet 2 cs
  let (d, cs) ← readOctet 3 cs
  return (Ipv4Addr.new (.ofNat 8 a) (.ofNat 8 b) (.ofNat 8 c) (.ofNat 8 d), cs)

/--
Up to `limit` 16-bit groups from position `index` on, the last two of which
may be written as an IPv4 address; the flag says whether they are.
-/
def readGroups (limit index : Nat) (cs : List Char) :
    List (BitVec 16) × Bool × List Char :=
  match limit with
  | 0 => ([], false, cs)
  | left + 1 =>
      let embedded :=
        if left = 0 then none else readSeparated ':' index readIpv4Addr cs
      match embedded with
      | some (address, rest) =>
          ([address.extractLsb' 16 16, address.extractLsb' 0 16], true, rest)
      | none =>
          match readSeparated ':' index (readNumber 16 65536 (some 4) true)
              cs with
          | none => ([], false, cs)
          | some (group, rest) =>
              let (groups, isV4, rest) := readGroups left (index + 1) rest
              (.ofNat 16 group :: groups, isV4, rest)

def ofGroups (groups : List (BitVec 16)) : BitVec 128 :=
  groups.foldl (fun address group =>
    address <<< 16 ||| group.setWidth 128) 0

def readIpv6Addr (cs : List Char) : Option (BitVec 128 × List Char) :=
  let (head, headV4, rest) := readGroups 8 0 cs
  if head.length = 8 then some (ofGroups head, rest)
  else if headV4 then none
  else do
    let rest ← readChar ':' rest
    let rest ← readChar ':' rest
    let (tail, _, rest) := readGroups (8 - (head.length + 1)) 0 rest
    let zeros := List.replicate (8 - head.length - tail.length) (0 : BitVec 16)
    return (ofGroups (head ++ zeros ++ tail), rest)

def readPort (cs : List Char) : Option (Nat × List Char) :=
  (readChar ':' cs).bind (readNumber 10 65536 none true)

def readScope (cs : List Char) : List Char :=
  match (readChar '%' cs).bind (readNumber 10 (2 ^ 32) none true) with
  | some (_, rest) => rest
  | none => cs

def readSocketAddrV4 (cs : List Char) : Option (SocketAddr × List Char) := do
  let (address, cs) ← readIpv4Addr cs
  let (port, cs) ← readPort cs
  return (⟨.v4 address, port⟩, cs)

def readSocketAddrV6 (cs : List Char) : Option (SocketAddr × List Char) := do
  let cs ← readChar '[' cs
  let (address, cs) ← readIpv6Addr cs
  let cs ← readChar ']' (readScope cs)
  let (port, cs) ← readPort cs
  return (⟨.v6 address, port⟩, cs)

def parseWith {α : Type} (read : List Char → Option (α × List Char))
    (text : String) : Option α :=
  match read text.toList with
  | some (value, []) => some value
  | _ => none

def Ipv4Addr.parse (text : String) : Option (BitVec 32) :=
  if 15 < text.utf8ByteSize then none else parseWith readIpv4Addr text

def Ipv6Addr.parse : String → Option (BitVec 128) := parseWith readIpv6Addr

def IpAddr.parse (text : String) : Option IpAddr :=
  parseWith (fun cs =>
    (readIpv4Addr cs).map (fun (a, rest) => (IpAddr.v4 a, rest)) <|>
      (readIpv6Addr cs).map fun (a, rest) => (IpAddr.v6 a, rest)) text

def SocketAddr.parse (text : String) : Option SocketAddr :=
  parseWith (fun cs => readSocketAddrV4 cs <|> readSocketAddrV6 cs) text

/-! ## Brackets -/

theorem readDigits_bracket {radix : Nat} (hradix : radix = 10 ∨ radix = 16)
    (cs : List Char) : readDigits radix ('[' :: cs) = ([], '[' :: cs) := by
  rcases hradix with rfl | rfl <;> rfl

theorem readNumber_bracket {radix : Nat} (hradix : radix = 10 ∨ radix = 16)
    (bound : Nat) (maxDigits : Option Nat) (zeros : Bool) (cs : List Char) :
    readNumber radix bound maxDigits zeros ('[' :: cs) = none := by
  simp [readNumber, readDigits_bracket hradix]

theorem readIpv4Addr_bracket (cs : List Char) :
    readIpv4Addr ('[' :: cs) = none := by
  have hoctet : readOctet 0 ('[' :: cs) = none :=
    readNumber_bracket (.inl rfl) 256 (some 3) false cs
  simp [readIpv4Addr, hoctet]

theorem readIpv6Addr_bracket (cs : List Char) :
    readIpv6Addr ('[' :: cs) = none := by
  have hgroups : readGroups 8 0 ('[' :: cs) = ([], false, '[' :: cs) := by
    have hv4 : readSeparated ':' 0 readIpv4Addr ('[' :: cs) = none :=
      readIpv4Addr_bracket cs
    have hgroup : readSeparated ':' 0 (readNumber 16 65536 (some 4) true)
        ('[' :: cs) = none :=
      readNumber_bracket (.inr rfl) 65536 (some 4) true cs
    simp [readGroups, hv4, hgroup]
  have hcolon : readChar ':' ('[' :: cs) = none := rfl
  simp [readIpv6Addr, hgroups, hcolon]

theorem IpAddr.parse_bracketed (text : String) :
    IpAddr.parse ("[" ++ text ++ "]") = none := by
  have hchars : ("[" ++ text ++ "]").toList =
      '[' :: (text.toList ++ [']']) := by simp
  simp [IpAddr.parse, parseWith, hchars, readIpv4Addr_bracket,
    readIpv6Addr_bracket]

theorem IpAddr.parse_of_ipv4 {text : String} {address : BitVec 32}
    (h : Ipv4Addr.parse text = some address) :
    IpAddr.parse text = some (.v4 address) := by
  unfold Ipv4Addr.parse at h
  split at h
  · cases h
  · unfold parseWith at h
    split at h
    · rename_i value hread
      cases h
      simp [IpAddr.parse, parseWith, hread]
    · cases h

/-! ## Display -/

def Ipv4Addr.display (address : BitVec 32) : String :=
  ".".intercalate ([24, 16, 8, 0].map fun start =>
    toString (address.extractLsb' start 8).toNat)

def hexDigits (n : Nat) : String := String.ofList (Nat.toDigits 16 n)

def displayGroups (groups : List (BitVec 16)) : String :=
  ":".intercalate (groups.map fun group => hexDigits group.toNat)

def Ipv6Addr.segments (address : BitVec 128) : List (BitVec 16) :=
  [112, 96, 80, 64, 48, 32, 16, 0].map fun start => address.extractLsb' start 16

def longestZeroRun (groups : List (BitVec 16)) : Nat × Nat :=
  let lengths := groups.tails.map fun rest =>
    (rest.takeWhile (· = 0)).length
  let longest := lengths.foldl max 0
  (lengths.idxOf longest, longest)

def Ipv6Addr.display (address : BitVec 128) : String :=
  if address.extractLsb' 32 96 = 0xFFFF then
    "::ffff:" ++ Ipv4Addr.display (address.extractLsb' 0 32)
  else
    let groups := segments address
    let (start, length) := longestZeroRun groups
    if length > 1 then
      displayGroups (groups.take start) ++ "::" ++
        displayGroups (groups.drop (start + length))
    else displayGroups groups

def SocketAddr.display (addr : SocketAddr) : String :=
  match addr.ip with
  | .v4 address => Ipv4Addr.display address ++ ":" ++ toString addr.port
  | .v6 address => "[" ++ Ipv6Addr.display address ++ "]:" ++ toString addr.port

end Rustylink.Foundation
