import Mathlib.Data.List.Basic

/-!
# IP addresses and networks

The address classes of the Rust standard library and CIDR networks.  An
address is its bits; a network is an address with the number of its bits that
count.
-/

namespace Rustylink.Foundation

inductive IpAddr where
  | v4 (address : BitVec 32)
  | v6 (address : BitVec 128)
  deriving DecidableEq, Repr

/--
A socket address; the flow label and the scope of an IPv6 one are left out.
-/
structure SocketAddr where
  ip : IpAddr
  port : Nat
  deriving DecidableEq, Repr

def Ipv4Addr.new (a b c d : BitVec 8) : BitVec 32 := a ++ b ++ c ++ d

def Ipv6Addr.new (a b c d e f g h : BitVec 16) : BitVec 128 :=
  a ++ b ++ c ++ d ++ e ++ f ++ g ++ h

namespace IpAddr

def isV4 : IpAddr → Bool
  | .v4 _ => true
  | .v6 _ => false

def isLoopback : IpAddr → Bool
  | .v4 a => a.extractLsb' 24 8 = 127
  | .v6 a => a = 1

def isUnspecified : IpAddr → Bool
  | .v4 a => a = 0
  | .v6 a => a = 0

def isLinkLocal : IpAddr → Bool
  | .v4 a => a.extractLsb' 16 16 = 0xA9FE
  | .v6 a => (a.extractLsb' 112 16 &&& 0xFFC0#16) = 0xFE80

def isMulticast : IpAddr → Bool
  | .v4 a => a.extractLsb' 28 4 = 14
  | .v6 a => a.extractLsb' 120 8 = 255

def isBroadcast : IpAddr → Bool
  | .v4 a => a = BitVec.allOnes 32
  | .v6 _ => false

end IpAddr

inductive IpNetwork where
  | v4 (address : BitVec 32) (prefixLength : Nat) (valid : prefixLength ≤ 32)
  | v6 (address : BitVec 128) (prefixLength : Nat) (valid : prefixLength ≤ 128)
  deriving DecidableEq, Repr

def netmask (width prefixLength : Nat) : BitVec width :=
  BitVec.allOnes width <<< (width - prefixLength)

namespace IpNetwork

def isV4 : IpNetwork → Bool
  | .v4 .. => true
  | .v6 .. => false

def ofAddr : IpAddr → IpNetwork
  | .v4 address => .v4 address 32 (Nat.le_refl 32)
  | .v6 address => .v6 address 128 (Nat.le_refl 128)

def network : IpNetwork → IpAddr
  | .v4 address prefixLength _ => .v4 (address &&& netmask 32 prefixLength)
  | .v6 address prefixLength _ => .v6 (address &&& netmask 128 prefixLength)

def prefixLength : IpNetwork → Nat
  | .v4 _ prefixLength _ | .v6 _ prefixLength _ => prefixLength

def contains : IpNetwork → IpAddr → Bool
  | .v4 address prefixLength _, .v4 ip =>
      ip &&& netmask 32 prefixLength = address &&& netmask 32 prefixLength
  | .v6 address prefixLength _, .v6 ip =>
      ip &&& netmask 128 prefixLength = address &&& netmask 128 prefixLength
  | _, _ => false

end IpNetwork

def covers (networks : List IpNetwork) (ip : IpAddr) : Bool :=
  networks.any fun network => network.contains ip

@[simp] theorem and_netmask_full {width : Nat} (address : BitVec width) :
    address &&& netmask width width = address := by
  simp [netmask]

@[simp] theorem ofAddr_contains {ip other : IpAddr} :
    (IpNetwork.ofAddr ip).contains other = true ↔ other = ip := by
  cases ip <;> cases other <;> simp [IpNetwork.ofAddr, IpNetwork.contains]

theorem ofAddr_injective : Function.Injective IpNetwork.ofAddr := by
  intro ip other h
  have hself : (IpNetwork.ofAddr ip).contains ip = true :=
    ofAddr_contains.mpr rfl
  rw [h] at hself
  exact ofAddr_contains.mp hself

theorem covers_iff {networks : List IpNetwork} {ip : IpAddr} :
    covers networks ip = true ↔
      ∃ network ∈ networks, network.contains ip = true := by
  simp [covers]

@[simp] theorem covers_append {left right : List IpNetwork} {ip : IpAddr} :
    covers (left ++ right) ip = (covers left ip || covers right ip) := by
  simp [covers]

theorem covers_hosts {ips : List IpAddr} {ip : IpAddr} :
    covers (ips.map IpNetwork.ofAddr) ip = true ↔ ip ∈ ips := by
  rw [covers_iff]
  constructor
  · rintro ⟨network, hmem, hcontains⟩
    obtain ⟨host, hhost, rfl⟩ := List.mem_map.mp hmem
    rw [ofAddr_contains.mp hcontains]
    exact hhost
  · intro hmem
    exact ⟨.ofAddr ip, List.mem_map_of_mem hmem, ofAddr_contains.mpr rfl⟩

end Rustylink.Foundation
