import Mathlib.Data.Int.Basic

/-!
# The `/vpn/conn` response

The fields that tunnel and DNS code read.  A map of the response is the list
of its entries in the order in which its iterator yields them.
-/

namespace Rustylink.Api

abbrev HashMap := List (String × List String)

structure VpnConnSetting where
  vpnMtu : Int
  vpnDns : Option String
  vpnDnsBackup : Option String
  vpnDnsDomainSplit : Option (List String)
  vpnRouteFull : Option (List String)
  vpnRouteSplit : Option (List String)
  v6RouteFull : Option (List String)
  v6RouteSplit : Option (List String)
  vpnDynamicDomainRouteSplit : Option HashMap
  v6VpnDynamicDomainRouteSplit : Option HashMap
  vpnWildcardDynamicDomainRouteSplit : Option HashMap
  suffixWildcardDynamicDomainRouteSplit : Option HashMap
  dynamicDomain : Option HashMap
  deriving DecidableEq, Repr

structure VpnConnResponse where
  ip : String
  ipv6 : Option String
  ipMask : Option Int
  publicKey : String
  presharedKey : Option String
  protocolVersion : Option String
  setting : VpnConnSetting
  deriving DecidableEq, Repr

def VpnConnSetting.ofMtu (mtu : Int) : VpnConnSetting where
  vpnMtu := mtu
  vpnDns := none
  vpnDnsBackup := none
  vpnDnsDomainSplit := none
  vpnRouteFull := none
  vpnRouteSplit := none
  v6RouteFull := none
  v6RouteSplit := none
  vpnDynamicDomainRouteSplit := none
  v6VpnDynamicDomainRouteSplit := none
  vpnWildcardDynamicDomainRouteSplit := none
  suffixWildcardDynamicDomainRouteSplit := none
  dynamicDomain := none

def VpnConnResponse.ofSetting (ip publicKey : String)
    (setting : VpnConnSetting) :
    VpnConnResponse where
  ip := ip
  ipv6 := none
  ipMask := none
  publicKey := publicKey
  presharedKey := none
  protocolVersion := none
  setting := setting

end Rustylink.Api
