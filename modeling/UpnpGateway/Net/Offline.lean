/-
# A host without a network

On a host that is cut off nothing can be fetched, no connection can be made, and no search
can be sent.  What the host says about a search depends on where it was to go: a search to
many needs an interface with the address that it is sent from, and an address of sixteen
bytes cannot be reached from one of four.  What is sent to no address stays on the host,
where nobody hears it.
-/
import UpnpGateway.Net.Network

namespace UpnpGateway.Net

/-- Whether an address is that of a group of hosts. -/
def Ip.isMulticast : Ip → Bool
  | .v4 ip => 224 ≤ ip.a && ip.a < 240
  | .v6 ip => ip.groups.head?.any fun g => 0xFF00 ≤ g

/-- What a host without a network says about a search; a search to no address is sent, and
nothing comes back. -/
def searchOffline (source : Ipv4) (target : Ip) : Except String Answers :=
  if target.isMulticast && source != .unspecified then
    .error "Cannot assign requested address (os error 99)"
  else
    match target with
    | .v4 ip =>
      if ip = .unspecified then .ok fun _ => []
      else .error "Network is unreachable (os error 101)"
    | .v6 _ => .error "Address family not supported by protocol (os error 97)"

/-- The network of a host that is cut off. -/
def Network.offline : Network where
  get _ _ := .error (.failed "error sending request")
  post _ _ _ _ := .error (.failed "error sending request")
  send _ _ _ _ := .error "Network is unreachable (os error 101)"
  search _ source target _ := searchOffline source target.ip
  localIp _ := .error "Network is unreachable (os error 101)"

end UpnpGateway.Net
