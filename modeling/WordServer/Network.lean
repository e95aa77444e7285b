import WordServer.Address.Host
import WordServer.FileTree

/-!
# The network

The network that the program sees: one interface, which the machine has to itself, and which is
down. So there is no route to anybody. Any IPv4 address can be listened on, since nothing tells it
from one of the machine; of the IPv6 addresses only the one that stands for all can, and those that
stand for IPv4 addresses.
-/

namespace WordServer.Network

/-- Why a host cannot be listened on, if so. -/
def listenFault? (host : Host) : Option SystemFault :=
  match host.ip with
  | .v4 _ => none
  | .v6 groups =>
    if groups.all (· == 0) || Ip.isMapped groups then none
    else if Ip.isMulticast groups then some .invalidArgument
    else if !Ip.isLinkLocal groups || host.interface == Host.ownInterface then
      some .addressUnavailable
    else if host.interface = 0 then some .invalidArgument
    else some .noInterface

/-- Why a host cannot be reached. -/
def connectFault (host : Host) : SystemFault :=
  match host.ip with
  | .v4 _ => .networkUnreachable
  | .v6 groups =>
    if Ip.isMapped groups || Ip.isMulticast groups then .networkUnreachable
    else if Ip.isLinkLocal groups && host.interface == 0 then .invalidArgument
    else .addressUnavailable

end WordServer.Network
