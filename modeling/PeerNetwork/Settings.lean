import PeerNetwork.P2p

namespace PeerNetwork

/-- The `settings` fields that the modelled functions read, at the widths `settings.hpp`
declares them. -/
structure Settings where
  connectTimeoutSeconds : UInt32
  hostPoolCapacity : UInt32
  deriving DecidableEq, Repr

namespace Settings

def default : Settings where
  connectTimeoutSeconds := 5
  hostPoolCapacity := 0

end Settings

end PeerNetwork
