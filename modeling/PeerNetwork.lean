import PeerNetwork.Async
import PeerNetwork.Connector
import PeerNetwork.P2p
import PeerNetwork.Settings
import PeerNetwork.SessionOutbound
import PeerNetwork.SessionManual
import PeerNetwork.ManualRetry
import PeerNetwork.PingProtocol
import PeerNetwork.ManualRuns
import PeerNetwork.ManualFull
import PeerNetwork.ProtocolSeed
import PeerNetwork.PingLegacy
import PeerNetwork.P2pSubscriptions
import PeerNetwork.FilterSettings
import PeerNetwork.P2pManual
