import HttpTunnel.Exchange
import HttpTunnel.Key
import HttpTunnel.Main
import HttpTunnel.Trial.Connection
import HttpTunnel.Trial.Delivery
import HttpTunnel.Trial.Desk
import HttpTunnel.Trial.Gateway
import HttpTunnel.Trial.Intake
import HttpTunnel.Trial.Link
import HttpTunnel.Trial.Programs
import HttpTunnel.Trial.Relay
import HttpTunnel.Trial.Tunnel
import HttpTunnel.Proofs.CourierMoves
import HttpTunnel.Proofs.ReplyFraming
import HttpTunnel.Proofs.SerialWindowOrder
import HttpTunnel.Proofs.PollerActs
import HttpTunnel.Proofs.PollerLaws
import HttpTunnel.Proofs.ParkedRequests
import HttpTunnel.Proofs.RelayRuns
import HttpTunnel.Proofs.CourierErrands
import HttpTunnel.Proofs.RequestsUnderWay
import HttpTunnel.Proofs.RequestWindow
import HttpTunnel.Proofs.UpstreamOrder
import HttpTunnel.Proofs.ReplyHauls
import HttpTunnel.Proofs.DownstreamOrder
import HttpTunnel.Proofs.CourierRoster
import HttpTunnel.Proofs.QuietRelay
import HttpTunnel.Proofs.PollerPartings
import HttpTunnel.Proofs.PollerRuns
import HttpTunnel.Proofs.ServingOrder
import HttpTunnel.Proofs.ReplyConservation
import HttpTunnel.Proofs.ParkedTimers
import HttpTunnel.Proofs.RequestCompletion
import HttpTunnel.Proofs.TunnelRuns
import HttpTunnel.Proofs.DownstreamFlush
import HttpTunnel.Proofs.ConnectionRuns
import HttpTunnel.Proofs.DecodedReplies
import HttpTunnel.Proofs.ParcelLedger
import HttpTunnel.Proofs.HalfClose
import HttpTunnel.Proofs.LocalInput
import HttpTunnel.Proofs.IdleConnections
import HttpTunnel.Proofs.HeldPackets
import HttpTunnel.Proofs.LongPollBound
import HttpTunnel.Proofs.SerialWindowHistory
import HttpTunnel.Proofs.GatewayRuns
import HttpTunnel.Proofs.TunnelLanes
import HttpTunnel.Proofs.RegisteredKeys
import HttpTunnel.Proofs.GatewayShutdown
import HttpTunnel.Proofs.BackPressure
import HttpTunnel.Proofs.SendQueueHistory
import HttpTunnel.Proofs.Base36Codec
import HttpTunnel.Proofs.KeyGrammar
import HttpTunnel.Proofs.OrderedWriting
import HttpTunnel.Proofs.AddressNumerals
import HttpTunnel.Proofs.EndpointTexts
import HttpTunnel.Proofs.LinkRuns
import HttpTunnel.Proofs.MissingPredecessor
import HttpTunnel.Proofs.PacketDispatch
import HttpTunnel.Proofs.WireFraming
import HttpTunnel.Proofs.SendQueuePortions
import HttpTunnel.Proofs.IdleClock
import HttpTunnel.Proofs.LocalReader
