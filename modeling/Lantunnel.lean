import Lantunnel.Gateway.RelayLifeCycle
import Lantunnel.Client.InboundSealing
import Lantunnel.Client.NegotiationConvergence
import Lantunnel.Client.RelayBinding
import Lantunnel.Gateway.RelayCeiling
import Lantunnel.Gateway.UsageConservation
import Lantunnel.Gateway.UsageReports
import Lantunnel.Client.RouteKey
import Lantunnel.Transport.SchedulerDrift
import Lantunnel.Transport.UdpEndToEnd
import Lantunnel.Gateway.ScopeHistory
import Lantunnel.Client.ExportOrder
import Lantunnel.Client.GossipBounds
import Lantunnel.Client.RouteOwnership
import Lantunnel.Client.MembershipCycles
import Lantunnel.Client.FlowPlacement
import Lantunnel.Gateway.AttachmentLease
import Lantunnel.Gateway.BudgetPeriods
import Lantunnel.Gateway.FramedBridge
import Lantunnel.Client.PendingUdp
import Lantunnel.Client.TunnelWriter
import Lantunnel.Client.SealedStream
import Lantunnel.Transport.SchedulerWaiting
import Lantunnel.Client.AccessRules
import Lantunnel.Client.PathScheduler
import Lantunnel.Client.RelayRoundTrip
import Lantunnel.Client.LinkRefill
import Lantunnel.Client.RuntimeRecords
import Lantunnel.Client.LaneChoice
import Lantunnel.Transport.DropOldest
import Lantunnel.Gateway.DestinationDiversity
import Lantunnel.Client.FlowRecords
