import NetSim.Aodv.LoopFreedom
import NetSim.Aodv.CongestionCounter
import NetSim.Aodv.SequenceNumbers
import NetSim.Aodv.WellFormed
import NetSim.Tcp.SackRoundTrip
import NetSim.Tcp.Receiver
import NetSim.Tcp.Close
import NetSim.Tcp.Negotiation
import NetSim.Tcp.SendWindow
import NetSim.Rlc.Segmentation
import NetSim.Rlc.UmRoundTrip
import NetSim.Pdcp.InOrder
import NetSim.Ospf.ElectionAgreement
import NetSim.CognitiveRadio.RoundTrip
import NetSim.Dsr.Maintenance
import NetSim.Dsr.Paths
import NetSim.Ethernet.RootAgreement
import NetSim.Ethernet.SwitchBroadcast
import NetSim.Ethernet.VlanIsolation
import NetSim.Zrp.TcFlooding
import NetSim.Arp.Resolution
import NetSim.Ip.Membership
import NetSim.Ip.QuerierElection
import NetSim.Zrp.Neighborhood
import NetSim.Aodv.ExpandingRing
import NetSim.Aodv.FifoConservation
import NetSim.Aodv.PacketCopy
import NetSim.Aodv.RouteAdverts
import NetSim.Aodv.RouteErrors
import NetSim.Tcp.QueueRepresentation
import NetSim.Pim.DesignatedRouter
import NetSim.Wireless.CollisionMarking
import NetSim.Pim.JoinRuns
import NetSim.Tcp.Acceptability
import NetSim.Tcp.SackOption
import NetSim.Tcp.RecoveryTermination
import NetSim.Tcp.FlowControl
import NetSim.Zrp.QueryControl
import NetSim.Mac.PrbAllocation
import NetSim.Pdcp.CountRecovery
import NetSim.Ospf.UpdatePacking
import NetSim.Rlc.NackCoding
import NetSim.Rlc.Backlog
import NetSim.Rlc.UmWindow
import NetSim.Ospf.RequestCoverage
import NetSim.Ospf.FloodScope
import NetSim.Ospf.MaxAgeRemoval
import NetSim.Dsr.RouteError
import NetSim.Ethernet.SwitchId
import NetSim.Ospf.RecencyOrder
import NetSim.Scheduling.ServiceRuns
import NetSim.Ethernet.PhyOut
import NetSim.Ospf.Ageing
import NetSim.Ospf.StubRoutes
import NetSim.Tcp.CubicRoot
import NetSim.Wlan.AccessQueue
import NetSim.Wlan.RetryRuns
import NetSim.Zrp.ZoneRoutes
import NetSim.Rpl.Trickle
