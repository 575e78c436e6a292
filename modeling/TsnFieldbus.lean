import TsnFieldbus.Foundations.TransitionSystem
import TsnFieldbus.Foundations.HighWaterMark
import TsnFieldbus.Foundations.Sampling
import TsnFieldbus.Foundations.Text
import TsnFieldbus.Common.Security
import TsnFieldbus.Common.DiscoveryTypes
import TsnFieldbus.Common.L2Types
import TsnFieldbus.Common.L2Format
import TsnFieldbus.Common.SdcpFormat
import TsnFieldbus.Common.DiscoveryAuth
import TsnFieldbus.Common.StateMachine
import TsnFieldbus.Common.SdcpFrames
import TsnFieldbus.Common.StreamBatch
import TsnFieldbus.Common.L2Utils
import TsnFieldbus.Common.BaseCycle
import TsnFieldbus.Common.CycleMetrics
import TsnFieldbus.Common.DemoRuntime
import TsnFieldbus.Slave.TokenStore
import TsnFieldbus.Slave.SlaveApi
import TsnFieldbus.Slave.RequestOutcomes
import TsnFieldbus.Slave.SetIpAtomicity
import TsnFieldbus.Slave.RequestAnswers
import TsnFieldbus.Slave.IpReports
import TsnFieldbus.Slave.StatusUpdates
import TsnFieldbus.Slave.StatusSubscription
import TsnFieldbus.Slave.StatusLog
import TsnFieldbus.Slave.ApiServer
import TsnFieldbus.Slave.StatusSnapshot
import TsnFieldbus.Slave.TemperaturePolling
import TsnFieldbus.Slave.StateRequests
import TsnFieldbus.Slave.ConfigureRequests
import TsnFieldbus.Slave.ListenerThread
import TsnFieldbus.Slave.L2Handler
import TsnFieldbus.Slave.ReceiverThread
import TsnFieldbus.Slave.SenderLoop
import TsnFieldbus.Slave.SlaveThread
import TsnFieldbus.Master.AuthOperations
import TsnFieldbus.Master.DiscoverCall
import TsnFieldbus.Master.L2Handler
import TsnFieldbus.Master.SenderLoop
import TsnFieldbus.Master.SlaveApiClient
import TsnFieldbus.Slave.HardwareMock
import TsnFieldbus.Slave.HardwareRoles
import TsnFieldbus.Master.HardwareMock
import TsnFieldbus.Protocol.CycleCounting
import TsnFieldbus.Protocol.StreamReplay
import TsnFieldbus.Protocol.L2Node
import TsnFieldbus.Protocol.StreamDelivery
import TsnFieldbus.Protocol.StreamReconfiguration
import TsnFieldbus.Protocol.StreamNetwork
import TsnFieldbus.Protocol.ApiSession
import TsnFieldbus.Protocol.SenderSchedule
import TsnFieldbus.Protocol.DomainSeparation
import TsnFieldbus.Protocol.Addressing
import TsnFieldbus.Protocol.SdcpExchange
import TsnFieldbus.Protocol.RequestReplay
import TsnFieldbus.Protocol.DiscoveredIdentities
import TsnFieldbus.Protocol.DiscoveryWindow
import TsnFieldbus.Protocol.IpConfiguration
import TsnFieldbus.Protocol.EthernetPadding
import TsnFieldbus.Protocol.ConfiguredFrames
import TsnFieldbus.Protocol.LoopSafety
import TsnFieldbus.Demo.Plant
import TsnFieldbus.Demo.PostRun
