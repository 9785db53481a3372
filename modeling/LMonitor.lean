import LMonitor.Agent.AgentSamples
import LMonitor.Agent.FrameBoundaries
import LMonitor.Agent.ReconnectBackoff
import LMonitor.Agent.TopProcesses
import LMonitor.Alert.AlertTable
import LMonitor.Alert.LastingBreach
import LMonitor.Collector.ProcessStat
import LMonitor.Collector.ResourceFigures
import LMonitor.Config.ConfiguredAlerts
import LMonitor.Http.JsonDocuments
import LMonitor.Http.Segmentation
import LMonitor.Log.FailedRotation
import LMonitor.Log.LogWindow
import LMonitor.Network.Reassembly
import LMonitor.Protocol.CodecExactness
import LMonitor.Reactor.ChannelLifetime
import LMonitor.Reactor.LoopWakeups
import LMonitor.Reactor.StatusTimer
import LMonitor.Serializer.AcceptedPayloads
import LMonitor.Serializer.UnsignedFields
import LMonitor.Server.ClientDescriptors
import LMonitor.Server.IngestTask
import LMonitor.Server.LiveHosts
import LMonitor.Store.HistoryWindow
import LMonitor.Store.LivenessThresholds
import LMonitor.Store.SampleTimes
import LMonitor.Store.StateReports
import LMonitor.Thread.TaskDelivery
import LMonitor.Agent.LoopSamples
import LMonitor.Agent.SentSamples
import LMonitor.Collector.NetworkTables
import LMonitor.Http.Exchange
import LMonitor.Http.HistoryDocuments
import LMonitor.Network.ConnectionReading
import LMonitor.Server.ClientSessions
import LMonitor.Server.CompletedScan
import LMonitor.Server.Fleet
import LMonitor.Server.SingleWorker
import LMonitor.Agent.LoopAccounting
import LMonitor.Agent.PrintedHost
import LMonitor.Alert.AlertNotices
import LMonitor.Http.ServerLifecycle
import LMonitor.Http.Shutdown
import LMonitor.Server.EventBatch
import LMonitor.Library.JsonParser
import LMonitor.Web.ChosenHost
import LMonitor.Web.ServedPage
