import EdgeHealthd.Library.Rollup
import EdgeHealthd.Library.Machine
import EdgeHealthd.Library.History
import EdgeHealthd.Library.Durability
import EdgeHealthd.Library.Attributes
import EdgeHealthd.Library.Throwing
import EdgeHealthd.Library.Tables
import EdgeHealthd.Library.Spacing
import EdgeHealthd.Library.SelfSync
import EdgeHealthd.Library.Utf8
import EdgeHealthd.Library.Digest
import EdgeHealthd.Library.Decimal
import EdgeHealthd.Library.Calendar
import EdgeHealthd.Library.Wrapping
import EdgeHealthd.Library.Framing
import EdgeHealthd.Library.Blocks
import EdgeHealthd.Types
import EdgeHealthd.Config
import EdgeHealthd.AggregatorCore
import EdgeHealthd.Aggregator
import EdgeHealthd.DbusManagerCore
import EdgeHealthd.DaemonCore
import EdgeHealthd.Sections
import EdgeHealthd.Freshness
import EdgeHealthd.ProbeSchedules
import EdgeHealthd.Snapshots
import EdgeHealthd.Alarms
import EdgeHealthd.Json
import EdgeHealthd.BootProbeCore
import EdgeHealthd.BootProbe
import EdgeHealthd.BootSaves
import EdgeHealthd.CrashProbeCore
import EdgeHealthd.EventLoopCore
import EdgeHealthd.EventLoop
import EdgeHealthd.Wakeup
import EdgeHealthd.Trigger
import EdgeHealthd.Acknowledge
import EdgeHealthd.AtomicFileCore
import EdgeHealthd.AtomicFile
import EdgeHealthd.NetlinkMonitorCore
import EdgeHealthd.NetlinkMonitor
import EdgeHealthd.NetlinkCache
import EdgeHealthd.NetlinkAddress
import EdgeHealthd.JournalReaderCore
import EdgeHealthd.JournalReader
import EdgeHealthd.JournalTail
import EdgeHealthd.ProbesDbusCore
import EdgeHealthd.ResourcesProbeCore
import EdgeHealthd.Probes
import EdgeHealthd.Reasons
import EdgeHealthd.ReasonPattern
import EdgeHealthd.ConfigFileCore
import EdgeHealthd.ConfigFile
import EdgeHealthd.ConfigIntegers
import EdgeHealthd.WebUiCore
import EdgeHealthd.WebUi
import EdgeHealthd.HealthFeedCore
import EdgeHealthd.HealthFeed
import EdgeHealthd.WebServerCore
import EdgeHealthd.WebServer
import EdgeHealthd.MiddlewareCore
import EdgeHealthd.Middleware
import EdgeHealthd.SendChannels
import EdgeHealthd.HealthApi
import EdgeHealthd.SnapshotOrder
import EdgeHealthd.SnapshotJsonCore
import EdgeHealthd.ResourceFlags
import EdgeHealthd.EthtoolLinkCore
import EdgeHealthd.EthtoolLink
import EdgeHealthd.NetworkCountersCore
import EdgeHealthd.NetworkCounters
import EdgeHealthd.TriggerLimit
import EdgeHealthd.AtomicOutcome
import EdgeHealthd.AcknowledgeFile
import EdgeHealthd.JournalTextCore
import EdgeHealthd.JournalText
import EdgeHealthd.JournalLines
import EdgeHealthd.JournalWindow
import EdgeHealthd.JournalFieldsCore
import EdgeHealthd.JournalFields
import EdgeHealthd.JournalExcerpt
import EdgeHealthd.SchemaBounds
import EdgeHealthd.ResourceReasons
import EdgeHealthd.ResourceNumbers
import EdgeHealthd.ServiceSeverity
import EdgeHealthd.CrashProbe
import EdgeHealthd.CrashListing
import EdgeHealthd.CrashClocks
import EdgeHealthd.CrashBoot
import EdgeHealthd.CrashFingerprint
import EdgeHealthd.TimeFormatCore
import EdgeHealthd.TimeFormat
import EdgeHealthd.SnapshotJson
import EdgeHealthd.PageCore
import EdgeHealthd.PageSnapshot
import EdgeHealthd.BrowserCore
import EdgeHealthd.PageStore
import EdgeHealthd.Browser
import EdgeHealthd.SchemaCore
import EdgeHealthd.SchemaConformance
import EdgeHealthd.DeviceProbe
import EdgeHealthd.SchemaRuns
import EdgeHealthd.Library.Throttle
import EdgeHealthd.LoggingCore
import EdgeHealthd.Logging
import EdgeHealthd.Watchdog
import EdgeHealthd.SnapshotWriter
import EdgeHealthd.Delivery
import EdgeHealthd.TriggerApiCore
import EdgeHealthd.TriggerApi
import EdgeHealthd.Startup
import EdgeHealthd.DbusService
