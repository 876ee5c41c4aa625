import LocationStack.Lib.EventRun
import LocationStack.SyncReq.Table
import LocationStack.SyncReq.Invariant
import LocationStack.SyncReq.Success
import LocationStack.SyncReq.Matching
import LocationStack.Lib.BitMask
import LocationStack.Lib.ListSegment
import LocationStack.Lib.LittleEndian
import LocationStack.Lib.Ledger
import LocationStack.BaseUtil.Queue
import LocationStack.BaseUtil.SingleList
import LocationStack.BaseUtil.BlockingQueue
import LocationStack.BaseUtil.Wakeups
import LocationStack.BaseUtil.NvParam
import LocationStack.BaseUtil.NvGetters
import LocationStack.BaseUtil.NvStore
import LocationStack.BaseUtil.NvRoundTrip
import LocationStack.BaseUtil.PseudoClientId
import LocationStack.BaseUtil.PseudoClientDraws
import LocationStack.BaseUtil.TimeRoutines
import LocationStack.BaseUtil.WaitableMutex
import LocationStack.Postcard.MemoryStream
import LocationStack.Postcard.Out
import LocationStack.Postcard.In
import LocationStack.Postcard.Encoding
import LocationStack.Postcard.Scan
import LocationStack.Postcard.Termination
import LocationStack.Postcard.RoundTrip
import LocationStack.Postcard.Reads
import LocationStack.Postcard.Hostile
import LocationStack.Postcard.Adds
import LocationStack.Postcard.Growth
import LocationStack.Config.ConfigFile
import LocationStack.Config.Grammar
import LocationStack.Config.Loading
import LocationStack.Lib.IntegerLiteral
import LocationStack.Config.Integers
import LocationStack.Lib.IdMap
import LocationStack.Ipc.Messages
import LocationStack.Daemon.Handler
import LocationStack.Daemon.Service
import LocationStack.Daemon.System
import LocationStack.Daemon.Messages
import LocationStack.Daemon.Pairing
import LocationStack.Daemon.GeofenceMap
import LocationStack.Client.Impl
import LocationStack.Client.Requests
import LocationStack.Client.Calls
import LocationStack.Client.Exclusive
import LocationStack.Client.Resume
import LocationStack.Client.Correlation
import LocationStack.Client.ClientIds
import LocationStack.Client.GeofenceIds
import LocationStack.Client.SessionReports
import LocationStack.Client.SinglePos
import LocationStack.Client.PositionReports
import LocationStack.Client.PositionsAlike
import LocationStack.Client.SatelliteReports
import LocationStack.Link.System
import LocationStack.Link.Subscriptions
import LocationStack.Service.Clients
import LocationStack.Service.System
import LocationStack.Service.Registry
import LocationStack.Service.Steps
import LocationStack.Service.Xtra
import LocationStack.Service.ConfigReqs
import LocationStack.Service.Purge
import LocationStack.Service.Timeouts
import LocationStack.Service.FixSessions
import LocationStack.Service.EnergyConsumed
import LocationStack.PbConv.Location
import LocationStack.PbConv.LocationParts
import LocationStack.PbConv.LocationInfo
import LocationStack.PbConv.Satellites
import LocationStack.PbConv.Measurements
import LocationStack.PbConv.Notices
import LocationStack.PbConv.RoundTrip
import LocationStack.PbConv.Reports
import LocationStack.PbConv.Geofences
import LocationStack.PbConv.Xtra
import LocationStack.PbConv.RequestParts
import LocationStack.PbConv.Bounds
import LocationStack.PbConv.Requests
import LocationStack.Integration.Replay
import LocationStack.Integration.Blacklist
import LocationStack.Integration.XtraUrls
import LocationStack.Integration.XtraParams
import LocationStack.Integration.SecondaryBand
import LocationStack.LocApi.Registration
import LocationStack.LocApi.Resenders
import LocationStack.LocApi.Measurements
import LocationStack.LocApi.Collecting
import LocationStack.LocApi.Epochs
import LocationStack.LocApi.CarrierPhase
import LocationStack.LocApi.Continuity
import LocationStack.Lib.Int64
import LocationStack.LocApi.ClockArithmetic
import LocationStack.LocApi.InjectPosition
import LocationStack.Lib.Guarded
import LocationStack.LocApi.SvUsed
import LocationStack.LocApi.LastEpoch
import LocationStack.LocApi.TunnelEntry
import LocationStack.LocApi.NiRequests
import LocationStack.LocApi.SvReport
import LocationStack.LocApi.MeasurementViews
import LocationStack.Lib.WordLoop
import LocationStack.LocApi.GeofenceBatches
import LocationStack.Lib.DoWhile
import LocationStack.LocApi.BatchReads
import LocationStack.LocApi.BatchBounds
import LocationStack.LocApi.BatchOrder
import LocationStack.LocApi.AidingData
import LocationStack.LocApi.GeofenceEdits
import LocationStack.LocApi.SupportedMsgs
import LocationStack.LocApi.Capacity
import LocationStack.LocApi.Instances
import LocationStack.LocApi.SvConfig
import LocationStack.Fidl.Session
import LocationStack.Lib.FlagRename
import LocationStack.Fidl.ReportFlags
import LocationStack.Fidl.ReportParts
import LocationStack.Fidl.LocReport
import LocationStack.Fidl.LocFaithful
import LocationStack.Fidl.MeasReport
import LocationStack.Fidl.Conversion
import LocationStack.Qapi.SingleShot
import LocationStack.Lib.Rounding
import LocationStack.Daemon.SupportedTbf
import LocationStack.Daemon.ReportFilter
import LocationStack.Link.Batching
import LocationStack.Postcard.TimestampCard
import LocationStack.Lib.Countdown
import LocationStack.GnssPps.Reader
import LocationStack.GnssPps.Skipping
import LocationStack.Lib.Decimal
import LocationStack.Ipc.SockNode
import LocationStack.Daemon.HeldGeofences
import LocationStack.Daemon.GeofenceSteps
import LocationStack.Link.Geofences
import LocationStack.Link.Delivery
import LocationStack.Link.Answers
import LocationStack.Link.Outstanding
import LocationStack.Link.PendingCalls
import LocationStack.Link.Pending
import LocationStack.LocApi.BatchSessions
import LocationStack.Link.SystemInfo
import LocationStack.LocApi.ClientHandles
import LocationStack.Fidl.PowerEvents
import LocationStack.Link.VehicleReports
import LocationStack.Link.VehicleSatellites
