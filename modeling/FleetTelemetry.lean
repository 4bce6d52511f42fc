import FleetTelemetry.Broadcast
import FleetTelemetry.Bucket
import FleetTelemetry.Cache
import FleetTelemetry.Calendar
import FleetTelemetry.Config
import FleetTelemetry.Gauge
import FleetTelemetry.Http.Handler
import FleetTelemetry.Http.MediaType
import FleetTelemetry.Http.Query
import FleetTelemetry.Http.Route
import FleetTelemetry.Merge
import FleetTelemetry.Month
import FleetTelemetry.OrderedMap
import FleetTelemetry.Proofs.AgentIsolation
import FleetTelemetry.Proofs.AgentPath
import FleetTelemetry.Proofs.AggregatedRange
import FleetTelemetry.Proofs.AlikeStores
import FleetTelemetry.Proofs.ArrivalOrder
import FleetTelemetry.Proofs.BroadcastRun
import FleetTelemetry.Proofs.BrokenMonths
import FleetTelemetry.Proofs.BucketTallies
import FleetTelemetry.Proofs.Buckets
import FleetTelemetry.Proofs.CacheLog
import FleetTelemetry.Proofs.CacheRun
import FleetTelemetry.Proofs.Calendar
import FleetTelemetry.Proofs.CleanupCycle
import FleetTelemetry.Proofs.DailyRollup
import FleetTelemetry.Proofs.DayFromHours
import FleetTelemetry.Proofs.DeviceKeys
import FleetTelemetry.Proofs.Doubles
import FleetTelemetry.Proofs.DurableHistory
import FleetTelemetry.Proofs.Emitted
import FleetTelemetry.Proofs.EnsuredMonths
import FleetTelemetry.Proofs.ExactRetention
import FleetTelemetry.Proofs.ExactRollup
import FleetTelemetry.Proofs.FailedSave
import FleetTelemetry.Proofs.FieldWrites
import FleetTelemetry.Proofs.FiniteDoubles
import FleetTelemetry.Proofs.FlatList
import FleetTelemetry.Proofs.HeldTotals
import FleetTelemetry.Proofs.HourlyInvariant
import FleetTelemetry.Proofs.HourlyRetention
import FleetTelemetry.Proofs.JsonNumbers
import FleetTelemetry.Proofs.KeyedItems
import FleetTelemetry.Proofs.LastDay
import FleetTelemetry.Proofs.LimitedRange
import FleetTelemetry.Proofs.Lossless
import FleetTelemetry.Proofs.MendedMonths
import FleetTelemetry.Proofs.MonthName
import FleetTelemetry.Proofs.MonthSpelling
import FleetTelemetry.Proofs.MonthWindow
import FleetTelemetry.Proofs.Months
import FleetTelemetry.Proofs.Notice
import FleetTelemetry.Proofs.NumberSpelling
import FleetTelemetry.Proofs.Peak
import FleetTelemetry.Proofs.Presence
import FleetTelemetry.Proofs.ProperTables
import FleetTelemetry.Proofs.RecordPipeline
import FleetTelemetry.Proofs.Redelivery
import FleetTelemetry.Proofs.Rollup
import FleetTelemetry.Proofs.RollupCoverage
import FleetTelemetry.Proofs.RoundTrip
import FleetTelemetry.Proofs.Run
import FleetTelemetry.Proofs.SoundSettings
import FleetTelemetry.Proofs.StableOrder
import FleetTelemetry.Proofs.SummaryTable
import FleetTelemetry.Proofs.Throughput
import FleetTelemetry.Record
import FleetTelemetry.Schedule.Expression
import FleetTelemetry.Schedule.Field
import FleetTelemetry.Service
import FleetTelemetry.Settings.Quoted
import FleetTelemetry.Settings.Scalar
import FleetTelemetry.Settings.Statement
import FleetTelemetry.Settings.Value
import FleetTelemetry.Snapshot
import FleetTelemetry.Sorted
import FleetTelemetry.Store.Basic
import FleetTelemetry.Store.Database
import FleetTelemetry.Store.FileTree
import FleetTelemetry.Store.Maintenance
import FleetTelemetry.Store.Query
import FleetTelemetry.Store.Retention
import FleetTelemetry.Store.Rollup
import FleetTelemetry.Summary
import FleetTelemetry.Text.Digits
import FleetTelemetry.Text.Json
import FleetTelemetry.Text.Parts
import FleetTelemetry.Text.Quoted
import FleetTelemetry.Timeline
import FleetTelemetry.Update
import FleetTelemetry.Wire.Basic
import FleetTelemetry.Wire.Record
import FleetTelemetry.Wire.Snapshot
import FleetTelemetry.Wire.Update
import FleetTelemetry.Word
import FleetTelemetry.Worker
import FleetTelemetry.Writer
