/-
# Configuration

The program is configured by a settings text with five sections, of which
those of the server and of the database have to be there. A section is a table
with the names of its settings, or a list of them in order; what it does not
say has a default or has to be said. A configuration that says something
unusable is refused with the first of its faults.

Key definitions: `Config`, `ConfigError`, `Config.ofText`, `Config.load`,
`Config.fault?`, `Config.retentionPolicy`, `Config.writerConfig`,
`Config.workerConfig`.
-/
import FleetTelemetry.Schedule.Expression
import FleetTelemetry.Settings.Statement
import FleetTelemetry.Text.Quoted
import FleetTelemetry.Worker
import FleetTelemetry.Writer

namespace FleetTelemetry

/-- Where the program listens. -/
structure ServerConfig where
  port : UInt16
  host : String
  deriving DecidableEq, Repr

/-- Where rows are kept, and when they are written. -/
structure DatabaseConfig where
  path : String
  maxPoolSize : UInt32 := 4
  /-- Whether rows are kept for long at all. -/
  persistEnabled : Bool := true
  flushRate : UInt64 := 50
  flushIntervalSecs : UInt64 := 5
  deriving DecidableEq, Repr

/-- How much of the past the live cache holds. -/
structure CacheConfig where
  /-- The snapshots kept for an agent. -/
  historyCapacity : UInt64 := 600
  deriving DecidableEq, Repr

/-- For how many days rows and summaries are kept. -/
structure RetentionConfig where
  rawRetentionDays : UInt32 := 30
  hourlyRetentionDays : UInt32 := 90
  dailyRetentionDays : UInt32 := 365
  deriving DecidableEq, Repr

/-- When rows are rolled up and cleaned up. -/
structure AggregationConfig where
  rollupIntervalSecs : UInt64 := 3600
  cleanupIntervalSecs : UInt64 := 86400
  /-- When the cleanup runs; it takes the place of the interval. -/
  cleanupSchedule : Option String := none
  vacuumAfterCleanup : Bool := false
  deriving DecidableEq, Repr

/-- The five sections. -/
structure Config where
  server : ServerConfig
  database : DatabaseConfig
  cache : CacheConfig := {}
  retention : RetentionConfig := {}
  aggregation : AggregationConfig := {}
  deriving DecidableEq, Repr

/-- What is unusable in a configuration. -/
inductive ConfigFault where
  | portZero
  | pathEmpty
  /-- A setting that has to be positive is zero. -/
  | zero (setting : String)
  | schedule (expression : String)
  deriving DecidableEq, Repr

/-- Why a configuration is not to be had. -/
inductive ConfigError where
  | fileMissing
  /-- The text is no settings text, or does not fit the sections. -/
  | unreadable
  | invalid (fault : ConfigFault)
  deriving DecidableEq, Repr

namespace ConfigFault

/-- The complaint about a fault. -/
def message : ConfigFault → String
  | portZero => "server.port must be between 1 and 65535, got 0"
  | pathEmpty => "database.path must be non-empty"
  | zero setting => setting ++ " must be > 0, got 0"
  | schedule expression =>
    "aggregation.cleanup_schedule " ++ Quoted.quote expression ++ " is not a valid cron expression"

end ConfigFault

namespace Settings

/-- The value under a name. -/
def find (entries : Entries) (name : String) : Option Value := entries.lookup name

/-- The settings of a section by name. A list gives them in the order of `names`, and what is too
much in it does not count; a date or time gives none. -/
def section? (names : List String) : Value → Option (String → Option Value)
  | .table _ entries => some (find entries)
  | .array items => some (find (names.zip items))
  | .tables elements => some (find (names.zip (elements.map (Value.table .header))))
  | .datetime => some fun _ => none
  | _ => none

/-- A setting that has to be said. -/
def required {β : Type} (read : Value → Option β) (settings : String → Option Value)
    (name : String) : Option β :=
  (settings name).bind read

/-- A setting with a default. -/
def orDefault {β : Type} (read : Value → Option β) (settings : String → Option Value)
    (name : String) (default : β) : Option β :=
  match settings name with
  | some v => read v
  | none => some default

/-- A text. -/
def text? : Value → Option String
  | .str s => some s
  | _ => none

/-- A truth value. -/
def truth? : Value → Option Bool
  | .bool b => some b
  | _ => none

/-- An integer from zero to less than a bound. -/
def natural? (bound : Nat) : Value → Option Nat
  | .int (.ofNat n) => if n < bound then some n else none
  | _ => none

/-- An integer that fits 16 bits. -/
def word16? (v : Value) : Option UInt16 := (natural? Word.size16 v).map UInt16.ofNat
/-- An integer that fits 32 bits. -/
def word32? (v : Value) : Option UInt32 := (natural? Word.size32 v).map UInt32.ofNat
/-- An integer that fits 64 bits. -/
def word64? (v : Value) : Option UInt64 := (natural? Word.size64 v).map UInt64.ofNat

end Settings

open Settings in
/-- The section of the server; both of its settings have to be said. -/
def ServerConfig.ofValue? (v : Value) : Option ServerConfig := do
  let s ← section? ["port", "host"] v
  return {
    port := ← required word16? s "port"
    host := ← required text? s "host" }

open Settings in
/-- The section of the database; only its path has to be said. -/
def DatabaseConfig.ofValue? (v : Value) : Option DatabaseConfig := do
  let s ← section?
    ["path", "max_pool_size", "persist_enabled", "flush_rate", "flush_interval_secs"] v
  return {
    path := ← required text? s "path"
    maxPoolSize := ← orDefault word32? s "max_pool_size" 4
    persistEnabled := ← orDefault truth? s "persist_enabled" true
    flushRate := ← orDefault word64? s "flush_rate" 50
    flushIntervalSecs := ← orDefault word64? s "flush_interval_secs" 5 }

open Settings in
/-- The section of the cache. -/
def CacheConfig.ofValue? (v : Value) : Option CacheConfig := do
  let s ← section? ["history_capacity"] v
  return { historyCapacity := ← orDefault word64? s "history_capacity" 600 }

open Settings in
/-- The section of the retention. -/
def RetentionConfig.ofValue? (v : Value) : Option RetentionConfig := do
  let s ← section?
    ["raw_retention_days", "hourly_retention_days", "daily_retention_days"] v
  return {
    rawRetentionDays := ← orDefault word32? s "raw_retention_days" 30
    hourlyRetentionDays := ← orDefault word32? s "hourly_retention_days" 90
    dailyRetentionDays := ← orDefault word32? s "daily_retention_days" 365 }

open Settings in
/-- The section of the rollups and the cleanup. -/
def AggregationConfig.ofValue? (v : Value) : Option AggregationConfig := do
  let s ← section?
    ["rollup_interval_secs", "cleanup_interval_secs", "cleanup_schedule",
      "vacuum_after_cleanup"] v
  return {
    rollupIntervalSecs := ← orDefault word64? s "rollup_interval_secs" 3600
    cleanupIntervalSecs := ← orDefault word64? s "cleanup_interval_secs" 86400
    cleanupSchedule := ← orDefault (fun v => (text? v).map some) s "cleanup_schedule" none
    vacuumAfterCleanup := ← orDefault truth? s "vacuum_after_cleanup" false }

namespace Config

open Settings in
/-- The configuration of a settings text. Settings that it does not know do not count. -/
def ofEntries? (entries : Entries) : Option Config := do
  return {
    server := ← required ServerConfig.ofValue? (find entries) "server"
    database := ← required DatabaseConfig.ofValue? (find entries) "database"
    cache := ← orDefault CacheConfig.ofValue? (find entries) "cache" {}
    retention := ← orDefault RetentionConfig.ofValue? (find entries) "retention" {}
    aggregation := ← orDefault AggregationConfig.ofValue? (find entries) "aggregation" {} }

/-- The conditions of a usable configuration, each with the fault that is left without it. -/
def conditions (c : Config) : List (Bool × ConfigFault) :=
  [(c.server.port != 0, .portZero),
    (c.database.path != "", .pathEmpty),
    (c.database.maxPoolSize != 0, .zero "database.max_pool_size"),
    (c.database.flushRate != 0, .zero "database.flush_rate"),
    (c.database.flushIntervalSecs != 0, .zero "database.flush_interval_secs"),
    (c.cache.historyCapacity != 0, .zero "cache.history_capacity"),
    (c.retention.rawRetentionDays != 0, .zero "retention.raw_retention_days"),
    (c.retention.hourlyRetentionDays != 0, .zero "retention.hourly_retention_days"),
    (c.retention.dailyRetentionDays != 0, .zero "retention.daily_retention_days"),
    (c.aggregation.rollupIntervalSecs != 0, .zero "aggregation.rollup_interval_secs"),
    (c.aggregation.cleanupIntervalSecs != 0, .zero "aggregation.cleanup_interval_secs"),
    ((c.aggregation.cleanupSchedule.all fun e => (Schedule.ofText? e).isSome),
      .schedule (c.aggregation.cleanupSchedule.getD ""))]

/-- The first fault of a configuration. -/
def fault? (c : Config) : Option ConfigFault :=
  (c.conditions.find? fun condition => !condition.1).map Prod.snd

/-- The configuration of a settings text, if it is usable. -/
def ofText (text : String) : Except ConfigError Config :=
  match (Settings.ofText? text).bind ofEntries? with
  | none => .error .unreadable
  | some c =>
    match c.fault? with
    | some fault => .error (.invalid fault)
    | none => .ok c

/-- The configuration in a file, given what the file holds, if there is one. -/
def load : Option String → Except ConfigError Config
  | none => .error .fileMissing
  | some text => ofText text

/-- For how long the store keeps its rows. -/
def retentionPolicy (c : Config) : RetentionPolicy where
  rawDays := c.retention.rawRetentionDays
  hourlyDays := c.retention.hourlyRetentionDays
  dailyDays := c.retention.dailyRetentionDays

/-- When the record writer saves. -/
def writerConfig (c : Config) : WriterConfig where
  flushRate := c.database.flushRate
  flushIntervalSecs := c.database.flushIntervalSecs

/-- The grace of the worker is the flush interval, so that the rows of an hour have been written
before it is rolled up. -/
def workerConfig (c : Config) : WorkerConfig where
  rollupIntervalSecs := c.aggregation.rollupIntervalSecs
  flushGraceSecs := c.database.flushIntervalSecs
  cleanupIntervalSecs := c.aggregation.cleanupIntervalSecs
  cleanupSchedule := c.aggregation.cleanupSchedule
  vacuumAfterCleanup := c.aggregation.vacuumAfterCleanup
  retention := c.retentionPolicy

end Config
end FleetTelemetry
