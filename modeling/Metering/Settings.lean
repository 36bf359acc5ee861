import Metering.Document.Decode
import Metering.FetchPolicy
import Metering.Retention.Worker
import Metering.Toml

/-!
# Settings

How the service is set up: where it listens, where it keeps its data, how long
it keeps them, and how reports look beyond their period. Settings are written
in TOML.

* `Settings.Valid`: what settings have to satisfy;
* `Settings.invalid?`: the first rule that settings break;
* `Settings.read`: the settings that a text describes, or what is wrong with it;
* `Settings.Retention.worker`, `Settings.Report.policy`: the parts that are used.
-/

namespace Metering

namespace Settings

/-- Where the service listens. -/
structure Server where
  /-- The port. -/
  port : UInt16
  /-- The host. -/
  host : String
deriving Repr, DecidableEq

/-- Where the service keeps its data. -/
structure Database where
  /-- The path of the file. -/
  path : String
  /-- The greatest number of connections. -/
  maxPoolSize : UInt32
deriving Repr, DecidableEq

/-- How long the service keeps its data. -/
structure Retention where
  /-- There is a retention worker. -/
  enablePurge : Bool := true
  /-- The number of days for which snapshots are kept. -/
  retentionDays : UInt32 := 90
  /-- The interval of retention passes, in seconds. -/
  purgeIntervalSecs : UInt64 := 3600
  /-- The schedule of compactions, if there is one. -/
  vacuumSchedule? : Option String := none
  /-- The interval of compactions without a schedule, in seconds. -/
  vacuumIntervalSecs : UInt64 := 86400
deriving Repr, DecidableEq

/-- How reports look beyond their period. -/
structure Report where
  /-- The margin behind a period in units of the distance to the anchor before it. -/
  fetchMarginMultiplier : Int64 := 2
  /-- The least margin, in milliseconds. -/
  minFetchMarginMs : Int64 := 0
  /-- Read the snapshots at the anchor too. -/
  includeAnchorSnapshot : Bool := false
deriving Repr, DecidableEq

end Settings

/-- How the service is set up. -/
structure Settings where
  /-- Where it listens. -/
  server : Settings.Server
  /-- Where it keeps its data. -/
  database : Settings.Database
  /-- How long it keeps its data. -/
  retention : Settings.Retention := {}
  /-- How reports look beyond their period. -/
  report : Settings.Report := {}
deriving Repr, DecidableEq

namespace Settings

/-- The retention worker that is asked for. -/
def Retention.worker (r : Retention) : Retention.Settings where
  purgeIntervalSecs := r.purgeIntervalSecs
  retentionDays := r.retentionDays
  vacuumSchedule? := r.vacuumSchedule?
  vacuumIntervalSecs := r.vacuumIntervalSecs

/-- The fetch policy that is asked for. -/
def Report.policy (r : Report) : FetchPolicy where
  marginMultiplier := r.fetchMarginMultiplier
  minMarginMs := r.minFetchMarginMs
  includeAnchor := r.includeAnchorSnapshot

/-! ### Rules -/

/-- What settings have to satisfy. -/
structure Valid [Cron.Reader] (s : Settings) : Prop where
  /-- There is a port. -/
  port_pos : 0 < s.server.port
  /-- There is a path. -/
  path_ne : s.database.path ≠ ""
  /-- There can be a connection. -/
  poolSize_pos : 0 < s.database.maxPoolSize
  /-- A worker keeps snapshots for some time, and takes time between passes and compactions. -/
  retention_pos : s.retention.enablePurge = true →
    0 < s.retention.retentionDays ∧ 0 < s.retention.purgeIntervalSecs ∧
      0 < s.retention.vacuumIntervalSecs
  /-- A schedule can be read, whether or not there is a worker. -/
  schedule_reads : ∀ text, s.retention.vacuumSchedule? = some text →
    (Cron.Reader.read? text).isSome
  /-- A margin does not shrink with the distance to the anchor. -/
  multiplier_nonneg : 0 ≤ s.report.fetchMarginMultiplier
  /-- A margin does not reach into the period. -/
  minMargin_nonneg : 0 ≤ s.report.minFetchMarginMs

/-- A rule that settings break. -/
inductive Invalid where
  /-- There is no port. -/
  | port (got : UInt16)
  /-- There is no path. -/
  | path
  /-- There can be no connection. -/
  | poolSize (got : UInt32)
  /-- Snapshots are not kept for any time. -/
  | retentionDays (got : UInt32)
  /-- There is no time between retention passes. -/
  | purgeInterval (got : UInt64)
  /-- There is no time between compactions. -/
  | vacuumInterval (got : UInt64)
  /-- A schedule cannot be read. -/
  | vacuumSchedule (got : String)
  /-- A margin shrinks with the distance to the anchor. -/
  | marginMultiplier (got : Int64)
  /-- A margin reaches into the period. -/
  | minMargin (got : Int64)
deriving Repr, DecidableEq

/-- The wording of a rule that is broken. -/
def Invalid.message : Invalid → String
  | port got => "server.port must be between 1 and 65535, got " ++ toString got
  | path => "database.path must be non-empty"
  | poolSize got => "database.max_pool_size must be > 0, got " ++ toString got
  | retentionDays got =>
    "retention.retention_days must be > 0 when purge is enabled, got " ++ toString got
  | purgeInterval got =>
    "retention.purge_interval_secs must be > 0 when purge is enabled, got " ++ toString got
  | vacuumInterval got =>
    "retention.vacuum_interval_secs must be > 0 when purge is enabled, got " ++ toString got
  | vacuumSchedule got => "retention.vacuum_schedule is not a valid cron expression: " ++ got
  | marginMultiplier got => "report.fetch_margin_multiplier must be >= 0, got " ++ toString got
  | minMargin got => "report.min_fetch_margin_ms must be >= 0, got " ++ toString got

/-- The rules in the order in which they are checked: whether a rule is broken,
    and what breaking it is called. -/
def rules [Cron.Reader] (s : Settings) : List (Bool × Invalid) :=
  let r := s.retention
  [(s.server.port = 0, .port s.server.port),
    (s.database.path = "", .path),
    (s.database.maxPoolSize = 0, .poolSize s.database.maxPoolSize),
    (r.enablePurge && r.retentionDays = 0, .retentionDays r.retentionDays),
    (r.enablePurge && r.purgeIntervalSecs = 0, .purgeInterval r.purgeIntervalSecs),
    (r.enablePurge && r.vacuumIntervalSecs = 0, .vacuumInterval r.vacuumIntervalSecs),
    (r.vacuumSchedule?.any fun text => (Cron.Reader.read? text).isNone,
      .vacuumSchedule (r.vacuumSchedule?.getD "")),
    (s.report.fetchMarginMultiplier < 0, .marginMultiplier s.report.fetchMarginMultiplier),
    (s.report.minFetchMarginMs < 0, .minMargin s.report.minFetchMarginMs)]

/-- The first rule that settings break. -/
def invalid? [Cron.Reader] (s : Settings) : Option Invalid := (s.rules.find? (·.1)).map (·.2)

/-! ### Reading -/

open Document

/-- An unsigned integer of 16 bits. -/
def uint16 : Decoder UInt16 := fun d => (natural 16 d).map UInt16.ofNat

/-- An unsigned integer of 32 bits. -/
def uint32 : Decoder UInt32 := fun d => (natural 32 d).map UInt32.ofNat

/-- The fields that say where the service listens. -/
def Server.fields : Fields Server :=
  Server.mk <$> .required "port" uint16 <*> .required "host" string

/-- The fields that say where the service keeps its data. -/
def Database.fields : Fields Database :=
  Database.mk <$> .required "path" string <*> .required "max_pool_size" uint32

/-- The fields that say how long the service keeps its data. -/
def Retention.fields : Fields Retention :=
  let default : Retention := {}
  Retention.mk <$> .optional "enable_purge" bool default.enablePurge
    <*> .optional "retention_days" uint32 default.retentionDays
    <*> .optional "purge_interval_secs" uint64 default.purgeIntervalSecs
    <*> .optional "vacuum_schedule" (fun d => some <$> string d) default.vacuumSchedule?
    <*> .optional "vacuum_interval_secs" uint64 default.vacuumIntervalSecs

/-- The fields that say how reports look beyond their period. -/
def Report.fields : Fields Report :=
  let default : Report := {}
  Report.mk <$> .optional "fetch_margin_multiplier" int64 default.fetchMarginMultiplier
    <*> .optional "min_fetch_margin_ms" int64 default.minFetchMarginMs
    <*> .optional "include_anchor_snapshot" bool default.includeAnchorSnapshot

/-- The fields of settings. A part that is missing has its defaults, if it has any. -/
def fields : Fields Settings :=
  Settings.mk <$> .required "server" (Server.fields.decode "ServerConfig" false)
    <*> .required "database" (Database.fields.decode "DatabaseConfig" false)
    <*> .optional "retention" (Retention.fields.decode "RetentionConfig" false) {}
    <*> .optional "report" (Report.fields.decode "ReportConfig" false) {}

/-- The settings that a document describes. -/
def decode : Decoder Settings := fields.decode "AppConfig" false

/-- What is wrong with a text of settings. -/
inductive Fault where
  /-- The text is not in the notation of settings. -/
  | malformed
  /-- The text has another shape. -/
  | misshapen (e : DecodeError)
  /-- The settings break a rule. -/
  | invalid (i : Invalid)

mutual

/-- Every integer of a document has 64 bits. -/
def isPlain : Document → Bool
  | .integer n => (Saturation.fits? n).isSome
  | .list ds => arePlain ds
  | .record members => membersArePlain members
  | .null | .boolean _ | .real _ | .text _ => true

/-- Every integer of these documents has 64 bits. -/
def arePlain : List Document → Bool
  | [] => true
  | d :: ds => isPlain d && arePlain ds

/-- Every integer of these members has 64 bits. -/
def membersArePlain : List (String × Document) → Bool
  | [] => true
  | (_, d) :: members => isPlain d && membersArePlain members

end

/-- The settings of a document. Integers of more than 64 bits are passed over in
    places that nobody looks at, but a document that has any is not said to be
    of another shape. -/
def ofDocument (d : Document) : Except Fault Settings :=
  match decode d with
  | .error e => .error (if isPlain d then .misshapen e else .malformed)
  | .ok s =>
    match s.invalid? with
    | some i => .error (.invalid i)
    | none => .ok s

/-- The settings that a text describes. -/
def read (text : String) : Except Fault Settings :=
  match Toml.read? text with
  | none => .error .malformed
  | some d => ofDocument d

end Settings

end Metering
