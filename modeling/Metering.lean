import Metering.Api
import Metering.Binary64
import Metering.Calendar
import Metering.Cron
import Metering.Cron.Field
import Metering.Document
import Metering.Document.Decode
import Metering.Entity
import Metering.Failure
import Metering.FetchPolicy
import Metering.Files
import Metering.Http
import Metering.Http.Body
import Metering.Http.Form
import Metering.Http.MediaType
import Metering.Json
import Metering.Json.Numeral
import Metering.Json.Quoted
import Metering.Main
import Metering.Observation
import Metering.Period
import Metering.Proofs.Sorting
import Metering.Records
import Metering.Report
import Metering.Reporting
import Metering.Retention
import Metering.Retention.Worker
import Metering.Rounded
import Metering.Rounded.Nearest
import Metering.Saturation
import Metering.Search
import Metering.Settings
import Metering.Settings.Load
import Metering.Snapshot
import Metering.Store
import Metering.Store.InFile
import Metering.Store.Script
import Metering.Store.Tables
import Metering.Text.Digits
import Metering.Text.Invisible
import Metering.Text.Pieces
import Metering.Text.Shown
import Metering.Toml
import Metering.Toml.Moment
import Metering.Toml.Quoted
import Metering.Toml.Scalar
import Metering.Toml.Tree
import Metering.Totals
import Metering.Turns
import Metering.Window
import Metering.Proofs.Rounding
import Metering.Proofs.Apportioning
import Metering.Proofs.Maps
import Metering.Proofs.Gathering
import Metering.Proofs.Identities
import Metering.Proofs.Charging
import Metering.Proofs.Asking
import Metering.Proofs.Summary
import Metering.Proofs.Watched
import Metering.Proofs.Searching
import Metering.Proofs.Tables
import Metering.Proofs.Purging
import Metering.Proofs.PurgedReports
import Metering.Proofs.Requests
import Metering.Proofs.ByteOrder
import Metering.Proofs.Runs
import Metering.Proofs.Joining
import Metering.Proofs.InPeriod
import Metering.Proofs.Summing
import Metering.Proofs.Merging
import Metering.Proofs.Questions
import Metering.Proofs.InTurn
import Metering.Proofs.Registering
import Metering.Proofs.Idle
import Metering.Proofs.Apart
import Metering.Proofs.OnTime
import Metering.Proofs.Validating
import Metering.Proofs.Answering
import Metering.Proofs.Fetching
import Metering.Proofs.Reaching
import Metering.Proofs.BeforePeriod
import Metering.Proofs.Tallying
import Metering.Proofs.Elapsed
import Metering.Proofs.Isolation
import Metering.Proofs.Retaining
import Metering.Proofs.Rereading
import Metering.Proofs.Codec
import Metering.Proofs.Records
import Metering.Proofs.Transactions
import Metering.Store.Disturbed
