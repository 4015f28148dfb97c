import ValidatorWatch.Alert.Category
import ValidatorWatch.Alert.Dispatch
import ValidatorWatch.Alert.Event
import ValidatorWatch.Alert.Ledger
import ValidatorWatch.Alert.Notification
import ValidatorWatch.Alert.Notifier
import ValidatorWatch.Alert.TokenBucket
import ValidatorWatch.Alert.Wire
import ValidatorWatch.Decimal.Binary
import ValidatorWatch.Decimal.Literal
import ValidatorWatch.Decimal.Shortest
import ValidatorWatch.Decimal.Written
import ValidatorWatch.Document.Json
import ValidatorWatch.Document.Record
import ValidatorWatch.Document.Toml
import ValidatorWatch.Document.Toml.Quoted
import ValidatorWatch.Document.Toml.Scalar
import ValidatorWatch.Document.Toml.Table
import ValidatorWatch.Document.Value
import ValidatorWatch.Http.Exchange
import ValidatorWatch.Http.Lookup
import ValidatorWatch.Main
import ValidatorWatch.Monitor.Basic
import ValidatorWatch.Monitor.Check
import ValidatorWatch.Monitor.Gauges
import ValidatorWatch.Monitor.Rehearsal
import ValidatorWatch.Monitor.Reports
import ValidatorWatch.NameMap
import ValidatorWatch.Proofs.Alert.Markup
import ValidatorWatch.Proofs.Decimal.Nearest
import ValidatorWatch.Proofs.Decimal.Plain
import ValidatorWatch.Proofs.Dispatch.Accounts
import ValidatorWatch.Proofs.Dispatch.Bounds
import ValidatorWatch.Proofs.Dispatch.Buckets
import ValidatorWatch.Proofs.Dispatch.Cooldowns
import ValidatorWatch.Proofs.Dispatch.Fates
import ValidatorWatch.Proofs.Dispatch.Indifference
import ValidatorWatch.Proofs.Dispatch.Journal
import ValidatorWatch.Proofs.Dispatch.Places
import ValidatorWatch.Proofs.Dispatch.RetryWindow
import ValidatorWatch.Proofs.Dispatch.Separation
import ValidatorWatch.Proofs.Dispatch.TokenRate
import ValidatorWatch.Proofs.Document.Json
import ValidatorWatch.Proofs.Document.Numbers
import ValidatorWatch.Proofs.Evaluation.Bounds
import ValidatorWatch.Proofs.Evaluation.Changes
import ValidatorWatch.Proofs.Evaluation.Figures
import ValidatorWatch.Proofs.Evaluation.Membership
import ValidatorWatch.Proofs.Evaluation.Recovery
import ValidatorWatch.Proofs.Evaluation.Recurrence
import ValidatorWatch.Proofs.Evaluation.Reports
import ValidatorWatch.Proofs.Evaluation.Runs
import ValidatorWatch.Proofs.Evaluation.Sources
import ValidatorWatch.Proofs.Evaluation.Streak
import ValidatorWatch.Proofs.Evaluation.Thresholds
import ValidatorWatch.Proofs.Monitor.Agreement
import ValidatorWatch.Proofs.Monitor.Errands
import ValidatorWatch.Proofs.Monitor.Faults
import ValidatorWatch.Proofs.Monitor.Interleaving
import ValidatorWatch.Proofs.Monitor.MetricPages
import ValidatorWatch.Proofs.Monitor.Order
import ValidatorWatch.Proofs.Monitor.Outages
import ValidatorWatch.Proofs.Monitor.Parallel
import ValidatorWatch.Proofs.Monitor.Parts
import ValidatorWatch.Proofs.Monitor.Rehearsal
import ValidatorWatch.Proofs.Monitor.Restart
import ValidatorWatch.Proofs.Monitor.Shutdown
import ValidatorWatch.Proofs.Monitor.StaleFigures
import ValidatorWatch.Proofs.Monitor.Watch
import ValidatorWatch.Proofs.Settings.Loading
import ValidatorWatch.Proofs.Settings.Ranges
import ValidatorWatch.Proofs.Settings.Validation
import ValidatorWatch.Proofs.Source.Breakers
import ValidatorWatch.Proofs.Source.Cached
import ValidatorWatch.Proofs.Source.Caches
import ValidatorWatch.Proofs.Source.Exposition
import ValidatorWatch.Proofs.Source.Gmonads
import ValidatorWatch.Proofs.Source.Lookups
import ValidatorWatch.Proofs.Source.Rounds
import ValidatorWatch.Proofs.Source.Uptime
import ValidatorWatch.Proofs.Store.History
import ValidatorWatch.Proofs.Store.Order
import ValidatorWatch.Proofs.Store.Saves
import ValidatorWatch.Proofs.Text.Digits
import ValidatorWatch.Proofs.Text.Lines
import ValidatorWatch.Proofs.Time.Calendar
import ValidatorWatch.Proofs.Time.Differences
import ValidatorWatch.Proofs.Time.Order
import ValidatorWatch.Proofs.Time.Stamp
import ValidatorWatch.Proofs.Time.StampOrder
import ValidatorWatch.Proofs.Validator.Encoding
import ValidatorWatch.Proofs.Validator.PublicKey
import ValidatorWatch.Proofs.Web.Health
import ValidatorWatch.PublicKey
import ValidatorWatch.Settings.Basic
import ValidatorWatch.Settings.Credentials
import ValidatorWatch.Settings.Encoding
import ValidatorWatch.Settings.Loading
import ValidatorWatch.Settings.Overview
import ValidatorWatch.Settings.Validation
import ValidatorWatch.Source.Bundle
import ValidatorWatch.Source.CircuitBreaker
import ValidatorWatch.Source.Encoding
import ValidatorWatch.Source.Error
import ValidatorWatch.Source.Exposition
import ValidatorWatch.Source.Gmonads
import ValidatorWatch.Source.Huginn
import ValidatorWatch.Source.Memory
import ValidatorWatch.Source.Network
import ValidatorWatch.Source.Prober
import ValidatorWatch.Source.Scrape
import ValidatorWatch.Store.Folder
import ValidatorWatch.Store.History
import ValidatorWatch.Store.HistoryPath
import ValidatorWatch.Store.StateStore
import ValidatorWatch.Text.Blank
import ValidatorWatch.Text.Percent
import ValidatorWatch.Time.Calendar
import ValidatorWatch.Time.Instant
import ValidatorWatch.Time.Stamp
import ValidatorWatch.Validator.Encoding
import ValidatorWatch.Validator.Evaluation
import ValidatorWatch.Validator.Observation
import ValidatorWatch.Validator.Reconciliation
import ValidatorWatch.Validator.Resource
import ValidatorWatch.Validator.Snapshot
import ValidatorWatch.Validator.State
import ValidatorWatch.Validator.Verdict
import ValidatorWatch.Web.Query
import ValidatorWatch.Web.Router
