import ClusterSurvey.Binary.Double
import ClusterSurvey.Cluster.Unit
import ClusterSurvey.Collection.Collector
import ClusterSurvey.Collection.Delivery
import ClusterSurvey.Collection.Ledger
import ClusterSurvey.Collection.WaitingRoom
import ClusterSurvey.Credential.Certificate
import ClusterSurvey.Credential.Client
import ClusterSurvey.Credential.Description
import ClusterSurvey.Credential.Error
import ClusterSurvey.Credential.Handshake
import ClusterSurvey.Credential.Pem
import ClusterSurvey.Data.Mismatch
import ClusterSurvey.Decimal.Notation
import ClusterSurvey.Decimal.Shortest
import ClusterSurvey.Environment.Assignment
import ClusterSurvey.Environment.File
import ClusterSurvey.Environment.Line
import ClusterSurvey.Environment.Variables
import ClusterSurvey.Handover.Marker
import ClusterSurvey.Handover.Media
import ClusterSurvey.Json.Basic
import ClusterSurvey.Json.Draft
import ClusterSurvey.Json.Number
import ClusterSurvey.Json.Reader
import ClusterSurvey.Machine.Basic
import ClusterSurvey.Main
import ClusterSurvey.Net.Advertised
import ClusterSurvey.Net.Answer
import ClusterSurvey.Net.HostName
import ClusterSurvey.Net.IpAddress
import ClusterSurvey.Net.Percent
import ClusterSurvey.Net.Reference
import ClusterSurvey.Net.StatusCode
import ClusterSurvey.Net.Url
import ClusterSurvey.Net.UrlHost
import ClusterSurvey.Plugin.Definition
import ClusterSurvey.Plugin.Instance
import ClusterSurvey.Plugin.Lifecycle
import ClusterSurvey.Plugin.Manifest
import ClusterSurvey.Plugin.Monitor
import ClusterSurvey.Plugin.Vigil
import ClusterSurvey.Plugin.Withdrawal
import ClusterSurvey.Rehearsal.Desk
import ClusterSurvey.Rehearsal.Mailbox
import ClusterSurvey.Rehearsal.Pickup
import ClusterSurvey.Rehearsal.Play
import ClusterSurvey.Rehearsal.Responder
import ClusterSurvey.Rehearsal.Watch
import ClusterSurvey.Result.Failure
import ClusterSurvey.Result.Key
import ClusterSurvey.Result.Route
import ClusterSurvey.Result.Status
import ClusterSurvey.Run.Basic
import ClusterSurvey.Run.Error
import ClusterSurvey.Service.Request
import ClusterSurvey.Service.Router
import ClusterSurvey.Settings.Basic
import ClusterSurvey.Settings.Loader
import ClusterSurvey.Settings.Overrides
import ClusterSurvey.Storage.Lookup
import ClusterSurvey.Storage.Tree
import ClusterSurvey.Submission.Basic
import ClusterSurvey.Submission.Error
import ClusterSurvey.Submission.Exchange
import ClusterSurvey.Submission.RetryPolicy
import ClusterSurvey.Text.Alphanumeric
import ClusterSurvey.Text.Blank
import ClusterSurvey.Text.Digits
import ClusterSurvey.Text.Natural
import ClusterSurvey.Text.Quoted
import ClusterSurvey.Text.Ranges
import ClusterSurvey.Text.Split
import ClusterSurvey.Text.Utf8
import ClusterSurvey.Text.Visible
import ClusterSurvey.Time.Duration
import ClusterSurvey.Toml.Document
import ClusterSurvey.Toml.Quoted
import ClusterSurvey.Toml.Reader
import ClusterSurvey.Toml.Scalar
import ClusterSurvey.Toml.Table
import ClusterSurvey.Worker.Arguments
import ClusterSurvey.Worker.Options
import ClusterSurvey.Worker.Start
import ClusterSurvey.Worker.Workplace
import ClusterSurvey.Proofs.Cluster.Health
import ClusterSurvey.Proofs.Collector.Artifacts
import ClusterSurvey.Proofs.Collector.Confined
import ClusterSurvey.Proofs.Collector.Counting
import ClusterSurvey.Proofs.Collector.Deliveries
import ClusterSurvey.Proofs.Collector.Failures
import ClusterSurvey.Proofs.Collector.LeftOut
import ClusterSurvey.Proofs.Collector.Ongoing
import ClusterSurvey.Proofs.Collector.Opening
import ClusterSurvey.Proofs.Collector.Order
import ClusterSurvey.Proofs.Collector.Outcomes
import ClusterSurvey.Proofs.Collector.Places
import ClusterSurvey.Proofs.Collector.Precedence
import ClusterSurvey.Proofs.Collector.Step
import ClusterSurvey.Proofs.Collector.Traceless
import ClusterSurvey.Proofs.Collector.WaitingRoom
import ClusterSurvey.Proofs.Collector.Waits
import ClusterSurvey.Proofs.Collector.Whole
import ClusterSurvey.Proofs.Credential.Admission
import ClusterSurvey.Proofs.Credential.Identity
import ClusterSurvey.Proofs.Handover.Marker
import ClusterSurvey.Proofs.Json.Record
import ClusterSurvey.Proofs.Json.RoundTrip
import ClusterSurvey.Proofs.Json.Text
import ClusterSurvey.Proofs.Ledger
import ClusterSurvey.Proofs.Net.Address
import ClusterSurvey.Proofs.Net.Advertised
import ClusterSurvey.Proofs.Net.Answer
import ClusterSurvey.Proofs.Net.Dialing
import ClusterSurvey.Proofs.Net.IpAddress
import ClusterSurvey.Proofs.Net.IpText
import ClusterSurvey.Proofs.Net.Percent
import ClusterSurvey.Proofs.Net.Stripping
import ClusterSurvey.Proofs.Plugin.Agreement
import ClusterSurvey.Proofs.Plugin.Failing
import ClusterSurvey.Proofs.Plugin.NodeByNode
import ClusterSurvey.Proofs.Plugin.Played
import ClusterSurvey.Proofs.Plugin.Reports
import ClusterSurvey.Proofs.Plugin.Secrecy
import ClusterSurvey.Proofs.Plugin.SoleReport
import ClusterSurvey.Proofs.Plugin.Unplaced
import ClusterSurvey.Proofs.Plugin.Vigil
import ClusterSurvey.Proofs.Plugin.Withdrawal
import ClusterSurvey.Proofs.Result.Failure
import ClusterSurvey.Proofs.Result.Status
import ClusterSurvey.Proofs.Run.Capacity
import ClusterSurvey.Proofs.Run.Cleanup
import ClusterSurvey.Proofs.Run.Collecting
import ClusterSurvey.Proofs.Run.Completion
import ClusterSurvey.Proofs.Run.Dispatched
import ClusterSurvey.Proofs.Run.Launching
import ClusterSurvey.Proofs.Run.Secrecy
import ClusterSurvey.Proofs.Run.Soundness
import ClusterSurvey.Proofs.Run.Step
import ClusterSurvey.Proofs.Run.Verdict
import ClusterSurvey.Proofs.Run.Withdrawing
import ClusterSurvey.Proofs.Service.Route
import ClusterSurvey.Proofs.Service.Session
import ClusterSurvey.Proofs.Settings.Composition
import ClusterSurvey.Proofs.Settings.Files
import ClusterSurvey.Proofs.Settings.Variables
import ClusterSurvey.Proofs.Storage.Lacking
import ClusterSurvey.Proofs.Storage.Path
import ClusterSurvey.Proofs.Storage.Room
import ClusterSurvey.Proofs.Submission.Address
import ClusterSurvey.Proofs.Submission.Attempts
import ClusterSurvey.Proofs.Submission.Backoff
import ClusterSurvey.Proofs.Submission.Handling
import ClusterSurvey.Proofs.Submission.Line
import ClusterSurvey.Proofs.Submission.Recorded
import ClusterSurvey.Proofs.Submission.Retrying
import ClusterSurvey.Proofs.Text.Blank
import ClusterSurvey.Proofs.Text.Digits
import ClusterSurvey.Proofs.Text.Natural
import ClusterSurvey.Proofs.Toml.Members
import ClusterSurvey.Proofs.Worker.Address
import ClusterSurvey.Proofs.Worker.Pickup
