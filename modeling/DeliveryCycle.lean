import DeliveryCycle.Api.Service
import DeliveryCycle.Job.Call
import DeliveryCycle.Json.Writer
import DeliveryCycle.Log.Configuration
import DeliveryCycle.Log.Line
import DeliveryCycle.Main
import DeliveryCycle.Record.Ledger.Lemmas
import DeliveryCycle.Remote.Operation
import DeliveryCycle.Schema.Migration
import DeliveryCycle.Service.Startup
import DeliveryCycle.Service.Trigger
import DeliveryCycle.Proofs.Api.Tracking
import DeliveryCycle.Proofs.Run.Cancellation
import DeliveryCycle.Proofs.Run.Completion
import DeliveryCycle.Proofs.Run.Commutation
import DeliveryCycle.Record.Session
import DeliveryCycle.Run.Statements
import DeliveryCycle.Proofs.Run.Atomicity
import DeliveryCycle.Proofs.Run.Consistency
import DeliveryCycle.Proofs.Matching.Growth
import DeliveryCycle.Proofs.Api.RequestSequence
import DeliveryCycle.Proofs.Matching.DeploymentChoice
import DeliveryCycle.Proofs.Run.Branches
import DeliveryCycle.Proofs.Run.LinkedBranch
import DeliveryCycle.Proofs.Run.Pipeline
import DeliveryCycle.Proofs.Run.Supervision
import DeliveryCycle.Proofs.Run.RepeatedCancellation
import DeliveryCycle.Proofs.Matching.PullRequestChoice
import DeliveryCycle.Proofs.Run.Accounting
import DeliveryCycle.Proofs.Run.CancelledCaller
import DeliveryCycle.Proofs.Time.WholeMinutes
import DeliveryCycle.Proofs.Number.Order
import DeliveryCycle.Proofs.Record.Spans
import DeliveryCycle.Proofs.Record.Statistics
import DeliveryCycle.Proofs.Record.Summary
import DeliveryCycle.Proofs.Run.Enrichment
import DeliveryCycle.Proofs.Remote.Replies
import DeliveryCycle.Proofs.Api.Answers
import DeliveryCycle.Proofs.Api.FailedRequests
import DeliveryCycle.Proofs.Api.ProjectNames
import DeliveryCycle.Proofs.Matching.CandidateOrder
import DeliveryCycle.Proofs.Text.LiteralSearch
import DeliveryCycle.Proofs.Run.ConnectionCounts
import DeliveryCycle.Proofs.Api.ReadEndpoints
import DeliveryCycle.Proofs.Matching.Fallbacks
import DeliveryCycle.Proofs.Settings.AddressParts
import DeliveryCycle.Proofs.Log.ReadBack
