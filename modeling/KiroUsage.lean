import KiroUsage.Semantics.Execution
import KiroUsage.Semantics.Triple
import KiroUsage.Semantics.Delivery
import KiroUsage.Semantics.Loops
import KiroUsage.Semantics.Redelivery
import KiroUsage.Semantics.Agreement
import KiroUsage.Storage.Bucket
import KiroUsage.Storage.Publication
import KiroUsage.Storage.Listing
import KiroUsage.Text.Strings
import KiroUsage.Text.Calendar
import KiroUsage.Text.Hexadecimal
import KiroUsage.Text.Sha256
import KiroUsage.Ingest.Facts
import KiroUsage.Ingest.ReportTransform
import KiroUsage.Ingest.Aws
import KiroUsage.Ingest.BackfillRequest
import KiroUsage.Ingest.IngestService
import KiroUsage.Ingest.Function
import KiroUsage.Ingest.TransformFacts
import KiroUsage.Ingest.Outputs
import KiroUsage.Ingest.Sequencers
import KiroUsage.Ingest.Reading
import KiroUsage.Ingest.Publishing
import KiroUsage.Ingest.Effect
import KiroUsage.Ingest.Reconciliation
import KiroUsage.Ingest.Atomicity
import KiroUsage.Ingest.Isolation
import KiroUsage.Ingest.SourceHistory
import KiroUsage.Ingest.Convergence
import KiroUsage.Ingest.Regression
import KiroUsage.Ingest.StaleSkips
import KiroUsage.Ingest.Invocations
import KiroUsage.Ingest.Dispatch
import KiroUsage.Ingest.PageWalk
import KiroUsage.Ingest.Coverage
import KiroUsage.Ingest.TargetRemoval
import KiroUsage.Ingest.Grain
import KiroUsage.Ingest.Retries
import KiroUsage.Access.Policies
import KiroUsage.Infra.IngestPipeline
import KiroUsage.Infra.QueryLayer
import KiroUsage.Storage.Projection
import KiroUsage.Ingest.Reference
import KiroUsage.Ingest.DateRange
import KiroUsage.Ingest.RawReads
import KiroUsage.Ingest.Turns
import KiroUsage.Ingest.Poison
import KiroUsage.Ingest.PoisonIsolation
import KiroUsage.Ingest.PoisonPages
import KiroUsage.Ingest.PageRetries
import KiroUsage.Semantics.Transcript
import KiroUsage.Grafana.Requests
import KiroUsage.Grafana.CustomResourceHandler
import KiroUsage.Grafana.Transcripts
import KiroUsage.Grafana.Provisioning
import KiroUsage.Grafana.Handling
import KiroUsage.Grafana.Completeness
import KiroUsage.Grafana.Responses
import KiroUsage.Semantics.Leading
import KiroUsage.Grafana.Workspace
import KiroUsage.Grafana.Drift
import KiroUsage.Grafana.Credentials
import KiroUsage.Ingest.SequencerOrder
import KiroUsage.Ingest.Unpivot
import KiroUsage.Ingest.Lossless
import KiroUsage.Ingest.NonTargets
import KiroUsage.Ingest.Rearrangement
import KiroUsage.Ingest.EmptyTargetList
import KiroUsage.Ingest.Footprint
import KiroUsage.Ingest.Dependence
import KiroUsage.Infra.IngestRole
import KiroUsage.Ingest.Reached
import KiroUsage.Ingest.SequencerRuns
import KiroUsage.Infra.GrafanaWorkspace
import KiroUsage.Infra.KiroInfraStack
import KiroUsage.Infra.LivePath
import KiroUsage.Ingest.Provenance
import KiroUsage.Grafana.Sessions
import KiroUsage.Grafana.Redeployment
import KiroUsage.Infra.GrafanaProvisioning
import KiroUsage.Ingest.Rebuild
import KiroUsage.Infra.Exposure
import KiroUsage.Ingest.DeadLetters
import KiroUsage.Grafana.Secrecy
import KiroUsage.Scripts.Backfill
import KiroUsage.Semantics.Ledger
import KiroUsage.Ingest.Journal
