import BpfCompat.Transition
import BpfCompat.HashChain
import BpfCompat.Go.Utf8
import BpfCompat.Go.Strings
import BpfCompat.Go.Fold
import BpfCompat.Go.Collections
import BpfCompat.Go.Encoding
import BpfCompat.Go.Lines
import BpfCompat.Go.Duration
import BpfCompat.Go.Flag
import BpfCompat.Go.Http
import BpfCompat.C
import BpfCompat.Go.Json.Syntax
import BpfCompat.Go.Json.Token
import BpfCompat.Go.Json.Decode
import BpfCompat.Go.Json.Encode
import BpfCompat.Go.Json.Codec
import BpfCompat.Go.Json.Marshal
import BpfCompat.Schema.Report
import BpfCompat.Schema.Environment
import BpfCompat.Schema.Verdict
import BpfCompat.Schema.Json
import BpfCompat.Gate.Release
import BpfCompat.RegressionDiff.Validate
import BpfCompat.RegressionDiff.Classify
import BpfCompat.RegressionDiff.Build
import BpfCompat.RegressionDiff.Gate
import BpfCompat.RegressionDiff.Order
import BpfCompat.RegressionDiff.Deletion
import BpfCompat.RegressionDiff.DuplicateKeys
import BpfCompat.RegressionDiff.Evidence
import BpfCompat.RegressionDiff.Written
import BpfCompat.Matrix
import BpfCompat.Vm
import BpfCompat.Runner.ValidatorResult
import BpfCompat.Runner.Notes
import BpfCompat.Runner.Environment
import BpfCompat.Runner.Target
import BpfCompat.Runner.Honesty
import BpfCompat.Runner.Blame
import BpfCompat.Runner.Tuning
import BpfCompat.Runner.FunctionalPlan
import BpfCompat.Runner.Report
import BpfCompat.Runner.Agreement
import BpfCompat.Runner.Obligation
import BpfCompat.Runner.Pool
import BpfCompat.Registry.Record
import BpfCompat.Registry.Signing
import BpfCompat.Registry.History
import BpfCompat.Registry.Bootstrap
import BpfCompat.Registry.Backfill
import BpfCompat.Registry.Tamper
import BpfCompat.Registry.Writers
import BpfCompat.CloudRegistry.Authorize
import BpfCompat.Runner.Summary
import BpfCompat.CloudRegistry.Metadata
import BpfCompat.CloudRegistry.Upload
import BpfCompat.CloudRegistry.Shelf
import BpfCompat.CloudRegistry.Alias
import BpfCompat.CloudRegistry.Limits
import BpfCompat.CloudRegistry.Evidence
import BpfCompat.CloudRegistry.Revoke
import BpfCompat.Slots
import BpfCompat.Audit.Rotation
import BpfCompat.Go.Glob
import BpfCompat.Go.Time
import BpfCompat.Go.Path
import BpfCompat.Go.Symlink
import BpfCompat.Go.Url
import BpfCompat.Leader
import BpfCompat.Runtime.Policy
import BpfCompat.Runtime.Select
import BpfCompat.Runtime.Optimal
import BpfCompat.Runtime.Atomic
import BpfCompat.Runtime.DecisionTrace
import BpfCompat.Runtime.Fetch
import BpfCompat.Agent.Decision
import BpfCompat.Agent.Provenance
import BpfCompat.Agent.LoadPolicy
import BpfCompat.Agent.PolicyLists
import BpfCompat.Agent.Apply
import BpfCompat.Agent.HostLoad
import BpfCompat.Agent.Review
import BpfCompat.Agent.Remote
import BpfCompat.Agent.Ledger
import BpfCompat.Agent.LedgerFile
import BpfCompat.Agent.Rollback
import BpfCompat.Agent.Credentials
import BpfCompat.FirstMatch
import BpfCompat.KeyedList
import BpfCompat.Api.GuardPolicy
import BpfCompat.Api.KernelBounds
import BpfCompat.Api.ProjectsClaim
import BpfCompat.Api.RateLimit
import BpfCompat.Api.MissingEvidence
import BpfCompat.Api.Jobs
import BpfCompat.Api.Lifecycle
import BpfCompat.Api.Admission
import BpfCompat.Api.IdentityToken
import BpfCompat.Api.WriteAuth
import BpfCompat.Api.KeyCache
import BpfCompat.Api.ServerPath
import BpfCompat.Api.RuntimeExecute
import BpfCompat.Go.Net
import BpfCompat.Api.ClientIP
import BpfCompat.Runtime.Outbound
import BpfCompat.Artifact.Archive
import BpfCompat.Artifact.OciImage
import BpfCompat.Go.Json.Interface
import BpfCompat.Api.Sanitize
import BpfCompat.Api.PublicReport
import BpfCompat.Shell
import BpfCompat.Vm.Command
import BpfCompat.Vm.Firecracker
import BpfCompat.Validator.Functional
import BpfCompat.Validator.Plan
import BpfCompat.Validator.Verdict
import BpfCompat.Manifest
import BpfCompat.Manifest.Functional
import BpfCompat.Validator.Object
import BpfCompat.Validator.Options
import BpfCompat.Validator.Variants
import BpfCompat.Validator.Trial
import BpfCompat.Go.Json.Narrow
import BpfCompat.Go.Json.Layout
import BpfCompat.Runtime.Execute
import BpfCompat.RegressionDiff.Swap
import BpfCompat.Freshness
import BpfCompat.C.Memory
import BpfCompat.Validator.TailBuffer
import BpfCompat.Validator.Escape
import BpfCompat.Validator.Document
import BpfCompat.Validator.RoundTrip
import BpfCompat.Validator.Delivery
import BpfCompat.Artifact.IndexTree
import BpfCompat.Artifact.RemoteRef
import BpfCompat.Compare
import BpfCompat.Suite
import BpfCompat.Go.Sort
import BpfCompat.Freshness.Sweep
import BpfCompat.Freshness.Rpm
import BpfCompat.Api.Progress
import BpfCompat.Overwrite
import BpfCompat.Api.ValidateForm
import BpfCompat.Freshness.Packages
import BpfCompat.Vm.Validate
import BpfCompat.KernelSweep
