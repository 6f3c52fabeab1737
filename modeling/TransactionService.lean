import TransactionService.Foundation.Json
import TransactionService.Foundation.Text
import TransactionService.Foundation.Percent
import TransactionService.Foundation.Url
import TransactionService.Foundation.PathPattern
import TransactionService.Foundation.Machine
import TransactionService.Foundation.Number
import TransactionService.Foundation.StableSort
import TransactionService.Foundation.Interleaving
import TransactionService.Foundation.CompareAndSwap
import TransactionService.Foundation.Action
import TransactionService.Foundation.Fallible
import TransactionService.Exchange
import TransactionService.Service
import TransactionService.Auth
import TransactionService.Auth.Soundness
import TransactionService.Auth.Tokens
import TransactionService.Environment
import TransactionService.Environment.Tenants
import TransactionService.Environment.Registries
import TransactionService.Compatibility
import TransactionService.Validation
import TransactionService.ProblemDetails
import TransactionService.Store
import TransactionService.DidAuth
import TransactionService.Workflows
import TransactionService.IssuerSelection
import TransactionService.Workflows.DidAuthWorkflow
import TransactionService.Workflows.ClaimWorkflow
import TransactionService.VerifyTask.Lifecycle
import TransactionService.Workflows.VerifyWorkflow
import TransactionService.Workflows.VerifySubmission
import TransactionService.VerifyTask.Worker
import TransactionService.VerifyTask.Sweep
import TransactionService.Oid4vci.State
import TransactionService.Oid4vci.Handlers
import TransactionService.Oid4vp.State
import TransactionService.Oid4vp.Handlers
import TransactionService.Protocols
import TransactionService.Routes
import TransactionService.Routes.Changes
import TransactionService.Routes.Access
import TransactionService.Workflows.CreationSchema
import TransactionService.Workflows.WorkflowSchemas
import TransactionService.Routes.Creation
import TransactionService.Routes.CreationExpiry
import TransactionService.Routes.CreationStages
import TransactionService.Routes.VcTemplates
import TransactionService.Routes.BatchCreation
import TransactionService.Oid4vp.DcqlQuery
import TransactionService.World
import TransactionService.World.Steps
import TransactionService.Workflows.SignedContent
import TransactionService.Workflows.Outcome
import TransactionService.Workflows.TrustedIssuers
import TransactionService.VerifyTask.MergeLaw
import TransactionService.VerifyTask.Finalization
import TransactionService.Oid4vp.Audience
import TransactionService.Workflows.HolderAgreement
import TransactionService.VerifyTask.Concurrency
import TransactionService.Routes.SingleUse
import TransactionService.World.Finality
import TransactionService.World.Coherence
import TransactionService.Workflows.Envelope
import TransactionService.Workflows.SubjectBinding
import TransactionService.Workflows.ClaimMatching
import TransactionService.Foundation.History
import TransactionService.World.RecordHistory
import TransactionService.Oid4vci.Provenance
import TransactionService.Oid4vci.Lifetimes
import TransactionService.Oid4vci.ConfigurationIds
import TransactionService.Oid4vp.ReplayGuard
import TransactionService.Oid4vp.QueryBinding
import TransactionService.Routes.SaveOrder
import TransactionService.Routes.FailureAtomicity
import TransactionService.Foundation.SharedStore
import TransactionService.Foundation.LeasedStore
import TransactionService.Foundation.GuardedStore
import TransactionService.World.IdentityFrame
import TransactionService.World.Retention
import TransactionService.World.CommitFrame
import TransactionService.Routes.Completion
import TransactionService.World.Verdict
import TransactionService.World.RedirectUrl
import TransactionService.Routes.ServiceCalls
import TransactionService.World.SigningCustody
import TransactionService.World.Enqueues
import TransactionService.World.WorkBound
import TransactionService.World.Pipeline
import TransactionService.World.PipelineDrain
import TransactionService.World.Gateway
import TransactionService.World.HonestWallet
import TransactionService.Http.Router
import TransactionService.Http.Discovery
import TransactionService.VerifyTask.MergePolicies
import TransactionService.VerifyTask.RepeatedRuns
import TransactionService.VerifyTask.SweepProgress
import TransactionService.VerifyTask.Queue
import TransactionService.Http.CachedGet
