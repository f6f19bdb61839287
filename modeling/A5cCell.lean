import A5cCell.Lib.Str
import A5cCell.Lib.Dict
import A5cCell.Lib.Value
import A5cCell.Lib.Runs
import A5cCell.Lib.LuaNumber
import A5cCell.Lib.CounterStore
import A5cCell.DataAccess.Models
import A5cCell.DataAccess.Capability
import A5cCell.Gateway.RequestAdapter
import A5cCell.Gateway.RequestTools
import A5cCell.Gateway.RequestPipeline
import A5cCell.Gateway.ToolAuthorisation
import A5cCell.Gateway.InjectedHeaders
import A5cCell.Gateway.ResponseTools
import A5cCell.Gateway.Idempotency
import A5cCell.Bridge.TpmLimiter
import A5cCell.Bridge.TpmLimit
import A5cCell.Bridge.CounterExpiry
import A5cCell.Authoriser.Sigv4
import A5cCell.Bridge.Invocation
import A5cCell.Bridge.TokenAccounting
import A5cCell.Lib.Prog
import A5cCell.Lib.Table
import A5cCell.DataAccess.Client
import A5cCell.DataAccess.Isolation
import A5cCell.DataAccess.Agent
import A5cCell.DataAccess.Store
import A5cCell.TenantApi.Effects
import A5cCell.TenantApi.Requests
import A5cCell.TenantApi.Records
import A5cCell.TenantApi.InviteConditions
import A5cCell.TenantApi.Invites
import A5cCell.TenantApi.AuditExports
import A5cCell.TenantApi.Webhooks
import A5cCell.TenantApi.OpsControl
import A5cCell.TenantApi.AgentRegistry
import A5cCell.TenantApi.Lifecycle
import A5cCell.TenantApi.Handler
import A5cCell.TenantApi.Scope
import A5cCell.TenantApi.Noninterference
import A5cCell.Bridge.AuditedOnce
import A5cCell.Bridge.OnePreamble
import A5cCell.Bridge.StreamedEvents
import A5cCell.Bridge.Bootstrap
import A5cCell.Bridge.Agreement
import A5cCell.Bridge.RoundTrip
import A5cCell.TenantApi.ReleaseRuns
import A5cCell.TenantApi.Creation
import A5cCell.TenantApi.ReleaseEvents
import A5cCell.Billing.Windows
import A5cCell.Billing.MonthlyTotals
import A5cCell.TenantApi.ExportWindow
import A5cCell.Authoriser.AdminGate
import A5cCell.Bridge.LastKnownGood
import A5cCell.Authoriser.JustifiedContext
import A5cCell.Bridge.LatestVersion
import A5cCell.Bridge.Resp
import A5cCell.Bridge.RespCodec
import A5cCell.Bridge.RuntimeBindings
import A5cCell.DataAccess.Listing
import A5cCell.Lib.Base64
import A5cCell.Lib.JsonText
import A5cCell.TenantApi.Listings
import A5cCell.TenantApi.TokenListing
import A5cCell.TenantProvisioner.Completion
import A5cCell.WebhookDelivery.Attempts
import A5cCell.WebhookDelivery.RetryChain
import A5cCell.Lib.TextDecoder
import A5cCell.Spa.Sse
import A5cCell.Spa.SseRoundTrip
import A5cCell.Lib.Except
import A5cCell.Bridge.CounterKeys
import A5cCell.Bridge.ExecutionRole
import A5cCell.TenantApi.LambdaRollback
import A5cCell.Bff.TokenRefresh
import A5cCell.Spa.Requests
import A5cCell.DataAccess.ScopedS3
import A5cCell.TenantApi.S3Isolation
import A5cCell.Scripts.Layers
import A5cCell.Scripts.RegistrationAgrees
import A5cCell.IssueTool.Handoff
import A5cCell.IssueTool.Queue
import A5cCell.Spa.JobPolling
import A5cCell.Spa.WatchedJob
import A5cCell.Spa.AgUiSession
import A5cCell.Spa.Reconnects
import A5cCell.TenantProvisioner.Announcements
