import NewApi.Billing.KeyRotation
import NewApi.Billing.DurableBelief
import NewApi.Billing.LogDelivery
import NewApi.Billing.TextAccounting
import NewApi.Billing.PricingFreeze
import NewApi.Billing.ServingCharge
import NewApi.Task.Refund
import NewApi.Task.Finality
import NewApi.ContextConsensus.Fencing
import NewApi.ProviderFile.UploadRun
import NewApi.Relay.GroupRetry
import NewApi.Quota.Overdraft
import NewApi.Quota.UsageReset
import NewApi.SystemTask.OneRunner
import NewApi.Channels.Chances
import NewApi.Channels.WritesKept
import NewApi.Auth.TwoFARun
import NewApi.Auth.AuthFlowRun
import NewApi.Auth.UserCacheRun
import NewApi.Auth.RevocationRun
import NewApi.Auth.RefreshRun
import NewApi.Settings.Rejection
import NewApi.Fetch.Permitted
import NewApi.Billing.ReportStyle
import NewApi.SmartRouting.Ranking
import NewApi.SmartRouting.LateResults
import NewApi.ContextConsensus.ChildMoney
import NewApi.ProviderFile.DeletionQueue
import NewApi.ProviderFile.OutboxPairing
import NewApi.ContextConsensus.ToolGraphAccounts
import NewApi.Billing.TieredTokens
import NewApi.Billing.ModelRouting
import NewApi.Billing.ToolSurcharge
import NewApi.Task.Recalculation
import NewApi.Billing.TieredRoutes
import NewApi.Billing.RequestRules
import NewApi.Middleware.FixedWindow
import NewApi.Settings.ToolPrices
import NewApi.Settings.StatusCodes
import NewApi.Fetch.HeifBoxes
import NewApi.Fetch.FileCache
import NewApi.Relay.LegacyOverride
import NewApi.Model.Redemption
