import HLiquity.AdjustmentEncoding
import HLiquity.ApprovedAllowance
import HLiquity.BatchIsolation
import HLiquity.BlockSubscription
import HLiquity.CacheProvenance
import HLiquity.CanonicalText
import HLiquity.ClientAgreement
import HLiquity.Configuration
import HLiquity.DecimalRounding
import HLiquity.DecimalValue
import HLiquity.DepositChange
import HLiquity.FeeRates
import HLiquity.FrontendSession
import HLiquity.HintTrials
import HLiquity.IterationCounts
import HLiquity.LatestUpdate
import HLiquity.Library.CursorPages
import HLiquity.LiquitySelector
import HLiquity.ListenerIndependence
import HLiquity.MaximumRates
import HLiquity.OnceReceipts
import HLiquity.PowerAccuracy
import HLiquity.Prettify
import HLiquity.RedemptionDetails
import HLiquity.RedemptionDisplay
import HLiquity.RedemptionLogs
import HLiquity.RedemptionPages
import HLiquity.Redistribution
import HLiquity.RiskyTroves
import HLiquity.Shorten
import HLiquity.StateChange
import HLiquity.StoreListeners
import HLiquity.StoreLoad
import HLiquity.StoreOrder
import HLiquity.StoreProvider
import HLiquity.StoreRun
import HLiquity.StoreSnapshot
import HLiquity.TokenState
import HLiquity.TransactionDetails
import HLiquity.TransactionLifecycle
import HLiquity.TransactionWait
import HLiquity.TroveHooks
import HLiquity.TroveManagerRenders
import HLiquity.TroveSubmission
import HLiquity.TroveTransfer
import HLiquity.TroveValidationSound
import HLiquity.Undercollateralization
import HLiquity.UnsavedEdits
import HLiquity.ViewProviders
import HLiquity.Watchers
import HLiquity.DappConnector
