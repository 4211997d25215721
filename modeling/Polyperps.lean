import Polyperps.Proofs.HaltSurvives
import Polyperps.Proofs.PaperAccount
import Polyperps.Proofs.Restore
import Polyperps.Proofs.LiveLocks
import Polyperps.Proofs.LiveHistory
import Polyperps.Proofs.BlindChoice
import Polyperps.Proofs.PruneInvisible
import Polyperps.Proofs.OrderIds
import Polyperps.Proofs.RecoveryTruth
import Polyperps.Proofs.Retries
import Polyperps.Proofs.LiveHours
import Polyperps.Proofs.RecoveredOrders
import Polyperps.Proofs.Reconciles
import Polyperps.Proofs.Coherent
import Polyperps.Proofs.InStep
import Polyperps.Proofs.FlatShutdown
import Polyperps.Proofs.AnyOrder
import Polyperps.Proofs.TwoAdoptions
import Polyperps.Proofs.Sizing
import Polyperps.Proofs.ForeignOrders
import Polyperps.Proofs.WarmUp
import Polyperps.Proofs.LiquidationTick
import Polyperps.Proofs.OrderLedger
import Polyperps.Proofs.PendingTimer
import Polyperps.Proofs.PendingTick
import Polyperps.Proofs.FundingDrift
import Polyperps.Proofs.TradeEquity
import Polyperps.Proofs.HeldBars
import Polyperps.Proofs.HeldSince
import Polyperps.Proofs.StopOrder
import Polyperps.Proofs.TokenBucketRate
import Polyperps.Proofs.FeedOrder
import Polyperps.Proofs.TextOrder
import Polyperps.Proofs.BarWindows
import Polyperps.Proofs.GapCounts
import Polyperps.Proofs.GapReport
import Polyperps.Proofs.BackfillHistory
import Polyperps.Proofs.Statistics
import Polyperps.Proofs.LogGate
import Polyperps.Proofs.HealthAlerts
import Polyperps.Dashboard.Clean
import Polyperps.Proofs.Announced
import Polyperps.Proofs.CleanRuns
