import Nullsink.Client.PayHistory
import Nullsink.Client.PayScreen
import Nullsink.Client.PayTraffic
import Nullsink.Ledger.Client
import Nullsink.Ledger.ColumnContract
import Nullsink.Ledger.ColumnRefinement
import Nullsink.Ledger.Columns
import Nullsink.Ledger.Exchange
import Nullsink.Ledger.HoldAmount
import Nullsink.Ledger.HoldHistory
import Nullsink.Ledger.Server
import Nullsink.Ledger.Store
import Nullsink.Ledger.StoreHistory
import Nullsink.Ledger.StoreInvariant
import Nullsink.Ledger.StoreTransitions
import Nullsink.Ledger.Wire
import Nullsink.Lib.Arithmetic
import Nullsink.Lib.Coercion
import Nullsink.Lib.ExactArithmetic
import Nullsink.Lib.Fields
import Nullsink.Lib.FirstMatch
import Nullsink.Lib.Interleaving
import Nullsink.Lib.Json
import Nullsink.Lib.Latch
import Nullsink.Lib.Lines
import Nullsink.Lib.Log
import Nullsink.Lib.Number
import Nullsink.Lib.PosixPath
import Nullsink.Lib.Redact
import Nullsink.Lib.RoundingOrder
import Nullsink.Lib.Runtime
import Nullsink.Lib.Separator
import Nullsink.Lib.SqlNumber
import Nullsink.Lib.Table
import Nullsink.Lib.Transition
import Nullsink.Lib.Windows
import Nullsink.Lib.Worklist
import Nullsink.Lib.XorHash
import Nullsink.Metering.ExactlyOnce
import Nullsink.Metering.Fencing
import Nullsink.Metering.Network
import Nullsink.Metering.NetworkInvariant
import Nullsink.Metering.Refusal
import Nullsink.Payments.Accounting
import Nullsink.Payments.Backup
import Nullsink.Payments.Buy
import Nullsink.Payments.CreditOnce
import Nullsink.Payments.CreditWire
import Nullsink.Payments.Crossing
import Nullsink.Payments.Delivery
import Nullsink.Payments.Margin
import Nullsink.Payments.OpenOrderCap
import Nullsink.Payments.OrderHistory
import Nullsink.Payments.OrderStatus
import Nullsink.Payments.Orders
import Nullsink.Payments.Outbox
import Nullsink.Payments.OutboxHead
import Nullsink.Payments.Poll
import Nullsink.Payments.Poller
import Nullsink.Payments.PollerJournal
import Nullsink.Payments.PollerMoves
import Nullsink.Payments.PollerRefinement
import Nullsink.Payments.Rails
import Nullsink.Payments.Rate
import Nullsink.Payments.RateFetcher
import Nullsink.Payments.ReapSafety
import Nullsink.Payments.Settle
import Nullsink.Payments.SettleOrder
import Nullsink.Payments.StatusHistory
import Nullsink.Pricing.PriceSync
import Nullsink.Pricing.ServedModels
import Nullsink.Pricing.SyncExactness
import Nullsink.Proxy.Buffered
import Nullsink.Proxy.BufferedPricing
import Nullsink.Proxy.Charge
import Nullsink.Proxy.ContentBlind
import Nullsink.Proxy.CostLaws
import Nullsink.Proxy.EventText
import Nullsink.Proxy.ExactCost
import Nullsink.Proxy.Forwarding
import Nullsink.Proxy.Handler
import Nullsink.Proxy.Hold
import Nullsink.Proxy.HoldSoundness
import Nullsink.Proxy.HoldWire
import Nullsink.Proxy.LedgerCalls
import Nullsink.Proxy.MeteringAgreement
import Nullsink.Proxy.Metrics
import Nullsink.Proxy.ModelMatching
import Nullsink.Proxy.Pricing
import Nullsink.Proxy.Providers
import Nullsink.Proxy.Reconciliation
import Nullsink.Proxy.ScannerFeed
import Nullsink.Proxy.ScannerLaws
import Nullsink.Proxy.Shutdown
import Nullsink.Proxy.StreamInvariant
import Nullsink.Proxy.StreamOutcome
import Nullsink.Proxy.StreamPolicy
import Nullsink.Proxy.StreamReading
import Nullsink.Proxy.StreamSettlement
import Nullsink.Proxy.Usage
import Nullsink.Service.Books
import Nullsink.Service.Composition
import Nullsink.Service.MetricsJournal
import Nullsink.Service.MetricsTotals
import Nullsink.Service.ProxyMoves
import Nullsink.Service.ProxyProcess
import Nullsink.Service.Requests
import Nullsink.Shared.RateLimit
import Nullsink.Shared.TokenFormat
import Nullsink.TrustDomains.Imports
import Nullsink.TrustDomains.ModuleGraph
import Nullsink.TrustDomains.Policy
import Nullsink.TrustDomains.Separation
