import BreezLiquid.Lib.Pool
import BreezLiquid.Recover.Monotone
import BreezLiquid.Recover.Batch
import BreezLiquid.Recover.RefundDecision
import BreezLiquid.Recover.LockedFunds
import BreezLiquid.Recover.ReceiveClaim
import BreezLiquid.Recover.Coherence
import BreezLiquid.Recover.LatestRefund
import BreezLiquid.Send.RefundRecord
import BreezLiquid.Receive.CheckedLockup
import BreezLiquid.Receive.LockupAmount
import BreezLiquid.Receive.ClaimOnce
import BreezLiquid.Pay.LockupOnce
import BreezLiquid.Chain.ClaimSafety
import BreezLiquid.Chain.ZeroAmount
import BreezLiquid.Chain.LockupOnce
import BreezLiquid.Chain.Unrecoverable
import BreezLiquid.Chain.HistoryOrder
import BreezLiquid.Receive.ConfirmedLockup
import BreezLiquid.Pay.StrandedLockup
import BreezLiquid.Pay.ApprovedLockup
import BreezLiquid.Persist.Optimistic
import BreezLiquid.Persist.ListPayments
import BreezLiquid.Persist.WalletTxs
import BreezLiquid.Sync.RoundTrip
import BreezLiquid.Sync.Requeue
import BreezLiquid.Sync.KeptFields
import BreezLiquid.Swapper.StatusStream
import BreezLiquid.Nwc.Authorisation
import BreezLiquid.Nwc.Expiry
import BreezLiquid.Nwc.PayInvoice
import BreezLiquid.Plugin.Storage
import BreezLiquid.Utxo.Liquid
import BreezLiquid.Utxo.Refundables
import BreezLiquid.Wallet.AddressReuse
import BreezLiquid.Wallet.Info
import BreezLiquid.Wallet.SyncPayments
import BreezLiquid.Chain.MonitoredRefunds
import BreezLiquid.Sync.SentChanges
import BreezLiquid.Sync.Origin
import BreezLiquid.Payjoin.Balanced
import BreezLiquid.Pay.PrepareOnchain
import BreezLiquid.Chain.FeeAcceptance
import BreezLiquid.Persist.Terms
import BreezLiquid.Blocks.Delivery
import BreezLiquid.Blocks.SyncContext
import BreezLiquid.Blocks.FirstSync
import BreezLiquid.Wallet.Cache
import BreezLiquid.SideSwap.Responses
import BreezLiquid.SideSwap.Payment
import BreezLiquid.Sync.Agreement
import BreezLiquid.Sync.FailedRecovery
import BreezLiquid.Receive.Unbound
