import Caixinha.Library.SaturatingBalance
import Caixinha.Library.Fallible
import Caixinha.Library.Table
import Caixinha.Library.Json
import Caixinha.Library.JsonParser
import Caixinha.Library.Calendar
import Caixinha.Library.Decimal
import Caixinha.Library.Keyed
import Caixinha.Library.LargestRemainder
import Caixinha.Library.DecimalOrder
import Caixinha.Library.Quotients
import Caixinha.Library.Sorting
import Caixinha.Library.HashChain
import Caixinha.Library.DatedSum
import Caixinha.Library.Runs
import Caixinha.Library.RelatedRows
import Caixinha.Library.HalfOpen
import Caixinha.Library.Outcomes
import Caixinha.Library.BinarySearch
import Caixinha.Library.DecimalLattice
import Caixinha.Library.DecimalShares
import Caixinha.Library.DailySum
import Caixinha.Library.PositiveParts
import Caixinha.Library.ConsecutiveRuns
import Caixinha.Library.PosixPaths
import Caixinha.Model.Values
import Caixinha.Model.Records
import Caixinha.Model.Ledger
import Caixinha.Model.MemberFinancial
import Caixinha.Model.Receipts
import Caixinha.Model.CycleClosing
import Caixinha.Model.LateCharge
import Caixinha.Model.LoanObligation
import Caixinha.Model.Settlement
import Caixinha.Model.Reversal
import Caixinha.Model.OwnBalance
import Caixinha.Model.PixAttempts
import Caixinha.Model.Operations
import Caixinha.Model.LedgerChain
import Caixinha.Model.ClosingWorkflow
import Caixinha.Model.LateHistory
import Caixinha.Model.ReversalEvidence
import Caixinha.Model.PaymentEvents
import Caixinha.Model.ClosingEvidence
import Caixinha.Model.DailyPenalty
import Caixinha.Model.CollectionAgreements
import Caixinha.Model.Webhook
import Caixinha.Model.PixCharges
import Caixinha.Model.SchedulerRuns
import Caixinha.Model.TemporalReceipts
import Caixinha.Model.EventPeriods
import Caixinha.Model.LedgerPeriods
import Caixinha.Model.CycleParticipation
import Caixinha.Model.CycleFoundation
import Caixinha.Model.CashCutoff
import Caixinha.Model.PayoutDestinations
import Caixinha.Model.PayoutVerification
import Caixinha.Model.PenaltyRegimes
import Caixinha.Model.BackupRetention
import Caixinha.Model.BackupUpload
import Caixinha.Model.BackupEnvelope
import Caixinha.Model.CapacityOptimizer
import Caixinha.Model.ResourceAllocation
import Caixinha.Model.SecureRelease
import Caixinha.Model.Workflow
import Caixinha.Model.WorkflowExecution
import Caixinha.Model.WorkflowStorage
import Caixinha.Effects.Posting
import Caixinha.Effects.NetLedger
import Caixinha.Effects.Charges
import Caixinha.Effects.Settlement
import Caixinha.Effects.Reversal
import Caixinha.Effects.Contributions
import Caixinha.Effects.Agreements
import Caixinha.Effects.Loans
import Caixinha.Effects.Allocation
import Caixinha.Effects.Frame
import Caixinha.Effects.Unreversed
import Caixinha.Effects.Attempts
import Caixinha.Effects.Settled
import Caixinha.Effects.Reversed
import Caixinha.Effects.Operations
import Caixinha.Effects.ContributionBooks
import Caixinha.Effects.ClosingCalls
import Caixinha.Effects.Standing
import Caixinha.Effects.SettlementReceipt
import Caixinha.Effects.LateLedger
import Caixinha.Effects.LateInterest
import Caixinha.Effects.LatePrincipal
import Caixinha.Effects.LateBooks
import Caixinha.Effects.LateSteps
import Caixinha.Effects.ClosingGaps
import Caixinha.Effects.Restructuring
import Caixinha.Effects.Approval
import Caixinha.Effects.AgreementSteps
import Caixinha.Effects.LedgerRows
import Caixinha.Effects.Webhook
import Caixinha.Effects.Confirmations
import Caixinha.Effects.Deliveries
import Caixinha.Effects.PixCharges
import Caixinha.Effects.SchedulerRuns
import Caixinha.Effects.EventPeriods
import Caixinha.Effects.Participation
import Caixinha.Effects.CycleFrame
import Caixinha.Effects.CycleSteps
import Caixinha.Effects.CycleClosure
import Caixinha.Effects.CycleContributions
import Caixinha.Effects.CycleTerms
import Caixinha.Effects.PayoutDestinations
import Caixinha.Effects.PayoutDeliveries
import Caixinha.Effects.PayoutBooks
import Caixinha.Effects.PayoutCalls
import Caixinha.Effects.InstallmentSteps
import Caixinha.Effects.PenaltyBooks
import Caixinha.Effects.PenaltySteps
import Caixinha.Effects.BackupUpload
import Caixinha.Effects.BackupEnvelope
import Caixinha.Effects.EnvelopeMembers
import Caixinha.Effects.EnvelopeWriting
import Caixinha.Effects.CapacityOptimizer
import Caixinha.Effects.ResourceAllocation
import Caixinha.Effects.ContributionInterest
import Caixinha.Effects.AccrualRuns
import Caixinha.Effects.LoanDebts
import Caixinha.Effects.LoanSteps
import Caixinha.Effects.MemberMoney
import Caixinha.Effects.MoneySteps
import Caixinha.Effects.AttemptSteps
import Caixinha.Effects.SecureRelease
import Caixinha.Effects.WorkflowChanges
import Caixinha.Effects.WorkflowRequests
import Caixinha.Effects.LoanBooks
import Caixinha.Properties.ReversedCredits
import Caixinha.Properties.ClosingConservation
import Caixinha.Properties.ContributionProjections
import Caixinha.Properties.LedgerCommitment
import Caixinha.Properties.ClosingProcess
import Caixinha.Properties.SettlementConservation
import Caixinha.Properties.ContributionUndo
import Caixinha.Properties.AgreementUndo
import Caixinha.Properties.LatePrefixes
import Caixinha.Properties.LateRefinement
import Caixinha.Properties.AgreementProvability
import Caixinha.Properties.LedgerReversals
import Caixinha.Properties.WebhookConfirmations
import Caixinha.Properties.WebhookRedelivery
import Caixinha.Properties.PixRecharge
import Caixinha.Properties.SchedulerLeases
import Caixinha.Properties.EventPartition
import Caixinha.Properties.ClosingOrder
import Caixinha.Properties.ClosingTies
import Caixinha.Properties.ParticipationClosure
import Caixinha.Properties.DailyUnits
import Caixinha.Properties.CashCutoff
import Caixinha.Properties.PayoutVerification
import Caixinha.Properties.AgreementInstallments
import Caixinha.Properties.PenaltyRegimes
import Caixinha.Properties.BackupRetention
import Caixinha.Properties.BackupUpload
import Caixinha.Properties.BackupEnvelope
import Caixinha.Properties.CapacityOptimizer
import Caixinha.Properties.ResourceAllocation
import Caixinha.Properties.ContributionCharges
import Caixinha.Properties.AccrualSnapshots
import Caixinha.Properties.LoanPayoffQuotes
import Caixinha.Properties.DelinquencyStreaks
import Caixinha.Properties.PendingAttempts
import Caixinha.Properties.CoveredBalances
import Caixinha.Properties.LoanReleases
import Caixinha.Properties.SecureReleases
import Caixinha.Properties.WorkflowHistory
import Caixinha.Properties.WorkflowExecution
import Caixinha.Properties.WorkflowEvidence
import Caixinha.Properties.WorkflowEscalation
import Caixinha.Properties.WorkflowReach
import Caixinha.Properties.WorkflowIntegrity
import Caixinha.Properties.Retries
