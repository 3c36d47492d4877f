import Caixinha.Effects.ContributionBooks

/-! The projections of a contribution (paid amount, settlements, ledger and patrimonial credit)
stay in step through every sequence of operations. -/
namespace Caixinha.Properties.ContributionProjections

open Caixinha.Library.Table Caixinha.Model Caixinha.Effects

variable {env : Env} {db : Db} {c : Contribution}

/-- The administrator's reversal of one ledger row, which no payment operation uses. -/
def isLedgerReverse : Operation → Bool
  | .ledgerReverse _ _ => true
  | _ => false

/-- The books of a contribution balance: they are in step and the ledger shows what is paid. -/
def Balanced (c : Contribution) (db : Db) : Prop :=
  ∃ x paid, Books c db x paid ∧ netPosted db c = paid

theorem balanced_step {acted : Payment → Prop} {about : Nat → Prop} {direct : Prop} {y z : Db}
    (hs : Sound y) (hb : Balanced c y) (hdirect : ¬ direct) (h : Step acted direct about y z) :
    Balanced c z := by
  obtain ⟨x, paid, hbooks, hnet⟩ := hb
  obtain ⟨x', paid', hbooks', hnet'⟩ := hbooks.step hs h
  refine ⟨x', paid', hbooks', ?_⟩
  rw [hnet' hdirect, hnet]
  ring

theorem balanced_run (hs : Sound db) (hfresh : Fresh c db) (ops : List (Int × Operation))
    (hops : ∀ op ∈ ops, isLedgerReverse op.2 = false) :
    Sound (run env db ops) ∧ Balanced c (run env db ops) := by
  refine run_keeps ops ?_ hs ⟨c, 0, hfresh.books, hfresh.netPosted⟩
  intro x _ _ op hop y z hy hb hstep
  have hdirect : ¬ directly x op.2 := by
    have hnot := hops op hop
    intro hyes
    cases hkind : op.2 with
    | ledgerReverse => rw [hkind] at hnot; cases hnot
    | _ => rw [hkind] at hyes; exact hyes
  exact balanced_step hy hb hdirect hstep

/-- After any settlements, reversals, cancellations and other payment operations, a contribution
created unpaid has been paid between nothing and its amount; that is the principal of its
settlements that stand and the net of what was posted for its payments, its patrimonial credit is
its amount when it is fully paid and nothing otherwise, and no payment was settled or reversed
twice. -/
theorem projections_stay_in_step (hs : Sound db) (hfresh : Fresh c db) (ops : List (Int × Operation))
    (hops : ∀ op ∈ ops, isLedgerReverse op.2 = false) :
    ∃ x paid, (run env db ops).contribution? c.id = some x ∧ x.amount = c.amount ∧
      x.paidAmount = some paid ∧ 0 ≤ paid ∧ paid ≤ c.amount ∧
      paid = settledPrincipal (run env db ops) c.id ∧
      paid = netPosted (run env db ops) c ∧
      patrimonialCredit (run env db ops) c.id = (if paid = c.amount then c.amount else 0) ∧
      (∀ account,
        (run env db ops).accounts.find? (fun a => a.memberId = c.memberId) = some account →
        activeContributionCredit (run env db ops) account.id c.id =
          if paid = c.amount then c.amount else 0) ∧
      ((run env db ops).settlements.map PaymentSettlement.paymentId).Nodup ∧
      ((run env db ops).reversals.map PaymentReversal.paymentId).Nodup ∧
      ((run env db ops).reversals.map PaymentReversal.settlementId).Nodup := by
  have hrun : Sound (run env db ops) ∧ Balanced c (run env db ops) := balanced_run hs hfresh ops hops
  obtain ⟨hsound, x, paid, hbooks, hnet⟩ := hrun
  refine ⟨x, paid, hbooks.row, hbooks.amount, hbooks.paidAmount, hbooks.nonneg, hbooks.within,
    hbooks.settled.symm, hnet.symm, hbooks.credit, ?_, hsound.settledOnce, hsound.reversedOnce,
    hsound.reversedSettlementOnce⟩
  intro account haccount
  rw [hbooks.credit_on (List.prefix_refl _) haccount, hbooks.credit]

private def sampleContribution : Contribution where
  id := 1
  memberId := 1
  competence := 20000
  amount := 10000
  status := .PENDING
  paymentId := none
  dueDate := some 20000
  paidAmount := some 0
  paidAt := none
  cancelledAt := none
  cancellationReason := none

private def samplePayment : Payment where
  id := 1
  provider := "mercado_pago"
  providerOrderId := none
  providerPaymentId := none
  amount := 10000
  status := "approved"
  externalReference := none
  pixTxid := none
  endToEndId := none
  providerStatusDetail := none
  confirmedAt := none
  expiresAt := none
  amountReceived := none
  ledgerPostedAt := none
  reference := some (.contribution 1)
  attemptStatus := none
  calculatedForDate := none
  financialSnapshotJson := none
  snapshotHash := none
  reconciliationStatus := none

private def sampleDb : Db where
  users := [{ id := 7, isActive := true, isAdmin := true, isMaster := true }]
  members := [{ id := 1 }]
  contributions := [sampleContribution]
  payments := [samplePayment]

private def sampleEnv : Env where
  sha256 := fun text => text
  lateChargeEffectiveDate := none

/-- The payment is settled, reversed and told about again. -/
private def sampleOperations : List (Int × Operation) :=
  [(0, .settle 1 { source := "webhook" }), (5, .reverse 1 7 "wrong payer" none),
    (6, .evidence 1 "refunded" none)]

theorem sample_projections_stay_in_step :
    ∃ x paid, (run sampleEnv sampleDb sampleOperations).contribution? 1 = some x ∧
      x.paidAmount = some paid ∧
      paid = settledPrincipal (run sampleEnv sampleDb sampleOperations) 1 ∧
      paid = netPosted (run sampleEnv sampleDb sampleOperations) sampleContribution := by
  have hsound : Sound sampleDb := by
    constructor <;> first | decide | (constructor <;> decide)
  have hfresh : Fresh sampleContribution sampleDb := by
    constructor <;> decide
  obtain ⟨x, paid, hrow, -, hpaid, -, -, hsettled, hnet, -⟩ :=
    @projections_stay_in_step sampleEnv _ _ hsound hfresh sampleOperations (by decide)
  exact ⟨x, paid, hrow, hpaid, hsettled, hnet⟩

end Caixinha.Properties.ContributionProjections
