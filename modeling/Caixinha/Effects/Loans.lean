import Caixinha.Effects.Reversal

/-! What settling and reversing a payment of a loan installment writes. -/
namespace Caixinha.Effects

open Caixinha.Library Caixinha.Library.Table Fallible Caixinha.Model

variable {env : Env} {db db' locked : Db} {clock effectiveAt received reversedAt : Int}
  {payment : Payment} {account : MemberFinancialAccount} {loan : Loan} {inst : LoanInstallment}
  {app : Application}

/-- The ledger row of a component: one for a positive amount, unless it was there. -/
inductive ComponentRows (entries : List LedgerEntry) (payment : Payment)
    (type : LedgerReferenceType) (amount : Int) : List LedgerEntry → Prop where
  | nothing (h : amount ≤ 0) : ComponentRows entries payment type amount []
  | present (h : 0 < amount)
    (has : ∃ e ∈ entries, e.referenceType = type ∧ e.referenceId = toString payment.id) :
    ComponentRows entries payment type amount []
  | posted {e} (h : 0 < amount) (posting : Posting entries e) (row : PaymentRow payment e)
    (type_eq : e.referenceType = type) (amount_eq : e.amount.val = amount) :
    ComponentRows entries payment type amount [e]

section Rows
variable {entries rows : List LedgerEntry} {type : LedgerReferenceType} {amount : Int}

theorem ComponentRows.postings (h : ComponentRows entries payment type amount rows) :
    Postings entries rows := by
  cases h with
  | nothing => exact .nil _
  | present => exact .nil _
  | posted _ hp => exact hp.single

theorem ComponentRows.forall (h : ComponentRows entries payment type amount rows) :
    ∀ e ∈ rows, PaymentRow payment e ∧ e.referenceType = type := by
  cases h with
  | nothing => simp
  | present => simp
  | posted _ _ hrow ht => simpa using ⟨hrow, ht⟩

theorem componentRows_postPositive
    (h : postPositive env db clock (paymentCredit payment type amount) = .ok db') :
    ∃ rows, db' = { db with ledgerEntries := db.ledgerEntries ++ rows } ∧
      ComponentRows db.ledgerEntries payment type amount rows := by
  rcases postPositive_spec h with ⟨hle, rfl⟩ | ⟨e, rfl, hp, hrow, ht, hm, hpos⟩
  · exact ⟨[], by simp, .nothing hle⟩
  · exact ⟨[e], rfl, .posted hpos hp hrow ht hm⟩

theorem componentRows_postOnce (h : whenPositive amount db
      (postOnce env db clock (paymentCredit payment type amount)) = .ok db') :
    ∃ rows, db' = { db with ledgerEntries := db.ledgerEntries ++ rows } ∧
      ComponentRows db.ledgerEntries payment type amount rows := by
  unfold whenPositive at h
  split at h
  · rename_i hpos
    rcases postOnce_spec h with ⟨hhas, rfl⟩ | ⟨e, rfl, hp, hrow, ht, hm, -⟩
    · refine ⟨[], by simp, .present hpos ?_⟩
      simpa [ledgerHas] using hhas
    · exact ⟨[e], rfl, .posted hpos hp hrow ht hm⟩
  · rename_i hle
    rw [Except.ok.injEq] at h
    exact ⟨[], by simp [← h], .nothing (not_lt.mp hle)⟩

/-- The member entry of the principal: one for a positive amount. -/
inductive PrincipalEntries (account : MemberFinancialAccount) (payment : Payment) (amount : Int) :
    List MemberFinancialEntry → Prop where
  | nothing (h : amount ≤ 0) : PrincipalEntries account payment amount []
  | credited {e} (h : 0 < amount) (entry : EntryOf account (principalCredit payment amount) e) :
    PrincipalEntries account payment amount [e]

theorem principalEntries_credit
    (h : creditPrincipal db clock account payment amount = .ok db') :
    ∃ entries, db' = { db with memberEntries := db.memberEntries ++ entries } ∧
      PrincipalEntries account payment amount entries := by
  rcases creditPrincipal_spec h with ⟨hle, rfl⟩ | ⟨e, rfl, he, hpos⟩
  · exact ⟨[], by simp, .nothing hle⟩
  · exact ⟨[e], rfl, .credited hpos he⟩

end Rows

section Versioned

/-- The debt a versioned installment pays: the charges of its day, and the obligation they make. -/
structure ChargedFor (env : Env) (db : Db) (id : Nat) (day : Int) (charged : Db)
    (inst : LoanInstallment) (obligation : LoanInstallmentObligation) : Prop where
  charges : ∃ penalized event created,
    materializeFixedPenalty db id day env.lateChargeEffectiveDate = .ok (penalized, event) ∧
    materializeDailyLateInterest penalized id day env.lateChargeEffectiveDate = .ok (charged, created)
  row : charged.installment? id = some inst
  obligation : loanInstallmentObligation charged inst day = .ok obligation

theorem ChargedFor.charged {id : Nat} {day : Int} {charged : Db}
    {obligation : LoanInstallmentObligation} (h : ChargedFor env db id day charged inst obligation)
    (hkeyed : Keyed LoanInstallment.id db.loanInstallments) : Charged id db charged := by
  obtain ⟨penalized, event, created, hpenalty, hdaily⟩ := h.charges
  have hfirst := charged_materializeFixedPenalty hkeyed hpenalty
  exact hfirst.trans (charged_materializeDailyLateInterest (hfirst.keyed hkeyed) hdaily)

/-- The loan after a payment of one of its installments. -/
def loanAfterVersioned (db : Db) (clock effectiveAt : Int) (loan : Loan) : Loan :=
  touchLoan (if (ensureLoanCompletion db clock loan).status = .PAID then
    { ensureLoanCompletion db clock loan with paidAt := some effectiveAt }
    else ensureLoanCompletion db clock loan)

/-- Everything settling a versioned installment does before its evidence is recorded. -/
theorem applyToVersionedInstallment_spec {confirmedAt : Option Timestamp}
    (h : applyToVersionedInstallment env db clock received confirmedAt payment account loan inst =
      .ok app) :
    ∃ (at_ : Timestamp) (charged : Db) (x : LoanInstallment) (due : LoanInstallmentObligation)
      (a : Allocation) (after : LoanInstallment) (interestRows penaltyRows : List LedgerEntry)
      (entries : List MemberFinancialEntry) (loanAfter : Loan) (evidence : LoanEvidence),
      confirmedAt = some at_ ∧ at_.aware ∧
      ChargedFor env db inst.id (financialCivilDate at_.instant) charged x due ∧
      0 < min received due.totalDue ∧ a = allocate due (min received due.totalDue) ∧
      min received due.totalDue = a.base + a.penalty ∧
      after = allocateTo x a at_.instant (financialCivilDate at_.instant)
        (due.totalDue - min received due.totalDue) ∧
      (∀ p, after.lateCharge = some p → checkProjection p = .ok ()) ∧
      ComponentRows charged.ledgerEntries payment .LOAN_INTEREST_PAYMENT a.normalInterest interestRows ∧
      ComponentRows (charged.ledgerEntries ++ interestRows) payment .LOAN_PENALTY_PAYMENT a.penalty
        penaltyRows ∧
      PrincipalEntries account payment a.principal entries ∧
      loanAfter = loanAfterVersioned (charged.putInstallment after) clock at_.instant loan ∧
      loanEvidenceOf loan loanAfter inst after = .ok evidence ∧
      app = { db := { charged with
                loanInstallments := replace LoanInstallment.id charged.loanInstallments after
                ledgerEntries := charged.ledgerEntries ++ interestRows ++ penaltyRows
                memberEntries := charged.memberEntries ++ entries
                loans := replace Loan.id charged.loans loanAfter }
              memberId := loan.memberId
              obligation := .loanInstallment inst.id
              receiptVersion := .v4
              principalApplied := a.principal, interestApplied := a.normalInterest
              penaltyApplied := a.penalty
              components := some { normalInterestApplied := a.normalInterest
                                   lateInterestApplied := a.lateInterest
                                   fixedPenaltyApplied := a.fixedPenalty }
              statusBefore := installmentFinancialStatus inst at_.instant
              statusAfter := after.status
              loanEvidence := some evidence } := by
  unfold applyToVersionedInstallment at h
  simp only [bind_eq_ok, pure_eq_ok, refuseIf_eq_ok, orRefuse_eq_ok, lockInstallment, Prod.exists,
    exists_and_left, exists_const] at h
  obtain ⟨at_, hat, haware, penalized, event, hpenalty, charged, created, hdaily, x, hx, due, hdue,
    hpos, hclose, flushed, hflush, interested, hinterest, penaltied, hpenaltied, credited, hcredit,
    evidence, hevidence, happ⟩ := h
  obtain ⟨rfl, hcheck⟩ := flushInstallment_spec hflush
  obtain ⟨interestRows, rfl, hinterestRows⟩ := componentRows_postPositive hinterest
  obtain ⟨penaltyRows, rfl, hpenaltyRows⟩ := componentRows_postPositive hpenaltied
  obtain ⟨entries, rfl, hentries⟩ := principalEntries_credit hcredit
  exact ⟨at_, charged, x, due, _, _, interestRows, penaltyRows, entries, _, evidence, hat,
    by simpa using haware, ⟨⟨_, _, _, hpenalty, hdaily⟩, hx, hdue⟩, not_le.mp hpos, rfl,
    not_not.mp hclose, rfl, hcheck, hinterestRows, hpenaltyRows, hentries, rfl, hevidence, happ.symm⟩

end Versioned

section Legacy

def legacyInterest (inst : LoanInstallment) (base : Int) : Int :=
  min base (max 0 (inst.interest - min inst.interest inst.paidAmount))

/-- Everything settling a legacy installment does before its evidence is recorded. -/
theorem applyToLegacyInstallment_spec
    (h : applyToLegacyInstallment env db clock effectiveAt received payment account loan inst =
      .ok app) :
    ∃ (after : LoanInstallment) (penalty base : Int) (penaltyRows interestRows : List LedgerEntry)
      (entries : List MemberFinancialEntry) (loanAfter : Loan) (evidence : LoanEvidence),
      applyPayment inst received clock = (after, penalty, base) ∧ 0 < penalty + base ∧
      ComponentRows db.ledgerEntries payment .LOAN_PENALTY_PAYMENT penalty penaltyRows ∧
      ComponentRows (db.ledgerEntries ++ penaltyRows) payment .LOAN_INTEREST_PAYMENT
        (legacyInterest inst base) interestRows ∧
      PrincipalEntries account payment (max 0 (base - legacyInterest inst base)) entries ∧
      loanAfter = touchLoan (ensureLoanCompletion (db.putInstallment after) clock loan) ∧
      loanEvidenceOf loan loanAfter inst after = .ok evidence ∧
      app = { db := { db with
                loanInstallments := replace LoanInstallment.id db.loanInstallments after
                ledgerEntries := db.ledgerEntries ++ penaltyRows ++ interestRows
                memberEntries := db.memberEntries ++ entries
                loans := replace Loan.id db.loans loanAfter }
              memberId := loan.memberId
              obligation := .loanInstallment inst.id
              receiptVersion := .v4
              principalApplied := max 0 (base - legacyInterest inst base)
              interestApplied := legacyInterest inst base
              penaltyApplied := penalty
              statusBefore := installmentFinancialStatus inst effectiveAt
              statusAfter := installmentFinancialStatus after effectiveAt
              loanEvidence := some evidence } := by
  unfold applyToLegacyInstallment at h
  obtain ⟨after, penalty, base, hpay⟩ : ∃ after penalty base,
      applyPayment inst received clock = (after, penalty, base) := ⟨_, _, _, rfl⟩
  rw [hpay] at h
  simp only [bind_eq_ok, pure_eq_ok, refuseIf_eq_ok, exists_and_left, exists_const] at h
  obtain ⟨hpos, penaltied, hpenaltied, interested, hinterest, credited, hcredit, evidence, hevidence,
    happ⟩ := h
  obtain ⟨penaltyRows, rfl, hpenaltyRows⟩ := componentRows_postOnce hpenaltied
  obtain ⟨interestRows, rfl, hinterestRows⟩ := componentRows_postOnce hinterest
  obtain ⟨entries, rfl, hentries⟩ := principalEntries_credit hcredit
  exact ⟨after, penalty, base, penaltyRows, interestRows, entries, _, evidence, hpay, not_le.mp hpos,
    hpenaltyRows, hinterestRows, hentries, rfl, hevidence, happ.symm⟩

end Legacy

section Reversal
variable {settlement : PaymentSettlement} {r : PaymentReversal} {adminId installmentId : Nat}
  {reason : String}

/-- The original of one component of a loan payment: the only row of its kind under the id of
the payment, when the component is positive. -/
inductive LoanOriginals (db : Db) (paymentId : Nat) (type : LedgerReferenceType) (amount : Int) :
    List LedgerEntry → Prop where
  | nothing (h : amount ≤ 0)
    (rows : (paymentLedgerRows db paymentId).filter (fun e => e.referenceType = type) = []) :
    LoanOriginals db paymentId type amount []
  | row {e} (h : 0 < amount)
    (rows : (paymentLedgerRows db paymentId).filter (fun e => e.referenceType = type) = [e])
    (account : e.account = "CAIXINHA") (direction : e.direction = .CREDIT)
    (amount_eq : e.amount.val = amount) (original : e.reversalOfId = none)
    (intact : hasReversal db e = false) : LoanOriginals db paymentId type amount [e]

theorem loanLedger_eq_ok {paymentId : Nat} {type : LedgerReferenceType} {amount : Int}
    {originals : List LedgerEntry} :
    loanLedger db paymentId type amount = .ok originals ↔
      LoanOriginals db paymentId type amount originals := by
  unfold loanLedger
  dsimp only
  constructor
  · intro h
    split at h
    · rename_i hpos
      split at h
      · rename_i e hrows
        simp only [bind_eq_ok, pure_eq_ok, refuseIf_eq_ok, exists_and_left, exists_const, not_or,
          not_not] at h
        obtain ⟨⟨haccount, hdirection, hamount, horiginal⟩, hintact, rfl⟩ := h
        exact .row hpos hrows haccount hdirection hamount (by simpa using horiginal)
          (by simpa using hintact)
      · cases h
    · rename_i hle
      simp only [bind_eq_ok, pure_eq_ok, refuseIf_eq_ok, exists_and_left, exists_const, not_not] at h
      obtain ⟨hrows, rfl⟩ := h
      exact .nothing (not_lt.mp hle) hrows
  · intro h
    cases h with
    | nothing hle hrows => simp [not_lt.mpr hle, hrows, refuseIf]
    | row hpos hrows haccount hdirection hamount horiginal hintact =>
      simp [hpos, hrows, haccount, hdirection, hamount, horiginal, hintact, refuseIf, ok_bind]

theorem LoanOriginals.mem {paymentId : Nat} {type : LedgerReferenceType} {amount : Int}
    {originals : List LedgerEntry} (h : LoanOriginals db paymentId type amount originals) :
    ∀ o ∈ originals, o ∈ db.ledgerEntries ∧ o.referenceId = toString paymentId ∧
      o.referenceType = type ∧ o.reversalOfId = none := by
  cases h with
  | nothing => simp
  | row _ hrows _ _ _ horiginal =>
    intro o ho
    rw [List.mem_singleton] at ho
    subst ho
    have hmem : o ∈ (paymentLedgerRows db paymentId).filter (fun e => e.referenceType = type) := by
      rw [hrows]
      exact List.mem_singleton_self o
    rw [List.mem_filter] at hmem
    obtain ⟨hledger, href⟩ := mem_of_paymentLedgerRows hmem.1
    exact ⟨hledger, href, by simpa using hmem.2, horiginal⟩

/-- The member entry the reversal of a loan payment takes back. -/
structure PrincipalOriginal (db : Db) (account : MemberFinancialAccount) (paymentId : Nat)
    (principal : Int) (e : MemberFinancialEntry) : Prop where
  rows : db.memberEntries.filter (fun e => e.accountId = account.id ∧
    e.referenceId = some (toString paymentId) ∧ e.entryType = .LOAN_PRINCIPAL_PAYMENT) = [e]
  direction : e.direction = .CREDIT
  reference : e.referenceType = some .LOAN_PRINCIPAL_PAYMENT
  amount : e.amount.val = principal

theorem findPrincipalEntry_eq_ok {paymentId memberId : Nat} {principal : Int}
    {original : Option MemberFinancialEntry} :
    findPrincipalEntry db account paymentId memberId principal = .ok original ↔
      (principal ≤ 0 ∧ original = none ∧ db.memberEntries.filter (fun e =>
        e.accountId = account.id ∧ e.referenceId = some (toString paymentId) ∧
        e.entryType = .LOAN_PRINCIPAL_PAYMENT) = []) ∨
      (0 < principal ∧ ∃ e, original = some e ∧ PrincipalOriginal db account paymentId principal e ∧
        principal ≤ (getMemberFinancialPosition db memberId).ownBalance) := by
  unfold findPrincipalEntry
  dsimp only
  by_cases hpos : 0 < principal
  · rw [if_pos hpos]
    constructor
    · intro h
      split at h
      · rename_i e hrows
        simp only [bind_eq_ok, pure_eq_ok, refuseIf_eq_ok, exists_and_left, exists_const, not_or,
          not_not] at h
        obtain ⟨⟨hdirection, href, hamount⟩, hbalance, rfl⟩ := h
        exact .inr ⟨hpos, e, rfl, ⟨hrows, hdirection, href, hamount⟩, not_lt.mp hbalance⟩
      · cases h
    · rintro (⟨hle, -⟩ | ⟨-, e, rfl, he, hbalance⟩)
      · omega
      · rw [he.rows]
        simp [refuseIf, ok_bind, he.direction, he.reference, he.amount, not_lt.mpr hbalance]
  · rw [if_neg hpos]
    simp only [bind_eq_ok, pure_eq_ok, refuseIf_eq_ok, exists_and_left, exists_const, not_not]
    constructor
    · rintro ⟨hrows, rfl⟩
      exact .inl ⟨not_lt.mp hpos, rfl, hrows⟩
    · rintro (⟨-, rfl, hrows⟩ | ⟨hyes, -⟩)
      · exact ⟨hrows, rfl⟩
      · exact absurd hyes hpos

/-- The debit of the principal: one when there is an entry to take back. -/
theorem debitPrincipal_spec {reversalId : Nat} {original compensating : Option MemberFinancialEntry}
    {amount : Int} (h : debitPrincipal db clock account reversalId original amount =
      .ok (db', compensating)) :
    (original = none ∧ compensating = none ∧ db' = db) ∨
      ∃ o e, original = some o ∧ compensating = some e ∧
        db' = { db with memberEntries := db.memberEntries ++ [e] } ∧
        EntryOf account (principalReversalDebit reversalId amount) e := by
  cases original with
  | none =>
    simp only [debitPrincipal, Except.ok.injEq, Prod.mk.injEq] at h
    exact .inl ⟨rfl, h.2.symm, h.1.symm⟩
  | some o =>
    simp only [debitPrincipal, bind_eq_ok, pure_eq_ok, Prod.exists, Prod.mk.injEq] at h
    obtain ⟨next, e, hadd, rfl, rfl⟩ := h
    obtain ⟨hdb, he⟩ := addMemberFinancialEntry_spec hadd
    exact .inr ⟨o, e, rfl, rfl, hdb, he⟩

theorem adjustAfterReversal_spec (hkeyed : Keyed LoanInstallment.id db.loanInstallments)
    (h : adjustAfterReversal db settlement r installmentId = .ok db')
    (hobligation : settlement.obligation = .loanInstallment installmentId) :
    (settlement.components = none ∧ db' = db) ∨
      (settlement.components.isSome ∧ Charged installmentId db db') := by
  unfold adjustAfterReversal at h
  split at h
  · rename_i hnone
    rw [Except.ok.injEq] at h
    exact .inl ⟨hnone, h.symm⟩
  · rename_i components hcomponents
    simp only [bind_eq_ok, Prod.exists] at h
    obtain ⟨adjusted, event, hadjust, x, hx, hflush⟩ := h
    refine .inr ⟨by simp [hcomponents], ?_⟩
    have hcharged : Charged installmentId db adjusted := by
      unfold materializeReversalLateInterestAdjustment at hadjust
      rw [hobligation] at hadjust
      simp only [bind_eq_ok, lockInstallment, orRefuse_eq_ok] at hadjust
      obtain ⟨row, hrow, hadjust⟩ := hadjust
      have hid : row.id = installmentId := lookup_key hrow
      split at hadjust
      · rw [pure_eq_ok, Prod.mk.injEq] at hadjust
        exact hadjust.1 ▸ Charged.refl installmentId db
      · exact charged_materializeAdjustment hkeyed hrow hid hadjust
    rw [lockInstallment, orRefuse_eq_ok] at hx
    exact hcharged.trans (charged_flush (hcharged.keyed hkeyed) hx
      (ChargedAs.of_withPenaltyTotal (lookup_key hx)) hflush)

/-- What the reversal of a loan payment found before it wrote anything. -/
structure LoanReversible (db : Db) (account : MemberFinancialAccount) (payment : Payment)
    (settlement : PaymentSettlement) (installmentId : Nat) (e : LoanEvidence)
    (plan : LoanReversalPlan) : Prop where
  installment : db.installment? installmentId = some plan.inst
  reference : payment.reference = some (.loanInstallment installmentId)
  loan : db.loan? plan.inst.loanId = some plan.loan
  member : plan.loan.memberId = settlement.memberId
  loanStatus : plan.loan.status = e.statusAfter
  loanRevision : plan.loan.stateRevision = e.stateRevisionAfter
  loanPaidAt : plan.loan.paidAt = e.paidAtAfter
  installmentStatus : plan.inst.status = e.installmentStatusAfter
  installmentPaidAt : plan.inst.paidAt = e.installmentPaidAtAfter
  principal : findPrincipalEntry db account payment.id settlement.memberId
    settlement.amounts.principalApplied = .ok plan.original
  ledger : ∃ interest penalty, plan.originals = interest ++ penalty ∧
    LoanOriginals db payment.id .LOAN_INTEREST_PAYMENT settlement.amounts.interestApplied interest ∧
    LoanOriginals db payment.id .LOAN_PENALTY_PAYMENT settlement.amounts.penaltyApplied penalty
  restorable : checkRestorable plan.inst settlement.amounts settlement.components = .ok ()

theorem planLoanReversal_eq_ok {e : LoanEvidence} {plan : LoanReversalPlan} :
    planLoanReversal db account payment settlement installmentId settlement.amounts e = .ok plan ↔
      LoanReversible db account payment settlement installmentId e plan := by
  unfold planLoanReversal loanLedgers
  simp only [bind_eq_ok, pure_eq_ok, refuseIf_eq_ok, orRefuse_eq_ok, exists_and_left, exists_const,
    not_or, not_not, loanLedger_eq_ok]
  constructor
  · rintro ⟨inst, hinst, href, loan, hloan, ⟨hmember, hstatus, hrevision⟩, hpaidAt,
      ⟨hinstStatus, hinstPaidAt⟩, original, horiginal, originals,
      ⟨interest, hinterest, penalty, hpenalty, rfl⟩, u, hrestorable, rfl⟩
    obtain rfl : inst.id = installmentId := lookup_key hinst
    exact ⟨hinst, href, hloan, hmember, hstatus, hrevision, hpaidAt, hinstStatus, hinstPaidAt,
      horiginal, ⟨interest, penalty, rfl, hinterest, hpenalty⟩, hrestorable⟩
  · rintro ⟨hinst, href, hloan, hmember, hstatus, hrevision, hpaidAt, hinstStatus, hinstPaidAt,
      horiginal, ⟨interest, penalty, hsplit, hinterest, hpenalty⟩, hrestorable⟩
    have hid : plan.inst.id = installmentId := lookup_key hinst
    exact ⟨plan.inst, hinst, by rw [hid]; exact href, plan.loan, hloan, ⟨hmember, hstatus, hrevision⟩,
      hpaidAt, ⟨hinstStatus, hinstPaidAt⟩, plan.original, horiginal, plan.originals,
      ⟨interest, hinterest, penalty, hpenalty, hsplit.symm⟩, (), hrestorable, rfl⟩

theorem validateLoanSettlement_amounts {values : AppliedAmounts} {e : LoanEvidence}
    (h : validateLoanSettlement env payment settlement installmentId = .ok (values, e)) :
    values = settlement.amounts ∧ SoundAmounts settlement.amounts ∧ ComponentsAgree settlement := by
  unfold validateLoanSettlement at h
  simp only [bind_eq_ok, pure_eq_ok, Prod.mk.injEq] at h
  obtain ⟨-, -, -, -, e', -, snapshot, -, -, -, -, -, -, -, v, hmoney, h⟩ := h
  obtain ⟨-, -, -, -, -, -, -, -, -, -, rfl, rfl⟩ := h
  obtain ⟨rfl, hsound, hcomponents, -⟩ := validateMoney_eq_ok.mp hmoney
  exact ⟨rfl, hsound, hcomponents⟩

/-- The database of a loan reversal when the late interest is corrected. -/
def reversedLoanDb (db : Db) (settlement : PaymentSettlement) (plan : LoanReversalPlan)
    (e : LoanEvidence) (reversal : PaymentReversal) (entries : List MemberFinancialEntry)
    (rows : List LedgerEntry) (components : List PaymentReversalComponent) : Db :=
  { db with
    loanInstallments := replace LoanInstallment.id db.loanInstallments
      (restoredInstallment plan.inst reversal.amounts settlement.components e)
    loans := replace Loan.id db.loans (restoredLoan plan.loan e)
    ledgerEntries := db.ledgerEntries ++ rows
    reversalComponents := components
    memberEntries := db.memberEntries ++ entries
    reversals := db.reversals ++ [reversal] }

/-- Everything a loan reversal writes. -/
theorem writeLoanReversal_spec {plan : LoanReversalPlan} {e : LoanEvidence} {x : PaymentReversal}
    (hkeyed : Keyed LoanInstallment.id db.loanInstallments)
    (hid : x.id = nextKey PaymentReversal.id db.reversals)
    (hobligation : settlement.obligation = .loanInstallment plan.inst.id)
    (h : writeLoanReversal env db clock account payment settlement plan e x = .ok (db', r)) :
    ∃ (pairs : List (LedgerEntry × LedgerEntry)) (components : List PaymentReversalComponent)
      (entries : List MemberFinancialEntry) (adjusted : Db) (snapshot : Json.Value),
      SoundAmounts x.amounts ∧ (∀ y ∈ db.reversals, y.paymentId ≠ x.paymentId) ∧
      (∀ y ∈ db.reversals, y.settlementId ≠ x.settlementId) ∧
      Postings db.ledgerEntries (pairs.map Prod.snd) ∧ pairs.map Prod.fst = plan.originals ∧
      (∀ pair ∈ pairs, Compensates pair.1 pair.2) ∧
      ((plan.original = none ∧ entries = []) ∨ ∃ entry, plan.original.isSome ∧ entries = [entry] ∧
        EntryOf account (principalReversalDebit x.id x.amounts.principalApplied) entry) ∧
      (∀ p, (restoredInstallment plan.inst x.amounts settlement.components e).lateCharge = some p →
        checkProjection p = .ok ()) ∧
      adjustAfterReversal (reversedLoanDb db settlement plan e x entries (pairs.map Prod.snd) components)
        settlement x plan.inst.id = .ok adjusted ∧
      r = sealedReversal env x snapshot ∧
      db' = { reversedLoanDb db settlement plan e x entries (pairs.map Prod.snd) components with
        loanInstallments := adjusted.loanInstallments
        lateChargeEvents := adjusted.lateChargeEvents
        reversals := db.reversals ++ [r] } := by
  unfold writeLoanReversal at h
  simp only [bind_eq_ok, pure_eq_ok, lockInstallment, Prod.exists] at h
  obtain ⟨inserted, hinsert, debited, compensating, hdebit, compensated, pairs, hpairs, flushed,
    hflush, adjusted, hadjust, final, -, hseal⟩ := h
  obtain ⟨rfl, hsound, hfirst, hfirst'⟩ := insertReversal_eq_ok.mp hinsert
  obtain ⟨entries, hentries, rfl⟩ : ∃ entries,
      ((plan.original = none ∧ entries = []) ∨ ∃ entry, plan.original.isSome ∧ entries = [entry] ∧
        EntryOf account (principalReversalDebit x.id x.amounts.principalApplied) entry) ∧
      debited = { db with
        reversals := db.reversals ++ [x], memberEntries := db.memberEntries ++ entries } := by
    rcases debitPrincipal_spec hdebit with ⟨hnone, -, hsame⟩ | ⟨o, entry, ho, -, hnew, hentry⟩
    · exact ⟨[], .inl ⟨hnone, rfl⟩, by rw [hsame]; simp⟩
    · exact ⟨[entry], .inr ⟨entry, by simp [ho], rfl, hentry⟩, hnew⟩
  obtain ⟨components, rfl, hpostings, hfst, hall⟩ := compensateAll_spec hpairs
  obtain ⟨rfl, hcheck⟩ := flushInstallment_spec hflush
  change adjustAfterReversal (reversedLoanDb db settlement plan e x entries (pairs.map Prod.snd)
    components) settlement x plan.inst.id = .ok adjusted at hadjust
  have hadjusted : adjusted = { reversedLoanDb db settlement plan e x entries (pairs.map Prod.snd)
      components with
      loanInstallments := adjusted.loanInstallments, lateChargeEvents := adjusted.lateChargeEvents } := by
    rcases adjustAfterReversal_spec (keyed_replace hkeyed) hadjust hobligation with ⟨-, hsame⟩ | ⟨-, hc⟩
    · rw [hsame]
    · exact hc.only
  have hrows : adjusted.reversals = db.reversals ++ [x] := by
    rw [hadjusted]
    rfl
  rw [sealReversal_eq db.reversals hid hrows, Prod.mk.injEq] at hseal
  obtain ⟨hdb, hr⟩ := hseal
  refine ⟨pairs, components, entries, adjusted, _, hsound, hfirst, hfirst', hpostings, hfst, hall,
    hentries, hcheck, hadjust, hr.symm, ?_⟩
  rw [← hdb, ← hr]
  conv_lhs => rw [hadjusted]

/-- Everything the reversal of a loan payment checks and writes. -/
theorem reverseLoanPayment_spec
    (h : reverseLoanPayment env db clock payment settlement installmentId adminId reason reversedAt =
      .ok (db', r)) :
    ∃ (e : LoanEvidence) (locked : Db) (account : MemberFinancialAccount) (plan : LoanReversalPlan)
      (x : PaymentReversal),
      validateLoanSettlement env payment settlement installmentId = .ok (settlement.amounts, e) ∧
      lockMemberFinancialAccount db settlement.memberId = .ok (locked, account) ∧
      LoanReversible locked account payment settlement installmentId e plan ∧
      ReversalOf locked payment settlement adminId reason reversedAt x ∧
      writeLoanReversal env locked clock account payment settlement plan e x = .ok (db', r) := by
  unfold reverseLoanPayment at h
  simp only [bind_eq_ok, Prod.exists] at h
  obtain ⟨values, e, hvalid, locked, account, hlock, plan, hplan, hwrite⟩ := h
  obtain ⟨rfl, -⟩ := validateLoanSettlement_amounts hvalid
  exact ⟨e, locked, account, plan, _, hvalid, hlock, planLoanReversal_eq_ok.mp hplan,
    reversalOf_reversalRow rfl _, hwrite⟩

end Reversal

end Caixinha.Effects
