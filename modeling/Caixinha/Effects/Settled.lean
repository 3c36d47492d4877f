import Caixinha.Effects.Frame

/-! What a settlement adds, whichever obligation it is of. -/
namespace Caixinha.Effects

open Caixinha.Library Caixinha.Library.Table Fallible Caixinha.Model

variable {env : Env} {db db' : Db} {clock effectiveAt received : Int} {payment : Payment}
  {c : Confirmation} {app : Application} {s : PaymentSettlement}

/-- The rows a branch adds before its evidence is recorded; the rest of what it writes concerns
obligations only. -/
structure Applied (db : Db) (app : Application) (new : Additions) : Prop where
  users : app.db.users = db.users
  members : app.db.members = db.members
  contributions : app.db.contributions.map Contribution.id = db.contributions.map Contribution.id
  installments : app.db.loanInstallments.map LoanInstallment.id =
    db.loanInstallments.map LoanInstallment.id
  payments : app.db.payments = db.payments
  accounts : app.db.accounts = db.accounts ++ new.accounts
  entries : app.db.memberEntries = db.memberEntries ++ new.entries
  ledger : app.db.ledgerEntries = db.ledgerEntries ++ new.rows
  postings : Postings db.ledgerEntries new.rows
  settlements : app.db.settlements = db.settlements ++ new.settlements
  noSettlement : new.settlements = []
  reversals : app.db.reversals = db.reversals ++ new.reversals
  noReversal : new.reversals = []

/-- The rows a branch adds are components of the payment, and so is the loan principal. -/
structure OfPayment (payment : Payment) (new : Additions) : Prop where
  rows : ∀ e ∈ new.rows, PaymentRow payment e
  entries : ∀ e ∈ new.entries, e.referenceId = some (toString payment.id)

theorem Charged.installments_keys {id : Nat} (h : Charged id db db') :
    db'.loanInstallments.map LoanInstallment.id = db.loanInstallments.map LoanInstallment.id := by
  have hkeys : ∀ {xs ys : List LoanInstallment}, List.Forall₂ (ChargedAs id) xs ys →
      ys.map LoanInstallment.id = xs.map LoanInstallment.id := by
    intro xs ys hall
    induction hall with
    | nil => rfl
    | cons hxy _ ih => rw [List.map_cons, List.map_cons, ih, hxy.id_eq]
  exact hkeys h.installments

/-- The patrimonial credit of a contribution that became paid. -/
inductive PatrimonialCredit (app : Application) (s : PaymentSettlement) :
    List MemberFinancialEntry → Prop where
  | nothing (h : app.becamePaid = none) : PatrimonialCredit app s []
  | credited {account x e} (h : app.becamePaid = some (account, x))
    (entry : EntryOf account (contributionCredit x s) e) : PatrimonialCredit app s [e]

/-- The columns a settlement takes from the payment and from the branch that applied it. -/
structure RecordedAs (payment : Payment) (c : Confirmation) (effectiveAt received : Int)
    (app : Application) (s : PaymentSettlement) : Prop where
  paymentId : s.paymentId = payment.id
  memberId : s.memberId = app.memberId
  obligation : s.obligation = app.obligation
  amounts : s.amounts =
    { amountReceived := received, amountApplied := appliedAmount app
      principalApplied := app.principalApplied, interestApplied := app.interestApplied
      penaltyApplied := app.penaltyApplied, excessAmount := received - appliedAmount app }
  components : s.components = app.components
  confirmedAt : s.confirmedAt = effectiveAt
  version : s.receiptVersion = app.receiptVersion
  loanEvidence : s.loanEvidence = app.loanEvidence
  agreementEvidence : s.agreementEvidence = app.agreementEvidence
  sound : checkSettlement s = .ok ()

/-- The late-charge components of a settlement make up its interest and its penalty. -/
structure Composed (a : AppliedAmounts) (k : LateChargeComponents) : Prop where
  nonneg : 0 ≤ k.normalInterestApplied ∧ 0 ≤ k.lateInterestApplied ∧ 0 ≤ k.fixedPenaltyApplied
  interest : a.interestApplied = k.normalInterestApplied
  penalty : a.penaltyApplied = k.fixedPenaltyApplied + k.lateInterestApplied

/-- What the constraints of the table say of the amounts of a settlement. -/
theorem checkSettlement_amounts (h : checkSettlement s = .ok ()) :
    SoundAmounts s.amounts ∧ ∀ k, s.components = some k → Composed s.amounts k := by
  unfold checkSettlement at h
  simp only [bind_eq_ok, requireConstraint_eq_ok, exists_and_left, exists_const] at h
  obtain ⟨⟨h1, h2, h3, h4, h5, h6⟩, hreceived, happlied, hnormal, hlate, hfixed, hparts, -⟩ := h
  refine ⟨⟨h1, h2, h3, h4, h5, h6, hreceived, happlied⟩, fun k hk => ?_⟩
  rw [hk] at hnormal hlate hfixed hparts
  simp only [Option.all_some, decide_eq_true_eq] at hnormal hlate hfixed hparts
  exact ⟨⟨hnormal, hlate, hfixed⟩, hparts.1, by omega⟩

/-- The payment a settlement leaves. -/
structure PaidAs (payment : Payment) (received : Int) (p : Payment) : Prop where
  id_eq : p.id = payment.id
  reference : p.reference = payment.reference
  status : p.status = payment.status
  amountReceived : p.amountReceived = some received
  posted : p.ledgerPostedAt.isSome
  pending : p.attemptStatus = some .PENDING → payment.attemptStatus = some .PENDING

theorem settledPayment_paidAs (clock : Int) :
    PaidAs payment received (settledPayment payment c clock effectiveAt received app) := by
  have hconfirmed : (confirmedPayment payment c clock effectiveAt received).status = payment.status ∧
      (confirmedPayment payment c clock effectiveAt received).amountReceived = some received ∧
      (confirmedPayment payment c clock effectiveAt received).attemptStatus = payment.attemptStatus := by
    unfold confirmedPayment persistRemotePayload
    split <;> exact ⟨rfl, rfl, rfl⟩
  refine ⟨by simp [settledPayment], by simp [settledPayment], ?_, ?_, ?_, ?_⟩
  · unfold settledPayment releaseAttempt
    split <;> exact hconfirmed.1
  · unfold settledPayment releaseAttempt
    split <;> exact hconfirmed.2.1
  · unfold settledPayment releaseAttempt
    split <;> rfl
  · unfold settledPayment releaseAttempt
    split
    · intro hpending
      cases hpending
    · rw [hconfirmed.2.2]
      exact id

private theorem checkSettlement_writeReceipt :
    checkSettlement (writeReceipt env db payment s) = checkSettlement s := by
  unfold checkSettlement writeReceipt
  rfl

theorem settledRow_recordedAs
    (h : checkSettlement (unsealedRow payment c clock effectiveAt received app) = .ok ()) :
    RecordedAs payment c effectiveAt received app
      (settledRow env payment c clock effectiveAt received app) := by
  have hid : (confirmedPayment payment c clock effectiveAt received).id = payment.id :=
    confirmedPayment_id
  refine ⟨hid, rfl, rfl, rfl, rfl, rfl, rfl, rfl, rfl, ?_⟩
  rw [settledRow, checkSettlement_writeReceipt]
  exact h

theorem OfPayment.ofSettlement {new : Additions} {credit : List MemberFinancialEntry}
    (h : OfPayment payment new) (hid : s.paymentId = payment.id) (hcredit : PatrimonialCredit app s credit) :
    OfSettlement { new with entries := new.entries ++ credit, settlements := [s] } := by
  refine ⟨fun e he _ => ⟨s, List.mem_singleton_self s, ?_⟩, fun e he hprincipal => ?_⟩
  · rw [hid]
    exact (h.rows e he).reference
  · rcases List.mem_append.mp he with he | he
    · refine ⟨s, List.mem_singleton_self s, ?_⟩
      rw [hid]
      exact h.entries e he
    · cases hcredit with
      | nothing => cases he
      | credited _ hentry =>
        rw [List.mem_singleton.mp he, hentry.referenceType, contributionCredit] at hprincipal
        cases hprincipal

private theorem recorded_charged (hkeyed : Keyed LoanInstallment.id app.db.loanInstallments)
    {charged : Db}
    (hadjust : adjustAfterSettlement (recordedDb payment c clock effectiveAt received app)
      (unsealedRow payment c clock effectiveAt received app) = .ok charged) :
    charged.memberEntries = app.db.memberEntries ∧
      charged.loanInstallments.map LoanInstallment.id =
        app.db.loanInstallments.map LoanInstallment.id := by
  have hkeyed' : Keyed LoanInstallment.id
      (recordedDb payment c clock effectiveAt received app).loanInstallments := hkeyed
  rcases adjustAfterSettlement_spec hkeyed' hadjust with ⟨-, hsame⟩ | ⟨id, -, hc⟩
  · rw [hsame]
    exact ⟨rfl, rfl⟩
  · refine ⟨?_, hc.installments_keys⟩
    rw [hc.only]
    rfl

/-- The money a recorded settlement writes down: its own columns, the rows its branch posted and
the patrimonial credit. -/
theorem recordSettlement_money (hkeyed : Keyed LoanInstallment.id app.db.loanInstallments)
    (h : recordSettlement env clock effectiveAt received c payment app = .ok (db', s)) :
    ∃ credit, PatrimonialCredit app s credit ∧ RecordedAs payment c effectiveAt received app s ∧
      db'.accounts = app.db.accounts ∧ db'.ledgerEntries = app.db.ledgerEntries ∧
      db'.memberEntries = app.db.memberEntries ++ credit := by
  obtain ⟨charged, entries, hcheck, hadjust, hcredit, hrow, hdb⟩ := recordSettlement_spec hkeyed h
  obtain ⟨hsameEntries, -⟩ := recorded_charged hkeyed hadjust
  have hrecorded : RecordedAs payment c effectiveAt received app s := by
    rw [hrow]
    exact settledRow_recordedAs hcheck
  refine ⟨entries, ?_, hrecorded, by rw [hdb], by rw [hdb], by rw [hdb]⟩
  rcases creditBecamePaid_spec hcredit with ⟨hbecame, hsame⟩ | ⟨account, x, e, hbecame, hnew, he⟩
  · have hnil : entries = [] := by
      have hlist := congrArg Db.memberEntries hsame
      rw [hsameEntries] at hlist
      simpa using hlist
    exact hnil ▸ .nothing hbecame
  · have hone : entries = [e] := by
      have hlist := congrArg Db.memberEntries hnew
      rw [hsameEntries] at hlist
      simpa using hlist
    refine hone ▸ .credited hbecame ?_
    have hsame : s.id = (unsealedRow payment c clock effectiveAt received app).id := by
      rw [hrow]
      rfl
    rw [contributionCredit, hsame]
    exact he

/-- Recording a settlement adds its row and the patrimonial credit, and fills in the payment. -/
theorem recordSettlement_grows {new : Additions} (hs : Sound db)
    (hp : db.payment? payment.id = some payment)
    (hnone : db.settlementOfPayment? payment.id = none)
    (h : recordSettlement env clock effectiveAt received c payment app = .ok (db', s))
    (ha : Applied db app new) (hof : OfPayment payment new) :
    ∃ credit p, PatrimonialCredit app s credit ∧ RecordedAs payment c effectiveAt received app s ∧
      PaidAs payment received p ∧ db'.payments = replace Payment.id db.payments p ∧
      db'.contributions = app.db.contributions ∧
      Grows (fun p => p.id = payment.id) db db'
        { new with entries := new.entries ++ credit, settlements := [s] } := by
  have hkeyed : Keyed LoanInstallment.id app.db.loanInstallments :=
    keyed_of_keys ha.installments hs.installments
  obtain ⟨credit, hentries, hrecorded, haccounts, hledger, hcredited⟩ := recordSettlement_money hkeyed h
  obtain ⟨charged, _, -, hadjust, -, hrow, hdb⟩ := recordSettlement_spec hkeyed h
  obtain ⟨-, hcharged⟩ := recorded_charged hkeyed hadjust
  have hsettlements : app.db.settlements = db.settlements := by
    rw [ha.settlements, ha.noSettlement, List.append_nil]
  have hid : s.id = nextKey PaymentSettlement.id db.settlements := by
    rw [hrow, ← hsettlements]
    rfl
  have hpaid : PaidAs payment received
      (settledPayment payment c clock effectiveAt received app) := settledPayment_paidAs clock
  refine ⟨credit, _, hentries, hrecorded, hpaid, ?_, ?_, ?_⟩
  · rw [hdb, ← ha.payments]
  · rw [hdb]
  · exact
      { users := by rw [hdb]; exact ha.users
        members := by rw [hdb]; exact ha.members
        contributions := by rw [hdb]; exact ha.contributions
        installments := by rw [hdb]; exact hcharged.trans ha.installments
        payments := by
          rw [hdb, ← ha.payments]
          refine PaymentsKept.replace (ha.payments ▸ hs.payments) ?_ hpaid.reference
            ⟨fun _ => hpaid.posted, hpaid.pending⟩ rfl
          rw [hpaid.id_eq, ha.payments]
          exact hp
        accounts := by rw [haccounts]; exact ha.accounts
        entries := by rw [hcredited, ha.entries, List.append_assoc]
        ledger := by rw [hledger]; exact ha.ledger
        postings := ha.postings
        settlements := by rw [hdb, ← hsettlements]
        settlement := by
          intro x hx
          rw [List.mem_singleton] at hx
          exact ⟨by rw [hx], by rw [hx]; exact ⟨hid, by rw [hrecorded.paymentId]; exact hnone⟩⟩
        reversals := by rw [hdb]; exact ha.reversals
        reversal := by simp [ha.noReversal]
        own := hof.ofSettlement hrecorded.paymentId hentries }

section Contribution
variable {x : Contribution} {paid asOf : Int}

/-- A contribution counts as paid when it is not cancelled and nothing of it is open. -/
theorem contributionFinancialStatus_eq_paid :
    contributionFinancialStatus x paid asOf = .PAID ↔ x.cancelledAt = none ∧ x.amount ≤ paid := by
  unfold contributionFinancialStatus
  cases hcancelled : x.cancelledAt with
  | some t => simp
  | none =>
    by_cases hpaid : x.amount - paid ≤ 0
    · simp [hpaid]
      omega
    · have hopen : ¬ x.amount ≤ paid := by omega
      simp only [Option.isSome_none, Bool.false_eq_true, if_false, hpaid, hopen, and_false, iff_false]
      split
      · simp
      · split
        · rename_i hstatus
          intro hstat
          rw [hstat] at hstatus
          simp at hstatus
        · split <;> simp

/-- What of a payment a contribution takes. -/
abbrev appliedTo (x : Contribution) (payment : Payment) : Int :=
  contributionApplied x (receivedAmount payment)

/-- What a payment that settled a contribution changed. -/
structure ContributionSettled (db : Db) (payment : Payment) (x : Contribution) (effectiveAt : Int)
    (db' : Db) (s : PaymentSettlement) (new : Additions) : Prop where
  found : lockedContribution db payment = .ok (some x)
  person : ∃ member, db.member? x.memberId = some member
  live : x.cancelledAt = none
  received : 0 ≤ receivedAmount payment
  member : s.memberId = x.memberId
  obligation : s.obligation = .contribution x.id
  amounts : s.amounts =
    { amountReceived := receivedAmount payment
      amountApplied := appliedTo x payment
      principalApplied := appliedTo x payment
      interestApplied := 0, penaltyApplied := 0
      excessAmount := receivedAmount payment - appliedTo x payment }
  components : s.components = none
  version : s.receiptVersion = .v1
  evidence : s.loanEvidence = none
  sound : checkSettlement s = .ok ()
  paid : ∃ p, PaidAs payment (receivedAmount payment) p ∧
    db'.payments = replace Payment.id db.payments p
  contributions : db'.contributions = replace Contribution.id db.contributions
    (creditedContribution x (appliedTo x payment) effectiveAt)
  rows : ContributionRows db payment (appliedTo x payment) new.rows
  account : ∃ account, db'.accounts.find? (fun a => a.memberId = x.memberId) = some account ∧
    ((¬ (contributionPaidAmount x < x.amount ∧
        x.amount ≤ contributionPaidAmount x + appliedTo x payment) ∧
        new.entries = []) ∨
      ((contributionPaidAmount x < x.amount ∧
        x.amount ≤ contributionPaidAmount x + appliedTo x payment) ∧
        ∃ e, new.entries = [e] ∧ EntryOf account (contributionCredit (creditedContribution x
          (appliedTo x payment) effectiveAt) s) e))
  reversals : new.reversals = []

theorem creditedContribution_paid (h : x.cancelledAt = none) (applied : Int) :
    (creditedContribution x applied asOf).status = .PAID ↔
      x.amount ≤ contributionPaidAmount x + applied := by
  have hiff : contributionFinancialStatus
      { x with paidAmount := some (contributionPaidAmount x + applied) }
      (contributionPaidAmount x + applied) asOf = .PAID ↔ x.cancelledAt = none ∧
        x.amount ≤ contributionPaidAmount x + applied := contributionFinancialStatus_eq_paid
  rw [creditedContribution, hiff]
  simp [h]

end Contribution

theorem ContributionRows.paymentRows {applied : Int} {rows : List LedgerEntry}
    (h : ContributionRows db payment applied rows) : ∀ e ∈ rows, PaymentRow payment e := by
  rcases h with ⟨rfl, -⟩ | ⟨e, rfl, -, -, hrow, -⟩
  · simp
  · simpa using hrow

theorem ContributionRows.postings {applied : Int} {rows : List LedgerEntry}
    (h : ContributionRows db payment applied rows) : Postings db.ledgerEntries rows := by
  rcases h with ⟨rfl, -⟩ | ⟨e, rfl, -, hp, -⟩
  · exact .nil _
  · exact hp.single

section Branches
variable {x : Contribution}

/-- Settling a contribution. -/
theorem contribution_settled (hs : Sound db) (hp : db.payment? payment.id = some payment)
    (hnone : db.settlementOfPayment? payment.id = none) (hposted : payment.ledgerPostedAt = none)
    (hreceived : 0 ≤ receivedAmount payment) (hfound : lockedContribution db payment = .ok (some x))
    (happ : applyToContribution env db clock effectiveAt (receivedAmount payment) payment x = .ok app)
    (h : recordSettlement env clock effectiveAt (receivedAmount payment) c payment app =
      .ok (db', s)) :
    ∃ new, Grows (fun p => p.id = payment.id) db db' new ∧ new.settlements = [s] ∧
      s.paymentId = payment.id ∧ ContributionSettled db payment x effectiveAt db' s new := by
  obtain ⟨locked, account, rows, hlock, hlive, hrows, rfl⟩ := applyToContribution_spec hposted happ
  obtain ⟨accounts, rfl, hperson, hfind, -⟩ := lockMemberFinancialAccount_spec hlock
  have hmem : x ∈ db.contributions := (lockedContribution_some hfound).1
  obtain ⟨credit, p, hcredit, hrecorded, hpaid, hpayments, hcontributions, hgrows⟩ :=
    recordSettlement_grows hs hp hnone h
      ({ users := rfl, members := rfl, payments := rfl, accounts := rfl, ledger := rfl
         contributions := keys_replace, installments := rfl, entries := by simp
         postings := hrows.postings, settlements := by simp, noSettlement := rfl
         reversals := by simp, noReversal := rfl } : Applied db _ { accounts, rows })
      ⟨hrows.paymentRows, by simp⟩
  refine ⟨_, hgrows, rfl, hrecorded.paymentId, ?_⟩
  have haccounts : db'.accounts.find? (fun a => a.memberId = x.memberId) = some account := by
    rw [hgrows.accounts]
    exact hfind
  have hpaidIff : (creditedContribution x (appliedTo x payment) effectiveAt).status = .PAID ↔
      x.amount ≤ contributionPaidAmount x + appliedTo x payment := creditedContribution_paid hlive _
  have hbeforeIff : contributionFinancialStatus x (contributionPaidAmount x) effectiveAt ≠ .PAID ↔
      contributionPaidAmount x < x.amount := by
    rw [Ne, contributionFinancialStatus_eq_paid]
    simp [hlive]
  have hamounts := hrecorded.amounts
  simp only [appliedAmount, add_zero] at hamounts
  refine ⟨hfound, hperson, hlive, hreceived, hrecorded.memberId, hrecorded.obligation, hamounts,
    hrecorded.components, hrecorded.version, hrecorded.loanEvidence, hrecorded.sound,
    ⟨p, hpaid, hpayments⟩, hcontributions, hrows, ⟨account, haccounts, ?_⟩, rfl⟩
  rw [← hpaidIff, ← hbeforeIff]
  cases hcredit with
  | nothing hbecame =>
    left
    dsimp only at hbecame
    refine ⟨fun hyes => ?_, rfl⟩
    rw [if_pos hyes] at hbecame
    cases hbecame
  | @credited account' x' e hbecame hentry =>
    right
    dsimp only at hbecame
    split at hbecame
    · rename_i hyes
      simp only [Option.some.injEq, Prod.mk.injEq] at hbecame
      obtain ⟨rfl, rfl⟩ := hbecame
      exact ⟨hyes, e, rfl, hentry⟩
    · cases hbecame

/-- Settling an installment of an agreement. -/
theorem agreement_settled {inst : AgreementInstallment} {agreement : CollectionAgreement}
    (hs : Sound db) (hp : db.payment? payment.id = some payment)
    (hnone : db.settlementOfPayment? payment.id = none)
    (happ : applyToAgreementInstallment env db clock effectiveAt received payment agreement inst =
      .ok app)
    (h : recordSettlement env clock effectiveAt received c payment app = .ok (db', s)) :
    ∃ new, Grows (fun p => p.id = payment.id) db db' new ∧ new.settlements = [s] ∧
      s.paymentId = payment.id ∧ Aside False db db' new := by
  obtain ⟨row, after, agreementAfter, -, -, -, hposting, hrow, htype, -, rfl⟩ :=
    applyToAgreementInstallment_spec happ
  obtain ⟨credit, p, hcredit, hrecorded, -, -, hcontributions, hgrows⟩ :=
    recordSettlement_grows hs hp hnone h
      ({ users := rfl, members := rfl, payments := rfl, accounts := by simp, ledger := rfl
         contributions := rfl, installments := rfl, entries := by simp
         postings := hposting.single, settlements := by simp, noSettlement := rfl
         reversals := by simp, noReversal := rfl } : Applied db _ { rows := [row] })
      ⟨by simpa using hrow, by simp⟩
  have hnothing : credit = [] := by
    cases hcredit with
    | nothing => rfl
    | credited hbecame => cases hbecame
  subst hnothing
  refine ⟨_, hgrows, rfl, hrecorded.paymentId, hcontributions, by simp, ?_, ?_, ?_, by simp⟩
  · intro e he
    rw [List.mem_singleton.mp he, htype]
    simp
  · intro e he o _ hrev
    rw [List.mem_singleton.mp he, hrow.original] at hrev
    cases hrev
  · intro x hx k
    rw [List.mem_singleton.mp hx, hrecorded.obligation]
    simp

theorem PrincipalEntries.ofPayment {account : MemberFinancialAccount} {amount : Int}
    {entries : List MemberFinancialEntry} (h : PrincipalEntries account payment amount entries) :
    ∀ e ∈ entries, e.contributionId = none ∧ e.referenceId = some (toString payment.id) := by
  cases h with
  | nothing => simp
  | credited _ he => simp [he.contribution, he.referenceId, principalCredit]

/-- The rows and entries a payment of a loan installment leaves: components of the payment, and
the principal the member gets back. -/
structure LoanAdditions (db : Db) (payment : Payment) (new : Additions) : Prop where
  rows : ∀ e ∈ new.rows, PaymentRow payment e ∧
    (e.referenceType = .LOAN_INTEREST_PAYMENT ∨ e.referenceType = .LOAN_PENALTY_PAYMENT)
  entries : ∀ e ∈ new.entries, e.contributionId = none ∧ e.referenceId = some (toString payment.id)

theorem LoanAdditions.ofPayment {new : Additions} (h : LoanAdditions db payment new) :
    OfPayment payment new :=
  ⟨fun e he => (h.rows e he).1, fun e he => (h.entries e he).2⟩

/-- The branch of a loan installment changes no contribution, whichever way it goes. -/
theorem installment_applied {inst : LoanInstallment} (hs : Sound db)
    (happ : applyToInstallment env db clock effectiveAt received c.confirmedAt payment inst = .ok app) :
    ∃ new, Applied db app new ∧ LoanAdditions db payment new ∧
      app.db.contributions = db.contributions ∧ app.becamePaid = none ∧
      app.obligation = .loanInstallment inst.id := by
  unfold applyToInstallment at happ
  simp only [bind_eq_ok, orRefuse_eq_ok, Prod.exists] at happ
  obtain ⟨loan, -, locked, account, hlock, happ⟩ := happ
  obtain ⟨accounts, rfl, -⟩ := lockMemberFinancialAccount_spec hlock
  split at happ
  · obtain ⟨at_, charged, y, due, a, after, interestRows, penaltyRows, entries, loanAfter, evidence, -,
      -, hcharged, -, -, -, -, -, hinterest, hpenalty, hentries, -, -, rfl⟩ :=
      applyToVersionedInstallment_spec happ
    have hcharge := hcharged.charged hs.installments
    have hledger : charged.ledgerEntries = db.ledgerEntries := by rw [hcharge.only]
    rw [hledger] at hinterest hpenalty
    have hpostings := hinterest.postings.trans hpenalty.postings
    refine ⟨{ accounts, entries, rows := interestRows ++ penaltyRows }, ?_, ⟨?_, ?_⟩, ?_, rfl, rfl⟩
    · exact
        { users := by rw [hcharge.only], members := by rw [hcharge.only]
          contributions := by rw [hcharge.only]
          installments := keys_replace.trans hcharge.installments_keys
          payments := by rw [hcharge.only], accounts := by rw [hcharge.only]
          entries := by rw [hcharge.only], ledger := by rw [hledger, List.append_assoc]
          postings := hpostings, settlements := by rw [hcharge.only]; simp, noSettlement := rfl
          reversals := by rw [hcharge.only]; simp, noReversal := rfl }
    · intro e he
      rcases List.mem_append.mp he with he | he
      · exact ⟨(hinterest.forall e he).1, .inl (hinterest.forall e he).2⟩
      · exact ⟨(hpenalty.forall e he).1, .inr (hpenalty.forall e he).2⟩
    · exact hentries.ofPayment
    · rw [hcharge.only]
  · obtain ⟨after, penalty, base, penaltyRows, interestRows, entries, loanAfter, evidence, -, -,
      hpenalty, hinterest, hentries, -, -, rfl⟩ := applyToLegacyInstallment_spec happ
    have hpostings := hpenalty.postings.trans hinterest.postings
    refine ⟨{ accounts, entries, rows := penaltyRows ++ interestRows }, ?_, ⟨?_, ?_⟩, rfl, rfl, rfl⟩
    · exact
        { users := rfl, members := rfl, contributions := rfl, installments := keys_replace
          payments := rfl, accounts := rfl, entries := rfl, ledger := by simp
          postings := hpostings, settlements := by simp, noSettlement := rfl
          reversals := by simp, noReversal := rfl }
    · intro e he
      rcases List.mem_append.mp he with he | he
      · exact ⟨(hpenalty.forall e he).1, .inr (hpenalty.forall e he).2⟩
      · exact ⟨(hinterest.forall e he).1, .inl (hinterest.forall e he).2⟩
    · exact hentries.ofPayment

/-- Settling an installment of a loan. -/
theorem installment_settled {inst : LoanInstallment} (hs : Sound db)
    (hp : db.payment? payment.id = some payment)
    (hnone : db.settlementOfPayment? payment.id = none)
    (happ : applyToInstallment env db clock effectiveAt received c.confirmedAt payment inst = .ok app)
    (h : recordSettlement env clock effectiveAt received c payment app = .ok (db', s)) :
    ∃ new, Grows (fun p => p.id = payment.id) db db' new ∧ new.settlements = [s] ∧
      s.paymentId = payment.id ∧ Aside False db db' new := by
  obtain ⟨new, happlied, hadditions, hsame, hbecame, hobligation⟩ := installment_applied hs happ
  obtain ⟨credit, p, hcredit, hrecorded, -, -, hcontributions, hgrows⟩ :=
    recordSettlement_grows hs hp hnone h happlied hadditions.ofPayment
  have hnothing : credit = [] := by
    cases hcredit with
    | nothing => rfl
    | credited hyes => rw [hbecame] at hyes; cases hyes
  subst hnothing
  refine ⟨_, hgrows, rfl, hrecorded.paymentId, hcontributions.trans hsame, ?_, ?_, ?_, ?_, ?_⟩
  · simpa using fun e he => (hadditions.entries e he).1
  · intro e he
    rcases (hadditions.rows e he).2 with htype | htype <;> simp [htype]
  · intro e he o _ hrev
    rw [(hadditions.rows e he).1.original] at hrev
    cases hrev
  · intro x hx k
    rw [List.mem_singleton.mp hx, hrecorded.obligation, hobligation]
    simp
  · simp [happlied.noReversal]

/-- Every successful settlement: the one there was, a contribution, or something aside of them. -/
theorem settle_effect {paymentId : Nat} (hs : Sound db)
    (h : settleConfirmedPixPayment env db clock paymentId c = .ok (db', s)) :
    ∃ payment, db.payment? paymentId = some payment ∧ payment.id = paymentId ∧
      ((db.settlementOfPayment? paymentId = some s ∧ db' = db) ∨
      (db.settlementOfPayment? paymentId = none ∧ payment.ledgerPostedAt = none ∧
        ∃ new, Grows (fun p => p.id = payment.id) db db' new ∧ new.settlements = [s] ∧
          s.paymentId = payment.id ∧
          ((∃ x, ContributionSettled db payment x (effectiveInstant clock payment c) db' s new) ∨
            Aside False db db' new))) := by
  obtain ⟨payment, hpayment, hid, ⟨hfound, rfl⟩ | ⟨hnone, hposted, hreceived, app, happ, hrecord⟩⟩ :=
    settle_cases h
  · exact ⟨payment, hpayment, hid, .inl ⟨hfound, rfl⟩⟩
  · refine ⟨payment, hpayment, hid, .inr ⟨hnone, hposted, ?_⟩⟩
    subst hid
    rcases applyToObligation_cases happ with ⟨inst, agreement, -, -, -, hbranch⟩ |
      ⟨x, hfound, hbranch⟩ | ⟨inst, -, -, hbranch⟩
    · obtain ⟨new, hgrows, hnew, hsid, haside⟩ := agreement_settled hs hpayment hnone hbranch hrecord
      exact ⟨new, hgrows, hnew, hsid, .inr haside⟩
    · obtain ⟨new, hgrows, hnew, hsid, hsettled⟩ :=
        contribution_settled hs hpayment hnone hposted hreceived hfound hbranch hrecord
      exact ⟨new, hgrows, hnew, hsid, .inl ⟨x, hsettled⟩⟩
    · obtain ⟨new, hgrows, hnew, hsid, haside⟩ := installment_settled hs hpayment hnone hbranch hrecord
      exact ⟨new, hgrows, hnew, hsid, .inr haside⟩

end Branches

end Caixinha.Effects
