import Caixinha.Effects.Operations

/-! A settlement conserves money: what was received is applied or left over, no more is applied
than is owed, and what was applied is posted once. -/
namespace Caixinha.Properties.SettlementConservation

open Caixinha.Library Caixinha.Library.Table Fallible Caixinha.Model Caixinha.Effects

variable {env : Env} {db db' : Db} {clock : Int} {payment : Payment} {c : Confirmation}
  {s : PaymentSettlement} {acted : Payment → Prop} {new : Additions}

section Books

/-- The rows the ledger holds for the components of a payment. -/
def componentRows (db : Db) (paymentId : Nat) : List LedgerEntry :=
  db.ledgerEntries.filter (fun e =>
    isPaymentComponent e.referenceType ∧ e.referenceId = toString paymentId)

/-- The entries the member accounts hold for the loan principal of a payment. -/
def principalEntries (db : Db) (paymentId : Nat) : List MemberFinancialEntry :=
  db.memberEntries.filter (fun e =>
    e.referenceType = some .LOAN_PRINCIPAL_PAYMENT ∧ e.referenceId = some (toString paymentId))

def total (rows : List LedgerEntry) : Int := (rows.map (fun e => e.amount.val)).sum

/-- What a settlement has to credit to CAIXINHA. -/
def dueToCaixinha (s : PaymentSettlement) : Int :=
  match s.obligation with
  | .loanInstallment _ => s.amounts.interestApplied + s.amounts.penaltyApplied
  | .contribution _ | .agreementInstallment _ => s.amounts.amountApplied

/-- What a settlement has to credit to the member as loan principal. -/
def dueToMember (s : PaymentSettlement) : Int :=
  match s.obligation with
  | .loanInstallment _ => s.amounts.principalApplied
  | .contribution _ | .agreementInstallment _ => 0

/-- The one entry of the principal on the account of the member, or none for no principal. -/
inductive PrincipalCredited (db : Db) (memberId : Nat) (amount : Int) :
    List MemberFinancialEntry → Prop where
  | nothing (h : amount = 0) : PrincipalCredited db memberId amount []
  | credited {account e} (h : 0 < amount)
    (holder : db.accounts.find? (fun a => a.memberId = memberId) = some account)
    (account_eq : e.accountId = account.id) (type : e.entryType = .LOAN_PRINCIPAL_PAYMENT)
    (direction : e.direction = .CREDIT) (amount_eq : e.amount.val = amount) :
    PrincipalCredited db memberId amount [e]

/-- The ledger and the member accounts hold what a settlement applied, once. -/
structure Posted (db : Db) (s : PaymentSettlement) : Prop where
  rows : ∀ e ∈ componentRows db s.paymentId, e.account = "CAIXINHA" ∧ e.direction = .CREDIT
  credited : total (componentRows db s.paymentId) = dueToCaixinha s
  principal : PrincipalCredited db s.memberId (dueToMember s) (principalEntries db s.paymentId)

/-- The payment some postings belong to is settled, or was posted before settlements were kept. -/
def Owned (db : Db) (referenceId : String) : Prop :=
  (∃ s ∈ db.settlements, referenceId = toString s.paymentId) ∨
    ∃ p ∈ db.payments, referenceId = toString p.id ∧ p.ledgerPostedAt.isSome

/-- No payment has postings before it is settled. -/
structure Accounted (db : Db) : Prop where
  rows : ∀ e ∈ db.ledgerEntries, isPaymentComponent e.referenceType → Owned db e.referenceId
  entries : ∀ e ∈ db.memberEntries, e.referenceType = some .LOAN_PRINCIPAL_PAYMENT →
    ∀ id, e.referenceId = some id → Owned db id

theorem Owned.grows {id : String} (h : Owned db id) (hg : Grows acted db db' new) : Owned db' id := by
  rcases h with ⟨s, hs, hid⟩ | ⟨p, hp, hid, hposted⟩
  · exact .inl ⟨s, by rw [hg.settlements]; exact List.mem_append_left _ hs, hid⟩
  · obtain ⟨q, hq, hsame, -, -, hstays, -⟩ := hg.payments.forward hp
    exact .inr ⟨q, hq, by rw [hid, hsame], hstays hposted⟩

theorem Accounted.grows (h : Accounted db) (hg : Grows acted db db' new) : Accounted db' := by
  have hadded : ∀ {id : String}, (∃ s ∈ new.settlements, id = toString s.paymentId) → Owned db' id := by
    rintro id ⟨s, hs, hid⟩
    exact .inl ⟨s, by rw [hg.settlements]; exact List.mem_append_right _ hs, hid⟩
  constructor
  · intro e he hcomponent
    rw [hg.ledger, List.mem_append] at he
    rcases he with he | he
    · exact (h.rows e he hcomponent).grows hg
    · exact hadded (hg.own.rows e he hcomponent)
  · intro e he hprincipal id hid
    rw [hg.entries, List.mem_append] at he
    rcases he with he | he
    · exact (h.entries e he hprincipal id hid).grows hg
    · obtain ⟨s, hs, href⟩ := hg.own.entries e he hprincipal
      exact hadded ⟨s, hs, by simpa [hid] using href⟩

theorem componentRows_grows {id : Nat} (hg : Grows acted db db' new)
    (hid : ∀ s ∈ new.settlements, s.paymentId ≠ id) : componentRows db' id = componentRows db id := by
  rw [componentRows, hg.ledger, List.filter_append]
  refine List.append_right_eq_self.mpr (List.filter_eq_nil_iff.mpr ?_)
  intro e he hyes
  obtain ⟨hcomponent, href⟩ : isPaymentComponent e.referenceType ∧ e.referenceId = toString id := by
    simpa using hyes
  obtain ⟨s, hs, hsid⟩ := hg.own.rows e he hcomponent
  exact hid s hs (toString_key_inj (hsid.symm.trans href))

theorem principalEntries_grows {id : Nat} (hg : Grows acted db db' new)
    (hid : ∀ s ∈ new.settlements, s.paymentId ≠ id) :
    principalEntries db' id = principalEntries db id := by
  rw [principalEntries, hg.entries, List.filter_append]
  refine List.append_right_eq_self.mpr (List.filter_eq_nil_iff.mpr ?_)
  intro e he hyes
  obtain ⟨hprincipal, href⟩ : e.referenceType = some .LOAN_PRINCIPAL_PAYMENT ∧
    e.referenceId = some (toString id) := by simpa using hyes
  obtain ⟨s, hs, hsid⟩ := hg.own.entries e he hprincipal
  exact hid s hs (toString_key_inj (by simpa [href] using hsid.symm))

theorem PrincipalCredited.grows {memberId : Nat} {amount : Int} {entries : List MemberFinancialEntry}
    (h : PrincipalCredited db memberId amount entries) (hg : Grows acted db db' new) :
    PrincipalCredited db' memberId amount entries := by
  cases h with
  | nothing hzero => exact .nothing hzero
  | credited hpos hholder haccount htype hdirection hamount =>
    refine .credited hpos ?_ haccount htype hdirection hamount
    rw [hg.accounts, List.find?_append, hholder, Option.some_or]

/-- What was posted for a settlement stays. -/
theorem Posted.grows (h : Posted db s) (hmem : s ∈ db.settlements) (hg : Grows acted db db' new) :
    Posted db' s := by
  have hother : ∀ x ∈ new.settlements, x.paymentId ≠ s.paymentId :=
    fun x hx => ((hg.settlement x hx).2.fresh hmem).symm
  refine ⟨?_, ?_, ?_⟩
  · rw [componentRows_grows hg hother]
    exact h.rows
  · rw [componentRows_grows hg hother]
    exact h.credited
  · rw [principalEntries_grows hg hother]
    exact h.principal.grows hg

end Books

section Amounts

/-- What an obligation still owes when a payment of it takes effect. -/
inductive Owes (env : Env) (db : Db) (payment : Payment) (confirmedAt : Option Timestamp) :
    Obligation → Int → Prop where
  | contribution {x} (row : lockedContribution db payment = .ok (some x)) :
    Owes env db payment confirmedAt (.contribution x.id) (max 0 (x.amount - contributionPaidAmount x))
  | agreementInstallment {inst} (reference : payment.reference = some (.agreementInstallment inst.id))
    (row : db.agreementInstallment? inst.id = some inst) :
    Owes env db payment confirmedAt (.agreementInstallment inst.id) (agreementDue inst)
  | legacyInstallment {inst} (reference : payment.reference = some (.loanInstallment inst.id))
    (row : db.installment? inst.id = some inst)
    (legacy : ¬ isLateChargeEligible inst.dueDate env.lateChargeEffectiveDate) :
    Owes env db payment confirmedAt (.loanInstallment inst.id) (installmentDue inst)
  | versionedInstallment {inst at_ accounts charged x due}
    (reference : payment.reference = some (.loanInstallment inst.id))
    (row : db.installment? inst.id = some inst)
    (versioned : isLateChargeEligible inst.dueDate env.lateChargeEffectiveDate)
    (confirmed : confirmedAt = some at_)
    (charges : ChargedFor env { db with accounts } inst.id (financialCivilDate at_.instant) charged x due) :
    Owes env db payment confirmedAt (.loanInstallment inst.id) due.totalDue

end Amounts

section Settle
variable {effectiveAt received : Int} {app : Application} {rows : List LedgerEntry}
  {entries : List MemberFinancialEntry}

/-- The ledger and the member accounts hold nothing of a payment. -/
structure Unposted (db : Db) (paymentId : Nat) : Prop where
  rows : ∀ e ∈ db.ledgerEntries, isPaymentComponent e.referenceType →
    e.referenceId ≠ toString paymentId
  entries : ∀ e ∈ db.memberEntries, e.referenceType = some .LOAN_PRINCIPAL_PAYMENT →
    e.referenceId ≠ some (toString paymentId)

theorem Accounted.unposted (h : Accounted db) (hs : Sound db)
    (hp : db.payment? payment.id = some payment)
    (hnone : db.settlementOfPayment? payment.id = none) (hposted : payment.ledgerPostedAt = none) :
    Unposted db payment.id := by
  have hnot : ¬ Owned db (toString payment.id) := by
    rintro (⟨s, hmem, hid⟩ | ⟨p, hmem, hid, hyes⟩)
    · rw [Db.settlementOfPayment?, List.find?_eq_none] at hnone
      exact hnone s hmem (by simpa using (toString_key_inj hid).symm)
    · have hsame : p = payment :=
        eq_of_mem_of_key hs.payments hmem (lookup_mem hp) (toString_key_inj hid).symm
      rw [hsame, hposted] at hyes
      cases hyes
  exact ⟨fun e he hcomponent hid => hnot (hid ▸ h.rows e he hcomponent),
    fun e he hprincipal hid => hnot (h.entries e he hprincipal _ hid)⟩

theorem Unposted.componentRows (h : Unposted db payment.id)
    (hledger : db'.ledgerEntries = db.ledgerEntries ++ rows)
    (hrows : ∀ e ∈ rows, PaymentRow payment e ∧ isPaymentComponent e.referenceType) :
    componentRows db' payment.id = rows := by
  have hold : db.ledgerEntries.filter (fun e => isPaymentComponent e.referenceType ∧
      e.referenceId = toString payment.id) = [] := by
    rw [List.filter_eq_nil_iff]
    intro e he hyes
    obtain ⟨hcomponent, hid⟩ := of_decide_eq_true hyes
    exact h.rows e he hcomponent hid
  rw [SettlementConservation.componentRows, hledger, List.filter_append, hold, List.nil_append,
    List.filter_eq_self]
  intro e he
  obtain ⟨hrow, hcomponent⟩ := hrows e he
  exact decide_eq_true ⟨hcomponent, hrow.reference⟩

theorem Unposted.principalEntries {credit : List MemberFinancialEntry} (h : Unposted db payment.id)
    (hentries : db'.memberEntries = db.memberEntries ++ entries ++ credit)
    (hnew : ∀ e ∈ entries, e.referenceType = some .LOAN_PRINCIPAL_PAYMENT ∧
      e.referenceId = some (toString payment.id))
    (hcredit : ∀ e ∈ credit, e.referenceType ≠ some .LOAN_PRINCIPAL_PAYMENT) :
    principalEntries db' payment.id = entries := by
  have hold : db.memberEntries.filter (fun e => e.referenceType = some .LOAN_PRINCIPAL_PAYMENT ∧
      e.referenceId = some (toString payment.id)) = [] := by
    rw [List.filter_eq_nil_iff]
    intro e he hyes
    obtain ⟨hprincipal, hid⟩ := of_decide_eq_true hyes
    exact h.entries e he hprincipal hid
  have hlast : credit.filter (fun e => e.referenceType = some .LOAN_PRINCIPAL_PAYMENT ∧
      e.referenceId = some (toString payment.id)) = [] := by
    rw [List.filter_eq_nil_iff]
    intro e he hyes
    exact hcredit e he (of_decide_eq_true hyes).1
  rw [SettlementConservation.principalEntries, hentries, List.filter_append, List.filter_append, hold,
    hlast, List.nil_append, List.append_nil, List.filter_eq_self]
  intro e he
  exact decide_eq_true (hnew e he)

theorem PatrimonialCredit.notPrincipal {credit : List MemberFinancialEntry}
    (h : PatrimonialCredit app s credit) :
    ∀ e ∈ credit, e.referenceType ≠ some .LOAN_PRINCIPAL_PAYMENT := by
  cases h with
  | nothing => simp
  | credited _ hentry => simp [hentry.referenceType, contributionCredit]

/-- A component that was not posted before is posted in full. -/
theorem ComponentRows.total {ledger : List LedgerEntry} {type : LedgerReferenceType} {amount : Int}
    (h : ComponentRows ledger payment type amount rows) (hnonneg : 0 ≤ amount)
    (hfree : ∀ e ∈ ledger, e.referenceType = type → e.referenceId ≠ toString payment.id) :
    total rows = amount := by
  cases h with
  | nothing hle => simp [SettlementConservation.total]; omega
  | present _ hhas =>
    obtain ⟨e, he, htype, hid⟩ := hhas
    exact absurd hid (hfree e he htype)
  | posted _ _ _ _ hamount => simp [SettlementConservation.total, hamount]

theorem total_append (xs ys : List LedgerEntry) : total (xs ++ ys) = total xs + total ys := by
  simp [total]

theorem PrincipalEntries.credited {account : MemberFinancialAccount} {amount : Int} {memberId : Nat}
    (h : PrincipalEntries account payment amount entries) (hnonneg : 0 ≤ amount)
    (hholder : db'.accounts.find? (fun a => a.memberId = memberId) = some account) :
    PrincipalCredited db' memberId amount entries := by
  cases h with
  | nothing hle => exact .nothing (le_antisymm hle hnonneg)
  | credited hpos he => exact .credited hpos hholder he.account he.entryType he.direction he.amount

theorem PrincipalEntries.principal {account : MemberFinancialAccount} {amount : Int}
    (h : PrincipalEntries account payment amount entries) :
    ∀ e ∈ entries, e.referenceType = some .LOAN_PRINCIPAL_PAYMENT ∧
      e.referenceId = some (toString payment.id) := by
  cases h with
  | nothing => simp
  | credited _ he => simp [he.referenceType, he.referenceId, principalCredit]

/-- What a branch added for a payment that had no postings is all that is posted for it. -/
theorem posted_of_branch {credit : List MemberFinancialEntry} (hfree : Unposted db payment.id)
    (hid : s.paymentId = payment.id) (hledger : db'.ledgerEntries = db.ledgerEntries ++ rows)
    (hrows : ∀ e ∈ rows, PaymentRow payment e ∧ isPaymentComponent e.referenceType)
    (htotal : total rows = dueToCaixinha s)
    (hentries : db'.memberEntries = db.memberEntries ++ entries ++ credit)
    (hnew : ∀ e ∈ entries, e.referenceType = some .LOAN_PRINCIPAL_PAYMENT ∧
      e.referenceId = some (toString payment.id))
    (hprincipal : PrincipalCredited db' s.memberId (dueToMember s) entries)
    (hcredit : PatrimonialCredit app s credit) : Posted db' s := by
  have hcomponents := hfree.componentRows hledger hrows
  have hprincipals := hfree.principalEntries hentries hnew (PatrimonialCredit.notPrincipal hcredit)
  refine ⟨?_, ?_, ?_⟩
  · rw [hid, hcomponents]
    exact fun e he => ⟨(hrows e he).1.account, (hrows e he).1.direction⟩
  · rw [hid, hcomponents, htotal]
  · rw [hid, hprincipals]
    exact hprincipal

/-- What a settlement says of the payment it settled. -/
structure Conserved (env : Env) (db : Db) (payment : Payment) (c : Confirmation)
    (s : PaymentSettlement) : Prop where
  paymentId : s.paymentId = payment.id
  received : s.amounts.amountReceived = receivedAmount payment
  balanced : SoundAmounts s.amounts
  composed : ∀ k, s.components = some k → Composed s.amounts k
  versioned : ∀ inst, s.obligation = .loanInstallment inst.id → db.installment? inst.id = some inst →
    isLateChargeEligible inst.dueDate env.lateChargeEffectiveDate → s.components.isSome
  within : ∃ due, Owes env db payment c.confirmedAt s.obligation due ∧
    s.amounts.amountApplied = min s.amounts.amountReceived due

theorem contribution_conserves {x : Contribution} (hs : Sound db) (hfree : Unposted db payment.id)
    (hposted : payment.ledgerPostedAt = none) (hfound : lockedContribution db payment = .ok (some x))
    (happ : applyToContribution env db clock effectiveAt (receivedAmount payment) payment x = .ok app)
    (h : recordSettlement env clock effectiveAt (receivedAmount payment) c payment app =
      .ok (db', s)) :
    Conserved env db payment c s ∧ Posted db' s := by
  obtain ⟨locked, account, rows, hlock, -, hrows, rfl⟩ := applyToContribution_spec hposted happ
  obtain ⟨accounts, rfl, -⟩ := lockMemberFinancialAccount_spec hlock
  obtain ⟨credit, hcredit, hrecorded, -, hledger, hentries⟩ := recordSettlement_money hs.installments h
  obtain ⟨hbalanced, hcomposed⟩ := checkSettlement_amounts hrecorded.sound
  have hobligation : s.obligation = .contribution x.id := hrecorded.obligation
  have hamounts := hrecorded.amounts
  simp only [appliedAmount, add_zero] at hamounts
  have happlied : s.amounts.amountApplied = appliedTo x payment := by rw [hamounts]
  constructor
  · refine ⟨hrecorded.paymentId, by rw [hamounts], hbalanced, hcomposed, ?_, ?_⟩
    · intro inst hinst
      rw [hobligation] at hinst
      cases hinst
    · rw [hobligation]
      exact ⟨_, .contribution hfound, by rw [hamounts]; rfl⟩
  · have htotal : total rows = appliedTo x payment := by
      rcases hrows with ⟨rfl, hhas⟩ | ⟨e, rfl, -, -, -, -, hamount, -⟩
      · have hnot : ¬ 0 < appliedTo x payment := by
          intro hpos
          have hyes := hhas hpos
          rw [ledgerHas, List.any_eq_true] at hyes
          obtain ⟨e, he, hmatch⟩ := hyes
          obtain ⟨htype, hid⟩ := of_decide_eq_true hmatch
          exact hfree.rows e he (by rw [htype]; rfl) hid
        have hnonneg := hbalanced.applied_nonneg
        rw [happlied] at hnonneg
        simp only [total, List.map_nil, List.sum_nil]
        omega
      · simp [total, hamount]
    have hcomponent : ∀ e ∈ rows, PaymentRow payment e ∧ isPaymentComponent e.referenceType := by
      rcases hrows with ⟨rfl, -⟩ | ⟨e, rfl, -, -, hrow, htype, -⟩
      · simp
      · simp [hrow, htype, isPaymentComponent]
    refine posted_of_branch hfree hrecorded.paymentId hledger hcomponent ?_
      (by rw [hentries, List.append_nil]) (by simp) ?_ hcredit
    · rw [dueToCaixinha, hobligation, htotal, happlied]
    · rw [dueToMember, hobligation]
      exact .nothing rfl

theorem agreement_conserves {inst : AgreementInstallment} {agreement : CollectionAgreement}
    (hs : Sound db) (hfree : Unposted db payment.id)
    (href : payment.reference = some (.agreementInstallment inst.id))
    (hinst : db.agreementInstallment? inst.id = some inst)
    (happ : applyToAgreementInstallment env db clock effectiveAt (receivedAmount payment) payment
      agreement inst = .ok app)
    (h : recordSettlement env clock effectiveAt (receivedAmount payment) c payment app =
      .ok (db', s)) :
    Conserved env db payment c s ∧ Posted db' s := by
  obtain ⟨row, after, agreementAfter, hpos, -, -, -, hrow, htype, hamount, rfl⟩ :=
    applyToAgreementInstallment_spec happ
  obtain ⟨credit, hcredit, hrecorded, -, hledger, hentries⟩ := recordSettlement_money hs.installments h
  obtain ⟨hbalanced, hcomposed⟩ := checkSettlement_amounts hrecorded.sound
  have hobligation : s.obligation = .agreementInstallment inst.id := hrecorded.obligation
  have hsplit := agreementSplit_applied inst (receivedAmount payment) (by omega)
  have happlied : s.amounts.amountApplied = min (receivedAmount payment) (agreementDue inst) := by
    rw [← hsplit, hrecorded.amounts, AgreementSplit.applied]
    simp only [appliedAmount]
    ring
  have hreceived : s.amounts.amountReceived = receivedAmount payment := by rw [hrecorded.amounts]
  constructor
  · refine ⟨hrecorded.paymentId, hreceived, hbalanced, hcomposed, ?_, ?_⟩
    · intro inst' hinst'
      rw [hobligation] at hinst'
      cases hinst'
    · rw [hobligation, hreceived]
      exact ⟨_, .agreementInstallment href hinst, happlied⟩
  · refine posted_of_branch hfree hrecorded.paymentId hledger ?_ ?_
      (by rw [hentries, List.append_nil]) (by simp) ?_ hcredit
    · simpa [htype, isPaymentComponent] using hrow
    · rw [dueToCaixinha, hobligation, happlied]
      simp [total, hamount]
    · rw [dueToMember, hobligation]
      exact .nothing rfl

/-- The rows of two components that were not posted before add up to both. -/
theorem total_components {first second : LedgerReferenceType} {x y : Int} {xs ys : List LedgerEntry}
    (hfree : Unposted db payment.id) (hne : first ≠ second) (hfirst : isPaymentComponent first)
    (hsecond : isPaymentComponent second)
    (hxs : ComponentRows db.ledgerEntries payment first x xs)
    (hys : ComponentRows (db.ledgerEntries ++ xs) payment second y ys) (hx : 0 ≤ x) (hy : 0 ≤ y) :
    total (xs ++ ys) = x + y ∧
      ∀ e ∈ xs ++ ys, PaymentRow payment e ∧ isPaymentComponent e.referenceType := by
  have hold : ∀ type, isPaymentComponent type → ∀ e ∈ db.ledgerEntries, e.referenceType = type →
      e.referenceId ≠ toString payment.id :=
    fun type htype e he heq => hfree.rows e he (heq ▸ htype)
  constructor
  · rw [total_append, ComponentRows.total hxs hx (hold first hfirst), ComponentRows.total hys hy]
    intro e he heq
    rcases List.mem_append.mp he with he | he
    · exact hold second hsecond e he heq
    · exact absurd ((hxs.forall e he).2.symm.trans heq) hne
  · intro e he
    rcases List.mem_append.mp he with he | he
    · exact ⟨(hxs.forall e he).1, (hxs.forall e he).2 ▸ hfirst⟩
    · exact ⟨(hys.forall e he).1, (hys.forall e he).2 ▸ hsecond⟩

theorem versioned_conserves {inst : LoanInstallment} {loan : Loan} {locked : Db}
    {account : MemberFinancialAccount} (hs : Sound db) (hfree : Unposted db payment.id)
    (href : payment.reference = some (.loanInstallment inst.id))
    (hinst : db.installment? inst.id = some inst)
    (hversioned : isLateChargeEligible inst.dueDate env.lateChargeEffectiveDate)
    (hlock : lockMemberFinancialAccount db loan.memberId = .ok (locked, account))
    (happ : applyToVersionedInstallment env locked clock (receivedAmount payment) c.confirmedAt
      payment account loan inst = .ok app)
    (h : recordSettlement env clock effectiveAt (receivedAmount payment) c payment app =
      .ok (db', s)) :
    Conserved env db payment c s ∧ Posted db' s := by
  obtain ⟨accounts, rfl, -, hholder, -⟩ := lockMemberFinancialAccount_spec hlock
  obtain ⟨at_, charged, x, due, a, after, interestRows, penaltyRows, entries, loanAfter, evidence, hat,
    -, hcharged, -, -, hclose, -, -, hinterest, hpenalty, hprincipal, -, -, rfl⟩ :=
    applyToVersionedInstallment_spec happ
  have honly := (hcharged.charged hs.installments).only
  have hkeyed : Keyed LoanInstallment.id
      (replace LoanInstallment.id charged.loanInstallments after) :=
    keyed_replace ((hcharged.charged hs.installments).keyed hs.installments)
  obtain ⟨credit, hcredit, hrecorded, haccounts, hledger, hentries⟩ := recordSettlement_money hkeyed h
  obtain ⟨hbalanced, hcomposed⟩ := checkSettlement_amounts hrecorded.sound
  have hobligation : s.obligation = .loanInstallment inst.id := hrecorded.obligation
  have hamounts := hrecorded.amounts
  have hcomponents := hrecorded.components
  simp only [appliedAmount] at hamounts
  have hrows : charged.ledgerEntries = db.ledgerEntries := by rw [honly]
  have hmembers : charged.memberEntries = db.memberEntries := by rw [honly]
  dsimp only at hledger hentries
  rw [hrows] at hinterest hpenalty hledger
  rw [hmembers] at hentries
  rw [List.append_assoc] at hledger
  have hprincipal0 := hbalanced.principal_nonneg
  have hinterest0 := hbalanced.interest_nonneg
  have hpenalty0 := hbalanced.penalty_nonneg
  rw [hamounts] at hprincipal0 hinterest0 hpenalty0
  obtain ⟨htotal, hcomponent⟩ := total_components hfree (by decide) rfl rfl hinterest hpenalty
    hinterest0 hpenalty0
  constructor
  · refine ⟨hrecorded.paymentId, by rw [hamounts], hbalanced, hcomposed, ?_, ?_⟩
    · intro _ _ _ _
      rw [hcomponents]
      rfl
    · rw [hobligation]
      refine ⟨_, .versionedInstallment href hinst hversioned hat hcharged, ?_⟩
      rw [hamounts]
      simp only [hclose, Allocation.base, Allocation.penalty]
      ring
  · refine posted_of_branch hfree hrecorded.paymentId hledger hcomponent ?_ hentries
      (PrincipalEntries.principal hprincipal) ?_ hcredit
    · rw [dueToCaixinha, hobligation, htotal, hamounts]
    · rw [dueToMember, hobligation, hamounts]
      refine PrincipalEntries.credited hprincipal hprincipal0 ?_
      rw [haccounts, hrecorded.memberId]
      dsimp only
      rw [honly]
      exact hholder

/-- A legacy installment takes the smaller of what is paid and what it owes. -/
theorem applyPayment_applied {inst after : LoanInstallment} {amount penalty base : Int}
    (h : applyPayment inst amount clock = (after, penalty, base)) (hpos : 0 < penalty + base) :
    penalty + base = min amount (installmentDue inst) := by
  simp only [applyPayment, Prod.mk.injEq] at h
  obtain ⟨-, rfl, rfl⟩ := h
  unfold installmentDue
  omega

theorem legacy_conserves {inst : LoanInstallment} {loan : Loan} {locked : Db}
    {account : MemberFinancialAccount} (hs : Sound db) (hfree : Unposted db payment.id)
    (href : payment.reference = some (.loanInstallment inst.id))
    (hinst : db.installment? inst.id = some inst)
    (hlegacy : ¬ isLateChargeEligible inst.dueDate env.lateChargeEffectiveDate)
    (hlock : lockMemberFinancialAccount db loan.memberId = .ok (locked, account))
    (happ : applyToLegacyInstallment env locked clock effectiveAt (receivedAmount payment) payment
      account loan inst = .ok app)
    (h : recordSettlement env clock effectiveAt (receivedAmount payment) c payment app =
      .ok (db', s)) :
    Conserved env db payment c s ∧ Posted db' s := by
  obtain ⟨accounts, rfl, -, hholder, -⟩ := lockMemberFinancialAccount_spec hlock
  obtain ⟨after, penalty, base, penaltyRows, interestRows, entries, loanAfter, evidence, hpay, hpos,
    hpenalty, hinterest, hprincipal, -, -, rfl⟩ := applyToLegacyInstallment_spec happ
  obtain ⟨credit, hcredit, hrecorded, haccounts, hledger, hentries⟩ :=
    recordSettlement_money (keyed_replace hs.installments) h
  obtain ⟨hbalanced, hcomposed⟩ := checkSettlement_amounts hrecorded.sound
  have hobligation : s.obligation = .loanInstallment inst.id := hrecorded.obligation
  have hamounts := hrecorded.amounts
  simp only [appliedAmount] at hamounts
  dsimp only at hledger hentries
  rw [List.append_assoc] at hledger
  have hprincipal0 := hbalanced.principal_nonneg
  have hinterest0 := hbalanced.interest_nonneg
  have hpenalty0 := hbalanced.penalty_nonneg
  rw [hamounts] at hprincipal0 hinterest0 hpenalty0
  obtain ⟨htotal, hcomponent⟩ := total_components hfree (by decide) rfl rfl hpenalty hinterest
    hpenalty0 hinterest0
  have hsplit : max 0 (base - legacyInterest inst base) + legacyInterest inst base = base := by
    have hle : legacyInterest inst base ≤ base := min_le_left _ _
    omega
  constructor
  · refine ⟨hrecorded.paymentId, by rw [hamounts], hbalanced, hcomposed, ?_, ?_⟩
    · intro y hy hrow hyes
      obtain hid : inst.id = y.id := by simpa [hobligation] using hy
      rw [← hid, hinst, Option.some.injEq] at hrow
      exact absurd (hrow ▸ hyes) hlegacy
    · rw [hobligation]
      refine ⟨_, .legacyInstallment href hinst hlegacy, ?_⟩
      have happlied := applyPayment_applied hpay hpos
      rw [hamounts]
      dsimp only
      omega
  · refine posted_of_branch hfree hrecorded.paymentId hledger hcomponent ?_ hentries
      (PrincipalEntries.principal hprincipal) ?_ hcredit
    · rw [dueToCaixinha, hobligation, htotal, hamounts]
      ring
    · rw [dueToMember, hobligation, hamounts]
      refine PrincipalEntries.credited hprincipal hprincipal0 ?_
      rw [haccounts, hrecorded.memberId]
      exact hholder

/-- Whichever branch settles it, a payment without postings conserves money. -/
theorem settle_conserves {paymentId : Nat} (hs : Sound db) (ha : Accounted db)
    (hnone : db.settlementOfPayment? paymentId = none)
    (h : settleConfirmedPixPayment env db clock paymentId c = .ok (db', s)) :
    ∃ payment, db.payment? paymentId = some payment ∧ Conserved env db payment c s ∧ Posted db' s := by
  obtain ⟨payment, hpayment, hid, ⟨hfound, -⟩ | ⟨-, hposted, -, app, happ, hrecord⟩⟩ := settle_cases h
  · rw [hnone] at hfound
    cases hfound
  · refine ⟨payment, hpayment, ?_⟩
    subst hid
    have hfree := ha.unposted hs hpayment hnone hposted
    rcases applyToObligation_cases happ with ⟨inst, agreement, href, hinst, -, hbranch⟩ |
      ⟨x, hfound, hbranch⟩ | ⟨inst, href, hinst, hbranch⟩
    · exact agreement_conserves hs hfree href hinst hbranch hrecord
    · exact contribution_conserves hs hfree hposted hfound hbranch hrecord
    · unfold applyToInstallment at hbranch
      simp only [bind_eq_ok, orRefuse_eq_ok, Prod.exists] at hbranch
      obtain ⟨loan, -, locked, account, hlock, hbranch⟩ := hbranch
      split at hbranch
      · rename_i hversioned
        exact versioned_conserves hs hfree href hinst hversioned hlock hbranch hrecord
      · rename_i hlegacy
        exact legacy_conserves hs hfree href hinst hlegacy hlock hbranch hrecord

end Settle

section Run

theorem accounted_run (hs : Sound db) (ha : Accounted db) (ops : List (Int × Operation)) :
    Sound (run env db ops) ∧ Accounted (run env db ops) := by
  refine run_keeps ops ?_ hs ha
  intro x _ _ op _ y z _ hy hstep
  obtain ⟨new, hg⟩ := hstep.grows
  exact hy.grows hg

theorem posted_run (hs : Sound db) (hposted : Posted db s) (hmem : s ∈ db.settlements)
    (ops : List (Int × Operation)) : Posted (run env db ops) s := by
  have hkept : Sound (run env db ops) ∧ Posted (run env db ops) s ∧ s ∈ (run env db ops).settlements := by
    refine run_keeps (P := fun x => Posted x s ∧ s ∈ x.settlements) ops ?_ hs ⟨hposted, hmem⟩
    intro x _ _ op _ y z _ hy hstep
    obtain ⟨new, hg⟩ := hstep.grows
    exact ⟨hy.1.grows hy.2 hg, by rw [hg.settlements]; exact List.mem_append_left _ hy.2⟩
  exact hkept.2.1

/-- After any operations, a payment that is settled receives what it applies and what is left over,
applies its parts and no more than was owed, and is posted for what it applied, once and for good. -/
theorem settlement_conserves_money (hs : Sound db) (ha : Accounted db) (ops : List (Int × Operation))
    {paymentId : Nat} (hnone : (run env db ops).settlementOfPayment? paymentId = none)
    (h : settleConfirmedPixPayment env (run env db ops) clock paymentId c = .ok (db', s)) :
    ∃ payment, (run env db ops).payment? paymentId = some payment ∧
      Conserved env (run env db ops) payment c s ∧
      ∀ later, Posted (run env db' later) s := by
  obtain ⟨hsound, haccounted⟩ : Sound (run env db ops) ∧ Accounted (run env db ops) :=
    accounted_run hs ha ops
  obtain ⟨payment, hpayment, hconserved, hposted⟩ := settle_conserves hsound haccounted hnone h
  refine ⟨payment, hpayment, hconserved, fun later => ?_⟩
  obtain ⟨payment', hpayment', hid, ⟨hfound, -⟩ | ⟨-, -, new, hg, hnew, -⟩⟩ := settle_effect hsound h
  · rw [hnone] at hfound
    cases hfound
  · refine posted_run (hg.sound hsound) hposted ?_ later
    rw [hg.settlements, hnew]
    exact List.mem_append_right _ (List.mem_singleton_self s)

end Run

private def sampleLoan : Loan where
  id := 1
  memberId := 1
  principal := 10000
  principalSettledWithOwnBalance := 0
  calculationVersion := none
  status := .ACTIVE
  disbursedAt := some 0
  paidAt := none
  stateRevision := 0

private def sampleInstallment : LoanInstallment where
  id := 1
  loanId := 1
  number := 1
  dueDate := 20000
  principal := 10000
  interest := 1000
  amount := 11000
  paidAmount := 0
  penaltyAmount := 500
  paidPenaltyAmount := 0
  lateCharge := none
  paidAt := none
  status := .PENDING

private def samplePayment : Payment where
  id := 1
  provider := "mercado_pago"
  providerOrderId := none
  providerPaymentId := none
  amount := 11600
  status := "approved"
  externalReference := none
  pixTxid := none
  endToEndId := none
  providerStatusDetail := none
  confirmedAt := none
  expiresAt := none
  amountReceived := none
  ledgerPostedAt := none
  reference := some (.loanInstallment 1)
  attemptStatus := none
  calculatedForDate := none
  financialSnapshotJson := none
  snapshotHash := none
  reconciliationStatus := none

private def sampleDb : Db where
  members := [{ id := 1 }]
  loans := [sampleLoan]
  loanInstallments := [sampleInstallment]
  payments := [samplePayment]

private def sampleEnv : Env where
  sha256 := fun _ => ""
  lateChargeEffectiveDate := none

/-- A payment of 116.00 for an installment that owes 5.00, 10.00 and 100.00 leaves 1.00 over. -/
theorem sample_settlement_conserves_money : ∃ db' s,
    settleConfirmedPixPayment sampleEnv (run sampleEnv sampleDb [(0, .evidence 1 "approved" none)]) 5 1
      { source := "webhook" } = .ok (db', s) ∧
    s.amounts.excessAmount = 100 ∧ SoundAmounts s.amounts ∧ total (componentRows db' 1) = 1500 := by
  have hsound : Sound sampleDb := by
    constructor <;> first | decide | (constructor <;> decide)
  have haccounted : Accounted sampleDb := ⟨by simp [sampleDb], by simp [sampleDb]⟩
  obtain ⟨db', s, h, hid, hamounts, hobligation⟩ : ∃ db' s, settleConfirmedPixPayment sampleEnv
      (run sampleEnv sampleDb [(0, .evidence 1 "approved" none)]) 5 1 { source := "webhook" } =
        .ok (db', s) ∧ s.paymentId = 1 ∧ s.amounts = ⟨11600, 11500, 10000, 1000, 500, 100⟩ ∧
          s.obligation = .loanInstallment 1 :=
    ⟨_, _, rfl, rfl, rfl, rfl⟩
  obtain ⟨payment, -, hconserved, hposted⟩ :=
    settlement_conserves_money hsound haccounted [(0, .evidence 1 "approved" none)] (by decide) h
  refine ⟨db', s, h, by rw [hamounts], hconserved.balanced, ?_⟩
  have hcredited := (hposted []).credited
  rw [hid, dueToCaixinha, hobligation, hamounts] at hcredited
  exact hcredited

end Caixinha.Properties.SettlementConservation
