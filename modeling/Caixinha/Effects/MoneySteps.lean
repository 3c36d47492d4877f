import Caixinha.Effects.MemberMoney

/-! The money side of every operation, as one step or two. -/
namespace Caixinha.Effects

open Caixinha.Library Caixinha.Library.Table Fallible Caixinha.Model

section Settle
variable {env : Env} {db db' : Db} {clock effectiveAt received : Int} {payment : Payment}
  {c : Confirmation} {app : Application} {s : PaymentSettlement}

theorem ensureLoanCompletion_kept (db : Db) (clock : Int) (loan : Loan) :
    LoanKept loan (ensureLoanCompletion db clock loan) := by
  unfold ensureLoanCompletion
  dsimp only
  split <;> exact ⟨rfl, rfl, rfl⟩

theorem touchLoan_kept (loan : Loan) : LoanKept loan (touchLoan loan) := ⟨rfl, rfl, rfl⟩

theorem loanAfterVersioned_kept (db : Db) (clock effectiveAt : Int) (loan : Loan) :
    LoanKept loan (loanAfterVersioned db clock effectiveAt loan) := by
  have hdone := ensureLoanCompletion_kept db clock loan
  unfold loanAfterVersioned touchLoan
  split <;> exact ⟨hdone.id_eq, hdone.memberId, hdone.principal⟩

/-- What a branch moves before its evidence is recorded: it leaves at most one credit, and none when
a patrimonial one follows. -/
structure AppMoved (db : Db) (app : Application) : Prop where
  installments : Keyed LoanInstallment.id app.db.loanInstallments
  accounts : ∃ added, app.db.accounts = db.accounts ++ added
  loans : LoansKept db app.db
  entries : app.db.memberEntries = db.memberEntries ∨ (app.becamePaid = none ∧
    ∃ e account amount, app.db.memberEntries = db.memberEntries ++ [e] ∧
      EntryOf account (principalCredit payment amount) e)
  ledger : ∃ rows, app.db.ledgerEntries = db.ledgerEntries ++ rows ∧
    ∀ e ∈ rows, e.referenceType ≠ .LOAN_DISBURSEMENT

private theorem PrincipalEntries.one {account : MemberFinancialAccount} {amount : Int}
    {entries : List MemberFinancialEntry} (h : PrincipalEntries account payment amount entries) :
    entries = [] ∨ ∃ e, entries = [e] ∧ EntryOf account (principalCredit payment amount) e := by
  cases h with
  | nothing => exact .inl rfl
  | credited _ he => exact .inr ⟨_, rfl, he⟩

private theorem ComponentRows.not_disbursement {entries rows : List LedgerEntry}
    {type : LedgerReferenceType} {amount : Int} (h : ComponentRows entries payment type amount rows)
    (htype : type ≠ .LOAN_DISBURSEMENT) : ∀ e ∈ rows, e.referenceType ≠ .LOAN_DISBURSEMENT := by
  intro e he
  rw [(h.forall e he).2]
  exact htype

theorem appMoved_installment {inst : LoanInstallment} (hs : Sound db)
    (happ : applyToInstallment env db clock effectiveAt received c.confirmedAt payment inst = .ok app) :
    @AppMoved payment db app := by
  obtain ⟨added, happlied, -, -, hbecame, -⟩ := installment_applied hs happ
  have hkeyed := keyed_of_keys happlied.installments hs.installments
  unfold applyToInstallment at happ
  simp only [bind_eq_ok, orRefuse_eq_ok, Prod.exists] at happ
  obtain ⟨loan, hloan, locked, account, hlock, happ⟩ := happ
  obtain ⟨accounts, rfl, -⟩ := lockMemberFinancialAccount_spec hlock
  have hloan' : db.loan? loan.id = some loan := by
    have hid : loan.id = inst.loanId := lookup_key hloan
    rw [hid]
    exact hloan
  split at happ
  · obtain ⟨at_, charged, y, due, a, after, interestRows, penaltyRows, entries, loanAfter, evidence, -,
      -, hcharged, -, -, -, -, -, hinterest, hpenalty, hentries, hloanAfter, -, rfl⟩ :=
      applyToVersionedInstallment_spec happ
    have hcharge := hcharged.charged hs.installments
    refine ⟨hkeyed, ⟨accounts, by rw [hcharge.only]⟩, .inr ⟨loan, loanAfter, hloan', ?_, ?_⟩, ?_, ?_⟩
    · rw [hloanAfter]
      exact loanAfterVersioned_kept _ _ _ _
    · rw [hcharge.only]
    · rcases hentries.one with rfl | ⟨e, rfl, he⟩
      · exact .inl (by rw [hcharge.only]; simp)
      · exact .inr ⟨rfl, e, account, _, by rw [hcharge.only], he⟩
    · refine ⟨interestRows ++ penaltyRows, by rw [hcharge.only, List.append_assoc], fun e he => ?_⟩
      rcases List.mem_append.mp he with he | he
      · exact hinterest.not_disbursement (by simp) e he
      · exact hpenalty.not_disbursement (by simp) e he
  · obtain ⟨after, penalty, base, penaltyRows, interestRows, entries, loanAfter, evidence, -, -,
      hpenalty, hinterest, hentries, hloanAfter, -, rfl⟩ := applyToLegacyInstallment_spec happ
    refine ⟨hkeyed, ⟨accounts, rfl⟩, .inr ⟨loan, loanAfter, hloan', ?_, rfl⟩, ?_, ?_⟩
    · rw [hloanAfter]
      exact (ensureLoanCompletion_kept _ _ _).trans (touchLoan_kept _)
    · rcases hentries.one with rfl | ⟨e, rfl, he⟩
      · exact .inl (by simp)
      · exact .inr ⟨rfl, e, account, _, rfl, he⟩
    · refine ⟨penaltyRows ++ interestRows, by simp, fun e he => ?_⟩
      rcases List.mem_append.mp he with he | he
      · exact hpenalty.not_disbursement (by simp) e he
      · exact hinterest.not_disbursement (by simp) e he

theorem appMoved_contribution {x : Contribution} (hs : Sound db) (hposted : payment.ledgerPostedAt = none)
    (happ : applyToContribution env db clock effectiveAt received payment x = .ok app) :
    @AppMoved payment db app := by
  obtain ⟨locked, account, rows, hlock, -, hrows, rfl⟩ := applyToContribution_spec hposted happ
  obtain ⟨accounts, rfl, -⟩ := lockMemberFinancialAccount_spec hlock
  refine ⟨hs.installments, ⟨accounts, rfl⟩, .inl rfl, .inl rfl, rows, rfl, ?_⟩
  rcases hrows with ⟨rfl, -⟩ | ⟨e, rfl, -, -, -, htype, -⟩
  · simp
  · simp [htype]

theorem appMoved_agreement {inst : AgreementInstallment} {agreement : CollectionAgreement} (hs : Sound db)
    (happ : applyToAgreementInstallment env db clock effectiveAt received payment agreement inst =
      .ok app) : @AppMoved payment db app := by
  obtain ⟨row, after, agreementAfter, -, -, -, -, -, htype, -, rfl⟩ := applyToAgreementInstallment_spec happ
  exact ⟨hs.installments, ⟨[], by simp⟩, .inl rfl, .inl rfl, [row], rfl, by simp [htype]⟩

/-- A settlement adds one credit at most. -/
theorem moved_settle {paymentId : Nat} (hs : Sound db)
    (h : settleConfirmedPixPayment env db clock paymentId c = .ok (db', s)) : Moved db db' := by
  obtain ⟨payment, -, -, ⟨-, rfl⟩ | ⟨-, hposted, -, app, happ, hrecord⟩⟩ := settle_cases h
  · exact .aside rfl rfl rfl rfl
  · have hmoved : @AppMoved payment db app := by
      rcases applyToObligation_cases happ with ⟨inst, agreement, -, -, -, hbranch⟩ |
        ⟨x, -, hbranch⟩ | ⟨inst, -, -, hbranch⟩
      · exact appMoved_agreement hs hbranch
      · exact appMoved_contribution hs hposted hbranch
      · exact appMoved_installment hs hbranch
    obtain ⟨credit, hcredit, -, haccounts, hledger, hentries⟩ :=
      recordSettlement_money hmoved.installments hrecord
    obtain ⟨charged, _, -, -, -, -, hdb⟩ := recordSettlement_spec hmoved.installments hrecord
    obtain ⟨rows, hrows, hkinds⟩ := hmoved.ledger
    refine ⟨haccounts ▸ hmoved.accounts, ?_, ?_, rows, hledger.trans hrows, .inl hkinds⟩
    · have hloans : db'.loans = app.db.loans := by rw [hdb]
      rw [LoansKept, hloans]
      exact hmoved.loans
    · cases hcredit with
      | nothing =>
        rw [List.append_nil] at hentries
        rcases hmoved.entries with hsame | ⟨-, e, account, amount, hone, he⟩
        · exact .inl (hentries.trans hsame)
        · refine .inr ⟨e, hentries.trans hone, .credit he.direction ?_ ?_⟩
          · simp [he.entryType, principalCredit]
          · simp [he.entryType, principalCredit, ownBalancePayments]
      | @credited account x e hbecame he =>
        rcases hmoved.entries with hsame | ⟨hnone, -⟩
        · refine .inr ⟨e, by rw [hentries, hsame], .credit he.direction ?_ ?_⟩
          · simp [he.entryType, contributionCredit]
          · simp [he.entryType, contributionCredit, ownBalancePayments]
        · rw [hnone] at hbecame
          cases hbecame

end Settle

section Reverse
variable {env : Env} {db db' : Db} {clock : Int} {r : PaymentReversal}

private theorem compensations_not_disbursement {pairs : List (LedgerEntry × LedgerEntry)}
    (hall : ∀ pair ∈ pairs, Compensates pair.1 pair.2) :
    ∀ e ∈ pairs.map Prod.snd, e.referenceType ≠ .LOAN_DISBURSEMENT := by
  intro e he
  obtain ⟨o, -, hc⟩ := mem_pairs_snd rfl hall he
  simp [hc.type]

theorem moved_reverseLoan {payment : Payment} {settlement : PaymentSettlement} {adminId id : Nat}
    {reason : String} {reversedAt : Int} (hs : Sound db)
    (hobligation : settlement.obligation = .loanInstallment id)
    (h : reverseLoanPayment env db clock payment settlement id adminId reason reversedAt = .ok (db', r)) :
    Moved db db' ∧ db'.payments = db.payments := by
  obtain ⟨e, locked, account, plan, x, -, hlock, hplan, hx, hwrite⟩ := reverseLoanPayment_spec h
  obtain ⟨accounts, rfl, -, hholder, -⟩ := lockMemberFinancialAccount_spec hlock
  obtain rfl : plan.inst.id = id := lookup_key hplan.installment
  have hkeyed : Keyed LoanInstallment.id
      { db with accounts := db.accounts ++ accounts }.loanInstallments := hs.installments
  obtain ⟨pairs, components, entries, adjusted, snapshot, -, -, -, -, -, hall, hentries, -, -, -, rfl⟩ :=
    writeLoanReversal_spec hkeyed hx.id_eq hobligation hwrite
  have hloan : db.loan? plan.loan.id = some plan.loan := by
    have hid : plan.loan.id = plan.inst.loanId := lookup_key hplan.loan
    rw [hid]
    exact hplan.loan
  refine ⟨⟨⟨accounts, rfl⟩, .inr ⟨plan.loan, restoredLoan plan.loan e, hloan, ⟨rfl, rfl, rfl⟩, rfl⟩, ?_, _,
    rfl,
    .inl (compensations_not_disbursement hall)⟩, rfl⟩
  rcases hentries with ⟨-, rfl⟩ | ⟨entry, horiginal, rfl, hentry⟩
  · exact .inl (List.append_nil _)
  · refine .inr ⟨entry, rfl, .principalReversal hentry.direction hentry.entryType ?_⟩
    rcases findPrincipalEntry_eq_ok.mp hplan.principal with ⟨-, hnone, -⟩ | ⟨-, o, -, -, hbalance⟩
    · rw [hnone] at horiginal
      cases horiginal
    · rw [getMemberFinancialPosition_eq hholder] at hbalance
      have hamount : entry.amount.val = x.amounts.principalApplied := hentry.amount
      have haccount : entry.accountId = account.id := hentry.account
      rw [hamount, hx.amounts, haccount]
      exact hbalance

theorem moved_reverse {paymentId adminId : Nat} {reason : String} {now : Option Timestamp} (hs : Sound db)
    (h : reversePayment env db clock paymentId adminId reason now = .ok (db', r)) :
    Moved db db' ∧ db'.payments = db.payments := by
  obtain ⟨payment, -, -, ⟨-, rfl⟩ | ⟨-, -, settlement, -, hbranch⟩⟩ := reverse_cases h
  · exact ⟨.aside rfl rfl rfl rfl, rfl⟩
  unfold reverseObligation at hbranch
  split at hbranch
  · rename_i id hobligation
    exact moved_reverseLoan hs hobligation hbranch
  · obtain ⟨e, agreement, inst, original, x, -, -, -, hx, hwrite⟩ :=
      reverseAgreementPayment_spec hs.ledger hbranch
    obtain ⟨compensating, components, snapshot, -, -, -, -, hc, -, rfl⟩ :=
      writeAgreementReversal_spec hx.id_eq hwrite
    exact ⟨⟨⟨[], by simp⟩, .inl rfl, .inl rfl, [compensating], rfl, .inl (by simp [hc.type])⟩, rfl⟩
  · obtain ⟨x, locked, account, credit, originals, pairs, components, entries, -, hreversible, -, -, hall,
      -, hentries, rfl⟩ := reverseContributionPayment_spec hbranch
    obtain ⟨accounts, rfl, -⟩ := lockMemberFinancialAccount_spec hreversible.lock
    refine ⟨⟨⟨accounts, rfl⟩, .inl rfl, ?_, _, rfl, .inl (compensations_not_disbursement hall)⟩, rfl⟩
    rcases hentries with ⟨-, rfl⟩ | ⟨e, rfl, -, hentry⟩
    · exact .inl (List.append_nil _)
    · exact .inr ⟨e, rfl, .contributionReversal hentry.direction hentry.entryType⟩

end Reverse

section Operations
variable {env : Env} {db db' : Db} {clock : Int}

theorem moved_createExpense {amount : Int} (h : createExpense env db clock amount = .ok db') :
    Moved db db' ∧ db'.payments = db.payments := by
  unfold createExpense at h
  simp only [bind_eq_ok, pure_eq_ok, Prod.exists] at h
  obtain ⟨posted, e, hpost, rfl⟩ := h
  obtain ⟨rfl, -, -, -, -, htype, -⟩ := postEntry_spec hpost
  exact ⟨⟨⟨[], by simp⟩, .inl rfl, .inl rfl, [e], rfl, .inl (by simp [htype])⟩, rfl⟩

theorem moved_ledgerReverse {entryId : Nat} {reason : String}
    (h : ledgerReverse env db clock entryId reason = .ok db') :
    Moved db db' ∧ db'.payments = db.payments := by
  unfold ledgerReverse reverseEntry at h
  simp only [bind_eq_ok, pure_eq_ok, orRefuse_eq_ok, refuseIf_eq_ok, Prod.exists, exists_and_left,
    exists_const] at h
  obtain ⟨original, -, posted, e, ⟨-, -, hpost⟩, rfl⟩ := h
  obtain ⟨rfl, -, hc⟩ := compensates_of_postEntry hpost
  exact ⟨⟨⟨[], by simp⟩, .inl rfl, .inl rfl, [e], rfl, .inl (by simp [hc.type])⟩, rfl⟩

theorem Charged.moved_put {id : Nat} {charged : Db} (h : Charged id db charged) (p : Payment) :
    Moved db (charged.putPayment p) := by
  refine .aside ?_ ?_ ?_ ?_ <;> rw [Db.putPayment, h.only]

theorem moved_reserve {installmentId : Nat} {now : Option Timestamp} {reservation : Reservation}
    (hs : Sound db) (h : reserve env db clock installmentId now = .ok reservation) :
    Moved db reservation.db := by
  unfold reserve at h
  simp only [bind_eq_ok, refuseIf_eq_ok, lockInstallment, orRefuse_eq_ok, Prod.exists,
    exists_and_left, exists_const] at h
  obtain ⟨inst, hinst, -, charged, due, snapshot, hsnapshot, -, h⟩ := h
  have hcharged := charged_attemptSnapshot hs hsnapshot
  have hinsert : ∀ (payments : List Payment) (attempt : Payment),
      Moved db (insertAttempt { charged with payments } installmentId attempt).db := by
    intro payments attempt
    unfold insertAttempt
    split <;> refine .aside ?_ ?_ ?_ ?_ <;> dsimp only <;> rw [hcharged.only]
  split at h
  · rw [pure_eq_ok] at h
    exact h ▸ hinsert charged.payments _
  · simp only [bind_eq_ok] at h
    obtain ⟨decision, -, h⟩ := h
    split at h
    · rw [pure_eq_ok] at h
      subst h
      refine .aside ?_ ?_ ?_ ?_ <;> rw [hcharged.only]
    · simp only [bind_eq_ok, pure_eq_ok] at h
      obtain ⟨retired, -, rfl⟩ := h
      exact hinsert _ _

theorem moved_simple {op : Operation} (h : attempt env db clock op = .ok db')
    (hop : (∃ id status received, op = .evidence id status received) ∨ (∃ id reason, op = .cancel id reason) ∨
      (∃ id result, op = .bindProvider id result) ∨ ∃ id, op = .markAmbiguous id) : Moved db db' := by
  rcases hop with ⟨id, status, received, rfl⟩ | ⟨id, reason, rfl⟩ | ⟨id, result, rfl⟩ | ⟨id, rfl⟩
  all_goals obtain rfl := Except.ok.inj h
  · unfold keepEvidence
    split <;> exact .aside rfl rfl rfl rfl
  · unfold cancelContribution
    split
    · exact .aside rfl rfl rfl rfl
    · split <;> exact .aside rfl rfl rfl rfl
  · unfold bindProvider
    split
    · exact .aside rfl rfl rfl rfl
    · split <;> exact .aside rfl rfl rfl rfl
  · unfold markAmbiguous
    split
    · exact .aside rfl rfl rfl rfl
    · split <;> exact .aside rfl rfl rfl rfl

/-- What an approval puts aside, and what it settles. -/
theorem moves_approve {paymentId : Nat} {confirmedAt : Option Timestamp} {payload : RemotePayload}
    {result : Option PaymentSettlement} (hs : Sound db)
    (h : approveOrReconcile env db clock paymentId confirmedAt payload = .ok (db', result)) :
    Relation.ReflTransGen Moved db db' := by
  obtain ⟨found, hfound, happroval⟩ := approve_cases h
  cases happroval with
  | aside status => exact .single (.aside rfl rfl rfl rfl)
  | expired => exact .single (.aside rfl rfl rfl rfl)
  | mismatch hquoted => exact .single ((hquoted.charges hs).moved_put _)
  | already hquoted => exact .single ((hquoted.charges hs).moved_put _)
  | @settled id confirmed charged due snapshot _ s hquoted _ _ hsettle =>
    have hcharged := hquoted.charges hs
    obtain rfl : found.id = paymentId := lookup_key hfound
    have hstep : Step (fun p => p.id = found.id) False (fun _ => False) db
        (charged.putPayment (approvedAttempt (confirmedBy found confirmedAt))) :=
      step_chargedPut hs hcharged hfound rfl rfl ⟨fun h => h, nofun⟩
    exact .tail (.single (hcharged.moved_put _)) (moved_settle (hstep.sound hs) hsettle)

/-- The money side of one successful operation. -/
theorem moves_attempt {op : Operation} (hs : Sound db) (h : attempt env db clock op = .ok db') :
    Relation.ReflTransGen Moved db db' := by
  cases op with
  | settle paymentId c =>
    obtain ⟨⟨final, s⟩, hsettle, rfl⟩ := map_eq_ok.mp h
    exact .single (moved_settle hs hsettle)
  | reverse paymentId adminId reason now =>
    obtain ⟨⟨final, r⟩, hreverse, rfl⟩ := map_eq_ok.mp h
    exact .single (moved_reverse hs hreverse).1
  | evidence paymentId status received => exact .single (moved_simple h (.inl ⟨_, _, _, rfl⟩))
  | cancel contributionId reason => exact .single (moved_simple h (.inr (.inl ⟨_, _, rfl⟩)))
  | reserve installmentId now =>
    obtain ⟨reservation, hreserve, rfl⟩ := map_eq_ok.mp h
    exact .single (moved_reserve hs hreserve)
  | bindProvider attemptId result => exact .single (moved_simple h (.inr (.inr (.inl ⟨_, _, rfl⟩))))
  | markAmbiguous attemptId => exact .single (moved_simple h (.inr (.inr (.inr ⟨_, rfl⟩))))
  | approve paymentId confirmedAt payload =>
    obtain ⟨⟨final, result⟩, happrove, rfl⟩ := map_eq_ok.mp h
    exact moves_approve hs happrove
  | settleWithOwnBalance loanId financialAt =>
    obtain ⟨⟨final, result⟩, hsettle, rfl⟩ := map_eq_ok.mp h
    obtain ⟨loan, accounts, account, entries, hused⟩ := settleLoanWithOwnBalance_spec hsettle
    exact .single (hused.moved (by simp [ownBalancePayments]))
  | renegotiateWithOwnBalance loanId amount =>
    obtain ⟨⟨final, result⟩, hrenegotiate, rfl⟩ := map_eq_ok.mp h
    obtain ⟨loan, accounts, account, entries, hused⟩ := renegotiateLoanWithOwnBalance_spec hrenegotiate
    exact .single (hused.moved (by simp [ownBalancePayments]))
  | releaseLoan loanId =>
    obtain ⟨⟨final, released⟩, hrelease, rfl⟩ := map_eq_ok.mp h
    obtain ⟨loan, accounts, account, entries, rows, -, hreleased⟩ := releaseLoan_spec hrelease
    exact .single hreleased.moved
  | expense amount => exact .single (moved_createExpense h).1
  | ledgerReverse entryId reason => exact .single (moved_ledgerReverse h).1

end Operations

section Run
variable {env : Env} {db : Db}

theorem sound_execute (hs : Sound db) (op : Int × Operation) : Sound (execute env db op) :=
  (steps_keep (P := fun _ => True) (steps_execute hs op) (fun _ _ _ _ _ => trivial) hs trivial).1

theorem moves_keep {db' : Db} {P : Db → Prop} (hmove : ∀ x y, Moved x y → P x → P y)
    (hmoves : Relation.ReflTransGen Moved db db') (h : P db) : P db' := by
  induction hmoves with
  | refl => exact h
  | tail _ hlast ih => exact hmove _ _ hlast ih

/-- What every money step keeps holds after any operations. -/
theorem run_moves {P : Db → Prop} (hmove : ∀ x y, Moved x y → P x → P y) (hs : Sound db) (h : P db)
    (ops : List (Int × Operation)) : Sound (run env db ops) ∧ P (run env db ops) := by
  induction ops generalizing db with
  | nil => exact ⟨hs, h⟩
  | cons op ops ih =>
    have hkept : P (execute env db op) := by
      unfold execute
      cases hop : attempt env db op.1 op.2 with
      | error e => exact h
      | ok db' => exact moves_keep hmove (moves_attempt hs hop) h
    exact ih (sound_execute hs op) hkept

end Run

end Caixinha.Effects
