import Caixinha.Effects.Attempts
import Caixinha.Effects.Reversed
import Mathlib.Logic.Relation

/-! Every operation as a few steps: settlements, reversals and cancellations of contributions, and
steps aside of all contributions. -/
namespace Caixinha.Effects

open Caixinha.Library Caixinha.Library.Table Fallible Caixinha.Model

/-- One step: it acts on the payments `acted` and writes the contributions `about`. -/
inductive Step (acted : Payment → Prop) (direct : Prop) (about : Nat → Prop) (db db' : Db) : Prop where
  | aside {new} (grows : Grows acted db db' new) (aside : Aside direct db db' new)
  | settled {payment x effectiveAt s new} (found : db.payment? payment.id = some payment)
    (unsettled : db.settlementOfPayment? payment.id = none) (grows : Grows acted db db' new)
    (settlement : new.settlements = [s]) (paymentId : s.paymentId = payment.id)
    (settled : ContributionSettled db payment x effectiveAt db' s new) (about : about x.id)
  | reversed {payment settlement x reversedAt r new account credit originals}
    (found : db.payment? payment.id = some payment)
    (settled : db.settlementOfPayment? payment.id = some settlement)
    (grows : Grows acted db db' new) (reversal : new.reversals = [r])
    (settlementId : r.settlementId = settlement.id)
    (reversed : ContributionReversed db payment settlement x reversedAt db' r new account credit
      originals) (about : about x.id)
  | cancelled {x reason t} (row : db.contribution? x.id = some x) (live : x.cancelledAt = none)
    (unpaid : contributionPaidAmount x < x.amount) (grows : Grows acted db db' {})
    (same : db' = db.putContribution (cancelledContribution x reason t))
    (about : about x.id)

/-- The payments an operation may change. -/
def actedBy : Operation → Payment → Prop
  | .settle id _ | .evidence id _ _ | .bindProvider id _ | .markAmbiguous id | .approve id _ _ =>
    fun p => p.id = id
  | .reserve _ _ => fun p => ∃ id, p.reference = some (.loanInstallment id)
  | _ => noPayment

/-- A ledger reversal of the row of a contribution payment, which leaves the contribution as it is. -/
def directly (db : Db) : Operation → Prop
  | .ledgerReverse entryId _ =>
    ∃ o, db.ledgerEntry? entryId = some o ∧ o.referenceType = .CONTRIBUTION_PAYMENT
  | _ => False

/-- The contributions the payment `id` refers to. -/
def referredBy (db : Db) (id k : Nat) : Prop :=
  ∃ payment x, db.payment? id = some payment ∧ x ∈ db.contributions ∧ x.id = k ∧ refersTo x payment

/-- The contributions an operation may change. -/
def aboutOf (db : Db) : Operation → Nat → Prop
  | .settle id _ | .reverse id _ _ _ | .approve id _ _ => referredBy db id
  | .cancel id _ => fun k => k = id
  | _ => fun _ => False

section Simple
variable {env : Env} {db db' : Db} {clock : Int} {acted : Payment → Prop} {direct : Prop}
  {about : Nat → Prop}

/-- A step that only changes payments, loans, installments and their charges. -/
theorem Step.unposted (hpayments : PaymentsKept acted db.payments db'.payments)
    (hinstallments : db'.loanInstallments.map LoanInstallment.id =
      db.loanInstallments.map LoanInstallment.id)
    (h : db' = { db with payments := db'.payments, loanInstallments := db'.loanInstallments
                         lateChargeEvents := db'.lateChargeEvents, loans := db'.loans }) :
    Step acted direct about db db' := by
  have hgrows : Grows acted db db' {} :=
    { users := by rw [h], members := by rw [h], contributions := by rw [h]
      installments := hinstallments, payments := hpayments, accounts := by rw [h]; simp
      entries := by rw [h]; simp, ledger := by rw [h]; simp, postings := .nil _
      settlements := by rw [h]; simp, settlement := by simp, reversals := by rw [h]; simp
      reversal := by simp, own := .aside (by simp) (by simp) }
  exact .aside hgrows ⟨by rw [h], by simp, by simp, by simp, by simp, by simp⟩

theorem Step.refl (db : Db) : Step acted direct about db db :=
  .unposted (PaymentsKept.refl _ _) rfl rfl

theorem Step.grows (h : Step acted direct about db db') : ∃ new, Grows acted db db' new := by
  cases h with
  | aside hg => exact ⟨_, hg⟩
  | settled _ _ hg => exact ⟨_, hg⟩
  | reversed _ _ hg => exact ⟨_, hg⟩
  | cancelled _ _ _ hg => exact ⟨_, hg⟩

theorem Step.sound (h : Step acted direct about db db') (hs : Sound db) : Sound db' := by
  obtain ⟨new, hg⟩ := h.grows
  exact hg.sound hs

theorem step_putPayment {p x : Payment} (hs : Sound db) (hx : db.payment? p.id = some x)
    (href : p.reference = x.reference) (honward : Onward x p) (hacted : acted x) :
    Step acted direct about db (db.putPayment p) :=
  .unposted (PaymentsKept.replace hs.payments hx href honward hacted) rfl rfl

theorem step_charged {id : Nat} (h : Charged id db db') : Step acted direct about db db' := by
  refine .unposted ?_ h.installments_keys ?_
  · rw [h.only]
    exact PaymentsKept.refl _ _
  · rw [h.only]

theorem step_keepEvidence {id : Nat} (hs : Sound db) (status : String) (received : Option Int) :
    Step (fun p => p.id = id) direct about db (keepEvidence db id status received) := by
  unfold keepEvidence
  split
  · exact .refl db
  · rename_i p hp
    obtain rfl : p.id = id := lookup_key hp
    exact step_putPayment hs hp rfl ⟨id, id⟩ rfl

theorem step_bindProvider {id : Nat} (hs : Sound db) (result : ProviderResult) :
    Step (fun p => p.id = id) direct about db (bindProvider db id result) := by
  unfold bindProvider
  split
  · exact .refl db
  · rename_i p hp
    obtain rfl : p.id = id := lookup_key hp
    split
    · exact .refl db
    · exact step_putPayment hs hp rfl ⟨id, id⟩ rfl

theorem step_markAmbiguous {id : Nat} (hs : Sound db) :
    Step (fun p => p.id = id) direct about db (markAmbiguous db id) := by
  unfold markAmbiguous
  split
  · exact .refl db
  · rename_i p hp
    obtain rfl : p.id = id := lookup_key hp
    split
    · exact .refl db
    · exact step_putPayment hs hp rfl ⟨id, id⟩ rfl

theorem step_cancelContribution {id : Nat} {reason : String} {t : Int} :
    Step acted direct (fun k => k = id) db (cancelContribution db id reason t) := by
  unfold cancelContribution
  split
  · exact .refl db
  · rename_i x hx
    split
    · exact .refl db
    · rename_i hnot
      obtain ⟨hlive, hopen⟩ := not_or.mp hnot
      have hgrows : Grows acted db (db.putContribution (cancelledContribution x reason t)) {} :=
        { users := rfl, members := rfl, contributions := keys_replace, installments := rfl
          payments := PaymentsKept.refl _ _, accounts := by simp [Db.putContribution]
          entries := by simp [Db.putContribution], ledger := by simp [Db.putContribution]
          postings := .nil _, settlements := by simp [Db.putContribution], settlement := by simp
          reversals := by simp [Db.putContribution], reversal := by simp
          own := .aside (by simp) (by simp) }
      have hid : x.id = id := lookup_key hx
      exact .cancelled (hid ▸ hx) (by simpa using hlive) (not_le.mp hopen) hgrows rfl hid

end Simple

section Attempts
variable {env : Env} {db db' : Db} {clock : Int} {direct : Prop} {about : Nat → Prop}

theorem step_reserve {installmentId : Nat} {now : Option Timestamp} {reservation : Reservation}
    (hs : Sound db) (h : reserve env db clock installmentId now = .ok reservation) :
    Step (fun p => ∃ id, p.reference = some (.loanInstallment id)) direct about db
      reservation.db := by
  unfold reserve at h
  simp only [bind_eq_ok, refuseIf_eq_ok, lockInstallment, orRefuse_eq_ok, Prod.exists,
    exists_and_left, exists_const] at h
  obtain ⟨inst, hinst, -, charged, due, snapshot, hsnapshot, -, h⟩ := h
  have hcharged := charged_attemptSnapshot hs hsnapshot
  have hpayments : charged.payments = db.payments := by rw [hcharged.only]
  split at h
  · rename_i hnone
    rw [pure_eq_ok] at h
    subst h
    unfold insertAttempt
    rw [hnone]
    refine .unposted ?_ hcharged.installments_keys ?_
    · rw [hpayments]
      exact .reserved (forall₂_samePayment_refl _ _) (congrArg (nextKey Payment.id) hpayments) rfl
    · dsimp only
      rw [hcharged.only]
  · rename_i old hold
    simp only [bind_eq_ok] at h
    obtain ⟨decision, -, h⟩ := h
    split at h
    · rw [pure_eq_ok] at h
      subst h
      exact step_charged hcharged
    · simp only [bind_eq_ok, pure_eq_ok] at h
      obtain ⟨retired, hretired, rfl⟩ := h
      obtain ⟨hmem, hpending⟩ := pendingAttempt?_spec hold
      rw [isPendingAttempt, decide_eq_true_eq] at hpending
      obtain ⟨href, hpending⟩ := hpending
      obtain ⟨rfl, -⟩ := transition_spec hretired
      have hlookup : charged.payment? old.id = some old :=
        lookup_of_mem (by rw [hpayments]; exact hs.payments) hmem
      have hkept : ∀ retired : Payment, retired.id = old.id → retired.reference = old.reference →
          Onward old retired →
          List.Forall₂ (SamePayment fun p => ∃ id, p.reference = some (.loanInstallment id))
            db.payments (charged.putPayment retired).payments := by
        intro retired hid hsame honward
        rw [← hpayments]
        exact forall₂_replace_payment (by rw [hpayments]; exact hs.payments) (hid ▸ hlookup) hsame
          honward ⟨installmentId, href⟩
      have hkeys : ∀ retired, nextKey Payment.id (charged.putPayment retired).payments =
          nextKey Payment.id db.payments := by
        intro retired
        rw [← hpayments]
        exact nextKey_of_keys keys_replace
      unfold insertAttempt
      split
      · refine .unposted (.same (hkept _ rfl rfl ⟨id, fun _ => hpending⟩)) hcharged.installments_keys ?_
        rw [Db.putPayment, hcharged.only]
      · refine .unposted (.reserved (hkept _ rfl rfl ⟨id, fun _ => hpending⟩) (hkeys _) rfl) hcharged.installments_keys ?_
        dsimp only
        rw [Db.putPayment, hcharged.only]

theorem step_chargedPut {id k : Nat} {charged : Db} {p x : Payment} (hs : Sound db)
    (hcharged : Charged id db charged) (hx : db.payment? k = some x) (hid : p.id = k)
    (href : p.reference = x.reference) (honward : Onward x p) :
    Step (fun y => y.id = k) direct about db (charged.putPayment p) := by
  have hpayments : charged.payments = db.payments := by rw [hcharged.only]
  subst hid
  refine .unposted ?_ hcharged.installments_keys ?_
  · rw [Db.putPayment, hpayments]
    exact PaymentsKept.replace hs.payments hx href honward (lookup_key hx)
  · rw [Db.putPayment, hcharged.only]

theorem Quoted.charges {payment : Payment} {confirmedAt : Option Timestamp} {id : Nat}
    {confirmed : Timestamp} {charged : Db} {due : LoanInstallmentObligation} {snapshot : Json.Value}
    (hs : Sound db) (h : Quoted env db payment confirmedAt id confirmed charged due snapshot) :
    Charged id db charged := by
  obtain ⟨inst, hinst, hquote⟩ := h.quote
  obtain rfl : inst.id = id := lookup_key hinst
  exact charged_attemptSnapshot hs hquote

end Attempts

section Settle
variable {env : Env} {db db' : Db} {clock : Int} {c : Confirmation} {s : PaymentSettlement}
  {about : Nat → Prop}

theorem step_settle {paymentId : Nat} (hs : Sound db)
    (h : settleConfirmedPixPayment env db clock paymentId c = .ok (db', s))
    (habout : ∀ k, referredBy db paymentId k → about k) :
    Step (fun p => p.id = paymentId) False about db db' := by
  obtain ⟨payment, hpayment, hid, ⟨-, rfl⟩ | ⟨hnone, -, new, hgrows, hnew, hpaymentId, heffect⟩⟩ :=
    settle_effect hs h
  · exact .refl _
  · subst hid
    rcases heffect with ⟨x, hsettled⟩ | haside
    · obtain ⟨hmem, href⟩ := lockedContribution_some hsettled.found
      exact .settled hpayment hnone hgrows hnew hpaymentId hsettled
        (habout _ ⟨payment, x, hpayment, hmem, rfl, href⟩)
    · exact .aside hgrows haside

theorem step_reverse {paymentId adminId : Nat} {reason : String} {now : Option Timestamp}
    {r : PaymentReversal} (hs : Sound db)
    (h : reversePayment env db clock paymentId adminId reason now = .ok (db', r)) :
    Step noPayment False (referredBy db paymentId) db db' := by
  obtain ⟨payment, hpayment, hid, ⟨-, rfl⟩ | ⟨-, -, settlement, new, hsettlement, hgrows, hnew,
    hreversal, heffect⟩⟩ := reverse_effect hs h
  · exact .refl _
  · subst hid
    rcases heffect with ⟨x, account, credit, originals, hreversed⟩ | haside
    · exact .reversed hpayment hsettlement hgrows hnew hreversal.settlementId hreversed
        ⟨payment, x, hpayment, lookup_mem hreversed.row, rfl,
          checkContributionReference_refersTo hreversed.reference⟩
    · exact .aside hgrows haside

/-- Both what an approval puts aside and what it settles. -/
theorem steps_approve {paymentId : Nat} {confirmedAt : Option Timestamp} {payload : RemotePayload}
    {result : Option PaymentSettlement} (hs : Sound db)
    (h : approveOrReconcile env db clock paymentId confirmedAt payload = .ok (db', result)) :
    Relation.ReflTransGen (Step (fun p => p.id = paymentId) False (referredBy db paymentId)) db db' := by
  obtain ⟨found, hfound, happroval⟩ := approve_cases h
  obtain rfl : found.id = paymentId := lookup_key hfound
  cases happroval with
  | aside status => exact .single (step_putPayment hs hfound rfl ⟨id, id⟩ rfl)
  | expired => exact .single (step_putPayment hs hfound rfl ⟨id, nofun⟩ rfl)
  | mismatch hquoted => exact .single (step_chargedPut hs (hquoted.charges hs) hfound rfl rfl ⟨id, id⟩)
  | already hquoted => exact .single (step_chargedPut hs (hquoted.charges hs) hfound rfl rfl ⟨id, id⟩)
  | @settled id confirmed charged due snapshot _ s hquoted _ _ hsettle =>
    have hcharged := hquoted.charges hs
    have hstep : Step (fun p => p.id = found.id) False (referredBy db found.id) db
        (charged.putPayment (approvedAttempt (confirmedBy found confirmedAt))) :=
      step_chargedPut hs hcharged hfound rfl rfl ⟨fun h => h, nofun⟩
    have hs' := hstep.sound hs
    have hcontributions : charged.contributions = db.contributions := by rw [hcharged.only]
    have hlookup : (charged.putPayment (approvedAttempt (confirmedBy found confirmedAt))).payment?
        found.id = some (approvedAttempt (confirmedBy found confirmedAt)) := by
      have hcharge : charged.payment? found.id = some found := by
        rw [Db.payment?, hcharged.only]
        exact hfound
      exact lookup_replace_self hcharge
    refine .tail (.single hstep) (step_settle hs' hsettle ?_)
    rintro k ⟨payment, x, hpayment, hx, hid, href⟩
    obtain rfl := Option.some.inj (hlookup.symm.trans hpayment)
    exact ⟨found, x, hfound, by rw [← hcontributions]; exact hx, hid, href⟩

end Settle

section Postings
variable {env : Env} {db db' : Db} {clock : Int} {acted : Payment → Prop} {about : Nat → Prop}

/-- A step that opens an account at most, adds an entry that is of no contribution at most and a
row at most. -/
theorem Step.posted {direct : Prop} (accounts : List MemberFinancialAccount)
    (entries : List MemberFinancialEntry) (rows : List LedgerEntry)
    (hrows : Postings db.ledgerEntries rows)
    (hentries : ∀ e ∈ entries, e.contributionId = none ∧
      e.referenceType ≠ some .LOAN_PRINCIPAL_PAYMENT)
    (htype : ∀ e ∈ rows, isPaymentComponent e.referenceType = false)
    (hdirect : ∀ e ∈ rows, ∀ o ∈ db.ledgerEntries, e.reversalOfId = some o.id →
      o.referenceType = .CONTRIBUTION_PAYMENT → direct)
    (hinstallments : db'.loanInstallments.map LoanInstallment.id =
      db.loanInstallments.map LoanInstallment.id)
    (h : db' = { db with
      accounts := db.accounts ++ accounts
      memberEntries := db.memberEntries ++ entries
      ledgerEntries := db.ledgerEntries ++ rows
      loanInstallments := db'.loanInstallments
      loans := db'.loans
      expenses := db'.expenses }) : Step acted direct about db db' := by
  have hgrows : Grows acted db db' { accounts, entries, rows } :=
    { users := by rw [h], members := by rw [h], contributions := by rw [h]
      installments := hinstallments, payments := by rw [h]; exact PaymentsKept.refl _ _
      accounts := by rw [h], entries := by rw [h], ledger := by rw [h], postings := hrows
      settlements := by rw [h]; simp, settlement := by simp, reversals := by rw [h]; simp
      reversal := by simp, own := .aside htype fun e he => (hentries e he).2 }
  refine .aside hgrows ⟨by rw [h], fun e he => (hentries e he).1, ?_, hdirect, by simp, by simp⟩
  intro e he hcontribution
  have hcomponent := htype e he
  rw [hcontribution] at hcomponent
  cases hcomponent

theorem step_settleWithOwnBalance {loanId : Nat} {financialAt : Option Timestamp}
    {result : OwnBalanceResult}
    (h : settleLoanWithOwnBalance db clock loanId financialAt = .ok (db', result)) :
    Step acted False about db db' := by
  unfold settleLoanWithOwnBalance at h
  simp only [bind_eq_ok, refuseIf_eq_ok, orRefuse_eq_ok, Prod.exists, exists_and_left,
    exists_const] at h
  obtain ⟨-, loan, hloan, locked, account, hlock, h⟩ := h
  obtain ⟨accounts, rfl, -⟩ := lockMemberFinancialAccount_spec hlock
  split at h
  · rw [pure_eq_ok, Prod.mk.injEq] at h
    obtain ⟨rfl, -⟩ := h
    exact .posted accounts [] [] (.nil _) (by simp) (by simp) (by simp) rfl (by simp)
  · simp only [bind_eq_ok, pure_eq_ok, refuseIf_eq_ok, Prod.exists, Prod.mk.injEq, exists_and_left,
      exists_const] at h
    obtain ⟨-, -, -, quote, -, -, -, -, credited, e, hadd, rfl, -⟩ := h
    obtain ⟨rfl, he⟩ := addMemberFinancialEntry_spec hadd
    refine .posted accounts [e] [] (.nil _) ?_ (by simp) (by simp) ?_ ?_
    · simp [he.contribution, he.referenceType, ownBalanceDebit]
    · rw [Db.putLoan, List.map_map]
      apply List.map_congr_left
      intro i _
      by_cases hi : i.loanId = loan.id <;> simp [hi]
    · simp [Db.putLoan]

theorem step_renegotiateWithOwnBalance {loanId : Nat} {amount : Int} {result : OwnBalanceResult}
    (h : renegotiateLoanWithOwnBalance db clock loanId amount = .ok (db', result)) :
    Step acted False about db db' := by
  unfold renegotiateLoanWithOwnBalance at h
  simp only [bind_eq_ok, refuseIf_eq_ok, orRefuse_eq_ok, Prod.exists, exists_and_left,
    exists_const] at h
  obtain ⟨loan, hloan, locked, account, hlock, -, -, h⟩ := h
  obtain ⟨accounts, rfl, -⟩ := lockMemberFinancialAccount_spec hlock
  split at h
  · rw [pure_eq_ok, Prod.mk.injEq] at h
    obtain ⟨rfl, -⟩ := h
    exact .posted accounts [] [] (.nil _) (by simp) (by simp) (by simp) rfl (by simp)
  · simp only [bind_eq_ok, pure_eq_ok, refuseIf_eq_ok, Prod.exists, Prod.mk.injEq, exists_and_left,
      exists_const] at h
    obtain ⟨-, -, -, credited, e, hadd, rfl, -⟩ := h
    obtain ⟨rfl, he⟩ := addMemberFinancialEntry_spec hadd
    refine .posted accounts [e] [] (.nil _) ?_ (by simp) (by simp) rfl ?_
    · simp [he.contribution, he.referenceType, ownBalanceDebit]
    · simp [Db.putLoan]

theorem step_releaseLoan {loanId : Nat} {released : Bool}
    (h : releaseLoan env db clock loanId = .ok (db', released)) : Step acted False about db db' := by
  unfold releaseLoan at h
  simp only [bind_eq_ok, orRefuse_eq_ok, Prod.exists] at h
  obtain ⟨loan, hloan, locked, account, hlock, h⟩ := h
  obtain ⟨accounts, rfl, -⟩ := lockMemberFinancialAccount_spec hlock
  split at h
  · split at h
    · rw [pure_eq_ok, Prod.mk.injEq] at h
      obtain ⟨rfl, -⟩ := h
      exact .posted accounts [] [] (.nil _) (by simp) (by simp) (by simp) rfl (by simp)
    · rw [pure_eq_ok, Prod.mk.injEq] at h
      obtain ⟨rfl, -⟩ := h
      exact .posted accounts [] [] (.nil _) (by simp) (by simp) (by simp) rfl (by simp [Db.putLoan])
  · simp only [bind_eq_ok, pure_eq_ok, refuseIf_eq_ok, Prod.exists, Prod.mk.injEq, exists_and_left,
      exists_const] at h
    obtain ⟨-, posted, e, hpost, committed, hcommit, rfl, -⟩ := h
    obtain ⟨rfl, hposting, -, -, -, htype, -, horiginal⟩ := postEntry_spec hpost
    have hrow : ∀ y ∈ [e], isPaymentComponent y.referenceType = false := by
      simp [htype, loanDisbursement, isPaymentComponent]
    have hdirect : ∀ y ∈ [e], ∀ o ∈ db.ledgerEntries, y.reversalOfId = some o.id →
        o.referenceType = .CONTRIBUTION_PAYMENT → False := by
      intro y hy o _ hrev
      rw [List.mem_singleton.mp hy, horiginal] at hrev
      cases hrev
    unfold commitPrincipal at hcommit
    split at hcommit
    · rw [pure_eq_ok] at hcommit
      subst hcommit
      exact .posted accounts [] [e] hposting.single (by simp) hrow hdirect rfl (by simp [Db.putLoan])
    · simp only [bind_eq_ok, pure_eq_ok, Prod.exists] at hcommit
      obtain ⟨added, entry, hadd, rfl⟩ := hcommit
      obtain ⟨rfl, hentry⟩ := addMemberFinancialEntry_spec hadd
      refine .posted accounts [entry] [e] hposting.single ?_ hrow hdirect rfl (by simp [Db.putLoan])
      simp [hentry.contribution, hentry.referenceType, loanCommitment]

theorem step_createExpense {amount : Int} (h : createExpense env db clock amount = .ok db') :
    Step acted False about db db' := by
  unfold createExpense at h
  simp only [bind_eq_ok, pure_eq_ok, Prod.exists] at h
  obtain ⟨posted, e, hpost, rfl⟩ := h
  obtain ⟨rfl, hposting, -, -, -, htype, -, horiginal⟩ := postEntry_spec hpost
  refine .posted [] [] [e] hposting.single (by simp) ?_ ?_ rfl (by simp)
  · simp [htype, isPaymentComponent]
  · intro y hy o _ hrev
    rw [List.mem_singleton.mp hy, horiginal] at hrev
    cases hrev

theorem step_ledgerReverse {entryId : Nat} {reason : String} (hs : Sound db)
    (h : ledgerReverse env db clock entryId reason = .ok db') :
    Step acted (∃ o, db.ledgerEntry? entryId = some o ∧ o.referenceType = .CONTRIBUTION_PAYMENT)
      about db db' := by
  unfold ledgerReverse reverseEntry at h
  simp only [bind_eq_ok, pure_eq_ok, orRefuse_eq_ok, refuseIf_eq_ok, Prod.exists, exists_and_left,
    exists_const] at h
  obtain ⟨original, horiginal, posted, e, ⟨-, -, hpost⟩, rfl⟩ := h
  obtain ⟨rfl, hposting, hc⟩ := compensates_of_postEntry hpost
  refine .posted [] [] [e] hposting.single (by simp) ?_ ?_ rfl (by simp)
  · simp [hc.type, isPaymentComponent]
  · intro y hy o ho hrev htype
    rw [List.mem_singleton.mp hy, hc.reverses, Option.some.injEq] at hrev
    have hsame : original = o := eq_of_mem_of_key hs.ledger.keyed (lookup_mem horiginal) ho hrev
    exact ⟨original, horiginal, hsame ▸ htype⟩

end Postings

section Run
variable {env : Env} {db db' : Db} {clock : Int}

/-- What one successful operation does. -/
theorem steps_attempt {op : Operation} (hs : Sound db) (h : attempt env db clock op = .ok db') :
    Relation.ReflTransGen (Step (actedBy op) (directly db op) (aboutOf db op)) db db' := by
  cases op with
  | settle paymentId c =>
    obtain ⟨⟨final, s⟩, hsettle, rfl⟩ := map_eq_ok.mp h
    exact .single (step_settle hs hsettle fun _ hk => hk)
  | reverse paymentId adminId reason now =>
    obtain ⟨⟨final, r⟩, hreverse, rfl⟩ := map_eq_ok.mp h
    exact .single (step_reverse hs hreverse)
  | evidence paymentId status received =>
    obtain rfl := Except.ok.inj h
    exact .single (step_keepEvidence hs status received)
  | cancel contributionId reason =>
    obtain rfl := Except.ok.inj h
    exact .single step_cancelContribution
  | reserve installmentId now =>
    obtain ⟨reservation, hreserve, rfl⟩ := map_eq_ok.mp h
    exact .single (step_reserve hs hreserve)
  | bindProvider attemptId result =>
    obtain rfl := Except.ok.inj h
    exact .single (step_bindProvider hs result)
  | markAmbiguous attemptId =>
    obtain rfl := Except.ok.inj h
    exact .single (step_markAmbiguous hs)
  | approve paymentId confirmedAt payload =>
    obtain ⟨⟨final, result⟩, happrove, rfl⟩ := map_eq_ok.mp h
    exact steps_approve hs happrove
  | settleWithOwnBalance loanId financialAt =>
    obtain ⟨⟨final, result⟩, hsettle, rfl⟩ := map_eq_ok.mp h
    exact .single (step_settleWithOwnBalance hsettle)
  | renegotiateWithOwnBalance loanId amount =>
    obtain ⟨⟨final, result⟩, hrenegotiate, rfl⟩ := map_eq_ok.mp h
    exact .single (step_renegotiateWithOwnBalance hrenegotiate)
  | releaseLoan loanId =>
    obtain ⟨⟨final, released⟩, hrelease, rfl⟩ := map_eq_ok.mp h
    exact .single (step_releaseLoan hrelease)
  | expense amount => exact .single (step_createExpense h)
  | ledgerReverse entryId reason => exact .single (step_ledgerReverse hs h)

/-- What one operation does; one that fails does nothing. -/
theorem steps_execute (hs : Sound db) (op : Int × Operation) :
    Relation.ReflTransGen (Step (actedBy op.2) (directly db op.2) (aboutOf db op.2)) db
      (execute env db op) := by
  unfold execute
  cases h : attempt env db op.1 op.2 with
  | error e => exact .refl
  | ok db' => exact steps_attempt hs h

/-- What every step keeps is kept by all of them. -/
theorem steps_keep {acted : Payment → Prop} {direct : Prop} {about : Nat → Prop} {P : Db → Prop}
    (hsteps : Relation.ReflTransGen (Step acted direct about) db db')
    (hstep : ∀ x y, Sound x → P x → Step acted direct about x y → P y) (hs : Sound db) (h : P db) :
    Sound db' ∧ P db' := by
  induction hsteps with
  | refl => exact ⟨hs, h⟩
  | tail _ hlast ih => exact ⟨hlast.sound ih.1, hstep _ _ ih.1 ih.2 hlast⟩

/-- A property that every operation the run meets keeps holds at its end. -/
theorem run_keeps {P : Db → Prop} (ops : List (Int × Operation))
    (hop : ∀ x, Sound x → P x → ∀ op ∈ ops, ∀ y z, Sound y → P y →
      Step (actedBy op.2) (directly x op.2) (aboutOf x op.2) y z → P z)
    (hs : Sound db) (h : P db) : Sound (run env db ops) ∧ P (run env db ops) := by
  induction ops generalizing db with
  | nil => exact ⟨hs, h⟩
  | cons op ops ih =>
    rw [run, List.foldl_cons]
    obtain ⟨hs', h'⟩ := steps_keep (steps_execute hs op)
      (fun y z => hop db hs h op (List.mem_cons_self ..) y z) hs h
    exact ih (fun x hx hp op' hop' => hop x hx hp op' (List.mem_cons_of_mem _ hop')) hs' h'

end Run

end Caixinha.Effects
