import Caixinha.Effects.Settled

/-! What a reversal adds, whichever obligation it is of. -/
namespace Caixinha.Effects

open Caixinha.Library Caixinha.Library.Table Fallible Caixinha.Model

variable {env : Env} {db db' locked : Db} {clock reversedAt : Int} {payment : Payment}
  {settlement : PaymentSettlement} {r : PaymentReversal} {adminId : Nat} {reason : String}

/-- Nothing acts on a payment when it is reversed. -/
def noPayment : Payment → Prop := fun _ => False

theorem settlementOfPayment?_spec {paymentId : Nat}
    (h : db.settlementOfPayment? paymentId = some settlement) :
    settlement ∈ db.settlements ∧ settlement.paymentId = paymentId := by
  rw [Db.settlementOfPayment?] at h
  exact ⟨List.mem_of_find?_eq_some h, by simpa using List.find?_some h⟩

theorem ReversalOf.next (h : ReversalOf db payment settlement adminId reason reversedAt r)
    (hsettlement : db.settlementOfPayment? payment.id = some settlement)
    (hfirst : ∀ x ∈ db.reversals, x.paymentId ≠ payment.id)
    (hfirst' : ∀ x ∈ db.reversals, x.settlementId ≠ settlement.id) : NextReversal db r := by
  obtain ⟨hmem, hid⟩ := settlementOfPayment?_spec hsettlement
  refine ⟨h.id_eq, ⟨settlement, hmem, h.settlementId.symm, hid.trans h.paymentId.symm⟩, ?_, ?_⟩
  · rw [h.paymentId]
    exact hfirst
  · rw [h.settlementId]
    exact hfirst'

theorem mem_pairs_snd {pairs : List (LedgerEntry × LedgerEntry)} {originals : List LedgerEntry}
    {e : LedgerEntry} (hfst : pairs.map Prod.fst = originals)
    (hall : ∀ pair ∈ pairs, Compensates pair.1 pair.2) (he : e ∈ pairs.map Prod.snd) :
    ∃ o ∈ originals, Compensates o e := by
  obtain ⟨pair, hpair, rfl⟩ := List.mem_map.mp he
  exact ⟨pair.1, hfst ▸ List.mem_map_of_mem hpair, hall pair hpair⟩

theorem ofSettlement_compensations {originals rows : List LedgerEntry} {new : Additions}
    (hrows : ∀ e ∈ rows, ∃ o ∈ originals, Compensates o e) (hnew : new.rows = rows)
    (hentries : ∀ e ∈ new.entries, e.referenceType ≠ some .LOAN_PRINCIPAL_PAYMENT) :
    OfSettlement new := by
  refine .aside (fun e he => ?_) hentries
  rw [hnew] at he
  obtain ⟨o, -, hc⟩ := hrows e he
  rw [hc.type]
  rfl

/-- Compensations of rows of other payments leave those of contributions alone. -/
theorem compensations_aside {originals rows : List LedgerEntry} (hs : LedgerSound db.ledgerEntries)
    (hrows : ∀ e ∈ rows, ∃ o ∈ originals, Compensates o e)
    (horiginals : ∀ o ∈ originals, o ∈ db.ledgerEntries ∧ o.referenceType ≠ .CONTRIBUTION_PAYMENT) :
    (∀ e ∈ rows, e.referenceType ≠ .CONTRIBUTION_PAYMENT) ∧
      ∀ e ∈ rows, ∀ o ∈ db.ledgerEntries, e.reversalOfId = some o.id →
        o.referenceType = .CONTRIBUTION_PAYMENT → False := by
  constructor
  · intro e he
    obtain ⟨o, -, hc⟩ := hrows e he
    simp [hc.type]
  · intro e he o ho hrev htype
    obtain ⟨o', ho', hc⟩ := hrows e he
    obtain ⟨hmem, hne⟩ := horiginals o' ho'
    have hid : o'.id = o.id := by simpa [hc.reverses] using hrev
    have hsame : o' = o := eq_of_mem_of_key hs.keyed hmem ho hid
    exact hne (hsame ▸ htype)

section Contribution

/-- What the reversal of a contribution payment found and changed. -/
structure ContributionReversed (db : Db) (payment : Payment) (settlement : PaymentSettlement)
    (x : Contribution) (reversedAt : Int) (db' : Db) (r : PaymentReversal) (new : Additions)
    (account : MemberFinancialAccount) (credit : Int) (originals : List LedgerEntry) : Prop where
  row : db.contribution? x.id = some x
  obligation : settlement.obligation = .contribution x.id
  reference : checkContributionReference payment x = .ok ()
  money : validateMoney settlement payment false = .ok settlement.amounts
  paid : settlement.amounts.amountApplied ≤ x.paidAmount.getD 0
  holder : db'.accounts.find? (fun a => a.memberId = x.memberId) = some account
  patrimony : patrimonialReversal db account x
    (contributionFinancialStatus x (x.paidAmount.getD 0) reversedAt)
    (contributionFinancialStatus x (x.paidAmount.getD 0 - settlement.amounts.amountApplied)
      reversedAt) = .ok credit
  found : findOriginalLedger db payment.id settlement.amounts.amountApplied = .ok originals
  compensated : ∃ pairs : List (LedgerEntry × LedgerEntry), pairs.map Prod.fst = originals ∧
    new.rows = pairs.map Prod.snd ∧ ∀ pair ∈ pairs, Compensates pair.1 pair.2
  entries : (credit ≤ 0 ∧ new.entries = []) ∨ ∃ e, new.entries = [e] ∧ 0 < credit ∧
    EntryOf account (contributionReversalDebit x r.id credit) e
  contributions : db'.contributions = replace Contribution.id db.contributions
    (reversedContribution x settlement reversedAt)
  payments : db'.payments = db.payments
  settlements : new.settlements = []

theorem contribution_reversed {contributionId : Nat}
    (hobligation : settlement.obligation = .contribution contributionId)
    (hsettlement : db.settlementOfPayment? payment.id = some settlement)
    (h : reverseContributionPayment env db clock payment settlement contributionId adminId reason
      reversedAt = .ok (db', r)) :
    ∃ new x account credit originals, Grows noPayment db db' new ∧ new.reversals = [r] ∧
      ReversalOf db payment settlement adminId reason reversedAt r ∧
      ContributionReversed db payment settlement x reversedAt db' r new account credit originals := by
  obtain ⟨x, locked, account, credit, originals, pairs, components, entries, hx, hreversible,
    hpostings, hfst, hall, hreversal, hentries, rfl⟩ := reverseContributionPayment_spec h
  obtain ⟨accounts, rfl, -, hfind, -⟩ := lockMemberFinancialAccount_spec hreversible.lock
  obtain rfl : x.id = contributionId := lookup_key hx
  refine ⟨{ accounts, entries, rows := pairs.map Prod.snd, reversals := [r] }, x, account, credit,
    originals, ?_, rfl, hreversal, ?_⟩
  · exact
      { users := rfl, members := rfl, contributions := keys_replace, installments := rfl
        payments := PaymentsKept.refl _ _, accounts := rfl, entries := rfl, ledger := rfl
        postings := hpostings, settlements := by simp, settlement := by simp, reversals := rfl
        reversal := by
          intro y hy
          rw [List.mem_singleton] at hy
          exact ⟨by rw [hy], hy ▸ hreversal.next hsettlement hreversible.firstPayment
            hreversible.firstSettlement⟩
        own := by
          refine ofSettlement_compensations (fun _ => mem_pairs_snd hfst hall) rfl ?_
          rcases hentries with ⟨-, rfl⟩ | ⟨e, rfl, -, hentry⟩
          · simp
          · simp [hentry.referenceType, contributionReversalDebit] }
  · refine ⟨hx, hobligation, hreversible.reference, hreversible.money, hreversible.paid, hfind,
      hreversible.patrimony, hreversible.found, ⟨pairs, hfst, rfl, hall⟩, ?_, rfl, rfl, rfl⟩
    rcases hentries with hnothing | ⟨e, he, hpos, hentry⟩
    · exact .inl hnothing
    · exact .inr ⟨e, he, hpos, hentry⟩

end Contribution

theorem agreement_reversed {installmentId : Nat} (hs : Sound db)
    (hobligation : settlement.obligation = .agreementInstallment installmentId)
    (hsettlement : db.settlementOfPayment? payment.id = some settlement)
    (h : reverseAgreementPayment env db clock payment settlement installmentId adminId reason
      reversedAt = .ok (db', r)) :
    ∃ new, Grows noPayment db db' new ∧ new.reversals = [r] ∧
      ReversalOf db payment settlement adminId reason reversedAt r ∧ Aside False db db' new := by
  obtain ⟨e, agreement, inst, original, x, -, -, horiginal, hx, hwrite⟩ :=
    reverseAgreementPayment_spec hs.ledger h
  obtain ⟨compensating, components, snapshot, -, hfirst, hfirst', hposting, hc, rfl, rfl⟩ :=
    writeAgreementReversal_spec hx.id_eq hwrite
  have hreversal : ReversalOf db payment settlement adminId reason reversedAt
      (sealedReversal env x snapshot) := hx.sealed snapshot
  rw [hx.paymentId] at hfirst
  rw [hx.settlementId] at hfirst'
  have hcompensations : ∀ e ∈ [compensating], ∃ o ∈ [original], Compensates o e := by simpa using hc
  have haside := compensations_aside hs.ledger hcompensations
    (by simpa [horiginal.type] using horiginal.mem.1)
  refine ⟨{ rows := [compensating], reversals := [sealedReversal env x snapshot] }, ?_, rfl,
    hreversal, ?_⟩
  · exact
      { users := rfl, members := rfl, contributions := rfl, installments := rfl
        payments := PaymentsKept.refl _ _, accounts := by simp, entries := by simp, ledger := rfl
        postings := hposting.single, settlements := by simp, settlement := by simp, reversals := rfl
        reversal := by
          intro y hy
          rw [List.mem_singleton] at hy
          exact ⟨by rw [hy], hy ▸ hreversal.next hsettlement hfirst hfirst'⟩
        own := ofSettlement_compensations hcompensations rfl (by simp) }
  · refine ⟨rfl, by simp, haside.1, haside.2, by simp, ?_⟩
    intro y hy s hmem hid k
    rw [List.mem_singleton] at hy
    have hsame : s = settlement := eq_of_mem_of_key hs.settlements hmem
      (settlementOfPayment?_spec hsettlement).1 (by rw [hid, hy, hreversal.settlementId])
    rw [hsame, hobligation]
    simp

theorem loan_reversed {installmentId : Nat} (hs : Sound db)
    (hobligation : settlement.obligation = .loanInstallment installmentId)
    (hsettlement : db.settlementOfPayment? payment.id = some settlement)
    (h : reverseLoanPayment env db clock payment settlement installmentId adminId reason
      reversedAt = .ok (db', r)) :
    ∃ new, Grows noPayment db db' new ∧ new.reversals = [r] ∧
      ReversalOf db payment settlement adminId reason reversedAt r ∧ Aside False db db' new := by
  obtain ⟨e, locked, account, plan, x, -, hlock, hplan, hx, hwrite⟩ := reverseLoanPayment_spec h
  obtain ⟨accounts, rfl, -⟩ := lockMemberFinancialAccount_spec hlock
  obtain rfl : plan.inst.id = installmentId := lookup_key hplan.installment
  have hkeyed : Keyed LoanInstallment.id
      { db with accounts := db.accounts ++ accounts }.loanInstallments := hs.installments
  obtain ⟨pairs, components, entries, adjusted, snapshot, -, hfirst, hfirst', hpostings, hfst, hall,
    hentries, -, hadjust, rfl, rfl⟩ := writeLoanReversal_spec hkeyed hx.id_eq hobligation hwrite
  have hunsealed : ReversalOf db payment settlement adminId reason reversedAt x :=
    ⟨hx.id_eq, hx.paymentId, hx.settlementId, hx.adminId, hx.reason, hx.reversedAt, hx.amounts⟩
  have hreversal : ReversalOf db payment settlement adminId reason reversedAt
      (sealedReversal env x snapshot) := hunsealed.sealed snapshot
  rw [hx.paymentId] at hfirst
  rw [hx.settlementId] at hfirst'
  have horiginals : ∀ o ∈ plan.originals,
      o ∈ db.ledgerEntries ∧ o.referenceType ≠ .CONTRIBUTION_PAYMENT := by
    obtain ⟨interest, penalty, hsplit, hinterest, hpenalty⟩ := hplan.ledger
    intro o ho
    rw [hsplit] at ho
    rcases List.mem_append.mp ho with ho | ho
    · obtain ⟨hmem, -, htype, -⟩ := hinterest.mem o ho
      exact ⟨hmem, by simp [htype]⟩
    · obtain ⟨hmem, -, htype, -⟩ := hpenalty.mem o ho
      exact ⟨hmem, by simp [htype]⟩
  have haside := compensations_aside hs.ledger (fun _ => mem_pairs_snd hfst hall) horiginals
  have hinstallments : adjusted.loanInstallments.map LoanInstallment.id =
      db.loanInstallments.map LoanInstallment.id := by
    rcases adjustAfterReversal_spec (keyed_replace hs.installments) hadjust hobligation with
      ⟨-, hsame⟩ | ⟨-, hc⟩
    · rw [hsame]
      exact keys_replace
    · exact hc.installments_keys.trans keys_replace
  refine ⟨{ accounts, entries, rows := pairs.map Prod.snd,
            reversals := [sealedReversal env x snapshot] }, ?_, rfl, hreversal, ?_⟩
  · exact
      { users := rfl, members := rfl, contributions := rfl, installments := hinstallments
        payments := PaymentsKept.refl _ _, accounts := rfl, entries := rfl, ledger := rfl
        postings := hpostings, settlements := by simp [reversedLoanDb], settlement := by simp
        reversals := rfl
        reversal := by
          intro y hy
          rw [List.mem_singleton] at hy
          exact ⟨by rw [hy], hy ▸ hreversal.next hsettlement hfirst hfirst'⟩
        own := by
          refine ofSettlement_compensations (fun _ => mem_pairs_snd hfst hall) rfl ?_
          rcases hentries with ⟨-, rfl⟩ | ⟨entry, -, rfl, hentry⟩
          · simp
          · simp [hentry.referenceType, principalReversalDebit] }
  · refine ⟨rfl, ?_, haside.1, haside.2, by simp, ?_⟩
    · rcases hentries with ⟨-, rfl⟩ | ⟨entry, -, rfl, hentry⟩
      · simp
      · simp [hentry.contribution, principalReversalDebit]
    · intro y hy s hmem hid k
      rw [List.mem_singleton] at hy
      have hsame : s = settlement := eq_of_mem_of_key hs.settlements hmem
        (settlementOfPayment?_spec hsettlement).1 (by rw [hid, hy, hreversal.settlementId])
      rw [hsame, hobligation]
      simp

/-- Every successful reversal: the one there was, of a contribution payment, or aside of them. -/
theorem reverse_effect {paymentId : Nat} {now : Option Timestamp} (hs : Sound db)
    (h : reversePayment env db clock paymentId adminId reason now = .ok (db', r)) :
    ∃ payment, db.payment? paymentId = some payment ∧ payment.id = paymentId ∧
      ((db.reversalOfPayment? paymentId = some r ∧ db' = db) ∨
      (db.reversalOfPayment? paymentId = none ∧ MayReverse db payment adminId reason now ∧
        ∃ settlement new, db.settlementOfPayment? payment.id = some settlement ∧
          Grows noPayment db db' new ∧ new.reversals = [r] ∧
          ReversalOf db payment settlement adminId (strip reason) ((now.map (·.instant)).getD clock) r ∧
          ((∃ x account credit originals, ContributionReversed db payment settlement x
            ((now.map (·.instant)).getD clock) db' r new account credit originals) ∨
            Aside False db db' new))) := by
  obtain ⟨payment, hpayment, hid, ⟨hfound, rfl⟩ | ⟨hnone, hmay, settlement, hsettlement, hbranch⟩⟩ :=
    reverse_cases h
  · exact ⟨payment, hpayment, hid, .inl ⟨hfound, rfl⟩⟩
  · refine ⟨payment, hpayment, hid, .inr ⟨hnone, hmay, settlement, ?_⟩⟩
    subst hid
    unfold reverseObligation at hbranch
    split at hbranch
    · rename_i id hobligation
      obtain ⟨new, hgrows, hnew, hreversal, haside⟩ := loan_reversed hs hobligation hsettlement hbranch
      exact ⟨new, hsettlement, hgrows, hnew, hreversal, .inr haside⟩
    · rename_i id hobligation
      obtain ⟨new, hgrows, hnew, hreversal, haside⟩ := agreement_reversed hs hobligation hsettlement hbranch
      exact ⟨new, hsettlement, hgrows, hnew, hreversal, .inr haside⟩
    · rename_i id hobligation
      obtain ⟨new, x, account, credit, originals, hgrows, hnew, hreversal, hreversed⟩ :=
        contribution_reversed hobligation hsettlement hbranch
      exact ⟨new, hsettlement, hgrows, hnew, hreversal, .inl ⟨x, account, credit, originals, hreversed⟩⟩

end Caixinha.Effects
