import Caixinha.Effects.Reversal

/-! What the reversal of a contribution payment needs and what it writes. -/
namespace Caixinha.Effects

open Caixinha.Library Caixinha.Library.Table Fallible Caixinha.Model

variable {env : Env} {db db' locked : Db} {clock reversedAt : Int} {payment : Payment}
  {settlement : PaymentSettlement} {r : PaymentReversal} {adminId contributionId : Nat}
  {reason : String} {c : Contribution} {account : MemberFinancialAccount}

section Compensation
variable {row : LedgerEntry} {mismatch : Option String} {reversalId : Nat}

/-- An original that nothing reversed can be compensated. -/
theorem postEntry_compensation (hs : LedgerSound db.ledgerEntries) (hrow : row ∈ db.ledgerEntries)
    (horiginal : row.reversalOfId = none) (hintact : hasReversal db row = false) :
    ∃ e, postEntry env db clock (compensationOf row) =
      .ok ({ db with ledgerEntries := db.ledgerEntries ++ [e] }, e) := by
  have hcheck : checkReversalOf db (compensationOf row) = .ok () := by
    have hlookup : db.ledgerEntry? row.id = some row := lookup_of_mem hs.keyed hrow
    unfold hasReversal at hintact
    simp [checkReversalOf, compensationOf, hlookup, horiginal, hintact, orRefuse, refuseIf, ok_bind]
  have hpos : 0 < (compensationOf row).amount := row.amount.property
  unfold postEntry
  rw [dif_pos hpos, hcheck]
  exact ⟨_, rfl⟩

theorem compensate_original (hs : LedgerSound db.ledgerEntries) (hrow : row ∈ db.ledgerEntries)
    (horiginal : row.reversalOfId = none) (hintact : hasReversal db row = false) :
    ∃ db' e, compensate env clock reversalId mismatch db row = .ok (db', e) := by
  obtain ⟨e, hpost⟩ : ∃ e, postEntry env db clock (compensationOf row) =
      .ok ({ db with ledgerEntries := db.ledgerEntries ++ [e] }, e) :=
    postEntry_compensation hs hrow horiginal hintact
  obtain ⟨-, hp, hc⟩ := compensates_of_postEntry hpost
  have hcheck : checkCompensation row e mismatch = .ok () := by
    have hlt := LedgerSound.id_lt hrow
    have hid := hp.id_eq
    have hne : e.id ≠ row.id := by omega
    cases mismatch with
    | none => rfl
    | some message => simp [checkCompensation, refuseIf, hne, hc.reverses]
  unfold compensate
  rw [hpost, ok_bind]
  simp only [hcheck, ok_bind]
  exact ⟨_, _, rfl⟩

end Compensation

section Reference

/-- The settlement is one the contribution code wrote for this payment and contribution. -/
structure ContributionSettlement (payment : Payment) (settlement : PaymentSettlement)
    (c : Contribution) : Prop where
  payment : settlement.paymentId = payment.id
  obligation : settlement.obligation = .contribution c.id
  member : settlement.memberId = c.memberId
  version : settlement.receiptVersion = .v1
  evidence : settlement.loanEvidence = none

theorem checkContributionReference_refersTo (h : checkContributionReference payment c = .ok ()) :
    refersTo c payment := by
  unfold checkContributionReference at h
  unfold refersTo
  split at h
  · rename_i id href
    rw [refuseIf_eq_ok] at h
    simpa [href] using h
  · cases h
  · rename_i href
    rw [refuseIf_eq_ok] at h
    simpa [href] using h

theorem validateContributionReference_eq_ok :
    validateContributionReference payment settlement c = .ok () ↔
      checkContributionReference payment c = .ok () ∧ ContributionSettlement payment settlement c := by
  unfold validateContributionReference
  simp only [bind_eq_ok, refuseIf_eq_ok, exists_and_left, exists_const, not_or, not_not]
  constructor
  · rintro ⟨u, href, ⟨hpayment, hobligation⟩, hmember, hversion, hevidence⟩
    exact ⟨href, hpayment, hobligation, hmember, hversion, by simpa using hevidence⟩
  · rintro ⟨href, hpayment, hobligation, hmember, hversion, hevidence⟩
    exact ⟨(), href, ⟨hpayment, hobligation⟩, hmember, hversion, by simpa using hevidence⟩

end Reference

section Patrimony
variable {before after : ObligationStatus} {amount credit : Int} {reversalId : Nat}

/-- The patrimonial credit a reversal finds and takes back. -/
theorem patrimonialReversal_eq_ok : patrimonialReversal db account c before after = .ok credit ↔
    (¬ (before = .PAID ∧ after ≠ .PAID) ∧ credit = 0) ∨
      ((before = .PAID ∧ after ≠ .PAID) ∧ credit = activeContributionCredit db account.id c.id ∧
        (credit = 0 ∨ credit = c.amount)) := by
  unfold patrimonialReversal
  by_cases h : before = .PAID ∧ after ≠ .PAID
  · rw [if_neg (not_not.mpr h)]
    simp only [bind_eq_ok, pure_eq_ok, refuseIf_eq_ok, exists_and_left, exists_const]
    constructor
    · rintro ⟨hcredit, rfl⟩
      exact .inr ⟨h, rfl, by tauto⟩
    · rintro (⟨hnot, -⟩ | ⟨-, rfl, hcredit⟩)
      · exact absurd h hnot
      · exact ⟨by tauto, rfl⟩
  · rw [if_pos h, pure_eq_ok]
    constructor
    · rintro rfl
      exact .inl ⟨h, rfl⟩
    · rintro (⟨-, rfl⟩ | ⟨hyes, -⟩)
      · rfl
      · exact absurd hyes h

theorem debitPatrimony_spec (h : debitPatrimony db clock account c reversalId amount = .ok db') :
    (amount ≤ 0 ∧ db' = db) ∨
      ∃ e, db' = { db with memberEntries := db.memberEntries ++ [e] } ∧
        EntryOf account (contributionReversalDebit c reversalId amount) e ∧ 0 < amount := by
  unfold debitPatrimony at h
  split at h
  · rename_i hle
    rw [pure_eq_ok] at h
    exact .inl ⟨hle, h.symm⟩
  · rename_i hlt
    simp only [bind_eq_ok, pure_eq_ok, Prod.exists] at h
    obtain ⟨next, e, hadd, rfl⟩ := h
    obtain ⟨hdb, he⟩ := addMemberFinancialEntry_spec hadd
    exact .inr ⟨e, hdb, he, by omega⟩

theorem debitPatrimony_ok : ∃ db', debitPatrimony db clock account c reversalId amount = .ok db' := by
  unfold debitPatrimony
  split
  · exact ⟨_, rfl⟩
  · rename_i hlt
    have hpos : 0 < (contributionReversalDebit c reversalId amount).amount := by
      simpa [contributionReversalDebit] using hlt
    rw [addMemberFinancialEntry, dif_pos hpos, ok_bind]
    exact ⟨_, rfl⟩

end Patrimony

/-- What the reversal of a contribution payment found before it wrote anything. -/
structure ContributionReversible (db locked : Db) (account : MemberFinancialAccount)
    (payment : Payment) (settlement : PaymentSettlement) (c : Contribution) (reversedAt credit : Int)
    (originals : List LedgerEntry) : Prop where
  lock : lockMemberFinancialAccount db c.memberId = .ok (locked, account)
  reference : checkContributionReference payment c = .ok ()
  written : ContributionSettlement payment settlement c
  money : validateMoney settlement payment false = .ok settlement.amounts
  within : settlement.amounts.amountApplied ≤ c.amount
  paid : settlement.amounts.amountApplied ≤ c.paidAmount.getD 0
  patrimony : patrimonialReversal locked account c
    (contributionFinancialStatus c (c.paidAmount.getD 0) reversedAt)
    (contributionFinancialStatus c (c.paidAmount.getD 0 - settlement.amounts.amountApplied)
      reversedAt) = .ok credit
  found : findOriginalLedger locked payment.id settlement.amounts.amountApplied = .ok originals
  firstPayment : ∀ x ∈ db.reversals, x.paymentId ≠ payment.id
  firstSettlement : ∀ x ∈ db.reversals, x.settlementId ≠ settlement.id

/-- The contribution a reversal leaves. -/
def reversedContribution (c : Contribution) (settlement : PaymentSettlement) (reversedAt : Int) :
    Contribution :=
  unpaidContribution c (c.paidAmount.getD 0 - settlement.amounts.amountApplied)
    (contributionFinancialStatus c (c.paidAmount.getD 0 - settlement.amounts.amountApplied) reversedAt)

/-- Everything the reversal of a contribution payment checks and writes. -/
theorem reverseContributionPayment_spec
    (h : reverseContributionPayment env db clock payment settlement contributionId adminId reason
      reversedAt = .ok (db', r)) :
    ∃ (c : Contribution) (locked : Db) (account : MemberFinancialAccount) (credit : Int)
      (originals : List LedgerEntry) (pairs : List (LedgerEntry × LedgerEntry))
      (components : List PaymentReversalComponent) (entries : List MemberFinancialEntry),
      db.contribution? contributionId = some c ∧
      ContributionReversible db locked account payment settlement c reversedAt credit originals ∧
      Postings db.ledgerEntries (pairs.map Prod.snd) ∧ pairs.map Prod.fst = originals ∧
      (∀ pair ∈ pairs, Compensates pair.1 pair.2) ∧
      ReversalOf db payment settlement adminId reason reversedAt r ∧
      ((credit ≤ 0 ∧ entries = []) ∨ ∃ e, entries = [e] ∧ 0 < credit ∧
        EntryOf account (contributionReversalDebit c r.id credit) e) ∧
      db' = { locked with
        ledgerEntries := db.ledgerEntries ++ pairs.map Prod.snd
        reversalComponents := components
        contributions := replace Contribution.id db.contributions
          (reversedContribution c settlement reversedAt)
        memberEntries := db.memberEntries ++ entries
        reversals := db.reversals ++ [r] } := by
  unfold reverseContributionPayment at h
  simp only [bind_eq_ok, refuseIf_eq_ok, orRefuse_eq_ok, exists_and_left, exists_const,
    Prod.exists, pure_eq_ok] at h
  obtain ⟨c, hc, locked, account, hlock, u, href, values, hmoney, hwithin, hpaid, credit, hcredit,
    originals, horiginals, inserted, hinsert, compensated, pairs, hpairs, debited, hdebit, hseal⟩ := h
  obtain ⟨rfl, -⟩ := validateMoney_eq_ok.mp hmoney
  obtain ⟨accounts, rfl, -⟩ := lockMemberFinancialAccount_spec hlock
  obtain ⟨rfl, -, hfirst, hfirst'⟩ := insertReversal_eq_ok.mp hinsert
  obtain ⟨components, rfl, hpostings, hfst, hall⟩ := compensateAll_spec hpairs
  obtain ⟨hreference, hsettlement⟩ := validateContributionReference_eq_ok.mp href
  have hreversible : ContributionReversible db _ account payment settlement c reversedAt credit
      originals :=
    ⟨hlock, hreference, hsettlement, hmoney, not_lt.mp hwithin, not_lt.mp hpaid, hcredit, horiginals,
      hfirst, hfirst'⟩
  rcases debitPatrimony_spec hdebit with ⟨hle, rfl⟩ | ⟨e, rfl, he, hpos⟩
  · rw [sealReversal_eq db.reversals rfl rfl, Prod.mk.injEq] at hseal
    obtain ⟨rfl, rfl⟩ := hseal
    refine ⟨c, _, account, credit, originals, pairs, components, [], hc, hreversible, hpostings, hfst,
      hall, (reversalOf_reversalRow rfl _).sealed _, .inl ⟨hle, rfl⟩, ?_⟩
    simp only [Db.putContribution, List.append_nil]
    rfl
  · rw [sealReversal_eq db.reversals rfl rfl, Prod.mk.injEq] at hseal
    obtain ⟨rfl, rfl⟩ := hseal
    refine ⟨c, _, account, credit, originals, pairs, components, [e], hc, hreversible, hpostings, hfst,
      hall, (reversalOf_reversalRow rfl _).sealed _, .inr ⟨e, rfl, hpos, he⟩, ?_⟩
    rfl

/-- One compensation can be posted for every original that stands, in the ledger they are in. -/
theorem compensateAll_single {row : LedgerEntry} {reversalId : Nat} {mismatch : Option String}
    (hs : LedgerSound db.ledgerEntries) (hrow : row ∈ db.ledgerEntries)
    (horiginal : row.reversalOfId = none) (hintact : hasReversal db row = false) :
    ∃ db' pairs, compensateAll env clock reversalId mismatch db [row] = .ok (db', pairs) := by
  obtain ⟨db', e, h⟩ : ∃ db' e, compensate env clock reversalId mismatch db row = .ok (db', e) :=
    compensate_original hs hrow horiginal hintact
  refine ⟨db', [(row, e)], ?_⟩
  simp only [compensateAll, h, ok_bind]
  rfl

/-- And conversely: what can be reversed is. -/
theorem reverseContributionPayment_ok {credit : Int} {originals : List LedgerEntry}
    (hs : LedgerSound db.ledgerEntries) (hc : db.contribution? contributionId = some c)
    (h : ContributionReversible db locked account payment settlement c reversedAt credit originals) :
    ∃ db' r, reverseContributionPayment env db clock payment settlement contributionId adminId reason
      reversedAt = .ok (db', r) := by
  obtain ⟨accounts, hlocked, -⟩ := lockMemberFinancialAccount_spec h.lock
  have href := validateContributionReference_eq_ok.mpr ⟨h.reference, h.written⟩
  obtain ⟨-, hsound, -⟩ := validateMoney_eq_ok.mp h.money
  have hledger : LedgerSound locked.ledgerEntries := by rw [hlocked]; exact hs
  have hreversals : locked.reversals = db.reversals := by rw [hlocked]
  have hinsert : ∀ x : PaymentReversal, x.amounts = settlement.amounts → x.paymentId = payment.id →
      x.settlementId = settlement.id →
      insertReversal locked x = .ok { locked with reversals := locked.reversals ++ [x] } := by
    intro x hamounts hpayment hsettlement
    refine insertReversal_eq_ok.mpr ⟨rfl, hamounts ▸ hsound, ?_, ?_⟩
    · rw [hreversals, hpayment]
      exact h.firstPayment
    · rw [hreversals, hsettlement]
      exact h.firstSettlement
  have hpairs : ∀ (rows : List PaymentReversal) (id : Nat), ∃ compensated pairs,
      compensateAll env clock id (some "Compensação de Ledger incompatível com o original.")
        { locked with reversals := rows } originals = .ok (compensated, pairs) := by
    intro rows id
    rcases (findOriginalLedger_eq_ok hledger).mp h.found with ⟨-, rfl, -⟩ | ⟨-, row, rfl, hrow⟩
    · exact ⟨_, _, rfl⟩
    · exact compensateAll_single hledger hrow.mem.1 hrow.original hrow.intact
  have hdebit : ∀ (z : Db) (id : Nat), ∃ debited,
      debitPatrimony z clock account c id credit = .ok debited := fun _ _ => debitPatrimony_ok
  unfold reverseContributionPayment
  simp only [hc, orRefuse, ok_bind, h.lock, href, h.money, refuseIf, if_neg (not_lt.mpr h.within),
    if_neg (not_lt.mpr h.paid), h.patrimony, h.found]
  rw [hinsert _ (by rfl) (by rfl) (by rfl), ok_bind]
  obtain ⟨compensated, pairs, hcompensated⟩ := hpairs _ _
  rw [hcompensated, ok_bind]
  obtain ⟨debited, hdebited⟩ := hdebit _ _
  rw [hdebited, ok_bind]
  exact ⟨_, _, rfl⟩

end Caixinha.Effects
