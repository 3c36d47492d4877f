import Caixinha.Effects.MoneySteps

/-! Releases over whole runs: the principal of a loan leaves the group once and is committed once. -/
namespace Caixinha.Properties.LoanReleases

open Caixinha.Library Caixinha.Library.Table Fallible Caixinha.Model Caixinha.Effects

variable {env : Env} {db db' : Db} {loanId : Nat}

/-- The rows by which the principal of a loan left. -/
def disbursements (db : Db) (loanId : Nat) : List LedgerEntry :=
  db.ledgerEntries.filter (fun e => e.referenceType = .LOAN_DISBURSEMENT ∧ e.referenceId = toString loanId)

/-- The entries that commit a balance to a loan. -/
def commitments (db : Db) (loanId : Nat) : List MemberFinancialEntry :=
  db.memberEntries.filter (fun e => e.entryType = .LOAN_PRINCIPAL_COMMITMENT ∧
    e.referenceType = some .LOAN_PRINCIPAL_COMMITMENT ∧ e.referenceId = some (toString loanId))

/-- A disbursement takes the principal of its loan out of the cash of the group. -/
structure DisbursementOf (loan : Loan) (e : LedgerEntry) : Prop where
  reference : e.referenceId = toString loan.id
  account : e.account = "CAIXINHA"
  direction : e.direction = .DEBIT
  amount : e.amount.val = loan.principal

/-- A commitment binds the balance of the borrower to the principal. -/
structure CommitmentOf (db : Db) (loan : Loan) (e : MemberFinancialEntry) : Prop where
  reference : e.referenceId = some (toString loan.id)
  amount : e.amount.val = loan.principal
  holder : ∃ account, db.accounts.find? (fun a => a.memberId = loan.memberId) = some account ∧
    e.accountId = account.id

/-- Every loan was disbursed and committed once at most, for its principal. -/
structure ReleasedOnce (db : Db) : Prop where
  keyed : Keyed Loan.id db.loans
  disbursedOnce : ∀ loanId, (disbursements db loanId).length ≤ 1
  disbursed : ∀ e ∈ db.ledgerEntries, e.referenceType = .LOAN_DISBURSEMENT →
    ∃ loan ∈ db.loans, DisbursementOf loan e
  committedOnce : ∀ loanId, (commitments db loanId).length ≤ 1
  committed : ∀ e ∈ db.memberEntries, e.entryType = .LOAN_PRINCIPAL_COMMITMENT →
    ∃ loan ∈ db.loans, CommitmentOf db loan e

section Kept

theorem loan_forward (h : List.Forall₂ LoanKept db.loans db'.loans) {loan : Loan}
    (hmem : loan ∈ db.loans) : ∃ loan' ∈ db'.loans, LoanKept loan loan' := by
  obtain ⟨i, hi, rfl⟩ := List.mem_iff_getElem.mp hmem
  have hlength := h.length_eq
  exact ⟨db'.loans[i], List.getElem_mem _, h.get hi (hlength ▸ hi)⟩

theorem DisbursementOf.kept {loan loan' : Loan} {e : LedgerEntry} (h : DisbursementOf loan e)
    (hkept : LoanKept loan loan') : DisbursementOf loan' e :=
  ⟨by rw [hkept.id_eq]; exact h.reference, h.account, h.direction, by rw [hkept.principal]; exact h.amount⟩

private theorem CommitmentOf.kept {loan loan' : Loan} {e : MemberFinancialEntry} (h : CommitmentOf db loan e)
    (hkept : LoanKept loan loan') (haccounts : ∃ added, db'.accounts = db.accounts ++ added) :
    CommitmentOf db' loan' e := by
  obtain ⟨account, hfind, hid⟩ := h.holder
  obtain ⟨added, hadded⟩ := haccounts
  refine ⟨by rw [hkept.id_eq]; exact h.reference, by rw [hkept.principal]; exact h.amount, account, ?_, hid⟩
  rw [hkept.memberId, hadded, List.find?_append, hfind]
  rfl

private theorem loans_keyed (h : List.Forall₂ LoanKept db.loans db'.loans) (hkeyed : Keyed Loan.id db.loans) :
    Keyed Loan.id db'.loans :=
  keyed_forall₂ h (fun _ _ hxy => hxy.id_eq) hkeyed

end Kept

section Step

private theorem disbursements_step (h : ReleasedOnce db) (hmove : Moved db db') (loanId : Nat) :
    (disbursements db' loanId).length ≤ 1 := by
  obtain ⟨rows, hledger, hkinds⟩ := hmove.ledger
  have hsplit : disbursements db' loanId = disbursements db loanId ++
      rows.filter (fun e => e.referenceType = .LOAN_DISBURSEMENT ∧ e.referenceId = toString loanId) := by
    rw [disbursements, hledger, List.filter_append, disbursements]
  rw [hsplit, List.length_append]
  rcases hkinds with hnone | ⟨e, loan, rfl, hdisbursed⟩
  · rw [List.filter_eq_nil_iff.mpr fun e he hyes => hnone e he (of_decide_eq_true hyes).1]
    exact h.disbursedOnce loanId
  · by_cases hid : loan.id = loanId
    · subst hid
      have hnone : disbursements db loan.id = [] := List.filter_eq_nil_iff.mpr fun x hx hyes =>
        hdisbursed.first x hx (of_decide_eq_true hyes).1 (of_decide_eq_true hyes).2
      rw [hnone, List.length_nil, Nat.zero_add]
      exact List.length_filter_le _ [e]
    · rw [List.filter_cons_of_neg, List.filter_nil]
      · exact h.disbursedOnce loanId
      · intro hyes
        have href := (of_decide_eq_true hyes).2
        rw [hdisbursed.reference] at href
        exact hid (toString_key_inj href)

private theorem commitments_step (h : ReleasedOnce db) (hmove : Moved db db') (loanId : Nat) :
    (commitments db' loanId).length ≤ 1 := by
  rcases hmove.entries with hsame | ⟨e, hone, hadded⟩
  · rw [commitments, hsame]
    exact h.committedOnce loanId
  have hsplit : commitments db' loanId = commitments db loanId ++
      [e].filter (fun e => e.entryType = .LOAN_PRINCIPAL_COMMITMENT ∧
        e.referenceType = some .LOAN_PRINCIPAL_COMMITMENT ∧ e.referenceId = some (toString loanId)) := by
    rw [commitments, hone, List.filter_append, commitments]
  have hother : (e.entryType = .LOAN_PRINCIPAL_COMMITMENT → e.referenceId ≠ some (toString loanId)) →
      (commitments db' loanId).length ≤ 1 := by
    intro hnot
    rw [hsplit, List.filter_cons_of_neg, List.filter_nil, List.append_nil]
    · exact h.committedOnce loanId
    · intro hyes
      obtain ⟨htype, -, href⟩ := of_decide_eq_true hyes
      exact hnot htype href
  cases hadded with
  | credit _ htype => exact hother fun hyes => absurd hyes htype
  | contributionReversal _ htype => exact hother (by simp [htype])
  | principalReversal _ htype => exact hother (by simp [htype])
  | ownBalance _ htype =>
    refine hother fun hyes => ?_
    simp [hyes, ownBalancePayments] at htype
  | @commitment loan account _ hfresh _ hentry =>
    by_cases hid : loan.id = loanId
    · subst hid
      have hnone : commitments db loan.id = [] := by
        refine List.filter_eq_nil_iff.mpr fun x hx hyes => ?_
        have hhas : hasCommitment db loan.id = true := List.any_eq_true.mpr ⟨x, hx, hyes⟩
        rw [hfresh] at hhas
        cases hhas
      rw [hsplit, hnone, List.nil_append]
      exact List.length_filter_le _ [e]
    · refine hother fun _ hsame => hid (toString_key_inj ?_)
      rw [hentry.referenceId] at hsame
      exact Option.some.inj hsame

theorem ReleasedOnce.step (h : ReleasedOnce db) (hmove : Moved db db') : ReleasedOnce db' := by
  have hloans := hmove.loans.forall₂ h.keyed
  refine ⟨loans_keyed hloans h.keyed, disbursements_step h hmove, ?_, commitments_step h hmove, ?_⟩
  · intro e he htype
    obtain ⟨rows, hledger, hkinds⟩ := hmove.ledger
    rw [hledger] at he
    have hnew : ∀ loan, Disbursed db loan e → ∃ loan ∈ db'.loans, DisbursementOf loan e := by
      intro loan hdisbursed
      obtain ⟨loan', hmem, hkept⟩ := loan_forward hloans (lookup_mem hdisbursed.row)
      exact ⟨loan', hmem, DisbursementOf.kept
        ⟨hdisbursed.reference, hdisbursed.account, hdisbursed.direction, hdisbursed.amount⟩ hkept⟩
    rcases List.mem_append.mp he with he | he
    · obtain ⟨loan, hmem, hof⟩ := h.disbursed e he htype
      obtain ⟨loan', hmem', hkept⟩ := loan_forward hloans hmem
      exact ⟨loan', hmem', hof.kept hkept⟩
    · rcases hkinds with hnone | ⟨x, loan, rfl, hdisbursed⟩
      · exact absurd htype (hnone e he)
      · rw [List.mem_singleton] at he
        exact hnew loan (he ▸ hdisbursed)
  · intro e he htype
    have hkeep : ∀ x ∈ db.memberEntries, x.entryType = .LOAN_PRINCIPAL_COMMITMENT →
        ∃ loan ∈ db'.loans, CommitmentOf db' loan x := by
      intro x hx hcommitment
      obtain ⟨loan, hmem, hof⟩ := h.committed x hx hcommitment
      obtain ⟨loan', hmem', hkept⟩ := loan_forward hloans hmem
      exact ⟨loan', hmem', hof.kept hkept hmove.accounts⟩
    rcases hmove.entries with hsame | ⟨x, hone, hadded⟩
    · exact hkeep e (hsame ▸ he) htype
    rw [hone] at he
    rcases List.mem_append.mp he with he | he
    · exact hkeep e he htype
    rw [List.mem_singleton] at he
    subst he
    cases hadded with
    | credit _ hnot => exact absurd htype hnot
    | contributionReversal _ hother => simp [hother] at htype
    | principalReversal _ hother => simp [hother] at htype
    | ownBalance _ hother => simp [htype, ownBalancePayments] at hother
    | @commitment loan account hrow _ hholder hentry =>
      obtain ⟨loan', hmem', hkept⟩ := loan_forward hloans (lookup_mem hrow)
      refine ⟨loan', hmem', ⟨?_, ?_, account, ?_, hentry.account⟩⟩
      · rw [hkept.id_eq]
        exact hentry.referenceId
      · rw [hkept.principal]
        exact hentry.amount
      · rw [hkept.memberId]
        exact hholder

end Step

/-- Whatever operations run, and however often a release is repeated, the principal of a loan leaves the
cash of the group at most once and is committed at most once, on the account of its borrower, and no
operation changes the borrower or the principal. -/
theorem released_once (hs : Sound db) (h : ReleasedOnce db) (ops : List (Int × Operation)) :
    ReleasedOnce (run env db ops) ∧ List.Forall₂ LoanKept db.loans (run env db ops).loans := by
  have hmove : ∀ x y, Moved x y → (ReleasedOnce x ∧ List.Forall₂ LoanKept db.loans x.loans) →
      ReleasedOnce y ∧ List.Forall₂ LoanKept db.loans y.loans := by
    rintro x y hmove ⟨hx, hkept⟩
    exact ⟨hx.step hmove, forall₂_trans (fun _ _ _ => LoanKept.trans) hkept (hmove.loans.forall₂ hx.keyed)⟩
  exact (run_moves hmove hs ⟨h, List.forall₂_same.mpr fun x _ => .refl x⟩ ops).2

section Samples

private def sampleLoan : Loan where
  id := 1
  memberId := 1
  principal := 50000
  principalSettledWithOwnBalance := 0
  calculationVersion := none
  status := .APPROVED
  disbursedAt := none
  paidAt := none
  stateRevision := 0

private def sampleDb : Db where
  members := [{ id := 1 }]
  loans := [sampleLoan]

private def sampleEnv : Env where
  sha256 := fun text => text
  lateChargeEffectiveDate := none

/-- A release told twice, its row reversed in between. -/
private def sampleOperations : List (Int × Operation) :=
  [(0, .releaseLoan 1), (1, .ledgerReverse 1 "wrong account"), (2, .releaseLoan 1)]

theorem sample_released_once :
    (disbursements (run sampleEnv sampleDb sampleOperations) 1).length ≤ 1 ∧
      (commitments (run sampleEnv sampleDb sampleOperations) 1).length ≤ 1 := by
  have hsound : Sound sampleDb := by
    constructor <;> first | decide | (constructor <;> decide)
  have hreleased : ReleasedOnce sampleDb := by
    refine ⟨by decide, ?_, ?_, ?_, ?_⟩ <;> simp [disbursements, commitments, sampleDb]
  obtain ⟨honce, -⟩ := @released_once sampleEnv sampleDb hsound hreleased sampleOperations
  exact ⟨honce.disbursedOnce 1, honce.committedOnce 1⟩

end Samples

end Caixinha.Properties.LoanReleases
