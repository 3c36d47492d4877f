import Caixinha.Effects.LoanSteps

/-! What one step adds to the member accounts and to the disbursements, and what it leaves of the
loans. -/
namespace Caixinha.Effects

open Caixinha.Library Caixinha.Library.Table Fallible Caixinha.Model

/-- What no operation changes of a loan. -/
structure LoanKept (x y : Loan) : Prop where
  id_eq : y.id = x.id
  memberId : y.memberId = x.memberId
  principal : y.principal = x.principal

theorem LoanKept.refl (x : Loan) : LoanKept x x := ⟨rfl, rfl, rfl⟩

theorem LoanKept.trans {x y z : Loan} (h : LoanKept x y) (h' : LoanKept y z) : LoanKept x z :=
  ⟨h'.id_eq.trans h.id_eq, h'.memberId.trans h.memberId, h'.principal.trans h.principal⟩

/-- One loan at most was written, and kept. -/
def LoansKept (db db' : Db) : Prop :=
  db'.loans = db.loans ∨ ∃ loan loan', db.loan? loan.id = some loan ∧ LoanKept loan loan' ∧
    db'.loans = replace Loan.id db.loans loan'

theorem LoansKept.forall₂ {db db' : Db} (hkeyed : Keyed Loan.id db.loans) (h : LoansKept db db') :
    List.Forall₂ LoanKept db.loans db'.loans := by
  rcases h with hsame | ⟨loan, loan', hloan, hkept, hloans⟩
  · rw [hsame]
    exact List.forall₂_same.mpr fun x _ => .refl x
  · rw [hloans]
    exact forall₂_replace LoanKept.refl hkeyed (hkept.id_eq ▸ hloan) hkept

theorem LoansKept.put {db x : Db} {loan loan' : Loan} (hloan : db.loan? loan.id = some loan)
    (hkept : LoanKept loan loan') (hx : x.loans = db.loans) : LoansKept db (x.putLoan loan') :=
  .inr ⟨loan, loan', hloan, hkept, by rw [Db.putLoan, hx]⟩

/-- The rows of one account, in the order they were written. -/
def accountHistory (db : Db) (accountId : Nat) : List MemberFinancialEntry :=
  db.memberEntries.filter (fun e => e.accountId = accountId)

def balancesOf (db : Db) (accountId : Nat) : Balances :=
  balancesAfter noBalances (accountHistory db accountId)

theorem balancesOf_committed_nonneg (db : Db) (accountId : Nat) :
    0 ≤ (balancesOf db accountId).committed := committed_nonneg _

/-- The entry types that pay the principal of a loan with the own balance. -/
def ownBalancePayments : List EntryType := [.OWN_BALANCE_RENEGOTIATION, .OWN_BALANCE_SETTLEMENT]

/-- An entry an operation adds, `db'` being what the operation leaves. -/
inductive EntryAdded (db db' : Db) (e : MemberFinancialEntry) : Prop where
  | credit (direction : e.direction = .CREDIT) (type : e.entryType ≠ .LOAN_PRINCIPAL_COMMITMENT)
    (notOwn : e.entryType ∉ ownBalancePayments)
  | commitment {loan account} (row : db.loan? loan.id = some loan)
    (fresh : hasCommitment db loan.id = false)
    (holder : db'.accounts.find? (fun a => a.memberId = loan.memberId) = some account)
    (entry : EntryOf account (loanCommitment loan) e)
  | contributionReversal (direction : e.direction = .DEBIT) (type : e.entryType = .CONTRIBUTION_REVERSAL)
  | principalReversal (direction : e.direction = .DEBIT) (type : e.entryType = .LOAN_PRINCIPAL_REVERSAL)
    (covered : e.amount.val ≤ (balancesOf db e.accountId).own)
  | ownBalance (direction : e.direction = .DEBIT) (type : e.entryType ∈ ownBalancePayments)
    (covered : e.amount.val ≤ (balancesOf db e.accountId).own - (balancesOf db e.accountId).committed)

/-- The row of the one disbursement of a loan. -/
structure Disbursed (db : Db) (loan : Loan) (e : LedgerEntry) : Prop where
  row : db.loan? loan.id = some loan
  account : e.account = "CAIXINHA"
  direction : e.direction = .DEBIT
  amount : e.amount.val = loan.principal
  type : e.referenceType = .LOAN_DISBURSEMENT
  reference : e.referenceId = toString loan.id
  first : ∀ x ∈ db.ledgerEntries, x.referenceType = .LOAN_DISBURSEMENT → x.referenceId ≠ toString loan.id

/-- The money side of a step. -/
structure Moved (db db' : Db) : Prop where
  accounts : ∃ added, db'.accounts = db.accounts ++ added
  loans : LoansKept db db'
  entries : db'.memberEntries = db.memberEntries ∨
    ∃ e, db'.memberEntries = db.memberEntries ++ [e] ∧ EntryAdded db db' e
  ledger : ∃ rows, db'.ledgerEntries = db.ledgerEntries ++ rows ∧
    ((∀ e ∈ rows, e.referenceType ≠ .LOAN_DISBURSEMENT) ∨ ∃ e loan, rows = [e] ∧ Disbursed db loan e)

theorem Moved.aside {db db' : Db} (haccounts : db'.accounts = db.accounts) (hloans : db'.loans = db.loans)
    (hentries : db'.memberEntries = db.memberEntries) (hledger : db'.ledgerEntries = db.ledgerEntries) :
    Moved db db' :=
  ⟨⟨[], by simp [haccounts]⟩, .inl hloans, .inl hentries, [], by simp [hledger], .inl (by simp)⟩

section Position
variable {db : Db} {account : MemberFinancialAccount} {memberId : Nat}

theorem getMemberFinancialPosition_eq
    (haccount : db.accounts.find? (fun a => a.memberId = memberId) = some account) :
    getMemberFinancialPosition db memberId = (balancesOf db account.id).position := by
  rw [getMemberFinancialPosition, haccount]
  rfl

/-- What is available is own balance beyond what is committed. -/
theorem covered_of_available {locked : Db} {amount : Int}
    (haccount : locked.accounts.find? (fun a => a.memberId = memberId) = some account)
    (hpos : 0 < amount)
    (h : amount ≤ (getMemberFinancialPosition locked memberId).availableBalance)
    (hentries : locked.memberEntries = db.memberEntries) :
    amount ≤ (balancesOf db account.id).own - (balancesOf db account.id).committed := by
  have hsame : balancesOf locked account.id = balancesOf db account.id := by
    rw [balancesOf, accountHistory, hentries]
    rfl
  rw [getMemberFinancialPosition_eq haccount, hsame] at h
  simp only [Balances.position] at h
  omega

end Position

section OwnBalance
variable {env : Env} {db db' : Db} {clock : Int} {result : OwnBalanceResult}

/-- What an own-balance operation writes: the account it may open, one covered debit at most, and the
loan. -/
structure OwnBalanceUsed (db db' : Db) (type : EntryType) (referenceType : MemberReferenceType)
    (loan : Loan) (accounts : List MemberFinancialAccount) (account : MemberFinancialAccount)
    (entries : List MemberFinancialEntry) : Prop where
  row : db.loan? loan.id = some loan
  holder : (db.accounts ++ accounts).find? (fun a => a.memberId = loan.memberId) = some account
  spent : entries = [] ∨ ∃ e, entries = [e] ∧
    EntryOf account (ownBalanceDebit type referenceType loan.id e.amount.val) e ∧
    e.amount.val ≤ (balancesOf db account.id).own - (balancesOf db account.id).committed
  loans : LoansKept db db'
  only : db' = { db with
    accounts := db.accounts ++ accounts, memberEntries := db.memberEntries ++ entries
    loanInstallments := db'.loanInstallments, loans := db'.loans }

theorem settleLoanWithOwnBalance_spec {loanId : Nat} {financialAt : Option Timestamp}
    (h : settleLoanWithOwnBalance db clock loanId financialAt = .ok (db', result)) :
    ∃ loan accounts account entries, OwnBalanceUsed db db' .OWN_BALANCE_SETTLEMENT
      .OWN_BALANCE_SETTLEMENT loan accounts account entries := by
  unfold settleLoanWithOwnBalance at h
  simp only [bind_eq_ok, refuseIf_eq_ok, orRefuse_eq_ok, Prod.exists, exists_and_left,
    exists_const] at h
  obtain ⟨-, loan, hloan, locked, account, hlock, h⟩ := h
  obtain ⟨accounts, rfl, -, hholder, -⟩ := lockMemberFinancialAccount_spec hlock
  obtain rfl : loan.id = loanId := lookup_key hloan
  split at h
  · rw [pure_eq_ok, Prod.mk.injEq] at h
    obtain ⟨rfl, -⟩ := h
    exact ⟨loan, accounts, account, [], hloan, hholder, .inl rfl, .inl rfl, by simp⟩
  · simp only [bind_eq_ok, pure_eq_ok, refuseIf_eq_ok, Prod.exists, Prod.mk.injEq, exists_and_left,
      exists_const] at h
    obtain ⟨-, -, -, quote, -, -, hpos, hcover, credited, e, hadd, rfl, -⟩ := h
    obtain ⟨rfl, he⟩ := addMemberFinancialEntry_spec hadd
    have hamount : e.amount.val = quote.principalDue := he.amount
    refine ⟨loan, accounts, account, [e], hloan, hholder, .inr ⟨e, rfl, ?_, ?_⟩, .put hloan ⟨rfl, rfl, rfl⟩ rfl,
      rfl⟩
    · rw [hamount]
      exact he
    · exact covered_of_available hholder e.amount.property (hamount ▸ not_lt.mp hcover) rfl

theorem renegotiateLoanWithOwnBalance_spec {loanId : Nat} {amount : Int}
    (h : renegotiateLoanWithOwnBalance db clock loanId amount = .ok (db', result)) :
    ∃ loan accounts account entries, OwnBalanceUsed db db' .OWN_BALANCE_RENEGOTIATION
      .OWN_BALANCE_RENEGOTIATION loan accounts account entries := by
  unfold renegotiateLoanWithOwnBalance at h
  simp only [bind_eq_ok, refuseIf_eq_ok, orRefuse_eq_ok, Prod.exists, exists_and_left,
    exists_const] at h
  obtain ⟨loan, hloan, locked, account, hlock, -, -, h⟩ := h
  obtain ⟨accounts, rfl, -, hholder, -⟩ := lockMemberFinancialAccount_spec hlock
  obtain rfl : loan.id = loanId := lookup_key hloan
  split at h
  · rw [pure_eq_ok, Prod.mk.injEq] at h
    obtain ⟨rfl, -⟩ := h
    exact ⟨loan, accounts, account, [], hloan, hholder, .inl rfl, .inl rfl, by simp⟩
  · simp only [bind_eq_ok, pure_eq_ok, refuseIf_eq_ok, Prod.exists, Prod.mk.injEq, exists_and_left,
      exists_const] at h
    obtain ⟨-, -, hcover, credited, e, hadd, rfl, -⟩ := h
    obtain ⟨rfl, he⟩ := addMemberFinancialEntry_spec hadd
    have hamount : e.amount.val = amount := he.amount
    refine ⟨loan, accounts, account, [e], hloan, hholder, .inr ⟨e, rfl, ?_, ?_⟩, .put hloan ⟨rfl, rfl, rfl⟩ rfl,
      rfl⟩
    · rw [hamount]
      exact he
    · exact covered_of_available hholder e.amount.property (hamount ▸ not_lt.mp hcover) rfl

theorem OwnBalanceUsed.moved {type : EntryType} {referenceType : MemberReferenceType} {loan : Loan}
    {accounts : List MemberFinancialAccount} {account : MemberFinancialAccount}
    {entries : List MemberFinancialEntry}
    (h : OwnBalanceUsed db db' type referenceType loan accounts account entries)
    (htype : type ∈ ownBalancePayments) : Moved db db' := by
  refine ⟨⟨accounts, by rw [h.only]⟩, h.loans, ?_, [], by rw [h.only]; simp, .inl (by simp)⟩
  rcases h.spent with hnil | ⟨e, hone, hentry, hcovered⟩
  · exact .inl (by rw [h.only, hnil]; simp)
  · refine .inr ⟨e, by rw [h.only, hone], .ownBalance hentry.direction ?_ ?_⟩
    · rw [hentry.entryType]
      exact htype
    · rw [hentry.account]
      exact hcovered

end OwnBalance

section Release
variable {env : Env} {db db' : Db} {clock : Int}

/-- What a release writes: the account it may open, the commitment and the disbursement of the loan
unless they are there, and the loan. -/
structure LoanReleased (db db' : Db) (loan : Loan) (accounts : List MemberFinancialAccount)
    (account : MemberFinancialAccount) (entries : List MemberFinancialEntry) (rows : List LedgerEntry) :
    Prop where
  row : db.loan? loan.id = some loan
  holder : (db.accounts ++ accounts).find? (fun a => a.memberId = loan.memberId) = some account
  committed : entries = [] ∨ ∃ e, entries = [e] ∧ hasCommitment db loan.id = false ∧
    EntryOf account (loanCommitment loan) e
  disbursed : (rows = [] ∧ ∃ e ∈ db.ledgerEntries, e.referenceType = .LOAN_DISBURSEMENT ∧
    e.referenceId = toString loan.id) ∨ ∃ e, rows = [e] ∧ Disbursed db loan e
  loans : LoansKept db db'
  only : db' = { db with
    accounts := db.accounts ++ accounts, memberEntries := db.memberEntries ++ entries
    ledgerEntries := db.ledgerEntries ++ rows, loans := db'.loans }

theorem releaseLoan_spec {loanId : Nat} {released : Bool}
    (h : releaseLoan env db clock loanId = .ok (db', released)) :
    ∃ loan accounts account entries rows, loan.id = loanId ∧
      LoanReleased db db' loan accounts account entries rows := by
  unfold releaseLoan at h
  simp only [bind_eq_ok, orRefuse_eq_ok, Prod.exists] at h
  obtain ⟨loan, hloan, locked, account, hlock, h⟩ := h
  obtain ⟨accounts, rfl, -, hholder, -⟩ := lockMemberFinancialAccount_spec hlock
  obtain rfl : loan.id = loanId := lookup_key hloan
  split at h
  · rename_i e hfound
    have hthere : ∃ e ∈ db.ledgerEntries, e.referenceType = .LOAN_DISBURSEMENT ∧
        e.referenceId = toString loan.id := by
      have hkind := List.find?_some hfound
      rw [decide_eq_true_eq] at hkind
      exact ⟨e, List.mem_of_find?_eq_some hfound, hkind⟩
    split at h
    · rw [pure_eq_ok, Prod.mk.injEq] at h
      obtain ⟨rfl, -⟩ := h
      exact ⟨loan, accounts, account, [], [], rfl, hloan, hholder, .inl rfl, .inl ⟨rfl, hthere⟩, .inl rfl,
        by simp⟩
    · rw [pure_eq_ok, Prod.mk.injEq] at h
      obtain ⟨rfl, -⟩ := h
      exact ⟨loan, accounts, account, [], [], rfl, hloan, hholder, .inl rfl, .inl ⟨rfl, hthere⟩,
        .put hloan ⟨rfl, rfl, rfl⟩ rfl, by simp [Db.putLoan]⟩
  · rename_i hnone
    simp only [bind_eq_ok, pure_eq_ok, refuseIf_eq_ok, Prod.exists, Prod.mk.injEq, exists_and_left,
      exists_const] at h
    obtain ⟨-, posted, e, hpost, committed, hcommit, rfl, -⟩ := h
    obtain ⟨rfl, -, haccount, hdirection, hamount, htype, href, -⟩ := postEntry_spec hpost
    have hdisbursed : Disbursed db loan e := by
      refine ⟨hloan, haccount, hdirection, hamount, htype, href, fun x hx hx' hid => ?_⟩
      have := List.find?_eq_none.mp hnone x hx
      simp [hx', hid] at this
    unfold commitPrincipal at hcommit
    split at hcommit
    · rw [pure_eq_ok] at hcommit
      subst hcommit
      exact ⟨loan, accounts, account, [], [e], rfl, hloan, hholder, .inl rfl, .inr ⟨e, rfl, hdisbursed⟩,
        .put hloan ⟨rfl, rfl, rfl⟩ rfl, by simp [Db.putLoan]⟩
    · rename_i hfresh
      simp only [bind_eq_ok, pure_eq_ok, Prod.exists] at hcommit
      obtain ⟨added, entry, hadd, rfl⟩ := hcommit
      obtain ⟨rfl, hentry⟩ := addMemberFinancialEntry_spec hadd
      exact ⟨loan, accounts, account, [entry], [e], rfl, hloan, hholder,
        .inr ⟨entry, rfl, Bool.eq_false_iff.mpr hfresh, hentry⟩, .inr ⟨e, rfl, hdisbursed⟩,
        .put hloan ⟨rfl, rfl, rfl⟩ rfl, rfl⟩

theorem LoanReleased.moved {loan : Loan} {accounts : List MemberFinancialAccount}
    {account : MemberFinancialAccount} {entries : List MemberFinancialEntry} {rows : List LedgerEntry}
    (h : LoanReleased db db' loan accounts account entries rows) : Moved db db' := by
  refine ⟨⟨accounts, by rw [h.only]⟩, h.loans, ?_, rows, by rw [h.only], ?_⟩
  · rcases h.committed with hnil | ⟨e, hone, hfresh, hentry⟩
    · exact .inl (by rw [h.only, hnil]; simp)
    · refine .inr ⟨e, by rw [h.only, hone], .commitment h.row hfresh ?_ hentry⟩
      rw [h.only]
      exact h.holder
  · rcases h.disbursed with ⟨hnil, -⟩ | ⟨e, hone, hdisbursed⟩
    · exact .inl (by simp [hnil])
    · exact .inr ⟨e, loan, hone, hdisbursed⟩

end Release

end Caixinha.Effects
