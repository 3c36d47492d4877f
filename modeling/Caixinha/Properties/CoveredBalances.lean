import Caixinha.Effects.MoneySteps

/-! The member balances over whole runs: nothing but the reversal of a contribution ever takes more
than there is, so no balance goes below zero. -/
namespace Caixinha.Properties.CoveredBalances

open Caixinha.Library Caixinha.Library.Table Fallible Caixinha.Model Caixinha.Effects

variable {env : Env} {db db' : Db} {b : Balances} {e : MemberFinancialEntry}
  {xs ys : List MemberFinancialEntry}

/-- The balance an entry meets pays for it; what pays a loan with the own balance comes out of what is
not committed. Only the reversal of a contribution may find less than it takes. -/
structure Covers (b : Balances) (e : MemberFinancialEntry) : Prop where
  debit : e.direction = .DEBIT → e.entryType ≠ .CONTRIBUTION_REVERSAL → e.amount.val ≤ b.own
  ownBalance : e.entryType ∈ ownBalancePayments → e.amount.val ≤ b.own - b.committed

/-- Every entry of a history is covered by the balances it meets. -/
def CoveredFrom (b : Balances) : List MemberFinancialEntry → Prop
  | [] => True
  | e :: es => Covers b e ∧ CoveredFrom (applyEntry b e) es

/-- The histories of all accounts are covered. -/
def Covered (db : Db) : Prop := ∀ accountId, CoveredFrom noBalances (accountHistory db accountId)

theorem coveredFrom_append :
    CoveredFrom b (xs ++ ys) ↔ CoveredFrom b xs ∧ CoveredFrom (balancesAfter b xs) ys := by
  induction xs generalizing b with
  | nil => simp [CoveredFrom, balancesAfter]
  | cons x xs ih =>
    rw [List.cons_append, CoveredFrom, CoveredFrom, ih, and_assoc]
    rfl

private theorem applyEntry_own_nonneg (hb : 0 ≤ b.own) (h : Covers b e) : 0 ≤ (applyEntry b e).own := by
  have hpos := e.amount.property
  have hdebit := h.debit
  unfold applyEntry
  split <;> simp_all <;> omega

/-- A covered history never takes the own balance below zero. -/
theorem own_nonneg_of_covered (hb : 0 ≤ b.own) (h : CoveredFrom b xs) : 0 ≤ (balancesAfter b xs).own := by
  induction xs generalizing b with
  | nil => exact hb
  | cons x xs ih => exact ih (applyEntry_own_nonneg hb h.1) h.2

section Step

private theorem covers_of_added (hcommitted : 0 ≤ (balancesOf db e.accountId).committed)
    (h : EntryAdded db db' e) : Covers (balancesOf db e.accountId) e := by
  cases h with
  | credit hdirection _ hnot => exact ⟨fun hdebit => by simp [hdirection] at hdebit, fun hown => absurd hown hnot⟩
  | commitment _ _ _ hentry =>
    refine ⟨fun hdebit => ?_, fun hown => ?_⟩
    · simp [hentry.direction, loanCommitment] at hdebit
    · simp [hentry.entryType, loanCommitment, ownBalancePayments] at hown
  | contributionReversal _ htype =>
    refine ⟨fun _ hne => absurd htype hne, fun hown => ?_⟩
    simp [htype, ownBalancePayments] at hown
  | principalReversal _ htype hcovered =>
    refine ⟨fun _ _ => hcovered, fun hown => ?_⟩
    simp [htype, ownBalancePayments] at hown
  | ownBalance _ _ hcovered => exact ⟨fun _ _ => by omega, fun _ => hcovered⟩

theorem Covered.step (h : Covered db) (hmove : Moved db db') : Covered db' := by
  intro accountId
  rcases hmove.entries with hsame | ⟨e, hone, hadded⟩
  · rw [accountHistory, hsame]
    exact h accountId
  · rw [accountHistory, hone, List.filter_append]
    by_cases hid : e.accountId = accountId
    · subst hid
      rw [List.filter_cons_of_pos (by simp), List.filter_nil, coveredFrom_append]
      exact ⟨h _, covers_of_added (balancesOf_committed_nonneg db _) hadded, trivial⟩
    · rw [List.filter_cons_of_neg (by simpa using hid), List.filter_nil, List.append_nil]
      exact h accountId

end Step

theorem position_nonneg (h : Covered db) (memberId : Nat) :
    0 ≤ (getMemberFinancialPosition db memberId).ownBalance ∧
      0 ≤ (getMemberFinancialPosition db memberId).committedBalance ∧
      (getMemberFinancialPosition db memberId).availableBalance ≤
        (getMemberFinancialPosition db memberId).ownBalance := by
  cases haccount : db.accounts.find? (fun a => a.memberId = memberId) with
  | none =>
    have hnone : getMemberFinancialPosition db memberId = noBalances.position := by
      rw [getMemberFinancialPosition, haccount]
    rw [hnone]
    decide
  | some account =>
    have hown : 0 ≤ (balancesOf db account.id).own := own_nonneg_of_covered le_rfl (h account.id)
    have hcommitted := balancesOf_committed_nonneg db account.id
    rw [getMemberFinancialPosition_eq haccount]
    refine ⟨hown, hcommitted, ?_⟩
    simp only [Balances.position]
    omega

/-- Whatever operations run, every entry but the reversal of a contribution takes no more than the own
balance it meets, a loan is paid with own balance that is not committed, and no member's own or
committed balance is ever negative. -/
theorem balances_stay_covered (hs : Sound db) (h : Covered db) (ops : List (Int × Operation)) :
    Covered (run env db ops) ∧ ∀ memberId,
      0 ≤ (getMemberFinancialPosition (run env db ops) memberId).ownBalance ∧
      0 ≤ (getMemberFinancialPosition (run env db ops) memberId).committedBalance ∧
      (getMemberFinancialPosition (run env db ops) memberId).availableBalance ≤
        (getMemberFinancialPosition (run env db ops) memberId).ownBalance := by
  have hcovered : Covered (run env db ops) :=
    (run_moves (fun _ _ hmove hx => Covered.step hx hmove) hs h ops).2
  exact ⟨hcovered, position_nonneg hcovered⟩

section Samples

private def sampleContribution : Contribution where
  id := 1
  memberId := 1
  competence := 20000
  amount := 10000
  status := .PENDING
  paymentId := none
  dueDate := some 20000
  paidAmount := some 0
  paidAt := none
  cancelledAt := none
  cancellationReason := none

private def samplePayment : Payment where
  id := 1
  provider := "mercado_pago"
  providerOrderId := none
  providerPaymentId := none
  amount := 10000
  status := "approved"
  externalReference := none
  pixTxid := none
  endToEndId := none
  providerStatusDetail := none
  confirmedAt := none
  expiresAt := none
  amountReceived := none
  ledgerPostedAt := none
  reference := some (.contribution 1)
  attemptStatus := none
  calculatedForDate := none
  financialSnapshotJson := none
  snapshotHash := none
  reconciliationStatus := none

private def sampleDb : Db where
  users := [{ id := 7, isActive := true, isAdmin := true, isMaster := true }]
  members := [{ id := 1 }]
  contributions := [sampleContribution]
  payments := [samplePayment]

private def sampleEnv : Env where
  sha256 := fun text => text
  lateChargeEffectiveDate := none

/-- A contribution paid and taken back. -/
theorem sample_balances_stay_covered :
    0 ≤ (getMemberFinancialPosition (run sampleEnv sampleDb
      [(0, .settle 1 { source := "webhook" }), (5, .reverse 1 7 "wrong payer" none)]) 1).ownBalance := by
  have hsound : Sound sampleDb := by
    constructor <;> first | decide | (constructor <;> decide)
  have hcovered : Covered sampleDb := fun _ => trivial
  exact ((@balances_stay_covered sampleEnv sampleDb hsound hcovered
    [(0, .settle 1 { source := "webhook" }), (5, .reverse 1 7 "wrong payer" none)]).2 1).1

end Samples

end Caixinha.Properties.CoveredBalances
