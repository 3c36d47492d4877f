import Caixinha.Effects.LoanBooks
import Caixinha.Library.PositiveParts
import Mathlib.Tactic.Ring

/-! The payoff quote of a loan against the obligations of its installments. -/
namespace Caixinha.Properties.LoanPayoffQuotes

open Caixinha.Library Caixinha.Library.Table Caixinha.Library.PositiveParts Fallible Caixinha.Model Caixinha.Effects

/-- On a day the quote of a loan is, component by component, what its installments owe together, and it is
refused just when what one of them owes cannot be told. -/
def Agrees (db : Db) (loan : Loan) (day : Int) : Prop :=
  match loanPayoffQuote db loan day,
    (loanInstallmentsOf db loan.id).mapM (fun inst => loanInstallmentObligation db inst day) with
  | .ok quote, .ok obligations =>
    quote.principalDue = (obligations.map (·.principalDue)).sum ∧
    quote.normalPriceInterestDue = (obligations.map (·.normalPriceInterestDue)).sum ∧
    quote.fixedPenaltyDue = (obligations.map (·.fixedPenaltyDue)).sum ∧
    quote.lateInterestDue = (obligations.map (·.lateInterestDue)).sum ∧
    quote.totalDue = (obligations.map (·.totalDue)).sum
  | .error _, .error _ => True
  | _, _ => False

instance (db : Db) (loan : Loan) (day : Int) : Decidable (Agrees db loan day) := by
  unfold Agrees
  split <;> infer_instance

/-- A loan that was lent and that no own balance reduced: its installments make up its principal. -/
structure Lent (db : Db) (loan : Loan) : Prop where
  positive : 0 < loan.principal
  principal : ((loanInstallmentsOf db loan.id).map (·.principal)).sum = loan.principal
  entries : ownBalanceEntries db loan.id = []
  projection : loan.principalSettledWithOwnBalance = 0

variable {env : Env} {db : Db} {loan : Loan} {day : Int} {ops : List (Int × Operation)}

/-- What of the principal of an installment is open on a day, negative when too much was applied. -/
private def openPrincipal (db : Db) (day : Int) (inst : LoanInstallment) : Int :=
  inst.principal - appliedOn db inst.id day

/-- An installment that is due owes what it adds to the quote, and its principal. -/
private theorem obligation_eq {inst : LoanInstallment} (hdue : inst.dueDate ≤ day) :
    loanInstallmentObligation db inst day = (fun c =>
      { principalDue := max 0 (openPrincipal db day inst), normalPriceInterestDue := c.1
        fixedPenaltyDue := c.2.1, lateInterestDue := c.2.2
        totalDue := max 0 (openPrincipal db day inst) + c.1 + c.2.1 + c.2.2 }) <$>
      installmentCharges db day inst := by
  unfold loanInstallmentObligation installmentCharges
  simp only [if_neg (not_lt.mpr hdue), if_pos hdue]
  cases lateInterestMaterialized db inst.id (some day) <;> rfl

/-- The charges of the quote and the obligations are told together, and add up alike. -/
private theorem mapM_charges (rows : List LoanInstallment) (hdue : ∀ inst ∈ rows, inst.dueDate ≤ day) :
    (∃ e e', rows.mapM (installmentCharges db day) = .error e ∧
      rows.mapM (fun inst => loanInstallmentObligation db inst day) = .error e') ∨
    ∃ charges obligations, rows.mapM (installmentCharges db day) = .ok charges ∧
      rows.mapM (fun inst => loanInstallmentObligation db inst day) = .ok obligations ∧
      (obligations.map (·.principalDue)).sum = surplus (rows.map (openPrincipal db day)) ∧
      (obligations.map (·.normalPriceInterestDue)).sum = (charges.map (·.1)).sum ∧
      (obligations.map (·.fixedPenaltyDue)).sum = (charges.map (·.2.1)).sum ∧
      (obligations.map (·.lateInterestDue)).sum = (charges.map (·.2.2)).sum ∧
      (obligations.map (·.totalDue)).sum = surplus (rows.map (openPrincipal db day)) +
        (charges.map (·.1)).sum + (charges.map (·.2.1)).sum + (charges.map (·.2.2)).sum := by
  induction rows with
  | nil => exact .inr ⟨[], [], rfl, rfl, rfl, rfl, rfl, rfl, rfl⟩
  | cons inst rows ih =>
    obtain ⟨hinst, hrows⟩ := List.forall_mem_cons.mp hdue
    rw [List.mapM_cons, List.mapM_cons, obligation_eq hinst]
    cases hcharge : installmentCharges db day inst with
    | error e => exact .inl ⟨e, e, rfl, rfl⟩
    | ok c =>
      rcases ih hrows with ⟨e, e', he, he'⟩ | ⟨charges, obligations, hcharges, hobligations, h1, h2, h3, h4, h5⟩
      · exact .inl ⟨e, e', by rw [he]; rfl, by rw [he']; rfl⟩
      · refine .inr ⟨c :: charges, _ :: obligations, by rw [hcharges]; rfl, by rw [hobligations]; rfl, ?_⟩
        simp only [surplus, List.map_cons, List.sum_cons] at h1 h5 ⊢
        rw [h1, h2, h3, h4, h5]
        refine ⟨rfl, rfl, rfl, rfl, ?_⟩
        ring

/-- The quote of a loan that was lent, from the charges of its installments. -/
private theorem quote_eq (hlent : Lent db loan) : loanPayoffQuote db loan day = (fun charges =>
    { financialDate := day
      principalDue := max 0 ((loanInstallmentsOf db loan.id).map (openPrincipal db day)).sum
      normalPriceInterestDue := (charges.map (·.1)).sum
      fixedPenaltyDue := (charges.map (·.2.1)).sum
      lateInterestDue := (charges.map (·.2.2)).sum
      totalDue := max 0 ((loanInstallmentsOf db loan.id).map (openPrincipal db day)).sum +
        (charges.map (·.1)).sum + (charges.map (·.2.1)).sum + (charges.map (·.2.2)).sum }) <$>
      (loanInstallmentsOf db loan.id).mapM (installmentCharges db day) := by
  obtain ⟨hpositive, hprincipal, hentries, hprojection⟩ := hlent
  have hsome : (loanInstallmentsOf db loan.id).isEmpty = false := by
    rw [List.isEmpty_eq_false_iff]
    intro hnone
    rw [hnone] at hprincipal
    exact hpositive.ne hprincipal
  have hopen : ((loanInstallmentsOf db loan.id).map (openPrincipal db day)).sum = loan.principal -
      ((loanInstallmentsOf db loan.id).map
        (fun i => total (·.principalApplied) (activeSettlements db i.id day))).sum - 0 := by
    rw [sub_zero, ← hprincipal]
    induction loanInstallmentsOf db loan.id with
    | nil => rfl
    | cons inst rows ih =>
      simp only [List.map_cons, List.sum_cons, ih, openPrincipal, appliedOn]
      omega
  rw [hopen]
  unfold loanPayoffQuote
  simp only [hsome, hentries, hprojection, refuseIf, Bool.false_eq_true, ↓reduceIte, ok_bind, entryTotal, List.map_nil, List.sum_nil, ne_eq,
    not_true_eq_false, List.filter_nil]
  cases (loanInstallmentsOf db loan.id).mapM (installmentCharges db day) <;> rfl

private theorem mem_loanInstallmentsOf {inst : LoanInstallment} {loanId : Nat} :
    inst ∈ loanInstallmentsOf db loanId ↔ inst ∈ db.loanInstallments ∧ inst.loanId = loanId := by
  simp [loanInstallmentsOf]

/-- In any state, from the last due date on, the two agree exactly when one of the obligations cannot be told or
no installment got more than its principal while another still owes some: the quote clamps what was applied to
the loan once, and the obligations clamp it once each. -/
theorem agrees_iff (hlent : Lent db loan) (hdue : ∀ inst ∈ loanInstallmentsOf db loan.id, inst.dueDate ≤ day) :
    Agrees db loan day ↔
      (∃ inst ∈ loanInstallmentsOf db loan.id, ∃ e, loanInstallmentObligation db inst day = .error e) ∨
      (∀ inst ∈ loanInstallmentsOf db loan.id, appliedOn db inst.id day ≤ inst.principal) ∨
      ∀ inst ∈ loanInstallmentsOf db loan.id, inst.principal ≤ appliedOn db inst.id day := by
  have hsigns : ((∀ n ∈ (loanInstallmentsOf db loan.id).map (openPrincipal db day), 0 ≤ n) ∨
        ∀ n ∈ (loanInstallmentsOf db loan.id).map (openPrincipal db day), n ≤ 0) ↔
      (∀ inst ∈ loanInstallmentsOf db loan.id, appliedOn db inst.id day ≤ inst.principal) ∨
        ∀ inst ∈ loanInstallmentsOf db loan.id, inst.principal ≤ appliedOn db inst.id day := by
    simp [openPrincipal]
  rw [← hsigns, ← surplus_eq_iff, ← mapM_error_iff, Agrees, quote_eq hlent]
  rcases @mapM_charges db _ (loanInstallmentsOf db loan.id) hdue with
    ⟨e, e', he, he'⟩ | ⟨charges, obligations, hcharges, hobligations, h1, h2, h3, h4, h5⟩
  · rw [he, he']
    exact ⟨fun _ => .inl ⟨e', rfl⟩, fun _ => trivial⟩
  · rw [hcharges, hobligations]
    constructor
    · rintro ⟨hprincipal, -⟩
      exact .inr (h1.symm.trans hprincipal.symm)
    · rintro (⟨e, he⟩ | hsame)
      · cases he
      · refine ⟨(h1.trans hsame).symm, h2.symm, h3.symm, h4.symm, ?_⟩
        rw [h5, hsame]

/-- From the last due date on, the quote of a loan is what its installments owe together, in every state that
settlements and reversals reach when no settlement of an installment is dated before what it cannot see: the
earlier settlements of the installment under late charge v1, and its earlier reversals before it. -/
theorem quote_agrees (hs : Sound db) (hunpaid : ∀ x ∈ db.loanInstallments, x.loanId = loan.id → Unpaid db x)
    (hops : ∀ op ∈ ops, PaysOrReverses op.2) (horder : TimelyRun env db ops) (hlent : Lent (run env db ops) loan)
    (hdue : ∀ inst ∈ loanInstallmentsOf (run env db ops) loan.id, inst.dueDate ≤ day) :
    Agrees (run env db ops) loan day := by
  refine (agrees_iff hlent hdue).mpr (.inr (.inl fun inst hinst => ?_))
  obtain ⟨hrow, hloan⟩ := mem_loanInstallmentsOf.mp hinst
  obtain ⟨x, hx, hcontract⟩ := contracts_run hs hops hrow
  have hwithin := withinPrincipal_run (hunpaid x hx (hcontract.loanId ▸ hloan)) hs hops horder
  rw [hcontract.id_eq, hcontract.principal]
  exact hwithin.within day

section Sample

private def sampleInstallment (id : Nat) : LoanInstallment where
  id := id
  loanId := 1
  number := id
  dueDate := 20800 + 30 * (id - 1)
  principal := 10000
  interest := 2000
  amount := 12000
  paidAmount := 0
  penaltyAmount := 0
  paidPenaltyAmount := 0
  lateCharge := none
  paidAt := none
  status := .OPEN

private def sampleLoan : Loan where
  id := 1
  memberId := 1
  principal := 20000
  principalSettledWithOwnBalance := 0
  calculationVersion := some "PRICE_V1"
  status := .ACTIVE
  disbursedAt := some 0
  paidAt := none
  stateRevision := 1

private def samplePayment (id : Nat) (amount : Int) : Payment where
  id := id
  provider := "mercado_pago"
  providerOrderId := none
  providerPaymentId := none
  amount := amount
  status := "approved"
  externalReference := none
  pixTxid := none
  endToEndId := none
  providerStatusDetail := none
  confirmedAt := none
  expiresAt := none
  amountReceived := none
  ledgerPostedAt := none
  reference := some (.loanInstallment 1)
  attemptStatus := none
  calculatedForDate := none
  financialSnapshotJson := none
  snapshotHash := none
  reconciliationStatus := none

private def sampleDb : Db where
  users := [{ id := 7, isActive := true, isAdmin := true, isMaster := true }]
  members := [{ id := 1 }]
  loans := [sampleLoan]
  loanInstallments := [sampleInstallment 1, sampleInstallment 2]
  payments := [samplePayment 1 13067, samplePayment 2 2010]

private def sampleEnv : Env where
  sha256 := fun _ => ""
  lateChargeEffectiveDate := some 20000

private def noon (day : Int) : Int := day * dayLength + dayLength / 2

private def settleOn (clock day : Int) (paymentId : Nat) : Int × Operation :=
  (noon clock, .settle paymentId { source := "webhook", confirmedAt := some ⟨noon day, true⟩ })

/-- A payment on the due date of an installment and one a day later. -/
private def inOrder : List (Int × Operation) := [settleOn 20800 20800 2, settleOn 20801 20801 1]

/-- The same payments, the one of the due date settled last. -/
private def backdated : List (Int × Operation) := [settleOn 20801 20801 1, settleOn 20802 20800 2]

private theorem paysOrReverses_pair {a b : Int × Operation} (ha : PaysOrReverses a.2) (hb : PaysOrReverses b.2) :
    ∀ op ∈ [a, b], PaysOrReverses op.2 := by simp [ha, hb]

private theorem paysOrReverses_settleOn {clock day : Int} {paymentId : Nat} :
    PaysOrReverses (settleOn clock day paymentId).2 := trivial

private theorem sampleDb_sound : Sound sampleDb := by
  constructor
  case ledger => constructor <;> simp [sampleDb, Keyed]
  all_goals simp [sampleDb, Keyed, samplePayment, sampleInstallment]

private theorem sampleDb_unpaid : ∀ x ∈ sampleDb.loanInstallments, x.loanId = sampleLoan.id → Unpaid sampleDb x := by
  intro x hx _
  have hcases : x = sampleInstallment 1 ∨ x = sampleInstallment 2 := by simpa [sampleDb] using hx
  rcases hcases with rfl | rfl
  · exact ⟨by decide, by decide, by decide, by simp [sampleDb]⟩
  · exact ⟨by decide, by decide, by decide, by simp [sampleDb]⟩

private theorem timely_settleOn {db : Db} {clock at_ : Int} {paymentId : Nat}
    (heligible : ∀ inst ∈ db.loanInstallments, isLateChargeEligible inst.dueDate sampleEnv.lateChargeEffectiveDate)
    (hearlier : ∀ s ∈ db.settlements, s.financialDate ≤ financialCivilDate at_) :
    Timely sampleEnv db clock (.settle paymentId { source := "webhook", confirmedAt := some ⟨at_, true⟩ }) := by
  intro payment inst _ _ _ hinst
  rw [InOrder, if_pos (heligible inst (lookup_mem hinst))]
  exact fun s hs _ => hearlier s hs

private theorem lent_sample {ops : List (Int × Operation)}
    (h : (decide (((loanInstallmentsOf (run sampleEnv sampleDb ops) 1).map (·.principal)).sum = 20000) &&
      (ownBalanceEntries (run sampleEnv sampleDb ops) 1).isEmpty) = true) :
    Lent (run sampleEnv sampleDb ops) sampleLoan := by
  rw [Bool.and_eq_true, decide_eq_true_eq, List.isEmpty_iff] at h
  exact ⟨by decide, h.1, h.2, rfl⟩

private theorem inOrder_lent : Lent (run sampleEnv sampleDb inOrder) sampleLoan := by
  apply lent_sample
  decide

private theorem inOrder_due :
    ∀ inst ∈ loanInstallmentsOf (run sampleEnv sampleDb inOrder) sampleLoan.id, inst.dueDate ≤ 20830 := by
  decide

private theorem inOrder_timely : TimelyRun sampleEnv sampleDb inOrder := by
  intro before clock op rest h
  rw [inOrder] at h
  rcases before with _ | ⟨x, _ | ⟨y, more⟩⟩
  · simp only [List.nil_append, List.cons.injEq, settleOn, Prod.mk.injEq] at h
    obtain ⟨⟨rfl, rfl⟩, -⟩ := h
    exact timely_settleOn (by decide) (by decide)
  · simp only [List.cons_append, List.nil_append, List.cons.injEq, settleOn, Prod.mk.injEq] at h
    obtain ⟨rfl, ⟨rfl, rfl⟩, -⟩ := h
    exact timely_settleOn (by decide) (by decide)
  · simp [settleOn] at h

/-- Paid on its due date and again a day later, an installment keeps the quote and the obligations in step. -/
theorem quote_agrees_sample : Agrees (run sampleEnv sampleDb inOrder) sampleLoan 20830 := by
  have hpays : ∀ op ∈ inOrder, PaysOrReverses op.2 :=
    paysOrReverses_pair paysOrReverses_settleOn paysOrReverses_settleOn
  exact @quote_agrees sampleEnv sampleDb sampleLoan 20830 inOrder sampleDb_sound sampleDb_unpaid hpays inOrder_timely
    inOrder_lent inOrder_due

private theorem backdated_lent : Lent (run sampleEnv sampleDb backdated) sampleLoan := by
  apply lent_sample
  decide

private theorem backdated_due :
    ∀ inst ∈ loanInstallmentsOf (run sampleEnv sampleDb backdated) sampleLoan.id, inst.dueDate ≤ 20830 := by
  decide

private theorem backdated_parts : ¬ Agrees (run sampleEnv sampleDb backdated) sampleLoan 20830 := by
  decide

/-- Two payments of an installment, the second settled but dated before the first: both pay the same interest and
principal, and the quote counts what the second applied too much against the other installment. -/
theorem backdated_payment_parts_quote :
    ¬ ∀ (env : Env) (db : Db) (loan : Loan) (day : Int) (ops : List (Int × Operation)), Sound db →
      (∀ x ∈ db.loanInstallments, x.loanId = loan.id → Unpaid db x) → (∀ op ∈ ops, PaysOrReverses op.2) →
      Lent (run env db ops) loan →
      (∀ inst ∈ loanInstallmentsOf (run env db ops) loan.id, inst.dueDate ≤ day) →
      Agrees (run env db ops) loan day := by
  intro h
  have hpays : ∀ op ∈ backdated, PaysOrReverses op.2 :=
    paysOrReverses_pair paysOrReverses_settleOn paysOrReverses_settleOn
  exact backdated_parts
    (h sampleEnv sampleDb sampleLoan 20830 backdated sampleDb_sound sampleDb_unpaid hpays backdated_lent backdated_due)

end Sample

end Caixinha.Properties.LoanPayoffQuotes
