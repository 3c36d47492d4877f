import Caixinha.Effects.LoanSteps
import Mathlib.Data.List.Induction

/-! Through settlements made in the order of their dates, no installment gets more than its principal. -/
namespace Caixinha.Effects

open Caixinha.Library Caixinha.Library.Table Fallible Caixinha.Model

/-- The principal that stands applied to an installment. -/
def standingPrincipal (db : Db) (id : Nat) : Int :=
  total (·.principalApplied) (unreversed db (.loanInstallment id))

/-- The paid columns of an installment without late charge v1 account for the principal that stands, and go on
doing so when the last revision of its loan is taken back. -/
structure PaidInBooks (db : Db) (y : LoanInstallment) : Prop where
  standing : standingPrincipal db y.id ≤ max 0 (y.paidAmount - y.interest)
  revision : ∀ loan, db.loan? y.loanId = some loan → ∀ s ∈ unreversed db (.loanInstallment y.id),
    ∀ e, s.loanEvidence = some e → e.stateRevisionAfter ≤ loan.stateRevision
  last : ∀ loan, db.loan? y.loanId = some loan → ∀ s ∈ unreversed db (.loanInstallment y.id),
    ∀ e, s.loanEvidence = some e → e.stateRevisionAfter = loan.stateRevision →
      standingPrincipal db y.id - s.principalApplied ≤
        max 0 (y.paidAmount - (s.amounts.principalApplied + s.amounts.interestApplied) - y.interest)

/-- The settlements of an installment that began as `x` never applied more than its principal. -/
structure WithinPrincipal (env : Env) (x : LoanInstallment) (db : Db) : Prop where
  row : ∃ y, db.installment? x.id = some y ∧ SameContract x y ∧
    (isLateChargeEligible x.dueDate env.lateChargeEffectiveDate = false → PaidInBooks db y)
  nonneg : ∀ s ∈ db.settlements, s.obligation = .loanInstallment x.id → 0 ≤ s.principalApplied
  within : ∀ day, appliedOn db x.id day ≤ x.principal

/-- The settlement of an installment is dated after what it cannot see: under late charge v1 the earlier
settlements, and before it the earlier reversals. -/
def InOrder (env : Env) (db : Db) (inst : LoanInstallment) (day : Int) : Prop :=
  if isLateChargeEligible inst.dueDate env.lateChargeEffectiveDate then
    ∀ s ∈ db.settlements, s.obligation = .loanInstallment inst.id → s.financialDate ≤ day
  else
    ∀ s ∈ db.settlements, s.obligation = .loanInstallment inst.id →
      ∀ r, db.reversalOfSettlement? s.id = some r → r.financialDate ≤ day

section Step
variable {env : Env} {db db' : Db} {x y inst : LoanInstallment} {loan loan' : Loan} {s : PaymentSettlement}
  {acted : Payment → Prop} {new : Additions}

theorem mem_unreversed {o : Obligation} :
    s ∈ unreversed db o ↔ s ∈ db.settlements ∧ s.obligation = o ∧ db.reversalOfSettlement? s.id = none := by
  simp [unreversed]

/-- What leaves the standing settlements alone and only counts revisions up keeps the books. -/
theorem PaidInBooks.of_same (h : PaidInBooks db y)
    (hsame : unreversed db' (.loanInstallment y.id) = unreversed db (.loanInstallment y.id))
    (hloan : ∀ l', db'.loan? y.loanId = some l' → db.loan? y.loanId = some l' ∨
      ∃ l, db.loan? y.loanId = some l ∧ l'.stateRevision = l.stateRevision + 1) : PaidInBooks db' y := by
  obtain ⟨hstanding, hrevision, hlast⟩ := h
  have htotal : standingPrincipal db' y.id = standingPrincipal db y.id := by
    rw [standingPrincipal, standingPrincipal, hsame]
  refine ⟨htotal ▸ hstanding, ?_, ?_⟩
  · intro l' hl' s hs e he
    rw [hsame] at hs
    rcases hloan l' hl' with hl | ⟨l, hl, hcount⟩
    · exact hrevision l' hl s hs e he
    · have := hrevision l hl s hs e he
      omega
  · intro l' hl' s hs e he heq
    rw [hsame] at hs
    rw [htotal]
    rcases hloan l' hl' with hl | ⟨l, hl, hcount⟩
    · exact hlast l' hl s hs e he heq
    · have := hrevision l hl s hs e he
      omega

/-- Whatever concerns other obligations only keeps an installment within its principal. -/
theorem WithinPrincipal.of_other (h : WithinPrincipal env x db) (hg : Grows acted db db' new)
    (hrow : db'.installment? x.id = db.installment? x.id)
    (hloan : ∀ k l', db'.loan? k = some l' → db.loan? k = some l' ∨
      ∃ l, db.loan? k = some l ∧ l'.stateRevision = l.stateRevision + 1)
    (hsettlements : ∀ s ∈ new.settlements, s.obligation ≠ .loanInstallment x.id)
    (hreversals : ∀ r ∈ new.reversals, ∀ s ∈ db.settlements, s.id = r.settlementId →
      s.obligation ≠ .loanInstallment x.id) : WithinPrincipal env x db' := by
  obtain ⟨y, hy, hterms, hbooked⟩ := h.row
  refine ⟨⟨y, hrow.trans hy, hterms, fun hlegacy => (hbooked hlegacy).of_same ?_ (hloan _)⟩, ?_, fun day => ?_⟩
  · rw [hterms.id_eq]
    exact hg.unreversed_other hsettlements hreversals
  · intro s hs hid
    rw [hg.settlements, List.mem_append] at hs
    rcases hs with hs | hs
    · exact h.nonneg s hs hid
    · exact absurd hid (hsettlements s hs)
  · rw [hg.appliedOn_other hsettlements hreversals]
    exact h.within day

/-- The principal of a legacy payment is what its base exceeds the open interest by. -/
theorem legacy_principal {base : Int} (hbase : 0 ≤ base) (hprincipal : s.principalApplied = max 0 (base - legacyInterest inst base))
    (hinterest : s.amounts.interestApplied = legacyInterest inst base) :
    s.amounts.principalApplied + s.amounts.interestApplied = base ∧
      s.principalApplied = max 0 (base - max 0 (inst.interest - inst.paidAmount)) := by
  have hsame : s.principalApplied = s.amounts.principalApplied := rfl
  unfold legacyInterest at hprincipal hinterest
  omega

/-- A legacy payment is booked in the paid columns. -/
theorem PaidInBooks.settled (h : PaidInBooks db inst) (hs : Sound db) (hg : Grows acted db db' new)
    (hnew : new.settlements = [s]) (hnone : new.reversals = [])
    (hsettled : InstallmentSettled env db inst loan db' y loan' s)
    (hlegacy : isLateChargeEligible inst.dueDate env.lateChargeEffectiveDate = false) : PaidInBooks db' y := by
  have hpaid := hsettled.paid
  rw [PaidOf, if_neg (by simp [hlegacy])] at hpaid
  obtain ⟨base, hbase, -, hafter, hinterest, happlied⟩ := hpaid
  obtain ⟨hsum, happlied⟩ := legacy_principal hbase happlied hinterest
  have hterms := hsettled.changed.terms
  have htotal : standingPrincipal db' y.id = standingPrincipal db inst.id + s.principalApplied := by
    rw [standingPrincipal, standingPrincipal, hterms.id_eq, hg.total_settled hs hnew hnone,
      if_pos hsettled.obligation]
  have hmem : ∀ s' ∈ unreversed db' (.loanInstallment y.id),
      s' = s ∨ s' ∈ unreversed db (.loanInstallment inst.id) := by
    intro s' hs'
    rw [mem_unreversed, hg.settlements, hnew, List.mem_append, List.mem_singleton,
      hg.reversalOf_same hnone, hterms.id_eq] at hs'
    obtain ⟨hin | rfl, hobligation, hstands⟩ := hs'
    · exact .inr (mem_unreversed.mpr ⟨hin, hobligation, hstands⟩)
    · exact .inl rfl
  have hloan : ∀ l', db'.loan? y.loanId = some l' → l' = loan' := by
    intro l' hl'
    rw [hterms.loanId, hsettled.changed.loan_after] at hl'
    exact (Option.some.inj hl').symm
  have hcount := hsettled.changed.revision
  obtain ⟨e, he, hrevision⟩ := hsettled.evidence
  have hstanding := h.standing
  have := hterms.interest
  refine ⟨by omega, ?_, ?_⟩
  · intro l' hl' s' hs' e' he'
    rw [hloan l' hl']
    rcases hmem s' hs' with rfl | hold
    · obtain rfl : e = e' := Option.some.inj (he.symm.trans he')
      exact hrevision.le
    · have := h.revision loan hsettled.changed.loanBefore s' hold e' he'
      omega
  · intro l' hl' s' hs' e' he' heq
    rw [hloan l' hl'] at heq
    rcases hmem s' hs' with rfl | hold
    · omega
    · have := h.revision loan hsettled.changed.loanBefore s' hold e' he'
      omega

/-- What a reversal takes back of the paid columns it takes back of the principal that stands. -/
theorem PaidInBooks.reversed {r : PaymentReversal} (h : PaidInBooks db inst) (hs : Sound db) (hg : Grows acted db db' new)
    (hnone : new.settlements = []) (hnew : new.reversals = [r]) (hmem : s ∈ db.settlements)
    (hid : r.settlementId = s.id) (hreversed : InstallmentReversed db inst loan db' y loan' s) : PaidInBooks db' y := by
  have hterms := hreversed.changed.terms
  have htotal : standingPrincipal db' y.id = standingPrincipal db inst.id - s.principalApplied := by
    rw [standingPrincipal, standingPrincipal, hterms.id_eq, hg.total_reversed hs hnone hnew hmem hid,
      if_pos hreversed.obligation]
  have hstood : s ∈ unreversed db (.loanInstallment inst.id) := by
    obtain ⟨-, hnext⟩ := hg.reversal r (by simp [hnew])
    refine mem_unreversed.mpr ⟨hmem, hreversed.obligation, ?_⟩
    rw [reversalOfSettlement?_eq_none_iff, ← hid]
    exact hnext.firstSettlement
  have hold : ∀ s' ∈ unreversed db' (.loanInstallment y.id), s' ∈ unreversed db (.loanInstallment inst.id) := by
    intro s' hs'
    rw [mem_unreversed, hg.settlements, hnone, List.append_nil, hterms.id_eq,
      reversalOfSettlement?_eq_none_iff, hg.reversals] at hs'
    refine mem_unreversed.mpr ⟨hs'.1, hs'.2.1, ?_⟩
    rw [reversalOfSettlement?_eq_none_iff]
    exact fun x hx => hs'.2.2 x (List.mem_append_left _ hx)
  have hloan : ∀ l', db'.loan? y.loanId = some l' → l' = loan' := by
    intro l' hl'
    rw [hterms.loanId, hreversed.changed.loan_after] at hl'
    exact (Option.some.inj hl').symm
  have hcount := hreversed.changed.revision
  obtain ⟨e, he, hrevision⟩ := hreversed.evidence
  refine ⟨?_, ?_, ?_⟩
  · have hlast := h.last loan hreversed.changed.loanBefore s hstood e he hrevision.symm
    rw [htotal, hreversed.paid, hterms.interest]
    exact hlast
  · intro l' hl' s' hs' e' he'
    rw [hloan l' hl']
    have := h.revision loan hreversed.changed.loanBefore s' (hold s' hs') e' he'
    omega
  · intro l' hl' s' hs' e' he' heq
    rw [hloan l' hl'] at heq
    have := h.revision loan hreversed.changed.loanBefore s' (hold s' hs') e' he'
    omega

/-- Settling an installment in order keeps it within its principal. -/
theorem WithinPrincipal.settled (h : WithinPrincipal env x db) (hs : Sound db) (hg : Grows acted db db' new)
    (hamount : x.amount = x.principal + x.interest) (hprincipal : 0 ≤ x.principal)
    (hnew : new.settlements = [s]) (hnone : new.reversals = []) (hid : inst.id = x.id)
    (hsettled : InstallmentSettled env db inst loan db' y loan' s)
    (horder : InOrder env db inst s.financialDate) : WithinPrincipal env x db' := by
  obtain ⟨y₀, hy₀, hterms, hbooked⟩ := h.row
  obtain rfl : y₀ = inst := Option.some.inj (hy₀.symm.trans (hid ▸ hsettled.changed.before))
  have hnonneg : ∀ s' ∈ db.settlements, s'.obligation = .loanInstallment y₀.id → 0 ≤ s'.principalApplied := by
    rw [hid]
    exact h.nonneg
  have hpaid := hsettled.paid
  have hbelow : ∀ day, s.financialDate ≤ day → appliedOn db y₀.id day + s.principalApplied ≤ x.principal := by
    intro day hday
    have hwithin := h.within s.financialDate
    have hwithinDay := h.within day
    rw [← hid] at hwithin hwithinDay
    rw [InOrder] at horder
    rw [PaidOf] at hpaid
    split at horder
    · rename_i heligible
      rw [if_pos heligible, hterms.principal] at hpaid
      have := appliedOn_antitone hday horder hnonneg
      omega
    · rename_i hlegacy
      rw [if_neg hlegacy] at hpaid
      obtain ⟨base, hbase, hle, hafter, hinterest, happlied⟩ := hpaid
      obtain ⟨-, happlied⟩ := legacy_principal hbase happlied hinterest
      have hstanding := (hbooked (by simpa [hterms.dueDate] using hlegacy)).standing
      have hactive : appliedOn db y₀.id day ≤ standingPrincipal db y₀.id :=
        appliedOn_le_standing (fun s' hs' hs'id r hr => (horder s' hs' hs'id r hr).trans hday) hnonneg
      have := hterms.amount
      have := hterms.interest
      omega
  obtain ⟨hsNew, hnext⟩ := hg.settlement s (by simp [hnew])
  have hrows : db'.settlements = db.settlements ++ [s] := by rw [hg.settlements, hnew]
  refine ⟨⟨y, ?_, hterms.trans hsettled.changed.terms, fun hlegacy => ?_⟩, ?_, fun day => ?_⟩
  · rw [← hid]
    exact hsettled.changed.row
  · have hbefore : isLateChargeEligible y₀.dueDate env.lateChargeEffectiveDate = false := by
      rw [hterms.dueDate]
      exact hlegacy
    exact (hbooked hlegacy).settled hs hg hnew hnone hsettled hbefore
  · intro s' hs' hs'id
    rw [hrows, List.mem_append, List.mem_singleton] at hs'
    rcases hs' with hs' | rfl
    · exact h.nonneg s' hs' hs'id
    · exact hsettled.nonneg
  · rw [hg.appliedOn_settled hs hnew hnone]
    split
    · rename_i hcounts
      rw [← hid]
      exact hbelow day hcounts.2
    · rw [add_zero]
      exact h.within day

/-- A reversal keeps an installment within its principal. -/
theorem WithinPrincipal.reversed {r : PaymentReversal} (h : WithinPrincipal env x db) (hs : Sound db)
    (hg : Grows acted db db' new) (hnone : new.settlements = []) (hnew : new.reversals = [r])
    (hmem : s ∈ db.settlements) (hr : r.settlementId = s.id) (hid : inst.id = x.id)
    (hreversed : InstallmentReversed db inst loan db' y loan' s) : WithinPrincipal env x db' := by
  obtain ⟨y₀, hy₀, hterms, hbooked⟩ := h.row
  obtain rfl : y₀ = inst := Option.some.inj (hy₀.symm.trans (hid ▸ hreversed.changed.before))
  refine ⟨⟨y, ?_, hterms.trans hreversed.changed.terms, fun hlegacy => ?_⟩, ?_, fun day => ?_⟩
  · rw [← hid]
    exact hreversed.changed.row
  · exact (hbooked hlegacy).reversed hs hg hnone hnew hmem hr hreversed
  · rw [hg.settlements, hnone, List.append_nil]
    exact h.nonneg
  · exact (hg.appliedOn_reversed hnone h.nonneg).trans (h.within day)

/-- A step keeps an installment within its principal, given that a settlement of it is in order. -/
theorem WithinPrincipal.step (h : WithinPrincipal env x db) (hs : Sound db)
    (hamount : x.amount = x.principal + x.interest) (hprincipal : 0 ≤ x.principal) (hstep : LoanStep env db db')
    (horder : ∀ s ∈ db'.settlements, s ∉ db.settlements → ∀ y, db.installment? x.id = some y →
      s.obligation = .loanInstallment x.id → InOrder env db y s.financialDate) : WithinPrincipal env x db' := by
  cases hstep with
  | aside hg hinstallments hloans hsettlements hreversals =>
    refine h.of_other hg ?_ (fun k l' hl' => .inl ?_) (fun s hs' => hsettlements s hs' _)
      (fun r hr s hs' hid => hreversals r hr s hs' hid _)
    · rw [Db.installment?, hinstallments]
      rfl
    · rwa [Db.loan?, hloans] at hl'
  | @settled acted new inst loan y loan' s hg hnew hnone hsettled =>
    by_cases hid : inst.id = x.id
    · refine h.settled hs hg hamount hprincipal hnew hnone hid hsettled ?_
      obtain ⟨-, hnext⟩ := hg.settlement s (by simp [hnew])
      refine horder s (by simp [hg.settlements, hnew]) (fun hin => ?_) inst (hid ▸ hsettled.changed.before)
        (hid ▸ hsettled.obligation)
      exact hnext.fresh hin rfl
    · refine h.of_other hg (hsettled.changed.others _ (Ne.symm hid)) (fun k l' hl' => hsettled.changed.loan_cases hl') ?_ ?_
      · intro s' hs'
        rw [hnew, List.mem_singleton] at hs'
        rw [hs', hsettled.obligation]
        simpa using hid
      · simp [hnone]
  | @reversed acted new inst loan y loan' s r hg hnone hnew hmem hr hreversed =>
    by_cases hid : inst.id = x.id
    · exact h.reversed hs hg hnone hnew hmem hr hid hreversed
    · refine h.of_other hg (hreversed.changed.others _ (Ne.symm hid)) (fun k l' hl' => hreversed.changed.loan_cases hl') ?_ ?_
      · simp [hnone]
      · intro r' hr' s' hs' hs'id
        rw [hnew, List.mem_singleton] at hr'
        have hsame : s' = s := eq_of_mem_of_key hs.settlements hs' hmem (by rw [hs'id, hr', hr])
        rw [hsame, hreversed.obligation]
        simpa using hid

end Step

section Run
variable {env : Env} {db : Db} {x : LoanInstallment}

/-- An installment nothing was applied to yet. -/
structure Unpaid (db : Db) (x : LoanInstallment) : Prop where
  row : db.installment? x.id = some x
  amount : x.amount = x.principal + x.interest
  principal : 0 ≤ x.principal
  unsettled : ∀ s ∈ db.settlements, s.obligation ≠ .loanInstallment x.id

theorem Unpaid.within (h : Unpaid db x) : WithinPrincipal env x db := by
  have hnone : unreversed db (.loanInstallment x.id) = [] := by
    rw [unreversed, List.filter_eq_nil_iff]
    intro s hs
    simp [h.unsettled s hs]
  refine ⟨⟨x, h.row, .refl x, fun _ => ⟨?_, ?_, ?_⟩⟩, fun s hs hid => absurd hid (h.unsettled s hs), fun day => ?_⟩
  · rw [standingPrincipal, hnone]
    exact le_max_left _ _
  · simp [hnone]
  · simp [hnone]
  · have hactive : activeSettlements db x.id day = [] := by
      rw [activeSettlements, List.filter_eq_nil_iff]
      intro s hs
      rw [installmentSettlements, List.mem_insertionSort, List.mem_filter] at hs
      exact absurd (by simpa using hs.2) (h.unsettled s hs.1)
    rw [appliedOn, hactive]
    exact h.principal

/-- The histories of payments: settlements and reversals. -/
def PaysOrReverses : Operation → Prop
  | .settle _ _ => True
  | .reverse _ _ _ _ => True
  | _ => False

/-- A settlement of an installment is made in order. -/
def Timely (env : Env) (db : Db) (clock : Int) : Operation → Prop
  | .settle paymentId c => ∀ payment inst, db.payment? paymentId = some payment →
      db.settlementOfPayment? paymentId = none → payment.reference = some (.loanInstallment inst.id) →
      db.installment? inst.id = some inst →
      InOrder env db inst (financialCivilDate (effectiveInstant clock payment c))
  | _ => True

/-- The settlement that a payment inserts is of the installment it names, at its date. -/
theorem settle_inserted {db' : Db} {clock : Int} {paymentId id : Nat} {c : Confirmation} {s s' : PaymentSettlement}
    (hs : Sound db) (h : settleConfirmedPixPayment env db clock paymentId c = .ok (db', s'))
    (hmem : s ∈ db'.settlements) (hnew : s ∉ db.settlements) (hobligation : s.obligation = .loanInstallment id) :
    ∃ payment, db.payment? paymentId = some payment ∧ db.settlementOfPayment? paymentId = none ∧
      payment.reference = some (.loanInstallment id) ∧
      s.financialDate = financialCivilDate (effectiveInstant clock payment c) := by
  obtain ⟨payment, hpayment, rfl, ⟨-, rfl⟩ | ⟨hnone, hposted, hreceived, app, happ, hrecord⟩⟩ := settle_cases h
  · exact absurd hmem hnew
  · refine ⟨payment, hpayment, hnone, ?_⟩
    have hrecorded : ∀ (hkeys : app.db.loanInstallments.map LoanInstallment.id =
          db.loanInstallments.map LoanInstallment.id) (_ : app.db.settlements = db.settlements),
        s.obligation = app.obligation ∧
          s.financialDate = financialCivilDate (effectiveInstant clock payment c) := by
      intro hkeys hsame
      have hkeyed : Keyed LoanInstallment.id app.db.loanInstallments := keyed_of_keys hkeys hs.installments
      obtain ⟨-, -, hrow, -⟩ := recordSettlement_money hkeyed hrecord
      obtain ⟨charged, entries, -, -, -, -, hdb⟩ := recordSettlement_spec hkeyed hrecord
      rw [hdb] at hmem
      rcases List.mem_append.mp hmem with hold | hlast
      · exact absurd (hsame ▸ hold) hnew
      · rw [List.mem_singleton.mp hlast]
        exact ⟨hrow.obligation, by rw [PaymentSettlement.financialDate, hrow.confirmedAt]⟩
    rcases applyToObligation_cases happ with ⟨inst, agreement, -, -, -, hbranch⟩ |
      ⟨y, hfound, hbranch⟩ | ⟨inst, href, -, hbranch⟩
    · obtain ⟨row, after, agreementAfter, -, -, -, -, -, -, -, rfl⟩ := applyToAgreementInstallment_spec hbranch
      obtain ⟨hsame, -⟩ := hrecorded rfl rfl
      rw [hobligation] at hsame
      cases hsame
    · obtain ⟨locked, account, rows, hlock, -, -, rfl⟩ := applyToContribution_spec hposted hbranch
      obtain ⟨accounts, rfl, -⟩ := lockMemberFinancialAccount_spec hlock
      obtain ⟨hsame, -⟩ := hrecorded rfl rfl
      rw [hobligation] at hsame
      cases hsame
    · obtain ⟨new, happlied, -, -, -, hbranchObligation⟩ := installment_applied hs hbranch
      obtain ⟨hsame, hdate⟩ := hrecorded happlied.installments
        (by rw [happlied.settlements, happlied.noSettlement, List.append_nil])
      rw [hobligation, hbranchObligation, Obligation.loanInstallment.injEq] at hsame
      exact ⟨hsame ▸ href, hdate⟩

/-- A payment or a reversal is a step of the loans, and inserts settlements as its payment says. -/
theorem loanStep_execute (hs : Sound db) {op : Int × Operation} (hop : PaysOrReverses op.2) :
    LoanStep env db (execute env db op) ∧ (Timely env db op.1 op.2 →
      ∀ s ∈ (execute env db op).settlements, s ∉ db.settlements → ∀ y, db.installment? y.id = some y →
        s.obligation = .loanInstallment y.id → InOrder env db y s.financialDate) := by
  obtain ⟨clock, op⟩ := op
  unfold Model.execute
  cases hattempt : attempt env db clock op with
  | error e => exact ⟨.refl env db, fun _ s hmem hnew => absurd hmem hnew⟩
  | ok db' =>
    cases op with
    | settle paymentId c =>
      obtain ⟨⟨final, s'⟩, hsettle, rfl⟩ := map_eq_ok.mp hattempt
      refine ⟨loanStep_settle hs hsettle, fun htimely s hmem hnew y hy hobligation => ?_⟩
      obtain ⟨payment, hpayment, hnone, href, hdate⟩ := settle_inserted hs hsettle hmem hnew hobligation
      rw [hdate]
      exact htimely payment y hpayment hnone href hy
    | reverse paymentId adminId reason now =>
      obtain ⟨⟨final, r⟩, hreverse, rfl⟩ := map_eq_ok.mp hattempt
      have hkept := reverse_settlements hs hreverse
      exact ⟨loanStep_reverse hs hreverse, fun _ s hmem hnew => absurd (hkept ▸ hmem) hnew⟩
    | _ => exact absurd hop id

/-- Every settlement of a history is made in order. -/
def TimelyRun (env : Env) (db : Db) (ops : List (Int × Operation)) : Prop :=
  ∀ before clock op rest, ops = before ++ (clock, op) :: rest → Timely env (run env db before) clock op

/-- What every payment and reversal keeps, in the order of a history, holds at its end. -/
theorem payments_keep {P : Db → Prop} {ops : List (Int × Operation)} (hops : ∀ op ∈ ops, PaysOrReverses op.2)
    (hstep : ∀ before op rest, ops = before ++ op :: rest → Sound (run env db before) → P (run env db before) →
      P (execute env (run env db before) op)) (hs : Sound db) (h : P db) :
    Sound (run env db ops) ∧ P (run env db ops) := by
  suffices hrun : ∀ before rest, ops = before ++ rest → Sound (run env db before) ∧ P (run env db before) from
    hrun ops [] (List.append_nil ops).symm
  intro before
  induction before using List.reverseRecOn with
  | nil => exact fun _ _ => ⟨hs, h⟩
  | append_singleton before op ih =>
    intro rest hsplit
    rw [List.append_assoc, List.singleton_append] at hsplit
    obtain ⟨hsound, hkept⟩ := ih _ hsplit
    have hop : PaysOrReverses op.2 := hops op (by simp [hsplit])
    rw [run, List.foldl_append]
    exact ⟨(loanStep_execute hsound hop).1.sound hsound, hstep before op rest hsplit hsound hkept⟩

/-- The installments keep their contracts through a history of payments. -/
theorem contracts_run {ops : List (Int × Operation)} (hs : Sound db) (hops : ∀ op ∈ ops, PaysOrReverses op.2)
    {y : LoanInstallment} (hy : y ∈ (run env db ops).loanInstallments) :
    ∃ x ∈ db.loanInstallments, SameContract x y := by
  refine (payments_keep (P := fun db' => ∀ y ∈ db'.loanInstallments, ∃ x ∈ db.loanInstallments, SameContract x y)
    hops ?_ hs fun x hx => ⟨x, hx, .refl x⟩).2 y hy
  intro before op rest hsplit hsound hkept z hz
  have hop : PaysOrReverses op.2 := hops op (by simp [hsplit])
  obtain ⟨w, hw, hsame⟩ := (loanStep_execute hsound hop).1.contract hsound hz
  obtain ⟨x, hx, hbefore⟩ := hkept w hw
  exact ⟨x, hx, hbefore.trans hsame⟩

/-- An installment never gets more than its principal through a history whose settlements are in order. -/
theorem withinPrincipal_run {ops : List (Int × Operation)} (h : Unpaid db x) (hs : Sound db)
    (hops : ∀ op ∈ ops, PaysOrReverses op.2) (horder : TimelyRun env db ops) :
    WithinPrincipal env x (run env db ops) := by
  refine (payments_keep (P := WithinPrincipal env x) hops ?_ hs h.within).2
  intro before op rest hsplit hsound hwithin
  have hop : PaysOrReverses op.2 := hops op (by simp [hsplit])
  obtain ⟨hstep, hinserted⟩ := @loanStep_execute env _ hsound _ hop
  refine hwithin.step hsound h.amount h.principal hstep fun s hmem hnew y hy hobligation => ?_
  have hid : y.id = x.id := lookup_key hy
  exact hinserted (horder before op.1 op.2 rest hsplit) s hmem hnew y (hid ▸ hy) (hid ▸ hobligation)

end Run

end Caixinha.Effects
