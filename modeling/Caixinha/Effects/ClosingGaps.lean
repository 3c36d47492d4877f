import Caixinha.Model.ClosingEvidence

/-! The contract gaps each part of the closing evidence can raise. -/
namespace Caixinha.Effects.ClosingGaps

open Caixinha.Library Caixinha.Library.Fallible Caixinha.Model Caixinha.Model.CycleClosing

/-- The error is the gap with this code and detail. -/
def IsGap (code detail : String) (e : Error) : Prop := e = .closingContractGap code detail

variable {env : Env} {createdAt : Nat → Int} {db : Db} {cycleId : Nat} {cutoff : Int}
  {code detail : String} {settled : List SettledEvent}

theorem avoids_gapIf {p : Prop} [Decidable p] {code' detail' : String}
    (h : p → code' ≠ code ∨ detail' ≠ detail) :
    Avoids (IsGap code detail) (gapIf p code' detail') := by
  unfold gapIf
  split
  · rename_i hp
    unfold gap
    rw [avoids_error]
    intro heq
    cases heq
    rcases h hp with h | h <;> exact h rfl
  · exact avoids_ok _

theorem avoids_gapIf_of_ne {p : Prop} [Decidable p] {code' detail' : String} (h : code' ≠ code) :
    Avoids (IsGap code detail) (gapIf p code' detail') := avoids_gapIf fun _ => .inl h

theorem avoids_orRefuse {α : Type} (found : Option α) (message : String) :
    Avoids (IsGap code detail) (orRefuse found message) := by
  cases found with
  | none =>
    rw [orRefuse, avoids_error]
    intro heq
    cases heq
  | some a => exact avoids_ok _

theorem avoids_utc (t : Timestamp) : Avoids (IsGap code detail) (utc t) := by
  unfold utc
  split
  · exact avoids_ok _
  · rw [avoids_error]
    intro heq
    cases heq

theorem gainsOf_avoids (hpenalty : code ≠ "PENALTY_COMPONENT_MISMATCH")
    (hagreement : code ≠ "AGREEMENT_COMPONENT_MISMATCH") (x : SettledEvent) :
    Avoids (IsGap code detail) (gainsOf db cycleId x) := by
  unfold gainsOf gainFromEvent
  split
  · exact avoids_ok _
  · exact avoids_ok _
  · exact avoids_ok _
  · split
    · exact avoids_bind (avoids_gapIf_of_ne hpenalty.symm) fun _ _ => avoids_pure _
    · exact avoids_ok _
  · exact avoids_bind (avoids_gapIf_of_ne hagreement.symm) fun _ _ => avoids_pure _

theorem contributionCash_avoids (h : code ≠ "LEGACY_CONTRIBUTION_PAYMENT_CUTOFF_UNPROVABLE")
    (c : Contribution) : Avoids (IsGap code detail) (contributionCash db settled c) := by
  unfold contributionCash legacyContributionCash
  split
  · exact avoids_pure _
  · refine avoids_bind ?_ fun _ _ => avoids_pure _
    dsimp only
    split
    · exact avoids_pure _
    · exact avoids_bind (avoids_gapIf_of_ne h.symm) fun _ _ => avoids_pure _

theorem contributionObligations_avoids (hmismatch : code ≠ "CONTRIBUTION_EVIDENCE_MISMATCH")
    (hfreeze : code ≠ "BLOCK_FREEZE_MISSING") (c : Contribution) (cash : List DatedCash) :
    Avoids (IsGap code detail) (contributionObligations db cycleId cutoff c cash) :=
  avoids_bind (avoids_gapIf_of_ne hmismatch.symm) fun _ _ =>
    avoids_bind (avoids_gapIf_of_ne hfreeze.symm) fun _ _ => avoids_pure _

theorem ownBalanceSettledLoans_avoids
    (hreconciliation : code ≠ "OWN_BALANCE_SETTLEMENT_RECONCILIATION_GAP")
    (hallocation : code ≠ "OWN_BALANCE_PARTIAL_ALLOCATION") :
    Avoids (IsGap code detail) (ownBalanceSettledLoans db cycleId settled cutoff) := by
  have hgap : ∀ (id : Nat) (p : Prop) [Decidable p],
      Avoids (IsGap code detail) (reconciliationGap id p) :=
    fun _ _ _ => avoids_gapIf_of_ne hreconciliation.symm
  refine avoids_bind (avoids_forM fun e _ => avoids_bind (hgap _ _) fun _ _ => hgap _ _) fun _ _ =>
    avoids_bind (avoids_mapM (fun loan => ?_) _) fun _ _ => avoids_pure _
  refine avoids_bind (hgap _ _) fun _ _ => avoids_bind (avoids_gapIf_of_ne hallocation.symm) fun _ _ => ?_
  dsimp only
  split
  · exact avoids_bind (hgap _ _) fun _ _ => avoids_pure _
  · exact avoids_bind (hgap _ _) fun _ _ => avoids_pure _

theorem penaltyAssessed_avoids (h : code ≠ "LEGACY_PENALTY_CUTOFF_UNPROVABLE")
    (inst : LoanInstallment) : Avoids (IsGap code detail) (penaltyAssessed createdAt db inst cutoff) := by
  unfold penaltyAssessed
  split
  · exact avoids_ok _
  · exact avoids_bind (avoids_gapIf_of_ne h.symm) fun _ _ => avoids_pure _

theorem loanObligations_avoids (hlegacy : code ≠ "LEGACY_PENALTY_CUTOFF_UNPROVABLE")
    (hmismatch : code ≠ "LOAN_OBLIGATION_EVIDENCE_MISMATCH") (closed : List Nat) :
    Avoids (IsGap code detail) (loanObligations createdAt db cycleId settled cutoff closed) :=
  avoids_bind (avoids_mapM (fun _ => avoids_bind (penaltyAssessed_avoids hlegacy _) fun _ _ =>
    avoids_bind (avoids_gapIf_of_ne hmismatch.symm) fun _ _ => avoids_pure _) _)
    fun _ _ => avoids_pure _

theorem agreementObligations_avoids (h : code ≠ "AGREEMENT_OBLIGATION_EVIDENCE_MISMATCH") :
    Avoids (IsGap code detail) (agreementObligations db cycleId settled cutoff) :=
  avoids_bind (avoids_mapM (fun _ => avoids_bind (avoids_gapIf_of_ne h.symm) fun _ _ =>
    avoids_pure _) _) fun _ _ => avoids_pure _

/-- The build avoids an error when each of its parts does. -/
theorem buildClosingEvidence_avoids {t : Timestamp} {E : Error → Prop} (hutc : Avoids E (utc t))
    (hcycle : Avoids E (orRefuse (db.cycle? cycleId) "cycle not found"))
    (hrepresented : ∀ s ∈ db.settlements, Avoids E
      (checkRepresented db cycleId (paymentFinancialEvents env db) t.instant s))
    (hgains : ∀ x, Avoids E (gainsOf db cycleId x))
    (hcash : ∀ settled c, Avoids E (contributionCash db settled c))
    (hcontributions : ∀ c cash, Avoids E (contributionObligations db cycleId t.instant c cash))
    (hagreements : Avoids E (supersededLoans db cycleId t.instant))
    (hown : ∀ settled, Avoids E (ownBalanceSettledLoans db cycleId settled t.instant))
    (hloans : ∀ superseded own settled, supersededLoans db cycleId t.instant = .ok superseded →
      ownBalanceSettledLoans db cycleId settled t.instant = .ok own →
      settled = scopedEvents db cycleId (paymentFinancialEvents env db) →
      Avoids E (loanObligations createdAt db cycleId settled t.instant (superseded ++ own)))
    (hreplacements : ∀ settled, Avoids E (agreementObligations db cycleId settled t.instant)) :
    Avoids E (buildClosingEvidence env createdAt db cycleId t) := by
  refine avoids_bind hutc fun cutoff hcutoff => ?_
  obtain rfl : t.instant = cutoff := by
    unfold utc at hcutoff
    split at hcutoff
    · simpa using hcutoff
    · cases hcutoff
  refine avoids_bind hcycle fun cycle _ => avoids_bind (avoids_forM hrepresented) fun _ _ => ?_
  refine avoids_bind (avoids_mapM hgains _) fun _ _ => avoids_bind (avoids_mapM (hcash _) _) fun _ _ => ?_
  refine avoids_bind (avoids_mapM (fun x => hcontributions _ _) _) fun _ _ => ?_
  refine avoids_bind hagreements fun superseded hsuperseded => avoids_bind (hown _) fun own hown' => ?_
  exact avoids_bind (hloans _ _ _ hsuperseded hown' rfl) fun _ _ =>
    avoids_bind (hreplacements _) fun _ _ => avoids_pure _

end Caixinha.Effects.ClosingGaps
