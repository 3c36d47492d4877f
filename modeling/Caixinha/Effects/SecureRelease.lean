import Caixinha.Effects.MoneySteps
import Caixinha.Library.JsonParser
import Caixinha.Model.SecureRelease

/-! What the requests of the guarded release did when they succeed, and what a stored hash says of the
evaluation behind it. -/
namespace Caixinha.Effects.SecureRelease

open Caixinha.Library Caixinha.Library.Table Fallible Json Caixinha.Model Caixinha.Model.SecureRelease

variable {env : Env} {upper : String → String} {a : Assessments} {s s' : State} {clock : Int}
  {row row' : SecureReleaseAuthorization} {result : Evaluation}

/-- What a favourable evaluation of a loan weighed. -/
structure Favourable (loan : Loan) (r : Evaluation) : Prop where
  loanId : r.loanId = loan.id
  memberId : r.memberId = loan.memberId
  requested : r.requestedAmount = loan.principal
  final : r.finalDecision = .ALLOW
  pipeline : r.approvalPipeline.decision = .ALLOW
  errors : r.approvalPipeline.errors = []
  capacity : loan.principal ≤ r.capacity.capacity
  allocation : loan.principal ≤ (r.memberAllocation.map AllocationItem.governedAmount).getD 0

theorem Favourable.kept {loan loan' : Loan} {result : Evaluation} (h : Favourable loan result)
    (hkept : LoanKept loan loan') : Favourable loan' result where
  loanId := hkept.id_eq ▸ h.loanId
  memberId := hkept.memberId ▸ h.memberId
  requested := hkept.principal ▸ h.requested
  final := h.final
  pipeline := h.pipeline
  errors := h.errors
  capacity := hkept.principal ▸ h.capacity
  allocation := hkept.principal ▸ h.allocation

theorem decide_eq_allow {pipeline : Pipeline} {checks : Checks} (h : decide_ pipeline checks = .ALLOW) :
    pipeline.decision = .ALLOW ∧ pipeline.errors = [] ∧ checks.capacity = true ∧
      checks.allocationRecommendation = true := by
  unfold decide_ at h
  split at h
  · cases h
  · rename_i hblock
    split at h
    · cases h
    · rename_i hchecks
      split at h
      · cases h
      · rename_i hreview
        cases hdecision : pipeline.decision <;> simp_all

/-- The terms of an evaluation, and what it weighed where it allows the release. -/
theorem evaluateIntegrated_spec {db : Db} {loanId : Nat} {horizonMonths : Int} {scenario : String}
    (h : evaluateIntegrated upper a db loanId horizonMonths scenario = .ok result) :
    ∃ loan, db.loan? loanId = some loan ∧ result.horizonMonths = horizonMonths ∧
      result.scenario = upper scenario ∧ (result.fresh = true → Favourable loan result) := by
  unfold evaluateIntegrated at h
  simp only [bind_eq_ok, pure_eq_ok, orRefuse_eq_ok] at h
  obtain ⟨loan, hloan, member, hmember, groupId, -, pipeline, -, capacity, -, governed, -, rfl⟩ := h
  have hmemberId : member.id = loan.memberId := lookup_key hmember
  refine ⟨loan, hloan, rfl, rfl, fun hfresh => ?_⟩
  simp only [Evaluation.fresh, Bool.and_eq_true, decide_eq_true_eq] at hfresh
  obtain ⟨hpipeline, herrors, hcapacity, hallocation⟩ := decide_eq_allow hfresh.1
  exact ⟨rfl, hmemberId, rfl, hfresh.1, hpipeline, herrors, of_decide_eq_true hcapacity,
    of_decide_eq_true hallocation⟩

private theorem fields_nodup (r : Evaluation) : (r.fields.map Prod.fst).Nodup := by
  simp [Evaluation.fields]

/-- Evaluations of one hash were made under the same terms. -/
theorem terms_of_integrityHash (hsha : Function.Injective env.sha256) {r t : Evaluation}
    (h : r.integrityHash env = t.integrityHash env) :
    r.horizonMonths = t.horizonMonths ∧ r.scenario = t.scenario := by
  have hfield := get?_of_dumps (fields_nodup r) (fields_nodup t) (hsha h)
  have hhorizon := hfield "horizon_months"
  have hscenario := hfield "scenario"
  simp [get?, Evaluation.fields, sortKeys] at hhorizon hscenario
  exact ⟨hhorizon, hscenario⟩

/-- What an authorization request that succeeds found and wrote. -/
structure Authorized (env : Env) (upper : String → String) (s s' : State) (clock : Int)
    (loanId adminId : Nat) (horizonMonths : Int) (scenario : String) (result : Evaluation)
    (row : SecureReleaseAuthorization) : Prop where
  closed : hasOpen s loanId = false
  horizon : result.horizonMonths = horizonMonths
  scenario : result.scenario = upper scenario
  row_eq : row = newAuthorization env s clock loanId adminId result
  favourable : ∃ loan, s.db.loan? loanId = some loan ∧ loan.status = .APPROVED ∧ Favourable loan result
  only : s' = { s with
    authorizations := s.authorizations ++ [row], auditLogs := s.auditLogs ++ [authorizedLog row adminId] }

theorem authorize_spec {loanId adminId : Nat} {horizonMonths : Int} {scenario : String}
    (h : authorize env upper a s clock loanId adminId horizonMonths scenario = .ok (s', row, result)) :
    Authorized env upper s s' clock loanId adminId horizonMonths scenario result row := by
  unfold authorize createAuthorization requireAdmin at h
  simp only [bind_eq_ok, pure_eq_ok, require_eq_ok, raising_eq_ok, orRefuse_eq_ok, refuseIf_eq_ok,
    exists_and_left, exists_const, Prod.mk.injEq] at h
  obtain ⟨-, -, loan, hloan, hstatus, hclosed, result, hresult, hfresh, rfl, rfl, rfl⟩ := h
  obtain ⟨found, hfound, hhorizon, hscenario, hfavourable⟩ := evaluateIntegrated_spec hresult
  obtain rfl : loan = found := Option.some.inj (hloan.symm.trans hfound)
  exact ⟨Bool.eq_false_iff.mpr hclosed, hhorizon, hscenario, rfl,
    ⟨loan, hloan, not_not.mp hstatus, hfavourable hfresh⟩, rfl⟩

/-- What a confirmation that succeeds found and wrote. -/
structure Confirmed (env : Env) (upper : String → String) (s s' : State) (clock : Int)
    (authorizationId adminId : Nat) (current : Evaluation) (row row' : SecureReleaseAuthorization) :
    Prop where
  found : lookup SecureReleaseAuthorization.id s.authorizations authorizationId = some row
  waiting : row.status = .AUTHORIZED
  other : row.authorizedBy ≠ adminId
  inTime : clock < row.expiresAt
  horizon : current.horizonMonths = 12
  scenario : current.scenario = upper "BASE"
  unchanged : current.integrityHash env = row.governanceHash
  favourable : ∃ loan, s.db.loan? row.loanId = some loan ∧ Favourable loan current
  released : ∃ funds, releaseLoan env s.db clock row.loanId = .ok (s'.db, funds)
  row_eq : row' = executed env row clock adminId
  authorizations : s'.authorizations = replace SecureReleaseAuthorization.id s.authorizations row'

theorem confirm_spec {authorizationId adminId : Nat}
    (h : confirm env upper a s clock authorizationId adminId = .ok (s', row', result)) :
    ∃ row, Confirmed env upper s s' clock authorizationId adminId result row row' := by
  unfold confirm confirmAndRelease requireAdmin at h
  simp only [bind_eq_ok, pure_eq_ok, require_eq_ok, raising_eq_ok, orRefuse_eq_ok, refuseIf_eq_ok,
    requireConstraint_eq_ok, exists_and_left, exists_const, Prod.exists, Prod.mk.injEq] at h
  obtain ⟨-, row, hfound, hwaiting, hother, hinTime, current, hcurrent, ⟨hfresh, hunchanged⟩, db, funds,
    hreleased, -, rfl, rfl, rfl⟩ := h
  obtain ⟨loan, hloan, hhorizon, hscenario, hfavourable⟩ := evaluateIntegrated_spec hcurrent
  exact ⟨row, hfound, not_not.mp hwaiting, hother, hinTime, hhorizon, hscenario, hunchanged,
    ⟨loan, hloan, hfavourable hfresh⟩, ⟨funds, hreleased⟩, rfl, rfl⟩

/-- A loan whose authorization waits gets no other one. -/
theorem authorize_refused {loanId : Nat} (hopen : hasOpen s loanId = true) (a : Assessments) (clock : Int)
    (adminId : Nat) (horizonMonths : Int) (scenario : String) :
    ∃ failure, authorize env upper a s clock loanId adminId horizonMonths scenario = .error failure := by
  cases h : authorize env upper a s clock loanId adminId horizonMonths scenario with
  | error failure => exact ⟨failure, rfl⟩
  | ok r =>
    obtain ⟨s', row, result⟩ := r
    have hclosed := (authorize_spec h).closed
    rw [hopen] at hclosed
    cases hclosed

end Caixinha.Effects.SecureRelease
