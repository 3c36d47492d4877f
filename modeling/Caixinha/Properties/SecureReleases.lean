import Caixinha.Effects.SecureRelease
import Caixinha.Properties.LoanReleases

/-! The guarded release under any interleaving of its requests with the operations on the money. -/
namespace Caixinha.Properties.SecureReleases

open Caixinha.Library Caixinha.Library.Table Fallible Caixinha.Model Caixinha.Model.SecureRelease
  Caixinha.Effects Caixinha.Effects.SecureRelease Caixinha.Properties.LoanReleases

variable {env : Env} {upper : String → String} {db db' : Db} {s s' : State}
  {row : SecureReleaseAuthorization}

structure Waiting (row : SecureReleaseAuthorization) : Prop where
  status : row.status = .AUTHORIZED
  confirmedBy : row.confirmedBy = none
  executionHash : row.executionHash = none

/-- An executed authorization: another id than the one that asked for it is recorded as the second
administrator, who confirmed it in time, the evaluation of its hash allowed the release on the base terms,
and the principal of the loan left. -/
structure Executed (env : Env) (upper : String → String) (db : Db) (row : SecureReleaseAuthorization) :
    Prop where
  status : row.status = .EXECUTED
  second : ∃ adminId, row.confirmedBy = some adminId ∧ adminId ≠ row.authorizedBy ∧
    row.executionHash = some (env.sha256 (Json.dumps (executionFields row adminId)))
  inTime : ∃ t, row.confirmedAt = some t ∧ row.executedAt = some t ∧ t < row.authorizedAt + freshness
  governed : ∃ result loan, loan ∈ db.loans ∧ loan.id = row.loanId ∧ Favourable loan result ∧
    row.governanceHash = result.integrityHash env ∧ result.horizonMonths = 12 ∧
    result.scenario = upper "BASE"
  released : ∃ loan ∈ db.loans, loan.id = row.loanId ∧
    ∃ e ∈ db.ledgerEntries, e.referenceType = .LOAN_DISBURSEMENT ∧ DisbursementOf loan e

/-- What the table of the authorizations keeps. -/
structure Guarded (env : Env) (upper : String → String) (s : State) : Prop where
  keyed : Keyed SecureReleaseAuthorization.id s.authorizations
  term : ∀ row ∈ s.authorizations, row.expiresAt = row.authorizedAt + freshness
  kinds : ∀ row ∈ s.authorizations, Waiting row ∨ Executed env upper s.db row
  waitingOnce : ∀ x ∈ s.authorizations, ∀ y ∈ s.authorizations, Waiting x → Waiting y →
    x.loanId = y.loanId → x = y

section Money

private theorem Executed.moved (h : Executed env upper db row) (hkeyed : Keyed Loan.id db.loans)
    (hmove : Moved db db') : Executed env upper db' row := by
  have hloans := hmove.loans.forall₂ hkeyed
  obtain ⟨rows, hledger, -⟩ := hmove.ledger
  refine ⟨h.status, h.second, h.inTime, ?_, ?_⟩
  · obtain ⟨result, loan, hmem, hid, hfavourable, hrest⟩ := h.governed
    obtain ⟨loan', hmem', hkept⟩ := loan_forward hloans hmem
    exact ⟨result, loan', hmem', hkept.id_eq.trans hid, hfavourable.kept hkept, hrest⟩
  · obtain ⟨loan, hmem, hid, e, he, htype, hof⟩ := h.released
    obtain ⟨loan', hmem', hkept⟩ := loan_forward hloans hmem
    refine ⟨loan', hmem', hkept.id_eq.trans hid, e, ?_, htype, hof.kept hkept⟩
    rw [hledger]
    exact List.mem_append_left _ he

/-- An operation on the money keeps the books and every execution. -/
private theorem execute_keeps (upper : String → String) (hs : Sound db) (h : ReleasedOnce db) (op : Int × Operation) :
    Sound (execute env db op) ∧ ReleasedOnce (execute env db op) ∧
      ∀ row, Executed env upper db row → Executed env upper (execute env db op) row := by
  have hmove : ∀ x y, Moved x y → (ReleasedOnce x ∧ ∀ row, Executed env upper db row →
      Executed env upper x row) → ReleasedOnce y ∧ ∀ row, Executed env upper db row →
      Executed env upper y row := by
    rintro x y hmove ⟨hx, hexecuted⟩
    exact ⟨hx.step hmove, fun row hrow => (hexecuted row hrow).moved hx.keyed hmove⟩
  have hrun := @run_moves env db _ hmove hs ⟨h, fun _ hrow => hrow⟩ [op]
  exact ⟨hrun.1, hrun.2.1, hrun.2.2⟩

end Money

section Calls

/-- The money, the releases and the authorizations together. -/
structure Kept (env : Env) (upper : String → String) (s : State) : Prop where
  sound : Sound s.db
  released : ReleasedOnce s.db
  guarded : Guarded env upper s

private theorem execute_release {clock : Int} {loanId : Nat} {funds : Bool}
    (h : releaseLoan env db clock loanId = .ok (db', funds)) :
    execute env db (clock, .releaseLoan loanId) = db' := by
  simp [execute, attempt, h, Functor.map, Except.map]

private theorem released_row {clock : Int} {loanId : Nat} {funds : Bool} {loan : Loan}
    (h : ReleasedOnce db) (hrelease : releaseLoan env db clock loanId = .ok (db', funds))
    (hloan : db.loan? loanId = some loan) :
    ∃ loan' ∈ db'.loans, LoanKept loan loan' ∧
      ∃ e ∈ db'.ledgerEntries, e.referenceType = .LOAN_DISBURSEMENT ∧ DisbursementOf loan' e := by
  obtain ⟨found, accounts, account, entries, rows, hid, hreleased⟩ := releaseLoan_spec hrelease
  subst hid
  obtain rfl : loan = found := Option.some.inj (hloan.symm.trans hreleased.row)
  have hmem := lookup_mem hloan
  have hmove := hreleased.moved
  obtain ⟨loan', hmem', hkept⟩ := loan_forward (hmove.loans.forall₂ h.keyed) hmem
  refine ⟨loan', hmem', hkept, ?_⟩
  have hledger : db'.ledgerEntries = db.ledgerEntries ++ rows := by rw [hreleased.only]
  rcases hreleased.disbursed with ⟨-, e, he, htype, hreference⟩ | ⟨e, rfl, hdisbursed⟩
  · obtain ⟨owner, howner, hof⟩ := h.disbursed e he htype
    have hsame : owner.id = loan.id := toString_key_inj (hof.reference.symm.trans hreference)
    obtain rfl : owner = loan := eq_of_mem_of_key h.keyed howner hmem hsame
    exact ⟨e, hledger ▸ List.mem_append_left _ he, htype, hof.kept hkept⟩
  · exact ⟨e, by simp [hledger], hdisbursed.type, DisbursementOf.kept
      ⟨hdisbursed.reference, hdisbursed.account, hdisbursed.direction, hdisbursed.amount⟩ hkept⟩

private theorem kept_money (h : Kept env upper s) (op : Int × Operation) :
    Kept env upper { s with db := execute env s.db op } := by
  obtain ⟨hsound, hreleased, hexecuted⟩ := execute_keeps upper h.sound h.released op
  refine ⟨hsound, hreleased, h.guarded.keyed, h.guarded.term, fun row hrow => ?_, h.guarded.waitingOnce⟩
  exact (h.guarded.kinds row hrow).imp_right (hexecuted row)

private theorem waiting_closed {loanId : Nat} (hclosed : hasOpen s loanId = false)
    (hmem : row ∈ s.authorizations) (hwaiting : Waiting row) : row.loanId ≠ loanId := by
  intro hid
  have hopen : hasOpen s loanId = true :=
    List.any_eq_true.mpr ⟨row, hmem, decide_eq_true ⟨hid, .inl hwaiting.status⟩⟩
  rw [hclosed] at hopen
  cases hopen

private theorem kept_authorized {clock : Int} {loanId adminId : Nat} {horizonMonths : Int}
    {scenario : String} {result : Evaluation} (h : Kept env upper s)
    (hauthorized : Authorized env upper s s' clock loanId adminId horizonMonths scenario result row) :
    Kept env upper s' := by
  obtain ⟨hclosed, -, -, hrow, -, rfl⟩ := hauthorized
  have hnew : Waiting row := hrow ▸ ⟨rfl, rfl, rfl⟩
  have hloanId : row.loanId = loanId := hrow ▸ rfl
  have hfresh : row.id = nextKey SecureReleaseAuthorization.id s.authorizations := hrow ▸ rfl
  refine ⟨h.sound, h.released, keyed_append h.guarded.keyed hfresh, ?_, ?_, ?_⟩
  · intro x hx
    rcases List.mem_append.mp hx with hx | hx
    · exact h.guarded.term x hx
    · rw [List.mem_singleton.mp hx, hrow]
      rfl
  · intro x hx
    rcases List.mem_append.mp hx with hx | hx
    · exact h.guarded.kinds x hx
    · exact .inl (List.mem_singleton.mp hx ▸ hnew)
  · intro x hx y hy hxw hyw hsame
    rcases List.mem_append.mp hx with hx | hx <;> rcases List.mem_append.mp hy with hy | hy
    · exact h.guarded.waitingOnce x hx y hy hxw hyw hsame
    · rw [List.mem_singleton.mp hy, hloanId] at hsame
      exact absurd hsame (waiting_closed hclosed hx hxw)
    · rw [List.mem_singleton.mp hx, hloanId] at hsame
      exact absurd hsame.symm (waiting_closed hclosed hy hyw)
    · rw [List.mem_singleton.mp hx, List.mem_singleton.mp hy]

private theorem kept_confirmed {clock : Int} {authorizationId adminId : Nat} {current : Evaluation}
    {row' : SecureReleaseAuthorization} (h : Kept env upper s)
    (hconfirmed : Confirmed env upper s s' clock authorizationId adminId current row row') :
    Kept env upper s' := by
  obtain ⟨funds, hrelease⟩ := hconfirmed.released
  obtain ⟨loan, hloan, hfavourable⟩ := hconfirmed.favourable
  obtain ⟨hsound, hreleased, hexecuted⟩ :=
    execute_keeps upper h.sound h.released (clock, .releaseLoan row.loanId)
  rw [execute_release hrelease] at hsound hreleased hexecuted
  obtain ⟨loan', hmem', hkept, hrow⟩ := released_row h.released hrelease hloan
  have hmem := lookup_mem hconfirmed.found
  have hid : loan'.id = row.loanId := hkept.id_eq.trans (lookup_key hloan)
  have hterm := h.guarded.term row hmem
  have hnew : Executed env upper s'.db row' := by
    rw [hconfirmed.row_eq]
    refine ⟨rfl, ⟨adminId, rfl, Ne.symm hconfirmed.other, rfl⟩, ⟨clock, rfl, rfl, ?_⟩, ?_, ?_⟩
    · exact hterm ▸ hconfirmed.inTime
    · exact ⟨current, loan', hmem', hid, hfavourable.kept hkept, hconfirmed.unchanged.symm,
        hconfirmed.horizon, hconfirmed.scenario⟩
    · exact ⟨loan', hmem', hid, hrow⟩
  have hkey : row'.id = row.id := by rw [hconfirmed.row_eq]; rfl
  have hsplit : ∀ x ∈ s'.authorizations, x = row' ∨ x ∈ s.authorizations :=
    fun x hx => mem_replace (hconfirmed.authorizations ▸ hx)
  refine ⟨hsound, hreleased, ?_, ?_, ?_, ?_⟩
  · rw [hconfirmed.authorizations]
    exact keyed_replace h.guarded.keyed
  · intro x hx
    rcases hsplit x hx with rfl | hx
    · rw [hconfirmed.row_eq]
      exact hterm
    · exact h.guarded.term x hx
  · intro x hx
    rcases hsplit x hx with rfl | hx
    · exact .inr hnew
    · exact (h.guarded.kinds x hx).imp_right (hexecuted x)
  · intro x hx y hy hxw hyw hsame
    have hold : ∀ z ∈ s'.authorizations, Waiting z → z ∈ s.authorizations := by
      intro z hz hwaiting
      rcases hsplit z hz with rfl | hz
      · exact absurd (hwaiting.status.symm.trans hnew.status) (by simp)
      · exact hz
    exact h.guarded.waitingOnce x (hold x hx hxw) y (hold y hy hyw) hxw hyw hsame

/-- A call leaves a row as it is, or confirms it. -/
private theorem call_mem (hkeyed : Keyed SecureReleaseAuthorization.id s.authorizations)
    (hmem : row ∈ s.authorizations) (c : Int × Call) :
    row ∈ (call env upper s c).authorizations ∨ ∃ s' adminId current row',
      Confirmed env upper s s' c.1 row.id adminId current row row' := by
  obtain ⟨clock, c⟩ := c
  cases c with
  | money op => exact .inl hmem
  | authorize loanId adminId horizonMonths scenario a =>
    change row ∈ (orKeep s (authorize env upper a s clock loanId adminId horizonMonths scenario)).authorizations ∨ _
    cases hcall : authorize env upper a s clock loanId adminId horizonMonths scenario with
    | error failure => exact .inl hmem
    | ok r =>
      obtain ⟨s', new, result⟩ := r
      refine .inl ?_
      rw [orKeep, (authorize_spec hcall).only]
      exact List.mem_append_left _ hmem
  | confirm authorizationId adminId a =>
    change row ∈ (orKeep s (confirm env upper a s clock authorizationId adminId)).authorizations ∨ _
    cases hcall : confirm env upper a s clock authorizationId adminId with
    | error failure => exact .inl hmem
    | ok r =>
      obtain ⟨s', row', current⟩ := r
      obtain ⟨found, hconfirmed⟩ := confirm_spec hcall
      have hid : found.id = authorizationId := lookup_key hconfirmed.found
      by_cases hsame : row.id = authorizationId
      · obtain rfl := eq_of_mem_of_key hkeyed hmem (lookup_mem hconfirmed.found) (hsame.trans hid.symm)
        exact .inr ⟨s', adminId, current, row', hid ▸ hconfirmed⟩
      · have hne : row.id ≠ row'.id := by
          rw [hconfirmed.row_eq]
          exact fun he => hsame (he.trans hid)
        refine .inl ?_
        rw [orKeep, hconfirmed.authorizations]
        exact List.mem_map.mpr ⟨row, hmem, if_neg hne⟩

/-- One call keeps everything. -/
theorem Kept.call (h : Kept env upper s) (c : Int × Call) : Kept env upper (call env upper s c) := by
  obtain ⟨clock, c⟩ := c
  cases c with
  | money op => exact kept_money h (clock, op)
  | authorize loanId adminId horizonMonths scenario a =>
    change Kept env upper (orKeep s (authorize env upper a s clock loanId adminId horizonMonths scenario))
    cases hcall : authorize env upper a s clock loanId adminId horizonMonths scenario with
    | error failure => exact h
    | ok r =>
      obtain ⟨s', row, result⟩ := r
      exact kept_authorized h (authorize_spec hcall)
  | confirm authorizationId adminId a =>
    change Kept env upper (orKeep s (confirm env upper a s clock authorizationId adminId))
    cases hcall : confirm env upper a s clock authorizationId adminId with
    | error failure => exact h
    | ok r =>
      obtain ⟨s', row', current⟩ := r
      obtain ⟨row, hconfirmed⟩ := confirm_spec hcall
      exact kept_confirmed h hconfirmed

end Calls

section Runs

/-- No call confirms the row, whatever the state. -/
def Stuck (env : Env) (upper : String → String) (calls : List (Int × Call))
    (row : SecureReleaseAuthorization) : Prop :=
  ∀ c ∈ calls, ∀ s s' adminId current row', ¬ Confirmed env upper s s' c.1 row.id adminId current row row'

private theorem run_keeps_stuck {calls : List (Int × Call)} (h : Kept env upper s)
    (hmem : row ∈ s.authorizations) (hstuck : Stuck env upper calls row) :
    row ∈ (runCalls env upper s calls).authorizations := by
  induction calls generalizing s with
  | nil => exact hmem
  | cons c calls ih =>
    refine ih (h.call c) ?_ fun d hd => hstuck d (List.mem_cons_of_mem _ hd)
    rcases call_mem h.guarded.keyed hmem c with hkept | ⟨s', adminId, current, row', hconfirmed⟩
    · exact hkept
    · exact absurd hconfirmed (hstuck c (List.mem_cons_self ..) s s' adminId current row')

private theorem hasOpen_of_waiting (hmem : row ∈ s.authorizations) (hwaiting : row.status = .AUTHORIZED) :
    hasOpen s row.loanId = true :=
  List.any_eq_true.mpr ⟨row, hmem, decide_eq_true ⟨rfl, .inl hwaiting⟩⟩

/-- Whatever calls and operations interleave, an authorization is executed only when another id than the
one that asked for it confirms it in time, on an evaluation that allowed the release on the base terms and
has the authorized hash; the principal has then left the group, a loan has one waiting authorization at
most, an executed one stays as it is, and no other status is ever stored. -/
theorem executed_under_control (h : Kept env upper s) (calls : List (Int × Call)) :
    Kept env upper (runCalls env upper s calls) ∧
      ∀ row ∈ s.authorizations, row.status = .EXECUTED →
        row ∈ (runCalls env upper s calls).authorizations := by
  refine ⟨?_, fun row hmem hstatus => run_keeps_stuck h hmem fun c _ s s' adminId current row' hconfirmed => ?_⟩
  · induction calls generalizing s with
    | nil => exact h
    | cons c calls ih => exact ih (h.call c)
  · exact absurd (hstatus.symm.trans hconfirmed.waiting) (by simp)

/-- Once an authorization has expired it waits for ever, and its loan gets no other one: the expiry is
undone with the request that notices it. -/
theorem expired_blocks (h : Kept env upper s) (hmem : row ∈ s.authorizations)
    (hwaiting : row.status = .AUTHORIZED) (calls : List (Int × Call))
    (hlate : ∀ c ∈ calls, row.expiresAt ≤ c.1) :
    row ∈ (runCalls env upper s calls).authorizations ∧
      ∀ a clock adminId horizonMonths scenario, ∃ failure,
        authorize env upper a (runCalls env upper s calls) clock row.loanId adminId horizonMonths scenario =
          .error failure := by
  have hkept := run_keeps_stuck h hmem fun c hc s s' adminId current row' hconfirmed =>
    absurd hconfirmed.inTime (not_lt.mpr (hlate c hc))
  exact ⟨hkept, authorize_refused (hasOpen_of_waiting hkept hwaiting)⟩

/-- An authorization made for another horizon or scenario than the base terms is never executed, at any
time, and its loan gets no other one. -/
theorem other_terms_block {a : Assessments} {clock : Int} {loanId adminId : Nat} {horizonMonths : Int}
    {scenario : String} {result : Evaluation} (hsha : Function.Injective env.sha256)
    (h : Kept env upper s)
    (hauthorize : authorize env upper a s clock loanId adminId horizonMonths scenario = .ok (s', row, result))
    (hother : ¬ (horizonMonths = 12 ∧ upper scenario = upper "BASE")) (calls : List (Int × Call)) :
    row ∈ (runCalls env upper s' calls).authorizations ∧ row.status = .AUTHORIZED ∧
      ∀ a clock adminId horizonMonths scenario, ∃ failure,
        authorize env upper a (runCalls env upper s' calls) clock loanId adminId horizonMonths scenario =
          .error failure := by
  have hauthorized := authorize_spec hauthorize
  have hrow := hauthorized.row_eq
  have hwaiting : row.status = .AUTHORIZED := hrow ▸ rfl
  have hloanId : row.loanId = loanId := hrow ▸ rfl
  have hmem : row ∈ s'.authorizations := by simp [hauthorized.only]
  have hstuck : Stuck env upper calls row := by
    intro c _ s t adminId current row' hconfirmed
    have hhash : current.integrityHash env = result.integrityHash env := by
      rw [hconfirmed.unchanged, hrow]
      rfl
    obtain ⟨hhorizon, hscenario⟩ := terms_of_integrityHash hsha hhash
    rw [hconfirmed.horizon, hauthorized.horizon] at hhorizon
    rw [hconfirmed.scenario, hauthorized.scenario] at hscenario
    exact hother ⟨hhorizon.symm, hscenario.symm⟩
  have hkept := run_keeps_stuck (kept_authorized h hauthorized) hmem hstuck
  exact ⟨hkept, hwaiting, hloanId ▸ authorize_refused (hasOpen_of_waiting hkept hwaiting)⟩

end Runs

section Samples

private def sampleLoan : Loan where
  id := 1
  memberId := 1
  principal := 50000
  principalSettledWithOwnBalance := 0
  calculationVersion := none
  status := .APPROVED
  disbursedAt := none
  paidAt := none
  stateRevision := 0

private def sampleDb : Db where
  users := [⟨7, true, true, false⟩, ⟨8, true, true, false⟩]
  members := [{ id := 1 }]
  loans := [sampleLoan]

private def sampleState : State := { db := sampleDb }

private def sampleAssessments : Assessments where
  group := fun _ => some 1
  evaluateLoanPipeline := fun _ => .ok { decision := .ALLOW, errors := [], rest := [] }
  optimizeCapacity := fun _ _ _ _ => .ok { capacity := 80000, rest := [] }
  buildGovernanceAllocation := fun _ _ _ =>
    .ok { items := [{ memberId := 1, governedAmount := 60000, rest := [] }], rest := [] }

private def sampleEnv : Env where
  sha256 := fun text => text
  lateChargeEffectiveDate := none

private theorem sample_kept {env : Env} {rows : List SecureReleaseAuthorization}
    (h : Guarded env String.toUpper { sampleState with authorizations := rows }) :
    Kept env String.toUpper { sampleState with authorizations := rows } := by
  have hsound : Sound sampleDb := by
    constructor <;> first | decide | (constructor <;> decide)
  have hreleased : ReleasedOnce sampleDb := by
    refine ⟨by decide, ?_, ?_, ?_, ?_⟩ <;> simp [disbursements, commitments, sampleDb]
  exact ⟨hsound, hreleased, h⟩

private theorem sample_guarded {env : Env} : Guarded env String.toUpper sampleState := by
  refine ⟨by decide, ?_, ?_, ?_⟩ <;> simp [sampleState]

/-- Confirmed by the second administrator a minute later. -/
private def sampleCalls : List (Int × Call) :=
  [(0, .authorize 1 7 12 "BASE" sampleAssessments), (60000000, .confirm 1 8 sampleAssessments)]

/-- A hash that says nothing, so that the whole flow can be run. -/
private def digestEnv : Env := { sampleEnv with sha256 := fun _ => "" }

private def sampleExecuted : State := runCalls digestEnv String.toUpper sampleState sampleCalls

/-- The confirmation executes the row, and confirming it again leaves it as it is. -/
theorem sample_executed_under_control : sampleExecuted.authorizations.map (·.status) = [.EXECUTED] ∧
    ∀ row ∈ sampleExecuted.authorizations, Executed digestEnv String.toUpper sampleExecuted.db row ∧
      row ∈ (runCalls digestEnv String.toUpper sampleExecuted
        [(120000000, .confirm 1 8 sampleAssessments)]).authorizations := by
  have hstatuses : sampleExecuted.authorizations.map (·.status) = [.EXECUTED] := rfl
  have hkept : Kept digestEnv String.toUpper sampleExecuted :=
    (executed_under_control (sample_kept sample_guarded) sampleCalls).1
  refine ⟨hstatuses, fun row hrow => ?_⟩
  have hstatus : row.status = .EXECUTED := by
    have hmem := List.mem_map_of_mem (f := (·.status)) hrow
    rw [hstatuses] at hmem
    exact List.mem_singleton.mp hmem
  refine ⟨?_, (executed_under_control hkept _).2 row hrow hstatus⟩
  rcases hkept.guarded.kinds row hrow with hwaiting | hexecuted
  · exact absurd (hwaiting.status.symm.trans hstatus) (by simp)
  · exact hexecuted

private def sampleRow : SecureReleaseAuthorization where
  id := 1
  loanId := 1
  groupId := 1
  governanceHash := ""
  governanceSnapshot := ""
  status := .AUTHORIZED
  authorizedBy := 7
  authorizedAt := 0
  expiresAt := freshness

private theorem sampleRow_guarded :
    Guarded sampleEnv String.toUpper { sampleState with authorizations := [sampleRow] } := by
  have hwaiting : Waiting sampleRow := ⟨rfl, rfl, rfl⟩
  refine ⟨by decide, ?_, ?_, ?_⟩
  · exact List.forall_mem_singleton.mpr rfl
  · exact List.forall_mem_singleton.mpr (.inl hwaiting)
  · intro x hx y hy _ _ _
    rw [List.mem_singleton.mp hx, List.mem_singleton.mp hy]

/-- A confirmation at the very end of the quarter of an hour. -/
theorem sample_expired_blocks :
    sampleRow ∈ (runCalls sampleEnv String.toUpper { sampleState with authorizations := [sampleRow] }
      [(freshness, .confirm 1 8 sampleAssessments)]).authorizations :=
  (expired_blocks (sample_kept sampleRow_guarded) (List.mem_singleton_self _) rfl
    [(freshness, .confirm 1 8 sampleAssessments)] (by decide)).1

/-- Authorized on a horizon of two years and confirmed by the second administrator a minute later. -/
theorem sample_other_terms_block : ∃ s' row result,
    authorize sampleEnv String.toUpper sampleAssessments sampleState 0 1 7 24 "BASE" =
      .ok (s', row, result) ∧
    row ∈ (runCalls sampleEnv String.toUpper s'
      [(60000000, .confirm 1 8 sampleAssessments)]).authorizations := by
  obtain ⟨s', row, result, hok⟩ : ∃ s' row result, authorize sampleEnv String.toUpper sampleAssessments
      sampleState 0 1 7 24 "BASE" = .ok (s', row, result) := ⟨_, _, _, rfl⟩
  exact ⟨s', row, result, hok, (other_terms_block (fun _ _ h => h) (sample_kept sample_guarded) hok
    (by decide) [(60000000, .confirm 1 8 sampleAssessments)]).1⟩

end Samples

end Caixinha.Properties.SecureReleases
