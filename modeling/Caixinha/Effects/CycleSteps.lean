import Mathlib.Logic.Relation
import Caixinha.Effects.CycleFrame

/-! What one step on the tables of a cycle can do, and the operations as sequences of such steps. -/
namespace Caixinha.Effects

open Caixinha.Library Caixinha.Library.Table Fallible Caixinha.Model

section Issue
variable {db db' : Db} {memberId cycleId : Nat} {clock competence entryDate : Int}
  {row : CycleParticipation} {c : Contribution}

theorem ensureActive_spec {entry : Option Int}
    (h : ensureActiveParticipation db memberId cycleId clock entry = .ok (db', row)) :
    Opened db db' memberId cycleId row ∧ row.state = .active := by
  unfold ensureActiveParticipation at h
  simp only [bind_eq_ok, refuseIf_eq_ok, pure_eq_ok, Prod.exists, Prod.mk.injEq, exists_and_left,
    exists_const] at h
  obtain ⟨locked, account, hlock, opened, found, hrow, hactive, rfl, rfl⟩ := h
  exact ⟨opened_spec hlock hrow, not_not.mp hactive⟩

/-- A contribution as it is issued. -/
structure NewContribution (db : Db) (memberId cycleId : Nat) (competence : Int) (c : Contribution) :
    Prop where
  id_eq : c.id = nextKey Contribution.id db.contributions
  member : c.memberId = memberId
  cycle : c.cycleId = some cycleId
  month : c.competence = competence
  amount : authoritativeAmount db memberId cycleId = .ok c.amount
  live : c.cancelledAt = none
  unpaid : c.paidAmount = some 0
  none : contributionOf? db memberId cycleId competence = none

/-- A contribution found with the authoritative amount, or issued with it. -/
theorem createContribution_spec
    (h : createContribution db clock memberId cycleId competence entryDate = .ok (db', c)) :
    ∃ opened row, Opened db opened memberId cycleId row ∧ row.state = .active ∧
      ((db' = opened ∧ contributionOf? opened memberId cycleId competence = some c ∧
          authoritativeAmount opened memberId cycleId = .ok c.amount) ∨
        (NewContribution opened memberId cycleId competence c ∧
          db' = { opened with contributions := opened.contributions ++ [c] })) := by
  unfold createContribution at h
  simp only [bind_eq_ok, orRefuse_eq_ok, refuseIf_eq_ok, Prod.exists, exists_and_left,
    exists_const] at h
  obtain ⟨cycle, -, -, -, -, -, -, opened, row, hjoin, h⟩ := h
  obtain ⟨hopened, hactive⟩ := ensureActive_spec hjoin
  refine ⟨opened, row, hopened, hactive, ?_⟩
  split at h
  · rename_i existing hexisting
    simp only [bind_eq_ok, refuseIf_eq_ok, pure_eq_ok, Prod.mk.injEq, exists_and_left,
      exists_const] at h
    obtain ⟨amount, hamount, heq, rfl, rfl⟩ := h
    exact .inl ⟨rfl, hexisting, by rw [not_not.mp heq, hamount]⟩
  · rename_i hnone
    simp only [bind_eq_ok, pure_eq_ok, Prod.mk.injEq] at h
    obtain ⟨amount, hamount, rfl, rfl⟩ := h
    exact .inr ⟨⟨rfl, rfl, rfl, rfl, hamount, rfl, rfl, hnone⟩, rfl⟩

end Issue

section Steps
variable {env : Env} {db db' db'' : Db} {memberId cycleId : Nat} {clock : Int}

/-- One write to the tables of a cycle. -/
inductive CycleStep (db db' : Db) : Prop where
  | paid (kept : CyclesKept db db') (sound : Sound db')
  | bought (quota : Quota) (only : db' = { db with quotas := db.quotas ++ [quota] })
  | opened (memberId cycleId : Nat) (row : CycleParticipation) (opened : Opened db db' memberId cycleId row)
  | issued (memberId cycleId : Nat) (cycle : Cycle) (offset : Nat) (row : CycleParticipation)
    (c : Contribution) (found : participation? db memberId cycleId = some row)
    (active : row.state = .active) (cycle? : db.cycle? cycleId = some cycle) (lt : offset < cycle.months)
    (new : NewContribution db memberId cycleId (monthOfIndex (monthIndex cycle.startDate + offset)) c)
    (only : db' = { db with contributions := db.contributions ++ [c] })
  | charged (memberId cycleId : Nat) (row : CycleParticipation) (events : List ContributionChargeEvent)
    (accruals : ∀ e ∈ events, AccrualOf row.id (contributionsOf db memberId cycleId) e)
    (only : db' = { db with contributionChargeEvents := db.contributionChargeEvents ++ events })
  | blocked (when_ : Int) (memberId cycleId : Nat) (row row' : CycleParticipation)
    (snapshots : List ChargeSnapshot) (events : List ContributionChargeEvent)
    (found : participation? db memberId cycleId = some row)
    (blocked : Blocked db db' when_ memberId cycleId row row' snapshots events)
  | exited (when_ : Int) (memberId cycleId : Nat) (row row' : CycleParticipation)
    (found : participation? db memberId cycleId = some row) (active : row.state = .active)
    (exited : row' = { row with state := .voluntarilyExited when_ })
    (only : db' = { db with
      participations := replace CycleParticipation.id db.participations row'
      contributions := db.contributions.map (cancelledAmong "VOLUNTARY_EXIT" when_
        ((contributionsOf db memberId cycleId).map Contribution.id)) })

theorem Sound.of_contributions (hs : Sound db) (hkeyed : Keyed Contribution.id db'.contributions)
    (hpayments : db'.payments = db.payments) (hinstallments : db'.loanInstallments = db.loanInstallments)
    (hsettlements : db'.settlements = db.settlements) (hreversals : db'.reversals = db.reversals)
    (hledger : db'.ledgerEntries = db.ledgerEntries) : Sound db' where
  payments := hpayments ▸ hs.payments
  contributions := hkeyed
  installments := hinstallments ▸ hs.installments
  settlements := hsettlements ▸ hs.settlements
  settledOnce := hsettlements ▸ hs.settledOnce
  reversals := hreversals ▸ hs.reversals
  reversedOnce := hreversals ▸ hs.reversedOnce
  reversedSettlementOnce := hreversals ▸ hs.reversedSettlementOnce
  reversed := by rw [hreversals, hsettlements]; exact hs.reversed
  ledger := hledger ▸ hs.ledger

theorem CycleStep.sound (hs : Sound db) (h : CycleStep db db') : Sound db' := by
  cases h with
  | paid _ hsound => exact hsound
  | bought _ honly =>
    rw [honly]
    exact hs.of_contributions hs.contributions rfl rfl rfl rfl rfl
  | opened memberId cycleId row hopened =>
    rw [hopened.only]
    exact hs.of_contributions hs.contributions rfl rfl rfl rfl rfl
  | issued _ _ _ _ _ _ _ _ _ _ hnew honly =>
    rw [honly]
    exact hs.of_contributions (keyed_append hs.contributions hnew.id_eq) rfl rfl rfl rfl rfl
  | charged _ _ _ _ _ honly =>
    rw [honly]
    exact hs.of_contributions hs.contributions rfl rfl rfl rfl rfl
  | blocked _ _ _ _ _ _ _ _ hblocked =>
    rw [hblocked.only]
    exact hs.of_contributions (keyed_cancelled hs.contributions _) rfl rfl rfl rfl rfl
  | exited _ _ _ _ _ _ _ _ honly =>
    rw [honly]
    exact hs.of_contributions (keyed_cancelled hs.contributions _) rfl rfl rfl rfl rfl

abbrev CycleSteps : Db → Db → Prop := Relation.ReflTransGen CycleStep

theorem CycleSteps.sound (hs : Sound db) (h : CycleSteps db db') : Sound db' := by
  induction h with
  | refl => exact hs
  | tail _ hstep ih => exact hstep.sound ih

theorem CycleStep.cycles (h : CycleStep db db') : db'.cycles = db.cycles := by
  cases h with
  | paid hkept _ => exact hkept.cycles
  | bought _ honly => rw [honly]
  | opened _ _ _ hopened => rw [hopened.only]
  | issued _ _ _ _ _ _ _ _ _ _ _ honly => rw [honly]
  | charged _ _ _ _ _ honly => rw [honly]
  | blocked _ _ _ _ _ _ _ _ hblocked => rw [hblocked.only]
  | exited _ _ _ _ _ _ _ _ honly => rw [honly]

theorem CycleSteps.cycles (h : CycleSteps db db') : db'.cycles = db.cycles := by
  induction h with
  | refl => rfl
  | tail _ hstep ih => exact hstep.cycles.trans ih

/-- Steps that buy no quota. -/
abbrev QuietSteps : Db → Db → Prop :=
  Relation.ReflTransGen (fun db db' => CycleStep db db' ∧ db'.quotas = db.quotas)

theorem QuietSteps.steps (h : QuietSteps db db') : CycleSteps db db' := by
  induction h with
  | refl => exact .refl
  | tail _ hstep ih => exact ih.tail hstep.1

theorem QuietSteps.quotas (h : QuietSteps db db') : db'.quotas = db.quotas := by
  induction h with
  | refl => rfl
  | tail _ hstep ih => exact hstep.2.trans ih

theorem quiet_opened {row : CycleParticipation} (h : Opened db db' memberId cycleId row) :
    QuietSteps db db' := .single ⟨.opened memberId cycleId row h, by rw [h.only]⟩

theorem quiet_createContribution {entryDate : Int} {cycle : Cycle} {offset : Nat} {c : Contribution}
    (hcycle : db.cycle? cycleId = some cycle) (hlt : offset < cycle.months)
    (h : createContribution db clock memberId cycleId
      (monthOfIndex (monthIndex cycle.startDate + offset)) entryDate = .ok (db', c)) :
    QuietSteps db db' := by
  obtain ⟨opened, row, hopened, hactive, ⟨rfl, -, -⟩ | ⟨hnew, honly⟩⟩ := createContribution_spec h
  · exact quiet_opened hopened
  · have hcycle' : opened.cycle? cycleId = some cycle := by
      rw [hopened.only]
      exact hcycle
    exact (quiet_opened hopened).tail ⟨.issued memberId cycleId cycle offset row c hopened.participation?
      hactive hcycle' hlt hnew honly, by rw [honly]⟩

theorem quiet_ensureContributions {entryDate : Int} {rows : List Contribution}
    (h : ensureContributionsForEntry db clock memberId cycleId entryDate = .ok (db', rows)) :
    QuietSteps db db' := by
  unfold ensureContributionsForEntry at h
  simp only [bind_eq_ok, orRefuse_eq_ok, refuseIf_eq_ok, Prod.exists, exists_and_left,
    exists_const] at h
  obtain ⟨cycle, hcycle, -, -, joined, row, hjoin, h⟩ := h
  refine foldlM_invariant_mem (fun progress : Db × List Contribution => QuietSteps db progress.1) ?_
    (quiet_opened (ensureActive_spec hjoin).1) h
  intro progress offset next hoffset hsteps hmonth
  unfold ensureMonth at hmonth
  simp only [bind_eq_ok, pure_eq_ok, Prod.exists] at hmonth
  obtain ⟨after, c, hcreate, rfl⟩ := hmonth
  have hcycle' : progress.1.cycle? cycleId = some cycle := by
    rw [Db.cycle?, CycleSteps.cycles (QuietSteps.steps hsteps)]
    exact hcycle
  have hlt : offset < cycle.months := by
    have := List.mem_range.mp hoffset
    unfold elapsedMonths at this
    omega
  exact hsteps.trans (quiet_createContribution hcycle' hlt hcreate)

theorem quiet_materialize {effectiveAt : Option Timestamp}
    (h : materializeActiveCharges db clock memberId cycleId effectiveAt = .ok db') : QuietSteps db db' := by
  obtain ⟨opened, row, events, hopened, honly, -, hevents⟩ := materialize_spec h
  exact (quiet_opened hopened).tail ⟨.charged memberId cycleId row events hevents honly, by rw [honly]⟩

theorem quiet_evaluate {effectiveAt : Option Timestamp} {row' : CycleParticipation} (hs : Sound db)
    (h : evaluateDelinquency db clock memberId cycleId effectiveAt = .ok (db', row')) :
    QuietSteps db db' := by
  obtain ⟨when_, opened, row, -, hopened, ⟨rfl, -⟩ | ⟨snapshots, events, hblocked⟩⟩ :=
    evaluate_cases hs.contributions h
  · exact quiet_opened hopened
  · exact (quiet_opened hopened).tail ⟨.blocked when_ memberId cycleId row row' snapshots events
      hopened.participation? hblocked, by rw [hblocked.only]⟩

theorem quiet_exit {effectiveAt : Option Timestamp} {row' : CycleParticipation} (hs : Sound db)
    (h : voluntaryExit db clock memberId cycleId effectiveAt = .ok (db', row')) : QuietSteps db db' := by
  obtain ⟨when_, opened, row, hopened, hactive, hexited, honly⟩ := exit_spec hs.contributions h
  exact (quiet_opened hopened).tail ⟨.exited when_ memberId cycleId row row' hopened.participation?
    hactive hexited honly, by rw [honly]⟩

theorem createQuota_spec {units : Int} {quota : Quota}
    (h : createQuota db memberId cycleId units = .ok (db', quota)) :
    quota.memberId = memberId ∧ quota.cycleId = some cycleId ∧ quota.active ∧ quota.units = units.toNat ∧
      1 ≤ units ∧ db' = { db with quotas := db.quotas ++ [quota] } ∧
      (∀ row, participation? db memberId cycleId = some row → row.state = .active) ∧
      ∃ cycle, db.cycle? cycleId = some cycle ∧
        ((db'.quotas.filter (fun q => q.cycleId = some cycleId)).map Quota.units).sum ≤ cycle.maxQuotas := by
  unfold createQuota at h
  simp only [bind_eq_ok, orRefuse_eq_ok, refuseIf_eq_ok, pure_eq_ok, Prod.mk.injEq, exists_and_left,
    exists_const] at h
  obtain ⟨hunits, cycle, hcycle, member, hmember, hopen, hcapacity, rfl, rfl⟩ := h
  obtain rfl : member.id = memberId := lookup_key hmember
  obtain rfl : cycle.id = cycleId := lookup_key hcycle
  refine ⟨rfl, rfl, rfl, rfl, by omega, rfl, ?_, cycle, hcycle, ?_⟩
  · intro row hrow
    rw [hrow] at hopen
    simpa using hopen
  · dsimp only
    rw [List.filter_append, List.map_append, List.sum_append]
    simp
    omega

theorem quiet_unit {scheduledFor financialDate : Int} {participationId : Nat}
    {result : Option CycleParticipation} (hs : Sound db)
    (h : participationUnit db clock scheduledFor financialDate cycleId participationId =
      .ok (db', result)) : QuietSteps db db' := by
  unfold participationUnit at h
  split at h
  · rw [pure_eq_ok, Prod.mk.injEq] at h
    rw [h.1]
  · split at h
    · rw [pure_eq_ok, Prod.mk.injEq] at h
      rw [h.1]
    · split at h
      · rw [pure_eq_ok, Prod.mk.injEq] at h
        rw [h.1]
      · split at h
        · rw [pure_eq_ok, Prod.mk.injEq] at h
          rw [h.1]
        · simp only [bind_eq_ok, pure_eq_ok, Prod.exists, Prod.mk.injEq] at h
          obtain ⟨issued, rows, hissue, charged, hcharge, evaluated, row', hevaluate, rfl, -⟩ := h
          have hsteps := (quiet_ensureContributions hissue).trans (quiet_materialize hcharge)
          exact hsteps.trans (quiet_evaluate (CycleSteps.sound hs (QuietSteps.steps hsteps)) hevaluate)

/-- The quota an operation buys. -/
def Buys (db db' : Db) (op : CycleOp) : Prop :=
  ∃ memberId cycleId units quota, op = .buyQuota memberId cycleId units ∧
    createQuota db memberId cycleId units = .ok (db', quota)

/-- Every operation on a cycle buys a quota or is a sequence of steps that buy none. -/
theorem attemptCycle_cases {op : CycleOp} (hs : Sound db) (h : attemptCycle env db clock op = .ok db') :
    Buys db db' op ∨ QuietSteps db db' := by
  cases op with
  | buyQuota memberId cycleId units =>
    obtain ⟨⟨after, quota⟩, hquota, rfl⟩ := map_eq_ok.mp h
    exact .inl ⟨memberId, cycleId, units, quota, rfl, hquota⟩
  | issue memberId cycleId entryDate =>
    obtain ⟨⟨after, rows⟩, hissue, rfl⟩ := map_eq_ok.mp h
    exact .inr (quiet_ensureContributions hissue)
  | daily scheduledFor financialDate cycleId participationId =>
    obtain ⟨⟨after, result⟩, hunit, rfl⟩ := map_eq_ok.mp h
    exact .inr (quiet_unit hs hunit)
  | materialize memberId cycleId effectiveAt => exact .inr (quiet_materialize h)
  | evaluate memberId cycleId effectiveAt =>
    obtain ⟨⟨after, row⟩, hevaluate, rfl⟩ := map_eq_ok.mp h
    exact .inr (quiet_evaluate hs hevaluate)
  | exit memberId cycleId effectiveAt =>
    obtain ⟨⟨after, row⟩, hexit, rfl⟩ := map_eq_ok.mp h
    exact .inr (quiet_exit hs hexit)
  | settle paymentId c =>
    obtain ⟨⟨after, s⟩, hsettle, rfl⟩ := map_eq_ok.mp h
    have hkept := settle_cyclesKept hs hsettle
    exact .inr (.single ⟨.paid hkept ((step_settle hs hsettle fun _ h => h).sound hs), hkept.quotas⟩)
  | reverse paymentId adminId reason now =>
    obtain ⟨⟨after, r⟩, hreverse, rfl⟩ := map_eq_ok.mp h
    have hkept := reverse_cyclesKept hs hreverse
    exact .inr (.single ⟨.paid hkept ((step_reverse hs hreverse).sound hs), hkept.quotas⟩)

theorem steps_executeCycle (hs : Sound db) (op : Int × CycleOp) :
    CycleSteps db (executeCycle env db op) := by
  unfold executeCycle
  split
  · rename_i after h
    rcases attemptCycle_cases hs h with ⟨memberId, cycleId, units, quota, -, hquota⟩ | hquiet
    · obtain ⟨-, -, -, -, -, honly, -⟩ := createQuota_spec hquota
      exact .single (.bought quota honly)
    · exact QuietSteps.steps hquiet
  · exact .refl

theorem steps_runCycle (hs : Sound db) (ops : List (Int × CycleOp)) :
    CycleSteps db (runCycle env db ops) := by
  induction ops generalizing db with
  | nil => exact .refl
  | cons op ops ih =>
    have hfirst : CycleSteps db (executeCycle env db op) := steps_executeCycle hs op
    exact hfirst.trans (ih (CycleSteps.sound hs hfirst))

end Steps

end Caixinha.Effects
