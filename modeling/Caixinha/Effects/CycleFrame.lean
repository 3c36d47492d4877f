import Caixinha.Effects.Operations
import Caixinha.Effects.Participation

/-! Settlements and reversals leave the tables of the cycles alone, and of a contribution they
change what is paid of it and its status. -/
namespace Caixinha.Effects

open Caixinha.Library Caixinha.Library.Table Fallible Caixinha.Model

/-- The columns of a contribution that no payment writes. -/
structure ContributionKept (c c' : Contribution) : Prop where
  id_eq : c'.id = c.id
  memberId : c'.memberId = c.memberId
  cycleId : c'.cycleId = c.cycleId
  competence : c'.competence = c.competence
  amount : c'.amount = c.amount
  dueDate : c'.dueDate = c.dueDate
  cancelledAt : c'.cancelledAt = c.cancelledAt

theorem ContributionKept.refl (c : Contribution) : ContributionKept c c := ⟨rfl, rfl, rfl, rfl, rfl, rfl, rfl⟩

/-- The tables of cycles that no payment writes. -/
structure TablesKept (db db' : Db) : Prop where
  members : db'.members = db.members
  cycles : db'.cycles = db.cycles
  quotas : db'.quotas = db.quotas
  participations : db'.participations = db.participations
  chargeEvents : db'.contributionChargeEvents = db.contributionChargeEvents

structure CyclesKept (db db' : Db) : Prop extends TablesKept db db' where
  accounts : ∃ new, db'.accounts = db.accounts ++ new
  contributions : List.Forall₂ ContributionKept db.contributions db'.contributions

section Frames
variable {env : Env} {db db' : Db} {clock effectiveAt received reversedAt : Int} {payment : Payment}
  {reason : String} {adminId : Nat}

theorem TablesKept.refl (db : Db) : TablesKept db db := ⟨rfl, rfl, rfl, rfl, rfl⟩

theorem CyclesKept.refl (db : Db) : CyclesKept db db where
  toTablesKept := .refl db
  accounts := ⟨[], by simp⟩
  contributions := List.forall₂_same.mpr fun c _ => .refl c

theorem tablesKept_charged {id : Nat} (h : Charged id db db') : TablesKept db db' := by
  rw [h.only]
  exact ⟨rfl, rfl, rfl, rfl, rfl⟩

private theorem tablesKept_lock {memberId : Nat} {account : MemberFinancialAccount}
    (h : lockMemberFinancialAccount db memberId = .ok (db', account)) :
    TablesKept db db' ∧ db'.loanInstallments = db.loanInstallments := by
  obtain ⟨new, rfl, -⟩ := lockMemberFinancialAccount_spec h
  exact ⟨⟨rfl, rfl, rfl, rfl, rfl⟩, rfl⟩

private theorem tablesKept_applyToInstallment {confirmedAt : Option Timestamp} {inst : LoanInstallment}
    {app : Application} (hkeyed : Keyed LoanInstallment.id db.loanInstallments)
    (h : applyToInstallment env db clock effectiveAt received confirmedAt payment inst = .ok app) :
    TablesKept db app.db ∧ Keyed LoanInstallment.id app.db.loanInstallments := by
  unfold applyToInstallment at h
  simp only [bind_eq_ok, orRefuse_eq_ok, Prod.exists] at h
  obtain ⟨loan, -, locked, account, hlock, h⟩ := h
  obtain ⟨hlocked, hrows⟩ := tablesKept_lock hlock
  rw [← hrows] at hkeyed
  split at h
  · obtain ⟨at_, charged, x, due, a, after, interestRows, penaltyRows, entries, loanAfter, evidence,
      -, -, hcharged, -, -, -, -, -, -, -, -, -, -, rfl⟩ := applyToVersionedInstallment_spec h
    have hc := hcharged.charged hkeyed
    obtain ⟨hm, hcy, hq, hp, he⟩ := tablesKept_charged hc
    exact ⟨⟨hm.trans hlocked.members, hcy.trans hlocked.cycles, hq.trans hlocked.quotas,
      hp.trans hlocked.participations, he.trans hlocked.chargeEvents⟩,
      keyed_replace (hc.keyed hkeyed)⟩
  · obtain ⟨after, penalty, base, penaltyRows, interestRows, entries, loanAfter, evidence,
      -, -, -, -, -, -, -, rfl⟩ := applyToLegacyInstallment_spec h
    exact ⟨⟨hlocked.members, hlocked.cycles, hlocked.quotas, hlocked.participations,
      hlocked.chargeEvents⟩, keyed_replace hkeyed⟩

private theorem tablesKept_applyToObligation {c : Confirmation} {app : Application} (hs : Sound db)
    (hposted : payment.ledgerPostedAt = none)
    (h : applyToObligation env db clock effectiveAt received c payment = .ok app) :
    TablesKept db app.db ∧ Keyed LoanInstallment.id app.db.loanInstallments := by
  rcases applyToObligation_cases h with ⟨inst, agreement, -, -, -, hbranch⟩ | ⟨x, -, hbranch⟩ |
    ⟨inst, -, -, hbranch⟩
  · obtain ⟨row, after, agreementAfter, -, -, -, -, -, -, -, rfl⟩ :=
      applyToAgreementInstallment_spec hbranch
    exact ⟨⟨rfl, rfl, rfl, rfl, rfl⟩, hs.installments⟩
  · obtain ⟨locked, account, rows, hlock, -, -, rfl⟩ := applyToContribution_spec hposted hbranch
    obtain ⟨⟨hm, hcy, hq, hp, he⟩, hrows⟩ := tablesKept_lock hlock
    refine ⟨⟨hm, hcy, hq, hp, he⟩, ?_⟩
    dsimp only
    rw [hrows]
    exact hs.installments
  · exact tablesKept_applyToInstallment hs.installments hbranch

theorem forall₂_contributionKept_replace (hkeyed : Keyed Contribution.id db.contributions) {x c : Contribution}
    (hx : x ∈ db.contributions) (h : ContributionKept x c) :
    List.Forall₂ ContributionKept db.contributions (replace Contribution.id db.contributions c) := by
  refine forall₂_replace ContributionKept.refl hkeyed ?_ h
  rw [h.id_eq]
  exact lookup_of_mem hkeyed hx

theorem settle_cyclesKept {paymentId : Nat} {c : Confirmation} {s : PaymentSettlement} (hs : Sound db)
    (h : settleConfirmedPixPayment env db clock paymentId c = .ok (db', s)) : CyclesKept db db' := by
  have htables : TablesKept db db' := by
    obtain ⟨payment, -, -, ⟨-, rfl⟩ | ⟨-, hposted, -, app, happ, hrecord⟩⟩ := settle_cases h
    · exact .refl _
    · obtain ⟨hkept, hkeyed⟩ := tablesKept_applyToObligation hs hposted happ
      obtain ⟨charged, entries, -, -, -, -, rfl⟩ := recordSettlement_spec hkeyed hrecord
      exact ⟨hkept.members, hkept.cycles, hkept.quotas, hkept.participations, hkept.chargeEvents⟩
  obtain ⟨payment, -, -, ⟨-, rfl⟩ | ⟨-, -, new, hgrows, -, -, heffect⟩⟩ := settle_effect hs h
  · exact .refl _
  · refine ⟨htables, ⟨new.accounts, hgrows.accounts⟩, ?_⟩
    rcases heffect with ⟨x, hsettled⟩ | haside
    · rw [hsettled.contributions]
      exact forall₂_contributionKept_replace hs.contributions (lockedContribution_some hsettled.found).1
        ⟨rfl, rfl, rfl, rfl, rfl, rfl, rfl⟩
    · rw [haside.contributions]
      exact List.forall₂_same.mpr fun c _ => .refl c

private theorem tablesKept_reverseObligation {settlement : PaymentSettlement} {r : PaymentReversal}
    (hs : Sound db)
    (h : reverseObligation env db clock payment settlement adminId reason reversedAt = .ok (db', r)) :
    TablesKept db db' := by
  unfold reverseObligation at h
  split at h
  · rename_i id hobligation
    obtain ⟨e, locked, account, plan, x, -, hlock, hplan, hx, hwrite⟩ := reverseLoanPayment_spec h
    obtain rfl : plan.inst.id = id := lookup_key hplan.installment
    obtain ⟨⟨hm, hcy, hq, hp, he⟩, hrows⟩ := tablesKept_lock hlock
    have hkeyed : Keyed LoanInstallment.id locked.loanInstallments := by
      rw [hrows]
      exact hs.installments
    obtain ⟨pairs, components, entries, adjusted, snapshot, -, -, -, -, -, -, -, -, -, -, rfl⟩ :=
      writeLoanReversal_spec hkeyed hx.id_eq hobligation hwrite
    exact ⟨hm, hcy, hq, hp, he⟩
  · obtain ⟨e, agreement, inst, original, x, -, -, -, hreversal, hwrite⟩ :=
      reverseAgreementPayment_spec hs.ledger h
    obtain ⟨compensating, components, snapshot, -, -, -, -, -, -, rfl⟩ :=
      writeAgreementReversal_spec hreversal.id_eq hwrite
    exact ⟨rfl, rfl, rfl, rfl, rfl⟩
  · obtain ⟨c, locked, account, credit, originals, pairs, components, entries, -, hreversible, -, -,
      -, -, -, rfl⟩ := reverseContributionPayment_spec h
    obtain ⟨⟨hm, hcy, hq, hp, he⟩, -⟩ := tablesKept_lock hreversible.lock
    exact ⟨hm, hcy, hq, hp, he⟩

theorem reverse_cyclesKept {paymentId : Nat} {now : Option Timestamp} {r : PaymentReversal}
    (hs : Sound db) (h : reversePayment env db clock paymentId adminId reason now = .ok (db', r)) :
    CyclesKept db db' := by
  have htables : TablesKept db db' := by
    obtain ⟨payment, -, -, ⟨-, rfl⟩ | ⟨-, -, settlement, -, hreverse⟩⟩ := reverse_cases h
    · exact .refl _
    · exact tablesKept_reverseObligation hs hreverse
  obtain ⟨payment, -, -, ⟨-, rfl⟩ | ⟨-, -, settlement, new, -, hgrows, -, -, heffect⟩⟩ := reverse_effect hs h
  · exact .refl _
  · refine ⟨htables, ⟨new.accounts, hgrows.accounts⟩, ?_⟩
    rcases heffect with ⟨x, account, credit, originals, hreversed⟩ | haside
    · rw [hreversed.contributions]
      exact forall₂_contributionKept_replace hs.contributions (lookup_mem hreversed.row)
        ⟨rfl, rfl, rfl, rfl, rfl, rfl, rfl⟩
    · rw [haside.contributions]
      exact List.forall₂_same.mpr fun c _ => .refl c

end Frames

end Caixinha.Effects
