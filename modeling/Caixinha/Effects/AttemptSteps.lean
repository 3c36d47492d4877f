import Caixinha.Effects.MoneySteps

/-! What every operation leaves of the attempts to charge: the terms they quote, and their end. -/
namespace Caixinha.Effects

open Caixinha.Library Caixinha.Library.Table Fallible Caixinha.Model

/-- A payment keeps the debt it was opened for and the terms it quotes; an attempt to charge a loan
installment that has left PENDING stays where it went. -/
structure PixAttemptKept (x y : Payment) : Prop where
  id_eq : y.id = x.id
  reference : y.reference = x.reference
  amount : y.amount = x.amount
  expiresAt : y.expiresAt = x.expiresAt
  calculatedForDate : y.calculatedForDate = x.calculatedForDate
  snapshot : y.financialSnapshotJson = x.financialSnapshotJson
  snapshotHash : y.snapshotHash = x.snapshotHash
  pending : y.attemptStatus = some .PENDING → x.attemptStatus = some .PENDING
  final : ∀ id, x.reference = some (.loanInstallment id) → x.attemptStatus ≠ some .PENDING →
    y.attemptStatus = x.attemptStatus

namespace PixAttemptKept
variable {x y z : Payment}

theorem refl (x : Payment) : PixAttemptKept x x := ⟨rfl, rfl, rfl, rfl, rfl, rfl, rfl, id, fun _ _ _ => rfl⟩

theorem trans (h : PixAttemptKept x y) (h' : PixAttemptKept y z) : PixAttemptKept x z where
  id_eq := h'.id_eq.trans h.id_eq
  reference := h'.reference.trans h.reference
  amount := h'.amount.trans h.amount
  expiresAt := h'.expiresAt.trans h.expiresAt
  calculatedForDate := h'.calculatedForDate.trans h.calculatedForDate
  snapshot := h'.snapshot.trans h.snapshot
  snapshotHash := h'.snapshotHash.trans h.snapshotHash
  pending := fun hz => h.pending (h'.pending hz)
  final := by
    intro id href hnot
    have hsame := h.final id href hnot
    rw [← hsame]
    exact h'.final id (h.reference.trans href) (hsame ▸ hnot)

/-- An attempt that is pending now was pending before, for the same installment. -/
theorem isPendingAttempt (h : PixAttemptKept x y) {id : Nat} (hy : isPendingAttempt id y) :
    Model.isPendingAttempt id x := by
  simp only [Model.isPendingAttempt, decide_eq_true_eq] at hy ⊢
  exact ⟨h.reference.symm.trans hy.1, h.pending hy.2⟩

end PixAttemptKept

/-- The payments after a step that opens no attempt. -/
def PixAttemptsKept (db db' : Db) : Prop := List.Forall₂ PixAttemptKept db.payments db'.payments

/-- The payments after an operation: the old ones, and at most one new attempt to charge an
installment that then has no other pending one. -/
inductive PixAttemptsMove (db db' : Db) : Prop where
  | kept (h : PixAttemptsKept db db')
  | opened {kept p id} (h : List.Forall₂ PixAttemptKept db.payments kept)
    (payments : db'.payments = kept ++ [p]) (reference : p.reference = some (.loanInstallment id))
    (only : ∀ q ∈ kept, isPendingAttempt id q = false)

section Kept
variable {env : Env} {db db' charged : Db} {clock : Int} {p x : Payment} {id : Nat}

theorem PixAttemptsKept.of_eq (h : db'.payments = db.payments) : PixAttemptsKept db db' := by
  rw [PixAttemptsKept, h]
  exact List.forall₂_same.mpr fun x _ => .refl x

theorem PixAttemptsKept.refl (db : Db) : PixAttemptsKept db db := .of_eq rfl

theorem PixAttemptsKept.trans {db'' : Db} (h : PixAttemptsKept db db') (h' : PixAttemptsKept db' db'') :
    PixAttemptsKept db db'' :=
  forall₂_trans (fun _ _ _ => PixAttemptKept.trans) h h'

theorem PixAttemptsKept.replace (hs : Sound db) (hx : db.payment? p.id = some x) (h : PixAttemptKept x p)
    (hpayments : db'.payments = replace Payment.id db.payments p) : PixAttemptsKept db db' := by
  rw [PixAttemptsKept, hpayments]
  exact forall₂_replace PixAttemptKept.refl hs.payments hx h

theorem PixAttemptsKept.putPayment (hs : Sound db) (hpayments : charged.payments = db.payments)
    (hx : db.payment? p.id = some x) (h : PixAttemptKept x p) :
    PixAttemptsKept db (charged.putPayment p) :=
  .replace hs hx h (by rw [Db.putPayment, hpayments])

theorem Charged.payments_eq (h : Charged id db charged) : charged.payments = db.payments := by
  rw [h.only]

end Kept

section Payments
variable {env : Env} {db db' : Db} {clock effectiveAt received : Int} {payment : Payment}
  {c : Confirmation} {app : Application} {s : PaymentSettlement}

private theorem confirmedPayment_kept :
    PixAttemptKept payment (confirmedPayment payment c clock effectiveAt received) := by
  unfold confirmedPayment persistRemotePayload
  split <;> exact ⟨rfl, rfl, rfl, rfl, rfl, rfl, rfl, id, fun _ _ _ => rfl⟩

/-- The attempt of a loan installment is never released. -/
private theorem releaseAttempt_kept (o : Obligation) (applied : Int) :
    PixAttemptKept payment (releaseAttempt payment c o applied) := by
  unfold releaseAttempt
  split
  · rename_i hreleases
    refine ⟨rfl, rfl, rfl, rfl, rfl, rfl, rfl, nofun, fun id href => ?_⟩
    unfold releasesAttempt sameKind at hreleases
    rw [href] at hreleases
    cases o <;> simp at hreleases
  · exact .refl payment

theorem settledPayment_kept :
    PixAttemptKept payment (settledPayment payment c clock effectiveAt received app) :=
  confirmedPayment_kept.trans (releaseAttempt_kept _ _)

theorem attemptsKept_settle {paymentId : Nat} (hs : Sound db)
    (h : settleConfirmedPixPayment env db clock paymentId c = .ok (db', s)) : PixAttemptsKept db db' := by
  obtain ⟨payment, hpayment, rfl, ⟨-, rfl⟩ | ⟨hnone, hposted, hreceived, app, happ, hrecord⟩⟩ :=
    settle_cases h
  · exact .refl db'
  · have hrecorded : Keyed LoanInstallment.id app.db.loanInstallments →
        app.db.payments = db.payments → PixAttemptsKept db db' := by
      intro hkeyed hpayments
      obtain ⟨charged, entries, -, -, -, -, hdb⟩ := recordSettlement_spec hkeyed hrecord
      have hkept : PixAttemptKept payment (settledPayment payment c clock (effectiveInstant clock payment c)
        (receivedAmount payment) app) := settledPayment_kept
      refine .replace hs (hkept.id_eq ▸ hpayment) hkept ?_
      rw [hdb, hpayments]
    rcases applyToObligation_cases happ with ⟨inst, agreement, -, -, -, hbranch⟩ |
      ⟨x, hfound, hbranch⟩ | ⟨inst, -, -, hbranch⟩
    · obtain ⟨row, after, agreementAfter, -, -, -, -, -, -, -, rfl⟩ := applyToAgreementInstallment_spec hbranch
      exact hrecorded hs.installments rfl
    · obtain ⟨locked, account, rows, hlock, -, -, rfl⟩ := applyToContribution_spec hposted hbranch
      obtain ⟨accounts, rfl, -⟩ := lockMemberFinancialAccount_spec hlock
      exact hrecorded hs.installments rfl
    · obtain ⟨added, happlied, -⟩ := installment_applied hs hbranch
      exact hrecorded (keyed_of_keys happlied.installments hs.installments) happlied.payments

end Payments

section Reservation
variable {env : Env} {db db' : Db} {clock : Int} {id : Nat}

theorem pendingAttempt?_eq_none : pendingAttempt? db id = none ↔
    ∀ p ∈ db.payments, isPendingAttempt id p = false := by
  unfold pendingAttempt?
  constructor
  · intro h p hp
    have hlatest := latest_of_foldl h fun found x => by
      cases found with
      | none => exact .inr rfl
      | some q =>
        dsimp only
        split
        · exact .inr rfl
        · exact .inl ⟨rfl, rfl⟩
    rcases hlatest with ⟨hnil, -⟩ | ⟨x, -, hlast⟩
    · exact Bool.eq_false_iff.mpr (List.filter_eq_nil_iff.mp hnil p hp)
    · cases hlast
  · intro h
    rw [List.filter_eq_nil_iff.mpr fun p hp => by simp [h p hp]]
    rfl

/-- Opening an attempt, or finding that another one is pending. -/
private theorem move_insertAttempt {charged : Db} {p : Payment}
    (hkept : List.Forall₂ PixAttemptKept db.payments charged.payments)
    (href : p.reference = some (.loanInstallment id)) :
    PixAttemptsMove db (insertAttempt charged id p).db := by
  unfold insertAttempt
  split
  · exact .kept hkept
  · rename_i hnone
    exact .opened hkept rfl href (pendingAttempt?_eq_none.mp hnone)

theorem attemptsMove_reserve {now : Option Timestamp} {reservation : Reservation} (hs : Sound db)
    (h : reserve env db clock id now = .ok reservation) : PixAttemptsMove db reservation.db := by
  unfold reserve at h
  simp only [bind_eq_ok, refuseIf_eq_ok, lockInstallment, orRefuse_eq_ok, Prod.exists,
    exists_and_left, exists_const] at h
  obtain ⟨inst, hinst, -, charged, due, snapshot, hsnapshot, -, h⟩ := h
  have hpayments : charged.payments = db.payments := (charged_attemptSnapshot hs hsnapshot).payments_eq
  have hsame : PixAttemptsKept db charged := .of_eq hpayments
  split at h
  · rw [pure_eq_ok] at h
    subst h
    exact move_insertAttempt hsame rfl
  · rename_i old hold
    simp only [bind_eq_ok] at h
    obtain ⟨decision, -, h⟩ := h
    split at h
    · rw [pure_eq_ok] at h
      subst h
      exact .kept hsame
    · simp only [bind_eq_ok, pure_eq_ok] at h
      obtain ⟨retired, hretired, rfl⟩ := h
      obtain ⟨hmem, hpending⟩ := pendingAttempt?_spec hold
      rw [isPendingAttempt, decide_eq_true_eq] at hpending
      obtain ⟨rfl, -⟩ := transition_spec hretired
      have hold' : db.payment? old.id = some old := lookup_of_mem hs.payments (hpayments ▸ hmem)
      refine move_insertAttempt (PixAttemptsKept.putPayment hs hpayments hold' ?_) rfl
      exact ⟨rfl, rfl, rfl, rfl, rfl, rfl, rfl, fun _ => hpending.2, fun _ _ hnot => absurd hpending.2 hnot⟩

end Reservation

section Operations
variable {env : Env} {db db' : Db} {clock : Int}

private theorem attemptsKept_approve {paymentId : Nat} {confirmedAt : Option Timestamp}
    {payload : RemotePayload} {result : Option PaymentSettlement} (hs : Sound db)
    (h : approveOrReconcile env db clock paymentId confirmedAt payload = .ok (db', result)) :
    PixAttemptsKept db db' := by
  obtain ⟨found, hfound, happroval⟩ := approve_cases h
  obtain rfl : found.id = paymentId := lookup_key hfound
  have hsame : ∀ status confirmed, PixAttemptKept found
      { found with confirmedAt := confirmed, reconciliationStatus := status } :=
    fun _ _ => ⟨rfl, rfl, rfl, rfl, rfl, rfl, rfl, id, fun _ _ _ => rfl⟩
  cases happroval with
  | aside status => exact .putPayment hs rfl hfound (hsame _ _)
  | expired hpending =>
    exact .putPayment hs rfl hfound
      ⟨rfl, rfl, rfl, rfl, rfl, rfl, rfl, nofun, fun _ _ hnot => absurd hpending hnot⟩
  | mismatch hquoted => exact .putPayment hs (hquoted.charges hs).payments_eq hfound (hsame _ _)
  | already hquoted => exact .putPayment hs (hquoted.charges hs).payments_eq hfound (hsame _ _)
  | @settled id confirmed charged due snapshot _ s hquoted _ _ hsettle =>
    have hcharged := hquoted.charges hs
    have happroved : PixAttemptsKept db
        (charged.putPayment (approvedAttempt (confirmedBy found confirmedAt))) :=
      .putPayment hs hcharged.payments_eq hfound
        ⟨rfl, rfl, rfl, rfl, rfl, rfl, rfl, nofun, fun _ _ hnot => absurd hquoted.pending hnot⟩
    have hstep : Step (fun p => p.id = found.id) False (fun _ => False) db
        (charged.putPayment (approvedAttempt (confirmedBy found confirmedAt))) :=
      step_chargedPut hs hcharged hfound rfl rfl ⟨fun h => h, nofun⟩
    exact happroved.trans (attemptsKept_settle (hstep.sound hs) hsettle)

theorem attemptsKept_keepEvidence {id : Nat} (hs : Sound db) (status : String) (received : Option Int) :
    PixAttemptsKept db (keepEvidence db id status received) := by
  unfold keepEvidence
  split
  · exact .refl db
  · rename_i p hp
    obtain rfl : p.id = id := lookup_key hp
    exact .putPayment hs rfl hp ⟨rfl, rfl, rfl, rfl, rfl, rfl, rfl, fun h => h, fun _ _ _ => rfl⟩

theorem attemptsKept_bindProvider {id : Nat} (hs : Sound db) (result : ProviderResult) :
    PixAttemptsKept db (bindProvider db id result) := by
  unfold bindProvider
  split
  · exact .refl db
  · rename_i p hp
    obtain rfl : p.id = id := lookup_key hp
    split
    · exact .refl db
    · exact .putPayment hs rfl hp ⟨rfl, rfl, rfl, rfl, rfl, rfl, rfl, fun h => h, fun _ _ _ => rfl⟩

theorem attemptsKept_markAmbiguous {id : Nat} (hs : Sound db) :
    PixAttemptsKept db (markAmbiguous db id) := by
  unfold markAmbiguous
  split
  · exact .refl db
  · rename_i p hp
    obtain rfl : p.id = id := lookup_key hp
    split
    · exact .refl db
    · exact .putPayment hs rfl hp ⟨rfl, rfl, rfl, rfl, rfl, rfl, rfl, fun h => h, fun _ _ _ => rfl⟩

/-- What one successful operation leaves of the attempts. -/
theorem attemptsMove_attempt {op : Operation} (hs : Sound db) (h : attempt env db clock op = .ok db') :
    PixAttemptsMove db db' := by
  cases op with
  | settle paymentId c =>
    obtain ⟨⟨final, s⟩, hsettle, rfl⟩ := map_eq_ok.mp h
    exact .kept (attemptsKept_settle hs hsettle)
  | reverse paymentId adminId reason now =>
    obtain ⟨⟨final, r⟩, hreverse, rfl⟩ := map_eq_ok.mp h
    exact .kept (.of_eq (moved_reverse hs hreverse).2)
  | evidence paymentId status received =>
    obtain rfl := Except.ok.inj h
    exact .kept (attemptsKept_keepEvidence hs status received)
  | cancel contributionId reason =>
    obtain rfl := Except.ok.inj h
    refine .kept (.of_eq ?_)
    unfold cancelContribution
    split
    · rfl
    · split <;> rfl
  | reserve installmentId now =>
    obtain ⟨reservation, hreserve, rfl⟩ := map_eq_ok.mp h
    exact attemptsMove_reserve hs hreserve
  | bindProvider attemptId result =>
    obtain rfl := Except.ok.inj h
    exact .kept (attemptsKept_bindProvider hs result)
  | markAmbiguous attemptId =>
    obtain rfl := Except.ok.inj h
    exact .kept (attemptsKept_markAmbiguous hs)
  | approve paymentId confirmedAt payload =>
    obtain ⟨⟨final, result⟩, happrove, rfl⟩ := map_eq_ok.mp h
    exact .kept (attemptsKept_approve hs happrove)
  | settleWithOwnBalance loanId financialAt =>
    obtain ⟨⟨final, result⟩, hsettle, rfl⟩ := map_eq_ok.mp h
    obtain ⟨loan, accounts, account, entries, hused⟩ := settleLoanWithOwnBalance_spec hsettle
    exact .kept (.of_eq (by rw [hused.only]))
  | renegotiateWithOwnBalance loanId amount =>
    obtain ⟨⟨final, result⟩, hrenegotiate, rfl⟩ := map_eq_ok.mp h
    obtain ⟨loan, accounts, account, entries, hused⟩ := renegotiateLoanWithOwnBalance_spec hrenegotiate
    exact .kept (.of_eq (by rw [hused.only]))
  | releaseLoan loanId =>
    obtain ⟨⟨final, released⟩, hrelease, rfl⟩ := map_eq_ok.mp h
    obtain ⟨loan, accounts, account, entries, rows, -, hreleased⟩ := releaseLoan_spec hrelease
    exact .kept (.of_eq (by rw [hreleased.only]))
  | expense amount => exact .kept (.of_eq (moved_createExpense h).2)
  | ledgerReverse entryId reason => exact .kept (.of_eq (moved_ledgerReverse h).2)

end Operations

end Caixinha.Effects
