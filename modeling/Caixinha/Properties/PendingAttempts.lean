import Caixinha.Effects.AttemptSteps

/-! The attempts to charge loan installments over whole runs: one at a time, at fixed terms, each
ending once. -/
namespace Caixinha.Properties.PendingAttempts

open Caixinha.Library Caixinha.Library.Table Fallible Caixinha.Model Caixinha.Effects

variable {env : Env} {db db' : Db} {clock : Int} {id : Nat} {p q : Payment}

/-- The pending attempts to charge an installment. -/
def pendingAttempts (db : Db) (installmentId : Nat) : List Payment :=
  db.payments.filter (isPendingAttempt installmentId)

/-- No installment has two pending attempts. -/
def OnePending (db : Db) : Prop := ∀ id, (pendingAttempts db id).length ≤ 1

section Step

private theorem pending_le_of_kept {xs ys : List Payment} (h : List.Forall₂ PixAttemptKept xs ys) :
    (ys.filter (isPendingAttempt id)).length ≤ (xs.filter (isPendingAttempt id)).length := by
  induction h with
  | nil => exact le_rfl
  | @cons x y xs ys hxy _ ih =>
    by_cases hy : isPendingAttempt id y
    · have hx := hxy.isPendingAttempt hy
      rw [List.filter_cons_of_pos hy, List.filter_cons_of_pos hx]
      simpa using ih
    · rw [List.filter_cons_of_neg hy]
      refine ih.trans ?_
      exact ((List.sublist_cons_self x xs).filter _).length_le

theorem OnePending.step (hone : OnePending db) (h : PixAttemptsMove db db') : OnePending db' := by
  intro id
  cases h with
  | kept hkept => exact (pending_le_of_kept hkept).trans (hone id)
  | @opened kept p k hkept hpayments href honly =>
    rw [pendingAttempts, hpayments, List.filter_append, List.length_append]
    by_cases hk : k = id
    · subst hk
      rw [List.filter_eq_nil_iff.mpr fun q hq => by simp [honly q hq]]
      simpa using List.length_filter_le (isPendingAttempt k) [p]
    · have hnot : ¬ isPendingAttempt id p := by simp [isPendingAttempt, href, hk]
      rw [List.filter_cons_of_neg hnot, List.filter_nil]
      exact (pending_le_of_kept hkept).trans (hone id)

/-- Every payment is still there, at its terms. -/
theorem kept_of_move (h : PixAttemptsMove db db') (hp : p ∈ db.payments) :
    ∃ q ∈ db'.payments, PixAttemptKept p q := by
  have hfind : ∀ {xs ys : List Payment}, List.Forall₂ PixAttemptKept xs ys → p ∈ xs →
      ∃ q ∈ ys, PixAttemptKept p q := by
    intro xs ys hall hmem
    obtain ⟨i, hi, rfl⟩ := List.mem_iff_getElem.mp hmem
    have hlength := hall.length_eq
    exact ⟨ys[i], List.getElem_mem _, hall.get hi (hlength ▸ hi)⟩
  cases h with
  | kept hkept => exact hfind hkept hp
  | opened hkept hpayments =>
    obtain ⟨q, hq, hsame⟩ := hfind hkept hp
    exact ⟨q, hpayments ▸ List.mem_append_left _ hq, hsame⟩

end Step

/-- Whatever operations run, an installment never has two pending attempts; no attempt changes its
amount, its expiry or the debt it quotes; and one that has left PENDING keeps the status it left for. -/
theorem attempts_end_once (hs : Sound db) (hone : OnePending db) (ops : List (Int × Operation)) :
    OnePending (run env db ops) ∧
      ∀ p ∈ db.payments, ∃ q ∈ (run env db ops).payments, PixAttemptKept p q := by
  induction ops generalizing db with
  | nil => exact ⟨hone, fun p hp => ⟨p, hp, .refl p⟩⟩
  | cons op ops ih =>
    have hmove : PixAttemptsMove db (execute env db op) := by
      unfold execute
      cases hop : attempt env db op.1 op.2 with
      | error e => exact .kept (.refl db)
      | ok db' => exact attemptsMove_attempt hs hop
    obtain ⟨hlast, hkept⟩ := ih (sound_execute hs op) (hone.step hmove)
    refine ⟨hlast, fun p hp => ?_⟩
    obtain ⟨q, hq, hfirst⟩ := kept_of_move hmove hp
    obtain ⟨r, hr, hrest⟩ := hkept q hq
    exact ⟨r, hr, hfirst.trans hrest⟩

section Reservation

private theorem pendingAttempts_eq_singleton (hone : (pendingAttempts db id).length ≤ 1)
    (hp : p ∈ pendingAttempts db id) : pendingAttempts db id = [p] := by
  obtain ⟨q, hq⟩ := List.length_eq_one_iff.mp (le_antisymm hone (List.length_pos_of_mem hp))
  rw [hq, List.mem_singleton] at hp
  rw [hq, hp]

/-- Once the only pending attempt is retired, none is pending. -/
private theorem nonePending_of_retired (hone : (pendingAttempts db id).length ≤ 1)
    (hp : p ∈ pendingAttempts db id) (hq : q.id = p.id) (hretired : ¬ isPendingAttempt id q) :
    pendingAttempt? (db.putPayment q) id = none := by
  have hsole := pendingAttempts_eq_singleton hone hp
  refine pendingAttempt?_eq_none.mpr fun x hx => ?_
  rcases mem_replace_other hx with rfl | ⟨hmem, hne⟩
  · exact Bool.eq_false_iff.mpr hretired
  · by_contra hpending
    have hx' : x ∈ pendingAttempts db id := List.mem_filter.mpr ⟨hmem, by simpa using hpending⟩
    rw [hsole, List.mem_singleton] at hx'
    exact hne (by rw [hx', hq])

/-- The attempt a reservation answers with charges the debt of its day and is not expired. -/
structure QuotesTheDay (env : Env) (db : Db) (now : Timestamp) (installmentId : Nat)
    (reservation : Reservation) : Prop where
  day : reservation.attempt.calculatedForDate = some (financialCivilDate now.instant)
  live : ∃ expiresAt, reservation.attempt.expiresAt = some expiresAt ∧ now.instant < expiresAt
  debt : ∃ inst charged due snapshot, db.installment? installmentId = some inst ∧
    attemptSnapshot env db inst (financialCivilDate now.instant) = .ok (charged, due, snapshot) ∧
    0 < due.totalDue ∧ reservation.attempt.snapshotHash = some (snapshotHash env snapshot) ∧
    (reservation.created → reservation.attempt.amount = due.totalDue)

private theorem newAttempt_insert {charged : Db} {attempt : Payment}
    (hnone : pendingAttempt? charged id = none) (hpending : isPendingAttempt id attempt) :
    pendingAttempts (insertAttempt charged id attempt).db id = [attempt] ∧
      (insertAttempt charged id attempt).attempt = attempt := by
  unfold insertAttempt
  rw [hnone]
  refine ⟨?_, rfl⟩
  rw [pendingAttempts, List.filter_append, List.filter_cons_of_pos hpending, List.filter_nil,
    List.filter_eq_nil_iff.mpr fun x hx => by simp [pendingAttempt?_eq_none.mp hnone x hx], List.nil_append]

private theorem evaluateReuse_reuse {attempt : Payment} {day now : Int} {hash : String}
    (h : evaluateReuse attempt day now hash = .ok .REUSE) :
    attempt.calculatedForDate = some day ∧ attempt.snapshotHash = some hash ∧
      ∃ expiresAt, attempt.expiresAt = some expiresAt ∧ now < expiresAt := by
  unfold evaluateReuse at h
  split at h
  · cases h
  · simp only [bind_eq_ok, orRefuse_eq_ok] at h
    obtain ⟨expiresAt, hexpires, h⟩ := h
    split at h
    · cases h
    · rename_i hlive
      split at h
      · cases h
      · rename_i hsame
        obtain ⟨hday, hhash⟩ := not_or.mp hsame
        exact ⟨not_not.mp hday, not_not.mp hhash, expiresAt, hexpires, not_le.mp hlive⟩

/-- A successful reservation leaves one pending attempt, the one it answers with, which charges the
debt of the day of the reservation. -/
theorem reservation_is_sole {now : Option Timestamp} {reservation : Reservation} (hs : Sound db)
    (hone : OnePending db) (h : reserve env db clock id now = .ok reservation) :
    pendingAttempts reservation.db id = [reservation.attempt] ∧
      QuotesTheDay env db (now.getD { instant := clock }) id reservation := by
  unfold reserve at h
  simp only [bind_eq_ok, refuseIf_eq_ok, lockInstallment, orRefuse_eq_ok, Prod.exists,
    exists_and_left, exists_const] at h
  obtain ⟨inst, hinst, -, charged, due, snapshot, hsnapshot, hdue, h⟩ := h
  have hpayments : charged.payments = db.payments := (charged_attemptSnapshot hs hsnapshot).payments_eq
  have hpendings : pendingAttempts charged id = pendingAttempts db id := by
    rw [pendingAttempts, hpayments, pendingAttempts]
  have hnew : ∀ x : Db, isPendingAttempt id (newAttempt env x id
      (financialCivilDate (now.getD { instant := clock }).instant) due snapshot) := by
    intro x
    simp [isPendingAttempt, newAttempt]
  have hquotes : ∀ x y : Db, pendingAttempt? y id = none → QuotesTheDay env db (now.getD { instant := clock }) id
      (insertAttempt y id (newAttempt env x id
        (financialCivilDate (now.getD { instant := clock }).instant) due snapshot)) := by
    intro x y hnone
    have hattempt := (newAttempt_insert hnone (hnew x)).2
    refine ⟨by rw [hattempt]; rfl, ⟨_, by rw [hattempt]; rfl, (lt_localExpiryUtc_iff _ _).mpr le_rfl⟩,
      inst, charged, due, snapshot, hinst, hsnapshot, not_le.mp hdue, by rw [hattempt]; rfl, fun _ => ?_⟩
    rw [hattempt]
    rfl
  split at h
  · rename_i hnone
    rw [pure_eq_ok] at h
    subst h
    obtain ⟨hsole, hattempt⟩ := newAttempt_insert hnone (hnew charged)
    exact ⟨by rw [hsole, hattempt], hquotes _ _ hnone⟩
  · rename_i old hold
    obtain ⟨hmem, hpending⟩ := pendingAttempt?_spec hold
    have hin : old ∈ pendingAttempts charged id := List.mem_filter.mpr ⟨hmem, hpending⟩
    have hlength : (pendingAttempts charged id).length ≤ 1 := hpendings ▸ hone id
    simp only [bind_eq_ok] at h
    obtain ⟨decision, hdecision, h⟩ := h
    split at h
    · rename_i hreuse
      rw [pure_eq_ok] at h
      subst h hreuse
      obtain ⟨hday, hhash, hlive⟩ := evaluateReuse_reuse hdecision
      exact ⟨pendingAttempts_eq_singleton hlength hin, hday, hlive,
        inst, charged, due, snapshot, hinst, hsnapshot, not_le.mp hdue, hhash, nofun⟩
    · simp only [bind_eq_ok, pure_eq_ok] at h
      obtain ⟨retired, hretired, rfl⟩ := h
      obtain ⟨rfl, -⟩ := transition_spec hretired
      have hnone : ∀ target, target ≠ AttemptStatus.PENDING →
          pendingAttempt? (charged.putPayment { old with attemptStatus := some target }) id = none := by
        intro target htarget
        refine nonePending_of_retired hlength hin rfl ?_
        simp [isPendingAttempt, htarget]
      have hnone := hnone (if decision = .EXPIRE then .EXPIRED else .SUPERSEDED) (by split <;> simp)
      obtain ⟨hsole, hattempt⟩ := newAttempt_insert hnone (hnew _)
      exact ⟨by rw [hsole, hattempt], hquotes _ _ hnone⟩

end Reservation

section Samples

private def sampleAttempt (id : Nat) (status : AttemptStatus) : Payment where
  id := id
  provider := "mercado_pago"
  providerOrderId := none
  providerPaymentId := none
  amount := 12000
  status := "PENDING"
  externalReference := none
  pixTxid := none
  endToEndId := none
  providerStatusDetail := none
  confirmedAt := none
  expiresAt := some (localExpiryUtc 20000)
  amountReceived := none
  ledgerPostedAt := none
  reference := some (.loanInstallment 1)
  attemptStatus := some status
  calculatedForDate := some 20000
  financialSnapshotJson := none
  snapshotHash := none
  reconciliationStatus := none

private def sampleInstallment : LoanInstallment where
  id := 1
  loanId := 1
  number := 1
  dueDate := 20000
  principal := 10000
  interest := 2000
  amount := 12000
  paidAmount := 0
  penaltyAmount := 0
  paidPenaltyAmount := 0
  lateCharge := none
  paidAt := none
  status := .OPEN

private def sampleDb : Db where
  loanInstallments := [sampleInstallment]
  payments := [sampleAttempt 1 .EXPIRED, sampleAttempt 2 .PENDING]

private def sampleEnv : Env where
  sha256 := fun text => text
  lateChargeEffectiveDate := none

private theorem sound_sampleDb : Sound sampleDb := by
  constructor <;> first | decide | (constructor <;> decide)

private theorem onePending_sampleDb : OnePending sampleDb := by
  intro id
  by_cases hid : id = 1
  · subst hid
    decide
  · simp [pendingAttempts, isPendingAttempt, sampleDb, sampleAttempt, Ne.symm hid]

private def sampleLoan : Loan where
  id := 1
  memberId := 1
  principal := 20000
  principalSettledWithOwnBalance := 0
  calculationVersion := none
  status := .ACTIVE
  disbursedAt := some 0
  paidAt := none
  stateRevision := 0

/-- Another installment of the loan has an attempt of the day; its snapshot is the shortest text that
reads as one. -/
private def chargedDb : Db :=
  { sampleDb with
    members := [{ id := 1 }]
    loans := [sampleLoan]
    loanInstallments := [sampleInstallment, { sampleInstallment with id := 2, number := 2 }]
    payments := sampleDb.payments ++ [{ sampleAttempt 3 .PENDING with
      reference := some (.loanInstallment 2)
      financialSnapshotJson := some "{}"
      snapshotHash := some "digest" }] }

private def digestEnv : Env := { sampleEnv with sha256 := fun _ => "digest" }

private def sampleConfirmed : Timestamp := ⟨20000 * dayLength + belemOffset, true⟩

/-- The attempt of the day is approved and settled; on the next day the other installment is charged
anew, and the provider tells of its expired attempt again. -/
private def sampleOps : List (Int × Operation) :=
  [(sampleConfirmed.instant, .approve 3 (some sampleConfirmed) {}),
    (localExpiryUtc 20000, .reserve 1 none),
    (localExpiryUtc 20000, .bindProvider 4 { orderId := some "ORD4", id := "PAY4", status := none }),
    (localExpiryUtc 20000, .evidence 1 "approved" (some 12000))]

private theorem sound_chargedDb : Sound chargedDb := by
  constructor <;> first | decide | (constructor <;> decide)

private theorem onePending_chargedDb : OnePending chargedDb := by
  intro id
  obtain rfl | rfl | hother : id = 1 ∨ id = 2 ∨ id ≠ 1 ∧ id ≠ 2 := by omega
  · decide
  · decide
  · simp [pendingAttempts, isPendingAttempt, chargedDb, sampleDb, sampleAttempt, Ne.symm hother.1,
      Ne.symm hother.2]

theorem sample_attempts_end_once :
    (run digestEnv chargedDb sampleOps).payments.map (·.attemptStatus) =
        [some .EXPIRED, some .EXPIRED, some .APPROVED, some .PENDING] ∧
      (run digestEnv chargedDb sampleOps).settlements.map (·.paymentId) = [3] ∧
      OnePending (run digestEnv chargedDb sampleOps) ∧
      ∀ p ∈ chargedDb.payments, ∃ q ∈ (run digestEnv chargedDb sampleOps).payments, PixAttemptKept p q := by
  obtain ⟨hone, hkept⟩ := @attempts_end_once digestEnv chargedDb sound_chargedDb onePending_chargedDb sampleOps
  exact ⟨by decide, by decide, hone, hkept⟩

/-- The pending attempt of the day before gives way to a new one. -/
theorem sample_reservation_is_sole : ∃ reservation,
    reserve sampleEnv sampleDb (localExpiryUtc 20000) 1 none = .ok reservation ∧
      reservation.created ∧ pendingAttempts reservation.db 1 = [reservation.attempt] ∧
      reservation.attempt.calculatedForDate = some 20001 := by
  obtain ⟨reservation, hreserve, hcreated⟩ : ∃ reservation,
      reserve sampleEnv sampleDb (localExpiryUtc 20000) 1 none = .ok reservation ∧ reservation.created := by
    refine ⟨_, rfl, ?_⟩
    rfl
  obtain ⟨hsole, hquotes⟩ := reservation_is_sole sound_sampleDb onePending_sampleDb hreserve
  exact ⟨reservation, hreserve, hcreated, hsole, hquotes.day⟩

end Samples

end Caixinha.Properties.PendingAttempts
