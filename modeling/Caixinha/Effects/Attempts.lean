import Caixinha.Effects.Frame

/-! What the attempts to charge an installment go through: the pending one, the quote it holds, and
the ways its approval can end. -/
namespace Caixinha.Effects

open Caixinha.Library Caixinha.Library.Table Fallible Caixinha.Model

variable {env : Env} {db db' : Db} {clock : Int}

/-- A walk that keeps what it holds or takes the row it is at ends with one of the rows. -/
theorem foldl_latest_mem {f : Option Payment → Payment → Option Payment}
    (hf : ∀ found x, f found x = found ∧ found.isSome ∨ f found x = some x) :
    ∀ (payments : List Payment) (found : Option Payment),
      (payments.foldl f found = found ∧ (payments = [] ∨ found.isSome)) ∨
        ∃ x ∈ payments, payments.foldl f found = some x := by
  intro payments
  induction payments with
  | nil => exact fun found => .inl ⟨rfl, .inl rfl⟩
  | cons x payments ih =>
    intro found
    rw [List.foldl_cons]
    rcases ih (f found x) with ⟨hsame, -⟩ | ⟨y, hy, hlast⟩
    · rcases hf found x with ⟨hx, hsome⟩ | hx
      · exact .inl ⟨hsame.trans hx, .inr hsome⟩
      · exact .inr ⟨x, List.mem_cons_self .., hsame.trans hx⟩
    · exact .inr ⟨y, List.mem_cons_of_mem _ hy, hlast⟩

theorem latest_of_foldl {f : Option Payment → Payment → Option Payment} {payments : List Payment}
    {last : Option Payment} (h : payments.foldl f none = last)
    (hf : ∀ found x, f found x = found ∧ found.isSome ∨ f found x = some x) :
    (payments = [] ∧ last = none) ∨ ∃ x ∈ payments, last = some x := by
  rcases foldl_latest_mem hf payments none with ⟨hnone, hnil | hsome⟩ | ⟨x, hx, hlast⟩
  · exact .inl ⟨hnil, h.symm.trans hnone⟩
  · cases hsome
  · exact .inr ⟨x, hx, h.symm.trans hlast⟩

theorem pendingAttempt?_spec {installmentId : Nat} {p : Payment}
    (h : pendingAttempt? db installmentId = some p) :
    p ∈ db.payments ∧ isPendingAttempt installmentId p := by
  unfold pendingAttempt? at h
  have hlatest := latest_of_foldl h fun found x => by
    cases found with
    | none => exact .inr rfl
    | some q =>
      dsimp only
      split
      · exact .inr rfl
      · exact .inl ⟨rfl, rfl⟩
  rcases hlatest with ⟨-, hnone⟩ | ⟨x, hx, hlast⟩
  · cases hnone
  · obtain rfl := Option.some.inj hlast
    exact List.mem_filter.mp hx

/-- An attempt leaves PENDING, or is already where it should go. -/
theorem transition_spec {old new : Payment} {target : AttemptStatus}
    (h : transition old target = .ok new) :
    new = { old with attemptStatus := some target } ∧
      (old.attemptStatus = some target ∨ (old.attemptStatus = some .PENDING ∧ target ≠ .PENDING)) := by
  unfold transition at h
  split at h
  · rename_i hsame
    rw [Except.ok.injEq] at h
    subst h
    exact ⟨by rw [← hsame], .inl hsame⟩
  · simp only [bind_eq_ok, pure_eq_ok, refuseIf_eq_ok, exists_and_left, exists_const, not_or,
      not_not] at h
    obtain ⟨⟨hpending, htarget⟩, rfl⟩ := h
    exact ⟨rfl, .inr ⟨hpending, htarget⟩⟩

theorem charged_attemptSnapshot {inst : LoanInstallment} {day : Int}
    {due : LoanInstallmentObligation} {snapshot : Json.Value} (hs : Sound db)
    (h : attemptSnapshot env db inst day = .ok (db', due, snapshot)) : Charged inst.id db db' := by
  unfold attemptSnapshot at h
  simp only [bind_eq_ok, pure_eq_ok, Prod.exists, Prod.mk.injEq] at h
  obtain ⟨penalized, event, hpenalty, charged, created, hdaily, x, -, due', -, snapshot', -, rfl, -⟩ := h
  have hfirst := charged_materializeFixedPenalty hs.installments hpenalty
  exact hfirst.trans (charged_materializeDailyLateInterest (hfirst.keyed hs.installments) hdaily)

/-- The debt of the day of a timely confirmation, as the approval of a pending attempt sees it. -/
structure Quoted (env : Env) (db : Db) (payment : Payment) (confirmedAt : Option Timestamp)
    (installmentId : Nat) (confirmed : Timestamp) (charged : Db) (due : LoanInstallmentObligation)
    (snapshot : Json.Value) : Prop where
  reference : payment.reference = some (.loanInstallment installmentId)
  pending : payment.attemptStatus = some .PENDING
  valid : validSnapshot env payment
  told : confirmedAt = some confirmed
  aware : confirmed.aware
  timely : ∃ expiresAt, payment.expiresAt = some expiresAt ∧ confirmed.instant < expiresAt
  quote : ∃ inst, db.installment? installmentId = some inst ∧
    attemptSnapshot env db inst (financialCivilDate confirmed.instant) = .ok (charged, due, snapshot)

/-- Whether an attempt charges what the day of the confirmation still owes. -/
def sameQuote (env : Env) (payment : Payment) (confirmed : Timestamp) (snapshot : Json.Value) : Prop :=
  payment.calculatedForDate = some (financialCivilDate confirmed.instant) ∧
    payment.snapshotHash = some (snapshotHash env snapshot)

/-- The attempt a settlement starts from. -/
def approvedAttempt (payment : Payment) : Payment := { payment with attemptStatus := some .APPROVED }

/-- The ways an approval can end, `payment` carrying the instant of the confirmation. -/
inductive Approval (env : Env) (db : Db) (clock : Int) (payment : Payment)
    (confirmedAt : Option Timestamp) (payload : RemotePayload) : Db → Option PaymentSettlement → Prop where
  | aside (status : Option ReconciliationStatus)
    (told : ∀ id, payment.reference = some (.loanInstallment id) → status.isSome) :
    Approval env db clock payment confirmedAt payload
      (db.putPayment { payment with reconciliationStatus := status }) none
  | expired (pending : payment.attemptStatus = some .PENDING) :
    Approval env db clock payment confirmedAt payload
      (db.putPayment { payment with
        attemptStatus := some .EXPIRED, reconciliationStatus := some .STALE_EXPIRED }) none
  | mismatch {id confirmed charged due snapshot}
    (quoted : Quoted env db payment confirmedAt id confirmed charged due snapshot)
    (differs : ¬ sameQuote env payment confirmed snapshot) :
    Approval env db clock payment confirmedAt payload
      (charged.putPayment { payment with reconciliationStatus := some .SNAPSHOT_MISMATCH }) none
  | already {id confirmed charged due snapshot}
    (quoted : Quoted env db payment confirmedAt id confirmed charged due snapshot)
    (settled : (charged.settlementOfPayment? payment.id).isSome) :
    Approval env db clock payment confirmedAt payload (charged.putPayment payment) none
  | settled {id confirmed charged due snapshot db' s}
    (quoted : Quoted env db payment confirmedAt id confirmed charged due snapshot)
    (same : sameQuote env payment confirmed snapshot)
    (unsettled : charged.settlementOfPayment? payment.id = none)
    (settle : settleConfirmedPixPayment env
      (charged.putPayment (approvedAttempt payment)) clock payment.id
      { source := "WEBHOOK", remotePayload := some payload, confirmedAt := some confirmed } =
        .ok (db', s)) :
    Approval env db clock payment confirmedAt payload db' (some s)

private theorem approvePending_cases {payment : Payment} {confirmed : Timestamp}
    {payload : RemotePayload} {installmentId : Nat} {result : Option PaymentSettlement}
    (hreference : payment.reference = some (.loanInstallment installmentId))
    (hpending : payment.attemptStatus = some .PENDING) (hvalid : validSnapshot env payment)
    (h : approvePending env db clock payment installmentId confirmed payload = .ok (db', result)) :
    Approval env db clock payment (some confirmed) payload db' result := by
  unfold approvePending at h
  rw [bind_eq_ok] at h
  obtain ⟨late, hlate, h⟩ := h
  unfold confirmedLate at hlate
  split at hlate
  · cases hlate
  rename_i expiresAt hexpires
  split at hlate
  · rename_i haware
    rw [Except.ok.injEq] at hlate
    split at h
    · simp only [bind_eq_ok, setAside, Except.ok.injEq, Prod.mk.injEq] at h
      obtain ⟨expired, hexpired, rfl, rfl⟩ := h
      obtain ⟨rfl, -⟩ := transition_spec hexpired
      exact .expired hpending
    · rename_i hnot
      have htimely : confirmed.instant < expiresAt := by
        rw [← hlate] at hnot
        simpa using hnot
      simp only [bind_eq_ok, lockInstallment, orRefuse_eq_ok, Prod.exists] at h
      obtain ⟨inst, hinst, charged, due, snapshot, hquote, h⟩ := h
      have hquoted : Quoted env db payment (some confirmed) installmentId confirmed charged due
          snapshot :=
        ⟨hreference, hpending, hvalid, rfl, haware, ⟨expiresAt, hexpires, htimely⟩, inst, hinst, hquote⟩
      split at h
      · rename_i hdiffers
        simp only [setAside, Except.ok.injEq, Prod.mk.injEq] at h
        obtain ⟨rfl, rfl⟩ := h
        refine .mismatch hquoted fun hsame => ?_
        rcases hdiffers with hday | hhash
        · exact hday hsame.1
        · exact hhash hsame.2.symm
      · rename_i hsame
        obtain ⟨hday, hhash⟩ := not_or.mp hsame
        split at h
        · rename_i hsettled
          rw [pure_eq_ok, Prod.mk.injEq] at h
          obtain ⟨rfl, rfl⟩ := h
          exact .already hquoted hsettled
        · rename_i hunsettled
          simp only [bind_eq_ok, pure_eq_ok, Prod.exists, Prod.mk.injEq] at h
          obtain ⟨approved, happroved, final, s, hsettle, rfl, rfl⟩ := h
          obtain ⟨rfl, -⟩ := transition_spec happroved
          exact .settled hquoted ⟨not_not.mp hday, (not_not.mp hhash).symm⟩ (by simpa using hunsettled)
            hsettle
  · cases hlate

private theorem approval_of_setAside {payment : Payment} {confirmedAt : Option Timestamp}
    {payload : RemotePayload} {status : ReconciliationStatus} {result : Option PaymentSettlement}
    (h : setAside db payment status = .ok (db', result)) :
    Approval env db clock payment confirmedAt payload db' result := by
  simp only [setAside, Except.ok.injEq, Prod.mk.injEq] at h
  obtain ⟨rfl, rfl⟩ := h
  exact .aside _ fun _ _ => rfl

/-- Every successful approval. -/
theorem approve_cases {paymentId : Nat} {confirmedAt : Option Timestamp} {payload : RemotePayload}
    {result : Option PaymentSettlement}
    (h : approveOrReconcile env db clock paymentId confirmedAt payload = .ok (db', result)) :
    ∃ found, db.payment? paymentId = some found ∧
      Approval env db clock (confirmedBy found confirmedAt) confirmedAt payload db' result := by
  unfold approveOrReconcile at h
  simp only [bind_eq_ok, orRefuse_eq_ok] at h
  obtain ⟨found, hfound, h⟩ := h
  refine ⟨found, hfound, ?_⟩
  unfold reconcileAttempt at h
  split at h
  · rename_i installmentId hreference
    split at h
    · exact approval_of_setAside h
    split at h
    · exact approval_of_setAside h
    rename_i hvalid
    split at h
    · exact approval_of_setAside h
    · rename_i confirmed
      split at h
      · exact approval_of_setAside h
      split at h
      · exact approval_of_setAside h
      split at h
      · exact approval_of_setAside h
      · rename_i hpending
        exact approvePending_cases hreference (not_not.mp hpending) (by simpa using hvalid) h
  · rename_i hreference
    rw [Except.ok.injEq, Prod.mk.injEq] at h
    obtain ⟨rfl, rfl⟩ := h
    exact .aside _ fun id hloan => absurd hloan (hreference id)

end Caixinha.Effects
