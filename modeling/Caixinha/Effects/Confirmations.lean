import Caixinha.Effects.Webhook

/-! What the financial writer makes of a confirmed payment: settled once, put aside, or nothing. -/
namespace Caixinha.Effects

open Caixinha.Library Caixinha.Library.Table Fallible Caixinha.Model

variable {env : Env} {db before : Db} {clock : Int} {p q : Payment} {remote : RemoteOrder}
  {entry : RemotePayment}

section Accounted

/-- The payment has exactly one settlement, or waits for reconciliation. -/
def Accounted (db : Db) (id : Nat) : Prop :=
  (db.settlements.filter (fun s => s.paymentId = id)).length = 1 ∨
    ∃ p, db.payment? id = some p ∧ p.reconciliationStatus ≠ none

/-- A settlement that goes through leaves its row. -/
theorem settled_of_settle {db' : Db} {c : Confirmation} {x : PaymentSettlement} (hs : Sound db)
    (h : settleConfirmedPixPayment env db clock p.id c = .ok (db', x)) :
    (db'.settlementOfPayment? p.id).isSome := by
  obtain ⟨payment, -, hid, ⟨hfound, rfl⟩ | ⟨-, -, new, hgrows, hnew, hpaid, -⟩⟩ := settle_effect hs h
  · rw [hfound]
    rfl
  · rw [Db.settlementOfPayment?, List.find?_isSome]
    refine ⟨x, ?_, by simp [hpaid, hid]⟩
    rw [hgrows.settlements, hnew]
    exact List.mem_append_right _ (List.mem_singleton_self x)

end Accounted

section Loan
variable {confirmedAt : Option Timestamp} {payload : RemotePayload}

/-- A pending attempt confirmed with its instant: it is too late, it no longer charges what the day
owes, or its settlement goes through. -/
inductive PendingTaken (env : Env) (db : Db) (clock : Int) (p : Payment) (installmentId : Nat)
    (confirmed : Timestamp) (payload : RemotePayload) : Prop where
  | late (expiresAt : Int) (expires : p.expiresAt = some expiresAt)
    (late : expiresAt ≤ confirmed.instant)
  | timely (expiresAt : Int) (expires : p.expiresAt = some expiresAt)
    (timely : confirmed.instant < expiresAt) (inst : LoanInstallment)
    (found : db.installment? installmentId = some inst) (charged : Db)
    (due : LoanInstallmentObligation) (snapshot : Json.Value)
    (quote : attemptSnapshot env db inst (financialCivilDate confirmed.instant) =
      .ok (charged, due, snapshot))
    (taken : ¬ sameQuote env p confirmed snapshot ∨ (charged.settlementOfPayment? p.id).isSome ∨
      ∃ r, settleConfirmedPixPayment env (charged.putPayment (approvedAttempt p)) clock p.id
        { source := "WEBHOOK", remotePayload := some payload, confirmedAt := some confirmed } = .ok r)

/-- The approval of a loan payment ends without an error: there is nothing to approve, or the pending
attempt is taken. -/
def LoanTaken (env : Env) (db : Db) (clock : Int) (p : Payment) (installmentId : Nat)
    (confirmedAt : Option Timestamp) (payload : RemotePayload) : Prop :=
  p.attemptStatus ≠ some .PENDING ∨ ¬ validSnapshot env p ∨
    ∀ confirmed, confirmedAt = some confirmed →
      PendingTaken env db clock p installmentId confirmed payload

end Loan

section Writer

/-- The financial writer takes a confirmed payment: it settles it or puts it aside. A contribution or
an agreement already posted, and a payment of nothing, it leaves as they are. -/
def Taken (env : Env) (before : Db) (clock : Int) (eventId : Nat) (p : Payment) (remote : RemoteOrder)
    (entry : RemotePayment) : Prop :=
  let db := before.putPayment p
  let c := webhookConfirmation eventId remote entry
  match p.reference with
  | some (.loanInstallment id) => LoanTaken env db clock (confirmedBy p (remoteConfirmedAt entry)) id
      (remoteConfirmedAt entry) (remotePayload remote entry)
  | reference =>
    if isContributionReference reference ∨ (paymentContribution db p).isSome then
      (paymentContribution db p).any (fun x => x.cancelledAt.isSome) ∨
        (p.ledgerPostedAt = none ∧ ∃ r, settleConfirmedPixPayment env db clock p.id c = .ok r)
    else match reference with
      | some (.agreementInstallment _) => p.ledgerPostedAt = none ∧
          ledgerHas db .AGREEMENT_INSTALLMENT_PAYMENT (toString p.id) = false ∧
          ∃ r, settleConfirmedPixPayment env db clock p.id c = .ok r
      | _ => False

/-- Nothing was settled of the payment or put aside. -/
structure Unheard (db : Db) (p : Payment) : Prop where
  found : db.payment? p.id = some p
  unsettled : db.settlementOfPayment? p.id = none
  open_ : p.reconciliationStatus = none

theorem Unheard.put (h : Unheard db p) (hsame : SameCharge p q)
    (hopen : q.reconciliationStatus = none) : Unheard (db.putPayment q) q where
  found := put_found h.found hsame
  unsettled := by
    rw [hsame.id_eq]
    exact h.unsettled
  open_ := hopen

end Writer

end Caixinha.Effects
