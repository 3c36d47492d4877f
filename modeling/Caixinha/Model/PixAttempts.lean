import Caixinha.Model.Reversal

/-! The attempts to charge a loan installment by PIX: reservation, the answer of the provider
and the approval of a confirmed one. -/
namespace Caixinha.Model

open Caixinha.Library Table Json

section Snapshot

inductive ReuseDecision where
  | REUSE | EXPIRE | SUPERSEDE | NO_REUSABLE_ATTEMPT
  deriving DecidableEq, Repr

def financialTimezone : String := "America/Belem"
def loanInstallmentPixSnapshotVersion : String := "loan_installment_pix_v1"

def normalizeMoney (cents : Int) : Tx Value := do
  refuseIf (cents < 0) "money value cannot be negative"
  return moneyJson cents

def buildLoanInstallmentSnapshot (loanId : Nat) (inst : LoanInstallment) (day : Int)
    (due : LoanInstallmentObligation) : Tx Value := do
  refuseIf (inst.number < 1) "installment_number must be positive"
  let principal ← normalizeMoney due.principalDue
  let interest ← normalizeMoney due.normalPriceInterestDue
  let fixedPenalty ← normalizeMoney due.fixedPenaltyDue
  let lateInterest ← normalizeMoney due.lateInterestDue
  let total ← normalizeMoney
    (due.principalDue + due.normalPriceInterestDue + due.fixedPenaltyDue + due.lateInterestDue)
  return .obj [("snapshot_version", .str loanInstallmentPixSnapshotVersion),
    ("reference_type", .str "LOAN_INSTALLMENT"),
    ("reference_id", .str (toString inst.id)),
    ("loan_id", .str (toString loanId)),
    ("installment_id", .str (toString inst.id)),
    ("installment_number", .int inst.number),
    ("calculated_for_date", .str (Calendar.isoDate day)),
    ("financial_timezone", .str financialTimezone),
    ("principal_due", principal), ("normal_price_interest_due", interest),
    ("fixed_penalty_due", fixedPenalty), ("late_interest_due", lateInterest),
    ("total_due", total)]

def snapshotHash (env : Env) (snapshot : Value) : String := env.sha256 (dumps snapshot)

/-- What becomes of a pending attempt at a new reservation. -/
def evaluateReuse (attempt : Payment) (currentDay now : Int) (currentHash : String) :
    Tx ReuseDecision :=
  if attempt.attemptStatus ≠ some .PENDING then .ok .NO_REUSABLE_ATTEMPT
  else do
    let expiresAt ← orRefuse attempt.expiresAt "PENDING attempt requires expires_at"
    if expiresAt ≤ now then return .EXPIRE
    if attempt.calculatedForDate ≠ some currentDay ∨ attempt.snapshotHash ≠ some currentHash then
      return .SUPERSEDE
    return .REUSE

/-- `_snapshot`: materialize the charges of the day and write down what is due. -/
def attemptSnapshot (env : Env) (db : Db) (inst : LoanInstallment) (day : Int) :
    Tx (Db × LoanInstallmentObligation × Value) := do
  let (db, _) ← materializeFixedPenalty db inst.id day env.lateChargeEffectiveDate
  let (db, _) ← materializeDailyLateInterest db inst.id day env.lateChargeEffectiveDate
  let charged ← lockInstallment db inst.id
  let due ← loanInstallmentObligation db charged day
  let snapshot ← buildLoanInstallmentSnapshot inst.loanId inst day due
  return (db, due, snapshot)

end Snapshot

section Lifecycle

/-- `transition`: an attempt leaves PENDING once, for one of the final states. -/
def transition (attempt : Payment) (target : AttemptStatus) : Tx Payment :=
  if attempt.attemptStatus = some target then .ok attempt
  else do
    refuseIf (attempt.attemptStatus ≠ some .PENDING ∨ target = .PENDING)
      "invalid PIX attempt transition"
    return { attempt with attemptStatus := some target }

def isPendingAttempt (installmentId : Nat) (p : Payment) : Bool :=
  p.reference = some (.loanInstallment installmentId) ∧ p.attemptStatus = some .PENDING

/-- The pending attempt of an installment, the latest if there were several. -/
def pendingAttempt? (db : Db) (installmentId : Nat) : Option Payment :=
  (db.payments.filter (isPendingAttempt installmentId)).foldl (fun found p => match found with
    | none => some p
    | some q => if q.id < p.id then some p else some q) none

/-- What a reservation leaves: its attempt, and whether it is new. -/
structure Reservation where
  db : Db
  attempt : Payment
  created : Bool

def newAttempt (env : Env) (db : Db) (installmentId : Nat) (day : Int)
    (due : LoanInstallmentObligation) (snapshot : Value) : Payment where
  id := nextKey Payment.id db.payments
  provider := "mercado_pago"
  providerOrderId := none
  providerPaymentId := none
  amount := due.totalDue
  status := "PENDING"
  externalReference := some ("loan-installment-" ++ toString installmentId)
  pixTxid := none
  endToEndId := none
  providerStatusDetail := none
  confirmedAt := none
  expiresAt := some (localExpiryUtc day)
  amountReceived := none
  ledgerPostedAt := none
  reference := some (.loanInstallment installmentId)
  attemptStatus := some .PENDING
  calculatedForDate := some day
  financialSnapshotJson := some (dumps snapshot)
  snapshotHash := some (snapshotHash env snapshot)
  reconciliationStatus := none

/-- Insert an attempt unless the index on pending attempts already holds one, which then wins. -/
def insertAttempt (db : Db) (installmentId : Nat) (attempt : Payment) : Reservation :=
  match pendingAttempt? db installmentId with
  | some winner => { db, attempt := winner, created := false }
  | none => { db := { db with payments := db.payments ++ [attempt] }, attempt, created := true }

/-- `reserve`: reuse the pending attempt or retire it and open a new one. -/
def reserve (env : Env) (db : Db) (clock : Int) (installmentId : Nat) (now : Option Timestamp) :
    Tx Reservation := do
  let now := now.getD { instant := clock }
  let inst ← lockInstallment db installmentId
  refuseIf (¬ now.aware) "value must be timezone-aware"
  let day := financialCivilDate now.instant
  let (db, due, snapshot) ← attemptSnapshot env db inst day
  refuseIf (due.totalDue ≤ 0) "No open authoritative loan obligation"
  match pendingAttempt? db installmentId with
  | none => return insertAttempt db installmentId (newAttempt env db installmentId day due snapshot)
  | some old =>
    let decision ← evaluateReuse old day now.instant (snapshotHash env snapshot)
    if decision = .REUSE then return { db, attempt := old, created := false }
    let retired ← transition old (if decision = .EXPIRE then .EXPIRED else .SUPERSEDED)
    let db := db.putPayment retired
    return insertAttempt db installmentId (newAttempt env db installmentId day due snapshot)

/-- The parts of the provider's answer to a creation. -/
structure ProviderResult where
  orderId : Option String
  id : String
  status : Option String
  deriving DecidableEq, Repr

def bindProvider (db : Db) (attemptId : Nat) (result : ProviderResult) : Db :=
  match db.payment? attemptId with
  | none => db
  | some attempt =>
    if attempt.attemptStatus ≠ some .PENDING then db
    else db.putPayment { attempt with
      providerOrderId := result.orderId.filter (· ≠ "")
      providerPaymentId := some result.id
      status := result.status.getD "PENDING"
      reconciliationStatus := none }

def markAmbiguous (db : Db) (attemptId : Nat) : Db :=
  match db.payment? attemptId with
  | none => db
  | some attempt =>
    if attempt.attemptStatus ≠ some .PENDING then db
    else db.putPayment { attempt with reconciliationStatus := some .PROVIDER_CREATE_UNKNOWN }

/-- `valid_snapshot`: the stored text is canonical and carries the stored digest. -/
def validSnapshot (env : Env) (payment : Payment) : Bool :=
  match loads (payment.financialSnapshotJson.getD "") with
  | none => false
  | some snapshot => some (dumps snapshot) = payment.financialSnapshotJson ∧
      some (snapshotHash env snapshot) = payment.snapshotHash

/-- The payment is put aside for reconciliation. -/
def setAside (db : Db) (payment : Payment) (status : ReconciliationStatus) :
    Tx (Db × Option PaymentSettlement) :=
  .ok (db.putPayment { payment with reconciliationStatus := some status }, none)

/-- Whether the confirmation came too late; only two aware instants compare. -/
def confirmedLate (payment : Payment) (confirmed : Timestamp) : Tx Bool :=
  match payment.expiresAt with
  | none => .error (.typeError "'>=' not supported between instances of 'datetime' and 'NoneType'")
  | some expiresAt =>
    if confirmed.aware then .ok (expiresAt ≤ confirmed.instant)
    else .error (.typeError "can't compare offset-naive and offset-aware datetimes")

/-- What a confirmed pending attempt settles: the debt of its own day, unchanged since. -/
def approvePending (env : Env) (db : Db) (clock : Int) (payment : Payment) (installmentId : Nat)
    (confirmed : Timestamp) (payload : RemotePayload) : Tx (Db × Option PaymentSettlement) := do
  if ← confirmedLate payment confirmed then
    let expired ← transition payment .EXPIRED
    setAside db expired .STALE_EXPIRED
  else
    let inst ← lockInstallment db installmentId
    let day := financialCivilDate confirmed.instant
    let (db, _, snapshot) ← attemptSnapshot env db inst day
    if payment.calculatedForDate ≠ some day ∨
        some (snapshotHash env snapshot) ≠ payment.snapshotHash then
      setAside db payment .SNAPSHOT_MISMATCH
    else if (db.settlementOfPayment? payment.id).isSome then return (db.putPayment payment, none)
    else
      let approved ← transition payment .APPROVED
      let (db, settlement) ← settleConfirmedPixPayment env (db.putPayment approved) clock payment.id
        { source := "WEBHOOK", remotePayload := some payload, confirmedAt := some confirmed }
      return (db, some settlement)

/-- What becomes of a confirmed payment by the state of its attempt. -/
def reconcileAttempt (env : Env) (db : Db) (clock : Int) (payment : Payment)
    (confirmedAt : Option Timestamp) (payload : RemotePayload) :
    Tx (Db × Option PaymentSettlement) :=
  match payment.reference with
  | some (.loanInstallment installmentId) =>
    if payment.attemptStatus = none then setAside db payment .LEGACY_UNVERIFIED
    else if ¬ validSnapshot env payment then setAside db payment .SNAPSHOT_MISMATCH
    else match confirmedAt with
    | none => setAside db payment .RECONCILIATION_REQUIRED
    | some confirmed =>
      if payment.attemptStatus = some .SUPERSEDED then setAside db payment .STALE_SUPERSEDED
      else if payment.attemptStatus = some .EXPIRED then setAside db payment .STALE_EXPIRED
      else if payment.attemptStatus ≠ some .PENDING then
        setAside db payment .RECONCILIATION_REQUIRED
      else approvePending env db clock payment installmentId confirmed payload
  | _ => .ok (db.putPayment payment, none)

/-- The payment with the instant an approval was told. -/
def confirmedBy (found : Payment) (confirmedAt : Option Timestamp) : Payment :=
  { found with confirmedAt := (confirmedAt.map Timestamp.instant) <|> found.confirmedAt }

/-- `approve_or_reconcile` -/
def approveOrReconcile (env : Env) (db : Db) (clock : Int) (paymentId : Nat)
    (confirmedAt : Option Timestamp) (payload : RemotePayload) :
    Tx (Db × Option PaymentSettlement) := do
  let found ← orRefuse (db.payment? paymentId) "Pagamento não encontrado."
  reconcileAttempt env db clock (confirmedBy found confirmedAt) confirmedAt payload

end Lifecycle

end Caixinha.Model
