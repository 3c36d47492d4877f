import Caixinha.Effects.Settled

/-! The receipt a settlement keeps is read back as the document it was written from. -/
namespace Caixinha.Effects

open Caixinha.Library Caixinha.Library.Json Caixinha.Library.Table Fallible Caixinha.Model

section Distinct

private theorem distinct_text {α : Type} (f : α → String) (a : Option α) :
    Distinct (nullable (fun x => .str (f x)) a) := by
  cases a <;> trivial

private theorem distinct_column (a : Option String) : Distinct (nullable .str a) := by
  cases a <;> trivial

private theorem distinct_id (a : Option Nat) : Distinct (nullable idJson a) := by
  cases a <;> trivial

private theorem distinct_instant (a : Option Int) : Distinct (nullable instantJson a) := by
  cases a <;> trivial

theorem distinct_ledgerSnapshot (db : Db) (paymentId : Nat) : Distinct (ledgerSnapshot db paymentId) := by
  rw [ledgerSnapshot, Distinct, distinctItems_iff]
  intro v hv
  obtain ⟨e, -, rfl⟩ := List.mem_map.mp hv
  simp [Distinct, DistinctFields, idJson, moneyJson]

theorem distinct_paymentJson (p : Payment) : Distinct (paymentJson p) := by
  simp [paymentJson, Distinct, DistinctFields, idJson, distinct_text, distinct_column]

theorem distinct_obligationJson (s : PaymentSettlement) : Distinct (obligationJson s) := by
  unfold obligationJson
  split <;> simp [Distinct, DistinctFields, idJson, statusJson, distinct_id]

theorem distinct_settlementAmountsJson (s : PaymentSettlement) :
    Distinct (settlementAmountsJson s) := by
  unfold settlementAmountsJson
  split <;> simp [Distinct, DistinctFields, moneyJson]

/-- No object of a settlement receipt repeats a key. -/
theorem distinct_settlementReceipt (p : Payment) (s : PaymentSettlement) (db : Db) (paymentId : Nat) :
    Distinct (settlementReceiptSnapshot p s (ledgerSnapshot db paymentId)) := by
  unfold settlementReceiptSnapshot
  split <;> simp [Distinct, DistinctFields, distinct_paymentJson, distinct_obligationJson,
    distinct_settlementAmountsJson, distinct_ledgerSnapshot, distinct_id, distinct_instant,
    loanStateJson, loanInstallmentStateJson, agreementInstallmentStateJson,
    collectionAgreementStateJson, instantJson, statusJson, revisionJson, moneyJson]

end Distinct

section Read
variable {v : Value}

@[simp] theorem sameJson_sortKeys (v : Value) : sameJson (sortKeys v) v = true := by
  simp [sameJson]

@[simp] theorem sameJson_self (v : Value) : sameJson v v = true := by
  simp [sameJson]

/-- A field of a document with sorted keys is the field of the document, sorted. -/
theorem field_sortKeys (h : Distinct v) (key : String) :
    field (sortKeys v) key = sortKeys (field v key) := by
  rw [field, field, get?_sortKeys v key h]
  cases get? v key with
  | none => rfl
  | some w => rfl

theorem sameJson_field (h : Distinct v) (key : String) :
    sameJson (field (sortKeys v) key) (field v key) = true := by
  rw [field_sortKeys h, sameJson_sortKeys]

theorem sameJson_nested {w : Value} (h : Distinct v) {key : String} (hw : field v key = w)
    (hnested : Distinct w) (inner : String) :
    sameJson (field (field (sortKeys v) key) inner) (field w inner) = true := by
  rw [field_sortKeys h, hw, sameJson_field hnested]

end Read

section Written
variable {env : Env} {db : Db} {clock effectiveAt received : Int} {payment : Payment}
  {c : Confirmation} {app : Application} {s : PaymentSettlement}

private theorem receipt_releaseAttempt (o : Obligation) (applied : Int) (ledger : Value) :
    settlementReceiptSnapshot (releaseAttempt payment c o applied) s ledger =
      settlementReceiptSnapshot payment s ledger := by
  unfold releaseAttempt
  split <;> rfl

private theorem receipt_sealed (text hash : String) (ledger : Value) :
    settlementReceiptSnapshot payment { s with receiptSnapshotJson := text, receiptHash := hash }
      ledger = settlementReceiptSnapshot payment s ledger := rfl

/-- The document of a settlement, read off the rows it left. -/
def receiptOf (db : Db) (p : Payment) (s : PaymentSettlement) : Value :=
  settlementReceiptSnapshot p s (ledgerSnapshot db p.id)

/-- A recorded settlement keeps its own document as its receipt, with its digest. -/
structure Sealed (env : Env) (db : Db) (p : Payment) (s : PaymentSettlement) : Prop where
  text : s.receiptSnapshotJson = dumps (receiptOf db p s)
  hash : s.receiptHash = env.sha256 (dumps (receiptOf db p s))

private theorem settledRow_receipt :
    (settledRow env payment c clock effectiveAt received app).receiptSnapshotJson =
      dumps (settlementReceiptSnapshot (confirmedPayment payment c clock effectiveAt received)
        (unsealedRow payment c clock effectiveAt received app)
        (ledgerSnapshot app.db (confirmedPayment payment c clock effectiveAt received).id)) ∧
    (settledRow env payment c clock effectiveAt received app).receiptHash =
      env.sha256 (dumps (settlementReceiptSnapshot
        (confirmedPayment payment c clock effectiveAt received)
        (unsealedRow payment c clock effectiveAt received app)
        (ledgerSnapshot app.db (confirmedPayment payment c clock effectiveAt received).id))) := by
  rw [settledRow, writeReceipt]
  exact ⟨rfl, rfl⟩

theorem settledRow_sealed {db' : Db} (hledger : db'.ledgerEntries = app.db.ledgerEntries) :
    Sealed env db' (settledPayment payment c clock effectiveAt received app)
      (settledRow env payment c clock effectiveAt received app) := by
  have hledgers : ledgerSnapshot db' (settledPayment payment c clock effectiveAt received app).id =
      ledgerSnapshot app.db (confirmedPayment payment c clock effectiveAt received).id := by
    rw [settledPayment, releaseAttempt_id, ledgerSnapshot, ledgerSnapshot, hledger]
  have hsame : receiptOf db' (settledPayment payment c clock effectiveAt received app)
      (settledRow env payment c clock effectiveAt received app) =
      settlementReceiptSnapshot (confirmedPayment payment c clock effectiveAt received)
        (unsealedRow payment c clock effectiveAt received app)
        (ledgerSnapshot app.db (confirmedPayment payment c clock effectiveAt received).id) := by
    rw [receiptOf, hledgers, settledPayment, receipt_releaseAttempt, settledRow, writeReceipt,
      receipt_sealed]
  constructor
  · rw [hsame]
    exact settledRow_receipt.1
  · rw [hsame]
    exact settledRow_receipt.2

theorem field_receiptOf (db : Db) (p : Payment) (s : PaymentSettlement) :
    field (receiptOf db p s) "payment" = paymentJson p ∧
      field (receiptOf db p s) "obligation" = obligationJson s ∧
      field (receiptOf db p s) "amounts" = settlementAmountsJson s :=
  ⟨rfl, rfl, rfl⟩

/-- Reading the receipt of a recorded settlement gives its document. -/
theorem Sealed.load {p : Payment} (h : Sealed env db p s) (unreadable broken : String) :
    loadReceipt env s unreadable broken = .ok (sortKeys (receiptOf db p s)) := by
  have hloads : loads s.receiptSnapshotJson = some (sortKeys (receiptOf db p s)) := by
    rw [h.text]
    exact loads_dumps _ (distinct_settlementReceipt p s db p.id)
  unfold loadReceipt
  rw [hloads, h.text, h.hash]
  simp [orRefuse, ok_bind, refuseIf]

end Written

end Caixinha.Effects
