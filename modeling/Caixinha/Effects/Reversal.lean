import Caixinha.Effects.Settlement

/-! What a reversal does: the ways it can go, and the effect of each branch on the database. -/
namespace Caixinha.Effects

open Caixinha.Library Caixinha.Library.Table Fallible Caixinha.Model

variable {env : Env} {db db' : Db} {clock reversedAt : Int} {payment : Payment}
  {settlement : PaymentSettlement} {r : PaymentReversal} {adminId : Nat} {reason : String}

/-- Which branch reverses an obligation. -/
def reverseObligation (env : Env) (db : Db) (clock : Int) (payment : Payment)
    (settlement : PaymentSettlement) (adminId : Nat) (reason : String) (reversedAt : Int) :
    Tx (Db × PaymentReversal) :=
  match settlement.obligation with
  | .loanInstallment id =>
    reverseLoanPayment env db clock payment settlement id adminId reason reversedAt
  | .agreementInstallment id =>
    reverseAgreementPayment env db clock payment settlement id adminId reason reversedAt
  | .contribution id =>
    reverseContributionPayment env db clock payment settlement id adminId reason reversedAt

/-- What every call of `reverse_payment` must meet before it looks at the settlement. -/
structure MayReverse (db : Db) (payment : Payment) (adminId : Nat) (reason : String)
    (now : Option Timestamp) : Prop where
  reason : ¬ shortReason reason
  aware : ∀ t, now = some t → t.aware
  approved : payment.status = "approved"
  admin : validateAdmin db adminId = .ok ()

/-- A successful reversal found the one there was, or reversed the settlement of the payment. -/
theorem reverse_cases {paymentId : Nat} {now : Option Timestamp}
    (h : reversePayment env db clock paymentId adminId reason now = .ok (db', r)) :
    ∃ payment, db.payment? paymentId = some payment ∧ payment.id = paymentId ∧
      ((db.reversalOfPayment? paymentId = some r ∧ db' = db) ∨
      (db.reversalOfPayment? paymentId = none ∧ MayReverse db payment adminId reason now ∧
        ∃ settlement, db.settlementOfPayment? paymentId = some settlement ∧
          reverseObligation env db clock payment settlement adminId (strip reason)
            ((now.map (·.instant)).getD clock) = .ok (db', r))) := by
  unfold reversePayment at h
  simp only [bind_eq_ok, refuseIf_eq_ok, orRefuse_eq_ok, exists_and_left, exists_const] at h
  obtain ⟨hreason, haware, payment, hpayment, h⟩ := h
  have hid : payment.id = paymentId := lookup_key hpayment
  rw [hid] at h
  refine ⟨payment, hpayment, hid, ?_⟩
  split at h
  · rename_i existing hexisting
    rw [pure_eq_ok, Prod.mk.injEq] at h
    obtain ⟨rfl, rfl⟩ := h
    exact .inl ⟨hexisting, rfl⟩
  · rename_i hnone
    simp only [bind_eq_ok, refuseIf_eq_ok, orRefuse_eq_ok, exists_and_left, exists_const] at h
    obtain ⟨happroved, u, hadmin, settlement, hsettlement, h⟩ := h
    refine .inr ⟨hnone, ⟨hreason, ?_, not_not.mp happroved, hadmin⟩, settlement, hsettlement, h⟩
    rintro t rfl
    simpa using haware

/-- And conversely: a settled payment is reversed as its obligation is. -/
theorem reversePayment_eq {paymentId : Nat} {now : Option Timestamp}
    (hpayment : db.payment? paymentId = some payment)
    (hmay : MayReverse db payment adminId reason now)
    (hnone : db.reversalOfPayment? paymentId = none)
    (hsettlement : db.settlementOfPayment? paymentId = some settlement) :
    reversePayment env db clock paymentId adminId reason now =
      reverseObligation env db clock payment settlement adminId (strip reason)
        ((now.map (·.instant)).getD clock) := by
  have hid : payment.id = paymentId := lookup_key hpayment
  have haware : now.any (fun t => ¬ t.aware) = false := by
    cases now with
    | none => rfl
    | some t => simp [hmay.aware t rfl]
  have hstatus : ¬ payment.status ≠ "approved" := not_not.mpr hmay.approved
  unfold reversePayment
  rw [refuseIf, if_neg hmay.reason, haware, hpayment]
  simp only [refuseIf, orRefuse, ok_bind, hid, hnone, hsettlement, hmay.admin, if_neg hstatus,
    Bool.false_eq_true, ↓reduceIte]
  rfl

section Money

/-- The equations a settlement must satisfy to be reversed. -/
structure SoundAmounts (a : AppliedAmounts) : Prop where
  received_nonneg : 0 ≤ a.amountReceived
  applied_nonneg : 0 ≤ a.amountApplied
  principal_nonneg : 0 ≤ a.principalApplied
  interest_nonneg : 0 ≤ a.interestApplied
  penalty_nonneg : 0 ≤ a.penaltyApplied
  excess_nonneg : 0 ≤ a.excessAmount
  received_eq : a.amountReceived = a.amountApplied + a.excessAmount
  applied_eq : a.amountApplied = a.principalApplied + a.interestApplied + a.penaltyApplied

/-- The components of a settlement add up to its interest and its penalty. -/
def ComponentsAgree (s : PaymentSettlement) : Prop :=
  ∀ c, s.components = some c → s.amounts.interestApplied = c.normalInterestApplied ∧
    s.amounts.penaltyApplied = c.lateInterestApplied + c.fixedPenaltyApplied

/-- A settlement passes `_validate_money` exactly when its equations hold, it received what the
payment did and, unless it is of a loan, it is principal only. -/
theorem validateMoney_eq_ok {loan : Bool} {values : AppliedAmounts} :
    validateMoney settlement payment loan = .ok values ↔
      values = settlement.amounts ∧ SoundAmounts settlement.amounts ∧ ComponentsAgree settlement ∧
        settlement.amounts.amountReceived = receivedAmount payment ∧
        (loan = false → settlement.amounts.interestApplied = 0 ∧
          settlement.amounts.penaltyApplied = 0) := by
  unfold validateMoney ComponentsAgree receivedAmount
  simp only [bind_eq_ok, pure_eq_ok, refuseIf_eq_ok, exists_and_left, exists_const]
  constructor
  · rintro ⟨hneg, hrec, happ, hint, hpen, hpay, hloan, hprincipal, rfl⟩
    refine ⟨rfl, ⟨by omega, by omega, by omega, by omega, by omega, by omega, by omega, by omega⟩,
      ?_, not_not.mp hpay, ?_⟩
    · intro c hc
      rw [hc] at hint hpen
      simpa using And.intro hint hpen
    · rintro rfl
      simpa using hloan
  · rintro ⟨rfl, hs, hc, hpay, hloan⟩
    obtain ⟨h1, h2, h3, h4, h5, h6, h7, h8⟩ := hs
    refine ⟨by omega, by omega, by omega, ?_, ?_, by simpa using hpay, ?_, ?_, rfl⟩
    · cases hcomp : settlement.components with
      | none => simp
      | some c => simpa using (hc c hcomp).1
    · cases hcomp : settlement.components with
      | none => simp
      | some c => simpa using (hc c hcomp).2
    · rintro ⟨hnot, hne⟩
      have := hloan (by simpa using hnot)
      omega
    · rintro ⟨hnot, hne⟩
      have := hloan (by simpa using hnot)
      omega

end Money

section Rows

/-- The new reversal row is the first for its payment and for its settlement. -/
theorem insertReversal_eq_ok : insertReversal db r = .ok db' ↔
    db' = { db with reversals := db.reversals ++ [r] } ∧ SoundAmounts r.amounts ∧
      (∀ x ∈ db.reversals, x.paymentId ≠ r.paymentId) ∧
      (∀ x ∈ db.reversals, x.settlementId ≠ r.settlementId) := by
  unfold insertReversal
  simp only [bind_eq_ok, pure_eq_ok, requireConstraint_eq_ok, exists_and_left, exists_const,
    List.any_eq_true, decide_eq_true_eq, not_exists, not_and]
  constructor
  · rintro ⟨hp, hs, ⟨h1, h2, h3, h4, h5, h6⟩, h7, h8, rfl⟩
    exact ⟨rfl, ⟨h1, h2, h3, h4, h5, h6, h7, h8⟩, hp, hs⟩
  · rintro ⟨rfl, ⟨h1, h2, h3, h4, h5, h6, h7, h8⟩, hp, hs⟩
    exact ⟨hp, hs, ⟨h1, h2, h3, h4, h5, h6⟩, h7, h8, rfl⟩

/-- The columns of a reversal its receipt does not touch. -/
structure ReversalOf (db : Db) (payment : Payment) (settlement : PaymentSettlement) (adminId : Nat)
    (reason : String) (reversedAt : Int) (r : PaymentReversal) : Prop where
  id_eq : r.id = nextKey PaymentReversal.id db.reversals
  paymentId : r.paymentId = payment.id
  settlementId : r.settlementId = settlement.id
  adminId : r.adminId = adminId
  reason : r.reason = reason
  reversedAt : r.reversedAt = reversedAt
  amounts : r.amounts = settlement.amounts

theorem reversalOf_reversalRow {locked : Db} (hrows : locked.reversals = db.reversals)
    (originalDate : OriginalDate) :
    ReversalOf db payment settlement adminId reason reversedAt
      (reversalRow env locked payment settlement adminId reason reversedAt originalDate
        settlement.amounts) :=
  ⟨congrArg (nextKey PaymentReversal.id) hrows, rfl, rfl, rfl, rfl, rfl, rfl⟩

/-- A reversal with its receipt. -/
def sealedReversal (env : Env) (r : PaymentReversal) (snapshot : Json.Value) : PaymentReversal :=
  { r with receiptSnapshotJson := Json.dumps snapshot, receiptHash := env.sha256 (Json.dumps snapshot) }

theorem ReversalOf.sealed (h : ReversalOf db payment settlement adminId reason reversedAt r)
    (snapshot : Json.Value) :
    ReversalOf db payment settlement adminId reason reversedAt (sealedReversal env r snapshot) :=
  ⟨h.id_eq, h.paymentId, h.settlementId, h.adminId, h.reason, h.reversedAt, h.amounts⟩

theorem sealReversal_eq (rows : List PaymentReversal) {snapshot : Json.Value}
    (hid : r.id = nextKey PaymentReversal.id rows) (hrows : db.reversals = rows ++ [r]) :
    sealReversal env db r snapshot =
      ({ db with reversals := rows ++ [sealedReversal env r snapshot] },
        sealedReversal env r snapshot) := by
  have hreplace : replace PaymentReversal.id (rows ++ [r]) (sealedReversal env r snapshot) =
      rows ++ [sealedReversal env r snapshot] := replace_append_new hid rfl
  unfold sealReversal
  rw [← hreplace, ← hrows]
  rfl

/-- A row that is the only one with its reference, and that nothing has reversed. -/
structure SoleOriginal (db : Db) (paymentId : Nat) (type : LedgerReferenceType) (amount : Int)
    (row : LedgerEntry) : Prop where
  rows : paymentLedgerRows db paymentId = [row]
  type : row.referenceType = type
  account : row.account = "CAIXINHA"
  direction : row.direction = .CREDIT
  amount : row.amount.val = amount
  original : row.reversalOfId = none
  intact : hasReversal db row = false

theorem mem_of_paymentLedgerRows {paymentId : Nat} {row : LedgerEntry}
    (h : row ∈ paymentLedgerRows db paymentId) :
    row ∈ db.ledgerEntries ∧ row.referenceId = toString paymentId := by
  rw [paymentLedgerRows, List.mem_filter] at h
  exact ⟨h.1, by simpa using h.2⟩

theorem SoleOriginal.mem {paymentId : Nat} {type : LedgerReferenceType} {amount : Int}
    {row : LedgerEntry} (h : SoleOriginal db paymentId type amount row) :
    row ∈ db.ledgerEntries ∧ row.referenceId = toString paymentId :=
  mem_of_paymentLedgerRows (by rw [h.rows]; exact List.mem_singleton_self row)

/-- When all rows share one id there is one row. -/
theorem eq_singleton_of_ids {rows : List LedgerEntry} {row : LedgerEntry}
    (hkeyed : Keyed LedgerEntry.id rows) (hrow : row ∈ rows)
    (h : rows.filter (fun e => e.id ≠ row.id) = []) : rows = [row] := by
  have hall : rows.filter (fun e => e.id = row.id) = rows := by
    rw [List.filter_eq_self]
    intro e he
    have := List.filter_eq_nil_iff.mp h e he
    simpa using this
  rw [← hall]
  exact filter_key_of_mem hkeyed hrow

theorem keyed_paymentLedgerRows (hs : LedgerSound db.ledgerEntries) (paymentId : Nat) :
    Keyed LedgerEntry.id (paymentLedgerRows db paymentId) :=
  hs.keyed.sublist (List.filter_sublist.map _)

/-- The originals of a contribution payment: none for a payment that applied nothing and has no
rows, and otherwise the only row under its id. -/
theorem findOriginalLedger_eq_ok (hs : LedgerSound db.ledgerEntries) {paymentId : Nat} {amount : Int}
    {originals : List LedgerEntry} : findOriginalLedger db paymentId amount = .ok originals ↔
      (amount = 0 ∧ originals = [] ∧ paymentLedgerRows db paymentId = []) ∨
      (amount ≠ 0 ∧ ∃ row, originals = [row] ∧
        SoleOriginal db paymentId .CONTRIBUTION_PAYMENT amount row) := by
  unfold findOriginalLedger
  dsimp only
  by_cases hzero : amount = 0
  · rw [if_pos hzero]
    simp only [bind_eq_ok, pure_eq_ok, refuseIf_eq_ok, exists_and_left, exists_const, not_not]
    constructor
    · rintro ⟨hrows, rfl⟩
      exact .inl ⟨hzero, rfl, hrows⟩
    · rintro (⟨-, rfl, hrows⟩ | ⟨hne, -⟩)
      · exact ⟨hrows, rfl⟩
      · exact absurd hzero hne
  · rw [if_neg hzero]
    constructor
    · intro h
      split at h
      · rename_i row hfilter
        simp only [bind_eq_ok, pure_eq_ok, refuseIf_eq_ok, exists_and_left, exists_const, not_or,
          not_not] at h
        obtain ⟨-, hextras, ⟨haccount, hdirection⟩, ⟨hamount, horiginal⟩, hintact, rfl⟩ := h
        have hmem : row ∈ (paymentLedgerRows db paymentId).filter
            (fun e => e.referenceType = .CONTRIBUTION_PAYMENT) := by simp [hfilter]
        rw [List.mem_filter] at hmem
        have hrows := eq_singleton_of_ids (keyed_paymentLedgerRows hs paymentId) hmem.1 hextras
        exact .inr ⟨hzero, row, hrows, hrows, by simpa using hmem.2, haccount, hdirection, hamount,
          by simpa using horiginal, by simpa using hintact⟩
      · cases h
    · rintro (⟨h, -⟩ | ⟨-, row, rfl, h⟩)
      · exact absurd h hzero
      · rw [h.rows, List.filter_cons_of_pos (by simpa using h.type), List.filter_nil]
        simp [refuseIf, h.account, h.direction, h.amount, h.original, h.intact]

end Rows

end Caixinha.Effects
