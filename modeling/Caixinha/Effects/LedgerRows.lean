import Caixinha.Effects.Operations

/-! How each row came into the ledger: as an original, by a reversal of its own, or by the reversal
of the payment it is a component of. -/
namespace Caixinha.Effects

open Caixinha.Library Caixinha.Library.Table Fallible Caixinha.Model

/-- A row an operation added. -/
inductive NewRow (db : Db) (op : Operation) (db' : Db) (e : LedgerEntry) : Prop where
  | original (h : e.reversalOfId = none)
  | direct {o} (mem : o ∈ db.ledgerEntries) (compensates : Compensates o e)
    (free : ∀ s ∈ db.settlements, o.referenceType ∈ paymentComponentTypes →
      o.referenceId ≠ toString s.paymentId)
  | undone {o paymentId adminId reason now r}
    (operation : op = .reverse paymentId adminId reason now) (mem : o ∈ db.ledgerEntries)
    (compensates : Compensates o e) (reference : o.referenceId = toString paymentId)
    (reversal : r ∈ db'.reversals) (paymentId : r.paymentId = paymentId)

/-- Every row of the ledger was there or is new. -/
def RowsTold (db : Db) (op : Operation) (db' : Db) : Prop :=
  ∀ e ∈ db'.ledgerEntries, e ∈ db.ledgerEntries ∨ NewRow db op db' e

variable {env : Env} {db db' : Db} {clock : Int} {op : Operation}

theorem rowsTold_same (h : db'.ledgerEntries = db.ledgerEntries) : RowsTold db op db' :=
  fun _ he => .inl (h ▸ he)

theorem rowsTold_originals {rows : List LedgerEntry}
    (h : db'.ledgerEntries = db.ledgerEntries ++ rows) (hrows : ∀ e ∈ rows, e.reversalOfId = none) :
    RowsTold db op db' := by
  intro e he
  rw [h] at he
  rcases List.mem_append.mp he with he | he
  · exact .inl he
  · exact .inr (.original (hrows e he))

section Settle
variable {c : Confirmation} {s : PaymentSettlement}

/-- A settlement posts originals only. -/
theorem rows_settle {paymentId : Nat} (hs : Sound db)
    (h : settleConfirmedPixPayment env db clock paymentId c = .ok (db', s)) :
    ∃ rows, db'.ledgerEntries = db.ledgerEntries ++ rows ∧ ∀ e ∈ rows, e.reversalOfId = none := by
  obtain ⟨payment, -, -, ⟨-, rfl⟩ | ⟨-, hposted, -, app, happ, hrecord⟩⟩ := settle_cases h
  · exact ⟨[], by simp, by simp⟩
  · obtain ⟨rows, hledger, hkeyed, hrows⟩ : ∃ rows,
        app.db.ledgerEntries = db.ledgerEntries ++ rows ∧
        Keyed LoanInstallment.id app.db.loanInstallments ∧ ∀ e ∈ rows, PaymentRow payment e := by
      rcases applyToObligation_cases happ with ⟨inst, agreement, -, -, -, hbranch⟩ |
        ⟨x, -, hbranch⟩ | ⟨inst, -, -, hbranch⟩
      · obtain ⟨row, _, _, -, -, -, -, hrow, -, -, rfl⟩ := applyToAgreementInstallment_spec hbranch
        exact ⟨[row], rfl, hs.installments, by simpa using hrow⟩
      · obtain ⟨locked, account, rows, hlock, -, hrows, rfl⟩ := applyToContribution_spec hposted hbranch
        obtain ⟨accounts, rfl, -⟩ := lockMemberFinancialAccount_spec hlock
        exact ⟨rows, rfl, hs.installments, hrows.paymentRows⟩
      · obtain ⟨new, happlied, hadditions, -⟩ := installment_applied hs hbranch
        exact ⟨new.rows, happlied.ledger, keyed_of_keys happlied.installments hs.installments,
          fun e he => (hadditions.rows e he).1⟩
    obtain ⟨-, -, -, -, hsame, -⟩ := recordSettlement_money hkeyed hrecord
    exact ⟨rows, hsame.trans hledger, fun e he => (hrows e he).original⟩

theorem rows_approve {paymentId : Nat} {confirmedAt : Option Timestamp} {payload : RemotePayload}
    {result : Option PaymentSettlement} (hs : Sound db)
    (h : approveOrReconcile env db clock paymentId confirmedAt payload = .ok (db', result)) :
    ∃ rows, db'.ledgerEntries = db.ledgerEntries ++ rows ∧ ∀ e ∈ rows, e.reversalOfId = none := by
  obtain ⟨found, hfound, happroval⟩ := approve_cases h
  cases happroval with
  | aside status => exact ⟨[], by simp [Db.putPayment], by simp⟩
  | expired => exact ⟨[], by simp [Db.putPayment], by simp⟩
  | mismatch hquoted =>
    refine ⟨[], ?_, by simp⟩
    rw [Db.putPayment, (hquoted.charges hs).only, List.append_nil]
  | already hquoted =>
    refine ⟨[], ?_, by simp⟩
    rw [Db.putPayment, (hquoted.charges hs).only, List.append_nil]
  | @settled id confirmed charged due snapshot _ s hquoted _ _ hsettle =>
    have hcharged := hquoted.charges hs
    obtain rfl : found.id = paymentId := lookup_key hfound
    have hsound : Sound (charged.putPayment (approvedAttempt (confirmedBy found confirmedAt))) := by
      have hstep : Step (fun p => p.id = found.id) False (fun _ => False) db
          (charged.putPayment (approvedAttempt (confirmedBy found confirmedAt))) :=
        step_chargedPut hs hcharged hfound rfl rfl ⟨fun h => h, fun h => by cases h⟩
      exact hstep.sound hs
    have hsame : (charged.putPayment (approvedAttempt (confirmedBy found confirmedAt))).ledgerEntries =
        db.ledgerEntries := by rw [Db.putPayment, hcharged.only]
    obtain ⟨rows, hledger, hrows⟩ := rows_settle hsound hsettle
    exact ⟨rows, hsame ▸ hledger, hrows⟩

end Settle

section Reverse
variable {payment : Payment} {settlement : PaymentSettlement} {r : PaymentReversal} {adminId : Nat}
  {reason : String} {reversedAt : Int}

/-- Every row is there already or compensates a row of the payment. -/
def Undone (db db' : Db) (paymentId : Nat) : Prop :=
  ∃ rows, db'.ledgerEntries = db.ledgerEntries ++ rows ∧ ∀ e ∈ rows, ∃ o ∈ db.ledgerEntries,
    o.referenceId = toString paymentId ∧ Compensates o e

private theorem undone_agreement {installmentId : Nat} (hs : Sound db)
    (h : reverseAgreementPayment env db clock payment settlement installmentId adminId reason
      reversedAt = .ok (db', r)) : Undone db db' payment.id := by
  obtain ⟨e, agreement, inst, original, x, -, -, horiginal, hx, hwrite⟩ :=
    reverseAgreementPayment_spec hs.ledger h
  obtain ⟨compensating, components, snapshot, -, -, -, -, hc, -, rfl⟩ :=
    writeAgreementReversal_spec hx.id_eq hwrite
  refine ⟨[compensating], rfl, fun e he => ?_⟩
  rw [List.mem_singleton.mp he]
  exact ⟨original, horiginal.mem.1, horiginal.mem.2, hc⟩

private theorem undone_contribution {contributionId : Nat} (hs : Sound db)
    (h : reverseContributionPayment env db clock payment settlement contributionId adminId reason
      reversedAt = .ok (db', r)) : Undone db db' payment.id := by
  obtain ⟨x, locked, account, credit, originals, pairs, components, entries, -, hreversible, -, hfst,
    hall, -, -, rfl⟩ := reverseContributionPayment_spec h
  obtain ⟨accounts, rfl, -⟩ := lockMemberFinancialAccount_spec hreversible.lock
  refine ⟨_, rfl, fun e he => ?_⟩
  obtain ⟨o, ho, hc⟩ := mem_pairs_snd hfst hall he
  have hsound : LedgerSound { db with accounts := db.accounts ++ accounts }.ledgerEntries := hs.ledger
  rcases (findOriginalLedger_eq_ok hsound).mp hreversible.found with ⟨-, rfl, -⟩ | ⟨-, row, rfl, hrow⟩
  · cases ho
  · rw [List.mem_singleton.mp ho] at hc
    exact ⟨row, hrow.mem.1, hrow.mem.2, hc⟩

private theorem undone_loan {installmentId : Nat} (hs : Sound db)
    (hobligation : settlement.obligation = .loanInstallment installmentId)
    (h : reverseLoanPayment env db clock payment settlement installmentId adminId reason
      reversedAt = .ok (db', r)) : Undone db db' payment.id := by
  obtain ⟨e, locked, account, plan, x, -, hlock, hplan, hx, hwrite⟩ := reverseLoanPayment_spec h
  obtain ⟨accounts, rfl, -⟩ := lockMemberFinancialAccount_spec hlock
  obtain rfl : plan.inst.id = installmentId := lookup_key hplan.installment
  have hkeyed : Keyed LoanInstallment.id
      { db with accounts := db.accounts ++ accounts }.loanInstallments := hs.installments
  obtain ⟨pairs, components, entries, adjusted, snapshot, -, -, -, -, hfst, hall, -, -, -, -, rfl⟩ :=
    writeLoanReversal_spec hkeyed hx.id_eq hobligation hwrite
  refine ⟨_, rfl, fun e he => ?_⟩
  obtain ⟨o, ho, hc⟩ := mem_pairs_snd hfst hall he
  obtain ⟨interest, penalty, hsplit, hinterest, hpenalty⟩ := hplan.ledger
  rw [hsplit] at ho
  rcases List.mem_append.mp ho with ho | ho
  · obtain ⟨hmem, href, -⟩ := hinterest.mem o ho
    exact ⟨o, hmem, href, hc⟩
  · obtain ⟨hmem, href, -⟩ := hpenalty.mem o ho
    exact ⟨o, hmem, href, hc⟩

/-- A payment reversal adds compensations of rows of the payment, and its own row. -/
theorem rows_reverse {paymentId : Nat} {now : Option Timestamp} (hs : Sound db)
    (h : reversePayment env db clock paymentId adminId reason now = .ok (db', r)) :
    RowsTold db (.reverse paymentId adminId reason now) db' := by
  obtain ⟨payment, -, hid, ⟨-, rfl⟩ | ⟨-, -, settlement, new, -, hgrows, hnew, hreversal, -⟩⟩ :=
    reverse_effect hs h
  · exact rowsTold_same rfl
  obtain ⟨payment', -, hid', ⟨hfound, rfl⟩ | ⟨-, -, settlement', hsettlement, hbranch⟩⟩ := reverse_cases h
  · exact rowsTold_same rfl
  have hundone : Undone db db' paymentId := by
    rw [← hid']
    unfold reverseObligation at hbranch
    split at hbranch
    · rename_i hobligation
      exact undone_loan hs hobligation hbranch
    · exact undone_agreement hs hbranch
    · exact undone_contribution hs hbranch
  have hmem : r ∈ db'.reversals := by
    rw [hgrows.reversals, hnew]
    exact List.mem_append_right _ (List.mem_singleton_self r)
  obtain ⟨rows, hledger, hrows⟩ := hundone
  intro e he
  rw [hledger] at he
  rcases List.mem_append.mp he with he | he
  · exact .inl he
  · obtain ⟨o, ho, href, hc⟩ := hrows e he
    exact .inr (.undone rfl ho hc href hmem (hreversal.paymentId.trans hid))

end Reverse

section Others

theorem rows_ledgerReverse {entryId : Nat} {reason : String}
    (h : ledgerReverse env db clock entryId reason = .ok db') :
    RowsTold db (.ledgerReverse entryId reason) db' := by
  unfold ledgerReverse reverseEntry at h
  simp only [bind_eq_ok, pure_eq_ok, orRefuse_eq_ok, refuseIf_eq_ok, Prod.exists, exists_and_left,
    exists_const] at h
  obtain ⟨original, horiginal, posted, e, ⟨-, hguard, hpost⟩, rfl⟩ := h
  obtain ⟨rfl, -, hc⟩ := compensates_of_postEntry hpost
  intro x hx
  rcases List.mem_append.mp hx with hx | hx
  · exact .inl hx
  · rw [List.mem_singleton.mp hx]
    refine .inr (.direct (lookup_mem horiginal) hc fun s hs htype href => hguard ⟨htype, ?_⟩)
    exact List.any_eq_true.mpr ⟨s, hs, by simpa using href.symm⟩

theorem rows_releaseLoan {loanId : Nat} {released : Bool}
    (h : releaseLoan env db clock loanId = .ok (db', released)) :
    ∃ rows, db'.ledgerEntries = db.ledgerEntries ++ rows ∧ ∀ e ∈ rows, e.reversalOfId = none := by
  unfold releaseLoan at h
  simp only [bind_eq_ok, orRefuse_eq_ok, Prod.exists] at h
  obtain ⟨loan, hloan, locked, account, hlock, h⟩ := h
  obtain ⟨accounts, rfl, -⟩ := lockMemberFinancialAccount_spec hlock
  split at h
  · split at h
    · rw [pure_eq_ok, Prod.mk.injEq] at h
      obtain ⟨rfl, -⟩ := h
      exact ⟨[], by simp, by simp⟩
    · rw [pure_eq_ok, Prod.mk.injEq] at h
      obtain ⟨rfl, -⟩ := h
      exact ⟨[], by simp [Db.putLoan], by simp⟩
  · simp only [bind_eq_ok, pure_eq_ok, refuseIf_eq_ok, Prod.exists, Prod.mk.injEq, exists_and_left,
      exists_const] at h
    obtain ⟨-, posted, e, hpost, committed, hcommit, rfl, -⟩ := h
    obtain ⟨rfl, -, -, -, -, -, -, horiginal⟩ := postEntry_spec hpost
    have hsame : committed.ledgerEntries = db.ledgerEntries ++ [e] := by
      unfold commitPrincipal at hcommit
      split at hcommit
      · rw [pure_eq_ok] at hcommit
        rw [← hcommit]
      · simp only [bind_eq_ok, pure_eq_ok, Prod.exists] at hcommit
        obtain ⟨added, entry, hadd, rfl⟩ := hcommit
        rw [(addMemberFinancialEntry_spec hadd).1]
    refine ⟨[e], hsame, fun x hx => ?_⟩
    rw [List.mem_singleton.mp hx, horiginal]
    rfl

theorem rows_createExpense {amount : Int} (h : createExpense env db clock amount = .ok db') :
    ∃ rows, db'.ledgerEntries = db.ledgerEntries ++ rows ∧ ∀ e ∈ rows, e.reversalOfId = none := by
  unfold createExpense at h
  simp only [bind_eq_ok, pure_eq_ok, Prod.exists] at h
  obtain ⟨posted, e, hpost, rfl⟩ := h
  obtain ⟨rfl, -, -, -, -, -, -, horiginal⟩ := postEntry_spec hpost
  refine ⟨[e], rfl, fun x hx => ?_⟩
  rw [List.mem_singleton.mp hx, horiginal]

theorem rows_settleWithOwnBalance {loanId : Nat} {financialAt : Option Timestamp}
    {result : OwnBalanceResult}
    (h : settleLoanWithOwnBalance db clock loanId financialAt = .ok (db', result)) :
    db'.ledgerEntries = db.ledgerEntries := by
  unfold settleLoanWithOwnBalance at h
  simp only [bind_eq_ok, refuseIf_eq_ok, orRefuse_eq_ok, Prod.exists, exists_and_left,
    exists_const] at h
  obtain ⟨-, loan, hloan, locked, account, hlock, h⟩ := h
  obtain ⟨accounts, rfl, -⟩ := lockMemberFinancialAccount_spec hlock
  split at h
  · rw [pure_eq_ok, Prod.mk.injEq] at h
    rw [← h.1]
  · simp only [bind_eq_ok, pure_eq_ok, refuseIf_eq_ok, Prod.exists, Prod.mk.injEq, exists_and_left,
      exists_const] at h
    obtain ⟨-, -, -, quote, -, -, -, -, credited, e, hadd, rfl, -⟩ := h
    obtain ⟨rfl, -⟩ := addMemberFinancialEntry_spec hadd
    rfl

theorem rows_renegotiateWithOwnBalance {loanId : Nat} {amount : Int} {result : OwnBalanceResult}
    (h : renegotiateLoanWithOwnBalance db clock loanId amount = .ok (db', result)) :
    db'.ledgerEntries = db.ledgerEntries := by
  unfold renegotiateLoanWithOwnBalance at h
  simp only [bind_eq_ok, refuseIf_eq_ok, orRefuse_eq_ok, Prod.exists, exists_and_left,
    exists_const] at h
  obtain ⟨loan, hloan, locked, account, hlock, -, -, h⟩ := h
  obtain ⟨accounts, rfl, -⟩ := lockMemberFinancialAccount_spec hlock
  split at h
  · rw [pure_eq_ok, Prod.mk.injEq] at h
    rw [← h.1]
  · simp only [bind_eq_ok, pure_eq_ok, refuseIf_eq_ok, Prod.exists, Prod.mk.injEq, exists_and_left,
      exists_const] at h
    obtain ⟨-, -, -, credited, e, hadd, rfl, -⟩ := h
    obtain ⟨rfl, -⟩ := addMemberFinancialEntry_spec hadd
    rfl

theorem rows_reserve {installmentId : Nat} {now : Option Timestamp} {reservation : Reservation}
    (hs : Sound db) (h : reserve env db clock installmentId now = .ok reservation) :
    reservation.db.ledgerEntries = db.ledgerEntries := by
  unfold reserve at h
  simp only [bind_eq_ok, refuseIf_eq_ok, lockInstallment, orRefuse_eq_ok, Prod.exists,
    exists_and_left, exists_const] at h
  obtain ⟨inst, hinst, -, charged, due, snapshot, hsnapshot, -, h⟩ := h
  have hsame : charged.ledgerEntries = db.ledgerEntries := by
    rw [(charged_attemptSnapshot hs hsnapshot).only]
  have hinsert : ∀ (x : Db) (attempt : Payment),
      (insertAttempt x installmentId attempt).db.ledgerEntries = x.ledgerEntries := by
    intro x attempt
    unfold insertAttempt
    split <;> rfl
  split at h
  · rw [pure_eq_ok] at h
    rw [← h, hinsert, hsame]
  · simp only [bind_eq_ok] at h
    obtain ⟨decision, -, h⟩ := h
    split at h
    · rw [pure_eq_ok] at h
      rw [← h, hsame]
    · simp only [bind_eq_ok, pure_eq_ok] at h
      obtain ⟨retired, -, rfl⟩ := h
      rw [hinsert, Db.putPayment, hsame]

end Others

/-- Where the rows an operation leaves come from. -/
theorem rows_attempt (hs : Sound db) (h : attempt env db clock op = .ok db') : RowsTold db op db' := by
  have horiginals : (∃ rows, db'.ledgerEntries = db.ledgerEntries ++ rows ∧
      ∀ e ∈ rows, e.reversalOfId = none) → RowsTold db op db' := by
    rintro ⟨rows, hledger, hrows⟩
    exact rowsTold_originals hledger hrows
  cases op with
  | settle paymentId c =>
    obtain ⟨⟨final, s⟩, hsettle, rfl⟩ := map_eq_ok.mp h
    exact horiginals (rows_settle hs hsettle)
  | reverse paymentId adminId reason now =>
    obtain ⟨⟨final, r⟩, hreverse, rfl⟩ := map_eq_ok.mp h
    exact rows_reverse hs hreverse
  | evidence paymentId status received =>
    obtain rfl := Except.ok.inj h
    refine rowsTold_same ?_
    unfold keepEvidence
    split <;> rfl
  | cancel contributionId reason =>
    obtain rfl := Except.ok.inj h
    refine rowsTold_same ?_
    unfold cancelContribution
    split
    · rfl
    · split <;> rfl
  | reserve installmentId now =>
    obtain ⟨reservation, hreserve, rfl⟩ := map_eq_ok.mp h
    exact rowsTold_same (rows_reserve hs hreserve)
  | bindProvider attemptId result =>
    obtain rfl := Except.ok.inj h
    refine rowsTold_same ?_
    unfold bindProvider
    split
    · rfl
    · split <;> rfl
  | markAmbiguous attemptId =>
    obtain rfl := Except.ok.inj h
    refine rowsTold_same ?_
    unfold markAmbiguous
    split
    · rfl
    · split <;> rfl
  | approve paymentId confirmedAt payload =>
    obtain ⟨⟨final, result⟩, happrove, rfl⟩ := map_eq_ok.mp h
    exact horiginals (rows_approve hs happrove)
  | settleWithOwnBalance loanId financialAt =>
    obtain ⟨⟨final, result⟩, hsettle, rfl⟩ := map_eq_ok.mp h
    exact rowsTold_same (rows_settleWithOwnBalance hsettle)
  | renegotiateWithOwnBalance loanId amount =>
    obtain ⟨⟨final, result⟩, hrenegotiate, rfl⟩ := map_eq_ok.mp h
    exact rowsTold_same (rows_renegotiateWithOwnBalance hrenegotiate)
  | releaseLoan loanId =>
    obtain ⟨⟨final, released⟩, hrelease, rfl⟩ := map_eq_ok.mp h
    exact horiginals (rows_releaseLoan hrelease)
  | expense amount => exact horiginals (rows_createExpense h)
  | ledgerReverse entryId reason => exact rows_ledgerReverse h

end Caixinha.Effects
