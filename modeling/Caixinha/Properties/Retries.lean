import Caixinha.Effects.Operations

/-! Retries: the books only grow, and what was settled or reversed once is answered the same ever
after. -/
namespace Caixinha.Properties.Retries

open Caixinha.Library Caixinha.Library.Table Fallible Caixinha.Model Caixinha.Effects

variable {env : Env} {db db' : Db} {clock : Int} {paymentId : Nat} {s : PaymentSettlement}
  {r : PaymentReversal}

/-- The books of a database are a beginning of those of a later one. -/
structure BooksGrown (db db' : Db) : Prop where
  ledger : db.ledgerEntries <+: db'.ledgerEntries
  entries : db.memberEntries <+: db'.memberEntries
  settlements : db.settlements <+: db'.settlements
  reversals : db.reversals <+: db'.reversals
  payments : ∀ id, (db.payment? id).isSome → (db'.payment? id).isSome

theorem BooksGrown.refl (db : Db) : BooksGrown db db :=
  ⟨List.prefix_refl _, List.prefix_refl _, List.prefix_refl _, List.prefix_refl _, fun _ h => h⟩

theorem BooksGrown.trans {db'' : Db} (h : BooksGrown db db') (h' : BooksGrown db' db'') :
    BooksGrown db db'' :=
  ⟨h.ledger.trans h'.ledger, h.entries.trans h'.entries, h.settlements.trans h'.settlements,
    h.reversals.trans h'.reversals, fun id hid => h'.payments id (h.payments id hid)⟩

theorem BooksGrown.of_grows {acted : Payment → Prop} {new : Additions} (h : Grows acted db db' new) :
    BooksGrown db db' := by
  refine ⟨?_, ?_, ?_, ?_, fun id hid => ?_⟩
  · rw [h.ledger]
    exact List.prefix_append _ _
  · rw [h.entries]
    exact List.prefix_append _ _
  · rw [h.settlements]
    exact List.prefix_append _ _
  · rw [h.reversals]
    exact List.prefix_append _ _
  · obtain ⟨p, hp⟩ := Option.isSome_iff_exists.mp hid
    obtain ⟨q, hq, -⟩ := h.payments.lookup hp
    exact Option.isSome_iff_exists.mpr ⟨q, hq⟩

/-- No operation takes back or rewrites what the books hold. -/
theorem booksGrown_run (hs : Sound db) (ops : List (Int × Operation)) :
    Sound (run env db ops) ∧ BooksGrown db (run env db ops) := by
  refine run_keeps ops ?_ hs (.refl db)
  intro x _ _ op _ y z _ hgrown hstep
  obtain ⟨new, hgrows⟩ := hstep.grows
  exact hgrown.trans (.of_grows hgrows)

private theorem find?_of_grown {α : Type} {p : α → Bool} {xs ys : List α} {a : α} (h : xs <+: ys)
    (hfind : xs.find? p = some a) : ys.find? p = some a := by
  obtain ⟨rest, rfl⟩ := h
  rw [List.find?_append, hfind]
  rfl

section Settled

/-- A settlement that succeeded is found from then on. -/
private theorem found_of_settled {c : Confirmation} (hs : Sound db)
    (h : settleConfirmedPixPayment env db clock paymentId c = .ok (db', s)) :
    Sound db' ∧ (db'.payment? paymentId).isSome ∧ db'.settlementOfPayment? paymentId = some s := by
  have hstep : Step (fun p => p.id = paymentId) False (fun _ => True) db db' :=
    step_settle hs h fun _ _ => trivial
  have hsound : Sound db' := hstep.sound hs
  obtain ⟨payment, hpayment, rfl, ⟨hfound, rfl⟩ | ⟨-, -, new, hgrows, hnew, hid, -⟩⟩ := settle_effect hs h
  · exact ⟨hsound, by rw [hpayment]; rfl, hfound⟩
  · refine ⟨hsound, (BooksGrown.of_grows hgrows).payments _ (by rw [hpayment]; rfl), ?_⟩
    have hmem : s ∈ db'.settlements := by
      rw [hgrows.settlements, hnew]
      exact List.mem_append_right _ (List.mem_singleton_self s)
    rw [← hid]
    exact lookup_of_mem hsound.settledOnce hmem

/-- A reversal that succeeded is found from then on. -/
private theorem found_of_reversed {adminId : Nat} {reason : String} {now : Option Timestamp} (hs : Sound db)
    (h : reversePayment env db clock paymentId adminId reason now = .ok (db', r)) :
    Sound db' ∧ (db'.payment? paymentId).isSome ∧ db'.reversalOfPayment? paymentId = some r := by
  have hsound : Sound db' := (step_reverse hs h).sound hs
  obtain ⟨payment, hpayment, rfl, ⟨hfound, rfl⟩ | ⟨-, -, settlement, new, -, hgrows, hnew, hreversal, -⟩⟩ :=
    reverse_effect hs h
  · exact ⟨hsound, by rw [hpayment]; rfl, hfound⟩
  · refine ⟨hsound, (BooksGrown.of_grows hgrows).payments _ (by rw [hpayment]; rfl), ?_⟩
    have hmem : r ∈ db'.reversals := by
      rw [hgrows.reversals, hnew]
      exact List.mem_append_right _ (List.mem_singleton_self r)
    rw [← hreversal.paymentId]
    exact lookup_of_mem hsound.reversedOnce hmem

end Settled

section Answers

private theorem settle_answers {c : Confirmation} (hsource : c.source ≠ "")
    (hpayment : (db.payment? paymentId).isSome) (hfound : db.settlementOfPayment? paymentId = some s) :
    settleConfirmedPixPayment env db clock paymentId c = .ok (db, s) := by
  obtain ⟨payment, hp⟩ := Option.isSome_iff_exists.mp hpayment
  have hid : payment.id = paymentId := lookup_key hp
  unfold settleConfirmedPixPayment
  rw [← hid] at hfound
  simp only [refuseIf, hsource, if_false, hp, orRefuse, ok_bind, hfound]
  rfl

private theorem reverse_answers {adminId : Nat} {reason : String} {now : Option Timestamp}
    (hreason : ¬ shortReason reason) (hnow : ∀ t, now = some t → t.aware)
    (hpayment : (db.payment? paymentId).isSome) (hfound : db.reversalOfPayment? paymentId = some r) :
    reversePayment env db clock paymentId adminId reason now = .ok (db, r) := by
  obtain ⟨payment, hp⟩ := Option.isSome_iff_exists.mp hpayment
  have hid : payment.id = paymentId := lookup_key hp
  have haware : ¬ (now.any (fun t => ¬ t.aware)) = true := by
    rw [Option.any_eq_true]
    rintro ⟨t, ht, hnot⟩
    exact (of_decide_eq_true hnot) (hnow t ht)
  unfold reversePayment
  rw [← hid] at hfound
  simp only [refuseIf, hreason, haware, if_false, hp, orRefuse, ok_bind, hfound]
  rfl

end Answers

/-- Once a payment was settled, settling it again at any later time, whatever ran in between, answers with
the same settlement and changes nothing. -/
theorem settled_for_good {c c' : Confirmation} {clock' : Int} (hs : Sound db)
    (h : settleConfirmedPixPayment env db clock paymentId c = .ok (db', s)) (ops : List (Int × Operation))
    (hsource : c'.source ≠ "") :
    settleConfirmedPixPayment env (run env db' ops) clock' paymentId c' = .ok (run env db' ops, s) := by
  obtain ⟨hsound, hpayment, hfound⟩ := found_of_settled hs h
  obtain ⟨-, hgrown⟩ := @booksGrown_run env _ hsound ops
  exact settle_answers hsource (hgrown.payments _ hpayment) (find?_of_grown hgrown.settlements hfound)

/-- Once a payment was reversed, reversing it again at any later time, by anybody and whatever ran in
between, answers with the same reversal and changes nothing. -/
theorem reversed_for_good {adminId adminId' : Nat} {reason reason' : String} {now now' : Option Timestamp}
    {clock' : Int} (hs : Sound db)
    (h : reversePayment env db clock paymentId adminId reason now = .ok (db', r))
    (ops : List (Int × Operation)) (hreason : ¬ shortReason reason') (hnow : ∀ t, now' = some t → t.aware) :
    reversePayment env (run env db' ops) clock' paymentId adminId' reason' now' = .ok (run env db' ops, r) := by
  obtain ⟨hsound, hpayment, hfound⟩ := found_of_reversed hs h
  obtain ⟨-, hgrown⟩ := @booksGrown_run env _ hsound ops
  exact reverse_answers hreason hnow (hgrown.payments _ hpayment) (find?_of_grown hgrown.reversals hfound)

section Samples

private def sampleContribution : Contribution where
  id := 1
  memberId := 1
  competence := 20000
  amount := 10000
  status := .PENDING
  paymentId := none
  dueDate := some 20000
  paidAmount := some 0
  paidAt := none
  cancelledAt := none
  cancellationReason := none

private def samplePayment : Payment where
  id := 1
  provider := "mercado_pago"
  providerOrderId := none
  providerPaymentId := none
  amount := 10000
  status := "approved"
  externalReference := none
  pixTxid := none
  endToEndId := none
  providerStatusDetail := none
  confirmedAt := none
  expiresAt := none
  amountReceived := none
  ledgerPostedAt := none
  reference := some (.contribution 1)
  attemptStatus := none
  calculatedForDate := none
  financialSnapshotJson := none
  snapshotHash := none
  reconciliationStatus := none

private def sampleDb : Db where
  users := [{ id := 7, isActive := true, isAdmin := true, isMaster := true }]
  members := [{ id := 1 }]
  contributions := [sampleContribution]
  payments := [samplePayment]

private def sampleEnv : Env where
  sha256 := fun text => text
  lateChargeEffectiveDate := none

private theorem sound_sampleDb : Sound sampleDb := by
  constructor <;> first | decide | (constructor <;> decide)

/-- A confirmation told again after its payment was reversed. -/
theorem sample_settled_for_good : ∃ settled s,
    settleConfirmedPixPayment sampleEnv sampleDb 0 1 { source := "webhook" } = .ok (settled, s) ∧
      settleConfirmedPixPayment sampleEnv (run sampleEnv settled [(5, .reverse 1 7 "wrong payer" none)]) 9 1
        { source := "WEBHOOK" } = .ok (run sampleEnv settled [(5, .reverse 1 7 "wrong payer" none)], s) := by
  obtain ⟨settled, s, hsettle⟩ : ∃ settled s,
      settleConfirmedPixPayment sampleEnv sampleDb 0 1 { source := "webhook" } = .ok (settled, s) :=
    ⟨_, _, rfl⟩
  exact ⟨settled, s, hsettle, settled_for_good sound_sampleDb hsettle _ (by decide)⟩

/-- A reversal asked for again, with another reason. -/
theorem sample_reversed_for_good : ∃ settled s reversed r,
    settleConfirmedPixPayment sampleEnv sampleDb 0 1 { source := "webhook" } = .ok (settled, s) ∧
      reversePayment sampleEnv settled 5 1 7 "wrong payer" none = .ok (reversed, r) ∧
      reversePayment sampleEnv (run sampleEnv reversed [(6, .expense 100)]) 9 1 8 "told twice" none =
        .ok (run sampleEnv reversed [(6, .expense 100)], r) := by
  obtain ⟨settled, s, hsettle, reversed, r, hreverse⟩ : ∃ settled s,
      settleConfirmedPixPayment sampleEnv sampleDb 0 1 { source := "webhook" } = .ok (settled, s) ∧
      ∃ reversed r, reversePayment sampleEnv settled 5 1 7 "wrong payer" none = .ok (reversed, r) :=
    ⟨_, _, rfl, _, _, rfl⟩
  have hsound : Sound settled := (found_of_settled sound_sampleDb hsettle).1
  exact ⟨settled, s, reversed, r, hsettle, hreverse,
    reversed_for_good hsound hreverse _ (by decide) (by simp)⟩

end Samples

end Caixinha.Properties.Retries
