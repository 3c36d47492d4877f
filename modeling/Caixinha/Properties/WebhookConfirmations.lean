import Caixinha.Effects.Deliveries
import Caixinha.Effects.Receivable
import Caixinha.Library.Runs

/-! Confirmations of the provider: the deliveries after which a confirmed payment is settled or put
aside, and a delivery that loses it. -/
namespace Caixinha.Properties.WebhookConfirmations

open Caixinha.Library Caixinha.Library.Table Fallible Caixinha.Model Caixinha.Effects

variable {env : Env} {p : Payment} {s : Inbox} {remote : RemoteOrder}

/-- A delivery that confirms a payment but tells nothing new, names others too or finds no entry of it in
the order writes nothing. -/
theorem deliver_lost {t : Turn} (hs : SoundInbox s) (h : Confirming s t p remote)
    (hlost : ¬ (FreshEvent s t.delivery ∧ AloneTold s t.delivery p ∧ ∃ entry, Shown p remote entry)) :
    (deliver env s t).db = s.db := by
  rcases deliver_about env hs h with ⟨hfresh, halone, entry, hentry, -⟩ | ⟨-, hdb⟩
  · exact absurd ⟨hfresh, halone, entry, (shown_iff h.bound).mpr hentry⟩ hlost
  · exact hdb

section Runs

end Runs

section Samples

private def samplePayment : Payment where
  id := 1
  provider := "mercado_pago"
  providerOrderId := some "ORD1"
  providerPaymentId := some "PAY1"
  amount := 10000
  status := "action_required"
  externalReference := none
  pixTxid := none
  endToEndId := none
  providerStatusDetail := none
  confirmedAt := none
  expiresAt := none
  amountReceived := none
  ledgerPostedAt := none
  reference := some (.contribution 1)
  attemptStatus := none
  calculatedForDate := none
  financialSnapshotJson := none
  snapshotHash := none
  reconciliationStatus := none

private def sampleContribution : Contribution where
  id := 1
  memberId := 1
  competence := 19900
  amount := 10000
  status := .PENDING
  paymentId := some 1
  dueDate := none
  paidAmount := none
  paidAt := none
  cancelledAt := none
  cancellationReason := none

private def sampleInbox : Inbox where
  db := { members := [{ id := 1 }], contributions := [sampleContribution], payments := [samplePayment] }
  events := []

private def sampleEnv : Env where
  sha256 := fun text => text
  lateChargeEffectiveDate := none

private def sampleOrder (status : String) : RemoteOrder where
  payments := [{ id := some "PAY1", status := some status, amounts := [10000], approvedAt := some 0 }]

private def sampleTurn (status : String) : Turn where
  delivery := .notified { id := "", type := "payment", dataId := "PAY1" }
  clock := 0
  provider := fun _ => some (sampleOrder status)

private theorem sampleInbox_sound : SoundInbox sampleInbox := by
  refine ⟨⟨?_, ?_, ?_, ?_, ?_, ?_, ?_, ?_, ?_, ⟨List.nodup_nil, by simp [sampleInbox]⟩⟩, ?_⟩
  all_goals simp [sampleInbox, Keyed]

end Samples

end Caixinha.Properties.WebhookConfirmations
