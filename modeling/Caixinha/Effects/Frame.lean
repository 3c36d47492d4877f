import Caixinha.Effects.Agreements
import Caixinha.Effects.Loans

/-! What no operation takes back: rows are only added, and what identifies them stays. -/
namespace Caixinha.Effects

open Caixinha.Library Caixinha.Library.Table Fallible Caixinha.Model

/-- A payment only moves on: a posted one stays posted, and none becomes pending. -/
structure Onward (x y : Payment) : Prop where
  posted : x.ledgerPostedAt.isSome → y.ledgerPostedAt.isSome
  pending : y.attemptStatus = some .PENDING → x.attemptStatus = some .PENDING

theorem Onward.refl (x : Payment) : Onward x x := ⟨id, id⟩

/-- A payment keeps its id and what it refers to and moves on; one that is not acted on stays as it
is. -/
def SamePayment (acted : Payment → Prop) (x y : Payment) : Prop :=
  y.id = x.id ∧ y.reference = x.reference ∧ (¬ acted x → y = x) ∧ Onward x y

theorem SamePayment.refl (acted : Payment → Prop) (x : Payment) : SamePayment acted x x :=
  ⟨rfl, rfl, fun _ => rfl, Onward.refl x⟩

/-- The payments after an operation: the old ones, and at most one new attempt to charge an
installment. -/
inductive PaymentsKept (acted : Payment → Prop) (payments : List Payment) : List Payment → Prop where
  | same {kept} (h : List.Forall₂ (SamePayment acted) payments kept) : PaymentsKept acted payments kept
  | reserved {kept p id} (h : List.Forall₂ (SamePayment acted) payments kept)
    (new : p.id = nextKey Payment.id payments) (reference : p.reference = some (.loanInstallment id)) :
    PaymentsKept acted payments (kept ++ [p])

section Payments
variable {acted : Payment → Prop} {payments payments' : List Payment} {p x : Payment} {k : Nat}

theorem forall₂_samePayment_refl (acted : Payment → Prop) (payments : List Payment) :
    List.Forall₂ (SamePayment acted) payments payments :=
  List.forall₂_same.mpr fun x _ => SamePayment.refl acted x

theorem PaymentsKept.refl (acted : Payment → Prop) (payments : List Payment) :
    PaymentsKept acted payments payments := .same (forall₂_samePayment_refl acted payments)

theorem forall₂_replace_payment (hkeyed : Keyed Payment.id payments)
    (hx : lookup Payment.id payments p.id = some x) (href : p.reference = x.reference)
    (honward : Onward x p) (hacted : acted x) :
    List.Forall₂ (SamePayment acted) payments (replace Payment.id payments p) :=
  forall₂_replace (SamePayment.refl acted) hkeyed hx
    ⟨(lookup_key hx).symm, href, fun hnot => absurd hacted hnot, honward⟩

theorem PaymentsKept.replace (hkeyed : Keyed Payment.id payments)
    (hx : lookup Payment.id payments p.id = some x) (href : p.reference = x.reference)
    (honward : Onward x p) (hacted : acted x) :
    PaymentsKept acted payments (replace Payment.id payments p) :=
  .same (forall₂_replace_payment hkeyed hx href honward hacted)

private theorem keys_of_forall₂ (h : List.Forall₂ (SamePayment acted) payments payments') :
    payments'.map Payment.id = payments.map Payment.id := by
  induction h with
  | nil => rfl
  | cons hxy _ ih => rw [List.map_cons, List.map_cons, ih, hxy.1]

theorem PaymentsKept.keyed (h : PaymentsKept acted payments payments')
    (hkeyed : Keyed Payment.id payments) : Keyed Payment.id payments' := by
  cases h with
  | same h => exact keyed_of_keys (keys_of_forall₂ h) hkeyed
  | reserved h hnew =>
    have hkeys := keys_of_forall₂ h
    exact keyed_append (keyed_of_keys hkeys hkeyed) (hnew.trans (nextKey_of_keys hkeys).symm)

/-- Every payment is still there. -/
theorem PaymentsKept.forward (h : PaymentsKept acted payments payments') (hp : p ∈ payments) :
    ∃ q ∈ payments', SamePayment acted p q := by
  have hkept : ∀ {kept : List Payment}, List.Forall₂ (SamePayment acted) payments kept →
      ∃ q ∈ kept, SamePayment acted p q := by
    intro kept hall
    obtain ⟨i, hi, rfl⟩ := List.mem_iff_getElem.mp hp
    have hlen := hall.length_eq
    exact ⟨kept[i], List.getElem_mem _, hall.get hi (hlen ▸ hi)⟩
  cases h with
  | same hall => exact hkept hall
  | reserved hall =>
    obtain ⟨q, hq, hsame⟩ := hkept hall
    exact ⟨q, List.mem_append_left _ hq, hsame⟩

/-- Every payment was there, or is a new attempt to charge an installment. -/
theorem PaymentsKept.backward (h : PaymentsKept acted payments payments') (hp : p ∈ payments') :
    (∃ q ∈ payments, SamePayment acted q p) ∨
      (p.id = nextKey Payment.id payments ∧ ∃ id, p.reference = some (.loanInstallment id)) := by
  have hkept : ∀ {kept : List Payment}, List.Forall₂ (SamePayment acted) payments kept → p ∈ kept →
      ∃ q ∈ payments, SamePayment acted q p := by
    intro kept hall hmem
    obtain ⟨i, hi, rfl⟩ := List.mem_iff_getElem.mp hmem
    have hlen := hall.length_eq
    exact ⟨payments[i], List.getElem_mem _, hall.get (hlen.symm ▸ hi) hi⟩
  cases h with
  | same hall => exact .inl (hkept hall hp)
  | reserved hall hnew href =>
    rcases List.mem_append.mp hp with hp | hp
    · exact .inl (hkept hall hp)
    · rw [List.mem_singleton] at hp
      subst hp
      exact .inr ⟨hnew, _, href⟩

theorem PaymentsKept.lookup (h : PaymentsKept acted payments payments')
    (hp : lookup Payment.id payments k = some p) :
    ∃ q, lookup Payment.id payments' k = some q ∧ SamePayment acted p q := by
  have hkept : ∀ {kept : List Payment}, List.Forall₂ (SamePayment acted) payments kept →
      ∃ q, Table.lookup Payment.id kept k = some q ∧ SamePayment acted p q := by
    intro kept hall
    have hrel := lookup_forall₂ hall (fun _ _ hxy => hxy.1) k
    rw [hp] at hrel
    cases hq : Table.lookup Payment.id kept k with
    | none => rw [hq] at hrel; cases hrel
    | some q =>
      rw [hq] at hrel
      cases hrel with
      | some hsame => exact ⟨q, rfl, hsame⟩
  cases h with
  | same hall => exact hkept hall
  | reserved hall =>
    obtain ⟨q, hq, hsame⟩ := hkept hall
    exact ⟨q, lookup_append_of_some hq, hsame⟩

end Payments

/-- The rows an operation adds. -/
structure Additions where
  accounts : List MemberFinancialAccount := []
  entries : List MemberFinancialEntry := []
  rows : List LedgerEntry := []
  settlements : List PaymentSettlement := []
  reversals : List PaymentReversal := []

/-- A settlement a payment gets next: it has none. -/
structure NextSettlement (db : Db) (s : PaymentSettlement) : Prop where
  id_eq : s.id = nextKey PaymentSettlement.id db.settlements
  unsettled : db.settlementOfPayment? s.paymentId = none

/-- A reversal a settlement gets next: neither it nor its payment has one. -/
structure NextReversal (db : Db) (r : PaymentReversal) : Prop where
  id_eq : r.id = nextKey PaymentReversal.id db.reversals
  settled : ∃ s ∈ db.settlements, s.id = r.settlementId ∧ s.paymentId = r.paymentId
  firstPayment : ∀ x ∈ db.reversals, x.paymentId ≠ r.paymentId
  firstSettlement : ∀ x ∈ db.reversals, x.settlementId ≠ r.settlementId

/-- The kinds of rows that only settling a payment posts. -/
def isPaymentComponent : LedgerReferenceType → Bool
  | .CONTRIBUTION_PAYMENT | .AGREEMENT_INSTALLMENT_PAYMENT | .LOAN_INTEREST_PAYMENT
  | .LOAN_PENALTY_PAYMENT | .LOAN_INSTALLMENT_PAYMENT => true
  | .LOAN_DISBURSEMENT | .EXPENSE | .REVERSAL => false

/-- The components of payments among the rows, and the loan principal among the entries, are of the
payment whose settlement is added with them. -/
structure OfSettlement (new : Additions) : Prop where
  rows : ∀ e ∈ new.rows, isPaymentComponent e.referenceType →
    ∃ s ∈ new.settlements, e.referenceId = toString s.paymentId
  entries : ∀ e ∈ new.entries, e.referenceType = some .LOAN_PRINCIPAL_PAYMENT →
    ∃ s ∈ new.settlements, e.referenceId = some (toString s.paymentId)

theorem OfSettlement.aside {new : Additions}
    (hrows : ∀ e ∈ new.rows, isPaymentComponent e.referenceType = false)
    (hentries : ∀ e ∈ new.entries, e.referenceType ≠ some .LOAN_PRINCIPAL_PAYMENT) :
    OfSettlement new := by
  refine ⟨fun e he hcomponent => ?_, fun e he hprincipal => absurd hprincipal (hentries e he)⟩
  rw [hrows e he] at hcomponent
  cases hcomponent

/-- An operation that acted on the payments `acted` and added the rows `new`. -/
structure Grows (acted : Payment → Prop) (db db' : Db) (new : Additions) : Prop where
  users : db'.users = db.users
  members : db'.members = db.members
  contributions : db'.contributions.map Contribution.id = db.contributions.map Contribution.id
  installments : db'.loanInstallments.map LoanInstallment.id =
    db.loanInstallments.map LoanInstallment.id
  payments : PaymentsKept acted db.payments db'.payments
  accounts : db'.accounts = db.accounts ++ new.accounts
  entries : db'.memberEntries = db.memberEntries ++ new.entries
  ledger : db'.ledgerEntries = db.ledgerEntries ++ new.rows
  postings : Postings db.ledgerEntries new.rows
  settlements : db'.settlements = db.settlements ++ new.settlements
  settlement : ∀ s ∈ new.settlements, new.settlements = [s] ∧ NextSettlement db s
  reversals : db'.reversals = db.reversals ++ new.reversals
  reversal : ∀ r ∈ new.reversals, new.reversals = [r] ∧ NextReversal db r
  own : OfSettlement new

/-- The keys of the tables are unique, a payment is settled once and reversed once, and every
reversal is of a settlement. -/
structure Sound (db : Db) : Prop where
  payments : Keyed Payment.id db.payments
  contributions : Keyed Contribution.id db.contributions
  installments : Keyed LoanInstallment.id db.loanInstallments
  settlements : Keyed PaymentSettlement.id db.settlements
  settledOnce : Keyed PaymentSettlement.paymentId db.settlements
  reversals : Keyed PaymentReversal.id db.reversals
  reversedOnce : Keyed PaymentReversal.paymentId db.reversals
  reversedSettlementOnce : Keyed PaymentReversal.settlementId db.reversals
  reversed : ∀ r ∈ db.reversals, ∃ s ∈ db.settlements, s.id = r.settlementId ∧ s.paymentId = r.paymentId
  ledger : LedgerSound db.ledgerEntries

section Sound
variable {acted : Payment → Prop} {db db' : Db} {new : Additions}

theorem NextSettlement.fresh {s x : PaymentSettlement} (h : NextSettlement db s)
    (hx : x ∈ db.settlements) : x.paymentId ≠ s.paymentId := by
  have hnone := h.unsettled
  rw [Db.settlementOfPayment?, List.find?_eq_none] at hnone
  simpa using hnone x hx

/-- The keys stay sound whatever an operation adds. -/
theorem Grows.sound (h : Grows acted db db' new) (hs : Sound db) : Sound db' := by
  have hsettlements : Keyed PaymentSettlement.id db'.settlements ∧
      Keyed PaymentSettlement.paymentId db'.settlements := by
    rw [h.settlements]
    cases hnew : new.settlements with
    | nil => simpa using ⟨hs.settlements, hs.settledOnce⟩
    | cons s rest =>
      obtain ⟨hsingle, hnext⟩ := h.settlement s (by simp [hnew])
      rw [← hnew, hsingle]
      exact ⟨keyed_append hs.settlements hnext.id_eq,
        keyed_append_of_fresh hs.settledOnce fun x hx => hnext.fresh hx⟩
  have hreversals : Keyed PaymentReversal.id db'.reversals ∧
      Keyed PaymentReversal.paymentId db'.reversals ∧
      Keyed PaymentReversal.settlementId db'.reversals ∧
      ∀ r ∈ db'.reversals, ∃ s ∈ db'.settlements,
        s.id = r.settlementId ∧ s.paymentId = r.paymentId := by
    have hkept : ∀ r : PaymentReversal, (∃ s ∈ db.settlements, s.id = r.settlementId ∧ s.paymentId = r.paymentId) →
        ∃ s ∈ db'.settlements, s.id = r.settlementId ∧ s.paymentId = r.paymentId := by
      rintro r ⟨s, hmem, hids⟩
      exact ⟨s, by rw [h.settlements]; exact List.mem_append_left _ hmem, hids⟩
    rw [h.reversals]
    cases hnew : new.reversals with
    | nil =>
      simpa using ⟨hs.reversals, hs.reversedOnce, hs.reversedSettlementOnce,
        fun r hr => hkept r (hs.reversed r hr)⟩
    | cons r rest =>
      obtain ⟨hsingle, hnext⟩ := h.reversal r (by simp [hnew])
      rw [← hnew, hsingle]
      refine ⟨keyed_append hs.reversals hnext.id_eq,
        keyed_append_of_fresh hs.reversedOnce hnext.firstPayment,
        keyed_append_of_fresh hs.reversedSettlementOnce hnext.firstSettlement, ?_⟩
      intro x hx
      rcases List.mem_append.mp hx with hx | hx
      · exact hkept x (hs.reversed x hx)
      · rw [List.mem_singleton] at hx
        exact hx ▸ hkept r hnext.settled
  exact
    { payments := h.payments.keyed hs.payments
      contributions := keyed_of_keys h.contributions hs.contributions
      installments := keyed_of_keys h.installments hs.installments
      settlements := hsettlements.1
      settledOnce := hsettlements.2
      reversals := hreversals.1
      reversedOnce := hreversals.2.1
      reversedSettlementOnce := hreversals.2.2.1
      reversed := hreversals.2.2.2
      ledger := by rw [h.ledger]; exact hs.ledger.extend h.postings }

end Sound

/-- An operation that is not about contributions: `direct` tells whether it compensates a row of a
contribution payment by itself. -/
structure Aside (direct : Prop) (db db' : Db) (new : Additions) : Prop where
  contributions : db'.contributions = db.contributions
  entries : ∀ e ∈ new.entries, e.contributionId = none
  rows : ∀ e ∈ new.rows, e.referenceType ≠ .CONTRIBUTION_PAYMENT
  compensations : ∀ e ∈ new.rows, ∀ o ∈ db.ledgerEntries, e.reversalOfId = some o.id →
    o.referenceType = .CONTRIBUTION_PAYMENT → direct
  settlements : ∀ s ∈ new.settlements, ∀ k, s.obligation ≠ .contribution k
  reversals : ∀ r ∈ new.reversals, ∀ s ∈ db.settlements, s.id = r.settlementId →
    ∀ k, s.obligation ≠ .contribution k

end Caixinha.Effects
