import Caixinha.Effects.AgreementSteps
import Caixinha.Effects.Webhook
import Caixinha.Library.Runs
import Caixinha.Model.PixCharges

/-! The reservations of charges through any history: none appears but by a request, and a request makes
one only under a key no payment carries. -/
namespace Caixinha.Effects

open Caixinha.Library Caixinha.Library.Table Fallible Caixinha.Model

variable {env : Env} {b b' : ChargeBook} {db db' : Db} {ref : PaymentReference} {p : Payment}
  {amount : Int}

section Debts

/-- What a PIX charge is made for. -/
inductive Debt where
  | contribution (id : Nat)
  | agreementInstallment (id : Nat)
  deriving DecidableEq, Repr

def Debt.reference : Debt → PaymentReference
  | .contribution id => .contribution id
  | .agreementInstallment id => .agreementInstallment id

theorem Debt.reference_ne_loan (d : Debt) (k : Nat) : d.reference ≠ .loanInstallment k := by
  cases d <;> simp [reference]

/-- The idempotency key the debt is charged under. -/
def chargeKey (b : ChargeBook) : Debt → String
  | .contribution id => contributionKey b id
  | .agreementInstallment id => agreementInstallmentKey id

def requestCharge (b : ChargeBook) (clock : Int) (member : Option Nat) :
    Debt → ChargeBook × ChargeAnswer
  | .contribution id => createContributionPix b clock member id
  | .agreementInstallment id => createAgreementPix b member id

/-- Unique keys, at most one reservation for each debt, and it carries the key of the debt. -/
structure SoundCharges (b : ChargeBook) : Prop where
  inbox : SoundInbox b.inbox
  once : ∀ d : Debt, (reservations b.db d.reference).length ≤ 1
  keyed : ∀ d : Debt, ∀ p ∈ reservations b.db d.reference, b.idempotencyKey p.id = chargeKey b d

end Debts

section Latest

private theorem latest?_spec (payments : List Payment) :
    (payments = [] ∧ latest? payments = none) ∨ ∃ x ∈ payments, latest? payments = some x := by
  unfold latest?
  refine latest_of_foldl rfl fun found x => ?_
  cases found with
  | none => exact .inr rfl
  | some q =>
    dsimp only
    split
    · exact .inr rfl
    · exact .inl ⟨rfl, rfl⟩

theorem latest?_eq_none {payments : List Payment} : latest? payments = none ↔ payments = [] := by
  rcases latest?_spec payments with ⟨hnil, hnone⟩ | ⟨x, hx, hsome⟩
  · rw [hnone, hnil]
    simp
  · simp [hsome, List.ne_nil_of_mem hx]

theorem latest?_mem {payments : List Payment} (h : latest? payments = some p) : p ∈ payments := by
  rcases latest?_spec payments with ⟨-, hnone⟩ | ⟨x, hx, hsome⟩
  · rw [h] at hnone
    cases hnone
  · rw [h, Option.some.injEq] at hsome
    exact hsome ▸ hx

theorem pendingReservation?_eq_none : pendingReservation? db ref = none ↔ reservations db ref = [] :=
  latest?_eq_none

end Latest

section Kept

private theorem reservationIds_forall₂ {acted : Payment → Prop} {payments kept : List Payment}
    (h : List.Forall₂ (SamePayment acted) payments kept) :
    ((kept.filter (isReservation ref)).map Payment.id).Sublist
      ((payments.filter (isReservation ref)).map Payment.id) := by
  induction h with
  | nil => exact .refl _
  | @cons x y payments kept hxy _ ih =>
    obtain ⟨hid, href, -, honward⟩ := hxy
    rw [List.filter_cons, List.filter_cons]
    by_cases hy : isReservation ref y
    · have hx : isReservation ref x := by
        rw [isReservation, decide_eq_true_eq] at hy ⊢
        exact ⟨href ▸ hy.1, honward.pending hy.2⟩
      rw [if_pos hx, if_pos hy, List.map_cons, List.map_cons, hid]
      exact ih.cons_cons _
    · rw [if_neg hy]
      split
      · exact ih.cons _
      · exact ih

/-- No step makes a reservation of a debt. -/
theorem stepKept_reservations (hloan : ∀ k, ref ≠ .loanInstallment k) (ids : List Nat) :
    StepKept fun db => ((reservations db ref).map Payment.id).Sublist ids := by
  intro acted direct about x y _ hx hstep
  obtain ⟨new, hgrows⟩ := hstep.grows
  refine List.Sublist.trans ?_ hx
  rw [reservations, reservations]
  have hpayments := hgrows.payments
  generalize y.payments = payments at hpayments ⊢
  cases hpayments with
  | same h => exact reservationIds_forall₂ h
  | @reserved kept p k h hnew hreference =>
    have hother : isReservation ref p = false := by
      rw [isReservation, decide_eq_false_iff_not, hreference]
      exact fun hyes => hloan k (Option.some.inj hyes.1).symm
    rw [List.filter_append, List.filter_cons_of_neg (by simp [hother]), List.filter_nil, List.append_nil]
    exact reservationIds_forall₂ h

/-- What keeps the keys and makes no reservation keeps the charges sound. -/
theorem SoundCharges.keep (h : SoundCharges b) (inbox : Inbox) (hinbox : SoundInbox inbox)
    (hids : ∀ d : Debt, ((reservations inbox.db d.reference).map Payment.id).Sublist
      ((reservations b.db d.reference).map Payment.id)) : SoundCharges { b with inbox } := by
  refine ⟨hinbox, fun d => ?_, fun d p hp => ?_⟩
  · have hlen := (hids d).length_le
    rw [List.length_map, List.length_map] at hlen
    exact hlen.trans (h.once d)
  · obtain ⟨q, hq, hid⟩ := List.mem_map.mp ((hids d).subset (List.mem_map_of_mem hp))
    have hkey := h.keyed d q hq
    rw [hid] at hkey
    cases d <;> exact hkey

/-- A transaction made of steps keeps the charges sound. -/
theorem SoundCharges.steps (h : SoundCharges b) {acted : Payment → Prop} {direct : Prop}
    {about : Nat → Prop} (hsteps : Relation.ReflTransGen (Step acted direct about) b.db db') :
    SoundCharges (b.put db') := by
  have hsound : Sound db' := (steps_keep (P := fun _ => True) hsteps
    (fun _ _ _ _ _ => trivial) h.inbox.db trivial).1
  refine h.keep { b.inbox with db := db' } ⟨hsound, h.inbox.events⟩ fun d => ?_
  exact (steps_keep hsteps (fun x y hx hPx hstep =>
    stepKept_reservations d.reference_ne_loan _ hx hPx hstep) h.inbox.db (.refl _)).2

theorem SoundCharges.step (h : SoundCharges b) {acted : Payment → Prop} {direct : Prop}
    {about : Nat → Prop} (hstep : Step acted direct about b.db db') : SoundCharges (b.put db') :=
  h.steps (.single hstep)

theorem SoundCharges.delivered (h : SoundCharges b) (t : Turn) :
    SoundCharges { b with inbox := deliver env b.inbox t } := by
  refine h.keep _ (sound_deliver h.inbox t) fun d => ?_
  exact (keeps_deliver (stepKept_reservations d.reference_ne_loan _)
    ⟨⟨h.inbox.db, .refl _⟩, h.inbox.events⟩ t).db.holds

end Kept

section Reserving

/-- The database with the payment of a new reservation. -/
def reservedDb (db : Db) (p : Payment) : Db := { db with payments := db.payments ++ [p] }

theorem keyed?_eq_none {key : String} :
    b.keyed? key = none ↔ ∀ p ∈ b.db.payments, b.idempotencyKey p.id ≠ key := by
  simp [ChargeBook.keyed?]

private theorem reserved_any (href : p.reference = some ref) (hpending : p.attemptStatus = some .PENDING) :
    (db.payments.any fun q => q.reference = p.reference ∧ q.attemptStatus = some .PENDING ∧
      p.attemptStatus = some .PENDING) = true ↔ reservations db ref ≠ [] := by
  simp [reservations, isReservation, List.filter_eq_nil_iff, href, hpending]

/-- A reservation commits when no payment carries its key and none is pending. -/
theorem insert_eq_some {key : String} (href : p.reference = some ref)
    (hpending : p.attemptStatus = some .PENDING) : b.insert key p = some b' ↔
      b.keyed? key = none ∧ reservations b.db ref = [] ∧
        b' = { b.put (reservedDb b.db p) with
          idempotencyKey := Function.update b.idempotencyKey p.id key } := by
  unfold ChargeBook.insert
  split
  · rename_i hrefused
    rw [reserved_any href hpending, ← Option.ne_none_iff_isSome] at hrefused
    simp only [reduceCtorEq, false_iff]
    rintro ⟨hkey, hempty, -⟩
    exact hrefused.elim (· hkey) (· hempty)
  · rename_i hfree
    rw [reserved_any href hpending, ← Option.ne_none_iff_isSome, not_or, not_not, not_not] at hfree
    rw [Option.some.injEq]
    exact ⟨fun h => ⟨hfree.1, hfree.2, h.symm⟩, fun h => h.2.2.symm⟩

/-- The book after the reservation of a contribution. -/
def contributionReserved (b : ChargeBook) (id : Nat) (p : Payment) : ChargeBook :=
  { b.put (reservedDb b.db p) with
    idempotencyKey := Function.update b.idempotencyKey p.id (contributionKey b id)
    pixIdempotencyKey := Function.update b.pixIdempotencyKey id (some (contributionKey b id)) }

def contributionPayment (b : ChargeBook) (id : Nat) (amount : Int) : Payment :=
  reservedPayment b.db (.contribution id) ("contribution-" ++ toString id) amount

theorem reserveContribution_created {id : Nat} :
    reserveContribution b id amount = .created b' p ↔
      b.keyed? (contributionKey b id) = none ∧ reservations b.db (.contribution id) = [] ∧
        p = contributionPayment b id amount ∧ b' = contributionReserved b id p := by
  unfold reserveContribution
  dsimp only
  split
  · rename_i existing hexisting
    have hsome : reservations b.db (.contribution id) ≠ [] := by
      intro hempty
      rw [pendingReservation?_eq_none.mpr hempty] at hexisting
      cases hexisting
    simp [hsome]
  · rename_i hempty
    rw [pendingReservation?_eq_none] at hempty
    split
    · rename_i inserted hinsert
      rw [insert_eq_some rfl rfl] at hinsert
      obtain ⟨hkey, -, rfl⟩ := hinsert
      rw [Reserved.created.injEq]
      constructor
      · rintro ⟨rfl, rfl⟩
        exact ⟨hkey, hempty, rfl, rfl⟩
      · rintro ⟨-, -, rfl, rfl⟩
        exact ⟨rfl, rfl⟩
    · rename_i hrefused
      have htaken : b.keyed? (contributionKey b id) ≠ none := by
        intro hkey
        have hinsert : ChargeBook.insert { b with
            pixIdempotencyKey := Function.update b.pixIdempotencyKey id (some (contributionKey b id)) }
            (contributionKey b id) (contributionPayment b id amount) =
              some (contributionReserved b id (contributionPayment b id amount)) :=
          (insert_eq_some rfl rfl).mpr ⟨hkey, hempty, rfl⟩
        exact Option.some_ne_none _ (hinsert.symm.trans hrefused)
      simp [htaken, pendingReservation?_eq_none.mpr hempty, Reserved.ofWinner]

def agreementPayment (b : ChargeBook) (id : Nat) (amount : Int) : Payment :=
  reservedPayment b.db (.agreementInstallment id) ("agreement_installment:" ++ toString id) amount

/-- The book after the reservation of an agreement installment. -/
def agreementReserved (b : ChargeBook) (id : Nat) (p : Payment) : ChargeBook :=
  { b.put (reservedDb b.db p) with
    idempotencyKey := Function.update b.idempotencyKey p.id (agreementInstallmentKey id) }

theorem reserveAgreementInstallment_created {id : Nat} :
    reserveAgreementInstallment b id amount = .created b' p ↔
      b.keyed? (agreementInstallmentKey id) = none ∧
        reservations b.db (.agreementInstallment id) = [] ∧
        p = agreementPayment b id amount ∧ b' = agreementReserved b id p := by
  unfold reserveAgreementInstallment
  dsimp only
  split
  · rename_i existing hexisting
    have hsome : reservations b.db (.agreementInstallment id) ≠ [] := by
      intro hempty
      rw [pendingReservation?_eq_none.mpr hempty] at hexisting
      cases hexisting
    simp [hsome]
  · rename_i hempty
    rw [pendingReservation?_eq_none] at hempty
    split
    · rename_i existing hkeyed
      simp [hkeyed]
    · rename_i hkey
      have hinsert : b.insert (agreementInstallmentKey id) (agreementPayment b id amount) =
          some (agreementReserved b id (agreementPayment b id amount)) :=
        (insert_eq_some rfl rfl).mpr ⟨hkey, hempty, rfl⟩
      rw [agreementPayment] at hinsert
      rw [hinsert]
      dsimp only
      rw [Reserved.created.injEq]
      constructor
      · rintro ⟨rfl, rfl⟩
        exact ⟨hkey, hempty, rfl, rfl⟩
      · rintro ⟨-, -, rfl, rfl⟩
        exact ⟨rfl, rfl⟩

end Reserving

section Requests
variable {clock : Int} {member : Option Nat} {d : Debt}

/-- What a request that reserves comes to. -/
def reservedFor (b : ChargeBook) : Debt → Int → ChargeBook × ChargeAnswer
  | .contribution id, amount =>
    (contributionReserved b id (contributionPayment b id amount), .asking (contributionPayment b id amount))
  | .agreementInstallment id, amount =>
    (agreementReserved b id (agreementPayment b id amount), .asking (agreementPayment b id amount))

/-- What a request can come to: nothing is written, or a reservation under a key that was free. -/
inductive Asked (b : ChargeBook) (d : Debt) : ChargeBook × ChargeAnswer → Prop where
  | nothing (answer : ChargeAnswer) (idle : ∀ p, answer ≠ .asking p) : Asked b d (b, answer)
  | reserved (amount : Int) (free : b.keyed? (chargeKey b d) = none)
    (empty : reservations b.db d.reference = []) : Asked b d (reservedFor b d amount)

private theorem asked_refused (status : Nat) (detail : String) : Asked b d (b, .refused status detail) :=
  .nothing _ fun p => by simp

private theorem asked_response (q : Payment) : Asked b d (b, .response q) := .nothing _ fun p => by simp

private theorem asked_known (q : Payment) (known : Bool) :
    Asked b d (b, if known then .response q else awaitsReconciliation) := by
  cases known
  · exact asked_refused _ _
  · exact asked_response q

private theorem askContribution_asked (c : Contribution) :
    Asked b (.contribution c.id) (askContribution b c) := by
  unfold askContribution
  split
  · exact asked_refused _ _
  split
  · rename_i b'' payment hcreated
    obtain ⟨hkey, hempty, rfl, rfl⟩ := reserveContribution_created.mp hcreated
    exact .reserved _ hkey hempty
  · exact asked_known _ _
  · split
    · exact asked_known _ _
    · exact asked_refused _ _

private theorem askAgreementInstallment_asked (i : AgreementInstallment) :
    Asked b (.agreementInstallment i.id) (askAgreementInstallment b i) := by
  unfold askAgreementInstallment
  split
  · rename_i b'' payment hcreated
    obtain ⟨hkey, hempty, rfl, rfl⟩ := reserveAgreementInstallment_created.mp hcreated
    exact .reserved _ hkey hempty
  · exact asked_known _ _
  · exact asked_refused _ _

private theorem createContributionPix_asked (id : Nat) :
    Asked b (.contribution id) (createContributionPix b clock member id) := by
  unfold createContributionPix
  split
  · exact asked_refused _ _
  rename_i c hc
  obtain rfl : c.id = id := lookup_key hc
  split
  · exact asked_refused _ _
  split
  · exact asked_refused _ _
  · exact asked_refused _ _
  split
  · exact askContribution_asked c
  split
  · exact asked_refused _ _
  split
  · exact asked_response _
  split
  · exact asked_response _
  · exact askContribution_asked c

private theorem createAgreementPix_asked (id : Nat) :
    Asked b (.agreementInstallment id) (createAgreementPix b member id) := by
  unfold createAgreementPix
  dsimp only
  split
  · exact asked_refused _ _
  rename_i i hi
  obtain rfl : i.id = id := lookup_key hi
  split
  · exact asked_refused _ _
  split
  · exact asked_refused _ _
  split
  · exact asked_refused _ _
  split
  · exact asked_known _ _
  split
  · exact asked_response _
  · exact askAgreementInstallment_asked i

theorem requestCharge_asked (b : ChargeBook) (clock : Int) (member : Option Nat) (d : Debt) :
    Asked b d (requestCharge b clock member d) := by
  cases d with
  | contribution id => exact createContributionPix_asked id
  | agreementInstallment id => exact createAgreementPix_asked id

private theorem reservations_append (hp : p.reference = some d.reference)
    (hpending : p.attemptStatus = some .PENDING) (hempty : reservations db d.reference = []) (e : Debt) :
    reservations (reservedDb db p) e.reference =
      if e = d then [p] else reservations db e.reference := by
  have hinj : e.reference = d.reference ↔ e = d := by
    cases e <;> cases d <;> simp [Debt.reference]
  rw [reservations, reservedDb, List.filter_append]
  split
  · rename_i hed
    subst hed
    rw [← reservations, hempty, List.filter_cons_of_pos (by simp [isReservation, hp, hpending])]
    rfl
  · rename_i hed
    have hother : isReservation e.reference p = false := by
      rw [isReservation, decide_eq_false_iff_not, hp, Option.some.injEq]
      exact fun hyes => hed (hinj.mp hyes.1.symm)
    rw [List.filter_cons_of_neg (by simp [hother]), List.filter_nil, List.append_nil, ← reservations]

private theorem contributionKey_ne_empty (id : Nat) : contributionKey b id ≠ "" := by
  unfold contributionKey
  cases h : given (b.pixIdempotencyKey id) with
  | none =>
    rw [Option.getD_none]
    intro hempty
    have := congrArg String.length hempty
    rw [String.length_append] at this
    simp at this
  | some key =>
    rw [Option.getD_some]
    intro hempty
    rw [given, Option.filter_eq_some_iff] at h
    simp [hempty] at h

private theorem chargeKey_reserved {id : Nat} (e : Debt) :
    chargeKey (contributionReserved b id p) e = chargeKey b e := by
  cases e with
  | agreementInstallment k => rfl
  | contribution k =>
    by_cases hk : k = id
    · subst hk
      have hgiven : given (some (contributionKey b k)) = some (contributionKey b k) := by
        simp [given, contributionKey_ne_empty]
      rw [chargeKey, contributionKey, contributionReserved]
      dsimp only
      rw [Function.update_self, hgiven]
      rfl
    · rw [chargeKey, contributionKey, contributionReserved]
      dsimp only
      rw [Function.update_of_ne hk]
      rfl

/-- A reservation keeps the charges sound. -/
theorem SoundCharges.reserve (h : SoundCharges b) (hempty : reservations b.db d.reference = [])
    (hp : p.reference = some d.reference) (hpending : p.attemptStatus = some .PENDING)
    (hid : p.id = nextKey Payment.id b.db.payments) {r : ChargeBook}
    (hinbox : r.inbox = { b.inbox with db := reservedDb b.db p })
    (hkeys : r.idempotencyKey = Function.update b.idempotencyKey p.id (chargeKey b d))
    (hsame : ∀ e, chargeKey r e = chargeKey b e) : SoundCharges r := by
  have hdb : r.db = reservedDb b.db p := by rw [ChargeBook.db, hinbox]
  have hs := h.inbox.db
  refine ⟨?_, fun e => ?_, fun e q hq => ?_⟩
  · rw [hinbox]
    exact ⟨⟨keyed_append hs.payments hid, hs.contributions, hs.installments, hs.settlements,
      hs.settledOnce, hs.reversals, hs.reversedOnce, hs.reversedSettlementOnce, hs.reversed, hs.ledger⟩,
      h.inbox.events⟩
  · rw [hdb, reservations_append hp hpending hempty]
    split
    · exact le_refl 1
    · exact h.once e
  · rw [hdb, reservations_append hp hpending hempty] at hq
    rw [hkeys, hsame]
    split at hq
    · rename_i hed
      obtain rfl := List.mem_singleton.mp hq
      rw [Function.update_self, hed]
    · have hne : q.id ≠ p.id := by
        have : q.id < nextKey Payment.id b.db.payments := key_lt_nextKey (List.mem_filter.mp hq).1
        omega
      rw [Function.update_of_ne hne]
      exact h.keyed e q hq

theorem SoundCharges.requested (h : SoundCharges b) (clock : Int) (member : Option Nat) (d : Debt) :
    SoundCharges (requestCharge b clock member d).1 := by
  have hasked := requestCharge_asked b clock member d
  generalize requestCharge b clock member d = result at hasked ⊢
  cases hasked with
  | nothing => exact h
  | reserved amount free hempty =>
    cases d with
    | contribution id => exact h.reserve hempty rfl rfl rfl rfl rfl chargeKey_reserved
    | agreementInstallment id =>
      exact h.reserve hempty rfl rfl rfl rfl rfl fun e => by cases e <;> rfl

end Requests

section Answers
variable {paymentId : Nat} {result : ProviderResult} {creation : Creation}

/-- What an answer commits: the payment bound or preserved, for a contribution with its own row. -/
inductive Finished (db : Db) : Db → Prop where
  | same : Finished db db
  | payment (p x : Payment) (found : db.payment? p.id = some x) (reference : p.reference = x.reference)
    (onward : Onward x p) : Finished db (db.putPayment p)
  | contribution (p x : Payment) (c : Contribution) (found : db.payment? p.id = some x)
    (reference : p.reference = x.reference) (onward : Onward x p) :
    Finished db ((db.putPayment p).putContribution c)

private theorem onward_bound (x : Payment) : Onward x (boundPayment x result) := ⟨id, nofun⟩

private theorem bindContribution_finished {id : Nat}
    (h : bindContributionProvider db paymentId id result = some db') : Finished db db' := by
  simp only [bindContributionProvider, Option.bind_eq_bind, Option.bind_eq_some_iff] at h
  obtain ⟨x, hx, c, -, h⟩ := h
  obtain rfl : x.id = paymentId := lookup_key hx
  split at h
  · cases h
  split at h
  · cases h
  split at h
  · cases h
  · obtain rfl := Option.some.inj h
    exact .contribution _ x _ hx rfl (onward_bound x)

private theorem bindAgreement_finished {id : Nat}
    (h : bindAgreementProvider db paymentId id result = some db') : Finished db db' := by
  simp only [bindAgreementProvider, Option.bind_eq_bind, Option.bind_eq_some_iff] at h
  obtain ⟨x, hx, i, -, h⟩ := h
  obtain rfl : x.id = paymentId := lookup_key hx
  split at h
  · cases h
  split at h
  · cases h
  split at h
  · cases h
  split at h
  · cases h
  · obtain rfl := Option.some.inj h
    exact .payment _ x hx rfl (onward_bound x)

private theorem preserve_finished (h : preserveProviderResult db paymentId ref result = some db') :
    Finished db db' := by
  unfold preserveProviderResult at h
  split at h
  · cases h
  simp only [Option.bind_eq_bind, Option.bind_eq_some_iff] at h
  obtain ⟨x, hx, h⟩ := h
  obtain rfl : x.id = paymentId := lookup_key hx
  split at h
  · cases h
  split at h
  · cases h
  split at h
  · obtain rfl := Option.some.inj h
    exact .same
  split at h
  · cases h
  rename_i hpending
  split at h
  · cases h
  · obtain rfl := Option.some.inj h
    exact .payment _ x hx rfl ⟨id, fun _ => not_not.mp hpending⟩

private theorem markReconciliationRequired_finished :
    Finished db (markReconciliationRequired db paymentId) := by
  unfold markReconciliationRequired
  split
  · exact .same
  · rename_i x hx
    obtain rfl : x.id = paymentId := lookup_key hx
    split
    · exact .same
    · exact .payment _ x hx rfl ⟨id, id⟩

private theorem markAmbiguous_finished : Finished db (markAmbiguous db paymentId) := by
  unfold markAmbiguous
  split
  · exact .same
  · rename_i x hx
    obtain rfl : x.id = paymentId := lookup_key hx
    split
    · exact .same
    · exact .payment _ x hx rfl ⟨id, id⟩

private theorem finishCharge_finished {bind preserve : Db → Nat → Nat → ProviderResult → Option Db}
    {id : Nat} (hbind : ∀ {result db'}, bind db paymentId id result = some db' → Finished db db')
    (hpreserve : ∀ {result db'}, preserve db paymentId id result = some db' → Finished db db') :
    Finished db (finishCharge bind preserve db paymentId id creation) := by
  cases creation with
  | ambiguous => exact markAmbiguous_finished
  | failed => exact markReconciliationRequired_finished
  | answered result commits =>
    unfold finishCharge
    dsimp only
    cases hbound : (if commits then bind db paymentId id result else none) with
    | some db' =>
      change Finished db db'
      split at hbound
      · exact hbind hbound
      · cases hbound
    | none =>
      cases hkept : preserve db paymentId id result with
      | some db' => exact hpreserve hkept
      | none => exact .same

theorem finishContributionPix_finished (id : Nat) :
    Finished db (finishContributionPix db paymentId id creation) := by
  refine finishCharge_finished bindContribution_finished fun h => ?_
  simp only [preserveContributionProvider, Option.bind_eq_bind, Option.bind_eq_some_iff] at h
  obtain ⟨c, -, h⟩ := h
  exact preserve_finished h

theorem finishAgreementPix_finished (id : Nat) :
    Finished db (finishAgreementPix db paymentId id creation) := by
  refine finishCharge_finished bindAgreement_finished fun h => ?_
  simp only [preserveAgreementProvider, Option.bind_eq_bind, Option.bind_eq_some_iff] at h
  obtain ⟨i, -, h⟩ := h
  exact preserve_finished h

theorem SoundCharges.putPayment {x : Payment} (h : SoundCharges b) (hx : b.db.payment? p.id = some x)
    (href : p.reference = x.reference) (honward : Onward x p) :
    SoundCharges (b.put (b.db.putPayment p)) := by
  have hstep : Step (fun _ => True) False (fun _ => False) b.db (b.db.putPayment p) :=
    step_putPayment h.inbox.db hx href honward trivial
  exact h.step hstep

theorem SoundCharges.finished (h : SoundCharges b) (hfinished : Finished b.db db') :
    SoundCharges (b.put db') := by
  cases hfinished with
  | same => exact h
  | payment p x hx href honward => exact h.putPayment hx href honward
  | contribution p x c hx href honward =>
    have hput := h.putPayment hx href honward
    have hs := hput.inbox.db
    exact hput.keep { b.inbox with db := (b.db.putPayment p).putContribution c }
      ⟨⟨hs.payments, keyed_replace hs.contributions, hs.installments, hs.settlements, hs.settledOnce,
        hs.reversals, hs.reversedOnce, hs.reversedSettlementOnce, hs.reversed, hs.ledger⟩,
        h.inbox.events⟩ fun d => .refl _

end Answers

section Histories

theorem step_accrue {onDate : Int} {rate : Decimal.Number} {acted : Payment → Prop}
    {direct : Prop} {about : Nat → Prop} (h : accrueOverduePenalties db onDate rate = .ok db') :
    Step acted direct about db db' := by
  obtain ⟨-, hrows⟩ := accrue_spec h
  unfold accrueOverduePenalties at h
  simp only [bind_eq_ok, pure_eq_ok, refuseIf_eq_ok, exists_and_left, exists_const] at h
  obtain ⟨-, rows, -, rfl⟩ := h
  refine .unposted (PaymentsKept.refl _ _) (map_eq_of_forall₂ hrows fun i j hij => ?_).symm rfl
  obtain ⟨⟨_, _, rfl⟩, -⟩ := hij
  rfl

/-- Whatever happens next, the charges stay sound. -/
theorem SoundCharges.handle (h : SoundCharges b) (e : ChargeEvent) :
    SoundCharges (handleCharge env b e) := by
  cases e with
  | requestedContribution clock member id => exact h.requested clock member (.contribution id)
  | requestedAgreement member id => exact h.requested 0 member (.agreementInstallment id)
  | answeredContribution paymentId id creation => exact h.finished (finishContributionPix_finished id)
  | answeredAgreement paymentId id creation => exact h.finished (finishAgreementPix_finished id)
  | delivered t => exact h.delivered t
  | operated clock op => exact h.steps (steps_execute h.inbox.db (clock, op))
  | accrued onDate rate =>
    cases haccrued : accrueOverduePenalties b.db onDate rate with
    | error e =>
      simp only [handleCharge, haccrued]
      exact h
    | ok db' =>
      have hstep : Step (fun _ => True) False (fun _ => False) b.db db' := step_accrue haccrued
      simp only [handleCharge, haccrued]
      exact h.step hstep

theorem SoundCharges.history (h : SoundCharges b) (events : List ChargeEvent) :
    SoundCharges (chargeHistory env b events) :=
  Runs.foldl_invariant (I := SoundCharges) (fun _ e h => h.handle e) h events

end Histories

end Caixinha.Effects
