import Caixinha.Effects.NetLedger
import Caixinha.Effects.Operations
import Caixinha.Effects.Unreversed

/-! The projections of one contribution (its paid amount, settlements, member entries and ledger
rows) and what every step does to them together. -/
namespace Caixinha.Effects

open Caixinha.Library Caixinha.Library.Table Fallible Caixinha.Model

/-- The rows posted for the payments that refer to a contribution. -/
def postsFor (payments : List Payment) (c : Contribution) (e : LedgerEntry) : Bool :=
  e.referenceType = .CONTRIBUTION_PAYMENT ∧
    payments.any (fun p => refersTo c p ∧ e.referenceId = toString p.id)

/-- The net CAIXINHA amount of the payments that refer to a contribution. -/
def netPosted (db : Db) (c : Contribution) : Int := netOf (postsFor db.payments c) db.ledgerEntries

/-- The principal of the settlements of a contribution that stand. -/
def settledPrincipal (db : Db) (id : Nat) : Int :=
  total (·.principalApplied) (unreversed db (.contribution id))

/-- The credits of a contribution less their reversals, on any account. -/
def patrimonialCredit (db : Db) (id : Nat) : Int :=
  (db.memberEntries.map (contributionCreditOf id)).sum

/-- The contribution `c`, now `x` with `paid` on it, has its projections in step. -/
structure Books (c : Contribution) (db : Db) (x : Contribution) (paid : Int) : Prop where
  row : db.contribution? c.id = some x
  amount : x.amount = c.amount
  member : x.memberId = c.memberId
  pointer : x.paymentId = c.paymentId
  paidAmount : x.paidAmount = some paid
  nonneg : 0 ≤ paid
  within : paid ≤ c.amount
  cancelled : x.cancelledAt ≠ none → paid < c.amount
  settled : settledPrincipal db c.id = paid
  credit : patrimonialCredit db c.id = if paid = c.amount then c.amount else 0
  holder : ∀ e ∈ db.memberEntries, e.contributionId = some c.id →
    ∃ a, db.accounts.find? (fun a => a.memberId = c.memberId) = some a ∧ e.accountId = a.id
  linked : ∀ id, c.paymentId = some id → ∃ p ∈ db.payments, p.id = id
  posted : ∀ e ∈ db.ledgerEntries, postsFor db.payments c e →
    ∃ s ∈ db.settlements, e.referenceId = toString s.paymentId
  owned : ∀ s ∈ db.settlements, ∀ p ∈ db.payments, s.paymentId = p.id → refersTo c p →
    ∀ k, s.obligation = .contribution k → k = c.id

section Reference
variable {c x : Contribution} {p q : Payment} {payments payments' : List Payment}
  {acted : Payment → Prop} {db : Db} {e : LedgerEntry}

theorem refersTo_same (hid : q.id = p.id) (href : q.reference = p.reference) :
    refersTo c q = refersTo c p := by
  unfold refersTo
  rw [hid, href]

theorem refersTo_row (hid : x.id = c.id) (hpointer : x.paymentId = c.paymentId) :
    refersTo x p = refersTo c p := by
  unfold refersTo
  rw [hid, hpointer]

/-- Only one contribution can be the one a payment is found to settle. -/
theorem lockedContribution_unique (hkeyed : Keyed Contribution.id db.contributions)
    (h : lockedContribution db p = .ok (some x)) (hc : c ∈ db.contributions) (href : refersTo c p) :
    c = x := by
  obtain ⟨hx, hxref⟩ := lockedContribution_some h
  unfold lockedContribution at h
  unfold refersTo at href hxref
  split at h
  · rename_i id hreference
    rw [hreference] at href hxref
    simp only [decide_eq_true_eq] at href hxref
    exact eq_of_mem_of_key hkeyed hc hx (href.symm.trans hxref)
  · rename_i hne
    have hpointer : c.paymentId = some p.id := by
      split at href
      · rename_i id hreference
        exact absurd hreference (hne id)
      · simpa using href
    have hmem : c ∈ db.contributions.filter (fun c => c.paymentId = some p.id) :=
      List.mem_filter.mpr ⟨hc, by simpa using hpointer⟩
    split at h
    · cases h
    · rename_i y hy
      simp only [Except.ok.injEq, Option.some.injEq] at h
      rw [hy, List.mem_singleton] at hmem
      rw [hmem, h]
    · cases h

/-- A payment that refers to a contribution is not a new attempt to charge an installment. -/
theorem PaymentsKept.refersTo_back (h : PaymentsKept acted payments payments')
    (hlinked : ∀ id, c.paymentId = some id → ∃ p ∈ payments, p.id = id) (hp : p ∈ payments')
    (href : refersTo c p) : ∃ q ∈ payments, q.id = p.id ∧ refersTo c q := by
  rcases h.backward hp with ⟨q, hq, hid, hreference, -⟩ | ⟨hnew, id, hreference⟩
  · refine ⟨q, hq, hid.symm, ?_⟩
    rw [← refersTo_same hid hreference]
    exact href
  · unfold refersTo at href
    rw [hreference] at href
    simp only [decide_eq_true_eq] at href
    obtain ⟨q, hq, hqid⟩ := hlinked _ href
    have hlt : q.id < nextKey Payment.id payments := key_lt_nextKey hq
    omega

theorem PaymentsKept.postsFor_eq (h : PaymentsKept acted payments payments')
    (hlinked : ∀ id, c.paymentId = some id → ∃ p ∈ payments, p.id = id) :
    postsFor payments' c = postsFor payments c := by
  funext e
  unfold postsFor
  rw [Bool.eq_iff_iff]
  simp only [List.any_eq_true, decide_eq_true_eq]
  constructor
  · rintro ⟨htype, p, hp, href, hid⟩
    obtain ⟨q, hq, hqid, hqref⟩ := h.refersTo_back hlinked hp href
    exact ⟨htype, q, hq, hqref, by rw [hqid]; exact hid⟩
  · rintro ⟨htype, p, hp, href, hid⟩
    obtain ⟨q, hq, hqid, hqref, -⟩ := h.forward hp
    exact ⟨htype, q, hq, by rw [refersTo_same hqid hqref]; exact href, by rw [hqid]; exact hid⟩

theorem postsFor_iff {payments : List Payment} : postsFor payments c e = true ↔
    e.referenceType = .CONTRIBUTION_PAYMENT ∧
      ∃ p ∈ payments, refersTo c p ∧ e.referenceId = toString p.id := by
  unfold postsFor
  simp

theorem postsFor_of_type (h : e.referenceType ≠ .CONTRIBUTION_PAYMENT) :
    postsFor payments c e = false := by
  simp [postsFor, h]

end Reference

/-- A contribution as it is created: nothing was paid to it or posted for it yet, and the payments
that refer to it are unsettled. -/
structure Fresh (c : Contribution) (db : Db) : Prop where
  row : db.contribution? c.id = some c
  unpaid : c.paidAmount = some 0
  live : c.cancelledAt = none
  amount : 0 ≤ c.amount
  entries : ∀ e ∈ db.memberEntries, e.contributionId ≠ some c.id
  linked : ∀ id, c.paymentId = some id → ∃ p ∈ db.payments, p.id = id
  unposted : ∀ e ∈ db.ledgerEntries, postsFor db.payments c e = false
  unsettled : ∀ s ∈ db.settlements, s.obligation ≠ .contribution c.id
  unreferred : ∀ s ∈ db.settlements, ∀ p ∈ db.payments, s.paymentId = p.id → ¬ refersTo c p

theorem Fresh.books {c : Contribution} {db : Db} (h : Fresh c db) : Books c db c 0 where
  row := h.row
  amount := rfl
  member := rfl
  pointer := rfl
  paidAmount := h.unpaid
  nonneg := le_rfl
  within := h.amount
  cancelled := fun hne => absurd h.live hne
  settled := by
    have hnone : unreversed db (.contribution c.id) = [] := by
      rw [unreversed, List.filter_eq_nil_iff]
      intro s hs
      simp [h.unsettled s hs]
    rw [settledPrincipal, hnone]
    rfl
  credit := by
    have hzero : patrimonialCredit db c.id = 0 := by
      apply List.sum_eq_zero
      intro v hv
      obtain ⟨e, he, rfl⟩ := List.mem_map.mp hv
      rw [contributionCreditOf, if_neg (h.entries e he)]
    rw [hzero]
    split
    · assumption
    · rfl
  holder := fun e he hid => absurd hid (h.entries e he)
  linked := h.linked
  posted := fun e he hposts => by
    rw [h.unposted e he] at hposts
    cases hposts
  owned := fun s hs p hp hid href => absurd href (h.unreferred s hs p hp hid)

theorem Fresh.netPosted {c : Contribution} {db : Db} (h : Fresh c db) : netPosted db c = 0 := by
  have hnone : db.ledgerEntries.filter (counted (postsFor db.payments c) db.ledgerEntries) = [] := by
    rw [List.filter_eq_nil_iff]
    intro e he
    simp only [counted, h.unposted e he, Bool.false_or, List.any_eq_true, Bool.and_eq_true, not_exists,
      not_and]
    intro o ho hasked
    rw [h.unposted o ho] at hasked
    cases hasked
  rw [Effects.netPosted, netOf, hnone]
  rfl

section Step
variable {c x y : Contribution} {db db' : Db} {paid : Int} {acted : Payment → Prop}
  {new : Additions} {payment : Payment}

theorem Books.row_id (hb : Books c db x paid) : x.id = c.id := lookup_key hb.row

theorem Books.refersTo_now (hb : Books c db x paid) (p : Payment) : refersTo x p = refersTo c p :=
  refersTo_row hb.row_id hb.pointer

/-- The payments' part of the invariant survives whatever an operation adds. -/
theorem Books.linked_of_grows (hb : Books c db x paid) (hg : Grows acted db db' new) :
    ∀ id, c.paymentId = some id → ∃ p ∈ db'.payments, p.id = id := by
  intro id hid
  obtain ⟨p, hp, hpid⟩ := hb.linked id hid
  obtain ⟨q, hq, hqid, -⟩ := hg.payments.forward hp
  exact ⟨q, hq, hqid.trans hpid⟩

theorem Books.postsFor_of_grows (hb : Books c db x paid) (hg : Grows acted db db' new) :
    postsFor db'.payments c = postsFor db.payments c := hg.payments.postsFor_eq hb.linked

theorem Books.holder_of_grows (hb : Books c db x paid) (hg : Grows acted db db' new)
    (hnew : ∀ e ∈ new.entries, e.contributionId = some c.id →
      ∃ a, db'.accounts.find? (fun a => a.memberId = c.memberId) = some a ∧ e.accountId = a.id) :
    ∀ e ∈ db'.memberEntries, e.contributionId = some c.id →
      ∃ a, db'.accounts.find? (fun a => a.memberId = c.memberId) = some a ∧ e.accountId = a.id := by
  intro e he hid
  rw [hg.entries] at he
  rcases List.mem_append.mp he with he | he
  · obtain ⟨a, ha, haccount⟩ := hb.holder e he hid
    exact ⟨a, by rw [hg.accounts, List.find?_append, ha, Option.some_or], haccount⟩
  · exact hnew e he hid

theorem Books.posted_of_grows (hb : Books c db x paid) (hg : Grows acted db db' new)
    (hnew : ∀ e ∈ new.rows, postsFor db.payments c e →
      ∃ s ∈ db'.settlements, e.referenceId = toString s.paymentId) :
    ∀ e ∈ db'.ledgerEntries, postsFor db'.payments c e →
      ∃ s ∈ db'.settlements, e.referenceId = toString s.paymentId := by
  intro e he hposts
  rw [hb.postsFor_of_grows hg] at hposts
  rw [hg.ledger] at he
  rcases List.mem_append.mp he with he | he
  · obtain ⟨s, hs, hid⟩ := hb.posted e he hposts
    exact ⟨s, by rw [hg.settlements]; exact List.mem_append_left _ hs, hid⟩
  · exact hnew e he hposts

theorem Books.owned_of_grows (hb : Books c db x paid) (hg : Grows acted db db' new)
    (hnew : ∀ s ∈ new.settlements, ∀ p ∈ db.payments, s.paymentId = p.id → refersTo c p →
      ∀ k, s.obligation = .contribution k → k = c.id) :
    ∀ s ∈ db'.settlements, ∀ p ∈ db'.payments, s.paymentId = p.id → refersTo c p →
      ∀ k, s.obligation = .contribution k → k = c.id := by
  intro s hs p hp hid href
  obtain ⟨q, hq, hqid, hqref⟩ := hg.payments.refersTo_back hb.linked hp href
  rw [hg.settlements] at hs
  rcases List.mem_append.mp hs with hs | hs
  · exact hb.owned s hs q hq (hid.trans hqid.symm) hqref
  · exact hnew s hs q hq (hid.trans hqid.symm) hqref

theorem patrimonialCredit_of_grows (hg : Grows acted db db' new) (id : Nat) :
    patrimonialCredit db' id =
      patrimonialCredit db id + (new.entries.map (contributionCreditOf id)).sum := by
  rw [patrimonialCredit, hg.entries, List.map_append, List.sum_append]
  rfl

theorem contributionCreditOf_other {e : MemberFinancialEntry} {id : Nat}
    (h : e.contributionId ≠ some id) : contributionCreditOf id e = 0 := by
  rw [contributionCreditOf, if_neg h]

private theorem sum_credit_other {entries : List MemberFinancialEntry} {id : Nat}
    (h : ∀ e ∈ entries, e.contributionId ≠ some id) :
    (entries.map (contributionCreditOf id)).sum = 0 := by
  apply List.sum_eq_zero
  intro v hv
  obtain ⟨e, he, rfl⟩ := List.mem_map.mp hv
  exact contributionCreditOf_other (h e he)

/-- What a step leaves of the books: those it found, moved together with the net ledger. -/
def StepKeeps (c : Contribution) (direct : Prop) (db : Db) (paid : Int) (db' : Db) : Prop :=
  ∃ y paid', Books c db' y paid' ∧
    (¬ direct → netPosted db' c = netPosted db c + (paid' - paid))

/-- A step aside of all contributions. -/
theorem Books.aside {direct : Prop} (hb : Books c db x paid) (hs : Sound db)
    (hg : Grows acted db db' new) (ha : Aside direct db db' new) :
    StepKeeps c direct db paid db' := by
  have hentries : ∀ e ∈ new.entries, e.contributionId ≠ some c.id := by
    intro e he
    simp [ha.entries e he]
  have hsettled : settledPrincipal db' c.id = settledPrincipal db c.id := by
    rw [settledPrincipal, hg.unreversed_other (fun s hs' => ha.settlements s hs' c.id)
      (fun r hr s hs' hid => ha.reversals r hr s hs' hid c.id), ← settledPrincipal]
  refine ⟨x, paid, ?_, ?_⟩
  · exact
      { hb with
        row := by rw [Db.contribution?, ha.contributions]; exact hb.row
        settled := hsettled.trans hb.settled
        credit := by
          rw [patrimonialCredit_of_grows hg, sum_credit_other hentries, add_zero]
          exact hb.credit
        holder := hb.holder_of_grows hg fun e he hid => absurd hid (hentries e he)
        linked := hb.linked_of_grows hg
        posted := hb.posted_of_grows hg fun e he hposts => by
          rw [postsFor_of_type (ha.rows e he)] at hposts
          cases hposts
        owned := hb.owned_of_grows hg fun s hs' _ _ _ _ k hk => absurd hk (ha.settlements s hs' k) }
  · intro hnot
    rw [netPosted, hb.postsFor_of_grows hg, hg.ledger, netOf_append_other hs.ledger hg.postings]
    · rw [← netPosted]
      ring
    · exact fun e he => postsFor_of_type (ha.rows e he)
    · intro e he o ho hrev
      refine postsFor_of_type fun htype => hnot (ha.compensations e he o ho hrev htype)

theorem contributionPaidAmount_of (h : x.paidAmount = some paid) : contributionPaidAmount x = paid := by
  simp [contributionPaidAmount, h]

/-- A contribution found under the id of `c` is the present row of `c`. -/
theorem Books.eq_row (hb : Books c db x paid) (hs : Sound db) (hy : y ∈ db.contributions)
    (hid : y.id = c.id) : y = x :=
  eq_of_mem_of_key hs.contributions hy (lookup_mem hb.row) (hid.trans hb.row_id.symm)

/-- No row was posted yet for a payment that refers to the contribution and is not settled. -/
theorem Books.not_posted (hb : Books c db x paid) (hp : payment ∈ db.payments)
    (href : refersTo c payment) (hnone : db.settlementOfPayment? payment.id = none) :
    ledgerHas db .CONTRIBUTION_PAYMENT (toString payment.id) = false := by
  rw [ledgerHas, List.any_eq_false]
  intro e he hmatch
  simp only [decide_eq_true_eq] at hmatch
  obtain ⟨s, hs, hid⟩ := hb.posted e he (postsFor_iff.mpr ⟨hmatch.1, payment, hp, href, hmatch.2⟩)
  rw [Db.settlementOfPayment?, List.find?_eq_none] at hnone
  exact hnone s hs (by simpa using toString_key_inj (hid.symm.trans hmatch.2))

/-- A settlement of another contribution. -/
theorem Books.settled_other {direct : Prop} {effectiveAt : Int} {s : PaymentSettlement}
    (hb : Books c db x paid) (hs : Sound db) (hpayment : db.payment? payment.id = some payment)
    (hg : Grows acted db db' new) (hnew : new.settlements = [s]) (hpaymentId : s.paymentId = payment.id)
    (hsettled : ContributionSettled db payment y effectiveAt db' s new) (hne : y.id ≠ c.id) :
    StepKeeps c direct db paid db' := by
  have hforeign : ¬ refersTo c payment := by
    intro href
    have hxy := lockedContribution_unique hs.contributions hsettled.found (lookup_mem hb.row)
      (by rw [hb.refersTo_now]; exact href)
    exact hne (hxy ▸ hb.row_id)
  have hunposted : ∀ e ∈ new.rows, postsFor db.payments c e = false ∧ e.reversalOfId = none := by
    intro e he
    rcases hsettled.rows with ⟨hnil, -⟩ | ⟨row, hrow, -, -, hpaymentRow, -⟩
    · rw [hnil] at he
      cases he
    · rw [hrow, List.mem_singleton] at he
      subst he
      refine ⟨?_, hpaymentRow.original⟩
      rw [← Bool.not_eq_true, postsFor_iff]
      rintro ⟨-, p, hp, href, hid⟩
      have hpid : p.id = payment.id := toString_key_inj (hid.symm.trans hpaymentRow.reference)
      have hsame : p = payment := eq_of_mem_of_key hs.payments hp (lookup_mem hpayment) hpid
      exact hforeign (hsame ▸ href)
  have hentries : ∀ e ∈ new.entries, e.contributionId ≠ some c.id := by
    intro e he
    obtain ⟨account, -, ⟨-, hnil⟩ | ⟨-, e', hone, hentry⟩⟩ := hsettled.account
    · rw [hnil] at he
      cases he
    · rw [hone, List.mem_singleton] at he
      rw [he, hentry.contribution]
      simpa [contributionCredit, creditedContribution] using hne
  refine ⟨x, paid, ?_, ?_⟩
  · exact
      { hb with
        row := by
          have hother : c.id ≠ (creditedContribution y (appliedTo y payment) effectiveAt).id := Ne.symm hne
          rw [Db.contribution?, hsettled.contributions, lookup_replace_ne hother]
          exact hb.row
        settled := by
          rw [settledPrincipal, hg.total_settled hs hnew hsettled.reversals, if_neg, add_zero]
          · exact hb.settled
          · rw [hsettled.obligation]
            simpa using hne
        credit := by
          rw [patrimonialCredit_of_grows hg, sum_credit_other hentries, add_zero]
          exact hb.credit
        holder := hb.holder_of_grows hg fun e he hid => absurd hid (hentries e he)
        linked := hb.linked_of_grows hg
        posted := hb.posted_of_grows hg fun e he hposts => by
          rw [(hunposted e he).1] at hposts
          cases hposts
        owned := hb.owned_of_grows hg fun s' hs' p hp hid href k _ => by
          rw [hnew, List.mem_singleton] at hs'
          have hpid : p.id = payment.id := by rw [← hid, hs', hpaymentId]
          have hsame : p = payment := eq_of_mem_of_key hs.payments hp (lookup_mem hpayment) hpid
          exact absurd (hsame ▸ href) hforeign }
  · intro _
    rw [netPosted, hb.postsFor_of_grows hg, hg.ledger, netOf_append_other hs.ledger hg.postings]
    · rw [← netPosted]
      ring
    · exact fun e he => (hunposted e he).1
    · intro e he o _ hrev
      rw [(hunposted e he).2] at hrev
      cases hrev

/-- A settlement of the contribution itself. -/
theorem Books.settled_own {direct : Prop} {effectiveAt : Int} {s : PaymentSettlement}
    (hb : Books c db x paid) (hs : Sound db) (hpayment : db.payment? payment.id = some payment)
    (hnone : db.settlementOfPayment? payment.id = none)
    (hg : Grows acted db db' new) (hnew : new.settlements = [s]) (hpaymentId : s.paymentId = payment.id)
    (hsettled : ContributionSettled db payment x effectiveAt db' s new) :
    Books c db' (creditedContribution x (appliedTo x payment) effectiveAt)
        (paid + appliedTo x payment) ∧
      (¬ direct → netPosted db' c = netPosted db c + (paid + appliedTo x payment - paid)) := by
  have hxid := hb.row_id
  have hbefore : contributionPaidAmount x = paid := contributionPaidAmount_of hb.paidAmount
  have happlied : appliedTo x payment = min (receivedAmount payment) (c.amount - paid) := by
    have hle := hb.within
    rw [appliedTo, contributionApplied, hbefore, hb.amount, max_eq_right (by omega)]
  have hrange : 0 ≤ appliedTo x payment ∧ appliedTo x payment ≤ c.amount - paid := by
    have hle := hb.within
    have hreceived := hsettled.received
    rw [happlied]
    omega
  have href : refersTo c payment := by
    rw [← hb.refersTo_now]
    exact (lockedContribution_some hsettled.found).2
  have hfresh := hb.not_posted (lookup_mem hpayment) href hnone
  obtain ⟨account, haccount, hcredit⟩ := hsettled.account
  rw [hbefore, hb.amount] at hcredit
  refine ⟨?_, ?_⟩
  · exact
      { row := by
          rw [Db.contribution?, hsettled.contributions, ← hxid]
          exact lookup_replace_self (hxid.symm ▸ hb.row)
        amount := hb.amount, member := hb.member, pointer := hb.pointer
        paidAmount := by rw [creditedContribution, hbefore]
        nonneg := by have := hb.nonneg; omega
        within := by omega
        cancelled := fun hne => absurd hsettled.live hne
        settled := by
          rw [settledPrincipal, hg.total_settled hs hnew hsettled.reversals, if_pos, ← settledPrincipal,
            hb.settled]
          · rw [PaymentSettlement.principalApplied, hsettled.amounts]
          · rw [hsettled.obligation, hxid]
        credit := by
          rw [patrimonialCredit_of_grows hg, hb.credit]
          rcases hcredit with ⟨hnot, hnil⟩ | ⟨hyes, e, hone, hentry⟩
          · rw [hnil]
            have hw := hb.within
            by_cases hpaid : paid = c.amount
            · rw [if_pos hpaid, if_pos (by omega)]
              simp
            · rw [if_neg hpaid, if_neg (by omega)]
              simp
          · have hvalue : contributionCreditOf c.id e = c.amount := by
              rw [contributionCreditOf, hentry.contribution, hentry.entryType, hentry.direction,
                hentry.amount]
              simp [contributionCredit, creditedContribution, hxid, hb.amount]
            rw [hone, if_neg (by omega), if_pos (by omega)]
            simp [hvalue]
        holder := hb.holder_of_grows hg fun e he _ => by
          rcases hcredit with ⟨-, hnil⟩ | ⟨-, e', hone, hentry⟩
          · rw [hnil] at he
            cases he
          · rw [hone, List.mem_singleton] at he
            exact ⟨account, by rw [← hb.member]; exact haccount, by rw [he, hentry.account]⟩
        linked := hb.linked_of_grows hg
        posted := hb.posted_of_grows hg fun e he _ => by
          rcases hsettled.rows with ⟨hnil, -⟩ | ⟨row, hrow, -, -, hpaymentRow, -⟩
          · rw [hnil] at he
            cases he
          · rw [hrow, List.mem_singleton] at he
            refine ⟨s, by rw [hg.settlements, hnew]; simp, ?_⟩
            rw [he, hpaymentRow.reference, hpaymentId]
        owned := hb.owned_of_grows hg fun s' hs' _ _ _ _ k hk => by
          rw [hnew, List.mem_singleton] at hs'
          rw [hs', hsettled.obligation] at hk
          rw [← hxid]
          exact (Obligation.contribution.inj hk).symm }
  · intro _
    rw [netPosted, hb.postsFor_of_grows hg, hg.ledger]
    rcases hsettled.rows with ⟨hnil, hhas⟩ | ⟨row, hrow, hpos, hposting, hpaymentRow, htype, hamount, -⟩
    · have hzero : appliedTo x payment = 0 := by
        by_contra hne
        have hpos : 0 < appliedTo x payment := by omega
        rw [hhas hpos] at hfresh
        cases hfresh
      rw [hnil, List.append_nil, hzero, ← netPosted]
      ring
    · have hasked : postsFor db.payments c row :=
        postsFor_iff.mpr ⟨htype, payment, lookup_mem hpayment, href, hpaymentRow.reference⟩
      rw [hrow, netOf_append_asked hs.ledger hposting hasked hpaymentRow.account, ← netPosted,
        LedgerEntry.signed, hpaymentRow.direction, hamount]
      simp [Direction.sign]

/-- The reversal of a payment of another contribution. -/
theorem Books.reversed_other {direct : Prop} {settlement : PaymentSettlement} {reversedAt : Int}
    {r : PaymentReversal} {account : MemberFinancialAccount} {credit : Int}
    {originals : List LedgerEntry} (hb : Books c db x paid) (hs : Sound db)
    (hpayment : db.payment? payment.id = some payment)
    (hsettlement : db.settlementOfPayment? payment.id = some settlement)
    (hg : Grows acted db db' new) (hnew : new.reversals = [r])
    (hid : r.settlementId = settlement.id)
    (hreversed : ContributionReversed db payment settlement y reversedAt db' r new account credit
      originals) (hne : y.id ≠ c.id) : StepKeeps c direct db paid db' := by
  obtain ⟨hmem, hpaymentId⟩ := settlementOfPayment?_spec hsettlement
  have hforeign : ¬ refersTo c payment := fun href =>
    hne (hb.owned settlement hmem payment (lookup_mem hpayment) hpaymentId href _ hreversed.obligation)
  obtain ⟨pairs, hfst, hrows, hall⟩ := hreversed.compensated
  have htypes : ∀ e ∈ new.rows, ∃ o ∈ originals, Compensates o e := by
    intro e he
    rw [hrows] at he
    exact mem_pairs_snd hfst hall he
  have horiginals : ∀ o ∈ originals, o ∈ db.ledgerEntries ∧ o.referenceId = toString payment.id := by
    rcases (findOriginalLedger_eq_ok hs.ledger).mp hreversed.found with ⟨-, hnil, -⟩ | ⟨-, row, hone, h⟩
    · simp [hnil]
    · simpa [hone] using h.mem
  have hentries : ∀ e ∈ new.entries, e.contributionId ≠ some c.id := by
    intro e he
    rcases hreversed.entries with ⟨-, hnil⟩ | ⟨e', hone, -, hentry⟩
    · rw [hnil] at he
      cases he
    · rw [hone, List.mem_singleton] at he
      rw [he, hentry.contribution]
      simpa [contributionReversalDebit] using hne
  refine ⟨x, paid, ?_, ?_⟩
  · exact
      { hb with
        row := by
          have hother : c.id ≠ (reversedContribution y settlement reversedAt).id := Ne.symm hne
          rw [Db.contribution?, hreversed.contributions, lookup_replace_ne hother]
          exact hb.row
        settled := by
          rw [settledPrincipal, hg.total_reversed hs hreversed.settlements hnew hmem hid, if_neg,
            sub_zero]
          · exact hb.settled
          · rw [hreversed.obligation]
            simpa using hne
        credit := by
          rw [patrimonialCredit_of_grows hg, sum_credit_other hentries, add_zero]
          exact hb.credit
        holder := hb.holder_of_grows hg fun e he hid => absurd hid (hentries e he)
        linked := hb.linked_of_grows hg
        posted := hb.posted_of_grows hg fun e he hposts => by
          obtain ⟨o, -, hc⟩ := htypes e he
          rw [postsFor_of_type (by simp [hc.type])] at hposts
          cases hposts
        owned := hb.owned_of_grows hg (by simp [hreversed.settlements]) }
  · intro _
    rw [netPosted, hb.postsFor_of_grows hg, hg.ledger, netOf_append_other hs.ledger hg.postings]
    · rw [← netPosted]
      ring
    · intro e he
      obtain ⟨o, -, hc⟩ := htypes e he
      exact postsFor_of_type (by simp [hc.type])
    · intro e he o ho hrev
      obtain ⟨o', ho', hc⟩ := htypes e he
      obtain ⟨hledger, hreference⟩ := horiginals o' ho'
      have hsame : o' = o := eq_of_mem_of_key hs.ledger.keyed hledger ho (by simpa [hc.reverses] using hrev)
      rw [← Bool.not_eq_true, postsFor_iff]
      rintro ⟨-, p, hp, href, hpid⟩
      rw [← hsame, hreference] at hpid
      have hpayments : p = payment := eq_of_mem_of_key hs.payments hp (lookup_mem hpayment)
        (toString_key_inj hpid).symm
      exact hforeign (hpayments ▸ href)

/-- Where all entries of a contribution are on one account, so is its credit. -/
theorem activeContributionCredit_eq {accountId id : Nat}
    (h : ∀ e ∈ db.memberEntries, e.contributionId = some id → e.accountId = accountId) :
    activeContributionCredit db accountId id = patrimonialCredit db id := by
  rw [activeContributionCredit, patrimonialCredit]
  generalize db.memberEntries = entries at h
  induction entries with
  | nil => rfl
  | cons e entries ih =>
    have hrest := ih fun e' he' => h e' (List.mem_cons_of_mem _ he')
    rw [List.map_cons, List.sum_cons, ← hrest]
    by_cases haid : e.accountId = accountId
    · rw [List.filter_cons_of_pos (by simpa using haid), List.map_cons, List.sum_cons]
    · have hother : e.contributionId ≠ some id := fun hid => haid (h e (List.mem_cons_self ..) hid)
      rw [List.filter_cons_of_neg (by simpa using haid), contributionCreditOf_other hother, zero_add]

/-- All the credit of a contribution is on the account of its member. -/
theorem Books.credit_on {account : MemberFinancialAccount} (hb : Books c db x paid)
    {accounts : List MemberFinancialAccount} (hinitial : db.accounts <+: accounts)
    (haccount : accounts.find? (fun a => a.memberId = c.memberId) = some account) :
    activeContributionCredit db account.id c.id = patrimonialCredit db c.id := by
  refine activeContributionCredit_eq fun e he hid => ?_
  obtain ⟨a, ha, heq⟩ := hb.holder e he hid
  obtain ⟨rest, rfl⟩ := hinitial
  rw [List.find?_append, ha, Option.some_or] at haccount
  rw [heq, Option.some.inj haccount]

/-- The reversal of a payment of the contribution itself. -/
theorem Books.reversed_own {direct : Prop} {settlement : PaymentSettlement} {reversedAt : Int}
    {r : PaymentReversal} {account : MemberFinancialAccount} {credit : Int}
    {originals : List LedgerEntry} (hb : Books c db x paid) (hs : Sound db)
    (hpayment : db.payment? payment.id = some payment)
    (hsettlement : db.settlementOfPayment? payment.id = some settlement)
    (hg : Grows acted db db' new) (hnew : new.reversals = [r])
    (hid : r.settlementId = settlement.id)
    (hreversed : ContributionReversed db payment settlement x reversedAt db' r new account credit
      originals) :
    Books c db' (reversedContribution x settlement reversedAt)
        (paid - settlement.amounts.amountApplied) ∧
      (¬ direct → netPosted db' c =
        netPosted db c + (paid - settlement.amounts.amountApplied - paid)) := by
  have hxid := hb.row_id
  obtain ⟨hmem, hpaymentId⟩ := settlementOfPayment?_spec hsettlement
  obtain ⟨-, hsound, -, -, honly⟩ := validateMoney_eq_ok.mp hreversed.money
  have hprincipal : settlement.amounts.principalApplied = settlement.amounts.amountApplied := by
    have hequation := hsound.applied_eq
    have := honly rfl
    omega
  have happlied := hsound.applied_nonneg
  have hpaid : x.paidAmount.getD 0 = paid := by rw [hb.paidAmount, Option.getD_some]
  have hle := hreversed.paid
  have hnonneg := hb.nonneg
  have hwithin := hb.within
  rw [hpaid] at hle
  have hpatrimony := hreversed.patrimony
  rw [hpaid, patrimonialReversal_eq_ok, contributionFinancialStatus_eq_paid, Ne,
    contributionFinancialStatus_eq_paid, hb.amount, hxid,
    hb.credit_on ⟨new.accounts, hg.accounts.symm⟩ (by rw [← hb.member]; exact hreversed.holder),
    hb.credit] at hpatrimony
  obtain ⟨pairs, hfst, hrows, hall⟩ := hreversed.compensated
  refine ⟨?_, ?_⟩
  · exact
      { row := by
          rw [Db.contribution?, hreversed.contributions, ← hxid]
          exact lookup_replace_self (hxid.symm ▸ hb.row)
        amount := hb.amount, member := hb.member, pointer := hb.pointer
        paidAmount := by rw [reversedContribution, unpaidContribution, hpaid]
        nonneg := by omega
        within := by omega
        cancelled := fun hne => by
          have := hb.cancelled hne
          omega
        settled := by
          rw [settledPrincipal, hg.total_reversed hs hreversed.settlements hnew hmem hid, if_pos,
            ← settledPrincipal, hb.settled]
          · rw [PaymentSettlement.principalApplied, hprincipal]
          · rw [hreversed.obligation, hxid]
        credit := by
          rw [patrimonialCredit_of_grows hg, hb.credit]
          rcases hreversed.entries with ⟨hnot, hnil⟩ | ⟨e, hone, hpos, hentry⟩
          · rw [hnil]
            rcases hpatrimony with ⟨hstays, hzero⟩ | ⟨⟨⟨hlive, hfull⟩, hstops⟩, hcredit, -⟩
            · by_cases hpaidAll : paid = c.amount
              · have hlive : x.cancelledAt = none := by
                  by_contra hne
                  have := hb.cancelled hne
                  omega
                have hstill : c.amount ≤ paid - settlement.amounts.amountApplied := by
                  by_contra hnot'
                  exact hstays ⟨⟨hlive, by omega⟩, fun h => hnot' h.2⟩
                rw [if_pos hpaidAll, if_pos (by omega)]
                simp
              · rw [if_neg hpaidAll, if_neg (by omega)]
                simp
            · have hpaidAll : paid = c.amount := by omega
              have hless : ¬ c.amount ≤ paid - settlement.amounts.amountApplied :=
                fun h => hstops ⟨hlive, h⟩
              rw [if_pos hpaidAll] at hcredit
              omega
          · rcases hpatrimony with ⟨-, hzero⟩ | ⟨⟨⟨hlive, hfull⟩, hstops⟩, hcredit, -⟩
            · omega
            · have hpaidAll : paid = c.amount := by omega
              have hless : ¬ c.amount ≤ paid - settlement.amounts.amountApplied :=
                fun h => hstops ⟨hlive, h⟩
              have hvalue : contributionCreditOf c.id e = -credit := by
                rw [contributionCreditOf, hentry.contribution, hentry.entryType, hentry.direction,
                  hentry.amount]
                simp [contributionReversalDebit, hxid]
              rw [if_pos hpaidAll] at hcredit
              rw [hone, if_pos hpaidAll, if_neg (by omega), List.map_singleton, List.sum_singleton,
                hvalue, hcredit]
              ring
        holder := hb.holder_of_grows hg fun e he _ => by
          rcases hreversed.entries with ⟨-, hnil⟩ | ⟨e', hone, -, hentry⟩
          · rw [hnil] at he
            cases he
          · rw [hone, List.mem_singleton] at he
            exact ⟨account, by rw [← hb.member]; exact hreversed.holder, by rw [he, hentry.account]⟩
        linked := hb.linked_of_grows hg
        posted := hb.posted_of_grows hg fun e he hposts => by
          rw [hrows] at he
          obtain ⟨o, -, hc⟩ := mem_pairs_snd hfst hall he
          rw [postsFor_of_type (by simp [hc.type])] at hposts
          cases hposts
        owned := hb.owned_of_grows hg (by simp [hreversed.settlements]) }
  · intro _
    rw [netPosted, hb.postsFor_of_grows hg, hg.ledger]
    rcases (findOriginalLedger_eq_ok hs.ledger).mp hreversed.found with
      ⟨hzero, hnil, -⟩ | ⟨-, row, hone, horiginal⟩
    · rw [hnil, List.map_eq_nil_iff] at hfst
      rw [hrows, hfst, List.map_nil, List.append_nil, hzero, ← netPosted]
      ring
    · rw [hone] at hfst
      obtain ⟨pair, rest, hpairs, hpair, hrest⟩ := List.map_eq_cons_iff.mp hfst
      rw [List.map_eq_nil_iff] at hrest
      subst hrest
      have hc : Compensates row pair.2 := by
        rw [← hpair]
        exact hall pair (by simp [hpairs])
      have hrow : new.rows = [pair.2] := by rw [hrows, hpairs, List.map_singleton]
      obtain ⟨hledger, hreference⟩ := horiginal.mem
      have href : refersTo c payment := by
        rw [← hb.refersTo_now]
        exact checkContributionReference_refersTo hreversed.reference
      have hasked : postsFor db.payments c row :=
        postsFor_iff.mpr ⟨horiginal.type, payment, lookup_mem hpayment, href, hreference⟩
      have hposting : Posting db.ledgerEntries pair.2 := by
        have hpostings := hg.postings
        rw [hrow] at hpostings
        cases hpostings with
        | cons head _ => exact head
      rw [hrow, netOf_append_compensation hs.ledger hposting hledger hasked horiginal.account hc,
        ← netPosted, LedgerEntry.signed, horiginal.direction, horiginal.amount]
      simp only [Direction.sign]
      ring

/-- A cancellation, of this contribution or of another. -/
theorem Books.cancelled_any {direct : Prop} {reason : String} {t : Int} (hb : Books c db x paid)
    (hs : Sound db) (hrow : db.contribution? y.id = some y) (hopen : contributionPaidAmount y < y.amount)
    (hg : Grows acted db db' {})
    (hdb : db' = db.putContribution (cancelledContribution y reason t)) :
    StepKeeps c direct db paid db' := by
  have hsettled : settledPrincipal db' c.id = paid := by
    rw [settledPrincipal, hg.unreversed_other (by simp) (by simp), ← settledPrincipal]
    exact hb.settled
  have hcredit : patrimonialCredit db' c.id = if paid = c.amount then c.amount else 0 := by
    rw [patrimonialCredit_of_grows hg]
    simpa using hb.credit
  have hholder := hb.holder_of_grows hg (by simp)
  have hposted := hb.posted_of_grows hg (by simp)
  have howned := hb.owned_of_grows hg (by simp)
  have hnet : ¬ direct → netPosted db' c = netPosted db c + (paid - paid) := by
    intro _
    rw [netPosted, hb.postsFor_of_grows hg, hg.ledger]
    simp [netPosted]
  by_cases hid : y.id = c.id
  · have hsame := hb.eq_row hs (lookup_mem hrow) hid
    subst hsame
    rw [contributionPaidAmount_of hb.paidAmount, hb.amount] at hopen
    refine ⟨cancelledContribution y reason t, paid, ?_, hnet⟩
    exact
      { hb with
        row := by
          rw [hdb, Db.contribution?, ← hid]
          exact lookup_replace_self hrow
        amount := hb.amount, member := hb.member, pointer := hb.pointer, paidAmount := hb.paidAmount
        cancelled := fun _ => hopen
        settled := hsettled, credit := hcredit, holder := hholder, linked := hb.linked_of_grows hg
        posted := hposted, owned := howned }
  · refine ⟨x, paid, ?_, hnet⟩
    exact
      { hb with
        row := by
          have hother : c.id ≠ (cancelledContribution y reason t).id := Ne.symm hid
          rw [hdb, Db.contribution?, Db.putContribution, lookup_replace_ne hother]
          exact hb.row
        settled := hsettled, credit := hcredit, holder := hholder, linked := hb.linked_of_grows hg
        posted := hposted, owned := howned }

/-- Every step keeps the books in step. -/
theorem Books.step {direct : Prop} {about : Nat → Prop} (hb : Books c db x paid) (hs : Sound db)
    (h : Step acted direct about db db') : StepKeeps c direct db paid db' := by
  cases h with
  | aside hg ha => exact hb.aside hs hg ha
  | @settled payment y effectiveAt s new hpayment hnone hg hnew hpaymentId hsettled _ =>
    by_cases hid : y.id = c.id
    · have hsame := hb.eq_row hs (lockedContribution_some hsettled.found).1 hid
      subst hsame
      exact ⟨_, _, hb.settled_own hs hpayment hnone hg hnew hpaymentId hsettled⟩
    · exact hb.settled_other hs hpayment hg hnew hpaymentId hsettled hid
  | @reversed payment settlement y reversedAt r new account credit originals hpayment hsettlement hg
      hnew hrid hreversed _ =>
    by_cases hid : y.id = c.id
    · have hsame := hb.eq_row hs (lookup_mem hreversed.row) hid
      subst hsame
      exact ⟨_, _, hb.reversed_own hs hpayment hsettlement hg hnew hrid hreversed⟩
    · exact hb.reversed_other hs hpayment hsettlement hg hnew hrid hreversed hid
  | cancelled hrow _ hopen hg hdb _ => exact hb.cancelled_any hs hrow hopen hg hdb

end Step

end Caixinha.Effects
