import Caixinha.Effects.Standing

/-! Reversing a payment of a contribution undoes its settlement, unless a row of another operation
has the id of the payment as its reference. -/
namespace Caixinha.Properties.ContributionUndo

open Caixinha.Library Caixinha.Library.Table Fallible Caixinha.Model Caixinha.Effects

variable {env : Env} {db before settled later undone : Db} {clock reversedAt : Int}
  {payment p : Payment} {c x : Contribution} {paid : Int} {k : Confirmation}
  {s : PaymentSettlement} {r : PaymentReversal}

/-- A reversal that took `later` to `undone` undid the settlement that took `before` to
`settled`. -/
structure Undoes (before settled later undone : Db) (paymentId contributionId : Nat) : Prop where
  paidAmount : (undone.contribution? contributionId).map Contribution.paidAmount =
    (before.contribution? contributionId).map Contribution.paidAmount
  balance : undone.caixinhaBalance - later.caixinhaBalance =
    before.caixinhaBalance - settled.caixinhaBalance
  compensated : ∃ rows, undone.ledgerEntries = later.ledgerEntries ++ rows ∧
    List.Forall₂ Compensates (rowsOf later .CONTRIBUTION_PAYMENT paymentId) rows

/-- Only rows of contribution payments refer to the id of the payment, and none was reversed. -/
def Uncontested (db : Db) (paymentId : Nat) : Prop :=
  ∀ e ∈ db.ledgerEntries, e.referenceId = toString paymentId →
    e.referenceType = .CONTRIBUTION_PAYMENT ∧ hasReversal db e = false

/-- What settling a contribution leaves of the payment `p`, now that it is settled by `s`. -/
structure SettledBy (db : Db) (c : Contribution) (p : Payment) (x : Contribution) (paid : Int)
    (s : PaymentSettlement) (rows : List LedgerEntry) : Prop where
  standing : Standing db p x s
  books : Books c db x (paid + s.amounts.amountApplied)
  id_eq : x.id = c.id
  live : x.cancelledAt = none
  nonneg : 0 ≤ paid
  posted : rowsOf db .CONTRIBUTION_PAYMENT p.id = rows
  single : (s.amounts.amountApplied = 0 ∧ rows = []) ∨
    ∃ e, rows = [e] ∧ 0 < s.amounts.amountApplied ∧ PaymentRow p e ∧
      e.amount.val = s.amounts.amountApplied
  written : ContributionSettlement p s x
  money : validateMoney s p false = .ok s.amounts

private theorem rowsOf_posted {rows : List LedgerEntry} {applied : Int}
    (hfree : ledgerHas before .CONTRIBUTION_PAYMENT (toString payment.id) = false)
    (hledger : settled.ledgerEntries = before.ledgerEntries ++ rows)
    (hrows : ContributionRows before payment applied rows) :
    rowsOf settled .CONTRIBUTION_PAYMENT payment.id = rows := by
  have hold : rowsOf before .CONTRIBUTION_PAYMENT payment.id = [] := by
    rw [List.eq_nil_iff_forall_not_mem]
    intro e he
    obtain ⟨hmem, hid, htype⟩ := mem_rowsOf.mp he
    rw [ledgerHas, List.any_eq_false] at hfree
    exact hfree e hmem (decide_eq_true ⟨htype, hid⟩)
  have hnew : ∀ e ∈ rows, e.referenceId = toString payment.id ∧
      e.referenceType = .CONTRIBUTION_PAYMENT := by
    rcases hrows with ⟨rfl, -⟩ | ⟨e, rfl, -, -, hrow, htype, -⟩
    · simp
    · simpa using ⟨hrow.reference, htype⟩
  rw [rowsOf, paymentLedgerRows, hledger, List.filter_append, List.filter_append, ← paymentLedgerRows,
    ← rowsOf, hold, List.nil_append, List.filter_filter, List.filter_eq_self]
  intro e he
  obtain ⟨hid, htype⟩ := hnew e he
  simp [hid, htype]

/-- A payment that settled the contribution `c` stands on its own row. -/
theorem settled_by (hs : Sound before) (hb : Books c before x paid)
    (hpayment : before.payment? payment.id = some payment)
    (hnone : before.settlementOfPayment? payment.id = none)
    (h : settleConfirmedPixPayment env before clock payment.id k = .ok (settled, s))
    (hobligation : s.obligation = .contribution c.id) :
    ∃ p x' rows, Sound settled ∧ PaidAs payment (receivedAmount payment) p ∧
      lockedContribution before payment = .ok (some x) ∧ x'.paymentId = x.paymentId ∧
      settled.ledgerEntries = before.ledgerEntries ++ rows ∧ SettledBy settled c p x' paid s rows := by
  obtain ⟨payment', hpayment', -, ⟨hfound, -⟩ | ⟨-, -, new, hg, hnew, hid, heffect⟩⟩ := settle_effect hs h
  · rw [hnone] at hfound
    cases hfound
  · obtain rfl : payment = payment' := Option.some.inj (hpayment.symm.trans hpayment')
    rcases heffect with ⟨y, hsettled⟩ | haside
    · have hyid : y.id = c.id := by simpa [hsettled.obligation] using hobligation
      obtain rfl : y = x := hb.eq_row hs (lockedContribution_some hsettled.found).1 hyid
      obtain ⟨p, hpaid, hpayments⟩ := hsettled.paid
      have href : refersTo c payment := by
        rw [← hb.refersTo_now]
        exact (lockedContribution_some hsettled.found).2
      obtain ⟨hbooks, -⟩ : Books c settled (creditedContribution y (appliedTo y payment)
          (effectiveInstant clock payment k)) (paid + appliedTo y payment) ∧ (¬ False → _) :=
        hb.settled_own hs hpayment hnone hg hnew hid hsettled
      obtain ⟨hsound, -⟩ := checkSettlement_amounts hsettled.sound
      have hfree := hb.not_posted (lookup_mem hpayment) href hnone
      have happlied : s.amounts.amountApplied = appliedTo y payment := by rw [hsettled.amounts]
      have hstanding : Standing settled p
          (creditedContribution y (appliedTo y payment) (effectiveInstant clock payment k)) s :=
        { payment := by
            rw [Db.payment?, hpayments]
            exact lookup_replace_self (hpaid.id_eq ▸ hpayment)
          contribution := by
            have hrow := hbooks.row
            rw [← hyid] at hrow
            exact hrow
          settlement := by
            rw [Db.settlementOfPayment?] at hnone
            rw [Db.settlementOfPayment?, hg.settlements, hnew, List.find?_append, hpaid.id_eq, hnone]
            simp [hid]
          obligation := hsettled.obligation
          unreversed := by
            intro r hr hrid
            rw [hg.reversals, hsettled.reversals, List.append_nil] at hr
            obtain ⟨y, hy, -, hypayment⟩ := hs.reversed r hr
            rw [Db.settlementOfPayment?, List.find?_eq_none] at hnone
            exact hnone y hy (by simpa using hypayment.trans (hrid.trans hpaid.id_eq))
          member := by
            rw [Db.member?, hg.members]
            exact hsettled.person
          account := by
            obtain ⟨account, haccount, -⟩ := hsettled.account
            exact ⟨account, haccount⟩ }
      refine ⟨p, creditedContribution y (appliedTo y payment) (effectiveInstant clock payment k), new.rows,
        hg.sound hs, hpaid, hsettled.found, rfl, hg.ledger, ?_⟩
      exact
        { standing := hstanding
          books := by rw [happlied]; exact hbooks
          id_eq := hyid
          live := hsettled.live
          nonneg := hb.nonneg
          posted := by
            rw [hpaid.id_eq]
            exact rowsOf_posted hfree hg.ledger hsettled.rows
          single := by
            rcases hsettled.rows with ⟨hnil, hhas⟩ | ⟨e, hone, hpos, -, hrow, -, hamount, -⟩
            · refine .inl ⟨?_, hnil⟩
              have hnonneg := hsound.applied_nonneg
              rw [happlied] at hnonneg ⊢
              by_contra hne
              rw [hhas (by omega)] at hfree
              cases hfree
            · exact .inr ⟨e, hone, by rw [happlied]; exact hpos, hrow.of_id hpaid.id_eq,
                by rw [happlied]; exact hamount⟩
          written := ⟨hid.trans hpaid.id_eq.symm, hsettled.obligation, hsettled.member, hsettled.version,
            hsettled.evidence⟩
          money := by
            refine validateMoney_eq_ok.mpr ⟨rfl, hsound, ?_, ?_, fun _ => ?_⟩
            · intro parts hparts
              rw [hsettled.components] at hparts
              cases hparts
            · rw [receivedAmount, hpaid.amountReceived, Option.getD_some, hsettled.amounts]
            · rw [hsettled.amounts]
              exact ⟨rfl, rfl⟩ }
    · have hmem : s ∈ new.settlements := by simp [hnew]
      exact absurd hobligation (haside.settlements s hmem c.id)

theorem SettledBy.run {rows : List LedgerEntry} (hs : Sound db) (h : SettledBy db c p x paid s rows)
    (ops : List (Int × Operation)) (hops : Untouched env p c.id db ops) :
    Sound (Model.run env db ops) ∧ SettledBy (Model.run env db ops) c p x paid s rows := by
  obtain ⟨hs', hstanding, hbooks, hrows⟩ := h.standing.run hs h.books h.id_eq ops (h.id_eq ▸ hops)
  exact ⟨hs', hstanding, hbooks, h.id_eq, h.live, h.nonneg, hrows.trans h.posted, h.single, h.written,
    h.money⟩

section Reverse
variable {adminId : Nat} {reason : String} {now : Option Timestamp} {rows : List LedgerEntry}

/-- A payment of the contribution names it, or names nothing and is named by it. -/
theorem checkContributionReference_iff (href : refersTo x p) :
    checkContributionReference p x = .ok () ↔
      p.reference = none ∨ p.reference = some (.contribution x.id) := by
  unfold refersTo at href
  unfold checkContributionReference
  split
  · rename_i id hid
    rw [hid] at href ⊢
    simp only [decide_eq_true_eq] at href
    simp [refuseIf, href]
  · rename_i o hother hid
    rw [hid]
    constructor
    · intro h
      cases h
    · rintro (h | h)
      · cases h
      · exact (hother x.id (Option.some.inj h)).elim
  · rename_i hid
    rw [hid] at href ⊢
    simpa [refuseIf] using href

theorem paymentLedgerRows_of_uncontested (h : Uncontested db p.id) :
    paymentLedgerRows db p.id = rowsOf db .CONTRIBUTION_PAYMENT p.id := by
  rw [rowsOf, eq_comm, List.filter_eq_self]
  intro e he
  obtain ⟨hmem, hid⟩ := mem_of_paymentLedgerRows he
  exact decide_eq_true (h e hmem hid).1

/-- The originals of a settled payment are found exactly when nothing else refers to its id. -/
theorem SettledBy.found_iff (hs : Sound db) (h : SettledBy db c p x paid s rows) :
    findOriginalLedger db p.id s.amounts.amountApplied = .ok rows ↔ Uncontested db p.id := by
  rw [findOriginalLedger_eq_ok hs.ledger]
  constructor
  · rintro (⟨-, -, hnone⟩ | ⟨-, row, -, hrow⟩)
    · intro e he hid
      have hmem : e ∈ paymentLedgerRows db p.id := List.mem_filter.mpr ⟨he, by simpa using hid⟩
      rw [hnone] at hmem
      cases hmem
    · intro e he hid
      have hmem : e ∈ paymentLedgerRows db p.id := List.mem_filter.mpr ⟨he, by simpa using hid⟩
      rw [hrow.rows, List.mem_singleton] at hmem
      exact hmem ▸ ⟨hrow.type, hrow.intact⟩
  · intro hfree
    have hall := paymentLedgerRows_of_uncontested hfree
    rw [h.posted] at hall
    rcases h.single with ⟨hzero, hnil⟩ | ⟨e, hone, hpos, hrow, hamount⟩
    · exact .inl ⟨hzero, hnil, by rw [hall, hnil]⟩
    · refine .inr ⟨by omega, e, hone, ?_⟩
      have hmem : e ∈ rowsOf db .CONTRIBUTION_PAYMENT p.id := by
        rw [h.posted, hone]
        exact List.mem_singleton_self e
      obtain ⟨hledger, hid, htype⟩ := mem_rowsOf.mp hmem
      exact ⟨by rw [hall, hone], htype, hrow.account, hrow.direction, hamount, hrow.original,
        (hfree e hledger hid).2⟩

private theorem forall₂_compensates {pairs : List (LedgerEntry × LedgerEntry)}
    (hall : ∀ pair ∈ pairs, Compensates pair.1 pair.2) :
    List.Forall₂ Compensates (pairs.map Prod.fst) (pairs.map Prod.snd) := by
  induction pairs with
  | nil => exact .nil
  | cons pair pairs ih =>
    exact .cons (hall pair (List.mem_cons_self ..))
      (ih fun other hother => hall other (List.mem_cons_of_mem _ hother))

theorem SettledBy.originals_eq (hs : Sound db) (h : SettledBy db c p x paid s rows)
    {originals : List LedgerEntry}
    (hfound : findOriginalLedger db p.id s.amounts.amountApplied = .ok originals) : originals = rows := by
  rcases (findOriginalLedger_eq_ok hs.ledger).mp hfound with ⟨hzero, hnil, -⟩ | ⟨-, row, hone, hrow⟩
  · rcases h.single with ⟨-, hrows⟩ | ⟨e, -, hpos, -⟩
    · rw [hnil, hrows]
    · omega
  · rw [hone, ← h.posted, rowsOf, hrow.rows, List.filter_cons_of_pos (by simpa using hrow.type),
      List.filter_nil]

theorem SettledBy.posted_balance (h : SettledBy db c p x paid s rows) :
    accountBalance "CAIXINHA" rows = s.amounts.amountApplied := by
  rcases h.single with ⟨hzero, rfl⟩ | ⟨e, rfl, -, hrow, hamount⟩
  · rw [hzero]
    rfl
  · rw [accountBalance_singleton, if_pos hrow.account, LedgerEntry.signed, hrow.direction, hamount]
    simp [Direction.sign]

/-- The compensations of the rows of a payment take what it applied from CAIXINHA. -/
theorem SettledBy.balance {new : List LedgerEntry} (h : SettledBy db c p x paid s rows)
    (hcompensated : List.Forall₂ Compensates rows new) :
    accountBalance "CAIXINHA" new = -s.amounts.amountApplied := by
  rcases h.single with ⟨hzero, rfl⟩ | ⟨e, rfl, -, hrow, hamount⟩
  · cases hcompensated
    rw [hzero]
    rfl
  · obtain ⟨e', _, hc, hnil, rfl⟩ := List.forall₂_cons_left_iff.mp hcompensated
    cases hnil
    rw [accountBalance_singleton, if_pos (hc.account.trans hrow.account), hc.signed, LedgerEntry.signed,
      hrow.direction, hamount]
    simp [Direction.sign]

/-- What reversing a settled payment found and wrote. -/
theorem SettledBy.reversed (hs : Sound later) (h : SettledBy later c p x paid s rows)
    (hreverse : reversePayment env later clock p.id adminId reason now = .ok (undone, r)) :
    checkContributionReference p x = .ok () ∧ Uncontested later p.id ∧
      (undone.contribution? c.id).map Contribution.paidAmount = some (some paid) ∧
      undone.caixinhaBalance = later.caixinhaBalance - s.amounts.amountApplied ∧
      ∃ new, undone.ledgerEntries = later.ledgerEntries ++ new ∧ List.Forall₂ Compensates rows new := by
  obtain ⟨p', hp', -, ⟨hfound, -⟩ | ⟨-, -, s', hs', hbranch⟩⟩ := reverse_cases hreverse
  · rw [Db.reversalOfPayment?] at hfound
    have hid := List.find?_some hfound
    exact absurd (by simpa using hid) (h.standing.unreversed r (List.mem_of_find?_eq_some hfound))
  · obtain rfl : p = p' := Option.some.inj (h.standing.payment.symm.trans hp')
    obtain rfl : s = s' := Option.some.inj (h.standing.settlement.symm.trans hs')
    unfold reverseObligation at hbranch
    rw [h.standing.obligation] at hbranch
    obtain ⟨x', locked, account, credit, originals, pairs, components, entries, hx', hreversible, -,
      hfst, hall, -, -, rfl⟩ := reverseContributionPayment_spec hbranch
    obtain rfl : x = x' := Option.some.inj (h.standing.contribution.symm.trans hx')
    obtain ⟨accounts, rfl, -⟩ := lockMemberFinancialAccount_spec hreversible.lock
    have hfound : findOriginalLedger later p.id s.amounts.amountApplied = .ok originals :=
      hreversible.found
    obtain rfl := h.originals_eq hs hfound
    have hcompensated : List.Forall₂ Compensates originals (pairs.map Prod.snd) := by
      rw [← hfst]
      exact forall₂_compensates hall
    refine ⟨hreversible.reference, (h.found_iff hs).mp hfound, ?_, ?_, _, rfl, hcompensated⟩
    · have hrow : lookup Contribution.id (replace Contribution.id later.contributions
          (reversedContribution x s ((now.map (·.instant)).getD clock))) x.id =
            some (reversedContribution x s ((now.map (·.instant)).getD clock)) :=
        lookup_replace_self h.standing.contribution
      rw [h.id_eq] at hrow
      rw [Db.contribution?, hrow]
      simp [reversedContribution, unpaidContribution, h.books.paidAmount]
    · have hbalance := h.balance hcompensated
      rw [Db.caixinhaBalance, accountBalance_append, hbalance, Db.caixinhaBalance]
      ring

/-- A settled payment that nothing else refers to can be reversed. -/
theorem SettledBy.reversible (hs : Sound later) (h : SettledBy later c p x paid s rows)
    (hmay : MayReverse later p adminId reason now)
    (href : checkContributionReference p x = .ok ()) (hfree : Uncontested later p.id) :
    ∃ undone r, reversePayment env later clock p.id adminId reason now = .ok (undone, r) := by
  obtain ⟨account, haccount⟩ := h.standing.account
  obtain ⟨hmem, hid⟩ := settlementOfPayment?_spec h.standing.settlement
  have hnone : later.reversalOfPayment? p.id = none := by
    rw [Db.reversalOfPayment?, List.find?_eq_none]
    intro r hr
    simpa using h.standing.unreversed r hr
  have hpaid : x.paidAmount.getD 0 = paid + s.amounts.amountApplied := by
    rw [h.books.paidAmount, Option.getD_some]
  have hcredit : ∃ credit, patrimonialReversal later account x
      (contributionFinancialStatus x (x.paidAmount.getD 0) ((now.map (·.instant)).getD clock))
      (contributionFinancialStatus x (x.paidAmount.getD 0 - s.amounts.amountApplied)
        ((now.map (·.instant)).getD clock)) = .ok credit := by
    have hactive : activeContributionCredit later account.id x.id =
        if paid + s.amounts.amountApplied = c.amount then c.amount else 0 := by
      rw [h.id_eq, h.books.credit_on (List.prefix_refl _) (h.books.member ▸ haccount), h.books.credit]
    by_cases hstops : contributionFinancialStatus x (x.paidAmount.getD 0)
          ((now.map (·.instant)).getD clock) = .PAID ∧
        contributionFinancialStatus x (x.paidAmount.getD 0 - s.amounts.amountApplied)
          ((now.map (·.instant)).getD clock) ≠ .PAID
    · refine ⟨_, patrimonialReversal_eq_ok.mpr (.inr ⟨hstops, rfl, ?_⟩)⟩
      rw [hactive, h.books.amount]
      split
      · exact .inr rfl
      · exact .inl rfl
    · exact ⟨0, patrimonialReversal_eq_ok.mpr (.inl ⟨hstops, rfl⟩)⟩
  obtain ⟨credit, hcredit⟩ := hcredit
  have hreversible : ContributionReversible later later account p s x
      ((now.map (·.instant)).getD clock) credit rows :=
    { lock := lockMemberFinancialAccount_existing h.standing.member haccount
      reference := href
      written := h.written
      money := h.money
      within := by
        have hwithin := h.books.within
        have hnonneg := h.nonneg
        rw [h.books.amount]
        omega
      paid := by
        rw [hpaid]
        have := h.nonneg
        omega
      patrimony := hcredit
      found := (h.found_iff hs).mpr hfree
      firstPayment := h.standing.unreversed
      firstSettlement := by
        intro y hy hyid
        obtain ⟨z, hz, hzid, hzpayment⟩ := hs.reversed y hy
        have hsame : z = s := eq_of_mem_of_key hs.settlements hz hmem (hzid.trans hyid)
        exact h.standing.unreversed y hy (by rw [← hzpayment, hsame, hid]) }
  rw [reversePayment_eq h.standing.payment hmay hnone h.standing.settlement, reverseObligation,
    h.standing.obligation]
  exact reverseContributionPayment_ok hs.ledger h.standing.contribution hreversible

end Reverse

/-- A contribution payment that settled can be reversed, and its reversal undoes the settlement,
exactly when the payment names nothing but its contribution and no row of another kind, and no
reversal of its own row, stands under its id in the ledger. -/
theorem reversal_undoes_iff (hs : Sound db) (hfresh : Fresh c db) (ops since : List (Int × Operation))
    (hpayment : (run env db ops).payment? payment.id = some payment)
    (hnone : (run env db ops).settlementOfPayment? payment.id = none)
    (hsettle : settleConfirmedPixPayment env (run env db ops) clock payment.id k = .ok (settled, s))
    (hobligation : s.obligation = .contribution c.id)
    (huntouched : Untouched env payment c.id settled since) {adminId : Nat} {reason : String}
    {now : Option Timestamp} (happroved : payment.status = "approved")
    (hadmin : validateAdmin (run env settled since) adminId = .ok ()) (hreason : ¬ shortReason reason)
    (hnow : ∀ t, now = some t → t.aware) (clock' : Int) :
    (∃ undone r, reversePayment env (run env settled since) clock' payment.id adminId reason now =
        .ok (undone, r) ∧
      Undoes (run env db ops) settled (run env settled since) undone payment.id c.id) ↔
    (payment.reference = none ∨ payment.reference = some (.contribution c.id)) ∧
      Uncontested (run env settled since) payment.id := by
  obtain ⟨hsound, x, paid, hbooks⟩ : Sound (run env db ops) ∧ ∃ x paid, Books c (run env db ops) x paid :=
    books_run hs hfresh.books ops
  obtain ⟨p, x', rows, hsound', hpaid, hfound, hpointer, hledger, hby⟩ :=
    settled_by hsound hbooks hpayment hnone hsettle hobligation
  obtain ⟨hlater, hby'⟩ := hby.run hsound' since (huntouched.same hpaid.id_eq hpaid.reference)
  have hrefers : refersTo x' p := by
    rw [refersTo_same hpaid.id_eq hpaid.reference,
      refersTo_row (hby.id_eq.trans hbooks.row_id.symm) hpointer]
    exact (lockedContribution_some hfound).2
  have hcheck := checkContributionReference_iff hrefers
  rw [hby.id_eq, hpaid.reference] at hcheck
  rw [← hcheck, ← hpaid.id_eq]
  constructor
  · rintro ⟨undone, r, hreverse, -⟩
    obtain ⟨href, hfree, -⟩ := hby'.reversed hlater hreverse
    exact ⟨href, hfree⟩
  · rintro ⟨href, hfree⟩
    have hmay : MayReverse (run env settled since) p adminId reason now :=
      ⟨hreason, hnow, hpaid.status.trans happroved, hadmin⟩
    obtain ⟨undone, r, hreverse⟩ : ∃ undone r, reversePayment env (run env settled since) clock' p.id
      adminId reason now = .ok (undone, r) := hby'.reversible hlater hmay href hfree
    obtain ⟨-, -, hrestored, hbalance, new, hnew, hcompensated⟩ := hby'.reversed hlater hreverse
    refine ⟨undone, r, hreverse, ?_, ?_, new, hnew, by rw [hby'.posted]; exact hcompensated⟩
    · rw [hrestored, hbooks.row, Option.map_some, hbooks.paidAmount]
    · have hposted := hby.posted_balance
      have hsettled : settled.caixinhaBalance =
          (run env db ops).caixinhaBalance + s.amounts.amountApplied := by
        rw [Db.caixinhaBalance, hledger, accountBalance_append, hposted, Db.caixinhaBalance]
      rw [hbalance, hsettled]
      ring

private def sampleContribution : Contribution where
  id := 1
  memberId := 1
  competence := 20000
  amount := 10000
  status := .PENDING
  paymentId := none
  dueDate := some 20000
  paidAmount := some 0
  paidAt := none
  cancelledAt := none
  cancellationReason := none

private def samplePayment (id : Nat) : Payment where
  id
  provider := "mercado_pago"
  providerOrderId := none
  providerPaymentId := none
  amount := 10000
  status := "approved"
  externalReference := none
  pixTxid := none
  endToEndId := none
  providerStatusDetail := none
  confirmedAt := none
  expiresAt := none
  amountReceived := none
  ledgerPostedAt := none
  reference := some (.contribution 1)
  attemptStatus := none
  calculatedForDate := none
  financialSnapshotJson := none
  snapshotHash := none
  reconciliationStatus := none

private def sampleLoan : Loan where
  id := 1
  memberId := 1
  principal := 50000
  principalSettledWithOwnBalance := 0
  calculationVersion := none
  status := .APPROVED
  disbursedAt := none
  paidAt := none
  stateRevision := 0

private def sampleDb (paymentId : Nat) : Db where
  users := [{ id := 7, isActive := true, isAdmin := true, isMaster := true }]
  members := [{ id := 1 }]
  contributions := [sampleContribution]
  loans := [sampleLoan]
  payments := [samplePayment paymentId]

private def sampleEnv : Env where
  sha256 := fun _ => ""
  lateChargeEffectiveDate := none

/-- The loan is released before the payment is confirmed. -/
private def sampleOperations : List (Int × Operation) := [(0, .releaseLoan 1)]

/-- The payment has the id of a loan that was disbursed: its reversal is refused. -/
theorem disbursed_loan_refuses_reversal : Sound (sampleDb 1) ∧ Fresh sampleContribution (sampleDb 1) ∧
    ∃ settled s, settleConfirmedPixPayment sampleEnv (run sampleEnv (sampleDb 1) sampleOperations) 5 1
        { source := "webhook" } = .ok (settled, s) ∧
      s.obligation = .contribution 1 ∧ validateAdmin settled 7 = .ok () ∧
      ∀ undone r, reversePayment sampleEnv settled 9 1 7 "wrong payer" none ≠ .ok (undone, r) := by
  refine ⟨?_, ?_, _, _, rfl, rfl, rfl, ?_⟩
  · constructor <;> first | decide | (constructor <;> decide)
  · constructor <;> decide
  · intro undone r h
    cases h

theorem sample_reversal_undoes : ∃ settled s undone r,
    settleConfirmedPixPayment sampleEnv (run sampleEnv (sampleDb 2) sampleOperations) 5 2
        { source := "webhook" } = .ok (settled, s) ∧
      reversePayment sampleEnv (run sampleEnv settled [(7, .expense 100)]) 9 2 7 "wrong payer" none =
        .ok (undone, r) ∧
      Undoes (run sampleEnv (sampleDb 2) sampleOperations) settled
        (run sampleEnv settled [(7, .expense 100)]) undone 2 1 := by
  have hsound : Sound (sampleDb 2) := by
    constructor <;> first | decide | (constructor <;> decide)
  have hfresh : Fresh sampleContribution (sampleDb 2) := by
    constructor <;> decide
  obtain ⟨settled, s, hsettle, hobligation, hledger, hadmin⟩ : ∃ settled s, settleConfirmedPixPayment
      sampleEnv (run sampleEnv (sampleDb 2) sampleOperations) 5 2 { source := "webhook" } =
        .ok (settled, s) ∧ s.obligation = .contribution 1 ∧
      Uncontested (run sampleEnv settled [(7, .expense 100)]) 2 ∧
      validateAdmin (run sampleEnv settled [(7, .expense 100)]) 7 = .ok () := by
    refine ⟨_, _, rfl, rfl, ?_, rfl⟩
    unfold Uncontested
    decide
  have hpayment : (run sampleEnv (sampleDb 2) sampleOperations).payment? (samplePayment 2).id =
      some (samplePayment 2) := rfl
  have huntouched : Untouched sampleEnv (samplePayment 2) 1 settled [(7, .expense 100)] :=
    ⟨id, id, trivial⟩
  have hreason : ¬ shortReason "wrong payer" := by decide
  have hnow : ∀ t : Timestamp, none = some t → t.aware := by simp
  obtain ⟨undone, r, hreverse, hundoes⟩ := (reversal_undoes_iff hsound hfresh sampleOperations
    [(7, .expense 100)] hpayment rfl hsettle hobligation huntouched rfl hadmin hreason hnow 9).mpr
      ⟨.inr rfl, hledger⟩
  exact ⟨settled, s, undone, r, hsettle, hreverse, hundoes⟩

end Caixinha.Properties.ContributionUndo
