import Caixinha.Effects.ContributionBooks

/-! A settled payment of a contribution while the operations leave both alone. -/
namespace Caixinha.Effects

open Caixinha.Library Caixinha.Library.Table Fallible Caixinha.Model

/-- The rows the ledger holds of one kind under the id of a payment. -/
def rowsOf (db : Db) (type : LedgerReferenceType) (paymentId : Nat) : List LedgerEntry :=
  (paymentLedgerRows db paymentId).filter (fun e => e.referenceType = type)

/-- A payment that settled a contribution and was not reversed. -/
structure Standing (db : Db) (p : Payment) (x : Contribution) (s : PaymentSettlement) : Prop where
  payment : db.payment? p.id = some p
  contribution : db.contribution? x.id = some x
  settlement : db.settlementOfPayment? p.id = some s
  obligation : s.obligation = .contribution x.id
  unreversed : ∀ r ∈ db.reversals, r.paymentId ≠ p.id
  member : ∃ member, db.member? x.memberId = some member
  account : ∃ account, db.accounts.find? (fun a => a.memberId = x.memberId) = some account

/-- The operations leave a payment and a contribution alone. -/
def Untouched (env : Env) (p : Payment) (contributionId : Nat) :
    Db → List (Int × Operation) → Prop
  | _, [] => True
  | db, op :: ops => ¬ actedBy op.2 p ∧ ¬ aboutOf db op.2 contributionId ∧
    Untouched env p contributionId (execute env db op) ops

section Rows
variable {acted : Payment → Prop} {db db' : Db} {new : Additions} {type : LedgerReferenceType}

theorem mem_rowsOf {paymentId : Nat} {e : LedgerEntry} : e ∈ rowsOf db type paymentId ↔
    e ∈ db.ledgerEntries ∧ e.referenceId = toString paymentId ∧ e.referenceType = type := by
  rw [rowsOf, paymentLedgerRows, List.mem_filter, List.mem_filter, decide_eq_true_eq,
    decide_eq_true_eq, and_assoc]

/-- Only a settlement posts components, and it posts those of its own payment. -/
theorem rowsOf_grows {paymentId : Nat} (htype : isPaymentComponent type)
    (hg : Grows acted db db' new) (hother : ∀ s ∈ new.settlements, s.paymentId ≠ paymentId) :
    rowsOf db' type paymentId = rowsOf db type paymentId := by
  rw [rowsOf, rowsOf, paymentLedgerRows, hg.ledger, List.filter_append, List.filter_append]
  refine List.append_right_eq_self.mpr (List.filter_eq_nil_iff.mpr ?_)
  intro e he hkind
  obtain ⟨hmem, hid⟩ := List.mem_filter.mp he
  obtain ⟨s, hs, hsid⟩ := hg.own.rows e hmem (of_decide_eq_true hkind ▸ htype)
  exact hother s hs (toString_key_inj (hsid.symm.trans (of_decide_eq_true hid)))

theorem settlementOfPayment?_grows {paymentId : Nat} {s : PaymentSettlement}
    (hg : Grows acted db db' new) (h : db.settlementOfPayment? paymentId = some s) :
    db'.settlementOfPayment? paymentId = some s := by
  rw [Db.settlementOfPayment?] at h
  rw [Db.settlementOfPayment?, hg.settlements, List.find?_append, h, Option.some_or]

/-- A settled payment gets no second settlement. -/
theorem Grows.settles_other {paymentId : Nat} {s : PaymentSettlement} (hg : Grows acted db db' new)
    (h : db.settlementOfPayment? paymentId = some s) :
    ∀ y ∈ new.settlements, y.paymentId ≠ paymentId := by
  obtain ⟨hmem, hid⟩ := settlementOfPayment?_spec h
  intro y hy
  rw [← hid]
  exact ((hg.settlement y hy).2.fresh hmem).symm

theorem actedBy_same {op : Operation} {p q : Payment} (hid : q.id = p.id)
    (href : q.reference = p.reference) : actedBy op q ↔ actedBy op p := by
  cases op <;> simp [actedBy, hid, href, noPayment]

theorem Untouched.same {env : Env} {p q : Payment} {k : Nat} (hid : q.id = p.id)
    (href : q.reference = p.reference) {ops : List (Int × Operation)}
    (h : Untouched env p k db ops) : Untouched env q k db ops := by
  induction ops generalizing db with
  | nil => trivial
  | cons op ops ih =>
    obtain ⟨hacted, habout, hrest⟩ := h
    exact ⟨fun hyes => hacted ((actedBy_same hid href).mp hyes), habout, ih hrest⟩

/-- The books of a contribution stay in step through any operations. -/
theorem books_run {env : Env} {c x : Contribution} {paid : Int} (hs : Sound db)
    (hb : Books c db x paid) (ops : List (Int × Operation)) :
    Sound (run env db ops) ∧ ∃ y paid', Books c (run env db ops) y paid' := by
  refine run_keeps (P := fun z => ∃ y paid', Books c z y paid') ops ?_ hs ⟨x, paid, hb⟩
  rintro x - - op - y z hy ⟨w, paid', hw⟩ hstep
  obtain ⟨w', paid'', hw', -⟩ := hw.step hy hstep
  exact ⟨w', paid'', hw'⟩

end Rows

section Step
variable {acted : Payment → Prop} {direct : Prop} {about : Nat → Prop} {db db' : Db} {p : Payment}
  {x : Contribution} {s : PaymentSettlement} {env : Env}

/-- A contribution no operation is about stays as it is. -/
theorem Step.contribution_same {k : Nat} (h : Step acted direct about db db') (hnot : ¬ about k) :
    db'.contribution? k = db.contribution? k := by
  have hreplaced : ∀ {y z : Contribution},
      db'.contributions = replace Contribution.id db.contributions z → about y.id → z.id = y.id →
      db'.contribution? k = db.contribution? k := by
    intro y z heq habout hid
    have hne : k ≠ z.id := fun hk => hnot (hk ▸ hid ▸ habout)
    rw [Db.contribution?, heq, lookup_replace_ne hne, ← Db.contribution?]
  cases h with
  | aside _ ha => rw [Db.contribution?, ha.contributions, ← Db.contribution?]
  | settled _ _ _ _ _ hsettled habout => exact hreplaced hsettled.contributions habout rfl
  | reversed _ _ _ _ _ hreversed habout => exact hreplaced hreversed.contributions habout rfl
  | cancelled _ _ _ _ hdb habout =>
    exact hreplaced (congrArg Db.contributions hdb) habout rfl

/-- The reversals an operation adds are of payments whose contribution it is about, or of no
contribution. -/
theorem Step.unreversed_same (hs : Sound db) (h : Step acted direct about db db')
    (hstanding : Standing db p x s) (hnot : ¬ about x.id) :
    ∀ r ∈ db'.reversals, r.paymentId ≠ p.id := by
  obtain ⟨hmem, hpaymentId⟩ := settlementOfPayment?_spec hstanding.settlement
  have hsame : ∀ {y : PaymentSettlement}, y ∈ db.settlements → y.paymentId = p.id → y = s :=
    fun hy hid => eq_of_mem_of_key hs.settledOnce hy hmem (hid.trans hpaymentId.symm)
  have hnone : ∀ {new : Additions}, Grows acted db db' new →
      (∀ r ∈ new.reversals, ∀ y ∈ db.settlements, y.id = r.settlementId → y ≠ s) →
      ∀ r ∈ db'.reversals, r.paymentId ≠ p.id := by
    intro new hg hother r hr hid
    rw [hg.reversals] at hr
    rcases List.mem_append.mp hr with hr | hr
    · exact hstanding.unreversed r hr hid
    · obtain ⟨y, hy, hyid, hypayment⟩ := (hg.reversal r hr).2.settled
      exact hother r hr y hy hyid (hsame hy (hypayment.trans hid))
  cases h with
  | aside hg ha =>
    refine hnone hg fun r hr y hy hid heq => ha.reversals r hr y hy hid x.id ?_
    rw [heq]
    exact hstanding.obligation
  | settled _ _ hg _ _ hsettled =>
    refine hnone hg fun r hr => ?_
    rw [hsettled.reversals] at hr
    cases hr
  | @reversed payment settlement y _ r _ _ _ _ _ hsettlement hg hnew hrid hreversed habout =>
    refine hnone hg fun r' hr' z hz hid heq => ?_
    rw [hnew, List.mem_singleton] at hr'
    have hzs : z = settlement := eq_of_mem_of_key hs.settlements hz
      (settlementOfPayment?_spec hsettlement).1 (by rw [hid, hr', hrid])
    have hobligation := hreversed.obligation
    rw [← hzs, heq, hstanding.obligation, Obligation.contribution.injEq] at hobligation
    exact hnot (hobligation ▸ habout)
  | cancelled _ _ _ hg => exact hnone hg (by simp)

theorem Standing.step (hstanding : Standing db p x s) (hs : Sound db)
    (h : Step acted direct about db db') (hacted : ¬ acted p) (habout : ¬ about x.id) :
    Standing db' p x s ∧
      rowsOf db' .CONTRIBUTION_PAYMENT p.id = rowsOf db .CONTRIBUTION_PAYMENT p.id := by
  obtain ⟨new, hg⟩ := h.grows
  refine ⟨⟨?_, ?_, settlementOfPayment?_grows hg hstanding.settlement, hstanding.obligation,
    h.unreversed_same hs hstanding habout, ?_, ?_⟩, ?_⟩
  · obtain ⟨q, hq, -, -, hsame, -⟩ := hg.payments.lookup hstanding.payment
    rw [hsame hacted] at hq
    exact hq
  · rw [h.contribution_same habout]
    exact hstanding.contribution
  · rw [Db.member?, hg.members]
    exact hstanding.member
  · obtain ⟨account, haccount⟩ := hstanding.account
    exact ⟨account, by rw [hg.accounts, List.find?_append, haccount, Option.some_or]⟩
  · exact rowsOf_grows rfl hg (hg.settles_other hstanding.settlement)

/-- What a run that leaves the payment and its contribution alone keeps of them. -/
theorem Standing.run {c : Contribution} {paid : Int} (hs : Sound db) (hstanding : Standing db p x s)
    (hb : Books c db x paid) (hid : x.id = c.id) (ops : List (Int × Operation))
    (hops : Untouched env p x.id db ops) :
    Sound (Model.run env db ops) ∧ Standing (Model.run env db ops) p x s ∧
      Books c (Model.run env db ops) x paid ∧
      rowsOf (Model.run env db ops) .CONTRIBUTION_PAYMENT p.id = rowsOf db .CONTRIBUTION_PAYMENT p.id := by
  induction ops generalizing db with
  | nil => exact ⟨hs, hstanding, hb, rfl⟩
  | cons op ops ih =>
    obtain ⟨hacted, habout, hrest⟩ := hops
    obtain ⟨hs', hstanding', hb', hrows⟩ := steps_keep (steps_execute hs op)
      (P := fun z => Standing z p x s ∧ Books c z x paid ∧
        rowsOf z .CONTRIBUTION_PAYMENT p.id = rowsOf db .CONTRIBUTION_PAYMENT p.id)
      (fun y z hy hkept hstep => by
        obtain ⟨hstands, hrows⟩ := hkept.1.step hy hstep hacted habout
        obtain ⟨x', paid', hbooks, -⟩ := hkept.2.1.step hy hstep
        have hrow := hbooks.row
        rw [← hid, hstands.contribution, Option.some.injEq] at hrow
        subst hrow
        have hpaid : paid' = paid :=
          Option.some.inj (hbooks.paidAmount.symm.trans hkept.2.1.paidAmount)
        exact ⟨hstands, hpaid ▸ hbooks, hrows.trans hkept.2.2⟩) hs ⟨hstanding, hb, rfl⟩
    obtain ⟨hs'', hstanding'', hb'', hrows'⟩ := ih hs' hstanding' hb' hrest
    exact ⟨hs'', hstanding'', hb'', hrows'.trans hrows⟩

end Step

end Caixinha.Effects
