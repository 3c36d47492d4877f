import Caixinha.Effects.LedgerRows
import Caixinha.Effects.NetLedger
import Mathlib.Data.List.Induction

/-! Reversals in the ledger: each row is reversed once at most, by its exact opposite, the components
of a settled loan or agreement payment only together with the payment, and the balance is that of the
rows that stand. -/
namespace Caixinha.Properties.LedgerReversals

open Caixinha.Library Caixinha.Library.Table Fallible Caixinha.Model Caixinha.Effects

variable {env : Env} {db db' : Db} {entries : List LedgerEntry} {e o : LedgerEntry}

/-- Nothing was posted, settled or reversed yet. -/
structure Unopened (db : Db) : Prop where
  ledger : db.ledgerEntries = []
  settlements : db.settlements = []
  reversals : db.reversals = []

/-- The rows that are neither reversals nor reversed. -/
def standing (entries : List LedgerEntry) : List LedgerEntry :=
  entries.filter (fun e => e.reversalOfId = none ∧ ∀ x ∈ entries, x.reversalOfId ≠ some e.id)

section Standing

theorem Postings.snoc {xs ys : List LedgerEntry} (h : Postings xs (ys ++ [e])) :
    Postings xs ys ∧ Posting (xs ++ ys) e := by
  induction ys generalizing xs with
  | nil =>
    cases h with
    | cons head _ => exact ⟨.nil _, by simpa using head⟩
  | cons y ys ih =>
    cases h with
    | cons head tail =>
      obtain ⟨hrest, hlast⟩ := ih tail
      exact ⟨.cons head hrest, by simpa using hlast⟩

theorem sound_of_postings (h : Postings [] entries) : LedgerSound entries := by
  have hnil : LedgerSound [] := ⟨List.nodup_nil, by simp⟩
  simpa using hnil.extend h

/-- A row has one reversal at most, and a reversal has none. -/
theorem once_of_postings (h : Postings [] entries) : ∀ x ∈ entries, ∀ i, x.reversalOfId = some i →
    ∃ o ∈ entries, o.id = i ∧ o.reversalOfId = none ∧
      ∀ y ∈ entries, y.reversalOfId = some i → y = x := by
  induction entries using List.reverseRecOn with
  | nil => simp
  | append_singleton entries e ih =>
    obtain ⟨hrest, hlast⟩ := Postings.snoc h
    rw [List.nil_append] at hlast
    intro x hx i hi
    rcases List.mem_append.mp hx with hold | hx
    · obtain ⟨o, ho, hid, horiginal, hsole⟩ := ih hrest x hold i hi
      refine ⟨o, List.mem_append_left _ ho, hid, horiginal, fun y hy hyi => ?_⟩
      rcases List.mem_append.mp hy with hy | hy
      · exact hsole y hy hyi
      · rw [List.mem_singleton.mp hy] at hyi
        obtain ⟨_, -, -, -, -, hfresh⟩ := hlast.reverses i hyi
        exact absurd hi (hfresh x hold)
    · rw [List.mem_singleton] at hx
      subst hx
      obtain ⟨o, ho, hid, horiginal, -, hfresh⟩ := hlast.reverses i hi
      refine ⟨o, List.mem_append_left _ ho, hid, horiginal, fun y hy hyi => ?_⟩
      rcases List.mem_append.mp hy with hy | hy
      · exact absurd hyi (hfresh y hy)
      · exact List.mem_singleton.mp hy

private theorem balance_perm {account : String} {xs ys : List LedgerEntry} (h : xs.Perm ys) :
    accountBalance account xs = accountBalance account ys :=
  ((h.filter _).map LedgerEntry.signed).sum_eq

private theorem balance_without {account : String} (hkeyed : Keyed LedgerEntry.id entries)
    (ho : o ∈ entries) : accountBalance account entries =
      accountBalance account (entries.filter (fun x => x.id ≠ o.id)) +
        accountBalance account [o] := by
  have hone : entries.filter (fun x => !decide (x.id ≠ o.id)) = [o] := by
    have hmem : o ∈ entries.filter (fun x => !decide (x.id ≠ o.id)) := by
      simpa using ho
    refine eq_singleton_of_ids (hkeyed.sublist (List.filter_sublist.map _)) hmem ?_
    rw [List.filter_filter, List.filter_eq_nil_iff]
    simp
  rw [← balance_perm (List.filter_append_perm (fun x => decide (x.id ≠ o.id)) entries),
    accountBalance_append, hone]

private theorem mem_standing : e ∈ standing entries ↔
    e ∈ entries ∧ e.reversalOfId = none ∧ ∀ x ∈ entries, x.reversalOfId ≠ some e.id := by
  simp [standing]

private theorem standing_original (hs : LedgerSound entries) (hp : Posting entries e)
    (horiginal : e.reversalOfId = none) : standing (entries ++ [e]) = standing entries ++ [e] := by
  have hold : ∀ y ∈ entries, (y.reversalOfId = none ∧
        ∀ x ∈ entries ++ [e], x.reversalOfId ≠ some y.id) ↔
      (y.reversalOfId = none ∧ ∀ x ∈ entries, x.reversalOfId ≠ some y.id) := by
    intro y _
    simp [or_imp, forall_and, horiginal]
  have hnew : e.reversalOfId = none ∧ ∀ x ∈ entries ++ [e], x.reversalOfId ≠ some e.id := by
    refine ⟨horiginal, fun x hx => ?_⟩
    rcases List.mem_append.mp hx with hx | hx
    · rw [hp.id_eq]
      exact hs.not_reverses_next hx
    · rw [List.mem_singleton.mp hx, horiginal]
      simp
  rw [standing, List.filter_append, List.filter_congr fun y hy => decide_eq_decide.mpr (hold y hy),
    List.filter_cons_of_pos (by simpa using hnew), List.filter_nil]
  rfl

private theorem standing_reversal (hrev : e.reversalOfId = some o.id) :
    standing (entries ++ [e]) = (standing entries).filter (fun x => x.id ≠ o.id) := by
  have hold : ∀ y ∈ entries, (y.reversalOfId = none ∧
        ∀ x ∈ entries ++ [e], x.reversalOfId ≠ some y.id) ↔
      (y.id ≠ o.id ∧ y.reversalOfId = none ∧ ∀ x ∈ entries, x.reversalOfId ≠ some y.id) := by
    intro y _
    have hid : e.reversalOfId ≠ some y.id ↔ y.id ≠ o.id := by
      rw [hrev]
      simp [eq_comm]
    simp only [List.mem_append, List.mem_singleton, or_imp, forall_and, forall_eq, hid]
    tauto
  have hrows : entries.filter (fun y => y.reversalOfId = none ∧
        ∀ x ∈ entries ++ [e], x.reversalOfId ≠ some y.id) =
      entries.filter (fun y => y.id ≠ o.id ∧ y.reversalOfId = none ∧
        ∀ x ∈ entries, x.reversalOfId ≠ some y.id) :=
    List.filter_congr fun y hy => decide_eq_decide.mpr (hold y hy)
  rw [standing, List.filter_append, hrows, List.filter_cons_of_neg (by simp [hrev]), List.filter_nil,
    List.append_nil, standing, List.filter_filter]
  simp only [Bool.decide_and, ne_eq]

/-- The balance of a ledger is that of the rows that stand. -/
theorem balance_standing (account : String) (h : Postings [] entries)
    (hcompensates : ∀ x ∈ entries, ∀ i, x.reversalOfId = some i →
      ∃ o ∈ entries, o.id = i ∧ Compensates o x) :
    accountBalance account entries = accountBalance account (standing entries) := by
  induction entries using List.reverseRecOn with
  | nil => rfl
  | append_singleton entries e ih =>
    obtain ⟨hrest, hlast⟩ := Postings.snoc h
    rw [List.nil_append] at hlast
    have hs := sound_of_postings hrest
    have hself : e.reversalOfId ≠ some e.id := by
      intro hrev
      obtain ⟨o, ho, hid, -⟩ := hlast.reverses e.id hrev
      have := LedgerSound.id_lt ho
      have := hlast.id_eq
      omega
    have hbefore : ∀ x ∈ entries ++ [e], ∀ i, x.reversalOfId = some i →
        ∃ o ∈ entries, o.id = i ∧ Compensates o x := by
      intro x hx i hi
      obtain ⟨o, ho, hid, hc⟩ := hcompensates x hx i hi
      rcases List.mem_append.mp ho with ho | ho
      · exact ⟨o, ho, hid, hc⟩
      · rw [List.mem_singleton] at ho
        rw [← hid, ho] at hi
        rcases List.mem_append.mp hx with hx | hx
        · exact absurd hi (by rw [hlast.id_eq]; exact hs.not_reverses_next hx)
        · rw [List.mem_singleton.mp hx] at hi
          exact absurd hi hself
    have hih := ih hrest fun x hx => hbefore x (List.mem_append_left _ hx)
    cases hrev : e.reversalOfId with
    | none =>
      rw [standing_original hs hlast hrev, accountBalance_append, accountBalance_append, hih]
    | some i =>
      obtain ⟨o, ho, rfl, hc⟩ := hbefore e (by simp) i hrev
      obtain ⟨o', ho', hid, horiginal, -, hfresh⟩ := hlast.reverses o.id hrev
      have hsame : o' = o := eq_of_mem_of_key hs.keyed ho' ho hid
      subst hsame
      have hstands : o' ∈ standing entries := mem_standing.mpr ⟨ho, horiginal, hfresh⟩
      have hkeyed : Keyed LedgerEntry.id (standing entries) :=
        hs.keyed.sublist (List.filter_sublist.map _)
      rw [standing_reversal hrev, accountBalance_append, hih, balance_without hkeyed hstands,
        accountBalance_singleton, accountBalance_singleton, hc.account, hc.signed]
      split <;> ring

end Standing

section Runs
variable {op : Operation}

/-- How the ledger of a state stands, with the settlements its components are of. -/
structure Kept (db : Db) : Prop where
  posted : Postings [] db.ledgerEntries
  compensated : ∀ x ∈ db.ledgerEntries, ∀ i, x.reversalOfId = some i →
    ∃ o ∈ db.ledgerEntries, o.id = i ∧ Compensates o x
  owned : ∀ e ∈ db.ledgerEntries, isPaymentComponent e.referenceType →
    ∃ s ∈ db.settlements, e.referenceId = toString s.paymentId ∧
      (e.referenceType = .CONTRIBUTION_PAYMENT → ∃ k, s.obligation = .contribution k)
  undone : ∀ o ∈ db.ledgerEntries, ∀ x ∈ db.ledgerEntries, x.reversalOfId = some o.id →
    o.referenceType ∈ paymentComponentTypes → ∃ r ∈ db.reversals, o.referenceId = toString r.paymentId

/-- What a step keeps: rows are appended, and components come with their settlement. -/
structure Appended (db db' : Db) : Prop where
  posted : ∃ rows, db'.ledgerEntries = db.ledgerEntries ++ rows ∧ Postings db.ledgerEntries rows
  settlements : ∀ s ∈ db.settlements, s ∈ db'.settlements
  reversals : ∀ r ∈ db.reversals, r ∈ db'.reversals
  owned : ∀ e ∈ db'.ledgerEntries, isPaymentComponent e.referenceType → e ∈ db.ledgerEntries ∨
    ∃ s ∈ db'.settlements, e.referenceId = toString s.paymentId ∧
      (e.referenceType = .CONTRIBUTION_PAYMENT → ∃ k, s.obligation = .contribution k)

private theorem component_of_mem (h : e.referenceType ∈ paymentComponentTypes) :
    isPaymentComponent e.referenceType := by
  simp only [paymentComponentTypes, List.mem_cons, List.not_mem_nil, or_false] at h
  rcases h with h | h | h | h <;> rw [h] <;> rfl

private theorem mem_of_component (h : isPaymentComponent e.referenceType)
    (hne : e.referenceType ≠ .CONTRIBUTION_PAYMENT) : e.referenceType ∈ paymentComponentTypes := by
  cases htype : e.referenceType <;> simp_all [isPaymentComponent, paymentComponentTypes]

private theorem Appended.refl (db : Db) : Appended db db where
  posted := ⟨[], by simp, .nil _⟩
  settlements := fun _ h => h
  reversals := fun _ h => h
  owned := fun _ he _ => .inl he

private theorem Appended.trans {db'' : Db} (h : Appended db db') (h' : Appended db' db'') :
    Appended db db'' where
  posted := by
    obtain ⟨rows, hrows, hp⟩ := h.posted
    obtain ⟨more, hmore, hq⟩ := h'.posted
    refine ⟨rows ++ more, by rw [hmore, hrows, List.append_assoc], hp.trans ?_⟩
    rwa [hrows] at hq
  settlements := fun s hs => h'.settlements s (h.settlements s hs)
  reversals := fun r hr => h'.reversals r (h.reversals r hr)
  owned := by
    intro e he hcomponent
    rcases h'.owned e he hcomponent with he | hnew
    · rcases h.owned e he hcomponent with he | ⟨s, hs, hof⟩
      · exact .inl he
      · exact .inr ⟨s, h'.settlements s hs, hof⟩
    · exact .inr hnew

theorem appended_of_step {acted : Payment → Prop} {direct : Prop} {about : Nat → Prop}
    (h : Step acted direct about db db') : Appended db db' := by
  have hgrown : ∀ new, Grows acted db db' new ∨ Grows noPayment db db' new →
      (∀ e ∈ new.rows, e.referenceType = .CONTRIBUTION_PAYMENT →
        ∀ s ∈ new.settlements, ∃ k, s.obligation = .contribution k) → Appended db db' := by
    intro new hg hcontribution
    obtain ⟨hledger, hpostings, hsettlements, hreversals, hown⟩ : db'.ledgerEntries =
        db.ledgerEntries ++ new.rows ∧ Postings db.ledgerEntries new.rows ∧
        db'.settlements = db.settlements ++ new.settlements ∧
        db'.reversals = db.reversals ++ new.reversals ∧ OfSettlement new := by
      rcases hg with hg | hg
      · exact ⟨hg.ledger, hg.postings, hg.settlements, hg.reversals, hg.own⟩
      · exact ⟨hg.ledger, hg.postings, hg.settlements, hg.reversals, hg.own⟩
    refine ⟨⟨_, hledger, hpostings⟩, fun s hs => ?_, fun r hr => ?_, fun e he hcomponent => ?_⟩
    · rw [hsettlements]
      exact List.mem_append_left _ hs
    · rw [hreversals]
      exact List.mem_append_left _ hr
    · rw [hledger] at he
      rcases List.mem_append.mp he with he | he
      · exact .inl he
      · obtain ⟨s, hs, href⟩ := hown.rows e he hcomponent
        refine .inr ⟨s, ?_, href, fun htype => hcontribution e he htype s hs⟩
        rw [hsettlements]
        exact List.mem_append_right _ hs
  cases h with
  | aside hg haside => exact hgrown _ (.inl hg) fun e he htype => absurd htype (haside.rows e he)
  | settled _ _ hg hnew _ hsettled =>
    refine hgrown _ (.inl hg) fun e _ _ s hs => ?_
    rw [hnew, List.mem_singleton] at hs
    rw [hs]
    exact ⟨_, hsettled.obligation⟩
  | reversed _ _ hg _ _ hreversed =>
    refine hgrown _ (.inl hg) fun e _ _ s hs => ?_
    rw [hreversed.settlements] at hs
    cases hs
  | cancelled _ _ _ hg => exact hgrown _ (.inl hg) (by simp)

theorem appended_attempt {clock : Int} (hs : Sound db) (h : attempt env db clock op = .ok db') :
    Sound db' ∧ Appended db db' :=
  steps_keep (steps_attempt hs h) (fun _ _ _ hx hstep => hx.trans (appended_of_step hstep)) hs
    (Appended.refl db)

/-- One operation keeps the ledger in order: what it reverses is an original, and a component of a
settled payment only with its reversal. -/
theorem Kept.attempt {clock : Int} (h : Kept db) (hs : Sound db)
    (hop : Model.attempt env db clock op = .ok db') : Kept db' := by
  obtain ⟨hs', happended⟩ := appended_attempt hs hop
  have htold := rows_attempt hs hop
  obtain ⟨rows, hledger, hpostings⟩ := happended.posted
  have hposted : Postings [] db'.ledgerEntries := by
    rw [hledger]
    exact h.posted.trans (by simpa using hpostings)
  have hmem : ∀ e ∈ db.ledgerEntries, e ∈ db'.ledgerEntries := fun e he => by
    rw [hledger]
    exact List.mem_append_left _ he
  have howned : ∀ e ∈ db'.ledgerEntries, isPaymentComponent e.referenceType →
      ∃ s ∈ db'.settlements, e.referenceId = toString s.paymentId ∧
        (e.referenceType = .CONTRIBUTION_PAYMENT → ∃ k, s.obligation = .contribution k) := by
    intro e he hcomponent
    rcases happended.owned e he hcomponent with he | hnew
    · obtain ⟨s, hs, hof⟩ := h.owned e he hcomponent
      exact ⟨s, happended.settlements s hs, hof⟩
    · exact hnew
  refine ⟨hposted, ?_, howned, ?_⟩
  · intro x hx i hi
    rcases htold x hx with hx | hnew
    · obtain ⟨o, ho, hid, hc⟩ := h.compensated x hx i hi
      exact ⟨o, hmem o ho, hid, hc⟩
    · cases hnew with
      | original horiginal =>
        rw [horiginal] at hi
        cases hi
      | @direct o ho hc =>
        rw [hc.reverses] at hi
        exact ⟨o, hmem o ho, Option.some.inj hi, hc⟩
      | @undone o _ _ _ _ _ _ ho hc =>
        rw [hc.reverses] at hi
        exact ⟨o, hmem o ho, Option.some.inj hi, hc⟩
  · intro o ho x hx hrev htype
    have hkeyed : Keyed LedgerEntry.id db'.ledgerEntries := (sound_of_postings hposted).keyed
    rcases htold x hx with hx | hnew
    · obtain ⟨o', ho', hid, -⟩ := h.compensated x hx o.id hrev
      obtain rfl : o' = o := eq_of_mem_of_key hkeyed (hmem o' ho') ho hid
      obtain ⟨r, hr, href⟩ := h.undone o' ho' x hx hrev htype
      exact ⟨r, happended.reversals r hr, href⟩
    · cases hnew with
      | original horiginal =>
        rw [horiginal] at hrev
        cases hrev
      | @direct o' ho' hc hfree =>
        rw [hc.reverses] at hrev
        obtain rfl : o' = o := eq_of_mem_of_key hkeyed (hmem o' ho') ho (Option.some.inj hrev)
        obtain ⟨s, hs, href, -⟩ := h.owned o' ho' (component_of_mem htype)
        exact absurd href (hfree s hs htype)
      | @undone o' _ _ _ _ r _ ho' hc href hr hpaid =>
        rw [hc.reverses] at hrev
        obtain rfl : o' = o := eq_of_mem_of_key hkeyed (hmem o' ho') ho (Option.some.inj hrev)
        exact ⟨r, hr, by rw [href, hpaid]⟩

end Runs

section Reached

/-- The states the program reaches: its operations in any order and, between them, any work that
leaves the ledger, the settlements and the reversals alone. -/
inductive Reached (env : Env) : Db → Prop
  | start (db : Db) (sound : Sound db) (unopened : Unopened db) : Reached env db
  | operation (db db' : Db) (clock : Int) (op : Operation) (before : Reached env db)
      (step : Model.attempt env db clock op = .ok db') : Reached env db'
  | elsewhere (db db' : Db) (before : Reached env db) (sound : Sound db')
      (ledger : db'.ledgerEntries = db.ledgerEntries) (settlements : db'.settlements = db.settlements)
      (reversals : db'.reversals = db.reversals) : Reached env db'

private theorem Kept.start (h : Unopened db) : Kept db where
  posted := by
    rw [h.ledger]
    exact .nil _
  compensated := by simp [h.ledger]
  owned := by simp [h.ledger]
  undone := by simp [h.ledger]

/-- Every state reached has its ledger in order. -/
theorem Reached.kept (h : Reached env db) : Sound db ∧ Kept db := by
  induction h with
  | start _ sound unopened => exact ⟨sound, Kept.start unopened⟩
  | operation _ _ _ _ _ step ih =>
    obtain ⟨hs, hkept⟩ := ih
    exact ⟨(appended_attempt hs step).1, hkept.attempt hs step⟩
  | elsewhere _ _ _ sound ledger settlements reversals ih =>
    obtain ⟨-, hposted, hcompensated, howned, hundone⟩ := ih
    refine ⟨sound, ?_, ?_, ?_, ?_⟩
    · rwa [ledger]
    · rwa [ledger]
    · rwa [ledger, settlements]
    · rwa [ledger, reversals]

/-- The entries of a payment: its components in the ledger. -/
def componentsOf (db : Db) (s : PaymentSettlement) : List LedgerEntry :=
  db.ledgerEntries.filter (fun e => isPaymentComponent e.referenceType ∧
    e.referenceId = toString s.paymentId)

/-- A settlement of a loan or agreement installment. -/
def OfDebt (s : PaymentSettlement) : Prop := ∀ k, s.obligation ≠ .contribution k

/-- A row and the one reversal it has. -/
structure ReversedOnce (entries : List LedgerEntry) (original reversal : LedgerEntry) : Prop where
  isOriginal : original ∈ entries ∧ original.reversalOfId = none
  account : reversal.account = original.account
  amount : reversal.amount = original.amount
  direction : reversal.direction = original.direction.opposite
  only : ∀ e ∈ entries, e.reversalOfId = some original.id → e = reversal

/-- What reversals leave true of a ledger. -/
structure ReversalsPaired (env : Env) (db : Db) : Prop where
  paired : ∀ x ∈ db.ledgerEntries, ∀ i, x.reversalOfId = some i →
    ∃ o, o.id = i ∧ ReversedOnce db.ledgerEntries o x
  byPayment : ∀ s ∈ db.settlements, OfDebt s → ∀ o ∈ componentsOf db s, ∀ x ∈ db.ledgerEntries,
    x.reversalOfId = some o.id → ∃ r ∈ db.reversals, r.paymentId = s.paymentId
  onlyByReversal : ∀ s ∈ db.settlements, OfDebt s → ∀ o ∈ componentsOf db s, ∀ clock op db',
    Model.attempt env db clock op = .ok db' →
      (∀ x ∈ db.ledgerEntries, x.reversalOfId ≠ some o.id) →
      (∃ x ∈ db'.ledgerEntries, x.reversalOfId = some o.id) →
      ∃ adminId reason now, op = .reverse s.paymentId adminId reason now ∧
        ∃ r ∈ db'.reversals, r.paymentId = s.paymentId
  balance : db.caixinhaBalance = accountBalance "CAIXINHA" (standing db.ledgerEntries)
  untouched : ∀ s ∈ db.settlements, OfDebt s → (∀ r ∈ db.reversals, r.paymentId ≠ s.paymentId) →
    ∀ o ∈ componentsOf db s, o ∈ standing db.ledgerEntries

private theorem component_of_debt {s : PaymentSettlement} (hs : Sound db) (h : Kept db)
    (hmem : s ∈ db.settlements) (hdebt : OfDebt s) (ho : o ∈ componentsOf db s) :
    o ∈ db.ledgerEntries ∧ o.referenceType ∈ paymentComponentTypes ∧
      o.referenceId = toString s.paymentId := by
  obtain ⟨ho, hcomponent⟩ := List.mem_filter.mp ho
  obtain ⟨hcomponent, href⟩ := of_decide_eq_true hcomponent
  obtain ⟨s', hmem', href', hcontribution⟩ := h.owned o ho hcomponent
  have hsame : s' = s :=
    eq_of_mem_of_key hs.settledOnce hmem' hmem (toString_key_inj (href'.symm.trans href))
  refine ⟨ho, mem_of_component hcomponent fun htype => ?_, href⟩
  obtain ⟨k, hk⟩ := hcontribution htype
  exact hdebt k (hsame ▸ hk)

/-- In every ledger the program reaches a row has one reversal at most, its exact opposite and never
reversed itself; what a loan or agreement payment posted is compensated by its reversal alone; and
the balance is the signed sum of the rows that are neither reversals nor reversed. -/
theorem reversals_paired (h : Reached env db) : ReversalsPaired env db := by
  obtain ⟨hs, hkept⟩ := h.kept
  have hkeyed : Keyed LedgerEntry.id db.ledgerEntries := hs.ledger.keyed
  have hbyPayment : ∀ s ∈ db.settlements, OfDebt s → ∀ o ∈ componentsOf db s,
      ∀ x ∈ db.ledgerEntries, x.reversalOfId = some o.id →
        ∃ r ∈ db.reversals, r.paymentId = s.paymentId := by
    intro s hmem hdebt o ho x hx hrev
    obtain ⟨ho, htype, href⟩ := component_of_debt hs hkept hmem hdebt ho
    obtain ⟨r, hr, href'⟩ := hkept.undone o ho x hx hrev htype
    exact ⟨r, hr, toString_key_inj (href'.symm.trans href)⟩
  refine ⟨?_, hbyPayment, ?_, balance_standing _ hkept.posted hkept.compensated, ?_⟩
  · intro x hx i hi
    obtain ⟨o, ho, hid, horiginal, honly⟩ := once_of_postings hkept.posted x hx i hi
    obtain ⟨o', ho', hid', hc⟩ := hkept.compensated x hx i hi
    obtain rfl : o' = o := eq_of_mem_of_key hkeyed ho' ho (hid'.trans hid.symm)
    refine ⟨o', hid, ⟨ho, horiginal⟩, hc.account, hc.amount, hc.direction, ?_⟩
    rwa [hid]
  · intro s hmem hdebt o ho clock op db' hop hfree hreversed
    obtain ⟨ho, htype, href⟩ := component_of_debt hs hkept hmem hdebt ho
    obtain ⟨x, hx, hrev⟩ := hreversed
    rcases rows_attempt hs hop x hx with hx | hnew
    · exact absurd hrev (hfree x hx)
    · cases hnew with
      | original horiginal =>
        rw [horiginal] at hrev
        cases hrev
      | @direct o' ho' hc hdirect =>
        rw [hc.reverses] at hrev
        obtain rfl : o' = o := eq_of_mem_of_key hkeyed ho' ho (Option.some.inj hrev)
        exact absurd href (hdirect s hmem htype)
      | @undone o' paymentId adminId reason now r hoperation ho' hc href' hr hpaid =>
        rw [hc.reverses] at hrev
        obtain rfl : o' = o := eq_of_mem_of_key hkeyed ho' ho (Option.some.inj hrev)
        obtain rfl : paymentId = s.paymentId := toString_key_inj (href'.symm.trans href)
        exact ⟨adminId, reason, now, hoperation, r, hr, hpaid⟩
  · intro s hmem hdebt hunreversed o ho
    obtain ⟨hrow, htype, -⟩ := component_of_debt hs hkept hmem hdebt ho
    refine mem_standing.mpr ⟨hrow, ?_, fun x hx hrev => ?_⟩
    · by_contra hreversal
      obtain ⟨i, hi⟩ := Option.ne_none_iff_exists'.mp hreversal
      obtain ⟨_, _, _, hc⟩ := hkept.compensated o hrow i hi
      rw [hc.type] at htype
      simp [paymentComponentTypes] at htype
    · obtain ⟨r, hr, hpaid⟩ := hbyPayment s hmem hdebt o ho x hx hrev
      exact hunreversed r hr hpaid

end Reached

section Samples

private def sampleDb : Db where
  members := [{ id := 1 }]

private def sampleEnv : Env where
  sha256 := fun text => text
  lateChargeEffectiveDate := none

/-- An expense and its reversal: the ledger holds both rows and neither counts. -/
theorem sample_reversals_paired : ∃ spent undone,
    Model.attempt sampleEnv sampleDb 0 (.expense 500) = .ok spent ∧
      Model.attempt sampleEnv spent 1 (.ledgerReverse 1 "wrong invoice") = .ok undone ∧
      undone.ledgerEntries.length = 2 ∧ standing undone.ledgerEntries = [] ∧
      ReversalsPaired sampleEnv undone := by
  obtain ⟨spent, hspent, undone, hundone, hlength, hstanding⟩ : ∃ spent,
      Model.attempt sampleEnv sampleDb 0 (.expense 500) = .ok spent ∧ ∃ undone,
      Model.attempt sampleEnv spent 1 (.ledgerReverse 1 "wrong invoice") = .ok undone ∧
      undone.ledgerEntries.length = 2 ∧ standing undone.ledgerEntries = [] :=
    ⟨_, rfl, _, rfl, rfl, rfl⟩
  have hstart : Reached sampleEnv sampleDb := by
    refine .start _ ⟨?_, ?_, ?_, ?_, ?_, ?_, ?_, ?_, ?_, ?_⟩ ⟨rfl, rfl, rfl⟩
    all_goals first | exact ⟨List.nodup_nil, by simp [sampleDb]⟩ | simp [sampleDb, Keyed]
  exact ⟨spent, undone, hspent, hundone, hlength, hstanding,
    reversals_paired (.operation _ _ _ _ (.operation _ _ _ _ hstart hspent) hundone)⟩

end Samples

end Caixinha.Properties.LedgerReversals
