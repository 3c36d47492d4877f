import Caixinha.Library.Outcomes
import Caixinha.Model.CashCutoff
import Caixinha.Properties.LedgerCommitment

/-! The cash a ledger proves at a cutoff: when the loop over its entries goes through, what it then
says, and that neither later entries nor altered ones change it unnoticed. -/
namespace Caixinha.Properties.CashCutoff

open Caixinha.Library Table Fallible HashChain Caixinha.Model LedgerCommitment

variable {sha256 : String → String} {rows rows' done more : List StoredEntry} {cutoff : Int}

section Posted

/-- A row as the writers append it to the rows before it. -/
structure Sourced (done : List StoredEntry) (row : StoredEntry) : Prop where
  id_pos : 0 < row.id
  amount_pos : 0 < row.amount
  direction : row.direction = "DEBIT" ∨ row.direction = "CREDIT"
  original : ∀ k, row.reversalOfId = some k → ∃ o ∈ done, o.id = k ∧ o.reversalOfId = none ∧
    o.amount = row.amount ∧ ∀ x ∈ done, x.reversalOfId ≠ some k

/-- Rows that the writers appended one after the other. -/
inductive Posted : List StoredEntry → Prop
  | nil : Posted []
  | snoc {done : List StoredEntry} {row : StoredEntry} (before : Posted done) (sourced : Sourced done row) :
    Posted (done ++ [row])

theorem Posted.before (h : Posted (done ++ more)) : Posted done := by
  induction more using List.reverseRecOn with
  | nil => rwa [List.append_nil] at h
  | append_singleton more row ih =>
    rw [← List.append_assoc] at h
    generalize hall : done ++ more ++ [row] = all at h
    cases h with
    | nil => simp at hall
    | snoc hbefore _ =>
      obtain ⟨heq, -⟩ := List.append_inj' hall rfl
      exact ih (heq ▸ hbefore)

theorem sourced_of_post {clock : Instant} {request : EntryRequest}
    (h : postStored sha256 rows clock request = .ok rows') :
    ∃ row, rows' = rows ++ [row] ∧ Sourced rows row ∧ row.createdAt = clock := by
  unfold postStored at h
  split at h
  · cases h
  · rename_i amount _
    simp only [bind_eq_ok, pure_eq_ok, refuseIf_eq_ok, exists_and_left, exists_const] at h
    obtain ⟨hamount, hdirection, checked, hreversal, rfl⟩ := h
    refine ⟨_, rfl, ⟨Nat.succ_pos _, not_le.mp hamount, ?_, ?_⟩, rfl⟩
    · have hmem : request.direction = "DEBIT" ∨ request.direction = "CREDIT" := by
        simpa using not_not.mp hdirection
      exact hmem
    · intro k hk
      have hk : request.reversalOfId = some k := hk
      rw [hk] at hreversal
      simp only [checkStoredReversal, bind_eq_ok, orRefuse_eq_ok, refuseIf_eq_ok, exists_and_left,
        exists_const] at hreversal
      obtain ⟨o, ho, hnone, hfresh, hsame⟩ := hreversal
      refine ⟨o, lookup_mem ho, lookup_key ho, by simpa using hnone, (not_not.mp hsame).symm, ?_⟩
      simpa using hfresh

/-- The instant of a call. -/
def clockOf : LedgerCall → Instant
  | .post clock _ => clock
  | .reverse clock _ _ _ => clock

theorem sourced_of_call {call : LedgerCall} (h : callLedger sha256 rows call = .ok rows') :
    ∃ row, rows' = rows ++ [row] ∧ Sourced rows row ∧ row.createdAt = clockOf call := by
  cases call with
  | post clock request => exact sourced_of_post h
  | reverse clock settled entryId reason =>
    simp only [callLedger, reverseStored, bind_eq_ok, orRefuse_eq_ok, refuseIf_eq_ok, exists_and_left,
      exists_const] at h
    obtain ⟨original, -, -, -, hpost⟩ := h
    exact sourced_of_post hpost

/-- The calls append posted rows, at instants of theirs and in their order. -/
theorem posted_calls (hposted : Posted rows) (calls : List LedgerCall) :
    ∃ added, buildLedger sha256 rows calls = rows ++ added ∧ Posted (rows ++ added) ∧
      (added.map StoredEntry.createdAt).Sublist (calls.map clockOf) := by
  induction calls generalizing rows with
  | nil => exact ⟨[], by rw [List.append_nil]; rfl, by rwa [List.append_nil], .slnil⟩
  | cons call calls ih =>
    rw [buildLedger, List.foldl_cons]
    cases hcall : callLedger sha256 rows call with
    | error e =>
      obtain ⟨added, hadded, hposted', hsub⟩ := ih hposted
      exact ⟨added, hadded, hposted', hsub.cons _⟩
    | ok next =>
      obtain ⟨row, rfl, hsourced, hclock⟩ := sourced_of_call hcall
      obtain ⟨added, hadded, hposted', hsub⟩ := ih (.snoc hposted hsourced)
      have hassoc : rows ++ row :: added = rows ++ [row] ++ added := List.append_cons ..
      refine ⟨row :: added, ?_, ?_, ?_⟩
      · rw [hassoc]
        exact hadded
      · rwa [hassoc]
      · rw [List.map_cons, List.map_cons, hclock]
        exact hsub.cons_cons _

end Posted

section Covered

/-- The entries at or before the cutoff. -/
def entriesUntil (rows : List StoredEntry) (cutoff : Int) : List StoredEntry :=
  rows.filter (fun row => row.createdAt.val ≤ cutoff)

abbrev ByTime (rows : List StoredEntry) : Prop :=
  rows.Pairwise (fun a b => a.createdAt.val ≤ b.createdAt.val)

abbrev ById (rows : List StoredEntry) : Prop := rows.Pairwise (fun a b => a.id < b.id)

/-- In the order of their instants the entries up to a cutoff come first. -/
theorem entriesUntil_append (h : ByTime rows) (cutoff : Int) :
    ∃ later, rows = entriesUntil rows cutoff ++ later ∧ ∀ row ∈ later, cutoff < row.createdAt.val := by
  induction rows with
  | nil => exact ⟨[], rfl, by simp⟩
  | cons row rows ih =>
    obtain ⟨hfirst, hrest⟩ := List.pairwise_cons.mp h
    by_cases hrow : row.createdAt.val ≤ cutoff
    · obtain ⟨later, heq, hlater⟩ := ih hrest
      refine ⟨later, ?_, hlater⟩
      rw [entriesUntil, List.filter_cons_of_pos (by simpa using hrow)]
      exact congrArg (row :: ·) heq
    · have hall : ∀ x ∈ row :: rows, cutoff < x.createdAt.val := by
        intro x hx
        rcases List.mem_cons.mp hx with rfl | hx
        · omega
        · have := hfirst x hx
          omega
      refine ⟨row :: rows, ?_, hall⟩
      have hnone : entriesUntil (row :: rows) cutoff = [] := by
        refine List.filter_eq_nil_iff.mpr fun x hx => ?_
        have := hall x hx
        simp
        omega
      rw [hnone, List.nil_append]

theorem coveredRows_eq (hordered : ById rows) {later : List StoredEntry}
    (hrows : rows = entriesUntil rows cutoff ++ later) :
    coveredRows rows cutoff = entriesUntil rows cutoff := by
  rw [coveredRows, inIdOrder_of_ordered hordered]
  rw [← entriesUntil]
  generalize hS : entriesUntil rows cutoff = S at hrows
  cases S using List.reverseRecOn with
  | nil => rfl
  | append_singleton init last _ =>
    rw [List.getLast?_concat]
    dsimp only
    rw [hrows] at hordered ⊢
    obtain ⟨hbefore, -, hafter⟩ := List.pairwise_append.mp hordered
    have hself : (init ++ [last]).filter (fun (row : StoredEntry) => row.id ≤ last.id) =
        init ++ [last] := by
      refine List.filter_eq_self.mpr fun x hx => ?_
      obtain ⟨-, -, hlast⟩ := List.pairwise_append.mp hbefore
      rcases List.mem_append.mp hx with hx | hx
      · have := hlast x hx last (List.mem_singleton.mpr rfl)
        simp
        omega
      · simp [List.mem_singleton.mp hx]
    have hrest : later.filter (fun (row : StoredEntry) => row.id ≤ last.id) = [] := by
      refine List.filter_eq_nil_iff.mpr fun x hx => ?_
      have := hafter last (by simp) x hx
      simp
      omega
    rw [List.filter_append, hself, hrest, List.append_nil]

/-- An entry is covered when it or a later one is at or before the cutoff. -/
theorem coveredRows_middle {row y : StoredEntry} (hids : ById (done ++ row :: more)) (hy : y ∈ row :: more)
    (hcutoff : y.createdAt.val ≤ cutoff) :
    ∃ after, coveredRows (done ++ row :: more) cutoff = done ++ row :: after := by
  obtain ⟨-, hrest, hbefore⟩ := List.pairwise_append.mp hids
  obtain ⟨hfirst, -⟩ := List.pairwise_cons.mp hrest
  have hrow : row.id ≤ y.id := by
    rcases List.mem_cons.mp hy with rfl | hy
    · exact le_rfl
    · exact (hfirst y hy).le
  have hmem : y ∈ (done ++ row :: more).filter (fun x => x.createdAt.val ≤ cutoff) :=
    List.mem_filter.mpr ⟨List.mem_append_right _ hy, by simpa using hcutoff⟩
  rw [coveredRows, inIdOrder_of_ordered hids]
  cases hlast : ((done ++ row :: more).filter (fun x => x.createdAt.val ≤ cutoff)).getLast? with
  | none =>
    rw [List.getLast?_eq_none_iff.mp hlast] at hmem
    cases hmem
  | some last =>
    have hle : y.id ≤ last.id := by
      obtain ⟨init, hinit⟩ := List.getLast?_eq_some_iff.mp hlast
      have hsorted : ById (init ++ [last]) := hinit ▸ hids.sublist List.filter_sublist
      rw [hinit] at hmem
      obtain ⟨-, -, hall⟩ := List.pairwise_append.mp hsorted
      rcases List.mem_append.mp hmem with hmem | hmem
      · exact (hall y hmem last (List.mem_singleton.mpr rfl)).le
      · rw [List.mem_singleton.mp hmem]
    have hdone : done.filter (fun (x : StoredEntry) => x.id ≤ last.id) = done := by
      refine List.filter_eq_self.mpr fun x hx => ?_
      have := hbefore x hx row (List.mem_cons_self ..)
      simp
      omega
    refine ⟨more.filter (fun (x : StoredEntry) => x.id ≤ last.id), ?_⟩
    dsimp only
    rw [List.filter_append, hdone, List.filter_cons_of_pos (by simp; omega)]

theorem entriesUntil_idem : entriesUntil (entriesUntil rows cutoff) cutoff = entriesUntil rows cutoff := by
  rw [entriesUntil, entriesUntil, List.filter_filter]
  simp

/-- What the loop does once the rows are selected. -/
def cashOf (sha256 : String → String) (covered : List StoredEntry) (cutoff : Int) :
    Tx (Int × List CashTrace) := do
  refuseIf (covered.any (fun row => cutoff < row.createdAt.val))
    "ledger ordering cannot establish an unambiguous cutoff prefix"
  checkChain sha256 none 0 covered
  let position ← (entriesUntil covered cutoff).foldlM (cashStep covered)
    { reversalIds := [], balance := 0, trace := [] }
  return (position.balance, position.trace)

theorem ledgerCashAtCutoff_eq :
    ledgerCashAtCutoff sha256 rows cutoff = cashOf sha256 (coveredRows rows cutoff) cutoff := rfl

end Covered

section Chain
variable {previous : Option String} {previousId : Nat} {row : StoredEntry}

theorem provesHash_iff : provesHash sha256 previous row = true ↔
    row.previousHash = previous ∧ ((row.expectedHash sha256 row.previousHash).toOption).isSome ∧
      row.entryHash = (row.expectedHash sha256 row.previousHash).toOption := by
  unfold provesHash
  constructor
  · intro h
    split at h
    · cases h
    · rename_i expected hexpected
      obtain ⟨hprevious, hhash⟩ := of_decide_eq_true h
      rw [hprevious, hexpected, hhash]
      exact ⟨rfl, rfl, rfl⟩
  · rintro ⟨rfl, hsome, hhash⟩
    cases hexpected : row.expectedHash sha256 row.previousHash with
    | error e =>
      rw [hexpected] at hsome
      cases hsome
    | ok expected =>
      rw [hexpected] at hhash
      exact decide_eq_true ⟨rfl, hhash⟩

theorem verified_of_checkChain (h : checkChain sha256 previous previousId rows = .ok ()) :
    Verified sha256 previous rows := by
  induction rows generalizing previous previousId with
  | nil => exact trivial
  | cons row rows ih =>
    simp only [checkChain, bind_eq_ok, refuseIf_eq_ok, exists_and_left, exists_const] at h
    obtain ⟨-, hproves, hrest⟩ := h
    obtain ⟨hprevious, hsome, hhash⟩ := provesHash_iff.mp (by simpa using hproves)
    exact ⟨hprevious, hsome, hhash, ih hrest⟩

theorem checkChain_of_verified (hdigest : ∀ text, sha256 text ≠ "") (hordered : ById rows)
    (hids : ∀ row ∈ rows, previousId < row.id) (h : Verified sha256 previous rows) :
    checkChain sha256 previous previousId rows = .ok () := by
  induction rows generalizing previous previousId with
  | nil => rfl
  | cons row rows ih =>
    obtain ⟨hprevious, hsome, hhash, hrest⟩ := h
    obtain ⟨hfirst, hordered⟩ := List.pairwise_cons.mp hordered
    have hid := hids row (List.mem_cons_self ..)
    have hproves := provesHash_iff.mpr ⟨hprevious, hsome, hhash⟩
    obtain ⟨hash, hexpected⟩ : ∃ hash, (row.expectedHash sha256 row.previousHash).toOption = some hash :=
      Option.isSome_iff_exists.mp hsome
    have hentry : row.entryHash = some hash := hhash.trans hexpected
    have hne : hash ≠ "" := by
      cases hok : row.expectedHash sha256 row.previousHash with
      | error e =>
        rw [hok] at hexpected
        cases hexpected
      | ok digest =>
        obtain ⟨payload, -, rfl⟩ := expectedHash_eq_ok.mp hok
        rw [hok] at hexpected
        rw [← Option.some.inj hexpected]
        exact hdigest _
    rw [checkChain, refuseIf, if_neg, ok_bind, refuseIf, if_neg (by simp [hproves]), ok_bind]
    · exact ih hordered hfirst hrest
    · rw [hentry]
      simp [hne]
      omega

end Chain

section Loop

/-- What the loop checks of an entry beside its hash: an account, cash movements in CAIXINHA, and a
reversal that says so and undoes an entry of its own account. -/
structure WellPosted (rows : List StoredEntry) (row : StoredEntry) : Prop where
  account : row.account ≠ ""
  cash : row.referenceType ∈ cashReferenceTypes → row.account = "CAIXINHA"
  reversal : row.reversalOfId.isSome ↔ row.referenceType = "REVERSAL"
  undoes : ∀ o ∈ rows, row.reversalOfId = some o.id → o.account = row.account ∧ o.direction ≠ row.direction

instance (rows : List StoredEntry) (row : StoredEntry) : Decidable (WellPosted rows row) :=
  decidable_of_iff (row.account ≠ "" ∧ (row.referenceType ∈ cashReferenceTypes → row.account = "CAIXINHA") ∧
      (row.reversalOfId.isSome ↔ row.referenceType = "REVERSAL") ∧
      ∀ o ∈ rows, row.reversalOfId = some o.id → o.account = row.account ∧ o.direction ≠ row.direction)
    ⟨fun ⟨h₁, h₂, h₃, h₄⟩ => ⟨h₁, h₂, h₃, h₄⟩, fun h => ⟨h.1, h.2, h.3, h.4⟩⟩

/-- What an entry adds to its account. -/
def signedAmount (row : StoredEntry) : Int := if row.direction = "CREDIT" then row.amount else -row.amount

def cashBalance (rows : List StoredEntry) : Int :=
  ((rows.filter (fun row => row.account = "CAIXINHA")).map signedAmount).sum

/-- Where the loop stands after the given entries. -/
def positionAfter (done : List StoredEntry) : CashPosition where
  reversalIds := done.filterMap StoredEntry.reversalOfId
  balance := cashBalance done
  trace := done.map StoredEntry.trace

theorem positionAfter_snoc (row : StoredEntry) :
    positionAfter (done ++ [row]) =
      { reversalIds := (positionAfter done).reversalIds ++ row.reversalOfId.toList
        balance := (positionAfter done).balance +
          if row.account = "CAIXINHA" then signedAmount row else 0
        trace := (positionAfter done).trace ++ [row.trace] } := by
  have hreversals : (done ++ [row]).filterMap StoredEntry.reversalOfId =
      done.filterMap StoredEntry.reversalOfId ++ row.reversalOfId.toList := by
    rw [List.filterMap_append]
    cases hk : row.reversalOfId <;> simp [hk]
  have hbalance : cashBalance (done ++ [row]) = cashBalance done +
      if row.account = "CAIXINHA" then signedAmount row else 0 := by
    rw [cashBalance, cashBalance, List.filter_append, List.map_append, List.sum_append]
    congr 1
    by_cases hrow : row.account = "CAIXINHA" <;> simp [hrow]
  rw [positionAfter, hreversals, hbalance, List.map_append]
  rfl

variable {row : StoredEntry} {p : CashPosition}

private theorem checkCashReversal_iff (hids : ById rows) (hsub : ∀ x ∈ done, x ∈ rows)
    (hsourced : Sourced done row) (htime : ∀ x ∈ done, x.createdAt.val ≤ row.createdAt.val)
    {reversalIds : List Nat} :
    checkCashReversal rows (positionAfter done) row row.reversalOfId = .ok reversalIds ↔
      ((row.reversalOfId.isSome ↔ row.referenceType = "REVERSAL") ∧
        ∀ o ∈ rows, row.reversalOfId = some o.id → o.account = row.account ∧ o.direction ≠ row.direction) ∧
      reversalIds = (positionAfter done).reversalIds ++ row.reversalOfId.toList := by
  cases hk : row.reversalOfId with
  | none =>
    simp only [checkCashReversal, bind_eq_ok, refuseIf_eq_ok, pure_eq_ok, exists_and_left, exists_const]
    simp [eq_comm]
  | some k =>
    obtain ⟨o, ho, rfl, hnone, hamount, hfresh⟩ := hsourced.original k hk
    have hkeyed : Keyed StoredEntry.id rows := List.pairwise_map.mpr (hids.imp fun hlt => Nat.ne_of_lt hlt)
    have hfound : lookup StoredEntry.id rows o.id = some o := lookup_of_mem hkeyed (hsub o ho)
    have hnotYet : o.id ∉ (positionAfter done).reversalIds := by
      intro hmem
      obtain ⟨x, hx, hxk⟩ := List.mem_filterMap.mp hmem
      exact hfresh x hx hxk
    have honly : (∀ x ∈ rows, some o.id = some x.id → x.account = row.account ∧ x.direction ≠ row.direction) ↔
        o.account = row.account ∧ o.direction ≠ row.direction := by
      constructor
      · exact fun h => h o (hsub o ho) rfl
      · intro h x hx hxo
        rwa [← eq_of_mem_of_key hkeyed (hsub o ho) hx (Option.some.inj hxo)]
    rw [honly]
    simp only [checkCashReversal, bind_eq_ok, refuseIf_eq_ok, orRefuse_eq_ok, pure_eq_ok, exists_and_left,
      exists_const, hfound, Option.some.injEq, exists_eq_left', hnone, hnotYet, hamount]
    have htimeO := htime o ho
    simp [not_lt.mpr htimeO, eq_comm, and_assoc]

/-- One entry of the loop goes through exactly when it is well posted. -/
theorem cashStep_iff (hids : ById rows) (hsub : ∀ x ∈ done, x ∈ rows) (hsourced : Sourced done row)
    (htime : ∀ x ∈ done, x.createdAt.val ≤ row.createdAt.val) :
    cashStep rows (positionAfter done) row = .ok p ↔
      WellPosted rows row ∧ p = positionAfter (done ++ [row]) := by
  have hreversal : ∀ ids, checkCashReversal rows (positionAfter done) row row.reversalOfId = .ok ids ↔ _ :=
    fun _ => checkCashReversal_iff hids hsub hsourced htime
  have hbalance : (if row.account = "CAIXINHA" then
      if row.direction = "CREDIT" then (positionAfter done).balance + row.amount
      else (positionAfter done).balance - row.amount else (positionAfter done).balance) =
      (positionAfter done).balance + if row.account = "CAIXINHA" then signedAmount row else 0 := by
    unfold signedAmount
    split
    · split
      · rfl
      · omega
    · omega
  have hdirection : row.direction ∈ ["CREDIT", "DEBIT"] := by
    rcases hsourced.direction with h | h <;> simp [h]
  rw [positionAfter_snoc]
  unfold cashStep
  simp only [bind_eq_ok, refuseIf_eq_ok, pure_eq_ok, exists_and_left, exists_const, hreversal, hbalance]
  constructor
  · rintro ⟨hentry, hcash, ids, ⟨⟨hsome, hundoes⟩, rfl⟩, rfl⟩
    refine ⟨⟨?_, ?_, hsome, hundoes⟩, rfl⟩
    · exact fun hempty => hentry (.inr (.inr hempty))
    · exact fun hmem => by_contra fun hne => hcash ⟨hmem, hne⟩
  · rintro ⟨⟨haccount, hcash, hsome, hundoes⟩, rfl⟩
    refine ⟨?_, ?_, _, ⟨⟨hsome, hundoes⟩, rfl⟩, rfl⟩
    · rintro (h | h | h)
      · have := hsourced.amount_pos
        omega
      · exact h hdirection
      · exact haccount h
    · rintro ⟨hmem, hne⟩
      exact hne (hcash hmem)

/-- The loop goes through exactly when every entry is well posted. -/
theorem foldlM_cashStep_iff (hids : ById rows) (hposted : Posted done) (hsub : ∀ x ∈ done, x ∈ rows)
    (htime : ByTime done) :
    done.foldlM (cashStep rows) { reversalIds := [], balance := 0, trace := [] } = .ok p ↔
      (∀ row ∈ done, WellPosted rows row) ∧ p = positionAfter done := by
  induction hposted generalizing p with
  | nil =>
    rw [List.foldlM_nil, pure_eq_ok]
    simp [positionAfter, cashBalance, eq_comm]
  | @snoc done row _ hsourced ih =>
    obtain ⟨htimeDone, -, hlast⟩ := List.pairwise_append.mp htime
    have hsubDone : ∀ x ∈ done, x ∈ rows := fun x hx => hsub x (List.mem_append_left _ hx)
    have hlastDone : ∀ x ∈ done, x.createdAt.val ≤ row.createdAt.val := fun x hx =>
      hlast x hx row (List.mem_singleton.mpr rfl)
    rw [List.foldlM_append, bind_eq_ok]
    simp only [List.foldlM_cons, List.foldlM_nil, bind_pure]
    constructor
    · rintro ⟨q, hq, hp⟩
      obtain ⟨hall, rfl⟩ := (ih hsubDone htimeDone).mp hq
      obtain ⟨hrow, rfl⟩ := (cashStep_iff hids hsubDone hsourced hlastDone).mp hp
      refine ⟨fun x hx => ?_, rfl⟩
      rcases List.mem_append.mp hx with hx | hx
      · exact hall x hx
      · exact List.mem_singleton.mp hx ▸ hrow
    · rintro ⟨hall, rfl⟩
      refine ⟨positionAfter done, (ih hsubDone htimeDone).mpr
        ⟨fun x hx => hall x (List.mem_append_left _ hx), rfl⟩, ?_⟩
      exact (cashStep_iff hids hsubDone hsourced hlastDone).mpr ⟨hall row (by simp), rfl⟩

theorem Posted.exists_original (h : Posted rows) : ∀ row ∈ rows, ∀ k, row.reversalOfId = some k →
    ∃ o ∈ rows, o.id = k := by
  induction h with
  | nil => simp
  | @snoc done last _ hsourced ih =>
    intro row hrow k hk
    rcases List.mem_append.mp hrow with hrow | hrow
    · obtain ⟨o, ho, hid⟩ := ih row hrow k hk
      exact ⟨o, List.mem_append_left _ ho, hid⟩
    · obtain ⟨o, ho, hid, -⟩ := hsourced.original k (List.mem_singleton.mp hrow ▸ hk)
      exact ⟨o, List.mem_append_left _ ho, hid⟩

theorem Posted.id_pos (h : Posted rows) : ∀ row ∈ rows, 0 < row.id := by
  induction h with
  | nil => simp
  | @snoc done last _ hsourced ih =>
    intro row hrow
    rcases List.mem_append.mp hrow with hrow | hrow
    · exact ih row hrow
    · exact List.mem_singleton.mp hrow ▸ hsourced.id_pos

/-- What an entry undoes is among the entries up to any cutoff that has it. -/
theorem wellPosted_append (hids : ById (done ++ more)) (hposted : Posted done) (hrow : row ∈ done) :
    WellPosted done row ↔ WellPosted (done ++ more) row := by
  have hkeyed : Keyed StoredEntry.id (done ++ more) :=
    List.pairwise_map.mpr (hids.imp fun hlt => Nat.ne_of_lt hlt)
  constructor
  · intro h
    refine ⟨h.account, h.cash, h.reversal, fun o ho hk => ?_⟩
    obtain ⟨x, hx, hid⟩ := hposted.exists_original row hrow _ hk
    have hsame : x = o := eq_of_mem_of_key hkeyed (List.mem_append_left _ hx) ho hid
    exact h.undoes o (hsame ▸ hx) hk
  · intro h
    exact ⟨h.account, h.cash, h.reversal, fun o ho => h.undoes o (List.mem_append_left _ ho)⟩

end Loop

section Ledger
variable {calls : List LedgerCall}

/-- A ledger of the writers at nondecreasing instants. -/
structure Timed (sha256 : String → String) (rows : List StoredEntry) : Prop where
  built : Built sha256 rows
  posted : Posted rows
  byTime : ByTime rows

theorem timed_calls (hclock : (calls.map clockOf).Pairwise (fun a b => a.val ≤ b.val)) :
    Timed sha256 (buildLedger sha256 [] calls) := by
  obtain ⟨added, hadded, hposted, hsub⟩ := @posted_calls sha256 [] Posted.nil calls
  have hbuilt : Built sha256 (buildLedger sha256 [] calls) := Built.calls calls ⟨.nil, trivial⟩
  rw [List.nil_append] at hadded hposted
  rw [hadded] at hbuilt ⊢
  have htime := hclock.sublist hsub
  rw [List.pairwise_map] at htime
  exact ⟨hbuilt, hposted, htime⟩

theorem Timed.covered (h : Timed sha256 rows) : coveredRows rows cutoff = entriesUntil rows cutoff := by
  obtain ⟨later, hrows, -⟩ := entriesUntil_append h.byTime cutoff
  exact coveredRows_eq h.built.ordered hrows

private theorem linked_front {start : Option String} (h : Verified sha256 start (done ++ more)) :
    Verified sha256 start done := by
  induction done generalizing start with
  | nil => exact trivial
  | cons row done ih =>
    obtain ⟨hprevious, hsome, hhash, hrest⟩ := h
    exact ⟨hprevious, hsome, hhash, ih hrest⟩

/-- On a ledger of the writers the checks pass, and only the loop decides. -/
theorem Timed.cash_eq (h : Timed sha256 rows) (hdigest : ∀ text, sha256 text ≠ "") (cutoff : Int) :
    ledgerCashAtCutoff sha256 rows cutoff =
      (fun position => (position.balance, position.trace)) <$> (entriesUntil rows cutoff).foldlM
        (cashStep (entriesUntil rows cutoff)) { reversalIds := [], balance := 0, trace := [] } := by
  obtain ⟨later, hrows, -⟩ := entriesUntil_append h.byTime cutoff
  rw [ledgerCashAtCutoff_eq, h.covered]
  have hidem : entriesUntil (entriesUntil rows cutoff) cutoff = entriesUntil rows cutoff := entriesUntil_idem
  have hnone : (entriesUntil rows cutoff).any (fun row => cutoff < row.createdAt.val) = false := by
    simp [entriesUntil]
  generalize entriesUntil rows cutoff = S at hrows hidem hnone
  have hids : ById S := (List.pairwise_append.mp (hrows ▸ h.built.ordered : ById (S ++ later))).1
  have hposted : Posted S := Posted.before (hrows ▸ h.posted : Posted (S ++ later))
  have hchain : checkChain sha256 none 0 S = .ok () :=
    checkChain_of_verified hdigest hids hposted.id_pos
      (linked_front (hrows ▸ h.built.verified : Verified sha256 none (S ++ later)))
  rw [cashOf, hnone, refuseIf, if_neg (by simp), ok_bind, hchain, ok_bind, hidem]
  rfl

/-- The loop on a ledger of the writers. -/
theorem Timed.cash_iff (h : Timed sha256 rows) (hdigest : ∀ text, sha256 text ≠ "")
    {balance : Int} {trace : List CashTrace} :
    ledgerCashAtCutoff sha256 rows cutoff = .ok (balance, trace) ↔
      (∀ row ∈ rows, row.createdAt.val ≤ cutoff → WellPosted rows row) ∧
        balance = cashBalance (entriesUntil rows cutoff) ∧
        trace = (entriesUntil rows cutoff).map StoredEntry.trace := by
  obtain ⟨later, hrows, -⟩ := entriesUntil_append h.byTime cutoff
  rw [h.cash_eq hdigest]
  have hmem : ∀ row, row ∈ entriesUntil rows cutoff ↔ row ∈ rows ∧ row.createdAt.val ≤ cutoff := by
    intro row
    simp [entriesUntil]
  generalize entriesUntil rows cutoff = S at hrows hmem
  have hids : ById (S ++ later) := hrows ▸ h.built.ordered
  have hidsS : ById S := (List.pairwise_append.mp hids).1
  have hposted : Posted S := Posted.before (hrows ▸ h.posted : Posted (S ++ later))
  have htime : ByTime S := (List.pairwise_append.mp (hrows ▸ h.byTime : ByTime (S ++ later))).1
  have hwell : (∀ row ∈ S, WellPosted S row) ↔
      ∀ row ∈ rows, row.createdAt.val ≤ cutoff → WellPosted rows row := by
    constructor
    · intro hall row hrow hcutoff
      have hrowS := (hmem row).mpr ⟨hrow, hcutoff⟩
      rw [hrows]
      exact (wellPosted_append hids hposted hrowS).mp (hall row hrowS)
    · intro hall row hrow
      obtain ⟨hrows', hcutoff⟩ := (hmem row).mp hrow
      have := hall row hrows' hcutoff
      rw [hrows] at this
      exact (wellPosted_append hids hposted hrow).mpr this
  simp only [map_eq_ok, Prod.mk.injEq]
  constructor
  · rintro ⟨position, hfold, rfl, rfl⟩
    obtain ⟨hall, rfl⟩ := (foldlM_cashStep_iff hidsS hposted (fun _ hx => hx) htime).mp hfold
    exact ⟨hwell.mp hall, rfl, rfl⟩
  · rintro ⟨hall, rfl, rfl⟩
    exact ⟨_, (foldlM_cashStep_iff hidsS hposted (fun _ hx => hx) htime).mpr ⟨hwell.mpr hall, rfl⟩, rfl, rfl⟩

/-- Entries after the cutoff do not change what the ledger proves at it. -/
theorem Timed.cash_append (h : Timed sha256 rows) (hids : ById (rows ++ more))
    (hmore : ∀ row ∈ more, cutoff < row.createdAt.val) :
    ledgerCashAtCutoff sha256 (rows ++ more) cutoff = ledgerCashAtCutoff sha256 rows cutoff := by
  obtain ⟨later, hrows, -⟩ := entriesUntil_append h.byTime cutoff
  have hnone : entriesUntil more cutoff = [] := by
    refine List.filter_eq_nil_iff.mpr fun row hrow => ?_
    have := hmore row hrow
    simp
    omega
  have hsame : entriesUntil (rows ++ more) cutoff = entriesUntil rows cutoff := by
    rw [entriesUntil, List.filter_append]
    change entriesUntil rows cutoff ++ entriesUntil more cutoff = _
    rw [hnone, List.append_nil]
  have hall : rows ++ more = entriesUntil (rows ++ more) cutoff ++ (later ++ more) := by
    rw [hsame, ← List.append_assoc, ← hrows]
  rw [ledgerCashAtCutoff_eq, ledgerCashAtCutoff_eq, coveredRows_eq hids hall, hsame, h.covered]

/-- The chain check catches an entry whose hashed columns no longer are those it was hashed from. -/
theorem hashedFields_of_verified {row row' : StoredEntry} {after : List StoredEntry}
    (hinj : Set.InjOn sha256 canonicalTexts) (hverified : Verified sha256 none (done ++ row :: more))
    (hverified' : Verified sha256 none (done ++ row' :: after)) (hhash : row'.entryHash = row.entryHash) :
    hashedFields row' = hashedFields row ∧ row'.previousHash = row.previousHash := by
  have hmiddle : ∀ {x : StoredEntry} {rest : List StoredEntry},
      Verified sha256 none (done ++ x :: rest) →
        ((x.expectedHash sha256 x.previousHash).toOption).isSome ∧
          x.entryHash = (x.expectedHash sha256 x.previousHash).toOption := by
    intro x rest h
    rw [List.append_cons] at h
    obtain ⟨-, -, hsome, hcarried⟩ := linked_append.mp (linked_front h)
    exact ⟨hsome, hcarried⟩
  obtain ⟨-, hcarried⟩ := hmiddle hverified
  obtain ⟨hsome', hcarried'⟩ := hmiddle hverified'
  exact digest_commits hinj hsome' (by rw [← hcarried', hhash, hcarried])

/-- An entry up to the cutoff is altered in a hashed column. -/
structure Altered (row row' : StoredEntry) : Prop where
  id_eq : row'.id = row.id
  hash : row'.entryHash = row.entryHash
  fields : hashedFields row' ≠ hashedFields row ∨ row'.previousHash ≠ row.previousHash

/-- The loop raises on an altered entry, unless it was moved past the cutoff from its end. -/
theorem Timed.altered_raises (hinj : Set.InjOn sha256 canonicalTexts) {row row' : StoredEntry}
    (h : Timed sha256 (done ++ row :: more)) (haltered : Altered row row')
    (hkept : ¬ (cutoff < row'.createdAt.val ∧ ∀ x ∈ more, cutoff < x.createdAt.val)) :
    ∃ e, ledgerCashAtCutoff sha256 (done ++ row' :: more) cutoff = .error e := by
  cases hresult : ledgerCashAtCutoff sha256 (done ++ row' :: more) cutoff with
  | error e => exact ⟨e, rfl⟩
  | ok result =>
    exfalso
    have hids : ById (done ++ row' :: more) := by
      have hordered : ((done ++ row :: more).map StoredEntry.id).Pairwise (· < ·) :=
        List.pairwise_map.mpr h.built.ordered
      have hsame : (done ++ row' :: more).map StoredEntry.id = (done ++ row :: more).map StoredEntry.id := by
        simp [haltered.id_eq]
      exact List.pairwise_map.mp (hsame ▸ hordered)
    obtain ⟨y, hy, hcutoff⟩ : ∃ y ∈ row' :: more, y.createdAt.val ≤ cutoff := by
      by_contra hnone
      refine hkept ⟨?_, fun x hx => ?_⟩
      · exact not_le.mp fun hle => hnone ⟨row', List.mem_cons_self .., hle⟩
      · exact not_le.mp fun hle => hnone ⟨x, List.mem_cons_of_mem _ hx, hle⟩
    obtain ⟨after, hcovered⟩ := coveredRows_middle hids hy hcutoff
    rw [ledgerCashAtCutoff_eq, hcovered, cashOf] at hresult
    simp only [bind_eq_ok, refuseIf_eq_ok, exists_and_left, exists_const] at hresult
    obtain ⟨-, checked, hchain, -⟩ := hresult
    obtain ⟨hfields, hprevious⟩ := hashedFields_of_verified hinj h.built.verified
      (verified_of_checkChain hchain) haltered.hash
    rcases haltered.fields with hne | hne
    · exact hne hfields
    · exact hne hprevious

/-- For every ledger of the writers at nondecreasing instants and every cutoff: the cash can be
proved exactly when the entries up to the cutoff are well posted, and is then their signed sum in
CAIXINHA with a trace of exactly those entries; entries after the cutoff leave the result as it is;
and an entry altered in a hashed column makes it raise, unless the alteration moves the last of
these entries past the cutoff, where the hash is injective. -/
theorem ledger_proves_cash_at_cutoff (hdigest : ∀ text, sha256 text ≠ "") (calls : List LedgerCall)
    (hclock : (calls.map clockOf).Pairwise (fun a b => a.val ≤ b.val)) (cutoff : Int) :
    ((∃ result, ledgerCashAtCutoff sha256 (buildLedger sha256 [] calls) cutoff = .ok result) ↔
      ∀ row ∈ buildLedger sha256 [] calls, row.createdAt.val ≤ cutoff →
        WellPosted (buildLedger sha256 [] calls) row) ∧
    (∀ balance trace,
      ledgerCashAtCutoff sha256 (buildLedger sha256 [] calls) cutoff = .ok (balance, trace) →
        balance = cashBalance (entriesUntil (buildLedger sha256 [] calls) cutoff) ∧
        trace = (entriesUntil (buildLedger sha256 [] calls) cutoff).map StoredEntry.trace) ∧
    (∀ later : List LedgerCall, (∀ call ∈ later, cutoff < (clockOf call).val) →
      ledgerCashAtCutoff sha256 (buildLedger sha256 (buildLedger sha256 [] calls) later) cutoff =
        ledgerCashAtCutoff sha256 (buildLedger sha256 [] calls) cutoff) ∧
    (Set.InjOn sha256 canonicalTexts → ∀ done row more row',
      buildLedger sha256 [] calls = done ++ row :: more → Altered row row' →
      ¬ (cutoff < row'.createdAt.val ∧ ∀ x ∈ more, cutoff < x.createdAt.val) →
        ∃ e, ledgerCashAtCutoff sha256 (done ++ row' :: more) cutoff = .error e) := by
  have htimed : Timed sha256 (buildLedger sha256 [] calls) := timed_calls hclock
  refine ⟨⟨?_, ?_⟩, ?_, ?_, ?_⟩
  · rintro ⟨⟨balance, trace⟩, hok⟩
    exact ((htimed.cash_iff hdigest).mp hok).1
  · intro hall
    exact ⟨_, (htimed.cash_iff hdigest).mpr ⟨hall, rfl, rfl⟩⟩
  · intro balance trace hok
    exact ((htimed.cash_iff hdigest).mp hok).2
  · intro later hlater
    obtain ⟨added, hadded, -, hsub⟩ := posted_calls htimed.posted later
    have hbuilt : Built sha256 (buildLedger sha256 (buildLedger sha256 [] calls) later) :=
      Built.calls later htimed.built
    rw [hadded] at hbuilt ⊢
    refine htimed.cash_append hbuilt.ordered fun row hrow => ?_
    obtain ⟨call, hcall, hclockEq⟩ := List.mem_map.mp (hsub.subset (List.mem_map_of_mem hrow))
    rw [← hclockEq]
    exact hlater call hcall
  · intro hinj done row more row' hrows haltered hkept
    rw [hrows] at htimed
    exact htimed.altered_raises hinj haltered hkept

end Ledger

section Sample

private def sampleHash (text : String) : String := "sha256:" ++ text

private theorem reversed_inRange : Calendar.InstantInRange 1767225600000001 := by decide

private theorem financialDate_inRange : Calendar.DayInRange 20453 := by decide

private def sampleCalls : List LedgerCall :=
  [.post ⟨1767225600000000, by decide⟩
    { account := "CAIXINHA", direction := "CREDIT", amount := ⟨15000, -2⟩
      referenceType := "CONTRIBUTION_PAYMENT", referenceId := "1" },
    .reverse ⟨1767225600000001, reversed_inRange⟩ [] 1 "duplicated",
    .post ⟨1767225600000002, by decide⟩
      { account := "CAIXINHA", direction := "CREDIT", amount := ⟨20000, -2⟩
        referenceType := "CONTRIBUTION_PAYMENT", referenceId := "2"
        financialDate := some ⟨20453, financialDate_inRange⟩ }]

private theorem sampleHash_injective : Set.InjOn sampleHash canonicalTexts := by
  intro a _ b _ h
  simpa [sampleHash] using h

private theorem sampleHash_ne (text : String) : sampleHash text ≠ "" := by
  intro h
  have hlength := congrArg String.length h
  simp [sampleHash] at hlength

-- Evaluating the characterisation leaves the hashes alone, which evaluating the check would not.
private theorem cash_of_calls {calls : List LedgerCall}
    (hclock : (calls.map clockOf).Pairwise (fun a b => a.val ≤ b.val))
    (hwell : ∀ row ∈ buildLedger sampleHash [] calls, row.createdAt.val ≤ cutoff →
      WellPosted (buildLedger sampleHash [] calls) row) :
    ledgerCashAtCutoff sampleHash (buildLedger sampleHash [] calls) cutoff =
      .ok (cashBalance (entriesUntil (buildLedger sampleHash [] calls) cutoff),
        (entriesUntil (buildLedger sampleHash [] calls) cutoff).map StoredEntry.trace) :=
  ((timed_calls hclock).cash_iff sampleHash_ne).mpr ⟨hwell, rfl, rfl⟩

theorem sample_ledger_proves_cash :
    ledgerCashAtCutoff sampleHash (buildLedger sampleHash [] sampleCalls) 1767225600000001 =
        ledgerCashAtCutoff sampleHash (buildLedger sampleHash [] (sampleCalls.take 2)) 1767225600000001 ∧
      (ledgerCashAtCutoff sampleHash (buildLedger sampleHash [] (sampleCalls.take 2))
        1767225600000001).map (fun result => (result.1, result.2.length)) = .ok (0, 2) ∧
      ∀ done row more, buildLedger sampleHash [] (sampleCalls.take 2) = done ++ row :: more →
        ∃ e, ledgerCashAtCutoff sampleHash (done ++ { row with amount := 1 } :: more)
          1767225600000001 = .error e := by
  obtain ⟨-, -, hstable, haltered⟩ := ledger_proves_cash_at_cutoff sampleHash_ne
    (sampleCalls.take 2) (by decide) 1767225600000001
  have hlater := hstable (sampleCalls.drop 2) (by decide)
  have hall : buildLedger sampleHash (buildLedger sampleHash [] (sampleCalls.take 2)) (sampleCalls.drop 2) =
      buildLedger sampleHash [] sampleCalls := by
    rw [buildLedger, buildLedger, ← List.foldl_append, List.take_append_drop]
    rfl
  rw [hall] at hlater
  refine ⟨hlater, ?_, fun done row more hrows => ?_⟩
  · rw [cash_of_calls (by decide) (by decide), Except.map, List.length_map]
    decide
  · have hrow : row ∈ buildLedger sampleHash [] (sampleCalls.take 2) := by
      rw [hrows]
      exact List.mem_append_cons_self
    have hposted : ∀ row ∈ buildLedger sampleHash [] (sampleCalls.take 2),
        row.amount = 15000 ∧ row.createdAt.val ≤ 1767225600000001 := by decide
    obtain ⟨hamount, hcreated⟩ := hposted row hrow
    refine haltered sampleHash_injective done row more _ hrows ⟨rfl, rfl, .inl fun hsame => ?_⟩
      (fun hlate => absurd hlate.1 (not_lt.mpr hcreated))
    have := congrArg (·.amount) hsame
    simp [hashedFields, hamount] at this

/-- An expense posted to another account, as `post_entry` allows. -/
private def outsideCalls : List LedgerCall :=
  [.post ⟨1767225600000000, by decide⟩
    { account := "RESERVA", direction := "DEBIT", amount := ⟨205, -1⟩, referenceType := "EXPENSE"
      referenceId := "1" }]

/-- The last entry up to the cutoff, moved past it. -/
private def movedRows : List StoredEntry :=
  (buildLedger sampleHash [] sampleCalls).map fun row =>
    if row.id = 2 then { row with createdAt := ⟨1767225600000003, by decide⟩ } else row

private theorem covered_movedRows : coveredRows movedRows 1767225600000001 =
    coveredRows (buildLedger sampleHash [] (sampleCalls.take 1)) 1767225600000001 := rfl

theorem cutoff_refuses_a_legal_ledger_and_misses_a_moved_entry :
    (buildLedger sampleHash [] outsideCalls).length = 1 ∧
      (ledgerCashAtCutoff sampleHash (buildLedger sampleHash [] outsideCalls) 1767225600000000).map
        Prod.fst = .error (.valueError "cash movement 1 is posted outside CAIXINHA") ∧
      (ledgerCashAtCutoff sampleHash (buildLedger sampleHash [] sampleCalls) 1767225600000001).map
        Prod.fst = .ok 0 ∧
      (ledgerCashAtCutoff sampleHash movedRows 1767225600000001).map Prod.fst = .ok 15000 := by
  refine ⟨rfl, ?_, ?_, ?_⟩
  · rw [(timed_calls (by decide)).cash_eq sampleHash_ne]
    rfl
  · rw [cash_of_calls (by decide) (by decide), Except.map]
    decide
  · rw [ledgerCashAtCutoff_eq, covered_movedRows, ← ledgerCashAtCutoff_eq,
      cash_of_calls (by decide) (by decide), Except.map]
    decide

end Sample

end Caixinha.Properties.CashCutoff
