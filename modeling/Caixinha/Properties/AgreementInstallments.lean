import Caixinha.Effects.InstallmentSteps
import Caixinha.Library.Quotients
import Caixinha.Library.Runs
import Caixinha.Model.PixCharges

/-! The installments an approval creates, and the agreement they settle: when the shares come out
right, and that the agreement is then settled exactly while nothing of it is open. -/
namespace Caixinha.Properties.AgreementInstallments

open Caixinha.Library Caixinha.Library.Table Caixinha.Library.Decimal Fallible
open Caixinha.Model Caixinha.Effects

variable {env : Env} {db db' approved : Db} {clock today : Int} {agreement a : CollectionAgreement}
  {loan : Loan} {inst i : AgreementInstallment} {e : AgreementEvidence} {id : Nat}

/-- The installments of an agreement. -/
def rowsOf (db : Db) (id : Nat) : List AgreementInstallment :=
  db.agreementInstallments.filter (fun i => i.agreementId = id)

theorem mem_rowsOf : i ∈ rowsOf db id ↔ i ∈ db.agreementInstallments ∧ i.agreementId = id := by
  simp [rowsOf]

section Balance

theorem agreementDue_credited {received effectiveAt : Int} :
    (creditedInstallment inst (agreementSplit inst received) effectiveAt).status = .PAID ↔
      agreementDue (creditedInstallment inst (agreementSplit inst received) effectiveAt) = 0 := by
  unfold creditedInstallment
  dsimp only
  split
  · rename_i hdue
    exact ⟨fun _ => hdue, fun _ => rfl⟩
  · rename_i hdue
    exact ⟨fun h => (by cases h), fun h => absurd h hdue⟩

end Balance

section Invariant

/-- The agreement is settled while all its installments are paid, an installment is paid while it has
no balance, and every payment on record found an open balance under an approved agreement. -/
structure Tracked (db : Db) (id : Nat) : Prop where
  tables : AgreementTables db
  nonempty : rowsOf db id ≠ []
  agreement : ∃ a, db.agreement? id = some a ∧ (a.status = .APPROVED ∨ a.status = .SETTLED) ∧
    (a.status = .SETTLED ↔ ∀ i ∈ rowsOf db id, i.status = .PAID)
  paid : ∀ i ∈ rowsOf db id, i.status = .PAID ↔ agreementDue i = 0
  evidence : ∀ s ∈ db.settlements, ∀ i ∈ rowsOf db id, s.obligation = .agreementInstallment i.id →
    ∀ e, s.agreementEvidence = some e → e.agreementStatusBefore = .APPROVED ∧
      e.installmentStatusBefore ≠ .PAID ∧ agreementDue (restoredAgreementInstallment i e) ≠ 0

private theorem Tracked.unpaid (h : Tracked db id) (hmem : inst ∈ rowsOf db id)
    (ha : db.agreement? id = some a) (hdue : agreementDue inst ≠ 0) : a.status = .APPROVED := by
  obtain ⟨a', ha', hstatus, hsettled⟩ := h.agreement
  obtain rfl : a = a' := Option.some.inj (ha.symm.trans ha')
  refine hstatus.resolve_right fun hdone => hdue ?_
  exact (h.paid inst hmem).mp (hsettled.mp hdone inst hmem)

/-- The rows of an agreement after one of its installments was written. -/
private theorem mem_rowsOf_written (hinstallments : db'.agreementInstallments =
      replace AgreementInstallment.id db.agreementInstallments inst)
    (hmem : i ∈ rowsOf db' id) : i = inst ∨ (i ∈ rowsOf db id ∧ i.id ≠ inst.id) := by
  obtain ⟨hi, hid⟩ := mem_rowsOf.mp hmem
  rw [hinstallments] at hi
  rcases mem_replace_other hi with rfl | ⟨hi, hne⟩
  · exact .inl rfl
  · exact .inr ⟨mem_rowsOf.mpr ⟨hi, hid⟩, hne⟩

private theorem written_mem {after : AgreementInstallment} (hinstallments : db'.agreementInstallments =
      replace AgreementInstallment.id db.agreementInstallments after)
    (hinst : db.agreementInstallment? inst.id = some inst) (hkey : after.id = inst.id)
    (hid : after.agreementId = id) : after ∈ rowsOf db' id := by
  refine mem_rowsOf.mpr ⟨?_, hid⟩
  rw [hinstallments]
  exact mem_replace_self (hkey.symm ▸ hinst)

/-- An installment of another agreement leaves the rows of this one. -/
private theorem rowsOf_other {after : AgreementInstallment} (ht : AgreementTables db)
    (hinstallments : db'.agreementInstallments =
      replace AgreementInstallment.id db.agreementInstallments after)
    (hinst : db.agreementInstallment? inst.id = some inst) (hkey : after.id = inst.id)
    (hsame : after.agreementId = inst.agreementId) (hother : inst.agreementId ≠ id) :
    rowsOf db' id = rowsOf db id := by
  have hkeep : ∀ x ∈ db.agreementInstallments,
      (if x.id = after.id then after else x).agreementId = x.agreementId := by
    intro x hx
    split
    · rename_i hx_key
      rw [eq_of_mem_of_key ht.replacements hx (lookup_mem hinst) (hx_key.trans hkey), hsame]
    · rfl
  rw [rowsOf, rowsOf, hinstallments, replace, List.filter_map]
  have hfilter : db.agreementInstallments.filter ((fun i => decide (i.agreementId = id)) ∘
      fun x => if x.id = after.id then after else x) =
      db.agreementInstallments.filter (fun i => i.agreementId = id) := by
    apply List.filter_congr
    intro x hx
    rw [Function.comp_apply, hkeep x hx]
  rw [hfilter]
  refine (List.map_congr_left fun x hx => ?_).trans (List.map_id _)
  obtain ⟨hx, hxid⟩ := List.mem_filter.mp hx
  rw [id_eq, if_neg]
  intro hx_key
  rw [eq_of_mem_of_key ht.replacements hx (lookup_mem hinst) (hx_key.trans hkey)] at hxid
  exact hother (of_decide_eq_true hxid)

private theorem rowsOf_written_ne_nil {after : AgreementInstallment}
    (hinstallments : db'.agreementInstallments =
      replace AgreementInstallment.id db.agreementInstallments after)
    (hinst : db.agreementInstallment? inst.id = some inst) (hkey : after.id = inst.id)
    (hid : after.agreementId = id) : rowsOf db' id ≠ [] :=
  List.ne_nil_of_mem (written_mem hinstallments hinst hkey hid)

/-- A payment taken by an installment of the agreement. -/
private theorem Tracked.paid_step {received effectiveAt : Int} {s : PaymentSettlement}
    (h : Tracked db inst.agreementId) (ht : AgreementTables db')
    (hinst : db.agreementInstallment? inst.id = some inst)
    (hagreement : db.agreement? inst.agreementId = some a) (hdue : 0 < agreementDue inst)
    (hinstallments : db'.agreementInstallments = replace AgreementInstallment.id
      db.agreementInstallments (creditedInstallment inst (agreementSplit inst received) effectiveAt))
    (hagreements : db'.agreements = replace CollectionAgreement.id db.agreements
      (creditedAgreement (db.putAgreementInstallment
        (creditedInstallment inst (agreementSplit inst received) effectiveAt)) a))
    (hsettlements : db'.settlements = db.settlements ++ [s])
    (hobligation : s.obligation = .agreementInstallment inst.id)
    (hevidence : s.agreementEvidence = some (agreementEvidence inst
      (creditedInstallment inst (agreementSplit inst received) effectiveAt) a
      (creditedAgreement (db.putAgreementInstallment
        (creditedInstallment inst (agreementSplit inst received) effectiveAt)) a))) :
    Tracked db' inst.agreementId := by
  have hmem : inst ∈ rowsOf db inst.agreementId := mem_rowsOf.mpr ⟨lookup_mem hinst, rfl⟩
  have happroved : a.status = .APPROVED := h.unpaid hmem hagreement (by omega)
  have haid : a.id = inst.agreementId := lookup_key hagreement
  have hitems : (db.putAgreementInstallment (creditedInstallment inst (agreementSplit inst received)
      effectiveAt)).agreementInstallments.filter (fun i => i.agreementId = a.id) =
      rowsOf db' inst.agreementId := by
    rw [rowsOf, hinstallments, haid]
    rfl
  have hnonempty : rowsOf db' inst.agreementId ≠ [] :=
    rowsOf_written_ne_nil hinstallments hinst rfl rfl
  refine ⟨ht, hnonempty, ?_, ?_, ?_⟩
  · refine ⟨creditedAgreement (db.putAgreementInstallment
      (creditedInstallment inst (agreementSplit inst received) effectiveAt)) a, ?_, ?_⟩
    · rw [Db.agreement?, hagreements, ← haid]
      exact lookup_replace_self (x := a) (haid.symm ▸ hagreement)
    · unfold creditedAgreement touchCollectionAgreement
      dsimp only
      rw [hitems, happroved]
      split
      · rename_i hall
        refine ⟨.inr rfl, fun _ i hi => ?_, fun _ => rfl⟩
        simpa using List.all_eq_true.mp hall.2 i hi
      · rename_i hsome
        refine ⟨.inl rfl, fun hsettled => (by cases hsettled), fun hall => absurd ?_ hsome⟩
        refine ⟨by simpa using hnonempty, List.all_eq_true.mpr fun i hi => ?_⟩
        simpa using hall i hi
  · intro i hi
    rcases mem_rowsOf_written hinstallments hi with rfl | ⟨hi, -⟩
    · exact agreementDue_credited
    · exact h.paid i hi
  · intro x hx i hi hx_obligation evidence hx_evidence
    rw [hsettlements] at hx
    rcases List.mem_append.mp hx with hx | hx
    · rcases mem_rowsOf_written hinstallments hi with rfl | ⟨hi, -⟩
      · exact h.evidence x hx inst hmem hx_obligation evidence hx_evidence
      · exact h.evidence x hx i hi hx_obligation evidence hx_evidence
    · obtain rfl := List.mem_singleton.mp hx
      cases Option.some.inj (hevidence.symm.trans hx_evidence)
      have hsame : i.id = inst.id := by
        rw [hobligation] at hx_obligation
        exact (Obligation.agreementInstallment.inj hx_obligation).symm
      rcases mem_rowsOf_written hinstallments hi with rfl | ⟨-, hne⟩
      · have hopen : inst.status ≠ .PAID := fun hpaid => by
          have := (h.paid inst hmem).mp hpaid
          omega
        have hrestored : agreementDue inst ≠ 0 := by omega
        exact ⟨happroved, hopen, hrestored⟩
      · exact absurd hsame hne

/-- A payment taken back from an installment of the agreement. -/
private theorem Tracked.undone_step {s : PaymentSettlement} (h : Tracked db inst.agreementId)
    (ht : AgreementTables db') (hs : s ∈ db.settlements)
    (hobligation : s.obligation = .agreementInstallment inst.id)
    (hevidence : s.agreementEvidence = some e) (hinst : db.agreementInstallment? inst.id = some inst)
    (hagreement : db.agreement? inst.agreementId = some a)
    (hinstallments : db'.agreementInstallments = replace AgreementInstallment.id
      db.agreementInstallments (restoredAgreementInstallment inst e))
    (hagreements : db'.agreements = replace CollectionAgreement.id db.agreements (restoredAgreement a e))
    (hsettlements : db'.settlements = db.settlements) : Tracked db' inst.agreementId := by
  have hmem : inst ∈ rowsOf db inst.agreementId := mem_rowsOf.mpr ⟨lookup_mem hinst, rfl⟩
  obtain ⟨hbefore, hopen, hdue⟩ := h.evidence s hs inst hmem hobligation e hevidence
  have haid : a.id = inst.agreementId := lookup_key hagreement
  have hafter : restoredAgreementInstallment inst e ∈ rowsOf db' inst.agreementId :=
    written_mem hinstallments hinst rfl rfl
  refine ⟨ht, List.ne_nil_of_mem hafter, ?_, ?_, ?_⟩
  · refine ⟨restoredAgreement a e, ?_, .inl hbefore, fun hsettled => ?_, fun hall => ?_⟩
    · rw [Db.agreement?, hagreements, ← haid]
      exact lookup_replace_self (x := a) (haid.symm ▸ hagreement)
    · have hstatus : (restoredAgreement a e).status = .APPROVED := hbefore
      rw [hstatus] at hsettled
      cases hsettled
    · exact absurd (hall _ hafter) hopen
  · intro i hi
    rcases mem_rowsOf_written hinstallments hi with rfl | ⟨hi, -⟩
    · exact ⟨fun hpaid => absurd hpaid hopen, fun hzero => absurd hzero hdue⟩
    · exact h.paid i hi
  · intro x hx i hi hx_obligation evidence hx_evidence
    rw [hsettlements] at hx
    rcases mem_rowsOf_written hinstallments hi with rfl | ⟨hi, -⟩
    · exact h.evidence x hx inst hmem hx_obligation evidence hx_evidence
    · exact h.evidence x hx i hi hx_obligation evidence hx_evidence

/-- What happens under another agreement is none of this one's. -/
private theorem Tracked.other_step (after : AgreementInstallment) (agreementAfter : CollectionAgreement)
    (new : List PaymentSettlement) (h : Tracked db id) (ht : AgreementTables db')
    (hinst : db.agreementInstallment? inst.id = some inst)
    (hagreement : db.agreement? inst.agreementId = some a) (hother : inst.agreementId ≠ id)
    (hkey : after.id = inst.id) (hsame : after.agreementId = inst.agreementId)
    (hid : agreementAfter.id = a.id)
    (hinstallments : db'.agreementInstallments =
      replace AgreementInstallment.id db.agreementInstallments after)
    (hagreements : db'.agreements = replace CollectionAgreement.id db.agreements agreementAfter)
    (hsettlements : db'.settlements = db.settlements ++ new)
    (hnew : ∀ s ∈ new, s.obligation = .agreementInstallment inst.id) : Tracked db' id := by
  have hrows := rowsOf_other h.tables hinstallments hinst hkey hsame hother
  have hagreement' : db'.agreement? id = db.agreement? id := by
    rw [Db.agreement?, Db.agreement?, hagreements]
    refine lookup_replace_ne ?_
    have haid : a.id = inst.agreementId := lookup_key hagreement
    rw [hid, haid]
    exact hother.symm
  refine ⟨ht, hrows ▸ h.nonempty, ?_, ?_, ?_⟩
  · rw [hagreement', hrows]
    exact h.agreement
  · rw [hrows]
    exact h.paid
  · intro s hs i hi hobligation
    rw [hrows] at hi
    rw [hsettlements] at hs
    rcases List.mem_append.mp hs with hs | hs
    · exact h.evidence s hs i hi hobligation
    · rw [hnew s hs] at hobligation
      have hiid : i.id = inst.id := (Obligation.agreementInstallment.inj hobligation).symm
      obtain ⟨himem, hagreementId⟩ := mem_rowsOf.mp hi
      have : i = inst := eq_of_mem_of_key h.tables.replacements himem (lookup_mem hinst) hiid
      exact absurd (this ▸ hagreementId) hother

theorem Tracked.next (h : Tracked db id) (step : InstallmentStep) : Tracked (step.next env db) id := by
  obtain ⟨heffect, ht⟩ := @installmentStep_effect env db h.tables step
  cases heffect with
  | idle hagreements hinstallments hsettlements =>
    have hrows : rowsOf (step.next env db) id = rowsOf db id := by rw [rowsOf, rowsOf, hinstallments]
    refine ⟨ht, hrows ▸ h.nonempty, ?_, hrows ▸ h.paid, ?_⟩
    · rw [Db.agreement?, hagreements, hrows]
      exact h.agreement
    · rw [hsettlements, hrows]
      exact h.evidence
  | paid inst agreement received effectiveAt s hinst hagreement hdue hinstallments hagreements
      hsettlements hobligation hevidence =>
    by_cases hsame : inst.agreementId = id
    · subst hsame
      exact h.paid_step ht hinst hagreement hdue hinstallments hagreements hsettlements hobligation
        hevidence
    · exact Tracked.other_step (creditedInstallment inst (agreementSplit inst received) effectiveAt)
        (creditedAgreement (db.putAgreementInstallment
          (creditedInstallment inst (agreementSplit inst received) effectiveAt)) agreement) [s] h ht hinst
        hagreement hsame rfl rfl rfl hinstallments hagreements hsettlements (by simpa using hobligation)
  | undone inst agreement s e hs hobligation hevidence hinst hagreement hinstallments hagreements
      hsettlements =>
    by_cases hsame : inst.agreementId = id
    · subst hsame
      exact h.undone_step ht hs hobligation hevidence hinst hagreement hinstallments hagreements
        hsettlements
    · refine Tracked.other_step (restoredAgreementInstallment inst e) (restoredAgreement agreement e) []
        h ht hinst hagreement hsame rfl rfl rfl hinstallments hagreements ?_ (by simp)
      rw [hsettlements, List.append_nil]

theorem Tracked.run (h : Tracked db id) (steps : List InstallmentStep) :
    Tracked (installmentRun env db steps) id :=
  Runs.foldl_invariant (I := fun db => Tracked db id) (fun _ step hdb => hdb.next step) h steps

end Invariant

section Shares
variable {base penalty : Int} {n : Nat} {parts : List Int}

/-- The share of an installment but the last: the base over their number, rounded half up. -/
def share (base : Int) (n : Nat) : Int := (2 * base + n) / (2 * n)

/-- Every share leaves something for the last installment, and there is one installment or none of the
shares rounds to nothing. -/
def EvenShares (base : Int) (n : Nat) : Prop :=
  n = 1 ∨ (n ≤ 2 * base ∧ (n - 1 : Int) * ((2 * base + n) / (2 * n)) < base)

/-- The column of the total holds fourteen digits. -/
def totalLimit : Int := 100000000000000

private theorem splitBase_eq (hbase : 0 ≤ base) (hlimit : base ≤ totalLimit) {v : Int}
    (h : splitBase base n = .ok v) : 0 < n ∧ v = share base n := by
  unfold splitBase at h
  split at h
  · cases h
  · rename_i hn
    have hpos : 0 < n := Nat.pos_of_ne_zero hn
    refine ⟨hpos, ?_⟩
    obtain ⟨total, rfl⟩ := Int.eq_ofNat_of_zero_le hbase
    have hsmall : total < 10 ^ (28 - 1) := by
      unfold totalLimit at hlimit
      have : (100000000000000 : Nat) < 10 ^ (28 - 1) := by decide
      omega
    have hcents := @centsHalfUp_divide 28 _ _ (by decide) hpos hsmall
    have hnumber : (⟨(total : Int).sign * (divide 28 total n).coefficient,
        (divide 28 total n).exponent - 2⟩ : Number) =
        ⟨(divide 28 total n).coefficient, (divide 28 total n).exponent - 2⟩ := by
      rcases Nat.eq_zero_or_pos total with rfl | hne
      · simp [divide]
      · rw [Int.sign_eq_one_of_pos (by omega), one_mul]
    simp only [Int.natAbs_natCast, hnumber] at h
    unfold quantizedMoney quantizeCents at h
    split at h
    · rename_i cents hfound
      cases h
      rw [← (checkCents_eq_some.mp hfound).2, hcents, halfUp_eq_div total hpos, share]
      push_cast
      rfl
    · cases h

/-- The parts of a split: equal shares, and the rest last. -/
private theorem split_eq (hbase : 0 ≤ base) (hlimit : base ≤ totalLimit) (h : split base n = .ok parts) :
    0 < n ∧ parts = List.replicate (n - 1) (share base n) ++ [base - (n - 1 : Nat) * share base n] := by
  unfold split at h
  simp only [bind_eq_ok, pure_eq_ok] at h
  obtain ⟨v, hv, rfl⟩ := h
  obtain ⟨hn, rfl⟩ := splitBase_eq hbase hlimit hv
  exact ⟨hn, rfl⟩

private theorem share_nonneg (hbase : 0 ≤ base) : 0 ≤ share base n :=
  Int.ediv_nonneg (by omega) (by omega)

private theorem share_pos_iff (hn : 0 < n) : 0 < share base n ↔ n ≤ 2 * base := by
  unfold share
  have hle : 1 ≤ (2 * base + n) / (2 * n) ↔ 1 * (2 * n) ≤ 2 * base + n :=
    Int.le_ediv_iff_mul_le (by omega)
  omega

/-- What an approval promises of the installments it creates. -/
structure ProperRows (rows : List AgreementInstallment) (base penalty : Int) : Prop where
  principals : ∀ i ∈ rows, 0 ≤ i.principal
  amounts : ∀ i ∈ rows, 0 < i.amount
  base_sum : (rows.map AgreementInstallment.principal).sum = base
  penalty_sum : (rows.map AgreementInstallment.penaltyAmount).sum = penalty

private theorem replacementRows_principals :
    (replacementRows db agreement today penalty parts).map AgreementInstallment.principal = parts :=
  List.ext_getElem (by simp [replacementRows]) fun k _ _ => by simp [replacementRows]

private theorem replacementRows_penalty (hparts : parts ≠ []) :
    ((replacementRows db agreement today penalty parts).map AgreementInstallment.penaltyAmount).sum =
      penalty := by
  cases parts with
  | nil => exact absurd rfl hparts
  | cons p parts =>
    have hrows : (replacementRows db agreement today penalty (p :: parts)).map
        AgreementInstallment.penaltyAmount = penalty :: List.replicate parts.length 0 := by
      refine List.ext_getElem (by simp [replacementRows]) fun k _ _ => ?_
      cases k <;> simp [replacementRows]
    rw [hrows, List.sum_cons, List.sum_replicate]
    simp

/-- The installment at a place of the split. -/
private theorem replacementRow_at {k : Nat} (hk : k < parts.length) :
    ∃ i ∈ replacementRows db agreement today penalty parts, i.principal = parts[k] ∧
      i.amount = parts[k] + if k = 0 then penalty else 0 :=
  ⟨_, List.mem_mapIdx.mpr ⟨k, hk, rfl⟩, rfl, rfl⟩

private theorem proper_of_even (hpenalty : 0 ≤ penalty) (hpositive : 0 < base + penalty) (hn : 0 < n)
    (hbase : 0 ≤ base) (heven : EvenShares base n)
    (hparts : parts = List.replicate (n - 1) (share base n) ++ [base - (n - 1 : Nat) * share base n]) :
    ProperRows (replacementRows db agreement today penalty parts) base penalty := by
  have hne : parts ≠ [] := by simp [hparts]
  have hsum : parts.sum = base := by
    rw [hparts]
    simp
  have hrow : ∀ i ∈ replacementRows db agreement today penalty parts, 0 ≤ i.principal ∧ 0 < i.amount := by
    intro i hi
    obtain ⟨k, hk, rfl⟩ := List.mem_mapIdx.mp hi
    dsimp only
    rcases heven with rfl | ⟨hshare, hlast⟩
    · obtain rfl : k = 0 := by
        rw [hparts] at hk
        simpa using hk
      have hfirst : parts[0] = base := by simp [hparts]
      rw [hfirst, if_pos rfl]
      omega
    · have hpart : 0 < parts[k] := by
        have hmem : parts[k] ∈ List.replicate (n - 1) (share base n) ++
            [base - (n - 1 : Nat) * share base n] := hparts ▸ List.getElem_mem hk
        rcases List.mem_append.mp hmem with hmem | hmem
        · rw [(List.mem_replicate.mp hmem).2]
          exact (share_pos_iff hn).mpr hshare
        · rw [List.mem_singleton.mp hmem]
          unfold share
          have hcast : ((n - 1 : Nat) : Int) = n - 1 := by omega
          rw [hcast]
          omega
      split <;> omega
  refine ⟨fun i hi => (hrow i hi).1, fun i hi => (hrow i hi).2, ?_, replacementRows_penalty hne⟩
  rw [replacementRows_principals, hsum]

private theorem even_of_proper (hn : 0 < n) (hbase : 0 ≤ base)
    (hparts : parts = List.replicate (n - 1) (share base n) ++ [base - (n - 1 : Nat) * share base n])
    (h : ProperRows (replacementRows db agreement today penalty parts) base penalty) :
    EvenShares base n := by
  by_cases hone : n = 1
  · exact .inl hone
  · have hlength : parts.length = n := by
      rw [hparts]
      simp
      omega
    obtain ⟨i, hi, -, hamount⟩ := @replacementRow_at db today agreement penalty parts (n - 1) (by omega)
    have hlast := h.amounts i hi
    have hbound : n - 1 < parts.length := by omega
    have hrest : parts[n - 1] = base - (n - 1 : Nat) * share base n := by simp [hparts]
    have hcast : ((n - 1 : Nat) : Int) = n - 1 := by omega
    rw [hamount, hrest, if_neg (by omega), hcast] at hlast
    refine .inr ⟨?_, by unfold share at hlast; omega⟩
    have hnonneg := @share_nonneg base n hbase
    by_cases htwo : n = 2
    · subst htwo
      push_cast at hlast ⊢
      omega
    · obtain ⟨j, hj, -, hamount⟩ := @replacementRow_at db today agreement penalty parts 1 (by omega)
      have hshare := h.amounts j hj
      have hwide : 1 < parts.length := by omega
      have hsecond : parts[1] = share base n := by
        simp only [hparts]
        rw [List.getElem_append_left (by simp; omega), List.getElem_replicate]
      rw [hamount, hsecond, if_neg (by omega), Int.add_zero] at hshare
      exact (share_pos_iff hn).mp hshare

end Shares

section Approval

/-- The agreement is settled exactly when no installment of it has a balance. -/
def SettledWhenPaid (db : Db) (id : Nat) : Prop :=
  ∀ a, db.agreement? id = some a →
    (a.status = .SETTLED ↔ ∀ i ∈ rowsOf db id, agreementBalance i = 0)

theorem Tracked.settledWhenPaid (h : Tracked db id) : SettledWhenPaid db id := by
  intro a ha
  obtain ⟨a', ha', -, hsettled⟩ := h.agreement
  obtain rfl : a = a' := Option.some.inj (ha.symm.trans ha')
  rw [hsettled]
  exact ⟨fun hall i hi => (h.paid i hi).mp (hall i hi), fun hall i hi => (h.paid i hi).mpr (hall i hi)⟩

/-- Settlements are of installments that exist. -/
def SettlementsKnown (db : Db) : Prop :=
  ∀ s ∈ db.settlements, ∀ id, s.obligation = .agreementInstallment id →
    ∃ i ∈ db.agreementInstallments, i.id = id

/-- A new agreement with proper installments is tracked. -/
private theorem tracked_approved {base penalty : Int} (hreq : Requested db agreement loan)
    (hknown : SettlementsKnown db)
    (happrove : decideAgreement db clock today agreement.id true = .ok approved)
    (hproper : ProperRows (rowsOf approved agreement.id) base penalty) : Tracked approved agreement.id := by
  obtain ⟨parts, -, -, hsplit, hdb⟩ := decideAgreement_spec hreq happrove
  have hrows : rowsOf approved agreement.id = replacementRows db (approvedAgreement agreement clock) today
      (outstandingForLoan db loan.id).2 parts := filter_replacementRows hreq (by rw [hdb])
  have hnonempty : rowsOf approved agreement.id ≠ [] := by
    rw [hrows]
    have hparts := (sum_split hsplit).2.2
    simpa [replacementRows] using hparts
  have hopen : ∀ i ∈ rowsOf approved agreement.id, i.status = .OPEN ∧ agreementDue i ≠ 0 ∧
      nextKey AgreementInstallment.id db.agreementInstallments ≤ i.id := by
    intro i hi
    have hamount := hproper.amounts i hi
    rw [hrows] at hi
    obtain ⟨k, hk, rfl⟩ := List.mem_mapIdx.mp hi
    refine ⟨rfl, ?_, Nat.le_add_right _ _⟩
    simp only [agreementDue]
    dsimp only at hamount
    omega
  have hfound : approved.agreement? agreement.id = some (approvedAgreement agreement clock) := by
    rw [hdb]
    exact lookup_replace_self (r := approvedAgreement agreement clock) hreq.found
  refine ⟨approved_tables hreq happrove, hnonempty, ⟨_, hfound, .inl rfl, ?_, ?_⟩, ?_, ?_⟩
  · intro h
    cases h
  · intro hall
    obtain ⟨i, hi⟩ := List.exists_mem_of_ne_nil _ hnonempty
    have hpaid := hall i hi
    rw [(hopen i hi).1] at hpaid
    cases hpaid
  · intro i hi
    refine ⟨fun hpaid => ?_, fun hzero => absurd hzero (hopen i hi).2.1⟩
    rw [(hopen i hi).1] at hpaid
    cases hpaid
  · intro s hs i hi hobligation
    have hsettlements : approved.settlements = db.settlements := by rw [hdb]
    rw [hsettlements] at hs
    obtain ⟨x, hx, hxid⟩ := hknown s hs i.id hobligation
    have hlt : x.id < nextKey AgreementInstallment.id db.agreementInstallments := key_lt_nextKey hx
    have := (hopen i hi).2.2
    omega

/-- An approval creates proper installments, and the agreement is settled exactly while nothing of it
is open over any history of charges, payments and reversals, if and only if the shares are even. -/
theorem agreement_settles_iff {base penalty : Int} (hreq : Requested db agreement loan)
    (hknown : SettlementsKnown db) (hdebt : outstandingForLoan db loan.id = (base, penalty))
    (hbase : 0 ≤ base) (hpenalty : 0 ≤ penalty) (hcolumn : agreement.totalAmount < totalLimit)
    (happrove : decideAgreement db clock today agreement.id true = .ok approved) :
    (ProperRows (rowsOf approved agreement.id) base penalty ∧
      ∀ steps, SettledWhenPaid (installmentRun env approved steps) agreement.id) ↔
      EvenShares base agreement.installments := by
  obtain ⟨parts, hpositive, hnear, hsplit, hdb⟩ := decideAgreement_spec hreq happrove
  rw [hdebt] at hpositive hnear hsplit
  have hlimit : base ≤ totalLimit := by
    rw [abs_le] at hnear
    dsimp only at hnear
    omega
  obtain ⟨hn, hparts⟩ := split_eq hbase hlimit hsplit
  have hrows : rowsOf approved agreement.id =
      replacementRows db (approvedAgreement agreement clock) today penalty parts := by
    refine filter_replacementRows hreq ?_
    rw [hdb, hdebt]
  constructor
  · rintro ⟨hproper, -⟩
    rw [hrows] at hproper
    exact even_of_proper hn hbase hparts hproper
  · intro heven
    have hproper : ProperRows (rowsOf approved agreement.id) base penalty := by
      rw [hrows]
      exact proper_of_even hpenalty hpositive hn hbase heven hparts
    refine ⟨hproper, fun steps => ?_⟩
    exact ((tracked_approved hreq hknown happrove hproper).run steps).settledWhenPaid

end Approval

section Samples

private def sampleInstallment (balance : Int) : LoanInstallment where
  id := 1
  loanId := 1
  number := 1
  dueDate := 20000
  principal := 100000
  interest := 0
  amount := 100000
  paidAmount := 100000 - balance
  penaltyAmount := 0
  paidPenaltyAmount := 0
  lateCharge := none
  paidAt := none
  status := .PENDING

private def sampleLoan : Loan where
  id := 1
  memberId := 1
  principal := 100000
  principalSettledWithOwnBalance := 0
  calculationVersion := none
  status := .OVERDUE
  disbursedAt := some 0
  paidAt := none
  stateRevision := 0

private def sampleAgreement (balance : Int) (installments : Nat) : CollectionAgreement where
  id := 1
  loanId := 1
  memberId := 1
  status := .REQUESTED
  stateRevision := 0
  installments
  totalAmount := balance

private def sampleDb (balance : Int) (installments : Nat) : Db where
  members := [{ id := 1 }]
  loans := [sampleLoan]
  loanInstallments := [sampleInstallment balance]
  agreements := [sampleAgreement balance installments]

private def samplePayment : Payment where
  id := 1
  provider := "mercado_pago"
  providerOrderId := none
  providerPaymentId := none
  amount := 1
  status := "approved"
  externalReference := none
  pixTxid := none
  endToEndId := none
  providerStatusDetail := none
  confirmedAt := none
  expiresAt := none
  amountReceived := none
  ledgerPostedAt := none
  reference := some (.agreementInstallment 3)
  attemptStatus := none
  calculatedForDate := none
  financialSnapshotJson := none
  snapshotHash := none
  reconciliationStatus := none

private def sampleEnv : Env where
  sha256 := fun _ => ""
  lateChargeEffectiveDate := none

private theorem sampleDb_requested (balance : Int) (installments : Nat) :
    Requested (sampleDb balance installments) (sampleAgreement balance installments)
      sampleLoan := by
  refine ⟨⟨?_, ?_, ?_, ?_⟩, rfl, rfl, rfl, rfl⟩
  all_goals simp [sampleDb, Keyed]

/-- Thirteen cents in twenty-four installments leave a negative last one. One cent in three leaves two
installments of nothing, which no payment can close, and the agreement stays open when the cent is
paid. -/
theorem small_debt_breaks_agreement :
    (Requested (sampleDb 13 24) (sampleAgreement 13 24) sampleLoan ∧ ∃ approved,
      decideAgreement (sampleDb 13 24) 5 20010 1 true = .ok approved ∧
        (approved.agreementInstallments.map (·.principal)).getLast? = some (-10)) ∧
    (Requested (sampleDb 1 3) (sampleAgreement 1 3) sampleLoan ∧ ∃ approved,
      decideAgreement (sampleDb 1 3) 5 20010 1 true = .ok approved ∧
        approved.agreementInstallments.map (·.amount) = [0, 0, 1] ∧
        let settled := installmentRun sampleEnv approved
          [.charge samplePayment, .pay 6 1 { source := "webhook" }]
        (settled.agreement? 1).map (·.status) = some .APPROVED ∧
          (∀ i ∈ rowsOf settled 1, agreementBalance i = 0) ∧ ¬ SettledWhenPaid settled 1) := by
  refine ⟨⟨sampleDb_requested 13 24, _, rfl, ?_⟩, sampleDb_requested 1 3, _, rfl, ?_, ?_⟩
  · rfl
  · rfl
  · intro settled
    have hstatus : (settled.agreement? 1).map (·.status) = some .APPROVED := by decide
    have hpaid : ∀ i ∈ rowsOf settled 1, agreementBalance i = 0 := by decide
    refine ⟨hstatus, hpaid, fun h => ?_⟩
    obtain ⟨a, ha, happroved⟩ := Option.map_eq_some_iff.mp hstatus
    have hsettled := (h a ha).mpr hpaid
    rw [happroved] at hsettled
    cases hsettled

/-- An installment is charged and paid. -/
private def paidWith (k : Nat) (amount : Int) : List InstallmentStep :=
  [.charge { samplePayment with id := k, amount, reference := some (.agreementInstallment k) },
    .pay (5 + k) k { source := "webhook" }]

private def samplePayments : List InstallmentStep := paidWith 1 3333 ++ paidWith 2 3333 ++ paidWith 3 3334

private def sampleApproved : Db :=
  (decideAgreement (sampleDb 10000 3) 5 20010 1 true).toOption.getD (sampleDb 10000 3)

theorem sample_agreement_settles :
    decideAgreement (sampleDb 10000 3) 5 20010 1 true = .ok sampleApproved ∧
      sampleApproved.agreementInstallments.map (·.principal) = [3333, 3333, 3334] ∧
      ProperRows (rowsOf sampleApproved 1) 10000 0 ∧
      (∀ steps, SettledWhenPaid (installmentRun sampleEnv sampleApproved steps) 1) ∧
      ((installmentRun sampleEnv sampleApproved samplePayments).agreement? 1).map (·.status) =
        some .SETTLED := by
  have happrove : decideAgreement (sampleDb 10000 3) 5 20010 (sampleAgreement 10000 3).id true =
      .ok sampleApproved := rfl
  have hknown : SettlementsKnown (sampleDb 10000 3) := fun s hs => by cases hs
  have hdebt : outstandingForLoan (sampleDb 10000 3) sampleLoan.id = (10000, 0) := by decide
  have hcolumn : (sampleAgreement 10000 3).totalAmount < totalLimit := by decide
  obtain ⟨hproper, hsettles⟩ := (agreement_settles_iff (sampleDb_requested 10000 3) hknown hdebt (by decide)
    (by decide) hcolumn happrove).mpr (.inr ⟨by decide, by decide⟩)
  exact ⟨happrove, rfl, hproper, hsettles, by decide⟩

end Samples

end Caixinha.Properties.AgreementInstallments
