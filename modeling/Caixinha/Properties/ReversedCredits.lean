import Caixinha.Model.MemberFinancial

/-! When a reversed credit leaves a member's position as if it had never been posted.
The two balances stop at zero on their own, so a credit only cancels against its reversal
where no withdrawal between them ran dry, or where a later one empties both histories. -/
namespace Caixinha.Properties.ReversedCredits

open Caixinha.Model Caixinha.Library.SaturatingBalance

/-- A credit of a payment and the debit that reverses it with the same amount. -/
inductive Compensates (credit reversal : MemberFinancialEntry) : Prop where
  | contribution (hcredit : credit.direction = .CREDIT ∧ credit.entryType = .CONTRIBUTION)
      (hreversal : reversal.direction = .DEBIT ∧ reversal.entryType = .CONTRIBUTION_REVERSAL)
      (hamount : reversal.amount = credit.amount)
  | loanPrincipal (hcredit : credit.direction = .CREDIT ∧ credit.entryType = .LOAN_PRINCIPAL_PAYMENT)
      (hreversal : reversal.direction = .DEBIT ∧ reversal.entryType = .LOAN_PRINCIPAL_REVERSAL)
      (hamount : reversal.amount = credit.amount)

/-- For a contribution: at the reversal the other entries alone leave no committed balance,
and an own balance that is zero or that no withdrawal since the credit emptied. -/
def ContributionUndone (pre mid post : List MemberFinancialEntry) : Prop :=
  let start := balancesAfter noBalances pre
  let others := balancesAfter start mid
  (others.own = 0 ∨ (0 < others.own ∧ Covered (ownMoves mid) start.own) ∨
    Absorbs (ownMoves post) (max 0 others.own)) ∧
  (others.committed = 0 ∨ Absorbs (committedMoves post) others.committed)

/-- For loan principal: the committed balance covers the payment, and neither balance is
emptied between the payment and its reversal. -/
def LoanPrincipalUndone (amount : Int) (pre mid post : List MemberFinancialEntry) : Prop :=
  let start := balancesAfter noBalances pre
  let others := balancesAfter start mid
  (Covered (ownMoves mid) start.own ∨ Absorbs (ownMoves post) others.own) ∧
  ((amount ≤ start.committed ∧ Covered (committedMoves mid) (start.committed - amount)) ∨
    Absorbs (committedMoves post)
      (run (committedMoves mid) (max 0 (start.committed - amount)) + amount))

def Undone (credit : MemberFinancialEntry) (pre mid post : List MemberFinancialEntry) : Prop :=
  match credit.entryType with
  | .CONTRIBUTION => ContributionUndone pre mid post
  | .LOAN_PRINCIPAL_PAYMENT => LoanPrincipalUndone credit.amount.val pre mid post
  | _ => False

private theorem taken_back_eq_iff (mid : List Move) (start : Int) {amount : Int} (hpos : 0 < amount) :
    max 0 (run mid (start + amount) - amount) = run mid start ↔
      run mid start = 0 ∨ (0 < run mid start ∧ Covered mid start) := by
  have hgap := run_gap_le mid (a := start) (b := start + amount) (by omega)
  have hcovered := run_add_eq_iff mid start amount hpos
  constructor
  · intro h
    by_cases hzero : run mid start = 0
    · exact .inl hzero
    · exact .inr ⟨by omega, hcovered.mp (by omega)⟩
  · rintro (h | ⟨h, hmid⟩)
    · omega
    · have := hcovered.mpr hmid
      omega

private theorem taken_back_max (mid : List Move) (start : Int) {amount : Int} (hpos : 0 < amount) :
    max (max 0 (run mid (start + amount) - amount)) (run mid start) = max 0 (run mid start) := by
  have hgap := run_gap_le mid (a := start) (b := start + amount) (by omega)
  omega

/-- A contribution added before `mid` and taken back after it. -/
private theorem contribution_own_iff (mid post : List Move) (start : Int) {amount : Int}
    (hpos : 0 < amount) :
    run post (max 0 (run mid (start + amount) - amount)) = run post (run mid start) ↔
      run mid start = 0 ∨ (0 < run mid start ∧ Covered mid start) ∨
        Absorbs post (max 0 (run mid start)) := by
  rw [run_eq_run_iff, taken_back_eq_iff mid start hpos, taken_back_max mid start hpos, or_assoc]

private theorem contribution_committed_iff (post : List Move) {others amount : Int}
    (hothers : 0 ≤ others) (hpos : 0 < amount) :
    run post (max 0 (others - amount)) = run post others ↔ others = 0 ∨ Absorbs post others := by
  rw [run_eq_run_iff, show max (max 0 (others - amount)) others = others by omega]
  constructor <;> rintro (h | h)
  · exact .inl (by omega)
  · exact .inr h
  · exact .inl (by omega)
  · exact .inr h

private theorem principal_own_iff (mid post : List Move) (start : Int) {amount : Int}
    (hpos : 0 < amount) :
    run post (run mid (start + amount) - amount) = run post (run mid start) ↔
      Covered mid start ∨ Absorbs post (run mid start) := by
  have hgap := run_gap_le mid (a := start) (b := start + amount) (by omega)
  rw [run_eq_run_iff, ← run_add_eq_iff mid start amount hpos,
    show max (run mid (start + amount) - amount) (run mid start) = run mid start by omega]
  constructor <;> rintro (h | h)
  · exact .inl (by omega)
  · exact .inr h
  · exact .inl (by omega)
  · exact .inr h

private theorem principal_committed_iff (mid post : List Move) {start amount : Int}
    (hstart : 0 ≤ start) (hpos : 0 < amount) :
    run post (run mid (max 0 (start - amount)) + amount) = run post (run mid start) ↔
      (amount ≤ start ∧ Covered mid (start - amount)) ∨
        Absorbs post (run mid (max 0 (start - amount)) + amount) := by
  have hgap := run_gap_le mid (a := max 0 (start - amount)) (b := start) (by omega)
  rw [run_eq_run_iff, show max (run mid (max 0 (start - amount)) + amount) (run mid start) =
    run mid (max 0 (start - amount)) + amount by omega]
  apply or_congr_left
  by_cases ha : amount ≤ start
  · have hcovered := run_add_eq_iff mid (start - amount) amount hpos
    rw [sub_add_cancel] at hcovered
    rw [max_eq_right (by omega), ← hcovered]
    constructor
    · exact fun h => ⟨ha, h.symm⟩
    · exact fun h => h.2.symm
  · -- the payment exceeds what was committed, so the reversal commits the difference anew
    exact ⟨fun h => by omega, fun h => absurd h.1 ha⟩

private theorem whole_history (pre mid post : List MemberFinancialEntry)
    (credit reversal : MemberFinancialEntry) :
    balancesAfter noBalances (pre ++ credit :: mid ++ reversal :: post) =
      balancesAfter (applyEntry (balancesAfter (applyEntry (balancesAfter noBalances pre) credit) mid)
        reversal) post := by
  rw [List.append_assoc, balancesAfter_append]
  change balancesAfter (applyEntry _ credit) (mid ++ reversal :: post) = _
  rw [balancesAfter_append]
  rfl

private theorem balances_eq_iff {a b : Balances} :
    a = b ↔ a.own = b.own ∧ a.committed = b.committed := by
  cases a
  cases b
  simp

private theorem available_after_reversal (b : Balances) (credit reversal : MemberFinancialEntry)
    (h : Compensates credit reversal) :
    (applyEntry b reversal).position.availableBalance ≤ b.position.availableBalance := by
  have hpos := reversal.amount.property
  cases h with
  | contribution _ hreversal _ =>
    simp only [applyEntry, hreversal.1, hreversal.2, Balances.position]
    omega
  | loanPrincipal _ hreversal _ =>
    simp only [applyEntry, hreversal.1, hreversal.2, Balances.position]
    omega

/-- A fully reversed credit leaves the position of the history without the pair exactly when
it is `Undone`; the reversal itself never raises the available balance. -/
theorem reversed_credit_vanishes_iff (pre mid post : List MemberFinancialEntry)
    (credit reversal : MemberFinancialEntry) (h : Compensates credit reversal) :
    (calculateMemberFinancialPosition (pre ++ credit :: mid ++ reversal :: post) =
        calculateMemberFinancialPosition (pre ++ mid ++ post) ↔ Undone credit pre mid post) ∧
      (calculateMemberFinancialPosition (pre ++ credit :: mid ++ [reversal])).availableBalance ≤
        (calculateMemberFinancialPosition (pre ++ credit :: mid)).availableBalance := by
  have hpos := credit.amount.property
  refine ⟨?_, ?_⟩
  · rw [calculateMemberFinancialPosition, calculateMemberFinancialPosition, Balances.position_inj,
      whole_history, balancesAfter_append, balancesAfter_append, balances_eq_iff]
    simp only [balancesAfter_own, balancesAfter_committed, applyEntry_own, applyEntry_committed]
    have hown := balancesAfter_own noBalances pre
    have hcommitted := committed_nonneg pre
    have hothers := committed_nonneg (pre ++ mid)
    rw [balancesAfter_append, balancesAfter_committed] at hothers
    rw [balancesAfter_committed] at hcommitted hothers
    cases h with
    | contribution hcredit hreversal hamount =>
      simp only [ownMove, committedMove, hcredit.1, hcredit.2, hreversal.1, hreversal.2, hamount,
        Option.toList_some, Option.toList_none, run_cons, run_nil, apply_add, apply_take]
      rw [contribution_own_iff _ _ _ hpos, contribution_committed_iff _ hothers hpos]
      simp only [Undone, hcredit.2, ContributionUndone, balancesAfter_own, balancesAfter_committed]
    | loanPrincipal hcredit hreversal hamount =>
      simp only [ownMove, committedMove, hcredit.1, hcredit.2, hreversal.1, hreversal.2, hamount,
        Option.toList_some, run_cons, run_nil, apply_add, apply_take, ← sub_eq_add_neg]
      rw [principal_own_iff _ _ _ hpos, principal_committed_iff _ _ hcommitted hpos]
      simp only [Undone, hcredit.2, LoanPrincipalUndone, balancesAfter_own, balancesAfter_committed]
  · have hlast : balancesAfter noBalances (pre ++ credit :: mid ++ [reversal]) =
        applyEntry (balancesAfter noBalances (pre ++ credit :: mid)) reversal := by
      rw [balancesAfter_append]
      rfl
    rw [calculateMemberFinancialPosition, hlast, calculateMemberFinancialPosition]
    exact available_after_reversal _ credit reversal h

private def sampleEntry (id : Nat) (entryType : EntryType) (direction : Direction)
    (amount : PositiveCents) : MemberFinancialEntry where
  id := id
  accountId := 1
  entryType := entryType
  direction := direction
  amount := amount
  referenceType := none
  referenceId := none
  createdAt := 0

private def contributed (id : Nat) (amount : PositiveCents) : MemberFinancialEntry :=
  sampleEntry id .CONTRIBUTION .CREDIT amount

private def contributionReversed (id : Nat) (amount : PositiveCents) : MemberFinancialEntry :=
  sampleEntry id .CONTRIBUTION_REVERSAL .DEBIT amount

private def ownSettled (id : Nat) (amount : PositiveCents) : MemberFinancialEntry :=
  sampleEntry id .OWN_BALANCE_SETTLEMENT .DEBIT amount

private theorem sample_compensates :
    Compensates (contributed 3 ⟨5000, by decide⟩) (contributionReversed 5 ⟨5000, by decide⟩) :=
  .contribution ⟨rfl, rfl⟩ ⟨rfl, rfl⟩ rfl

private theorem sample_principal_compensates :
    Compensates (sampleEntry 3 .LOAN_PRINCIPAL_PAYMENT .CREDIT ⟨4000, by decide⟩)
      (sampleEntry 5 .LOAN_PRINCIPAL_REVERSAL .DEBIT ⟨4000, by decide⟩) :=
  .loanPrincipal ⟨rfl, rfl⟩ ⟨rfl, rfl⟩ rfl

/-- With 100.00 committed: a contribution vanishes where an own-balance settlement before its reversal
uses the commitment up, and a payment of principal where one leaves 30.00 of it. -/
theorem sample_reversed_credits_vanish :
    let before := [contributed 1 ⟨20000, by decide⟩,
      sampleEntry 2 .LOAN_PRINCIPAL_COMMITMENT .CREDIT ⟨10000, by decide⟩]
    calculateMemberFinancialPosition (before ++ contributed 3 ⟨5000, by decide⟩ ::
        [ownSettled 4 ⟨10000, by decide⟩] ++ contributionReversed 5 ⟨5000, by decide⟩ ::
          [contributed 6 ⟨1000, by decide⟩]) =
      calculateMemberFinancialPosition (before ++ [ownSettled 4 ⟨10000, by decide⟩] ++
        [contributed 6 ⟨1000, by decide⟩]) ∧
    calculateMemberFinancialPosition (before ++ sampleEntry 3 .LOAN_PRINCIPAL_PAYMENT .CREDIT ⟨4000, by decide⟩ ::
        [ownSettled 4 ⟨3000, by decide⟩] ++ sampleEntry 5 .LOAN_PRINCIPAL_REVERSAL .DEBIT ⟨4000, by decide⟩ ::
          [contributed 6 ⟨1000, by decide⟩]) =
      calculateMemberFinancialPosition (before ++ [ownSettled 4 ⟨3000, by decide⟩] ++
        [contributed 6 ⟨1000, by decide⟩]) := by
  intro before
  constructor
  · exact (reversed_credit_vanishes_iff before [ownSettled 4 ⟨10000, by decide⟩]
      [contributed 6 ⟨1000, by decide⟩] _ _ sample_compensates).1.mpr
      ⟨.inr (.inl ⟨by decide, by decide⟩), .inl (by decide)⟩
  · exact (reversed_credit_vanishes_iff before [ownSettled 4 ⟨3000, by decide⟩]
      [contributed 6 ⟨1000, by decide⟩] _ _ sample_principal_compensates).1.mpr
      ⟨.inl (by decide), .inl ⟨by decide, by decide⟩⟩

/-- With 100.00 committed, reversing a contribution of 50.00 also releases 50.00 of the
commitment: 150.00 is available where the history without the payment has 100.00. -/
theorem reversed_contribution_releases_commitment :
    let savings := contributed 1 ⟨20000, by decide⟩
    let commitment := sampleEntry 2 .LOAN_PRINCIPAL_COMMITMENT .CREDIT ⟨10000, by decide⟩
    let credit := contributed 3 ⟨5000, by decide⟩
    let reversal := contributionReversed 4 ⟨5000, by decide⟩
    Compensates credit reversal ∧
    calculateMemberFinancialPosition ([savings, commitment] ++ credit :: [] ++ reversal :: []) =
      { ownBalance := 20000, committedBalance := 5000, availableBalance := 15000 } ∧
    calculateMemberFinancialPosition ([savings, commitment] ++ [] ++ []) =
      { ownBalance := 20000, committedBalance := 10000, availableBalance := 10000 } :=
  ⟨.contribution ⟨rfl, rfl⟩ ⟨rfl, rfl⟩ rfl, by decide, by decide⟩

end Caixinha.Properties.ReversedCredits
