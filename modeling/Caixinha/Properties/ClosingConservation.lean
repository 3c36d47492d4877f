import Caixinha.Effects.Allocation

/-! The annual closing conserves money to the cent: the fee and the distributable result make
up the gross result, the shares make up the distributable result, and every participant's
entitlement is split between compensation and payout. -/
namespace Caixinha.Properties.ClosingConservation

open Caixinha.Model Caixinha.Model.CycleClosing Caixinha.Effects.Allocation Caixinha.Library Decimal
  Fallible

/-- The projections of one participant add up and none is negative. -/
structure Balanced (p : ParticipantResult) : Prop where
  net_add_compensation : p.projectedNet + p.projectedCompensation = p.grossEntitlement
  compensation_add_residual :
    p.projectedCompensation + p.projectedResidualDebt = p.compensableObligationsTotal
  net_or_residual : p.projectedNet = 0 ∨ p.projectedResidualDebt = 0
  share_nonneg : 0 ≤ p.grossShare
  net_nonneg : 0 ≤ p.projectedNet
  compensation_nonneg : 0 ≤ p.projectedCompensation
  residual_nonneg : 0 ≤ p.projectedResidualDebt
  blocked_share : p.participationStatus = .BLOCKED_DELINQUENCY → p.grossShare = 0

/-- A closing memory neither creates nor loses a cent. -/
structure Conserves (m : ClosingMemory) : Prop where
  fee_add_distributable : m.administrationFee + m.distributableResult = m.grossRealizedResult
  sum_shares : (m.participants.map (·.grossShare)).sum = m.distributableResult
  sum_entitlements : (m.participants.map (·.grossEntitlement)).sum =
    m.distributableResult + (m.participants.map (·.refundableContributionPrincipal)).sum
  balanced : ∀ p ∈ m.participants, Balanced p

section Inputs
variable {cutoff : Int} {rows : List ParticipantRow}

private theorem participantRow_memberId {row : ParticipationEvidence} {r : ParticipantRow}
    (h : participantRow cutoff row = .ok r) : r.memberId = row.memberId := by
  simp only [participantRow, bind_eq_ok, pure_eq_ok] at h
  obtain ⟨_, -, rfl⟩ := h
  rfl

private theorem participantRows_nodup {evidence : ClosingEvidence}
    (h : participantRows evidence cutoff = .ok rows) : (rows.map (·.memberId)).Nodup := by
  simp only [participantRows, bind_eq_ok, gapIf_eq_ok, exists_and_left, exists_const, not_not] at h
  obtain ⟨hnodup, hrows⟩ := h
  rw [map_eq_of_mapM (·.memberId) (·.memberId) hrows fun _ _ => participantRow_memberId]
  exact hnodup

/-- What a traced contribution adds to the base and to the refund is never negative. -/
private theorem traceContribution_nonneg {c : ContributionEvidence} {t : ContributionTrace}
    (h : traceContribution cutoff rows c = .ok t) :
    0 ≤ t.rateioPrincipal ∧ 0 ≤ t.refundablePrincipal := by
  unfold traceContribution at h
  split at h
  · simp [gap] at h
  · simp only [bind_eq_ok, gapIf_eq_ok, exists_and_left, exists_const, requantize_eq_ok,
      pure_eq_ok] at h
    obtain ⟨_, -, tally, -, amountDue, -, hsigned, -, _, ⟨-, rfl⟩, _, ⟨-, rfl⟩, rfl⟩ := h
    refine ⟨?_, ?_⟩
    · rw [ContributionTrace.rateioPrincipal]
      dsimp only
      split
      · rename_i heligible
        rw [Bool.and_eq_true, decide_eq_true_eq] at heligible
        omega
      · exact Int.le_refl 0
    · dsimp only
      split
      · omega
      · split
        · rename_i hpaid
          rw [decide_eq_true_eq] at hpaid
          omega
        · exact Int.le_refl 0

private theorem traceContributions_nonneg {evidence : ClosingEvidence}
    {traces : List ContributionTrace} (h : traceContributions evidence cutoff rows = .ok traces) :
    ∀ t ∈ traces, 0 ≤ t.rateioPrincipal ∧ 0 ≤ t.refundablePrincipal := by
  intro t ht
  obtain ⟨c, -, hc⟩ := exists_of_mem_mapM h ht
  exact traceContribution_nonneg hc

private theorem memberTotal_nonneg {amount : ContributionTrace → Int}
    {traces : List ContributionTrace} (h : ∀ t ∈ traces, 0 ≤ amount t) (memberId : Nat) :
    0 ≤ memberTotal amount traces memberId := by
  refine sumToDigits_nonneg _ ?_ (le_refl 0)
  intro a ha
  obtain ⟨t, ht, rfl⟩ := List.mem_map.mp ha
  exact h t (List.mem_of_mem_filter ht)

private theorem noteAgreement_rows {tally t : ObligationTally} {obligation : ObligationEvidence}
    (h : noteAgreement tally obligation = .ok t) : t.rows = tally.rows := by
  unfold noteAgreement at h
  split at h
  · split at h
    · split at h
      · cases h
        rfl
      · split at h
        · cases h
          rfl
        · cases h
    · cases h
  · cases h
    rfl

/-- Every obligation that is kept asks for a positive amount. -/
private theorem tallyObligation_pos {evidence : ClosingEvidence} {cutoffDate : Int}
    {tally t : ObligationTally} {obligation : ObligationEvidence}
    (hpos : ∀ o ∈ tally.rows, 0 < o.amount)
    (h : tallyObligation evidence rows cutoffDate tally obligation = .ok t) :
    ∀ o ∈ t.rows, 0 < o.amount := by
  unfold tallyObligation at h
  split at h
  · rw [pure_eq_ok] at h
    exact h ▸ hpos
  · split at h
    · rw [pure_eq_ok] at h
      exact h ▸ hpos
    · simp only [bind_eq_ok, gapIf_eq_ok, exists_and_left, exists_const] at h
      obtain ⟨-, noted, hnoted, h⟩ := h
      have hrows := noteAgreement_rows hnoted
      dsimp only at hrows
      rw [← hrows] at hpos
      split at h
      · rw [pure_eq_ok] at h
        exact h ▸ hpos
      · split at h
        · rw [pure_eq_ok] at h
          exact h ▸ hpos
        · simp only [bind_eq_ok, gapIf_eq_ok, exists_and_left, exists_const] at h
          obtain ⟨-, amount, -, hnonneg, h⟩ := h
          split at h
          · rw [pure_eq_ok] at h
            exact h ▸ hpos
          · rw [pure_eq_ok] at h
            subst h
            intro o ho
            rcases List.mem_append.mp ho with hold | hnew
            · exact hpos o hold
            · rw [List.mem_singleton] at hnew
              subst hnew
              dsimp only
              omega

end Inputs

section Allocation

/-- The largest-remainder split hands out the whole result, keyed as the bases are. -/
private theorem allocationCents_spec {total : Nat} {bases shares : List (Nat × Nat)}
    {tieKey : Nat → Nat} (htotal : total < 10 ^ 28) (hsum : (bases.map Prod.snd).sum < 10 ^ 28)
    (hkeys : (bases.map Prod.fst).Nodup) (h : allocationCents total bases tieKey = .ok shares) :
    shares.map Prod.fst = bases.map Prod.fst ∧ (shares.map Prod.snd).sum = total := by
  rcases Nat.eq_zero_or_pos (bases.map Prod.snd).sum with hzero | hpos
  · have hbases : bases.map (fun b => roundNat 28 b.2) = bases.map Prod.snd :=
      List.map_congr_left fun b hb => roundNat_of_lt (by decide) (base_lt hsum b hb)
    unfold allocationCents at h
    dsimp only at h
    rw [roundNat_of_lt (by decide) htotal, hbases] at h
    split at h
    · simp [gap] at h
    · rename_i hgap
      cases h
      have htotal : total = 0 := by
        by_contra hne
        exact hgap ⟨hne, hzero⟩
      subst htotal
      simp [Function.comp_def]
  · rw [allocationCents_eq htotal hsum hpos] at h
    cases h
    exact ⟨by rw [LargestRemainder.keys_bump, keys_floorShares],
      sum_bump_floorShares hkeys hpos (residualOrder_perm ..)⟩

end Allocation

section Participants
variable {traces : List ContributionTrace} {totalBase : Int} {shares : List (Nat × Nat)}
  {obligations : List ObligationRow} {row : ParticipantRow} {p : ParticipantResult}

private theorem participantResult_share
    (h : participantResult traces totalBase shares obligations row = .ok p) :
    p.participationStatus = row.status ∧ p.grossShare = LargestRemainder.shareOf shares row.memberId ∧
      p.grossEntitlement = p.refundableContributionPrincipal + p.grossShare := by
  simp only [participantResult, bind_eq_ok, requantize_eq_ok, pure_eq_ok] at h
  obtain ⟨_, ⟨-, rfl⟩, _, ⟨-, rfl⟩, _, ⟨hentitlement, rfl⟩, _, -, _, -, _, -, rfl⟩ := h
  exact ⟨rfl, rfl, roundToDigits_eq_of_lt (by decide) hentitlement⟩

private theorem participantResult_balanced
    (h : participantResult traces totalBase shares obligations row = .ok p)
    (htraces : ∀ t ∈ traces, 0 ≤ t.refundablePrincipal) (hpos : ∀ o ∈ obligations, 0 < o.amount)
    (hblocked : row.status = .BLOCKED_DELINQUENCY → row.memberId ∉ shares.map Prod.fst) :
    Balanced p := by
  have hrefundable := memberTotal_nonneg htraces row.memberId
  simp only [participantResult, bind_eq_ok, requantize_eq_ok, pure_eq_ok] at h
  obtain ⟨_, ⟨-, rfl⟩, _, ⟨-, rfl⟩, _, ⟨hentitlement, rfl⟩, _, ⟨howed, rfl⟩, _, ⟨hnet, rfl⟩,
    _, ⟨hresidual, rfl⟩, rfl⟩ := h
  have howed_nonneg : 0 ≤ sumToDigits 60 0
      ((obligations.filter (fun o => o.memberId = row.memberId)).map (·.amount)) := by
    refine sumToDigits_nonneg _ ?_ (le_refl 0)
    intro a ha
    obtain ⟨o, ho, rfl⟩ := List.mem_map.mp ha
    exact (hpos o (List.mem_of_mem_filter ho)).le
  generalize sumToDigits 60 0
    ((obligations.filter (fun o => o.memberId = row.memberId)).map (·.amount)) = owed at *
  rw [roundToDigits_eq_of_lt (by decide) hentitlement] at *
  generalize memberTotal (·.refundablePrincipal) traces row.memberId = refundable at *
  have hshare := Int.natCast_nonneg (LargestRemainder.shareOf shares row.memberId)
  rw [roundToDigits_eq_of_lt (by decide) hnet]
  have hsplit : max 0 (roundToDigits 60 (owed -
      (refundable + LargestRemainder.shareOf shares row.memberId))) =
      max 0 (owed - (refundable + LargestRemainder.shareOf shares row.memberId)) := by
    rcases le_total owed (refundable + LargestRemainder.shareOf shares row.memberId) with hle | hle
    · have := @roundToDigits_nonpos 60 _ (sub_nonpos_of_le hle)
      omega
    · rw [max_eq_right (roundToDigits_nonneg (sub_nonneg_of_le hle))] at hresidual ⊢
      rw [roundToDigits_eq_of_lt (by decide) hresidual]
      omega
  rw [hsplit]
  constructor
  all_goals dsimp only
  all_goals try omega
  intro hstatus
  rw [LargestRemainder.shareOf_eq_zero (hblocked hstatus)]
  rfl

end Participants

section Figures

/-- The fee takes at most the gross result, rounding included. -/
private theorem administrationFee_le {gross fee : Int} (hgross : 0 ≤ gross)
    (h : administrationFee gross = .ok fee) : fee ≤ gross := by
  have hround := @roundToDigits_le 28 (gross * 15) (by decide) (by omega)
  have hnonneg := @roundToDigits_nonneg 28 (gross * 15) (by omega)
  have hhalf := halfUp_le (roundToDigits 28 (gross * 15)).natAbs (show 0 < 10 ^ 2 by decide)
  have hfee : fee = centsHalfUp ⟨roundToDigits 28 (gross * 15), -4⟩ := by
    unfold administrationFee money orInvalid at h
    split at h
    · rename_i hsome
      cases h
      exact (checkCents_eq_some.mp hsome).2.symm
    · cases h
  rw [centsHalfUp, if_neg (show ¬ (-2 : Int) ≤ -4 by decide)] at hfee
  dsimp only at hfee
  rw [show (-2 - (-4) : Int).toNat = 2 by decide] at hfee
  generalize roundToDigits 28 (gross * 15) = product at hround hnonneg hhalf hfee
  rcases hnonneg.eq_or_lt with hzero | hpos
  · rw [← hzero, Int.sign_zero, zero_mul] at hfee
    omega
  · rw [Int.sign_eq_one_of_pos hpos, one_mul] at hfee
    omega

private theorem sum_toNat {amounts : List Int} (h : ∀ a ∈ amounts, 0 ≤ a) :
    (((amounts.map Int.toNat).sum : Nat) : Int) = amounts.sum := by
  induction amounts with
  | nil => rfl
  | cons a amounts ih =>
    have ha := h a (List.mem_cons_self ..)
    rw [List.map_cons, List.sum_cons, List.sum_cons, Nat.cast_add,
      ih fun b hb => h b (List.mem_cons_of_mem _ hb), Int.toNat_of_nonneg ha]

private theorem rateioBases_keys (rows : List ParticipantRow) (traces : List ContributionTrace) :
    (rateioBases rows traces).map Prod.fst = (unblockedRows rows).map (·.memberId) := by
  rw [rateioBases, List.map_map]
  rfl

private theorem unblocked_sublist (rows : List ParticipantRow) :
    ((unblockedRows rows).map (·.memberId)).Sublist (rows.map (·.memberId)) :=
  List.filter_sublist.map _

private theorem blocked_notMem {rows : List ParticipantRow} (hnodup : (rows.map (·.memberId)).Nodup)
    {row : ParticipantRow} (hrow : row ∈ rows) (hstatus : row.status = .BLOCKED_DELINQUENCY) :
    row.memberId ∉ (unblockedRows rows).map (·.memberId) := by
  intro hmem
  obtain ⟨other, hother, hmember⟩ := List.mem_map.mp hmem
  obtain ⟨hin, hne⟩ := List.mem_filter.mp hother
  have heq := List.inj_on_of_nodup_map hnodup hin hrow hmember
  subst heq
  simp [hstatus] at hne

/-- Bases whose total passed the length check are exact and small. -/
private theorem sum_rateioBases_lt {rows : List ParticipantRow} {traces : List ContributionTrace}
    (htraces : ∀ t ∈ traces, 0 ≤ t.rateioPrincipal)
    (htotal : (sumToDigits 28 0 ((rateioBases rows traces).map Prod.snd)).natAbs < 10 ^ 28) :
    (((rateioBases rows traces).map (fun b => (b.1, b.2.toNat))).map Prod.snd).sum < 10 ^ 28 := by
  have hnonneg : ∀ a ∈ (rateioBases rows traces).map Prod.snd, 0 ≤ a := by
    intro a ha
    rw [rateioBases, List.map_map] at ha
    obtain ⟨row, -, rfl⟩ := List.mem_map.mp ha
    exact memberTotal_nonneg htraces _
  have hlt := (natAbs_lt_pow (sumToDigits_nonneg _ hnonneg (le_refl 0))).mp htotal
  have hexact := sumToDigits_eq (by decide) _ hnonneg (le_refl 0) hlt
  have hcast := sum_toNat hnonneg
  rw [List.map_map] at hcast ⊢
  change ((rateioBases rows traces).map (Int.toNat ∘ Prod.snd)).sum < 10 ^ 28
  omega

/-- What the passes guarantee before the assertion looks at their result. -/
private structure Accounted (f : ClosingFigures) : Prop where
  fee_add_distributable : f.fee + f.distributable = f.gross
  distributable_lt : f.distributable < 10 ^ 28
  sum_shares : (f.participants.map (·.grossShare)).sum = f.distributable
  entitlement : ∀ p ∈ f.participants,
    p.grossEntitlement = p.refundableContributionPrincipal + p.grossShare
  balanced : ∀ p ∈ f.participants, Balanced p

private theorem closingFigures_accounted {evidence : ClosingEvidence} {f : ClosingFigures}
    (h : closingFigures evidence = .ok f) : Accounted f := by
  simp only [closingFigures, bind_eq_ok, gapIf_eq_ok, exists_and_left, exists_const,
    requantize_eq_ok, pure_eq_ok] at h
  obtain ⟨cutoff, -, -, rows, hrows, traces, htraces, gains, -, gross, ⟨-, rfl⟩, hgross, fee, hfee,
    distributable, ⟨hdistributable, rfl⟩, totalBase, ⟨htotal, rfl⟩, shares, hshares,
    obligations, hobligations, participants, hparticipants, rfl⟩ := h
  have hle := administrationFee_le (not_lt.mp hgross) hfee
  have hnonneg : 0 ≤ gains.gross - fee := by omega
  have hexact := roundToDigits_eq_of_lt (by decide) hdistributable
  rw [hexact] at hdistributable hshares
  have hlt : gains.gross - fee < 10 ^ 28 := (natAbs_lt_pow hnonneg).mp hdistributable
  have hnodup := participantRows_nodup hrows
  have htrace := traceContributions_nonneg htraces
  have hbase_keys : ((rateioBases rows traces).map (fun b => (b.1, b.2.toNat))).map Prod.fst =
      (unblockedRows rows).map (·.memberId) := by
    rw [List.map_map]
    exact rateioBases_keys rows traces
  obtain ⟨hkeys, hshare_sum⟩ := allocationCents_spec (by omega)
    (sum_rateioBases_lt (fun t ht => (htrace t ht).1) htotal)
    (hbase_keys ▸ (unblocked_sublist rows).nodup hnodup) hshares
  rw [hbase_keys] at hkeys
  have hpos : ∀ o ∈ obligations.rows, 0 < o.amount :=
    foldlM_invariant (fun t => ∀ o ∈ t.rows, 0 < o.amount)
      (fun _ _ _ hrows hstep => tallyObligation_pos hrows hstep) (by simp) hobligations
  constructor <;> dsimp only
  · omega
  · rw [hexact]
    exact hlt
  · -- every share goes to exactly one participant
    rw [map_eq_of_mapM (fun row => (LargestRemainder.shareOf shares row.memberId : Int)) (·.grossShare)
      hparticipants fun _ _ hrow => (participantResult_share hrow).2.1]
    have hsum := LargestRemainder.sum_shareOf (hkeys ▸ unblocked_sublist rows) hnodup
    calc (rows.map (fun row => (LargestRemainder.shareOf shares row.memberId : Int))).sum
        = (((rows.map (·.memberId)).map (LargestRemainder.shareOf shares)).sum : Nat) := by
          rw [← sum_toNat (by simp), List.map_map, List.map_map]
          rfl
      _ = roundToDigits 28 (gains.gross - fee) := by
          rw [hsum, hshare_sum, hexact, Int.toNat_of_nonneg hnonneg]
  · intro p hp
    obtain ⟨row, -, hrow⟩ := exists_of_mem_mapM hparticipants hp
    exact (participantResult_share hrow).2.2
  · intro p hp
    obtain ⟨row, hrow, hresult⟩ := exists_of_mem_mapM hparticipants hp
    exact participantResult_balanced hresult (fun t ht => (htrace t ht).2) hpos
      fun hstatus => hkeys ▸ blocked_notMem hnodup hrow hstatus

end Figures

section Assertion

private def IsAssertion (e : Error) : Prop := ∃ message, e = .assertionError message

private theorem avoids_gap {α : Type} (code detail : String) :
    Avoids IsAssertion (gap code detail : Tx α) := by
  simp [gap, IsAssertion]

private theorem avoids_gapIf (p : Prop) [Decidable p] (code detail : String) :
    Avoids IsAssertion (gapIf p code detail) := by
  unfold gapIf
  split
  · exact avoids_gap _ _
  · exact avoids_ok _

private theorem avoids_orInvalid {α : Type} (x : Option α) : Avoids IsAssertion (orInvalid x) := by
  unfold orInvalid
  split <;> simp [IsAssertion]

private theorem avoids_utc (t : Timestamp) : Avoids IsAssertion (utc t) := by
  unfold utc
  split <;> simp [IsAssertion]

private theorem avoids_participantRows (evidence : ClosingEvidence) (cutoff : Int) :
    Avoids IsAssertion (participantRows evidence cutoff) := by
  refine avoids_bind (avoids_gapIf _ _ _) fun _ _ => avoids_mapM (fun row => ?_) _
  refine avoids_bind ?_ fun _ _ => avoids_pure _
  unfold effectiveStatus
  split
  · exact avoids_ok _
  · split
    · exact avoids_gap _ _
    · exact avoids_ok _
  · split
    · exact avoids_gap _ _
    · exact avoids_ok _
  · exact avoids_gap _ _

private theorem avoids_tallyEvent (cutoff limit : Int) (tally : EventTally) (event : CashEvidence) :
    Avoids IsAssertion (tallyEvent cutoff limit tally event) := by
  refine avoids_bind (avoids_utc _) fun moment _ => avoids_bind (avoids_orInvalid _) fun amount _ => ?_
  split
  · exact avoids_pure _
  · split
    · refine avoids_bind (avoids_gapIf _ _ _) fun _ _ => ?_
      split <;> exact avoids_pure _
    · refine avoids_bind (avoids_gapIf _ _ _) fun _ _ => ?_
      split
      · exact avoids_pure _
      · exact avoids_bind (avoids_gapIf _ _ _) fun _ _ => avoids_pure _
    · exact avoids_gap _ _

private theorem avoids_traceContributions (evidence : ClosingEvidence) (cutoff : Int)
    (rows : List ParticipantRow) :
    Avoids IsAssertion (traceContributions evidence cutoff rows) := by
  refine avoids_mapM (fun contribution => ?_) _
  unfold traceContribution
  split
  · exact avoids_gap _ _
  · refine avoids_bind (avoids_mapM (fun event => avoids_utc _) _) fun _ _ => ?_
    refine avoids_bind (avoids_foldlM (avoids_tallyEvent _ _) _ _) fun tally _ => ?_
    refine avoids_bind (avoids_orInvalid _) fun amountDue _ => ?_
    refine avoids_bind (avoids_gapIf _ _ _) fun _ _ => avoids_bind (avoids_gapIf _ _ _) fun _ _ => ?_
    exact avoids_bind (avoids_orInvalid _) fun _ _ => avoids_bind (avoids_orInvalid _) fun _ _ =>
      avoids_pure _

private theorem avoids_tallyGain (cycleId : Nat) (startAt cutoff : Int) (tally : GainTally)
    (gain : GainEvidence) : Avoids IsAssertion (tallyGain cycleId startAt cutoff tally gain) := by
  refine avoids_bind (avoids_gapIf _ _ _) fun _ _ => avoids_bind (avoids_orInvalid _) fun _ _ => ?_
  refine avoids_bind (avoids_utc _) fun _ _ => ?_
  split <;> exact avoids_pure _

private theorem avoids_allocationCents (total : Nat) (bases : List (Nat × Nat)) (tieKey : Nat → Nat) :
    Avoids IsAssertion (allocationCents total bases tieKey) := by
  unfold allocationCents
  dsimp only
  split
  · exact avoids_gap _ _
  · split <;> exact avoids_ok _

private theorem avoids_tallyObligation (evidence : ClosingEvidence) (rows : List ParticipantRow)
    (cutoffDate : Int) (tally : ObligationTally) (obligation : ObligationEvidence) :
    Avoids IsAssertion (tallyObligation evidence rows cutoffDate tally obligation) := by
  have hnote : ∀ tally, Avoids IsAssertion (noteAgreement tally obligation) := by
    intro tally
    unfold noteAgreement
    split
    · split
      · split
        · exact avoids_ok _
        · split
          · exact avoids_ok _
          · exact avoids_gap _ _
      · exact avoids_gap _ _
    · exact avoids_ok _
  unfold tallyObligation
  split
  · exact avoids_pure _
  · split
    · exact avoids_pure _
    · refine avoids_bind (avoids_gapIf _ _ _) fun _ _ => avoids_bind (hnote _) fun noted _ => ?_
      split
      · exact avoids_pure _
      · split
        · exact avoids_pure _
        · refine avoids_bind (avoids_gapIf _ _ _) fun _ _ => ?_
          refine avoids_bind (avoids_orInvalid _) fun _ _ => ?_
          refine avoids_bind (avoids_gapIf _ _ _) fun _ _ => ?_
          split <;> exact avoids_pure _

private theorem avoids_participantResult (traces : List ContributionTrace) (totalBase : Int)
    (shares : List (Nat × Nat)) (obligations : List ObligationRow) (row : ParticipantRow) :
    Avoids IsAssertion (participantResult traces totalBase shares obligations row) := by
  refine avoids_bind (avoids_orInvalid _) fun _ _ => avoids_bind (avoids_orInvalid _) fun _ _ => ?_
  refine avoids_bind (avoids_orInvalid _) fun _ _ => avoids_bind (avoids_orInvalid _) fun _ _ => ?_
  exact avoids_bind (avoids_orInvalid _) fun _ _ => avoids_bind (avoids_orInvalid _) fun _ _ =>
    avoids_pure _

private theorem avoids_closingFigures (evidence : ClosingEvidence) :
    Avoids IsAssertion (closingFigures evidence) := by
  refine avoids_bind (avoids_utc _) fun _ _ => avoids_bind (avoids_gapIf _ _ _) fun _ _ => ?_
  refine avoids_bind (avoids_participantRows _ _) fun _ _ => ?_
  refine avoids_bind (avoids_traceContributions _ _ _) fun _ _ => ?_
  refine avoids_bind (avoids_foldlM (avoids_tallyGain _ _ _) _ _) fun _ _ => ?_
  refine avoids_bind (avoids_orInvalid _) fun _ _ => avoids_bind (avoids_gapIf _ _ _) fun _ _ => ?_
  refine avoids_bind (avoids_orInvalid _) fun _ _ => avoids_bind (avoids_orInvalid _) fun _ _ => ?_
  refine avoids_bind (avoids_orInvalid _) fun _ _ => ?_
  refine avoids_bind (avoids_allocationCents _ _ _) fun _ _ => ?_
  refine avoids_bind (avoids_foldlM (avoids_tallyObligation _ _ _) _ _) fun _ _ => ?_
  exact avoids_bind (avoids_mapM (avoids_participantResult _ _ _ _) _) fun _ _ => avoids_pure _

end Assertion

private theorem sum_entitlements_of {participants : List ParticipantResult}
    (h : ∀ p ∈ participants, p.grossEntitlement = p.refundableContributionPrincipal + p.grossShare) :
    (participants.map (·.grossEntitlement)).sum = (participants.map (·.grossShare)).sum +
      (participants.map (·.refundableContributionPrincipal)).sum := by
  rw [List.map_congr_left h, List.sum_map_add, Int.add_comm]

/-- The assertion after the allocation compares equal amounts. -/
private theorem assertion_holds {f : ClosingFigures} (h : Accounted f) :
    sumToDigits 28 0 (f.participants.map (·.grossShare)) = f.distributable := by
  have hnonneg : ∀ a ∈ f.participants.map (·.grossShare), 0 ≤ a := by
    intro a ha
    obtain ⟨p, hp, rfl⟩ := List.mem_map.mp ha
    exact (h.balanced p hp).share_nonneg
  have hlt := h.distributable_lt
  rw [sumToDigits_of_sum_lt (by decide) _ hnonneg (le_refl 0) (by rw [h.sum_shares]; omega),
    h.sum_shares, zero_add]

private theorem closingMemory_conserves {evidence : ClosingEvidence} {m : ClosingMemory}
    (h : closingMemory evidence = .ok m) : Conserves m := by
  rw [closingMemory, bind_eq_ok] at h
  obtain ⟨f, hf, h⟩ := h
  have hfacts := closingFigures_accounted hf
  rw [if_neg (not_not.mpr (assertion_holds hfacts))] at h
  cases h
  exact {
    fee_add_distributable := hfacts.fee_add_distributable
    sum_shares := hfacts.sum_shares
    sum_entitlements := by rw [sum_entitlements_of hfacts.entitlement, hfacts.sum_shares]
    balanced := hfacts.balanced }

/-- Every accepted closing conserves money, and no evidence at all reaches the assertion. -/
theorem closing_conserves_money (sha256 : String → String) (evidence : ClosingEvidence) :
    (∀ message, calculateCycleClosing sha256 evidence ≠ .error (.assertionError message)) ∧
      ∀ result, calculateCycleClosing sha256 evidence = .ok result → Conserves result.memory := by
  refine ⟨?_, ?_⟩
  · have hmemory : Avoids IsAssertion (closingMemory evidence) := by
      refine avoids_bind (avoids_closingFigures evidence) fun f hf => ?_
      rw [if_neg (not_not.mpr (assertion_holds (closingFigures_accounted hf)))]
      exact avoids_ok _
    have havoids : Avoids IsAssertion (calculateCycleClosing sha256 evidence) :=
      avoids_bind hmemory fun _ _ => avoids_pure _
    exact fun message h => havoids _ h ⟨message, rfl⟩
  · intro result h
    simp only [calculateCycleClosing, bind_eq_ok, pure_eq_ok] at h
    obtain ⟨memory, hmemory, rfl⟩ := h
    exact closingMemory_conserves hmemory

/-- Two members saved 10.00 and 20.00 and 10.01 of interest came in; one of them owes 40.00. -/
private def sampleEvidence : ClosingEvidence where
  cycleId := 1
  cycleStartDate := 0
  closingCutoffAt := { instant := 30 * dayLength, aware := true }
  participations := [
    { id := 1, memberId := 7, status := .ACTIVE, blockedAt := none, voluntaryExitAt := none },
    { id := 2, memberId := 8, status := .ACTIVE, blockedAt := none, voluntaryExitAt := none }]
  contributions := [
    { id := 1, memberId := 7, cycleId := 1, amount := ⟨1000, -2⟩, status := .PAID, cancelledAt := none
      events := [{ eventId := "e1", amount := ⟨1000, -2⟩, source := .ORIGINAL, settlementId := some 1
                   occurredAt := { instant := 2 * dayLength, aware := true } }] },
    { id := 2, memberId := 8, cycleId := 1, amount := ⟨2000, -2⟩, status := .PAID, cancelledAt := none
      events := [{ eventId := "e2", amount := ⟨2000, -2⟩, source := .ORIGINAL, settlementId := some 2
                   occurredAt := { instant := 2 * dayLength, aware := true } }] }]
  gains := [{ sourceId := "s3", sourceType := "PAYMENT_SETTLEMENT", kind := "LOAN_INTEREST"
              cycleId := some 1, amount := ⟨1001, -2⟩
              occurredAt := { instant := 3 * dayLength, aware := true } }]
  obligations := [{ sourceId := "o1", memberId := 7, kind := "LOAN_INSTALLMENT", amount := ⟨4000, -2⟩
                    dueDate := 5, loanId := some 1, agreementId := none }]

theorem sample_closing_conserves_money :
    ∃ result, calculateCycleClosing (fun text => text) sampleEvidence = .ok result ∧
      Conserves result.memory :=
  ⟨_, rfl, (closing_conserves_money (fun text => text) sampleEvidence).2 _ rfl⟩

end Caixinha.Properties.ClosingConservation
