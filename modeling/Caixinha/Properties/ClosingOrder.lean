import Caixinha.Library.Outcomes
import Caixinha.Library.Sorting
import Caixinha.Model.CycleClosing

/-! The closing memory and its hash do not depend on the order in which the evidence is listed,
as long as a contribution id and an event of a contribution name one row each. -/
namespace Caixinha.Properties.ClosingOrder

open Caixinha.Model Caixinha.Model.CycleClosing
open Caixinha.Library Decimal Fallible Outcomes Sorting

/-- The same contribution with its events in another order. -/
def SameContribution (c d : ContributionEvidence) : Prop :=
  d = { c with events := d.events } ∧ c.events.Perm d.events

/-- The same evidence with every list in another order. -/
structure Reordered (e e' : ClosingEvidence) : Prop where
  cycle : e'.cycleId = e.cycleId
  start : e'.cycleStartDate = e.cycleStartDate
  cutoff : e'.closingCutoffAt = e.closingCutoffAt
  superseded : e'.supersededLoanIds = e.supersededLoanIds
  participations : e.participations.Perm e'.participations
  contributions : ∃ listed, e.contributions.Perm listed ∧
    List.Forall₂ SameContribution listed e'.contributions
  gains : e.gains.Perm e'.gains
  obligations : e.obligations.Perm e'.obligations
  ownBalance : e.ownBalanceSettledLoanIds.Perm e'.ownBalanceSettledLoanIds
  gaps : e.sourceGaps.Perm e'.sourceGaps

/-- Among the contributions of the cycle an id names one row, and within one of them an instant
with an event id names one event. -/
structure Identified (e : ClosingEvidence) : Prop where
  contributions : ∀ c ∈ e.contributions, ∀ d ∈ e.contributions, c.cycleId = e.cycleId →
    d.cycleId = e.cycleId → c.id = d.id → c = d
  events : ∀ c ∈ e.contributions, c.cycleId = e.cycleId → ∀ x ∈ c.events, ∀ y ∈ c.events,
    x.occurredAt.instant = y.occurredAt.instant → x.eventId = y.eventId → x = y

section Rows
variable {e e' : ClosingEvidence}

private theorem sortedParticipations_eq {xs ys : List ParticipationEvidence} (h : xs.Perm ys)
    (hnodup : (xs.map (·.memberId)).Nodup) : sortedParticipations xs = sortedParticipations ys := by
  refine insertionSort_eq_of_perm (fun a b => by omega) (fun a b c => by omega) h ?_
  intro a ha b hb hab hba
  exact List.inj_on_of_nodup_map hnodup ha hb (by omega)

private theorem participantRows_matches (h : Reordered e e') (cutoff : Int) :
    Matches Eq (participantRows e cutoff) (participantRows e' cutoff) := by
  by_cases hnodup : (e.participations.map (·.memberId)).Nodup
  · rw [participantRows, participantRows, sortedParticipations_eq h.participations hnodup]
    exact .refl _
  · have hfails : ∀ {d : ClosingEvidence}, d.participations.Perm e.participations →
        ∀ rows, participantRows d cutoff ≠ .ok rows := by
      intro d hd rows hok
      simp only [participantRows, bind_eq_ok, gapIf_eq_ok, not_not] at hok
      obtain ⟨-, hkeys, -⟩ := hok
      refine hnodup ((List.Perm.nodup_iff ?_).mp hkeys)
      exact ((List.perm_insertionSort _ _).trans hd).map _
    exact .failed (hfails (.refl _)) (hfails h.participations.symm)

end Rows

section Contributions

private theorem sortedEvents_eq {xs ys : List CashEvidence} (h : xs.Perm ys)
    (hsame : ∀ x ∈ xs, ∀ y ∈ xs, x.occurredAt.instant = y.occurredAt.instant →
      x.eventId = y.eventId → x = y) : sortedEvents xs = sortedEvents ys := by
  refine insertionSort_eq_of_perm (fun a b => ?_) (fun a b c hab hbc => ?_) h ?_
  · rcases lt_trichotomy a.occurredAt.instant b.occurredAt.instant with hlt | heq | hgt
    · exact .inl (.inl hlt)
    · rcases le_total a.eventId b.eventId with hid | hid
      · exact .inl (.inr ⟨heq, hid⟩)
      · exact .inr (.inr ⟨heq.symm, hid⟩)
    · exact .inr (.inl hgt)
  · rcases hab with hab | ⟨hab, hid⟩ <;> rcases hbc with hbc | ⟨hbc, hid'⟩
    · exact .inl (hab.trans hbc)
    · exact .inl (hbc ▸ hab)
    · exact .inl (hab ▸ hbc)
    · exact .inr ⟨hab.trans hbc, hid.trans hid'⟩
  · intro a ha b hb hab hba
    have hinstant : a.occurredAt.instant = b.occurredAt.instant := by omega
    refine hsame a ha b hb hinstant (le_antisymm ?_ ?_)
    · exact (hab.resolve_left (by omega)).2
    · exact (hba.resolve_left (by omega)).2

private theorem utc_matches {xs ys : List CashEvidence} (h : xs.Perm ys) :
    Matches (fun _ _ => True) (xs.mapM (fun event => utc event.occurredAt))
      (ys.mapM (fun event => utc event.occurredAt)) := by
  have hok : ∀ {zs : List CashEvidence}, (∃ moments, zs.mapM (fun event => utc event.occurredAt) =
      .ok moments) ↔ ∀ event ∈ zs, event.occurredAt.aware = true := by
    intro zs
    induction zs with
    | nil => simp [List.mapM_nil, pure_eq_ok]
    | cons event zs ih =>
      simp only [List.mapM_cons, bind_eq_ok, pure_eq_ok, List.forall_mem_cons, ← ih]
      constructor
      · rintro ⟨_, moment, hmoment, rest, hrest, -⟩
        refine ⟨?_, rest, hrest⟩
        by_contra hnaive
        rw [utc, if_neg hnaive] at hmoment
        cases hmoment
      · rintro ⟨haware, rest, hrest⟩
        exact ⟨_, _, by rw [utc, if_pos haware], rest, hrest, rfl⟩
  constructor
  · intro moments hxs
    obtain ⟨others, hys⟩ := hok.mpr fun event hevent =>
      hok.mp ⟨moments, hxs⟩ event (h.mem_iff.mpr hevent)
    exact ⟨others, hys, trivial⟩
  · intro moments hys
    obtain ⟨others, hxs⟩ := hok.mpr fun event hevent =>
      hok.mp ⟨moments, hys⟩ event (h.mem_iff.mp hevent)
    exact ⟨others, hxs, trivial⟩

private theorem laterReversal_eq {xs ys : List CashEvidence} (h : xs.Perm ys) (cutoff : Int)
    (tally : EventTally) : laterReversal cutoff tally xs = laterReversal cutoff tally ys := by
  rw [laterReversal, laterReversal, Bool.eq_iff_iff, List.any_eq_true, List.any_eq_true]
  simp only [h.mem_iff]

private theorem traceContribution_matches {cutoff : Int} {rows : List ParticipantRow}
    {c d : ContributionEvidence} (h : SameContribution c d)
    (hsame : ∀ x ∈ c.events, ∀ y ∈ c.events, x.occurredAt.instant = y.occurredAt.instant →
      x.eventId = y.eventId → x = y) :
    Matches Eq (traceContribution cutoff rows c) (traceContribution cutoff rows d) := by
  obtain ⟨hd, hevents⟩ := h
  rw [hd]
  unfold traceContribution
  dsimp only
  cases rows.find? (fun row => row.memberId = c.memberId) with
  | none => exact .refl _
  | some row =>
    dsimp only
    refine (utc_matches hevents).bind fun _ _ _ => ?_
    rw [sortedEvents_eq hevents hsame]
    refine (Matches.refl _).bind_eq fun tally => ?_
    rw [laterReversal_eq hevents]
    exact .refl _

private theorem traceContributions_matches {e e' : ClosingEvidence} (h : Reordered e e')
    (hid : Identified e) (cutoff : Int) (rows : List ParticipantRow) :
    Matches Eq (traceContributions e cutoff rows) (traceContributions e' cutoff rows) := by
  obtain ⟨listed, hperm, hrelated⟩ := h.contributions
  have hsorted : ((e.contributions.insertionSort (fun a b => a.id ≤ b.id)).filter
      (fun c => c.cycleId = e.cycleId)) =
      (listed.insertionSort (fun a b => a.id ≤ b.id)).filter (fun c => c.cycleId = e.cycleId) := by
    have htotal : ∀ a b : ContributionEvidence, a.id ≤ b.id ∨ b.id ≤ a.id :=
      fun a b => Nat.le_total a.id b.id
    have htrans : ∀ a b c : ContributionEvidence, a.id ≤ b.id → b.id ≤ c.id → a.id ≤ c.id :=
      fun a b c => Nat.le_trans
    refine filter_insertionSort_eq_of_perm htotal htrans hperm _ ?_
    intro a ha b hb hina hinb hab hba
    exact hid.contributions a ha b hb (by simpa using hina) (by simpa using hinb) (le_antisymm hab hba)
  have hcopies : List.Forall₂ SameContribution
      ((listed.insertionSort (fun a b => a.id ≤ b.id)).filter (fun c => c.cycleId = e.cycleId))
      ((e'.contributions.insertionSort (fun a b => a.id ≤ b.id)).filter
        (fun c => c.cycleId = e'.cycleId)) := by
    refine filter_forall₂ (fun a b hab => ?_) (insertionSort_forall₂ (fun a a' b b' ha hb => ?_) hrelated)
    · rw [hab.1, h.cycle]
    · rw [ha.1, hb.1]
  rw [traceContributions, traceContributions, hsorted]
  -- every row of the left side is one of the evidence, so its events are identified
  have hleft : ∀ c ∈ (listed.insertionSort (fun a b => a.id ≤ b.id)).filter
      (fun c => c.cycleId = e.cycleId), c ∈ e.contributions ∧ c.cycleId = e.cycleId := by
    intro c hc
    rw [List.mem_filter, List.mem_insertionSort] at hc
    exact ⟨hperm.mem_iff.mpr hc.1, by simpa using hc.2⟩
  have hboth := (List.forall₂_and_left (p := fun c => c ∈ e.contributions ∧ c.cycleId = e.cycleId)
    (R := SameContribution) _ _).mpr ⟨hleft, hcopies⟩
  refine Matches.mapM hboth fun c d hcd => ?_
  exact traceContribution_matches hcd.2 (hid.events c hcd.1.1 hcd.1.2)

end Contributions

section Gains

private def gainKey (gain : GainEvidence) : String × String × String :=
  (gain.sourceType, gain.sourceId, gain.kind)

private theorem textTripleLe_total (a b : String × String × String) :
    textTripleLe a b ∨ textTripleLe b a := by
  unfold textTripleLe
  rcases lt_trichotomy a.1 b.1 with h | h | h
  · exact .inl (.inl h)
  · rcases lt_trichotomy a.2.1 b.2.1 with h' | h' | h'
    · exact .inl (.inr ⟨h, .inl h'⟩)
    · rcases le_total a.2.2 b.2.2 with h'' | h''
      · exact .inl (.inr ⟨h, .inr ⟨h', h''⟩⟩)
      · exact .inr (.inr ⟨h.symm, .inr ⟨h'.symm, h''⟩⟩)
    · exact .inr (.inr ⟨h.symm, .inl h'⟩)
  · exact .inr (.inl h)

private theorem textTripleLe_trans (a b c : String × String × String) (hab : textTripleLe a b)
    (hbc : textTripleLe b c) : textTripleLe a c := by
  unfold textTripleLe at *
  rcases hab with hab | ⟨hab, hab'⟩
  · rcases hbc with hbc | ⟨hbc, -⟩
    · exact .inl (hab.trans hbc)
    · exact .inl (hbc ▸ hab)
  · rcases hbc with hbc | ⟨hbc, hbc'⟩
    · exact .inl (hab ▸ hbc)
    · refine .inr ⟨hab.trans hbc, ?_⟩
      rcases hab' with hab' | ⟨hab', h⟩ <;> rcases hbc' with hbc' | ⟨hbc', h'⟩
      · exact .inl (hab'.trans hbc')
      · exact .inl (hbc' ▸ hab')
      · exact .inl (hab' ▸ hbc')
      · exact .inr ⟨hab'.trans hbc', h.trans h'⟩

private theorem textTripleLe_antisymm {a b : String × String × String} (hab : textTripleLe a b)
    (hba : textTripleLe b a) : a = b := by
  unfold textTripleLe at *
  have h1 : a.1 = b.1 := by
    rcases hab with h | h
    · rcases hba with h' | h'
      · exact absurd (h.trans h') (lt_irrefl _)
      · exact h'.1.symm
    · exact h.1
  have hab := (hab.resolve_left (h1 ▸ lt_irrefl _)).2
  have hba := (hba.resolve_left (h1 ▸ lt_irrefl _)).2
  have h2 : a.2.1 = b.2.1 := by
    rcases hab with h | h
    · rcases hba with h' | h'
      · exact absurd (h.trans h') (lt_irrefl _)
      · exact h'.1.symm
    · exact h.1
  have hab := (hab.resolve_left (h2 ▸ lt_irrefl _)).2
  have hba := (hba.resolve_left (h2 ▸ lt_irrefl _)).2
  exact Prod.ext h1 (Prod.ext h2 (le_antisymm hab hba))

private theorem sortedGains_eq {xs ys : List GainEvidence} (h : xs.Perm ys)
    (hnodup : (xs.map gainKey).Nodup) : sortedGains xs = sortedGains ys := by
  have htotal : ∀ a b, textTripleLe (gainKey a) (gainKey b) ∨ textTripleLe (gainKey b) (gainKey a) :=
    fun a b => textTripleLe_total _ _
  have htrans : ∀ a b c, textTripleLe (gainKey a) (gainKey b) → textTripleLe (gainKey b) (gainKey c) →
      textTripleLe (gainKey a) (gainKey c) := fun a b c => textTripleLe_trans _ _ _
  refine insertionSort_eq_of_perm htotal htrans h ?_
  intro a ha b hb hab hba
  exact List.inj_on_of_nodup_map hnodup ha hb (textTripleLe_antisymm hab hba)

/-- A gain source seen twice fails the pass, wherever its rows stand. -/
private theorem tallyGain_step {cycleId : Nat} {startAt cutoff : Int} {tally next : GainTally}
    {gain : GainEvidence} (h : tallyGain cycleId startAt cutoff tally gain = .ok next) :
    gainKey gain ∉ tally.seen ∧ next.seen = gainKey gain :: tally.seen := by
  simp only [tallyGain, bind_eq_ok, gapIf_eq_ok] at h
  obtain ⟨-, hnew, amount, -, moment, -, h⟩ := h
  split at h <;> cases h <;> exact ⟨hnew, rfl⟩

private theorem tallyGains_nodup {cycleId : Nat} {startAt cutoff : Int} {gains : List GainEvidence}
    {tally last : GainTally} (h : gains.foldlM (tallyGain cycleId startAt cutoff) tally = .ok last) :
    (gains.map gainKey).Nodup ∧ ∀ gain ∈ gains, gainKey gain ∉ tally.seen := by
  induction gains generalizing tally with
  | nil => simp
  | cons gain gains ih =>
    rw [List.foldlM_cons, bind_eq_ok] at h
    obtain ⟨next, hnext, hrest⟩ := h
    obtain ⟨hnew, hseen⟩ := tallyGain_step hnext
    obtain ⟨hnodup, hfresh⟩ := ih hrest
    rw [hseen] at hfresh
    refine ⟨?_, ?_⟩
    · rw [List.map_cons, List.nodup_cons]
      refine ⟨fun hmem => ?_, hnodup⟩
      obtain ⟨other, hother, hkey⟩ := List.mem_map.mp hmem
      exact hfresh other hother (hkey ▸ List.mem_cons_self ..)
    · intro other hother
      rcases List.mem_cons.mp hother with rfl | hother
      · exact hnew
      · exact fun hin => hfresh other hother (List.mem_cons_of_mem _ hin)

/-- Two tallies that differ in the order of the reported gaps only. -/
def SameTally (t u : GainTally) : Prop := t = { u with gaps := t.gaps } ∧ t.gaps.Perm u.gaps

private theorem tallyGain_matches {cycleId : Nat} {startAt cutoff : Int} {t u : GainTally}
    (gain : GainEvidence) (h : SameTally t u) :
    Matches SameTally (tallyGain cycleId startAt cutoff t gain)
      (tallyGain cycleId startAt cutoff u gain) := by
  obtain ⟨ht, hgaps⟩ := h
  rw [ht]
  unfold tallyGain
  dsimp only
  refine (Matches.refl _).bind_eq fun _ => (Matches.refl _).bind_eq fun amount =>
    (Matches.refl _).bind_eq fun moment => ?_
  cases exclusionReason cycleId startAt cutoff moment gain with
  | none => exact .ok ⟨rfl, hgaps⟩
  | some excluded =>
    obtain ⟨reason, reported⟩ := excluded
    refine .ok ⟨rfl, ?_⟩
    cases reported with
    | true => exact hgaps.append_right _
    | false => exact hgaps

private theorem tallyGains_matches {e e' : ClosingEvidence} (h : Reordered e e') (startAt cutoff : Int) :
    Matches SameTally
      ((sortedGains e.gains).foldlM (tallyGain e.cycleId startAt cutoff) { gaps := e.sourceGaps })
      ((sortedGains e'.gains).foldlM (tallyGain e'.cycleId startAt cutoff)
        { gaps := e'.sourceGaps }) := by
  rw [h.cycle]
  by_cases hnodup : (e.gains.map gainKey).Nodup
  · rw [sortedGains_eq h.gains hnodup]
    exact Matches.foldlM (fun s t gain hst => tallyGain_matches gain hst) _ ⟨rfl, h.gaps⟩
  · have hfails : ∀ {d : ClosingEvidence} {tally last : GainTally}, d.gains.Perm e.gains →
        (sortedGains d.gains).foldlM (tallyGain e.cycleId startAt cutoff) tally ≠ .ok last := by
      intro d tally last hd hok
      refine hnodup ((List.Perm.nodup_iff ?_).mp (tallyGains_nodup hok).1)
      exact ((List.perm_insertionSort _ _).trans hd).map _
    exact .failed (fun _ => hfails (.refl _)) (fun _ => hfails h.gains.symm)

end Gains

section Obligations
variable {rows : List ParticipantRow} {cutoffDate : Int}

/-- An obligation of a participant that is due by the cutoff. -/
private def counts (rows : List ParticipantRow) (cutoffDate : Int) (o : ObligationEvidence) : Bool :=
  (rows.find? (fun row => row.memberId = o.memberId)).isSome && !decide (cutoffDate < o.dueDate)

private theorem tallyObligation_skipped {e : ClosingEvidence} {tally : ObligationTally}
    {o : ObligationEvidence} (h : counts rows cutoffDate o = false) :
    tallyObligation e rows cutoffDate tally o = .ok tally := by
  unfold tallyObligation
  cases hrow : rows.find? (fun row => row.memberId = o.memberId) with
  | none => rfl
  | some row =>
    have hlate : cutoffDate < o.dueDate := by simpa [counts, hrow] using h
    simp only [hlate, if_true]
    rfl

private theorem tallyObligations_counted {e : ClosingEvidence} {tally : ObligationTally}
    (os : List ObligationEvidence) :
    os.foldlM (tallyObligation e rows cutoffDate) tally =
      (os.filter (counts rows cutoffDate)).foldlM (tallyObligation e rows cutoffDate) tally := by
  induction os generalizing tally with
  | nil => rfl
  | cons o os ih =>
    cases ho : counts rows cutoffDate o with
    | false =>
      rw [List.foldlM_cons, tallyObligation_skipped ho, ok_bind, List.filter_cons_of_neg (by simp [ho]), ih]
    | true =>
      rw [List.foldlM_cons, List.filter_cons_of_pos ho, List.foldlM_cons]
      exact congrArg _ (funext fun next => ih)

private theorem noteAgreement_seen {tally next : ObligationTally} {o : ObligationEvidence}
    (h : noteAgreement tally o = .ok next) : next.seen = tally.seen := by
  unfold noteAgreement at h
  split at h
  · split at h
    · split at h
      · cases h; rfl
      · split at h
        · cases h; rfl
        · cases h
    · cases h
  · cases h; rfl

private theorem tallyObligation_step {e : ClosingEvidence} {tally next : ObligationTally}
    {o : ObligationEvidence} (hcounts : counts rows cutoffDate o = true)
    (h : tallyObligation e rows cutoffDate tally o = .ok next) :
    o.sourceId ∉ tally.seen ∧ next.seen = o.sourceId :: tally.seen := by
  unfold tallyObligation at h
  cases hrow : rows.find? (fun row => row.memberId = o.memberId) with
  | none => simp [counts, hrow] at hcounts
  | some row =>
    have hdue : ¬ cutoffDate < o.dueDate := by simpa [counts, hrow] using hcounts
    simp only [hrow, hdue, if_false, bind_eq_ok, gapIf_eq_ok] at h
    obtain ⟨-, hnew, noted, hnoted, h⟩ := h
    have hseen : noted.seen = o.sourceId :: tally.seen := noteAgreement_seen hnoted
    refine ⟨hnew, ?_⟩
    split at h
    · cases h; exact hseen
    split at h
    · cases h; exact hseen
    simp only [bind_eq_ok, gapIf_eq_ok] at h
    obtain ⟨-, -, amount, -, -, -, h⟩ := h
    split at h <;> cases h <;> exact hseen

private theorem tallyObligations_nodup {e : ClosingEvidence} {os : List ObligationEvidence}
    {tally last : ObligationTally} (hall : ∀ o ∈ os, counts rows cutoffDate o = true)
    (h : os.foldlM (tallyObligation e rows cutoffDate) tally = .ok last) :
    (os.map (·.sourceId)).Nodup ∧ ∀ o ∈ os, o.sourceId ∉ tally.seen := by
  induction os generalizing tally with
  | nil => simp
  | cons o os ih =>
    rw [List.foldlM_cons, bind_eq_ok] at h
    obtain ⟨next, hnext, hrest⟩ := h
    obtain ⟨hnew, hseen⟩ := tallyObligation_step (hall o (List.mem_cons_self ..)) hnext
    obtain ⟨hnodup, hfresh⟩ := ih (fun x hx => hall x (List.mem_cons_of_mem _ hx)) hrest
    rw [hseen] at hfresh
    refine ⟨?_, ?_⟩
    · rw [List.map_cons, List.nodup_cons]
      refine ⟨fun hmem => ?_, hnodup⟩
      obtain ⟨other, hother, hkey⟩ := List.mem_map.mp hmem
      exact hfresh other hother (hkey ▸ List.mem_cons_self ..)
    · intro other hother
      rcases List.mem_cons.mp hother with rfl | hother
      · exact hnew
      · exact fun hin => hfresh other hother (List.mem_cons_of_mem _ hin)

private theorem tallyObligations_matches {e e' : ClosingEvidence} (h : Reordered e e') :
    Matches Eq
      ((e.obligations.insertionSort (fun a b => a.sourceId ≤ b.sourceId)).foldlM
        (tallyObligation e rows cutoffDate) {})
      ((e'.obligations.insertionSort (fun a b => a.sourceId ≤ b.sourceId)).foldlM
        (tallyObligation e' rows cutoffDate) {}) := by
  have hpass : tallyObligation e' rows cutoffDate = tallyObligation e rows cutoffDate := by
    funext tally o
    unfold tallyObligation
    rw [h.superseded]
  rw [hpass, tallyObligations_counted (e.obligations.insertionSort _),
    tallyObligations_counted (e'.obligations.insertionSort _)]
  have hperm : ∀ {xs ys : List ObligationEvidence}, xs.Perm ys →
      ((xs.insertionSort (fun a b => a.sourceId ≤ b.sourceId)).filter (counts rows cutoffDate)).Perm
        (ys.filter (counts rows cutoffDate)) :=
    fun hxy => ((List.perm_insertionSort _ _).trans hxy).filter _
  by_cases hnodup : ((e.obligations.filter (counts rows cutoffDate)).map (·.sourceId)).Nodup
  · have htotal : ∀ a b : ObligationEvidence, a.sourceId ≤ b.sourceId ∨ b.sourceId ≤ a.sourceId :=
      fun a b => le_total _ _
    have htrans : ∀ a b c : ObligationEvidence, a.sourceId ≤ b.sourceId → b.sourceId ≤ c.sourceId →
        a.sourceId ≤ c.sourceId := fun a b c => le_trans
    refine .of_eq (congrArg _ ?_)
    refine filter_insertionSort_eq_of_perm htotal htrans h.obligations _ ?_
    intro a ha b hb hina hinb hab hba
    exact List.inj_on_of_nodup_map hnodup (List.mem_filter.mpr ⟨ha, hina⟩)
      (List.mem_filter.mpr ⟨hb, hinb⟩) (le_antisymm hab hba)
  · have hfails : ∀ {os : List ObligationEvidence} {last : ObligationTally},
        os.Perm (e.obligations.filter (counts rows cutoffDate)) →
        os.foldlM (tallyObligation e rows cutoffDate) {} ≠ .ok last := by
      intro os last hos hok
      have hall : ∀ o ∈ os, counts rows cutoffDate o = true :=
        fun o ho => (List.mem_filter.mp (hos.subset ho)).2
      exact hnodup ((hos.map _).nodup_iff.mp (tallyObligations_nodup hall hok).1)
    exact .failed (fun _ => hfails (hperm (.refl _))) (fun _ => hfails (hperm h.obligations.symm))

end Obligations

section Memory
variable {e e' : ClosingEvidence}

/-- Figures that differ in the order of the reported gaps only. -/
private def SameFigures (f g : ClosingFigures) : Prop :=
  f = { g with gains := f.gains } ∧ SameTally f.gains g.gains

private theorem closingFigures_matches (h : Reordered e e') (hid : Identified e) :
    Matches SameFigures (closingFigures e) (closingFigures e') := by
  unfold closingFigures
  rw [h.cutoff, h.start]
  refine (Matches.refl _).bind_eq fun cutoff => (Matches.refl _).bind_eq fun _ => ?_
  refine (participantRows_matches h cutoff).bind_eq fun rows => ?_
  refine (traceContributions_matches h hid cutoff rows).bind_eq fun traces => ?_
  refine (tallyGains_matches h _ cutoff).bind fun gains gains' hgains => ?_
  rw [show gains.gross = gains'.gross from by rw [hgains.1]]
  refine (Matches.refl _).bind_eq fun gross => (Matches.refl _).bind_eq fun _ =>
    (Matches.refl _).bind_eq fun fee => (Matches.refl _).bind_eq fun distributable =>
    (Matches.refl _).bind_eq fun totalBase => (Matches.refl _).bind_eq fun shares => ?_
  refine (tallyObligations_matches h).bind_eq fun obligations =>
    (Matches.refl _).bind_eq fun participants => ?_
  exact .ok ⟨rfl, hgains⟩

private theorem sortedPairs_eq {xs ys : List (String × String)} (h : xs.Perm ys) :
    xs.insertionSort (fun a b => a.1 < b.1 ∨ (a.1 = b.1 ∧ a.2 ≤ b.2)) =
      ys.insertionSort (fun a b => a.1 < b.1 ∨ (a.1 = b.1 ∧ a.2 ≤ b.2)) := by
  refine insertionSort_eq_of_perm (fun a b => ?_) (fun a b c hab hbc => ?_) h ?_
  · rcases lt_trichotomy a.1 b.1 with h | h | h
    · exact .inl (.inl h)
    · exact (le_total a.2 b.2).imp (fun h' => .inr ⟨h, h'⟩) (fun h' => .inr ⟨h.symm, h'⟩)
    · exact .inr (.inl h)
  · rcases hab with hab | ⟨hab, hab'⟩ <;> rcases hbc with hbc | ⟨hbc, hbc'⟩
    · exact .inl (hab.trans hbc)
    · exact .inl (hbc ▸ hab)
    · exact .inl (hab ▸ hbc)
    · exact .inr ⟨hab.trans hbc, hab'.trans hbc'⟩
  · intro a _ b _ hab hba
    have h1 : a.1 = b.1 := by
      rcases hab with h | h
      · rcases hba with h' | h'
        · exact absurd (h.trans h') (lt_irrefl _)
        · exact h'.1.symm
      · exact h.1
    refine Prod.ext h1 (le_antisymm ?_ ?_)
    · exact (hab.resolve_left (h1 ▸ lt_irrefl _)).2
    · exact (hba.resolve_left (h1 ▸ lt_irrefl _)).2

private theorem closingMemory_matches (h : Reordered e e') (hid : Identified e) :
    Matches Eq (closingMemory e) (closingMemory e') := by
  unfold closingMemory
  refine (closingFigures_matches h hid).bind fun f g hfg => ?_
  have hown : e.ownBalanceSettledLoanIds.insertionSort (· ≤ ·) =
      e'.ownBalanceSettledLoanIds.insertionSort (· ≤ ·) :=
    insertionSort_eq_of_perm Nat.le_total (fun _ _ _ => Nat.le_trans) h.ownBalance
      (fun _ _ _ _ => Nat.le_antisymm)
  have hgaps := sortedPairs_eq hfg.2.2
  rw [hfg.1, h.cycle, h.start, hown]
  split
  · exact .refl _
  · dsimp only
    rw [hgaps, hfg.2.1]
    exact .refl _

end Memory

/-- Evidence listed in another order closes with the same memory and the same hash, and fails
where the other fails. -/
theorem closing_ignores_order (sha256 : String → String) {e e' : ClosingEvidence}
    (h : Reordered e e') (hid : Identified e) (result : ClosingResult) :
    calculateCycleClosing sha256 e = .ok result ↔ calculateCycleClosing sha256 e' = .ok result := by
  refine Matches.eq_ok_iff ?_ result
  exact (closingMemory_matches h hid).bind_eq fun memory => .refl _

section Sample

private def samplePayment (id : String) (amount instant : Int) (source : EventSource) : CashEvidence :=
  ⟨id, ⟨amount, -2⟩, ⟨instant, true⟩, source, some 1⟩

private def sampleContribution (id memberId : Nat) (events : List CashEvidence) : ContributionEvidence :=
  ⟨id, memberId, 1, ⟨10000, -2⟩, .OPEN, none, events⟩

private def sampleEvidence (participations : List ParticipationEvidence)
    (contributions : List ContributionEvidence) : ClosingEvidence where
  cycleId := 1
  cycleStartDate := 0
  closingCutoffAt := ⟨864000000000, true⟩
  participations := participations
  contributions := contributions

private def firstMember : ParticipationEvidence := ⟨1, 1, .ACTIVE, none, none⟩
private def secondMember : ParticipationEvidence := ⟨2, 2, .ACTIVE, none, none⟩

private def paid : CashEvidence := samplePayment "a" 4000 20000000000 .ORIGINAL
private def undone : CashEvidence := samplePayment "b" (-4000) 30000000000 .REVERSAL

private def listedForward : ClosingEvidence :=
  sampleEvidence [firstMember, secondMember]
    [sampleContribution 1 1 [paid, undone], sampleContribution 2 2 []]

private def listedBackward : ClosingEvidence :=
  sampleEvidence [secondMember, firstMember]
    [sampleContribution 2 2 [], sampleContribution 1 1 [undone, paid]]

private theorem listed_reordered : Reordered listedForward listedBackward where
  cycle := rfl
  start := rfl
  cutoff := rfl
  superseded := rfl
  participations := .swap _ _ _
  contributions := by
    refine ⟨[sampleContribution 2 2 [], sampleContribution 1 1 [paid, undone]], .swap _ _ _, ?_⟩
    exact .cons ⟨rfl, .refl _⟩ (.cons ⟨rfl, .swap _ _ _⟩ .nil)
  gains := .refl _
  obligations := .refl _
  ownBalance := .refl _
  gaps := .refl _

private theorem listed_identified : Identified listedForward := by
  constructor <;> decide

/-- Two members and a payment with its reversal, listed forward and backward. -/
theorem sample_listing_ignored : ∃ result,
    calculateCycleClosing (fun text => text) listedForward = .ok result ∧
      calculateCycleClosing (fun text => text) listedBackward = .ok result := by
  have hsome : (calculateCycleClosing (fun text => text) listedForward).isOk = true := by decide
  cases hforward : calculateCycleClosing (fun text => text) listedForward with
  | error e =>
    rw [hforward] at hsome
    cases hsome
  | ok result =>
    exact ⟨result, rfl, (closing_ignores_order (fun text => text) listed_reordered listed_identified result).mp hforward⟩

private def sameIdForward : ClosingEvidence :=
  sampleEvidence [firstMember, secondMember] [sampleContribution 1 1 [], sampleContribution 1 2 []]

private def sameIdBackward : ClosingEvidence :=
  sampleEvidence [firstMember, secondMember] [sampleContribution 1 2 [], sampleContribution 1 1 []]

private def undoneAlike : CashEvidence := samplePayment "a" (-4000) 20000000000 .REVERSAL

private def sameEventForward : ClosingEvidence :=
  sampleEvidence [firstMember] [sampleContribution 1 1 [paid, undoneAlike]]

private def sameEventBackward : ClosingEvidence :=
  sampleEvidence [firstMember] [sampleContribution 1 1 [undoneAlike, paid]]

/-- Two contributions under one id are traced in the order of the list; and with contributions that have
ids of their own, a reversal under the instant and the id of its payment raises where it is listed first. -/
theorem same_id_keeps_listing :
    (¬ ∀ e e' : ClosingEvidence, Reordered e e' →
      calculateCycleClosing (fun _ => "") e = calculateCycleClosing (fun _ => "") e') ∧
    ¬ ∀ e e' : ClosingEvidence, Reordered e e' → (e.contributions.map (·.id)).Nodup →
      calculateCycleClosing (fun _ => "") e = calculateCycleClosing (fun _ => "") e' := by
  constructor
  · intro h
    have hsame := h sameIdForward sameIdBackward
      { cycle := rfl, start := rfl, cutoff := rfl, superseded := rfl, participations := .refl _
        contributions := ⟨sameIdBackward.contributions, .swap _ _ _,
          .cons ⟨rfl, .refl _⟩ (.cons ⟨rfl, .refl _⟩ .nil)⟩
        gains := .refl _, obligations := .refl _, ownBalance := .refl _, gaps := .refl _ }
    have hmembers := congrArg
      (fun x => x.map (fun result => result.memory.contributions.map (·.memberId))) hsame
    revert hmembers
    decide
  · intro h
    have hsame := h sameEventForward sameEventBackward
      { cycle := rfl, start := rfl, cutoff := rfl, superseded := rfl, participations := .refl _
        contributions := ⟨sameEventForward.contributions, .refl _, .cons ⟨rfl, .swap _ _ _⟩ .nil⟩
        gains := .refl _, obligations := .refl _, ownBalance := .refl _, gaps := .refl _ } (by decide)
    have hraises := congrArg Except.isOk hsame
    revert hraises
    decide

end Sample

end Caixinha.Properties.ClosingOrder
