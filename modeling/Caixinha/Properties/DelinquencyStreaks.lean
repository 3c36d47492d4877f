import Caixinha.Library.ConsecutiveRuns
import Caixinha.Model.CycleParticipation

/-! The streak of overdue months that blocks a participation: the pass over the sorted contributions finds three
of them in consecutive months exactly when there are three. -/
namespace Caixinha.Properties.DelinquencyStreaks

open Caixinha.Library Caixinha.Library.ConsecutiveRuns Caixinha.Model

variable {asOf : Int} {contributions rest : List Contribution} {c : Contribution}

/-- Neither cancelled nor without a due date, due before the date and not fully paid. -/
def Late (asOf : Int) (c : Contribution) : Prop :=
  c.cancelledAt = none ∧ (∃ due ∈ c.dueDate, due < asOf) ∧ contributionPaidAmount c < c.amount

instance (asOf : Int) (c : Contribution) : Decidable (Late asOf c) :=
  inferInstanceAs (Decidable (_ ∧ _ ∧ _))

/-- Three contributions of three consecutive months are late. -/
def ThreeInARow (asOf : Int) (contributions : List Contribution) : Prop :=
  ∃ a ∈ contributions, ∃ b ∈ contributions, ∃ c ∈ contributions,
    monthIndex b.competence = monthIndex a.competence + 1 ∧ monthIndex c.competence = monthIndex b.competence + 1 ∧
    Late asOf a ∧ Late asOf b ∧ Late asOf c

instance (asOf : Int) (contributions : List Contribution) : Decidable (ThreeInARow asOf contributions) :=
  inferInstanceAs (Decidable (∃ a ∈ contributions, ∃ b ∈ contributions, ∃ c ∈ contributions, _))

/-- The month of some late contribution. -/
private def LateMonth (asOf : Int) (contributions : List Contribution) (m : Int) : Prop :=
  ∃ c ∈ contributions, monthIndex c.competence = m ∧ Late asOf c

private theorem lateMonth_cons (m : Int) : LateMonth asOf (c :: rest) m ↔
    (monthIndex c.competence = m ∧ Late asOf c) ∨ LateMonth asOf rest m := by
  simp [LateMonth]

private theorem threeInARow_iff : ThreeInARow asOf contributions ↔ HasRun 3 (LateMonth asOf contributions) := by
  constructor
  · rintro ⟨a, ha, b, hb, c, hc, hab, hbc, hlate⟩
    refine ⟨monthIndex a.competence, fun j hj => ?_⟩
    obtain rfl | rfl | rfl : j = 0 ∨ j = 1 ∨ j = 2 := by omega
    · exact ⟨a, ha, by omega, hlate.1⟩
    · exact ⟨b, hb, by omega, hlate.2.1⟩
    · exact ⟨c, hc, by omega, hlate.2.2⟩
  · rintro ⟨first, hrun⟩
    obtain ⟨a, ha, hma, hlatea⟩ := hrun 0 (by decide)
    obtain ⟨b, hb, hmb, hlateb⟩ := hrun 1 (by decide)
    obtain ⟨c, hc, hmc, hlatec⟩ := hrun 2 (by decide)
    exact ⟨a, ha, b, hb, c, hc, by omega, by omega, hlatea, hlateb, hlatec⟩

/-- The months that the streak carried by the pass covers. -/
private def Carried (streak : Nat) (previous : Option Int) (m : Int) : Prop :=
  ∃ last ∈ previous, Held streak last m

private theorem not_hasRun_carried {streak : Nat} {previous : Option Int} (h : streak < 3) :
    ¬ HasRun 3 (Carried streak previous) := by
  cases previous with
  | none =>
    rintro ⟨first, hrun⟩
    obtain ⟨last, hlast, -⟩ := hrun 0 (by decide)
    cases hlast
  | some last =>
    have hsame : ∀ m, Carried streak (some last) m ↔ Held streak last m := by simp [Carried]
    rw [hasRun_congr hsame]
    exact not_hasRun_held h

private theorem not_carried_zero (previous : Option Int) (m : Int) : ¬ Carried 0 previous m := by
  rintro ⟨last, -, hm⟩
  exact not_held_zero last m hm

/-- A month that is not late parts the months before it from those after it. -/
private theorem hasRun_passed {streak : Nat} {previous : Option Int} (hstreak : streak < 3) (hnot : ¬ Late asOf c)
    (hcarried : ∀ m, Carried streak previous m → m < monthIndex c.competence)
    (hlater : ∀ m, LateMonth asOf rest m → monthIndex c.competence < m) (next : Option Int) :
    HasRun 3 (fun m => Carried 0 next m ∨ LateMonth asOf rest m) ↔
      HasRun 3 (fun m => Carried streak previous m ∨ LateMonth asOf (c :: rest) m) := by
  have hrest : ∀ m, LateMonth asOf (c :: rest) m ↔ LateMonth asOf rest m := fun m => by simp [lateMonth_cons, hnot]
  have hreset : ∀ m, (Carried 0 next m ∨ LateMonth asOf rest m) ↔ LateMonth asOf rest m := fun m => by
    simp [not_carried_zero]
  simp only [hrest]
  rw [hasRun_congr hreset, hasRun_gap hcarried hlater (not_hasRun_carried hstreak)]

private theorem isOverdue_iff (hlive : ¬ (c.cancelledAt.isSome ∨ c.dueDate.isNone)) :
    isOverdue asOf c = true ↔ Late asOf c := by
  simp only [not_or, Bool.not_eq_true, Option.isSome_eq_false_iff, Option.isNone_iff_eq_none] at hlive
  simp [isOverdue, Late, hlive.1, Option.any_eq_true]

/-- From any streak below three, the pass over later months answers whether the months it carries and the late
ones among those to come hold three in a row. -/
private theorem overdueStreak_spec
    (hsorted : rest.Pairwise (fun a b => monthIndex a.competence < monthIndex b.competence))
    {streak : Nat} {previous : Option Int} (hstreak : streak < 3)
    (hafter : ∀ last ∈ previous, ∀ c ∈ rest, last < monthIndex c.competence) :
    ∃ found, overdueStreak asOf streak previous rest = .ok found ∧
      (found = true ↔ HasRun 3 (fun m => Carried streak previous m ∨ LateMonth asOf rest m)) := by
  induction rest generalizing streak previous with
  | nil =>
    refine ⟨false, rfl, ?_⟩
    have hsame : ∀ m, (Carried streak previous m ∨ LateMonth asOf [] m) ↔ Carried streak previous m := by
      simp [LateMonth]
    rw [hasRun_congr hsame]
    simpa using not_hasRun_carried hstreak
  | cons c rest ih =>
    obtain ⟨hfirst, hsorted⟩ := List.pairwise_cons.mp hsorted
    have hcarried : ∀ m, Carried streak previous m → m < monthIndex c.competence := by
      rintro m ⟨last, hlast, hm⟩
      have := hafter last hlast c (List.mem_cons_self ..)
      unfold Held at hm
      omega
    have hlater : ∀ m, LateMonth asOf rest m → monthIndex c.competence < m := by
      rintro m ⟨x, hx, rfl, -⟩
      exact hfirst x hx
    have hnext : ∀ last ∈ some (monthIndex c.competence), ∀ x ∈ rest, last < monthIndex x.competence := by
      simpa using hfirst
    rw [overdueStreak]
    by_cases hgone : c.cancelledAt.isSome ∨ c.dueDate.isNone
    · rw [if_pos hgone]
      have hnot : ¬ Late asOf c := by
        rintro ⟨hlive, ⟨due, hdue, -⟩, -⟩
        rw [Option.mem_def] at hdue
        simp [hlive, hdue] at hgone
      have hnothing : ∀ last ∈ (none : Option Int), ∀ x ∈ rest, last < monthIndex x.competence := by simp
      obtain ⟨found, hfound, hiff⟩ := ih hsorted (show 0 < 3 by decide) hnothing
      exact ⟨found, hfound, hiff.trans (hasRun_passed hstreak hnot hcarried hlater none)⟩
    · rw [if_neg hgone]
      have hfresh : previous ≠ some (monthIndex c.competence) := fun hsame =>
        absurd (hafter _ hsame c (List.mem_cons_self ..)) (lt_irrefl _)
      rw [if_neg hfresh]
      dsimp only
      by_cases hlate : Late asOf c
      · have hoverdue : isOverdue asOf c = true := (isOverdue_iff hgone).mpr hlate
        by_cases hadjacent : previous = some (monthIndex c.competence - 1)
        · have hstep : (if isOverdue asOf c ∧ previous = some (monthIndex c.competence - 1) then streak + 1
              else if isOverdue asOf c then 1 else 0) = streak + 1 := if_pos ⟨hoverdue, hadjacent⟩
          have hmarks : ∀ m, (Carried (streak + 1) (some (monthIndex c.competence)) m ∨ LateMonth asOf rest m) ↔
              (Carried streak previous m ∨ LateMonth asOf (c :: rest) m) := by
            intro m
            have hheld := held_succ streak (monthIndex c.competence - 1) m
            rw [sub_add_cancel] at hheld
            simp only [Carried, hadjacent, Option.mem_def, Option.some.injEq, exists_eq_left', hheld, lateMonth_cons,
              hlate, and_true, eq_comm (a := m), or_assoc]
          rw [hstep]
          by_cases hfull : 3 ≤ streak + 1
          · rw [if_pos hfull]
            refine ⟨true, rfl, iff_of_true rfl ?_⟩
            rw [← hasRun_congr hmarks]
            exact hasRun_of_held hfull fun m hm => .inl ⟨_, rfl, hm⟩
          · rw [if_neg hfull]
            obtain ⟨found, hfound, hiff⟩ := ih hsorted (not_le.mp hfull) hnext
            exact ⟨found, hfound, hiff.trans (hasRun_congr hmarks)⟩
        · have hstep : (if isOverdue asOf c ∧ previous = some (monthIndex c.competence - 1) then streak + 1
              else if isOverdue asOf c then 1 else 0) = 1 := by simp [hoverdue, hadjacent]
          have hearlier : ∀ m, Carried streak previous m → m < monthIndex c.competence - 1 := by
            rintro m ⟨last, hlast, hm⟩
            have := hafter last hlast c (List.mem_cons_self ..)
            have hne : last ≠ monthIndex c.competence - 1 := by
              rintro rfl
              exact hadjacent hlast
            unfold Held at hm
            omega
          have honward : ∀ m, LateMonth asOf (c :: rest) m → monthIndex c.competence - 1 < m := by
            intro m hm
            rcases (lateMonth_cons m).mp hm with ⟨rfl, -⟩ | hm
            · omega
            · have := hlater m hm
              omega
          have hmarks : ∀ m, (Carried 1 (some (monthIndex c.competence)) m ∨ LateMonth asOf rest m) ↔
              LateMonth asOf (c :: rest) m := by
            intro m
            simp only [Carried, Option.mem_def, Option.some.injEq, exists_eq_left', held_one, lateMonth_cons, hlate,
              and_true, eq_comm (a := m)]
          rw [hstep, if_neg (by decide)]
          obtain ⟨found, hfound, hiff⟩ := ih hsorted (show 1 < 3 by decide) hnext
          refine ⟨found, hfound, hiff.trans ?_⟩
          rw [hasRun_congr hmarks, hasRun_gap hearlier honward (not_hasRun_carried hstreak)]
      · have hoverdue : ¬ isOverdue asOf c = true := fun h => hlate ((isOverdue_iff hgone).mp h)
        have hstep : (if isOverdue asOf c ∧ previous = some (monthIndex c.competence - 1) then streak + 1
            else if isOverdue asOf c then 1 else 0) = 0 := by simp [hoverdue]
        rw [hstep, if_neg (by decide)]
        obtain ⟨found, hfound, hiff⟩ := ih hsorted (show 0 < 3 by decide) hnext
        exact ⟨found, hfound, hiff.trans (hasRun_passed hstreak hlate hcarried hlater _)⟩

/-- Sorted by competence, contributions of different months come month by month. -/
private theorem pairwise_months (hdistinct : (contributions.map (fun c => monthIndex c.competence)).Nodup) :
    (contributions.insertionSort (fun a b => a.competence ≤ b.competence)).Pairwise
      (fun a b => monthIndex a.competence < monthIndex b.competence) := by
  have hperm := List.perm_insertionSort (fun a b : Contribution => a.competence ≤ b.competence) contributions
  have : Std.Total (fun a b : Contribution => a.competence ≤ b.competence) := ⟨fun a b => le_total _ _⟩
  have : IsTrans Contribution (fun a b => a.competence ≤ b.competence) := ⟨fun _ _ _ => le_trans⟩
  have hsorted := List.pairwise_insertionSort (fun a b : Contribution => a.competence ≤ b.competence) contributions
  have hmonths := List.pairwise_map.mp ((hperm.map _).nodup_iff.mpr hdistinct)
  refine hsorted.imp₂ (fun a b hle hne => ?_) hmonths
  exact lt_of_le_of_ne (Calendar.month_mono hle) hne

/-- Over contributions of pairwise different months, in any order, the answer is whether three of consecutive
months are late. -/
theorem consecutiveOverdue_eq (hdistinct : (contributions.map (fun c => monthIndex c.competence)).Nodup) :
    consecutiveOverdue contributions asOf = .ok (decide (ThreeInARow asOf contributions)) := by
  have hperm := List.perm_insertionSort (fun a b : Contribution => a.competence ≤ b.competence) contributions
  have hnothing : ∀ last ∈ (none : Option Int),
      ∀ c ∈ contributions.insertionSort (fun a b => a.competence ≤ b.competence), last < monthIndex c.competence := by
    simp
  obtain ⟨found, hfound, hiff⟩ :=
    @overdueStreak_spec asOf _ (pairwise_months hdistinct) _ _ (show 0 < 3 by decide) hnothing
  have hmarks : ∀ m, (Carried 0 none m ∨ LateMonth asOf
      (contributions.insertionSort (fun a b => a.competence ≤ b.competence)) m) ↔ LateMonth asOf contributions m := by
    intro m
    simp [not_carried_zero, LateMonth]
  rw [hasRun_congr hmarks, ← threeInARow_iff] at hiff
  rw [consecutiveOverdue, hfound, Except.ok.injEq]
  exact Bool.eq_iff_iff.mpr (by simpa using hiff)

section Sample

private def sampleContribution (id : Nat) (competence paid : Int) : Contribution where
  id := id
  memberId := 1
  cycleId := some 1
  competence := competence
  amount := 10000
  status := .PENDING
  paymentId := none
  dueDate := some (competence + 9)
  paidAmount := some paid
  paidAt := none
  cancelledAt := none
  cancellationReason := none

/-- November, December and January, one of them half paid, in no order. -/
private def overYearEnd : List Contribution :=
  [sampleContribution 3 20819 0, sampleContribution 1 20758 5000, sampleContribution 2 20788 0]

/-- A streak runs over the end of a year, and a full payment inside it breaks it. -/
theorem consecutiveOverdue_eq_sample : consecutiveOverdue overYearEnd 20850 = .ok true ∧
    consecutiveOverdue (sampleContribution 2 20788 10000 :: overYearEnd.take 2) 20850 = .ok false := by
  rw [consecutiveOverdue_eq (by decide), consecutiveOverdue_eq (by decide)]
  exact ⟨by decide, by decide⟩

end Sample

end Caixinha.Properties.DelinquencyStreaks
