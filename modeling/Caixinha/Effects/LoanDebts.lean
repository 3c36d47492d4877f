import Caixinha.Effects.Reversed
import Caixinha.Effects.Unreversed

/-! The principal that the settlements of a loan installment apply, through settlements and reversals. -/
namespace Caixinha.Effects

open Caixinha.Library Caixinha.Library.Table Fallible Caixinha.Model

section Applied
variable {acted : Payment → Prop} {db db' : Db} {new : Additions} {id : Nat} {s : PaymentSettlement}
  {r : PaymentReversal} {day : Int}

/-- The principal that the settlements active on a day apply to an installment. -/
def appliedOn (db : Db) (id : Nat) (day : Int) : Int :=
  total (·.principalApplied) (activeSettlements db id day)

/-- What one settlement counts on a day. -/
private def countsOn (db : Db) (id : Nat) (day : Int) (s : PaymentSettlement) : Int :=
  if s.obligation = .loanInstallment id ∧ activeOn db day s then s.principalApplied else 0

private theorem appliedOn_eq : appliedOn db id day = (db.settlements.map (countsOn db id day)).sum := by
  have hperm : (activeSettlements db id day).Perm
      ((db.settlements.filter (fun s => s.obligation = .loanInstallment id)).filter (activeOn db day)) :=
    (List.perm_insertionSort _ _).filter _
  rw [appliedOn, total, (hperm.map _).sum_eq, List.filter_filter]
  induction db.settlements with
  | nil => rfl
  | cons s rows ih =>
    rw [List.map_cons, List.sum_cons, ← ih, countsOn]
    by_cases hs : s.obligation = .loanInstallment id ∧ activeOn db day s
    · rw [List.filter_cons_of_pos (by simp [hs.1, hs.2]), if_pos hs, List.map_cons, List.sum_cons]
    · rw [List.filter_cons_of_neg (by simpa [and_comm] using hs), if_neg hs, zero_add]

/-- A new settlement counts from its financial date on. -/
theorem Grows.appliedOn_settled (h : Grows acted db db' new) (hs : Sound db) (hsettlements : new.settlements = [s])
    (hreversals : new.reversals = []) : appliedOn db' id day =
      appliedOn db id day + if s.obligation = .loanInstallment id ∧ s.financialDate ≤ day then s.principalApplied else 0 := by
  obtain ⟨-, hnext⟩ := h.settlement s (by simp [hsettlements])
  have hsame : countsOn db' id day = countsOn db id day := by
    funext x
    rw [countsOn, countsOn, activeOn, activeOn, h.reversalOf_same hreversals]
  have hactive : activeOn db' day s = decide (s.financialDate ≤ day) := by
    rw [activeOn, h.reversalOf_same hreversals, hnext.unreversed hs]
    simp
  rw [appliedOn_eq, appliedOn_eq, h.settlements, hsettlements, List.map_append, List.sum_append, hsame,
    List.map_singleton, List.sum_singleton, ← hsame, countsOn, hactive]
  simp only [decide_eq_true_eq]

/-- A new reversal takes nothing but principal back. -/
theorem Grows.appliedOn_reversed (h : Grows acted db db' new) (hsettlements : new.settlements = [])
    (hnonneg : ∀ s ∈ db.settlements, s.obligation = .loanInstallment id → 0 ≤ s.principalApplied) :
    appliedOn db' id day ≤ appliedOn db id day := by
  rw [appliedOn_eq, appliedOn_eq, h.settlements, hsettlements, List.append_nil]
  refine List.sum_le_sum fun s hs => ?_
  rw [countsOn, countsOn]
  by_cases hid : s.obligation = .loanInstallment id
  · have hkept : activeOn db' day s → activeOn db day s := by
      rw [activeOn, activeOn, Db.reversalOfSettlement?, Db.reversalOfSettlement?, h.reversals, List.find?_append]
      cases db.reversals.find? (fun r => r.settlementId = s.id) with
      | none => simp +contextual
      | some r => simp
    have := hnonneg s hs hid
    split
    · rename_i hafter
      rw [if_pos ⟨hid, hkept hafter.2⟩]
    · split
      · exact this
      · exact le_rfl
  · rw [if_neg (fun hc => hid hc.1), if_neg (fun hc => hid hc.1)]

/-- As the days pass beyond every settlement, reversals only take away. -/
theorem appliedOn_antitone {first : Int} (hle : first ≤ day)
    (hdated : ∀ s ∈ db.settlements, s.obligation = .loanInstallment id → s.financialDate ≤ first)
    (hnonneg : ∀ s ∈ db.settlements, s.obligation = .loanInstallment id → 0 ≤ s.principalApplied) :
    appliedOn db id day ≤ appliedOn db id first := by
  rw [appliedOn_eq, appliedOn_eq]
  refine List.sum_le_sum fun s hs => ?_
  rw [countsOn, countsOn]
  by_cases hid : s.obligation = .loanInstallment id
  · have hdate := hdated s hs hid
    have hkept : activeOn db day s → activeOn db first s := by
      simp only [activeOn, Option.any_eq_true, decide_eq_true_eq]
      rintro ⟨-, hnone⟩
      refine ⟨hdate, fun ⟨r, hr, hday⟩ => hnone ⟨r, hr, hday.trans hle⟩⟩
    have := hnonneg s hs hid
    split
    · rename_i hafter
      rw [if_pos ⟨hid, hkept hafter.2⟩]
    · split
      · exact this
      · exact le_rfl
  · rw [if_neg (fun hc => hid hc.1), if_neg (fun hc => hid hc.1)]

/-- From the last reversal on, no more is active than what stands. -/
theorem appliedOn_le_standing
    (hreversed : ∀ s ∈ db.settlements, s.obligation = .loanInstallment id →
      ∀ r, db.reversalOfSettlement? s.id = some r → r.financialDate ≤ day)
    (hnonneg : ∀ s ∈ db.settlements, s.obligation = .loanInstallment id → 0 ≤ s.principalApplied) :
    appliedOn db id day ≤ total (·.principalApplied) (unreversed db (.loanInstallment id)) := by
  rw [appliedOn_eq, total_unreversed]
  refine List.sum_le_sum fun s hs => ?_
  rw [countsOn, standing]
  by_cases hid : s.obligation = .loanInstallment id
  · have hstands : activeOn db day s → (db.reversalOfSettlement? s.id).isNone := by
      cases hrow : db.reversalOfSettlement? s.id with
      | none => simp
      | some r => simp [activeOn, hrow, hreversed s hs hid r hrow]
    have := hnonneg s hs hid
    split
    · rename_i hactive
      rw [if_pos ⟨hid, hstands hactive.2⟩]
    · split
      · exact this
      · exact le_rfl
  · rw [if_neg (fun hc => hid hc.1), if_neg (fun hc => hid hc.1)]

/-- New settlements and reversals of other obligations apply nothing to an installment. -/
theorem Grows.appliedOn_other (h : Grows acted db db' new)
    (hsettlements : ∀ s ∈ new.settlements, s.obligation ≠ .loanInstallment id)
    (hreversals : ∀ r ∈ new.reversals, ∀ s ∈ db.settlements, s.id = r.settlementId →
      s.obligation ≠ .loanInstallment id) : appliedOn db' id day = appliedOn db id day := by
  have hnew : (new.settlements.map (countsOn db' id day)).sum = 0 := by
    refine List.sum_eq_zero fun n hn => ?_
    obtain ⟨s, hs, rfl⟩ := List.mem_map.mp hn
    rw [countsOn, if_neg fun hc => hsettlements s hs hc.1]
  have hold : db.settlements.map (countsOn db' id day) = db.settlements.map (countsOn db id day) := by
    refine List.map_congr_left fun s hs => ?_
    rw [countsOn, countsOn]
    by_cases hid : s.obligation = .loanInstallment id
    · have hnone : new.reversals.find? (fun r => r.settlementId = s.id) = none := by
        rw [List.find?_eq_none]
        intro r hr
        simpa using fun he : r.settlementId = s.id => hreversals r hr s hs he.symm hid
      have hsame : db'.reversalOfSettlement? s.id = db.reversalOfSettlement? s.id := by
        rw [Db.reversalOfSettlement?, Db.reversalOfSettlement?, h.reversals, List.find?_append, hnone,
          Option.or_none]
      rw [activeOn, activeOn, hsame]
    · rw [if_neg (fun hc => hid hc.1), if_neg (fun hc => hid hc.1)]
  rw [appliedOn_eq, appliedOn_eq, h.settlements, List.map_append, List.sum_append, hnew, add_zero, hold]

end Applied

end Caixinha.Effects
