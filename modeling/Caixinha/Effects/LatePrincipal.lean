import Caixinha.Effects.LateInterest
import Caixinha.Effects.LateLedger
import Caixinha.Effects.Unreversed

/-! The principal that bears late interest on a day, read off the settlements and reversals of an
installment, and the late interest computed from it at once. -/
namespace Caixinha.Effects

open Caixinha.Library Caixinha.Library.Table Caixinha.Library.DatedSum Fallible Caixinha.Model

/-- What a settlement takes off the principal of a day: it counts from the day after the payment,
and no longer from the day after its reversal. -/
def principalOff (db : Db) (day : Int) (s : PaymentSettlement) : Int :=
  (if s.financialDate < day then s.amounts.principalApplied else 0) -
    (if (db.reversalOfSettlement? s.id).any (fun r => r.financialDate < day)
      then s.amounts.principalApplied else 0)

def principalPaid (db : Db) (id : Nat) (day : Int) : Int :=
  ((db.settlements.filter (fun s => s.obligation = .loanInstallment id)).map (principalOff db day)).sum

def openPrincipal (db : Db) (inst : LoanInstallment) (day : Int) : Int :=
  max 0 (inst.principal - max 0 (principalPaid db inst.id day))

/-- The late interest of all the days after the due date, computed at once. -/
def lateInterestAtOnce (db : Db) (inst : LoanInstallment) (throughDate : Int) : Int :=
  calculateLateInterest ((lateDays inst.dueDate throughDate).map
    (fun day => ⟨openPrincipal db inst day, 1⟩))

/-- The reversals of an installment's settlements give back the principal these applied. -/
def GivesBack (db : Db) (id : Nat) : Prop :=
  ∀ s ∈ db.settlements, s.obligation = .loanInstallment id →
    ∀ r, db.reversalOfSettlement? s.id = some r →
      r.amounts.principalApplied = s.amounts.principalApplied

section Movements
variable {db : Db} {id : Nat} {s : PaymentSettlement} {moves : List (Int × Int)}
  {movements : List (Int × Int)} {day : Int}

/-- A movement dated the day after `d` counts from then on. -/
private theorem sum_movements_cons (day d p : Int) (rest : List (Int × Int)) :
    ((((d + 1, p) :: rest).filter (fun m => m.1 ≤ day)).map Prod.snd).sum =
      (if d < day then p else 0) + ((rest.filter (fun m => m.1 ≤ day)).map Prod.snd).sum := by
  rw [List.filter_cons]
  by_cases hday : d < day
  · rw [if_pos (decide_eq_true (Int.add_one_le_of_lt hday)), List.map_cons, List.sum_cons, if_pos hday]
  · have hlate : decide (d + 1 ≤ day) = false := decide_eq_false fun hle => hday (Int.lt_of_add_one_le hle)
    rw [hlate, if_neg Bool.false_ne_true, if_neg hday, zero_add]

/-- The movements of one day add up to what the settlement takes off the principal. -/
private theorem sum_principalMovements (h : principalMovements db s = .ok moves) :
    ((moves.filter (fun m => m.1 ≤ day)).map Prod.snd).sum = principalOff db day s := by
  unfold principalMovements at h
  unfold principalOff
  cases hreversal : db.reversalOfSettlement? s.id with
  | none =>
    simp only [hreversal, Except.ok.injEq] at h
    subst h
    rw [sum_movements_cons]
    simp
  | some r =>
    simp only [hreversal] at h
    split at h
    · cases h
    · rename_i heq
      rw [not_not] at heq
      rw [Except.ok.injEq] at h
      subst h
      rw [sum_movements_cons, sum_movements_cons, heq]
      by_cases hback : r.financialDate < day
      · simp [hback, sub_eq_add_neg]
      · simp [hback]

private theorem principalMovements_ok (h : ∀ r, db.reversalOfSettlement? s.id = some r →
    r.amounts.principalApplied = s.amounts.principalApplied) :
    ∃ moves, principalMovements db s = .ok moves := by
  unfold principalMovements
  cases hreversal : db.reversalOfSettlement? s.id with
  | none => exact ⟨_, rfl⟩
  | some r => exact ⟨_, if_neg (not_not.mpr (h r hreversal))⟩

private theorem sum_flatten {settlements : List PaymentSettlement} {all : List (List (Int × Int))}
    (h : settlements.mapM (principalMovements db) = .ok all) :
    ((all.flatten.filter (fun m => m.1 ≤ day)).map Prod.snd).sum =
      (settlements.map (principalOff db day)).sum := by
  have hall := forall₂_of_mapM h
  clear h
  induction hall with
  | nil => rfl
  | cons hhead _ ih =>
    rw [List.flatten_cons, List.filter_append, List.map_append, List.sum_append, ih,
      sum_principalMovements hhead, List.map_cons, List.sum_cons]

/-- The movements of an installment through a day are the principal paid by then. -/
theorem principalPaidThrough_eq (h : latePrincipalMovements db id = .ok movements) :
    principalPaidThrough movements day = max 0 (principalPaid db id day) := by
  unfold latePrincipalMovements at h
  simp only [bind_eq_ok, pure_eq_ok] at h
  obtain ⟨all, hall, rfl⟩ := h
  have hsorted : ((List.filter (fun m : Int × Int => m.1 ≤ day)
      (all.flatten.insertionSort (fun a b => a.1 ≤ b.1))).map Prod.snd).sum =
      ((all.flatten.filter (fun m => m.1 ≤ day)).map Prod.snd).sum :=
    (((List.perm_insertionSort _ _).filter _).map _).sum_eq
  have hsettlements : ((installmentSettlements db id).map (principalOff db day)).sum =
      principalPaid db id day := ((List.perm_insertionSort _ _).map _).sum_eq
  rw [principalPaidThrough, hsorted, sum_flatten hall, hsettlements]

theorem latePrincipalMovements_ok (h : GivesBack db id) :
    ∃ movements, latePrincipalMovements db id = .ok movements := by
  have hmapM : ∀ settlements : List PaymentSettlement,
      (∀ s ∈ settlements, s ∈ db.settlements ∧ s.obligation = .loanInstallment id) →
      ∃ all, settlements.mapM (principalMovements db) = .ok all := by
    intro settlements
    induction settlements with
    | nil => exact fun _ => ⟨[], rfl⟩
    | cons s settlements ih =>
      intro hmem
      obtain ⟨hs, hobligation⟩ := hmem s (List.mem_cons_self ..)
      obtain ⟨moves, hmoves⟩ := principalMovements_ok (h s hs hobligation)
      obtain ⟨all, hall⟩ := ih fun x hx => hmem x (List.mem_cons_of_mem _ hx)
      exact ⟨moves :: all, by rw [List.mapM_cons, hmoves, ok_bind, hall]; rfl⟩
  obtain ⟨all, hall⟩ := hmapM (installmentSettlements db id) (fun s hs => by
    have hmem := (List.perm_insertionSort _ _).mem_iff.mp hs
    simpa using List.mem_filter.mp hmem)
  exact ⟨_, by rw [latePrincipalMovements, hall]; rfl⟩

end Movements

section Schedule
variable {db : Db} {inst : LoanInstallment} {rows : List (Int × Int × Int)} {dueDate throughDate day : Int}

private theorem mem_scheduleFrom {principalOn : Int → Int} {segments : List PrincipalSegment}
    {days : List Int} {row : Int × Int × Int} (h : row ∈ scheduleFrom principalOn segments days) :
    ∃ before after, days = before ++ row.1 :: after ∧ row.2.2 = calculateLateInterest
      (segments ++ (before ++ [row.1]).map (fun day => ⟨principalOn day, 1⟩)) := by
  induction days generalizing segments with
  | nil => cases h
  | cons day days ih =>
    rw [scheduleFrom] at h
    rcases List.mem_cons.mp h with rfl | h
    · exact ⟨[], days, rfl, rfl⟩
    · obtain ⟨before, after, rfl, hinterest⟩ := ih h
      refine ⟨day :: before, after, rfl, ?_⟩
      rw [hinterest, List.append_assoc]
      rfl

private theorem last_scheduleFrom (principalOn : Int → Int) (segments : List PrincipalSegment)
    (day : Int) (days : List Int) :
    ((scheduleFrom principalOn segments (day :: days)).getLast?.map (·.2.2)).getD 0 =
      calculateLateInterest (segments ++ (day :: days).map (fun d => ⟨principalOn d, 1⟩)) := by
  induction days generalizing day segments with
  | nil => rfl
  | cons next days ih =>
    rw [scheduleFrom, scheduleFrom, List.getLast?_cons_cons, ← scheduleFrom, ih, List.append_assoc]
    rfl

theorem length_lateDays (dueDate throughDate : Int) :
    (lateDays dueDate throughDate).length = (throughDate - dueDate).toNat := by
  rw [lateDays_eq, List.length_map, List.length_range]

theorem getElem?_lateDays {k : Nat} (h : k < (throughDate - dueDate).toNat) :
    (lateDays dueDate throughDate)[k]? = some (dueDate + 1 + k) := by
  rw [lateDays_eq, List.getElem?_map, List.getElem?_range h, Option.map_some]

theorem mem_lateDays : day ∈ lateDays dueDate throughDate ↔ dueDate < day ∧ day ≤ throughDate := by
  rw [lateDays_eq, List.mem_map]
  constructor
  · rintro ⟨k, hk, rfl⟩
    rw [List.mem_range] at hk
    omega
  · rintro ⟨hdue, hthrough⟩
    exact ⟨(day - dueDate - 1).toNat, List.mem_range.mpr (by omega), by omega⟩

/-- Fewer days are a prefix of more. -/
theorem lateDays_prefix (h : day ≤ throughDate) :
    lateDays dueDate day <+: lateDays dueDate throughDate := by
  rw [lateDays_eq, lateDays_eq]
  apply List.IsPrefix.map
  rw [List.prefix_iff_eq_take, List.length_range, List.take_range]
  congr 1
  omega

private theorem before_lateDays {before after : List Int}
    (h : lateDays dueDate throughDate = before ++ day :: after) :
    before ++ [day] = lateDays dueDate day := by
  have hlength : before.length < (throughDate - dueDate).toNat := by
    have := congrArg List.length h
    rw [length_lateDays, List.length_append, List.length_cons] at this
    omega
  have hday : day = dueDate + 1 + before.length := by
    have hat := getElem?_lateDays hlength
    rw [h] at hat
    simpa using hat
  have hprefix : before ++ [day] <+: lateDays dueDate throughDate := by
    rw [h]
    exact ⟨after, by simp⟩
  have hother : lateDays dueDate day <+: lateDays dueDate throughDate := lateDays_prefix (by omega)
  refine List.IsPrefix.eq_of_length
    (List.prefix_of_prefix_length_le hprefix hother ?_) ?_ <;>
  · rw [length_lateDays, List.length_append, List.length_singleton]
    omega

private theorem basePrincipal_eq {movements : List (Int × Int)}
    (h : latePrincipalMovements db inst.id = .ok movements) :
    basePrincipal inst movements = openPrincipal db inst := by
  funext day
  rw [basePrincipal, principalPaidThrough_eq h, openPrincipal]

/-- Every row of the schedule carries the late interest through its day. -/
theorem dailyLateSchedule_row (h : dailyLateSchedule db inst throughDate = .ok rows)
    {row : Int × Int × Int} (hrow : row ∈ rows) : row.2.2 = lateInterestAtOnce db inst row.1 := by
  obtain ⟨movements, hmovements, rfl⟩ := dailyLateSchedule_eq_ok.mp h
  rw [basePrincipal_eq hmovements] at hrow
  obtain ⟨before, after, hdays, hinterest⟩ := mem_scheduleFrom hrow
  rw [hinterest, before_lateDays hdays]
  rfl

theorem dailyLateSchedule_ok (h : GivesBack db inst.id) (throughDate : Int) :
    ∃ rows, dailyLateSchedule db inst throughDate = .ok rows := by
  obtain ⟨movements, hmovements⟩ := latePrincipalMovements_ok h
  exact ⟨_, dailyLateSchedule_eq_ok.mpr ⟨movements, hmovements, rfl⟩⟩

/-- The expected late interest is the one computed at once. -/
theorem expectedLateInterest_eq {expected : Int}
    (h : expectedLateInterest db inst throughDate = .ok expected) :
    expected = lateInterestAtOnce db inst throughDate := by
  unfold expectedLateInterest at h
  simp only [bind_eq_ok, pure_eq_ok] at h
  obtain ⟨rows, hrows, rfl⟩ := h
  obtain ⟨movements, hmovements, rfl⟩ := dailyLateSchedule_eq_ok.mp hrows
  rw [basePrincipal_eq hmovements, lateInterestAtOnce]
  cases lateDays inst.dueDate throughDate with
  | nil => rfl
  | cons day days => exact last_scheduleFrom _ _ day days

end Schedule

section Order
variable {db db' : Db} {inst : LoanInstallment} {throughDate day : Int}

theorem openPrincipal_nonneg (db : Db) (inst : LoanInstallment) (day : Int) :
    0 ≤ openPrincipal db inst day := le_max_left _ _

theorem lateInterestAtOnce_nonneg (db : Db) (inst : LoanInstallment) (throughDate : Int) :
    0 ≤ lateInterestAtOnce db inst throughDate := by
  refine calculateLateInterest_nonneg fun s hs => ?_
  obtain ⟨day, -, rfl⟩ := List.mem_map.mp hs
  exact openPrincipal_nonneg db inst day

theorem lateInterestAtOnce_le_due (h : throughDate ≤ inst.dueDate) :
    lateInterestAtOnce db inst throughDate = 0 := by
  rw [lateInterestAtOnce, lateDays_eq, show (throughDate - inst.dueDate).toNat = 0 by omega]
  exact calculateLateInterest_nil

/-- The late interest grows with the days. -/
theorem lateInterestAtOnce_mono (h : day ≤ throughDate) :
    lateInterestAtOnce db inst day ≤ lateInterestAtOnce db inst throughDate := by
  have hprefix : lateDays inst.dueDate day <+: lateDays inst.dueDate throughDate := lateDays_prefix h
  obtain ⟨more, hmore⟩ := hprefix
  rw [lateInterestAtOnce, lateInterestAtOnce, ← hmore, List.map_append]
  refine calculateLateInterest_append fun s hs => ?_
  rw [← List.map_append] at hs
  obtain ⟨day, -, rfl⟩ := List.mem_map.mp hs
  exact openPrincipal_nonneg db inst day

/-- It falls with the principal paid. -/
theorem lateInterestAtOnce_anti
    (h : ∀ day ≤ throughDate, principalPaid db inst.id day ≤ principalPaid db' inst.id day) :
    lateInterestAtOnce db' inst throughDate ≤ lateInterestAtOnce db inst throughDate := by
  refine calculateLateInterest_mono _ (fun day _ => openPrincipal_nonneg db' inst day) ?_
  intro day hday
  have hpaid := h day (mem_lateDays.mp hday).2
  unfold openPrincipal
  omega

theorem lateInterestAtOnce_congr
    (h : ∀ day ≤ throughDate, principalPaid db' inst.id day = principalPaid db inst.id day) :
    lateInterestAtOnce db' inst throughDate = lateInterestAtOnce db inst throughDate :=
  le_antisymm (lateInterestAtOnce_anti fun day hday => (h day hday).ge)
    (lateInterestAtOnce_anti fun day hday => (h day hday).le)

end Order

section History
variable {db : Db} {id : Nat} {day : Int} {s : PaymentSettlement} {r : PaymentReversal}

/-- A new settlement counts from the day after it. -/
theorem principalPaid_settle (hobligation : s.obligation = .loanInstallment id)
    (hnew : db.reversalOfSettlement? s.id = none) :
    principalPaid { db with settlements := db.settlements ++ [s] } id day =
      principalPaid db id day + if s.financialDate < day then s.amounts.principalApplied else 0 := by
  have hlast : principalOff { db with settlements := db.settlements ++ [s] } day s =
      if s.financialDate < day then s.amounts.principalApplied else 0 := by
    have hnone : Db.reversalOfSettlement? { db with settlements := db.settlements ++ [s] } s.id = none := hnew
    rw [principalOff, hnone]
    simp
  rw [principalPaid, List.filter_append, List.filter_cons_of_pos (by simpa using hobligation),
    List.filter_nil, List.map_append, List.sum_append, List.map_singleton, List.sum_singleton, hlast]
  rfl

/-- A new reversal takes it back from the day after. -/
theorem principalPaid_reverse (hkeyed : Keyed PaymentSettlement.id db.settlements)
    (hs : s ∈ db.settlements) (hobligation : s.obligation = .loanInstallment id)
    (hfirst : db.reversalOfSettlement? s.id = none) (hr : r.settlementId = s.id) :
    principalPaid { db with reversals := db.reversals ++ [r] } id day =
      principalPaid db id day - if r.financialDate < day then s.amounts.principalApplied else 0 := by
  have hother : ∀ k, k ≠ s.id → Db.reversalOfSettlement? { db with reversals := db.reversals ++ [r] } k =
      db.reversalOfSettlement? k := by
    intro k hk
    rw [Db.reversalOfSettlement?, List.find?_append,
      List.find?_cons_of_neg (by simpa [hr] using hk.symm), List.find?_nil, Option.or_none]
    rfl
  have hself : Db.reversalOfSettlement? { db with reversals := db.reversals ++ [r] } s.id = some r := by
    rw [Db.reversalOfSettlement?] at hfirst ⊢
    rw [List.find?_append, hfirst, List.find?_cons_of_pos (by simpa using hr), Option.none_or]
  have hrows : Keyed PaymentSettlement.id
      (db.settlements.filter (fun s => s.obligation = .loanInstallment id)) :=
    hkeyed.sublist (List.filter_sublist.map _)
  have hmem : s ∈ db.settlements.filter (fun s => s.obligation = .loanInstallment id) :=
    List.mem_filter.mpr ⟨hs, by simpa using hobligation⟩
  have hchange := sum_map_change (f := principalOff db day)
    (g := principalOff { db with reversals := db.reversals ++ [r] } day) hrows hmem (by
      intro y _ hne
      rw [principalOff, principalOff, hother y.id hne])
  have hbefore : principalOff db day s =
      if s.financialDate < day then s.amounts.principalApplied else 0 := by
    rw [principalOff, hfirst]
    simp
  have hafter : principalOff { db with reversals := db.reversals ++ [r] } day s =
      (if s.financialDate < day then s.amounts.principalApplied else 0) -
        if r.financialDate < day then s.amounts.principalApplied else 0 := by
    rw [principalOff, hself]
    simp
  rw [principalPaid, hchange, hbefore, hafter, principalPaid]
  ring

end History

end Caixinha.Effects
