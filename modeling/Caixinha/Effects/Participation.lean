import Caixinha.Effects.Posting
import Caixinha.Model.CycleFoundation

/-! What the operations on a participation write: an account and a row at most when they open it,
charge events, and contributions that are cancelled. -/
namespace Caixinha.Effects

open Caixinha.Library Caixinha.Library.Table Fallible Caixinha.Model

section Opened
variable {db locked db' : Db} {memberId cycleId : Nat} {clock : Int} {row : CycleParticipation}

/-- A participation found, or opened for a member with a quota. -/
inductive FoundOrOpened (db db' : Db) (memberId cycleId : Nat) (row : CycleParticipation) : Prop where
  | found (row : participation? db memberId cycleId = some row)
    (same : db'.participations = db.participations)
  | opened (none : participation? db memberId cycleId = none)
    (quota : ∃ q ∈ db.quotas, q.memberId = memberId ∧ q.cycleId = some cycleId)
    (active : row.state = .active) (member : row.memberId = memberId) (cycle : row.cycleId = cycleId)
    (id_eq : row.id = nextKey CycleParticipation.id db.participations)
    (added : db'.participations = db.participations ++ [row])

/-- The state after the account of the member is locked and the participation found or opened. -/
structure Opened (db db' : Db) (memberId cycleId : Nat) (row : CycleParticipation) : Prop where
  only : db' = { db with accounts := db'.accounts, participations := db'.participations }
  member : ∃ member, db.member? memberId = some member
  account : ∃ new, db'.accounts = db.accounts ++ new
  holder : ∃ account, db'.accounts.find? (fun a => a.memberId = memberId) = some account
  kept : ∀ account, db.accounts.find? (fun a => a.memberId = memberId) = some account →
    db'.accounts = db.accounts
  row : FoundOrOpened db db' memberId cycleId row

theorem opened_spec {account : MemberFinancialAccount} {entryDate : Option Int}
    (hlock : lockMemberFinancialAccount db memberId = .ok (locked, account))
    (h : getOrCreateParticipation locked memberId cycleId clock entryDate = .ok (db', row)) :
    Opened db db' memberId cycleId row := by
  obtain ⟨new, rfl, hmember, hholder, hnew⟩ := lockMemberFinancialAccount_spec hlock
  have hkept : ∀ account, db.accounts.find? (fun a => a.memberId = memberId) = some account →
      db.accounts ++ new = db.accounts := by
    intro account haccount
    cases new with
    | nil => simp
    | cons a rest =>
      rw [(hnew a (List.mem_cons_self ..)).1] at haccount
      cases haccount
  unfold getOrCreateParticipation at h
  split at h
  · rename_i found hfound
    rw [pure_eq_ok, Prod.mk.injEq] at h
    obtain ⟨rfl, rfl⟩ := h
    exact ⟨rfl, hmember, ⟨new, rfl⟩, ⟨account, hholder⟩, hkept, .found hfound rfl⟩
  · rename_i hnone
    simp only [bind_eq_ok, refuseIf_eq_ok, pure_eq_ok, Prod.mk.injEq, exists_and_left,
      exists_const] at h
    obtain ⟨hquota, rfl, rfl⟩ := h
    have hquota : ∃ q ∈ db.quotas, q.memberId = memberId ∧ q.cycleId = some cycleId := by
      simpa using hquota
    exact ⟨rfl, hmember, ⟨new, rfl⟩, ⟨account, hholder⟩, hkept,
      .opened hnone hquota rfl rfl rfl rfl rfl⟩

theorem participation?_append_of_none {p : CycleParticipation}
    (h : participation? db memberId cycleId = none)
    (hdb : db'.participations = db.participations ++ [p]) (hm : p.memberId = memberId)
    (hc : p.cycleId = cycleId) : participation? db' memberId cycleId = some p := by
  rw [participation?] at h ⊢
  rw [hdb, List.find?_append, h, Option.none_or]
  simp [hm, hc]

theorem Opened.participation? (h : Opened db db' memberId cycleId row) :
    participation? db' memberId cycleId = some row := by
  cases h.row with
  | found hrow hsame =>
    rw [Model.participation?, hsame]
    exact hrow
  | opened hnone _ _ hm hc _ hadded => exact participation?_append_of_none hnone hadded hm hc

theorem row_of_participation? (h : participation? db memberId cycleId = some row) :
    row ∈ db.participations ∧ row.memberId = memberId ∧ row.cycleId = cycleId := by
  refine ⟨List.mem_of_find?_eq_some h, ?_⟩
  simpa using List.find?_some h

theorem getOrCreateParticipation_known {entryDate : Option Int}
    (hrow : participation? db memberId cycleId = some row) :
    getOrCreateParticipation db memberId cycleId clock entryDate = .ok (db, row) := by
  unfold getOrCreateParticipation
  rw [hrow]
  rfl

end Opened

section Events
variable {db db' : Db} {clock : Int} {new : NewChargeEvent}

/-- The event a call of `addChargeEvent` writes. -/
structure EventOf (new : NewChargeEvent) (e : ContributionChargeEvent) : Prop where
  contribution : e.contributionId = new.contributionId
  type : e.eventType = new.eventType
  day : e.accruedThrough = new.accruedThrough
  fixedPenalty : e.fixedPenalty = new.charges.fixedPenalty
  dailyInterest : e.dailyInterest = new.charges.dailyInterest
  participation : e.participationId = new.participationId
  cancelledPrincipal : e.cancelledPrincipal = new.cancelledPrincipal

theorem addChargeEvent_spec (h : addChargeEvent clock db new = .ok db') :
    ∃ e, db' = { db with contributionChargeEvents := db.contributionChargeEvents ++ [e] } ∧
      EventOf new e := by
  unfold addChargeEvent at h
  simp only [bind_eq_ok, requireConstraint_eq_ok, pure_eq_ok, exists_and_left, exists_const] at h
  obtain ⟨-, -, rfl⟩ := h
  exact ⟨_, rfl, rfl, rfl, rfl, rfl, rfl, rfl, rfl⟩

end Events

section Cancelled
variable {db : Db} {reason : String} {when_ : Int}

/-- The unpaid contributions among the given ones are cancelled, the others stay. -/
def cancelledAmong (reason : String) (when_ : Int) (ids : List Nat) (c : Contribution) : Contribution :=
  if c.id ∈ ids ∧ c.cancelledAt = none ∧ contributionPaidAmount c < c.amount then
    cancelledContribution c reason when_
  else c

@[simp] theorem cancelledAmong_id (ids : List Nat) (c : Contribution) :
    (cancelledAmong reason when_ ids c).id = c.id := by
  unfold cancelledAmong
  split <;> rfl

theorem cancelledAmong_nil (c : Contribution) : cancelledAmong reason when_ [] c = c := by
  simp [cancelledAmong]

theorem cancelledAmong_append (ids ids' : List Nat) (c : Contribution) :
    cancelledAmong reason when_ ids' (cancelledAmong reason when_ ids c) =
      cancelledAmong reason when_ (ids ++ ids') c := by
  by_cases h : c.id ∈ ids ∧ c.cancelledAt = none ∧ contributionPaidAmount c < c.amount
  · have hfirst : cancelledAmong reason when_ ids c = cancelledContribution c reason when_ := if_pos h
    have hboth : cancelledAmong reason when_ (ids ++ ids') c = cancelledContribution c reason when_ :=
      if_pos ⟨List.mem_append_left _ h.1, h.2⟩
    rw [hfirst, hboth, cancelledAmong, if_neg]
    simp [cancelledContribution]
  · have hfirst : cancelledAmong reason when_ ids c = c := if_neg h
    rw [hfirst, cancelledAmong, cancelledAmong]
    by_cases h' : c.id ∈ ids' ∧ c.cancelledAt = none ∧ contributionPaidAmount c < c.amount
    · rw [if_pos h', if_pos ⟨List.mem_append_right _ h'.1, h'.2⟩]
    · have hneither : ¬ (c.id ∈ ids ++ ids' ∧ c.cancelledAt = none ∧
          contributionPaidAmount c < c.amount) := by
        rintro ⟨hmem, hrest⟩
        rcases List.mem_append.mp hmem with hmem | hmem
        · exact h ⟨hmem, hrest⟩
        · exact h' ⟨hmem, hrest⟩
      rw [if_neg h', if_neg hneither]

theorem cancelContribution_eq (hkeyed : Keyed Contribution.id db.contributions) (id : Nat) :
    cancelContribution db id reason when_ =
      { db with contributions := db.contributions.map (cancelledAmong reason when_ [id]) } := by
  have hother : ∀ c, c.id ≠ id → cancelledAmong reason when_ [id] c = c := by
    intro c hne
    rw [cancelledAmong, if_neg]
    simp [hne]
  unfold cancelContribution
  cases hrow : db.contribution? id with
  | none =>
    have hsame : db.contributions.map (cancelledAmong reason when_ [id]) = db.contributions := by
      conv_rhs => rw [← List.map_id db.contributions]
      refine List.map_congr_left fun c hc => hother c fun he => ?_
      rw [Db.contribution?, lookup, List.find?_eq_none] at hrow
      simpa [he] using hrow c hc
    rw [hsame]
  | some x =>
    have hx : x.id = id := lookup_key hrow
    have hunique : ∀ c ∈ db.contributions, c.id = id → c = x := fun c hc he =>
      eq_of_mem_of_key hkeyed hc (lookup_mem hrow) (he.trans hx.symm)
    dsimp only
    split
    · rename_i hclosed
      have hsame : db.contributions.map (cancelledAmong reason when_ [id]) = db.contributions := by
        conv_rhs => rw [← List.map_id db.contributions]
        refine List.map_congr_left fun c hc => ?_
        by_cases he : c.id = id
        · rw [hunique c hc he, cancelledAmong, if_neg]
          · rfl
          · rintro ⟨-, hlive, hunpaid⟩
            rcases hclosed with h | h
            · rw [hlive] at h
              cases h
            · omega
        · exact hother c he
      rw [hsame]
    · rename_i hopen
      obtain ⟨hlive, hunpaid⟩ := not_or.mp hopen
      have hlive : x.cancelledAt = none := by simpa using hlive
      rw [Db.putContribution, replace]
      congr 1
      refine List.map_congr_left fun c hc => ?_
      by_cases he : c.id = id
      · rw [if_pos (by rw [he]; exact hx.symm), hunique c hc he, cancelledAmong, if_pos]
        exact ⟨by simp [hx], hlive, not_le.mp hunpaid⟩
      · rw [if_neg (by rw [cancelledContribution, hx]; exact he), hother c he]

theorem keyed_cancelled (hkeyed : Keyed Contribution.id db.contributions) (ids : List Nat) :
    Keyed Contribution.id (db.contributions.map (cancelledAmong reason when_ ids)) := by
  refine keyed_of_keys ?_ hkeyed
  rw [List.map_map]
  exact List.map_congr_left fun c _ => cancelledAmong_id ids c

/-- Cancelling one contribution after the other. -/
theorem foldl_cancelContribution (hkeyed : Keyed Contribution.id db.contributions)
    (rows : List Contribution) :
    rows.foldl (fun db c => cancelContribution db c.id reason when_) db =
      { db with contributions :=
          db.contributions.map (cancelledAmong reason when_ (rows.map Contribution.id)) } := by
  induction rows generalizing db with
  | nil =>
    have hsame : db.contributions.map (cancelledAmong reason when_ []) = db.contributions := by
      conv_rhs => rw [← List.map_id db.contributions]
      exact List.map_congr_left fun c _ => cancelledAmong_nil c
    rw [List.foldl_nil, List.map_nil, hsame]
  | cons c rows ih =>
    rw [List.foldl_cons, cancelContribution_eq hkeyed, ih (keyed_cancelled hkeyed _), List.map_map]
    congr 1
    refine List.map_congr_left fun x _ => ?_
    rw [Function.comp_apply, cancelledAmong_append]
    rfl

end Cancelled

section Frozen
variable {db db' : Db} {clock when_ civil : Int} {participationId : Nat}

/-- The event that freezes a snapshot. -/
structure FrozenAs (civil : Int) (participationId : Nat) (s : ChargeSnapshot)
    (e : ContributionChargeEvent) : Prop where
  contribution : e.contributionId = s.contribution.id
  type : e.eventType = .BLOCK_FREEZE
  day : e.accruedThrough = civil
  fixedPenalty : e.fixedPenalty = s.charges.fixedPenalty
  dailyInterest : e.dailyInterest = s.charges.dailyInterest
  participation : e.participationId = participationId
  cancelledPrincipal : e.cancelledPrincipal = s.principalOpen

def blockReason : String := "BLOCKED_DELINQUENCY"

theorem freeze_spec (hkeyed : Keyed Contribution.id db.contributions) {s : ChargeSnapshot}
    (h : freeze clock when_ civil participationId db s = .ok db') :
    ∃ e, FrozenAs civil participationId s e ∧
      db' = { db with
        contributions := db.contributions.map (cancelledAmong blockReason when_ [s.contribution.id])
        contributionChargeEvents := db.contributionChargeEvents ++ [e] } := by
  unfold freeze at h
  simp only [bind_eq_ok, pure_eq_ok] at h
  obtain ⟨noted, hadd, rfl⟩ := h
  obtain ⟨e, rfl, he⟩ := addChargeEvent_spec hadd
  refine ⟨e, ⟨he.contribution, he.type, he.day, he.fixedPenalty, he.dailyInterest, he.participation,
    he.cancelledPrincipal⟩, ?_⟩
  have hkeyed' : Keyed Contribution.id { db with
      contributionChargeEvents := db.contributionChargeEvents ++ [e] }.contributions := hkeyed
  exact cancelContribution_eq hkeyed' _

/-- A block freezes its snapshots one after the other. -/
theorem foldlM_freeze (hkeyed : Keyed Contribution.id db.contributions) {snapshots : List ChargeSnapshot}
    (h : snapshots.foldlM (freeze clock when_ civil participationId) db = .ok db') :
    ∃ events, List.Forall₂ (FrozenAs civil participationId) snapshots events ∧
      db' = { db with
        contributions := db.contributions.map
          (cancelledAmong blockReason when_ (snapshots.map (·.contribution.id)))
        contributionChargeEvents := db.contributionChargeEvents ++ events } := by
  induction snapshots generalizing db with
  | nil =>
    rw [List.foldlM_nil, pure_eq_ok] at h
    subst h
    have hsame : db.contributions.map (cancelledAmong blockReason when_ []) = db.contributions := by
      conv_rhs => rw [← List.map_id db.contributions]
      exact List.map_congr_left fun c _ => cancelledAmong_nil c
    exact ⟨[], .nil, by rw [List.map_nil, hsame, List.append_nil]⟩
  | cons s snapshots ih =>
    rw [List.foldlM_cons, bind_eq_ok] at h
    obtain ⟨next, hnext, h⟩ := h
    obtain ⟨e, he, rfl⟩ := freeze_spec hkeyed hnext
    obtain ⟨events, hall, rfl⟩ := ih (keyed_cancelled hkeyed _) h
    refine ⟨e :: events, .cons he hall, ?_⟩
    dsimp only
    rw [List.map_map, List.append_assoc]
    congr 1
    refine List.map_congr_left fun x _ => ?_
    rw [Function.comp_apply, cancelledAmong_append]
    rfl

end Frozen

section Operations
variable {db db' : Db} {clock : Int} {memberId cycleId : Nat} {effectiveAt : Option Timestamp}
  {row row' : CycleParticipation}

/-- A block: every open snapshot is frozen and the row is blocked. -/
structure Blocked (db db' : Db) (when_ : Int) (memberId cycleId : Nat) (row row' : CycleParticipation)
    (snapshots : List ChargeSnapshot) (events : List ContributionChargeEvent) : Prop where
  active : row.state = .active
  overdue : consecutiveOverdue (memberContributions db memberId cycleId) (financialCivilDate when_) =
    .ok true
  found : (memberContributions db memberId cycleId).mapM
    (chargeSnapshot db (financialCivilDate when_)) = .ok snapshots
  blocked : row' = { row with
    state := .blockedDelinquency when_, blockReason := some "THREE_CONSECUTIVE_OVERDUE" }
  frozen : List.Forall₂ (FrozenAs (financialCivilDate when_) row.id)
    (snapshots.filter ChargeSnapshot.isOpen) events
  only : db' = { db with
    participations := replace CycleParticipation.id db.participations row'
    contributions := db.contributions.map (cancelledAmong blockReason when_
      ((snapshots.filter ChargeSnapshot.isOpen).map (·.contribution.id)))
    contributionChargeEvents := db.contributionChargeEvents ++ events }

theorem evaluate_cases (hkeyed : Keyed Contribution.id db.contributions)
    (h : evaluateDelinquency db clock memberId cycleId effectiveAt = .ok (db', row')) :
    ∃ when_ opened row, effectiveAtUtc clock effectiveAt = .ok when_ ∧
      Opened db opened memberId cycleId row ∧
      ((db' = opened ∧ row' = row) ∨
        ∃ snapshots events, Blocked opened db' when_ memberId cycleId row row' snapshots events) := by
  unfold evaluateDelinquency at h
  simp only [bind_eq_ok, Prod.exists] at h
  obtain ⟨when_, hwhen, locked, account, hlock, opened, row, hrow, h⟩ := h
  have hopened := opened_spec hlock hrow
  refine ⟨when_, opened, row, hwhen, hopened, ?_⟩
  split at h
  · rw [pure_eq_ok, Prod.mk.injEq] at h
    exact .inl ⟨h.1.symm, h.2.symm⟩
  · rename_i hactive
    rw [bind_eq_ok] at h
    obtain ⟨overdue, hoverdue, h⟩ := h
    split at h
    · rename_i htrue
      simp only [bind_eq_ok, pure_eq_ok, Prod.mk.injEq] at h
      obtain ⟨snapshots, hsnapshots, frozen, hfrozen, rfl, rfl⟩ := h
      have hkeyed' : Keyed Contribution.id (opened.putParticipation { row with
          state := .blockedDelinquency when_
          blockReason := some "THREE_CONSECUTIVE_OVERDUE" }).contributions := by
        rw [Db.putParticipation, hopened.only]
        exact hkeyed
      obtain ⟨events, hevents, rfl⟩ := foldlM_freeze hkeyed' hfrozen
      exact .inr ⟨snapshots, events, not_not.mp hactive, by rw [hoverdue, htrue], hsnapshots, rfl,
        hevents, rfl⟩
    · rw [pure_eq_ok, Prod.mk.injEq] at h
      exact .inl ⟨h.1.symm, h.2.symm⟩

/-- A closed participation is evaluated without a write beside its account. -/
theorem evaluate_closed (hclosed : row.state ≠ .active)
    (hrow : participation? db memberId cycleId = some row)
    (h : evaluateDelinquency db clock memberId cycleId effectiveAt = .ok (db', row')) :
    row' = row ∧ db' = { db with accounts := db'.accounts } := by
  unfold evaluateDelinquency at h
  simp only [bind_eq_ok, Prod.exists] at h
  obtain ⟨when_, -, locked, account, hlock, opened, found, hfound, h⟩ := h
  obtain ⟨new, rfl, -⟩ := lockMemberFinancialAccount_spec hlock
  have hknown : getOrCreateParticipation { db with accounts := db.accounts ++ new } memberId cycleId
      clock none = .ok ({ db with accounts := db.accounts ++ new }, row) :=
    getOrCreateParticipation_known hrow
  rw [hknown, Except.ok.injEq, Prod.mk.injEq] at hfound
  obtain ⟨rfl, rfl⟩ := hfound
  rw [if_pos hclosed, pure_eq_ok, Prod.mk.injEq] at h
  obtain ⟨rfl, rfl⟩ := h
  exact ⟨rfl, rfl⟩

/-- The contributions of a member in a cycle. -/
def contributionsOf (db : Db) (memberId cycleId : Nat) : List Contribution :=
  db.contributions.filter (fun c => c.memberId = memberId ∧ c.cycleId = some cycleId)

/-- An accrual noted for one of the given contributions. -/
def AccrualOf (participationId : Nat) (rows : List Contribution) (e : ContributionChargeEvent) : Prop :=
  e.eventType = .ACCRUAL_SNAPSHOT ∧ e.participationId = participationId ∧
    ∃ c ∈ rows, e.contributionId = c.id

theorem materializeCharges_spec {civil : Int} {participationId : Nat} {c : Contribution}
    (h : materializeCharges clock civil participationId db c = .ok db') :
    ∃ events, db' = { db with contributionChargeEvents := db.contributionChargeEvents ++ events } ∧
      ∀ e ∈ events, AccrualOf participationId [c] e := by
  have hsame : db = { db with contributionChargeEvents := db.contributionChargeEvents ++ [] } := by
    rw [List.append_nil]
  unfold materializeCharges at h
  split at h
  · rw [pure_eq_ok] at h
    exact ⟨[], h ▸ hsame, by simp⟩
  · simp only [bind_eq_ok] at h
    obtain ⟨charges, -, h⟩ := h
    split at h
    · rw [pure_eq_ok] at h
      exact ⟨[], h ▸ hsame, by simp⟩
    · split at h
      · rw [pure_eq_ok] at h
        exact ⟨[], h ▸ hsame, by simp⟩
      · obtain ⟨e, rfl, he⟩ := addChargeEvent_spec h
        refine ⟨[e], rfl, fun x hx => ?_⟩
        rw [List.mem_singleton.mp hx]
        exact ⟨he.type, he.participation, c, List.mem_singleton.mpr rfl, he.contribution⟩

theorem materialize_spec
    (h : materializeActiveCharges db clock memberId cycleId effectiveAt = .ok db') :
    ∃ opened row events, Opened db opened memberId cycleId row ∧
      db' = { opened with contributionChargeEvents := opened.contributionChargeEvents ++ events } ∧
      (row.state ≠ .active → events = []) ∧
      ∀ e ∈ events, AccrualOf row.id (contributionsOf opened memberId cycleId) e := by
  unfold materializeActiveCharges at h
  simp only [bind_eq_ok, Prod.exists] at h
  obtain ⟨when_, -, locked, account, hlock, opened, row, hrow, h⟩ := h
  refine ⟨opened, row, ?_⟩
  have hopened := opened_spec hlock hrow
  split at h
  · rw [pure_eq_ok] at h
    exact ⟨[], hopened, by rw [List.append_nil, h], fun _ => rfl, by simp⟩
  · rename_i hactive
    suffices hfold : ∃ events,
        db' = { opened with contributionChargeEvents := opened.contributionChargeEvents ++ events } ∧
          ∀ e ∈ events, AccrualOf row.id (contributionsOf opened memberId cycleId) e by
      obtain ⟨events, hdb, hevents⟩ := hfold
      exact ⟨events, hopened, hdb, fun hne => absurd hne hactive, hevents⟩
    refine foldlM_invariant_mem (fun s => ∃ events,
      s = { opened with contributionChargeEvents := opened.contributionChargeEvents ++ events } ∧
        ∀ e ∈ events, AccrualOf row.id (contributionsOf opened memberId cycleId) e) ?_ ?_ h
    · rintro s c t hc ⟨events, rfl, hevents⟩ hstep
      obtain ⟨more, rfl, hmore⟩ := materializeCharges_spec hstep
      refine ⟨events ++ more, by dsimp only; rw [List.append_assoc], fun e he => ?_⟩
      rcases List.mem_append.mp he with he | he
      · exact hevents e he
      · obtain ⟨htype, hparticipation, x, hx, hid⟩ := hmore e he
        obtain rfl := List.mem_singleton.mp hx
        refine ⟨htype, hparticipation, x, ?_, hid⟩
        rw [List.mem_filter] at hc
        rw [contributionsOf, List.mem_filter]
        exact ⟨hc.1, by simpa using ⟨(of_decide_eq_true hc.2).1, (of_decide_eq_true hc.2).2.1⟩⟩
    · exact ⟨[], by rw [List.append_nil], by simp⟩

theorem exit_spec (hkeyed : Keyed Contribution.id db.contributions)
    (h : voluntaryExit db clock memberId cycleId effectiveAt = .ok (db', row')) :
    ∃ when_ opened row, Opened db opened memberId cycleId row ∧ row.state = .active ∧
      row' = { row with state := .voluntarilyExited when_ } ∧
      db' = { opened with
        participations := replace CycleParticipation.id opened.participations row'
        contributions := opened.contributions.map (cancelledAmong "VOLUNTARY_EXIT" when_
          ((contributionsOf opened memberId cycleId).map Contribution.id)) } := by
  unfold voluntaryExit at h
  simp only [bind_eq_ok, refuseIf_eq_ok, pure_eq_ok, Prod.exists, Prod.mk.injEq, exists_and_left,
    exists_const] at h
  obtain ⟨when_, -, locked, account, hlock, opened, row, hrow, hactive, -, units, -, -, -, rfl, rfl⟩ := h
  have hopened := opened_spec hlock hrow
  refine ⟨when_, opened, row, hopened, not_not.mp hactive, rfl, ?_⟩
  have hkeyed' : Keyed Contribution.id (opened.putParticipation
      { row with state := .voluntarilyExited when_ }).contributions := by
    rw [Db.putParticipation, hopened.only]
    exact hkeyed
  rw [foldl_cancelContribution hkeyed']
  rfl

end Operations

end Caixinha.Effects
