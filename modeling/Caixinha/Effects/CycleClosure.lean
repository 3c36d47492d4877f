import Mathlib.Data.List.Find
import Caixinha.Library.RelatedRows
import Caixinha.Effects.CycleSteps

/-! A participation that has closed stays as it is, and until then none of its contributions is
cancelled or frozen. -/
namespace Caixinha.Effects

open Caixinha.Library Caixinha.Library.Table Fallible Caixinha.Model

section Kept
variable {db db' : Db} {memberId cycleId : Nat} {row : CycleParticipation}

/-- The participation of a member in a cycle is blocked or exited. -/
def Closed (db : Db) (memberId cycleId : Nat) : Prop :=
  ∃ row, participation? db memberId cycleId = some row ∧ row.state ≠ .active

theorem participation?_of_same (h : db'.participations = db.participations) :
    participation? db' memberId cycleId = participation? db memberId cycleId := by
  rw [participation?, participation?, h]

/-- A row that keeps everything but its state and the reason of its block. -/
structure SameParticipation (old new : CycleParticipation) : Prop where
  id_eq : new.id = old.id
  memberId : new.memberId = old.memberId
  cycleId : new.cycleId = old.cycleId

theorem Blocked.sameParticipation {when_ : Int} {old new : CycleParticipation} {snapshots : List ChargeSnapshot}
    {events : List ContributionChargeEvent}
    (h : Blocked db db' when_ memberId cycleId old new snapshots events) : SameParticipation old new := by
  rw [h.blocked]
  exact ⟨rfl, rfl, rfl⟩

theorem sameParticipation_exited {when_ : Int} {old new : CycleParticipation}
    (h : new = { old with state := .voluntarilyExited when_ }) : SameParticipation old new := by
  rw [h]
  exact ⟨rfl, rfl, rfl⟩

/-- A row written over the one of a member in a cycle. -/
theorem participation?_replace {m c : Nat} {old new : CycleParticipation}
    (hkeyed : Keyed CycleParticipation.id db.participations) (hold : participation? db m c = some old)
    (hsame : SameParticipation old new)
    (hdb : db'.participations = replace CycleParticipation.id db.participations new) :
    participation? db' memberId cycleId =
      (participation? db memberId cycleId).map (fun x => if x.id = new.id then new else x) := by
  rw [participation?, participation?, hdb, replace, List.find?_map]
  congr 1
  refine List.find?_congr fun x hx => ?_
  rw [Function.comp_apply]
  by_cases he : x.id = new.id
  · have heq : x = old := eq_of_mem_of_key hkeyed hx (row_of_participation? hold).1
      (he.trans hsame.id_eq)
    rw [if_pos he, hsame.memberId, hsame.cycleId, heq]
  · rw [if_neg he]

theorem participation?_replaced {old new : CycleParticipation}
    (hkeyed : Keyed CycleParticipation.id db.participations)
    (hold : participation? db memberId cycleId = some old) (hsame : SameParticipation old new)
    (hdb : db'.participations = replace CycleParticipation.id db.participations new) :
    participation? db' memberId cycleId = some new := by
  rw [participation?_replace hkeyed hold hsame hdb, hold, Option.map_some, if_pos hsame.id_eq.symm]

private theorem closed_kept_replace {m c : Nat} {old new : CycleParticipation}
    (hkeyed : Keyed CycleParticipation.id db.participations) (hold : participation? db m c = some old)
    (hactive : old.state = .active) (hsame : SameParticipation old new)
    (hdb : db'.participations = replace CycleParticipation.id db.participations new)
    (hrow : participation? db memberId cycleId = some row) (hclosed : row.state ≠ .active) :
    participation? db' memberId cycleId = some row := by
  have hother : row.id ≠ new.id := by
    intro he
    have heq : row = old := eq_of_mem_of_key hkeyed (row_of_participation? hrow).1
      (row_of_participation? hold).1 (he.trans hsame.id_eq)
    exact hclosed (heq ▸ hactive)
  rw [participation?_replace hkeyed hold hsame hdb, hrow, Option.map_some, if_neg hother]

theorem CycleStep.closed_kept (h : CycleStep db db')
    (hkeyed : Keyed CycleParticipation.id db.participations)
    (hrow : participation? db memberId cycleId = some row) (hclosed : row.state ≠ .active) :
    participation? db' memberId cycleId = some row := by
  cases h with
  | paid hkept _ =>
    rw [participation?_of_same hkept.participations]
    exact hrow
  | bought _ honly =>
    rw [honly]
    exact hrow
  | opened _ _ _ hopened =>
    cases hopened.row with
    | found _ hsame =>
      rw [participation?_of_same hsame]
      exact hrow
    | opened _ _ _ _ _ _ hadded =>
      rw [participation?] at hrow ⊢
      rw [hadded, List.find?_append, hrow, Option.some_or]
  | issued _ _ _ _ _ _ _ _ _ _ _ honly =>
    rw [honly]
    exact hrow
  | charged _ _ _ _ _ honly =>
    rw [honly]
    exact hrow
  | blocked _ _ _ old new _ _ hfound hblocked =>
    exact closed_kept_replace hkeyed hfound hblocked.active hblocked.sameParticipation (by rw [hblocked.only]) hrow
      hclosed
  | exited _ _ _ old new hfound hactive hnew honly =>
    exact closed_kept_replace hkeyed hfound hactive (sameParticipation_exited hnew) (by rw [honly]) hrow hclosed

theorem CycleStep.keyed (h : CycleStep db db') (hkeyed : Keyed CycleParticipation.id db.participations) :
    Keyed CycleParticipation.id db'.participations := by
  cases h with
  | paid hkept _ =>
    rw [hkept.participations]
    exact hkeyed
  | bought _ honly =>
    rw [honly]
    exact hkeyed
  | opened _ _ _ hopened =>
    cases hopened.row with
    | found _ hsame =>
      rw [hsame]
      exact hkeyed
    | opened _ _ _ _ _ hid hadded =>
      rw [hadded]
      exact keyed_append hkeyed hid
  | issued _ _ _ _ _ _ _ _ _ _ _ honly =>
    rw [honly]
    exact hkeyed
  | charged _ _ _ _ _ honly =>
    rw [honly]
    exact hkeyed
  | blocked _ _ _ _ _ _ _ _ hblocked =>
    rw [hblocked.only]
    exact keyed_replace hkeyed
  | exited _ _ _ _ _ _ _ _ honly =>
    rw [honly]
    exact keyed_replace hkeyed

theorem CycleStep.accounts (h : CycleStep db db') : ∃ new, db'.accounts = db.accounts ++ new := by
  cases h with
  | paid hkept _ => exact hkept.accounts
  | bought _ honly => exact ⟨[], by rw [honly, List.append_nil]⟩
  | opened _ _ _ hopened => exact hopened.account
  | issued _ _ _ _ _ _ _ _ _ _ _ honly => exact ⟨[], by rw [honly, List.append_nil]⟩
  | charged _ _ _ _ _ honly => exact ⟨[], by rw [honly, List.append_nil]⟩
  | blocked _ _ _ _ _ _ _ _ hblocked => exact ⟨[], by rw [hblocked.only, List.append_nil]⟩
  | exited _ _ _ _ _ _ _ _ honly => exact ⟨[], by rw [honly, List.append_nil]⟩

/-- An account, once there, is the one every later step finds. -/
theorem CycleSteps.account {account : MemberFinancialAccount} (h : CycleSteps db db')
    (haccount : db.accounts.find? (fun a => a.memberId = memberId) = some account) :
    db'.accounts.find? (fun a => a.memberId = memberId) = some account := by
  induction h with
  | refl => exact haccount
  | tail _ hstep ih =>
    obtain ⟨new, hnew⟩ := hstep.accounts
    rw [hnew, List.find?_append, ih, Option.some_or]

end Kept

section Live
variable {db db' : Db} {memberId cycleId : Nat}

theorem mem_contributionsOf {c : Contribution} :
    c ∈ contributionsOf db memberId cycleId ↔
      c ∈ db.contributions ∧ c.memberId = memberId ∧ c.cycleId = some cycleId := by
  simp [contributionsOf]

/-- Neither cancelled nor frozen. -/
def Live (events : List ContributionChargeEvent) (c : Contribution) : Prop :=
  c.cancelledAt = none ∧ ∀ e ∈ events, e.contributionId = c.id → e.eventType ≠ .BLOCK_FREEZE

/-- The tables of the cycles as their operations leave them. -/
structure CycleSound (db : Db) : Prop where
  sound : Sound db
  rows : Keyed CycleParticipation.id db.participations
  noted : ∀ e ∈ db.contributionChargeEvents, ∃ c ∈ db.contributions, c.id = e.contributionId
  live : ∀ memberId cycleId, ¬ Closed db memberId cycleId →
    ∀ c ∈ contributionsOf db memberId cycleId, Live db.contributionChargeEvents c

@[simp] theorem cancelledAmong_memberId {reason : String} {when_ : Int} (ids : List Nat)
    (c : Contribution) : (cancelledAmong reason when_ ids c).memberId = c.memberId := by
  unfold cancelledAmong
  split <;> rfl

@[simp] theorem cancelledAmong_cycleId {reason : String} {when_ : Int} (ids : List Nat)
    (c : Contribution) : (cancelledAmong reason when_ ids c).cycleId = c.cycleId := by
  unfold cancelledAmong
  split <;> rfl

theorem cancelledAmong_of_notMem {reason : String} {when_ : Int} {ids : List Nat} {c : Contribution}
    (h : c.id ∉ ids) : cancelledAmong reason when_ ids c = c := if_neg fun hall => h hall.1

/-- The contributions of another participation are not among those cancelled. -/
private theorem notMem_ids {m k : Nat} {c : Contribution} {ids : List Nat}
    (hkeyed : Keyed Contribution.id db.contributions)
    (hids : ∀ id ∈ ids, id ∈ (contributionsOf db m k).map Contribution.id)
    (hother : ¬ (memberId = m ∧ cycleId = k)) (hc : c ∈ contributionsOf db memberId cycleId) :
    c.id ∉ ids := by
  intro hmem
  obtain ⟨x, hx, hxc⟩ := List.mem_map.mp (hids _ hmem)
  obtain ⟨hx, hxm, hxk⟩ := mem_contributionsOf.mp hx
  obtain ⟨hc, hcm, hck⟩ := mem_contributionsOf.mp hc
  obtain rfl : x = c := eq_of_mem_of_key hkeyed hx hc hxc
  refine hother ⟨hcm.symm.trans hxm, ?_⟩
  exact Option.some.inj (hck.symm.trans hxk)

private theorem live_cancelled {m k : Nat} {reason : String} {when_ : Int} {ids : List Nat}
    {events : List ContributionChargeEvent} (hkeyed : Keyed Contribution.id db.contributions)
    (hids : ∀ id ∈ ids, id ∈ (contributionsOf db m k).map Contribution.id)
    (hevents : ∀ e ∈ events, e.contributionId ∈ ids) (hother : ¬ (memberId = m ∧ cycleId = k))
    (hlive : ∀ c ∈ contributionsOf db memberId cycleId, Live db.contributionChargeEvents c)
    (hcontributions : db'.contributions = db.contributions.map (cancelledAmong reason when_ ids))
    (hnoted : db'.contributionChargeEvents = db.contributionChargeEvents ++ events) :
    ∀ c ∈ contributionsOf db' memberId cycleId, Live db'.contributionChargeEvents c := by
  intro c' hc'
  obtain ⟨hmem, hm, hk⟩ := mem_contributionsOf.mp hc'
  rw [hcontributions, List.mem_map] at hmem
  obtain ⟨c, hc, rfl⟩ := hmem
  rw [cancelledAmong_memberId] at hm
  rw [cancelledAmong_cycleId] at hk
  have hmine : c ∈ contributionsOf db memberId cycleId := mem_contributionsOf.mpr ⟨hc, hm, hk⟩
  have hnot := notMem_ids hkeyed hids hother hmine
  rw [cancelledAmong_of_notMem hnot, hnoted]
  refine ⟨(hlive c hmine).1, fun e he hid => ?_⟩
  rcases List.mem_append.mp he with he | he
  · exact (hlive c hmine).2 e he hid
  · exact absurd (hid ▸ hevents e he) hnot

theorem mem_memberContributions {c : Contribution} :
    c ∈ memberContributions db memberId cycleId ↔ c ∈ contributionsOf db memberId cycleId := by
  rw [memberContributions, List.mem_insertionSort]
  rfl

/-- Snapshots are of the contributions they were taken of. -/
theorem contribution_of_chargeSnapshot {civil : Int} {c : Contribution} {s : ChargeSnapshot}
    (h : chargeSnapshot db civil c = .ok s) : s.contribution = c := by
  unfold chargeSnapshot at h
  simp only [bind_eq_ok, orRefuse_eq_ok, pure_eq_ok] at h
  obtain ⟨dueDate, -, charges, -, rfl⟩ := h
  rfl

theorem Blocked.contributions_eq {when_ : Int} {row row' : CycleParticipation}
    {snapshots : List ChargeSnapshot} {events : List ContributionChargeEvent}
    (h : Blocked db db' when_ memberId cycleId row row' snapshots events) :
    snapshots.map (·.contribution) = memberContributions db memberId cycleId := by
  rw [map_eq_of_mapM id (·.contribution) h.found fun c s hs => contribution_of_chargeSnapshot hs,
    List.map_id]

theorem Blocked.mem_ids {when_ : Int} {row row' : CycleParticipation}
    {snapshots : List ChargeSnapshot} {events : List ContributionChargeEvent}
    (h : Blocked db db' when_ memberId cycleId row row' snapshots events) :
    ∀ id ∈ (snapshots.filter ChargeSnapshot.isOpen).map (·.contribution.id),
      id ∈ (contributionsOf db memberId cycleId).map Contribution.id := by
  intro id hid
  obtain ⟨s, hs, rfl⟩ := List.mem_map.mp hid
  refine List.mem_map_of_mem (mem_memberContributions.mp ?_)
  rw [← h.contributions_eq]
  exact List.mem_map_of_mem (List.mem_filter.mp hs).1

theorem map_contributionId {civil : Int} {participationId : Nat} {snapshots : List ChargeSnapshot}
    {events : List ContributionChargeEvent}
    (h : List.Forall₂ (FrozenAs civil participationId) snapshots events) :
    events.map ContributionChargeEvent.contributionId = snapshots.map (·.contribution.id) := by
  induction h with
  | nil => rfl
  | cons hhead _ ih => rw [List.map_cons, List.map_cons, ih, hhead.contribution]

theorem Blocked.mem_events {when_ : Int} {row row' : CycleParticipation}
    {snapshots : List ChargeSnapshot} {events : List ContributionChargeEvent}
    (h : Blocked db db' when_ memberId cycleId row row' snapshots events) :
    ∀ e ∈ events, e.contributionId ∈ (snapshots.filter ChargeSnapshot.isOpen).map (·.contribution.id) := by
  intro e he
  rw [← map_contributionId h.frozen]
  exact List.mem_map_of_mem he

theorem CycleStep.noted (h : CycleStep db db')
    (hnoted : ∀ e ∈ db.contributionChargeEvents, ∃ c ∈ db.contributions, c.id = e.contributionId) :
    ∀ e ∈ db'.contributionChargeEvents, ∃ c ∈ db'.contributions, c.id = e.contributionId := by
  have hcancelled : ∀ {reason : String} {when_ : Int} {ids : List Nat} {id : Nat},
      (∃ c ∈ db.contributions, c.id = id) →
        ∃ c ∈ db.contributions.map (cancelledAmong reason when_ ids), c.id = id := by
    rintro reason when_ ids id ⟨c, hc, rfl⟩
    exact ⟨_, List.mem_map_of_mem hc, cancelledAmong_id ids c⟩
  cases h with
  | paid hkept _ =>
    intro e he
    rw [hkept.chargeEvents] at he
    obtain ⟨c, hc, hid⟩ := hnoted e he
    obtain ⟨c', hc', hsame⟩ := exists_of_forall₂ hkept.contributions hc
    exact ⟨c', hc', hsame.id_eq.trans hid⟩
  | bought _ honly =>
    rw [honly]
    exact hnoted
  | opened _ _ _ hopened =>
    rw [hopened.only]
    exact hnoted
  | issued _ _ _ _ _ _ _ _ _ _ _ honly =>
    intro e he
    rw [honly] at he ⊢
    obtain ⟨c, hc, hid⟩ := hnoted e he
    exact ⟨c, List.mem_append_left _ hc, hid⟩
  | charged m k _ events haccruals honly =>
    intro e he
    rw [honly] at he ⊢
    rcases List.mem_append.mp he with he | he
    · exact hnoted e he
    · obtain ⟨-, -, c, hc, hid⟩ := haccruals e he
      exact ⟨c, (mem_contributionsOf.mp hc).1, hid.symm⟩
  | blocked _ _ _ _ _ _ _ _ hblocked =>
    intro e he
    rw [hblocked.only] at he ⊢
    rcases List.mem_append.mp he with he | he
    · exact hcancelled (hnoted e he)
    · obtain ⟨c, hc, hid⟩ := List.mem_map.mp (hblocked.mem_ids _ (hblocked.mem_events e he))
      exact hcancelled ⟨c, (mem_contributionsOf.mp hc).1, hid⟩
  | exited _ _ _ _ _ _ _ _ honly =>
    intro e he
    rw [honly] at he ⊢
    exact hcancelled (hnoted e he)

/-- A step keeps the contributions of every participation live until it closes. -/
theorem CycleStep.live (h : CycleStep db db') (hs : CycleSound db)
    (hopen : ¬ Closed db' memberId cycleId) :
    ∀ c ∈ contributionsOf db' memberId cycleId, Live db'.contributionChargeEvents c := by
  have hbefore : ¬ Closed db memberId cycleId := fun ⟨row, hrow, hclosed⟩ =>
    hopen ⟨row, h.closed_kept hs.rows hrow hclosed, hclosed⟩
  have hlive := hs.live memberId cycleId hbefore
  cases h with
  | paid hkept _ =>
    intro c' hc'
    obtain ⟨hmem, hm, hk⟩ := mem_contributionsOf.mp hc'
    obtain ⟨c, hc, hsame⟩ := mem_of_forall₂ hkept.contributions hmem
    have hmine : c ∈ contributionsOf db memberId cycleId :=
      mem_contributionsOf.mpr ⟨hc, hsame.memberId ▸ hm, hsame.cycleId ▸ hk⟩
    rw [hkept.chargeEvents]
    refine ⟨hsame.cancelledAt.trans (hlive c hmine).1, fun e he hid => ?_⟩
    exact (hlive c hmine).2 e he (hid.trans hsame.id_eq)
  | bought _ honly =>
    rw [honly]
    exact hlive
  | opened _ _ _ hopened =>
    rw [hopened.only]
    exact hlive
  | issued m k _ _ _ new _ _ _ _ hnew honly =>
    intro c hc
    rw [honly] at hc ⊢
    obtain ⟨hmem, hm, hk⟩ := mem_contributionsOf.mp hc
    rcases List.mem_append.mp hmem with hmem | hmem
    · exact hlive c (mem_contributionsOf.mpr ⟨hmem, hm, hk⟩)
    · obtain rfl := List.mem_singleton.mp hmem
      refine ⟨hnew.live, fun e he hid => ?_⟩
      obtain ⟨x, hx, hxe⟩ := hs.noted e he
      have hlt : x.id < nextKey Contribution.id db.contributions := key_lt_nextKey hx
      have hid_eq := hnew.id_eq
      omega
  | charged m k _ events haccruals honly =>
    intro c hc
    rw [honly] at hc ⊢
    refine ⟨(hlive c hc).1, fun e he hid => ?_⟩
    rcases List.mem_append.mp he with he | he
    · exact (hlive c hc).2 e he hid
    · rw [(haccruals e he).1]
      decide
  | blocked when_ m k row new snapshots events hfound hblocked =>
    have hother : ¬ (memberId = m ∧ cycleId = k) := by
      rintro ⟨rfl, rfl⟩
      have hnew : participation? db' memberId cycleId = some new :=
        participation?_replaced hs.rows hfound hblocked.sameParticipation (by rw [hblocked.only])
      exact hopen ⟨new, hnew, by rw [hblocked.blocked]; simp⟩
    exact live_cancelled hs.sound.contributions hblocked.mem_ids hblocked.mem_events hother hlive
      (by rw [hblocked.only]) (by rw [hblocked.only])
  | exited when_ m k row new hfound hactive hnew honly =>
    have hother : ¬ (memberId = m ∧ cycleId = k) := by
      rintro ⟨rfl, rfl⟩
      have hwritten : participation? db' memberId cycleId = some new :=
        participation?_replaced hs.rows hfound (sameParticipation_exited hnew) (by rw [honly])
      exact hopen ⟨new, hwritten, by rw [hnew]; simp⟩
    have hnone : ∀ e ∈ ([] : List ContributionChargeEvent),
        e.contributionId ∈ (contributionsOf db m k).map Contribution.id := by simp
    exact live_cancelled hs.sound.contributions (fun _ hid => hid) hnone hother hlive (by rw [honly])
      (by rw [honly, List.append_nil])

theorem CycleStep.cycleSound (h : CycleStep db db') (hs : CycleSound db) : CycleSound db' where
  sound := h.sound hs.sound
  rows := h.keyed hs.rows
  noted := h.noted hs.noted
  live := fun _ _ hopen => h.live hs hopen

theorem CycleSteps.cycleSound (h : CycleSteps db db') (hs : CycleSound db) : CycleSound db' := by
  induction h with
  | refl => exact hs
  | tail _ hstep ih => exact hstep.cycleSound ih

theorem CycleSteps.closed_kept {row : CycleParticipation} (h : CycleSteps db db') (hs : CycleSound db)
    (hrow : participation? db memberId cycleId = some row) (hclosed : row.state ≠ .active) :
    participation? db' memberId cycleId = some row := by
  induction h with
  | refl => exact hrow
  | tail hsteps hstep ih => exact hstep.closed_kept (CycleSteps.cycleSound hsteps hs).rows ih hclosed

end Live

end Caixinha.Effects
