import Caixinha.Effects.CycleClosure
import Caixinha.Effects.CycleContributions

/-! The competences and amounts of the contributions of a participation: no step changes one, and a
new one has the amount that is authoritative when it is issued. -/
namespace Caixinha.Effects

open Caixinha.Library Caixinha.Library.Table Fallible Caixinha.Model

variable {db db' : Db} {memberId cycleId : Nat}

/-- The competence and the amount of every contribution of a member in a cycle. -/
def terms (db : Db) (memberId cycleId : Nat) : List (Int × Int) :=
  (contributionsOf db memberId cycleId).map (fun c => (c.competence, c.amount))

theorem terms_of_same (h : db'.contributions = db.contributions) :
    terms db' memberId cycleId = terms db memberId cycleId := by
  rw [terms, terms, contributionsOf, contributionsOf, h]

theorem terms_append {c : Contribution} (h : db'.contributions = db.contributions ++ [c]) :
    terms db' memberId cycleId = terms db memberId cycleId ++
      if c.memberId = memberId ∧ c.cycleId = some cycleId then [(c.competence, c.amount)] else [] := by
  rw [terms, terms, contributionsOf, contributionsOf, h, List.filter_append, List.map_append]
  congr 1
  by_cases hmine : c.memberId = memberId ∧ c.cycleId = some cycleId
  · simp [hmine]
  · rw [if_neg hmine, List.filter_cons_of_neg (by simpa using hmine)]
    rfl

private theorem terms_cancelled {reason : String} {when_ : Int} {ids : List Nat}
    (h : db'.contributions = db.contributions.map (cancelledAmong reason when_ ids)) :
    terms db' memberId cycleId = terms db memberId cycleId := by
  rw [terms, terms, contributionsOf, contributionsOf, h, List.filter_map, List.map_map]
  have hfilter : db.contributions.filter
      ((fun c => decide (c.memberId = memberId ∧ c.cycleId = some cycleId)) ∘
        cancelledAmong reason when_ ids) =
      db.contributions.filter (fun c => c.memberId = memberId ∧ c.cycleId = some cycleId) := by
    refine List.filter_congr fun c _ => ?_
    simp
  rw [hfilter]
  refine List.map_congr_left fun c _ => ?_
  rw [Function.comp_apply, cancelledAmong]
  split <;> rfl

private theorem terms_kept (h : CyclesKept db db') :
    terms db' memberId cycleId = terms db memberId cycleId := by
  refine (map_eq_of_forall₂ (forall₂_filter h.contributions ?_) ?_).symm
  · intro c c' hkept
    rw [hkept.memberId, hkept.cycleId]
  · intro c c' hkept
    rw [hkept.1.competence, hkept.1.amount]

/-- A step leaves the terms, or issues one contribution more. -/
theorem CycleStep.terms_cases (h : CycleStep db db') (memberId cycleId : Nat) :
    terms db' memberId cycleId = terms db memberId cycleId ∨
      ∃ cycle offset row amount, participation? db memberId cycleId = some row ∧ row.state = .active ∧
        db.cycle? cycleId = some cycle ∧ offset < cycle.months ∧
        authoritativeAmount db memberId cycleId = .ok amount ∧
        monthOfIndex (monthIndex cycle.startDate + (offset : Nat)) ∉
          (terms db memberId cycleId).map Prod.fst ∧
        terms db' memberId cycleId = terms db memberId cycleId ++
          [(monthOfIndex (monthIndex cycle.startDate + (offset : Nat)), amount)] := by
  cases h with
  | paid hkept _ => exact .inl (terms_kept hkept)
  | bought _ honly => exact .inl (terms_of_same (by rw [honly]))
  | opened _ _ _ hopened => exact .inl (terms_of_same (by rw [hopened.only]))
  | issued m k cycle offset row c hfound hactive hcycle hlt hnew honly =>
    have happend : terms db' memberId cycleId = _ := terms_append (by rw [honly])
    rw [happend]
    split
    · rename_i hmine
      obtain rfl : m = memberId := hnew.member.symm.trans hmine.1
      obtain rfl : k = cycleId := Option.some.inj (hnew.cycle.symm.trans hmine.2)
      refine .inr ⟨cycle, offset, row, c.amount, hfound, hactive, hcycle, hlt, hnew.amount, ?_, ?_⟩
      · have hnone := contributionOf?_none hnew.none
        rwa [terms, List.map_map]
      · rw [hnew.month]
    · exact .inl (List.append_nil _)
  | charged _ _ _ _ _ honly => exact .inl (terms_of_same (by rw [honly]))
  | blocked _ _ _ _ _ _ _ _ hblocked => exact .inl (terms_cancelled (by rw [hblocked.only]))
  | exited _ _ _ _ _ _ _ _ honly => exact .inl (terms_cancelled (by rw [honly]))

theorem CycleStep.members (h : CycleStep db db') : db'.members = db.members := by
  cases h with
  | paid hkept _ => exact hkept.members
  | bought _ honly => rw [honly]
  | opened _ _ _ hopened => rw [hopened.only]
  | issued _ _ _ _ _ _ _ _ _ _ _ honly => rw [honly]
  | charged _ _ _ _ _ honly => rw [honly]
  | blocked _ _ _ _ _ _ _ _ hblocked => rw [hblocked.only]
  | exited _ _ _ _ _ _ _ _ honly => rw [honly]

theorem CycleStep.account {account : MemberFinancialAccount} (h : CycleStep db db')
    (haccount : db.accounts.find? (fun a => a.memberId = memberId) = some account) :
    db'.accounts.find? (fun a => a.memberId = memberId) = some account :=
  CycleSteps.account (.single h) haccount

theorem CycleStep.found_kept {row : CycleParticipation} (h : CycleStep db db')
    (hkeyed : Keyed CycleParticipation.id db.participations)
    (hrow : participation? db memberId cycleId = some row) :
    ∃ row', participation? db' memberId cycleId = some row' := by
  cases h with
  | paid hkept _ => exact ⟨row, (participation?_of_same hkept.participations).trans hrow⟩
  | bought _ honly => exact ⟨row, (participation?_of_same (by rw [honly])).trans hrow⟩
  | opened _ _ _ hopened =>
    refine ⟨row, ?_⟩
    cases hopened.row with
    | found _ hsame => exact (participation?_of_same hsame).trans hrow
    | opened _ _ _ _ _ _ hadded =>
      rw [participation?] at hrow ⊢
      rw [hadded, List.find?_append, hrow, Option.some_or]
  | issued _ _ _ _ _ _ _ _ _ _ _ honly => exact ⟨row, (participation?_of_same (by rw [honly])).trans hrow⟩
  | charged _ _ _ _ _ honly => exact ⟨row, (participation?_of_same (by rw [honly])).trans hrow⟩
  | blocked _ _ _ _ _ _ _ hfound hblocked =>
    rw [participation?_replace hkeyed hfound hblocked.sameParticipation (by rw [hblocked.only]), hrow]
    exact ⟨_, rfl⟩
  | exited _ _ _ _ _ hfound _ hnew honly =>
    rw [participation?_replace hkeyed hfound (sameParticipation_exited hnew) (by rw [honly]), hrow]
    exact ⟨_, rfl⟩

private theorem participation?_none_replaced {m k : Nat} {old new : CycleParticipation}
    (hkeyed : Keyed CycleParticipation.id db.participations) (hfound : participation? db m k = some old)
    (hsame : SameParticipation old new) (hnone : participation? db memberId cycleId = none)
    (hdb : db'.participations = replace CycleParticipation.id db.participations new) :
    participation? db' memberId cycleId = none := by
  rw [participation?_replace hkeyed hfound hsame hdb, hnone]
  rfl

/-- A participation appears only when it is opened. -/
theorem CycleStep.opened_of_none (h : CycleStep db db')
    (hkeyed : Keyed CycleParticipation.id db.participations)
    (hnone : participation? db memberId cycleId = none) :
    participation? db' memberId cycleId = none ∨ ∃ row, Opened db db' memberId cycleId row := by
  cases h with
  | paid hkept _ => exact .inl ((participation?_of_same hkept.participations).trans hnone)
  | bought _ honly => exact .inl ((participation?_of_same (by rw [honly])).trans hnone)
  | opened m k row hopened =>
    by_cases hmine : m = memberId ∧ k = cycleId
    · obtain ⟨rfl, rfl⟩ := hmine
      exact .inr ⟨row, hopened⟩
    · left
      cases hopened.row with
      | found _ hsame => exact (participation?_of_same hsame).trans hnone
      | opened _ _ _ hm hk _ hadded =>
        rw [participation?] at hnone ⊢
        rw [hadded, List.find?_append, hnone, Option.none_or]
        simp [hm, hk, hmine]
  | issued _ _ _ _ _ _ _ _ _ _ _ honly => exact .inl ((participation?_of_same (by rw [honly])).trans hnone)
  | charged _ _ _ _ _ honly => exact .inl ((participation?_of_same (by rw [honly])).trans hnone)
  | blocked _ _ _ _ _ _ _ hfound hblocked =>
    exact .inl (participation?_none_replaced hkeyed hfound hblocked.sameParticipation hnone
      (by rw [hblocked.only]))
  | exited _ _ _ _ _ hfound _ hnew honly =>
    exact .inl (participation?_none_replaced hkeyed hfound (sameParticipation_exited hnew) hnone
      (by rw [honly]))

/-- The tables of one participation as the operations on cycles leave them. -/
structure Cycled (db : Db) (memberId cycleId : Nat) (cycle : Cycle) : Prop where
  sound : Sound db
  rows : Keyed CycleParticipation.id db.participations
  cycle? : db.cycle? cycleId = some cycle
  member : ∀ row, participation? db memberId cycleId = some row → ∃ member, db.member? memberId = some member
  account : ∀ row, participation? db memberId cycleId = some row →
    ∃ account, db.accounts.find? (fun a => a.memberId = memberId) = some account
  quota : ∀ row, participation? db memberId cycleId = some row →
    ∃ q ∈ db.quotas, q.memberId = memberId ∧ q.cycleId = some cycleId
  empty : participation? db memberId cycleId = none → terms db memberId cycleId = []
  within : ∀ t ∈ terms db memberId cycleId, ∃ offset : Nat, offset < cycle.months ∧
    t.1 = monthOfIndex (monthIndex cycle.startDate + offset)
  distinct : ((terms db memberId cycleId).map Prod.fst).Nodup
  units : ∀ q ∈ db.quotas, q.memberId = memberId → q.cycleId = some cycleId → q.active = true ∧ 0 < q.units
  capacity : ((db.quotas.filter (fun q => q.cycleId = some cycleId)).map Quota.units).sum ≤ cycle.maxQuotas

variable {cycle : Cycle}

theorem CycleStep.cycled (h : CycleStep db db') (hc : Cycled db memberId cycleId cycle)
    (hquotas : db'.quotas = db.quotas) : Cycled db' memberId cycleId cycle := by
  have hterms := h.terms_cases memberId cycleId
  have hissued : (∃ row, participation? db' memberId cycleId = some row) →
      (∃ row, participation? db memberId cycleId = some row) ∨ ∃ row, Opened db db' memberId cycleId row := by
    rintro ⟨row, hrow⟩
    cases hbefore : participation? db memberId cycleId with
    | some old => exact .inl ⟨old, rfl⟩
    | none =>
      rcases h.opened_of_none hc.rows hbefore with hnone | hopened
      · rw [hrow] at hnone
        cases hnone
      · exact .inr hopened
  constructor
  case sound => exact h.sound hc.sound
  case rows => exact h.keyed hc.rows
  case cycle? =>
    rw [Db.cycle?, h.cycles]
    exact hc.cycle?
  case member =>
    intro row hrow
    rw [Db.member?, h.members]
    rcases hissued ⟨row, hrow⟩ with ⟨old, hold⟩ | ⟨old, hopened⟩
    · exact hc.member old hold
    · exact hopened.member
  case account =>
    intro row hrow
    rcases hissued ⟨row, hrow⟩ with ⟨old, hold⟩ | ⟨old, hopened⟩
    · obtain ⟨account, haccount⟩ := hc.account old hold
      exact ⟨account, h.account haccount⟩
    · exact hopened.holder
  case quota =>
    intro row hrow
    rw [hquotas]
    rcases hissued ⟨row, hrow⟩ with ⟨old, hold⟩ | ⟨old, hopened⟩
    · exact hc.quota old hold
    · cases hopened.row with
      | found hfound _ => exact hc.quota _ hfound
      | opened _ hquota => exact hquota
  case empty =>
    intro hnone
    have hbefore : participation? db memberId cycleId = none := by
      cases hrow : participation? db memberId cycleId with
      | none => rfl
      | some row =>
        obtain ⟨row', hrow'⟩ := h.found_kept hc.rows hrow
        rw [hnone] at hrow'
        cases hrow'
    rcases hterms with hsame | ⟨-, -, row, -, hrow, -⟩
    · rw [hsame]
      exact hc.empty hbefore
    · rw [hbefore] at hrow
      cases hrow
  case within =>
    intro t ht
    rcases hterms with hsame | ⟨c, offset, -, amount, -, -, hcycle, hlt, -, -, hterms⟩
    · exact hc.within t (hsame ▸ ht)
    · rw [hterms] at ht
      rcases List.mem_append.mp ht with ht | ht
      · exact hc.within t ht
      · rw [hc.cycle?] at hcycle
        obtain rfl := Option.some.inj hcycle
        rw [List.mem_singleton.mp ht]
        exact ⟨offset, hlt, rfl⟩
  case distinct =>
    rcases hterms with hsame | ⟨c, offset, -, amount, -, -, -, -, -, hnew, hterms⟩
    · rw [hsame]
      exact hc.distinct
    · rw [hterms, List.map_append, List.map_singleton]
      refine List.nodup_append.mpr ⟨hc.distinct, by simp, ?_⟩
      rintro a ha b hb rfl
      rw [List.mem_singleton.mp hb] at ha
      exact hnew ha
  case units =>
    rw [hquotas]
    exact hc.units
  case capacity =>
    rw [hquotas]
    exact hc.capacity

theorem QuietSteps.cycled (h : QuietSteps db db') (hc : Cycled db memberId cycleId cycle) :
    Cycled db' memberId cycleId cycle := by
  induction h with
  | refl => exact hc
  | tail _ hstep ih => exact hstep.1.cycled ih hstep.2

end Caixinha.Effects
