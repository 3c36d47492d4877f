import Caixinha.Effects.CycleTerms
import Caixinha.Library.Runs

/-! When the daily unit of a participation gets past its contributions: as long as no quota is
bought after one of them has been issued. -/
namespace Caixinha.Properties.DailyUnits

open Caixinha.Library Caixinha.Library.Table Fallible Caixinha.Model Caixinha.Effects

section Amounts
variable {db : Db} {memberId cycleId : Nat} {cycle : Cycle} {row : CycleParticipation}

/-- The amount of all quotas of a cycle fits its column. -/
def Fits (cycle : Cycle) : Prop := cycle.monthlyAmount.val * cycle.maxQuotas < 10 ^ 14

def dueAmount (db : Db) (memberId cycleId : Nat) (cycle : Cycle) : Int :=
  cycle.monthlyAmount.val * activeUnits db memberId cycleId

theorem activeUnits_le (hc : Cycled db memberId cycleId cycle) :
    activeUnits db memberId cycleId ≤ cycle.maxQuotas := by
  have hfilter : db.quotas.filter (fun q => q.memberId = memberId ∧ q.cycleId = some cycleId ∧ q.active) =
      (db.quotas.filter (fun q => q.cycleId = some cycleId)).filter
        (fun q => q.memberId = memberId ∧ q.active) := by
    rw [List.filter_filter]
    refine List.filter_congr fun q _ => ?_
    by_cases hm : q.memberId = memberId <;> by_cases hk : q.cycleId = some cycleId <;> simp [hm, hk]
  rw [activeUnits, hfilter]
  exact (List.Sublist.sum_le_sum (List.filter_sublist.map _) (fun _ _ => Nat.zero_le _)).trans hc.capacity

theorem activeUnits_pos (hc : Cycled db memberId cycleId cycle)
    (hrow : participation? db memberId cycleId = some row) : 0 < activeUnits db memberId cycleId := by
  obtain ⟨q, hq, hm, hk⟩ := hc.quota row hrow
  obtain ⟨hactive, hpos⟩ := hc.units q hq hm hk
  have hmem : q.units ∈ (db.quotas.filter
      (fun q => q.memberId = memberId ∧ q.cycleId = some cycleId ∧ q.active)).map Quota.units :=
    List.mem_map_of_mem (List.mem_filter.mpr ⟨hq, by simp [hm, hk, hactive]⟩)
  exact hpos.trans_le (List.single_le_sum (fun _ _ => Nat.zero_le _) _ hmem)

theorem authoritativeAmount_eq (hc : Cycled db memberId cycleId cycle) (hfits : Fits cycle)
    (hrow : participation? db memberId cycleId = some row) :
    authoritativeAmount db memberId cycleId = .ok (dueAmount db memberId cycleId cycle) := by
  have hpos := activeUnits_pos hc hrow
  have hle := activeUnits_le hc
  have hmonthly : 0 < cycle.monthlyAmount.val := cycle.monthlyAmount.property
  have hproduct : cycle.monthlyAmount.val * activeUnits db memberId cycleId < 10 ^ 28 := by
    have hmono : cycle.monthlyAmount.val * activeUnits db memberId cycleId ≤
        cycle.monthlyAmount.val * cycle.maxQuotas :=
      Int.mul_le_mul_of_nonneg_left (by omega) hmonthly.le
    rw [Fits] at hfits
    omega
  unfold authoritativeAmount quotaUnits
  rw [hc.cycle?]
  simp only [orRefuse, ok_bind, refuseIf]
  rw [if_neg (by omega)]
  exact quantizedMoney_units hmonthly.le hproduct

/-- Until the participation closes, its contributions have the amount of its active quotas. -/
def Authoritative (db : Db) (memberId cycleId : Nat) (cycle : Cycle) : Prop :=
  ¬ Closed db memberId cycleId →
    ∀ t ∈ terms db memberId cycleId, t.2 = dueAmount db memberId cycleId cycle

end Amounts

section Unstuck
variable {db db' : Db} {memberId cycleId : Nat} {cycle : Cycle} {row : CycleParticipation}

/-- The daily unit gets past the contributions of an active participation on every date: they are
issued, exactly one for each elapsed competence and at most one a month of the cycle, issuing them
again changes nothing, and the unit goes on with the charges and the delinquency. -/
def Unstuck (db : Db) (memberId cycleId : Nat) (cycle : Cycle) : Prop :=
  ∀ row, participation? db memberId cycleId = some row → row.state = .active →
    ∀ clock entryDate, cycle.startDate ≤ entryDate →
      ∃ db' rows, ensureContributionsForEntry db clock memberId cycleId entryDate = .ok (db', rows) ∧
        rows.map Contribution.competence = elapsedCompetences cycle entryDate ∧
        (∀ competence ∈ elapsedCompetences cycle entryDate,
          ((contributionsOf db' memberId cycleId).filter (fun c => c.competence = competence)).length = 1) ∧
        (contributionsOf db' memberId cycleId).length ≤ cycle.months ∧
        (∀ clock', ensureContributionsForEntry db' clock' memberId cycleId entryDate = .ok (db', rows)) ∧
        ∀ scheduledFor, participationUnit db clock scheduledFor entryDate cycleId row.id = do
          let charged ← materializeActiveCharges db' clock memberId cycleId (some ⟨scheduledFor, true⟩)
          let (evaluated, result) ← evaluateDelinquency charged clock memberId cycleId
            (some ⟨scheduledFor, true⟩)
          return (evaluated, some result)

theorem joined (hc : Cycled db memberId cycleId cycle) (hfits : Fits cycle)
    (hrow : participation? db memberId cycleId = some row) (hactive : row.state = .active) :
    Joined db memberId cycleId cycle row (dueAmount db memberId cycleId cycle) :=
  ⟨hc.cycle?, hc.member row hrow, hc.account row hrow, hrow, hactive, authoritativeAmount_eq hc hfits hrow⟩

private theorem length_filter_of_nodup {f : Contribution → Int} {rows : List Contribution} {a : Int}
    (hnodup : (rows.map f).Nodup) (ha : a ∈ rows.map f) :
    (rows.filter (fun c => f c = a)).length = 1 := by
  have hcount := List.count_eq_one_of_mem hnodup ha
  rw [List.count, List.countP_map, List.countP_eq_length_filter] at hcount
  rw [← hcount]
  congr 1

private theorem contributionsOf_length_le (hc : Cycled db memberId cycleId cycle) :
    (contributionsOf db memberId cycleId).length ≤ cycle.months := by
  have hsub : (terms db memberId cycleId).map Prod.fst ⊆ (List.range cycle.months).map
      (fun (offset : Nat) => monthOfIndex (monthIndex cycle.startDate + offset)) := by
    intro competence hcompetence
    obtain ⟨t, ht, rfl⟩ := List.mem_map.mp hcompetence
    obtain ⟨offset, hlt, heq⟩ := hc.within t ht
    exact List.mem_map.mpr ⟨offset, List.mem_range.mpr hlt, heq.symm⟩
  have hle := (List.subperm_of_subset hc.distinct hsub).length_le
  simpa [terms] using hle

private theorem participationUnit_eq (hc : Cycled db memberId cycleId cycle)
    (hrow : participation? db memberId cycleId = some row) (hactive : row.state = .active)
    {clock entryDate : Int} (hdate : cycle.startDate ≤ entryDate) {rows : List Contribution}
    (hissue : ensureContributionsForEntry db clock memberId cycleId entryDate = .ok (db', rows))
    (scheduledFor : Int) :
    participationUnit db clock scheduledFor entryDate cycleId row.id = do
      let charged ← materializeActiveCharges db' clock memberId cycleId (some ⟨scheduledFor, true⟩)
      let (evaluated, result) ← evaluateDelinquency charged clock memberId cycleId
        (some ⟨scheduledFor, true⟩)
      return (evaluated, some result) := by
  obtain ⟨hmem, hm, hk⟩ := row_of_participation? hrow
  unfold participationUnit
  rw [lookup_of_mem hc.rows hmem]
  dsimp only
  rw [if_neg (by simp [hactive, hk]), hc.cycle?]
  dsimp only
  rw [if_neg (by omega), hm, hk, hissue]
  rfl

/-- A date late enough in the cycle for any of its months. -/
private theorem exists_late_date (cycle : Cycle) :
    ∃ entryDate, cycle.startDate ≤ entryDate ∧ elapsedMonths cycle entryDate = cycle.months := by
  refine ⟨monthOfIndex (monthIndex cycle.startDate + (cycle.months + 2 : Nat)), ?_, ?_⟩
  · have hadd := Calendar.firstOfMonth_add (monthIndex cycle.startDate - 1) (cycle.months + 2)
    obtain ⟨-, -, -, hday, -⟩ := Calendar.civilOfDay_spec cycle.startDate
    have hstart := monthStart_eq_monthOfIndex cycle.startDate
    have hsame : monthIndex cycle.startDate + (cycle.months + 2 : Nat) - 1 =
        monthIndex cycle.startDate - 1 + (cycle.months + 2 : Nat) := by omega
    rw [monthOfIndex] at hstart ⊢
    rw [hsame]
    unfold Calendar.monthStart at hstart
    omega
  · rw [elapsedMonths, monthIndex_monthOfIndex]
    omega

/-- The daily unit gets past the contributions exactly when they have the amount of the quotas. -/
theorem unstuck_iff (hc : Cycled db memberId cycleId cycle) (hfits : Fits cycle) :
    Unstuck db memberId cycleId cycle ↔ Authoritative db memberId cycleId cycle := by
  constructor
  · intro hunstuck hopen t ht
    cases hrow : participation? db memberId cycleId with
    | none =>
      rw [hc.empty hrow] at ht
      cases ht
    | some row =>
      have hactive : row.state = .active := by
        by_contra hclosed
        exact hopen ⟨row, hrow, hclosed⟩
      have hjoined := joined hc hfits hrow hactive
      obtain ⟨entryDate, hdate, helapsed⟩ := exists_late_date cycle
      obtain ⟨db', rows, hissue, -⟩ := hunstuck row hrow hactive 0 entryDate hdate
      rw [ensureContributions_eq hjoined hdate] at hissue
      obtain ⟨offset, hlt, hmonth⟩ := hc.within t ht
      obtain ⟨c, hcmem, rfl⟩ := List.mem_map.mp ht
      cases hfound : contributionOf? db memberId cycleId
          (monthOfIndex (monthIndex cycle.startDate + offset)) with
      | none =>
        refine absurd ?_ (contributionOf?_none hfound)
        exact hmonth ▸ List.mem_map_of_mem hcmem
      | some x =>
        obtain ⟨hx, hcompetence⟩ := contributionOf?_mem hfound
        have hsame : x = c := by
          have hdistinct : ((contributionsOf db memberId cycleId).map Contribution.competence).Nodup := by
            have := hc.distinct
            rwa [terms, List.map_map] at this
          exact List.inj_on_of_nodup_map hdistinct hx hcmem (hcompetence.trans hmonth.symm)
        have hmem : offset ∈ List.range (elapsedMonths cycle entryDate) := by
          rw [helapsed]
          exact List.mem_range.mpr hlt
        have hamount := amount_of_foldlM_ensureMonth hjoined hdate (range_lt cycle entryDate) hissue offset
          hmem x hfound
        rw [← hsame]
        exact hamount
  · intro hamounts row hrow hactive clock entryDate hdate
    have hopen : ¬ Closed db memberId cycleId := by
      rintro ⟨x, hx, hclosed⟩
      rw [hrow] at hx
      exact hclosed (Option.some.inj hx ▸ hactive)
    have hissuable : Issuable db memberId cycleId cycle row (dueAmount db memberId cycleId cycle) := by
      refine ⟨joined hc hfits hrow hactive, fun c hcmem => ?_, ?_⟩
      · exact hamounts hopen _ (List.mem_map_of_mem hcmem)
      · have := hc.distinct
        rwa [terms, List.map_map] at this
    obtain ⟨db', rows, added, hissue, hissuable', hdb', hrows, hall, hagain⟩ :=
      ensureContributions_ok hissuable hdate clock
    have hafter : Cycled db' memberId cycleId cycle := by
      exact QuietSteps.cycled (quiet_ensureContributions hissue) hc
    refine ⟨db', rows, hissue, hrows, fun competence hcompetence => ?_, contributionsOf_length_le hafter,
      hagain, participationUnit_eq hc hrow hactive hdate hissue⟩
    rw [← hrows] at hcompetence
    obtain ⟨c, hcmem, rfl⟩ := List.mem_map.mp hcompetence
    refine length_filter_of_nodup hissuable'.distinct ?_
    exact List.mem_map_of_mem (contributionOf?_mem (hall c hcmem)).1

end Unstuck

section Runs
variable {env : Env} {db db' : Db} {memberId cycleId : Nat} {cycle : Cycle}

theorem bought_cycled {m k : Nat} {units : Int} {quota : Quota}
    (hc : Cycled db memberId cycleId cycle) (h : createQuota db m k units = .ok (db', quota)) :
    Cycled db' memberId cycleId cycle := by
  obtain ⟨hm, hk, hactive, hquota, hunits, rfl, -, bought, hbought, hcapacity⟩ := createQuota_spec h
  refine ⟨hc.sound.of_contributions hc.sound.contributions rfl rfl rfl rfl rfl, hc.rows, hc.cycle?,
    hc.member, hc.account, ?_, hc.empty, hc.within, hc.distinct, ?_, ?_⟩
  · intro row hrow
    obtain ⟨q, hq, hmine⟩ := hc.quota row hrow
    exact ⟨q, List.mem_append_left _ hq, hmine⟩
  · intro q hq hqm hqk
    rcases List.mem_append.mp hq with hq | hq
    · exact hc.units q hq hqm hqk
    · rw [List.mem_singleton.mp hq]
      exact ⟨hactive, by omega⟩
  · by_cases hsame : k = cycleId
    · subst hsame
      rw [hc.cycle?] at hbought
      obtain rfl := Option.some.inj hbought
      exact hcapacity
    · dsimp only
      rw [List.filter_append, List.filter_cons_of_neg (by simp [hk, hsame]), List.filter_nil,
        List.append_nil]
      exact hc.capacity

theorem executeCycle_cycled (hc : Cycled db memberId cycleId cycle) (op : Int × CycleOp) :
    Cycled (executeCycle env db op) memberId cycleId cycle := by
  unfold executeCycle
  split
  · rename_i after h
    rcases attemptCycle_cases hc.sound h with ⟨m, k, units, quota, -, hquota⟩ | hquiet
    · exact bought_cycled hc hquota
    · exact QuietSteps.cycled hquiet hc
  · exact hc

theorem activeUnits_append (m k : Nat) (q : Quota) (hdb : db'.quotas = db.quotas ++ [q]) :
    activeUnits db' m k = activeUnits db m k +
      if q.memberId = m ∧ q.cycleId = some k ∧ q.active then q.units else 0 := by
  rw [activeUnits, activeUnits, hdb, List.filter_append, List.map_append, List.sum_append]
  congr 1
  by_cases hmine : q.memberId = m ∧ q.cycleId = some k ∧ q.active = true
  · simp [hmine]
  · rw [if_neg hmine, List.filter_cons_of_neg (by simpa using hmine)]
    rfl

theorem CycleStep.authoritative (h : CycleStep db db') (hc : Cycled db memberId cycleId cycle)
    (hfits : Fits cycle) (hquotas : db'.quotas = db.quotas)
    (hamounts : Authoritative db memberId cycleId cycle) : Authoritative db' memberId cycleId cycle := by
  intro hopen t ht
  have hbefore : ¬ Closed db memberId cycleId := fun ⟨row, hrow, hclosed⟩ =>
    hopen ⟨row, h.closed_kept hc.rows hrow hclosed, hclosed⟩
  have hunits : dueAmount db' memberId cycleId cycle = dueAmount db memberId cycleId cycle := by
    rw [dueAmount, dueAmount, activeUnits, activeUnits, hquotas]
  rw [hunits]
  rcases h.terms_cases memberId cycleId with hsame | ⟨c, offset, row, amount, hrow, -, -, -, hamount, -,
    hterms⟩
  · exact hamounts hbefore t (hsame ▸ ht)
  · rw [hterms] at ht
    rcases List.mem_append.mp ht with ht | ht
    · exact hamounts hbefore t ht
    · rw [authoritativeAmount_eq hc hfits hrow] at hamount
      rw [List.mem_singleton.mp ht]
      exact (Except.ok.inj hamount).symm

theorem quiet_authoritative (h : QuietSteps db db') (hc : Cycled db memberId cycleId cycle)
    (hfits : Fits cycle) (hamounts : Authoritative db memberId cycleId cycle) :
    Authoritative db' memberId cycleId cycle := by
  induction h with
  | refl => exact hamounts
  | tail hsteps hstep ih =>
    exact CycleStep.authoritative hstep.1 (QuietSteps.cycled hsteps hc) hfits hstep.2 ih

/-- An accepted purchase of a quota by a member with a contribution in the cycle. -/
def BuysLate (db : Db) (memberId cycleId : Nat) (op : Int × CycleOp) : Prop :=
  contributionsOf db memberId cycleId ≠ [] ∧ ∃ units bought,
    op.2 = .buyQuota memberId cycleId units ∧ createQuota db memberId cycleId units = .ok bought

private theorem bought_authoritative_iff {m k : Nat} {units : Int} {quota : Quota}
    (hc : Cycled db memberId cycleId cycle) (hamounts : Authoritative db memberId cycleId cycle)
    (h : createQuota db m k units = .ok (db', quota)) :
    Authoritative db' memberId cycleId cycle ↔
      ¬ (contributionsOf db memberId cycleId ≠ [] ∧ m = memberId ∧ k = cycleId) := by
  obtain ⟨hm, hk, hactive, hquota, hunits, hdb, hrowActive, -⟩ := createQuota_spec h
  have hquotas : db'.quotas = db.quotas ++ [quota] := by rw [hdb]
  have happend := activeUnits_append memberId cycleId quota hquotas
  have hterms : terms db' memberId cycleId = terms db memberId cycleId := terms_of_same (by rw [hdb])
  have hsame : participation? db' memberId cycleId = participation? db memberId cycleId :=
    participation?_of_same (by rw [hdb])
  have hclosed : Closed db' memberId cycleId ↔ Closed db memberId cycleId := by
    rw [Closed, Closed, hsame]
  have hmonthly : 0 < cycle.monthlyAmount.val := cycle.monthlyAmount.property
  constructor
  · rintro hafter ⟨hsome, rfl, rfl⟩
    have hopen : ¬ Closed db m k := by
      rintro ⟨row, hrow, hnot⟩
      exact hnot (hrowActive row hrow)
    obtain ⟨c, hcmem⟩ := List.exists_mem_of_ne_nil _ hsome
    have ht : (c.competence, c.amount) ∈ terms db m k := List.mem_map_of_mem hcmem
    have hold := hamounts hopen _ ht
    have hnew := hafter (fun hnot => hopen (hclosed.mp hnot)) _ (hterms ▸ ht)
    rw [if_pos ⟨hm, hk, hactive⟩] at happend
    rw [hold, dueAmount, dueAmount, happend] at hnew
    have hcancel := Int.eq_of_mul_eq_mul_left hmonthly.ne' hnew
    omega
  · intro hnot hopen t ht
    rw [hterms] at ht
    have hother : ¬ (quota.memberId = memberId ∧ quota.cycleId = some cycleId ∧ quota.active = true) := by
      rintro ⟨hqm, hqk, -⟩
      refine hnot ⟨fun hnone => ?_, hm.symm.trans hqm, Option.some.inj (hk.symm.trans hqk)⟩
      rw [terms, hnone] at ht
      cases ht
    rw [if_neg hother, Nat.add_zero] at happend
    rw [dueAmount, happend]
    exact hamounts (fun hbefore => hopen (hclosed.mpr hbefore)) t ht

theorem executeCycle_authoritative_iff (hc : Cycled db memberId cycleId cycle) (hfits : Fits cycle)
    (hamounts : Authoritative db memberId cycleId cycle) (op : Int × CycleOp) :
    Authoritative (executeCycle env db op) memberId cycleId cycle ↔ ¬ BuysLate db memberId cycleId op := by
  obtain ⟨clock, op⟩ := op
  cases hattempt : attemptCycle env db clock op with
  | error e =>
    have hsame : executeCycle env db (clock, op) = db := by rw [executeCycle, hattempt]
    rw [hsame]
    refine iff_of_true hamounts ?_
    rintro ⟨-, units, bought, rfl, hquota⟩
    have hok : attemptCycle env db clock (.buyQuota memberId cycleId units) = .ok bought.1 :=
      map_eq_ok.mpr ⟨bought, hquota, rfl⟩
    rw [hok] at hattempt
    cases hattempt
  | ok after =>
    have hafter : executeCycle env db (clock, op) = after := by rw [executeCycle, hattempt]
    rw [hafter]
    rcases attemptCycle_cases hc.sound hattempt with ⟨m, k, units, quota, rfl, hquota⟩ | hquiet
    · rw [bought_authoritative_iff hc hamounts hquota, not_iff_not]
      constructor
      · rintro ⟨hsome, rfl, rfl⟩
        exact ⟨hsome, units, _, rfl, hquota⟩
      · rintro ⟨hsome, units', bought, hop, -⟩
        obtain ⟨rfl, rfl, -⟩ := CycleOp.buyQuota.inj hop
        exact ⟨hsome, rfl, rfl⟩
    · refine iff_of_true (quiet_authoritative hquiet hc hfits hamounts) ?_
      rintro ⟨-, units, ⟨bought, quota⟩, rfl, hquota⟩
      obtain ⟨-, -, -, -, -, hdb, -⟩ := createQuota_spec hquota
      have hok : attemptCycle env db clock (.buyQuota memberId cycleId units) = .ok bought :=
        map_eq_ok.mpr ⟨_, hquota, rfl⟩
      obtain rfl : bought = after := Except.ok.inj (hok.symm.trans hattempt)
      have hquotas := QuietSteps.quotas hquiet
      rw [hdb] at hquotas
      simp at hquotas

/-- In every run, the daily unit of a member gets past the contributions in every state reached
exactly when no quota is bought after a contribution of the member has been issued. -/
theorem daily_unit_unstuck_iff (env : Env) (hc : Cycled db memberId cycleId cycle) (hfits : Fits cycle)
    (hamounts : Authoritative db memberId cycleId cycle) (ops : List (Int × CycleOp)) :
    (∀ done, done <+: ops → Unstuck (runCycle env db done) memberId cycleId cycle) ↔
      ∀ done op, done ++ [op] <+: ops → ¬ BuysLate (runCycle env db done) memberId cycleId op := by
  refine Runs.foldl_prefix_iff (I := fun s => Cycled s memberId cycleId cycle)
    (P := fun s => Unstuck s memberId cycleId cycle)
    (C := fun s op => ¬ BuysLate s memberId cycleId op) (fun s op hs => executeCycle_cycled hs op) ?_ hc
    ((unstuck_iff hc hfits).mpr hamounts) ops
  intro s op hs hunstuck
  rw [unstuck_iff (executeCycle_cycled hs op) hfits]
  exact executeCycle_authoritative_iff hs hfits ((unstuck_iff hs hfits).mp hunstuck) op

end Runs

section Sample

private def sampleCycle : Cycle := { id := 1, startDate := 20797 }

private def sampleDb : Db where
  members := [{ id := 1 }]
  cycles := [sampleCycle]

private def sampleEnv : Env where
  sha256 := fun _ => ""
  lateChargeEffectiveDate := none

private theorem sampleDb_cycled : Cycled sampleDb 1 1 sampleCycle where
  sound := by
    constructor
    case ledger => constructor <;> simp [sampleDb, Keyed]
    all_goals simp [sampleDb, Keyed]
  rows := by simp [sampleDb, Keyed]
  cycle? := rfl
  member := by simp [sampleDb, participation?]
  account := by simp [sampleDb, participation?]
  quota := by simp [sampleDb, participation?]
  empty := by simp [sampleDb, terms, contributionsOf]
  within := by simp [sampleDb, terms, contributionsOf]
  distinct := by simp [sampleDb, terms, contributionsOf]
  units := by simp [sampleDb]
  capacity := by simp [sampleDb]

private theorem sampleDb_authoritative : Authoritative sampleDb 1 1 sampleCycle := by
  intro _ t ht
  simp [sampleDb, terms, contributionsOf] at ht

/-- Two quotas, the contribution of December, and a day in January. -/
private def sampleOps : List (Int × CycleOp) :=
  [(0, .buyQuota 1 1 1), (0, .buyQuota 1 1 2), (0, .issue 1 1 20797), (0, .daily 0 20820 1 1)]

theorem sample_daily_unit_unstuck : Unstuck (runCycle sampleEnv sampleDb sampleOps) 1 1 sampleCycle := by
  refine (daily_unit_unstuck_iff sampleEnv sampleDb_cycled (by simp [Fits, sampleCycle])
    sampleDb_authoritative sampleOps).mpr ?_ sampleOps (List.prefix_refl _)
  rintro done op hsteps ⟨hsome, units, bought, hop, -⟩
  have hearly : done = [] ∨ done = [(0, .buyQuota 1 1 1)] := by
    unfold sampleOps at hsteps
    match done with
    | [] => exact .inl rfl
    | [x] =>
      simp at hsteps
      exact .inr (by rw [hsteps.1])
    | [x, y] =>
      simp at hsteps
      rw [hsteps.2.2] at hop
      cases hop
    | [x, y, z] =>
      simp at hsteps
      rw [hsteps.2.2.2] at hop
      cases hop
    | x :: y :: z :: w :: rest =>
      have hlength := hsteps.length_le
      simp only [List.length_append, List.length_cons, List.length_nil] at hlength
      omega
  rcases hearly with rfl | rfl
  · exact hsome (by decide)
  · exact hsome (by decide)

/-- A quota, a contribution, and then a second quota within the capacity. -/
private def lateOps : List (Int × CycleOp) :=
  [(0, .buyQuota 1 1 1), (0, .issue 1 1 20797), (0, .buyQuota 1 1 1)]

theorem second_quota_stops_the_daily_unit :
    (participation? (runCycle sampleEnv sampleDb lateOps) 1 1).map (fun row => (row.id, row.state)) =
        some (1, .active) ∧
      participationUnit (runCycle sampleEnv sampleDb lateOps) 0 0 20798 1 1 =
        .error (.valueError "existing contribution amount is not authoritative") ∧
      ¬ Unstuck (runCycle sampleEnv sampleDb lateOps) 1 1 sampleCycle := by
  have hrow : (participation? (runCycle sampleEnv sampleDb lateOps) 1 1).map
      (fun row => (row.id, row.state)) = some (1, .active) := by decide
  have hensure : ensureContributionsForEntry (runCycle sampleEnv sampleDb lateOps) 0 1 1 20798 =
      .error (.valueError "existing contribution amount is not authoritative") := by decide
  refine ⟨hrow, by decide, fun hunstuck => ?_⟩
  obtain ⟨row, hfound, hboth⟩ := Option.map_eq_some_iff.mp hrow
  obtain ⟨-, hactive⟩ := Prod.mk.inj hboth
  obtain ⟨db', rows, hissue, -⟩ := hunstuck row hfound hactive 0 20798 (by decide)
  rw [hensure] at hissue
  cases hissue

end Sample

end Caixinha.Properties.DailyUnits
