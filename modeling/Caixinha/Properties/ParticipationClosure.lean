import Caixinha.Effects.CycleClosure

/-! A participation closes once: a block freezes and cancels its contributions, and no later
operation touches the row again. -/
namespace Caixinha.Properties.ParticipationClosure

open Caixinha.Library Caixinha.Library.Table Fallible Caixinha.Model Caixinha.Effects

section Block
variable {db db' opened : Db} {memberId cycleId : Nat} {clock when_ : Int}
  {effectiveAt : Option Timestamp} {row row' : CycleParticipation}
  {snapshots : List ChargeSnapshot} {events : List ContributionChargeEvent}

/-- The principal of a contribution that is not paid. -/
def principalOpen (c : Contribution) : Int := max 0 (c.amount - contributionPaidAmount c)

def freezesOf (db : Db) (contributionId : Nat) : List ContributionChargeEvent :=
  db.contributionChargeEvents.filter
    (fun e => e.contributionId = contributionId ∧ e.eventType = .BLOCK_FREEZE)

/-- A contribution of a blocked participation: its charges on the civil day of the block, and one
event that freezes them and its open principal when there is something to freeze. -/
def FrozenOnce (db db' : Db) (civil : Int) (participationId : Nat) (c : Contribution) : Prop :=
  ∃ dueDate history charges, c.dueDate = some dueDate ∧ paymentHistory db c civil = .ok history ∧
    calculateContributionCharges c.amount dueDate civil history = .ok charges ∧
    if principalOpen c = 0 ∧ charges.fixedPenalty = 0 ∧ charges.dailyInterest = 0 then
      freezesOf db' c.id = []
    else ∃ e, freezesOf db' c.id = [e] ∧ e.accruedThrough = civil ∧
      e.participationId = participationId ∧ e.cancelledPrincipal = principalOpen c ∧
      e.fixedPenalty = charges.fixedPenalty ∧ e.dailyInterest = charges.dailyInterest

/-- A contribution after a block: cancelled when it belongs to the participation and is not fully
paid, and otherwise as it was. -/
def afterBlock (memberId cycleId : Nat) (when_ : Int) (c : Contribution) : Contribution :=
  if c.memberId = memberId ∧ c.cycleId = some cycleId ∧ contributionPaidAmount c < c.amount then
    cancelledContribution c "BLOCKED_DELINQUENCY" when_
  else c

/-- What a block does, and that it does nothing else to contributions and their events. -/
structure BlocksOnce (db db' : Db) (memberId cycleId : Nat) (when_ : Int) (row : CycleParticipation) :
    Prop where
  state : row.state = .blockedDelinquency when_
  found : participation? db' memberId cycleId = some row
  frozen : ∀ c ∈ contributionsOf db memberId cycleId,
    FrozenOnce db db' (financialCivilDate when_) row.id c
  contributions : db'.contributions = db.contributions.map (afterBlock memberId cycleId when_)
  noted : ∃ events, db'.contributionChargeEvents = db.contributionChargeEvents ++ events ∧
    ∀ e ∈ events, e.eventType = .BLOCK_FREEZE ∧
      e.contributionId ∈ (contributionsOf db memberId cycleId).map Contribution.id

private theorem paymentHistory_opened (h : Opened db opened memberId cycleId row) (c : Contribution)
    (through : Int) : paymentHistory opened c through = paymentHistory db c through := by
  rw [h.only]
  rfl

private theorem chargeSnapshot_spec {civil : Int} {c : Contribution} {s : ChargeSnapshot}
    (h : chargeSnapshot db civil c = .ok s) :
    ∃ dueDate history, c.dueDate = some dueDate ∧ paymentHistory db c civil = .ok history ∧
      calculateContributionCharges c.amount dueDate civil history = .ok s.charges ∧
      s.principalOpen = principalOpen c := by
  unfold chargeSnapshot chargesOn at h
  simp only [bind_eq_ok, orRefuse_eq_ok, pure_eq_ok] at h
  obtain ⟨dueDate, hdue, charges, ⟨history, hhistory, hcharges⟩, rfl⟩ := h
  exact ⟨dueDate, history, hdue, hhistory, hcharges, rfl⟩

private theorem keyed_snapshots (hkeyed : Keyed Contribution.id db.contributions)
    (h : Blocked db db' when_ memberId cycleId row row' snapshots events) :
    Keyed (fun s : ChargeSnapshot => s.contribution.id) snapshots := by
  have hmap : snapshots.map (fun s => s.contribution.id) =
      (memberContributions db memberId cycleId).map Contribution.id := by
    rw [← h.contributions_eq, List.map_map]
    rfl
  rw [Keyed, hmap, memberContributions]
  refine ((List.perm_insertionSort _ _).map _).nodup_iff.mpr ?_
  exact hkeyed.sublist (List.filter_sublist.map _)

private theorem freezesOf_blocked {id : Nat} (hnone : freezesOf db id = [])
    (h : Blocked db db' when_ memberId cycleId row row' snapshots events) :
    freezesOf db' id = events.filter (fun e => e.contributionId = id) := by
  have htype : ∀ e ∈ events, e.eventType = .BLOCK_FREEZE := by
    intro e he
    obtain ⟨s, -, hfrozen⟩ := mem_of_forall₂ h.frozen he
    exact hfrozen.type
  rw [freezesOf] at hnone ⊢
  rw [h.only]
  dsimp only
  rw [List.filter_append, hnone, List.nil_append]
  refine List.filter_congr fun e he => ?_
  simp [htype e he]

/-- One event for an open snapshot, none for the others. -/
private theorem freezes_of_snapshot {s : ChargeSnapshot} (hkeyed : Keyed Contribution.id db.contributions)
    (h : Blocked db db' when_ memberId cycleId row row' snapshots events) (hs : s ∈ snapshots) :
    if s.isOpen then
      ∃ e, events.filter (fun e => e.contributionId = s.contribution.id) = [e] ∧
        FrozenAs (financialCivilDate when_) row.id s e
    else events.filter (fun e => e.contributionId = s.contribution.id) = [] := by
  have hsnapshots := keyed_snapshots hkeyed h
  split
  · rename_i hisOpen
    have hmem : s ∈ snapshots.filter ChargeSnapshot.isOpen := List.mem_filter.mpr ⟨hs, hisOpen⟩
    obtain ⟨e, he, hfrozen⟩ := exists_of_forall₂ h.frozen hmem
    refine ⟨e, ?_, hfrozen⟩
    have hevents : Keyed ContributionChargeEvent.contributionId events := by
      rw [Keyed, map_contributionId h.frozen]
      exact hsnapshots.sublist (List.filter_sublist.map _)
    rw [← hfrozen.contribution]
    exact filter_key_of_mem hevents he
  · rename_i hclosed
    refine List.filter_eq_nil_iff.mpr fun e he hid => ?_
    obtain ⟨x, hx, hfrozen⟩ := mem_of_forall₂ h.frozen he
    obtain ⟨hx, hxopen⟩ := List.mem_filter.mp hx
    have hsame : x = s := eq_of_mem_of_key hsnapshots hx hs
      (hfrozen.contribution.symm.trans (of_decide_eq_true hid))
    exact hclosed (hsame ▸ hxopen)

private theorem isOpen_iff (s : ChargeSnapshot) :
    s.isOpen = true ↔
      ¬ (s.principalOpen = 0 ∧ s.charges.fixedPenalty = 0 ∧ s.charges.dailyInterest = 0) := by
  simp only [ChargeSnapshot.isOpen, decide_eq_true_eq]
  omega

private theorem cancelledAmong_blocked {c : Contribution} (hkeyed : Keyed Contribution.id db.contributions)
    (hlive : ∀ c ∈ contributionsOf db memberId cycleId, c.cancelledAt = none)
    (hfound : (memberContributions db memberId cycleId).mapM
      (chargeSnapshot db (financialCivilDate when_)) = .ok snapshots)
    (hids : ∀ id ∈ (snapshots.filter ChargeSnapshot.isOpen).map (·.contribution.id),
      id ∈ (contributionsOf db memberId cycleId).map Contribution.id) (hc : c ∈ db.contributions) :
    cancelledAmong blockReason when_ ((snapshots.filter ChargeSnapshot.isOpen).map (·.contribution.id)) c =
      afterBlock memberId cycleId when_ c := by
  by_cases hmine : c ∈ contributionsOf db memberId cycleId
  · obtain ⟨-, hm, hk⟩ := mem_contributionsOf.mp hmine
    by_cases hunpaid : contributionPaidAmount c < c.amount
    · obtain ⟨s, hs, htaken⟩ := exists_of_forall₂ (forall₂_of_mapM hfound)
        (mem_memberContributions.mpr hmine)
      have hcontribution := contribution_of_chargeSnapshot htaken
      obtain ⟨-, -, -, -, -, hopen⟩ := chargeSnapshot_spec htaken
      have hisOpen : s.isOpen = true := by
        rw [isOpen_iff, hopen, principalOpen]
        omega
      rw [cancelledAmong, if_pos, afterBlock, if_pos ⟨hm, hk, hunpaid⟩]
      · rfl
      · refine ⟨?_, hlive c hmine, hunpaid⟩
        rw [← hcontribution]
        exact List.mem_map_of_mem (List.mem_filter.mpr ⟨hs, hisOpen⟩)
    · rw [cancelledAmong, if_neg fun hall => hunpaid hall.2.2, afterBlock,
        if_neg fun hall => hunpaid hall.2.2]
  · have hnot : c.id ∉ (snapshots.filter ChargeSnapshot.isOpen).map (·.contribution.id) := by
      intro hid
      obtain ⟨x, hx, hxid⟩ := List.mem_map.mp (hids _ hid)
      have hsame : x = c := eq_of_mem_of_key hkeyed (mem_contributionsOf.mp hx).1 hc hxid
      exact hmine (hsame ▸ hx)
    rw [cancelledAmong_of_notMem hnot, afterBlock, if_neg]
    rintro ⟨hm, hk, -⟩
    exact hmine (mem_contributionsOf.mpr ⟨hc, hm, hk⟩)

private theorem freezesOf_live {c : Contribution} (h : Live db.contributionChargeEvents c) :
    freezesOf db c.id = [] := by
  refine List.filter_eq_nil_iff.mpr fun e he hboth => ?_
  obtain ⟨hid, htype⟩ := of_decide_eq_true hboth
  exact h.2 e he hid htype

/-- A block of a participation that was open before. -/
theorem blocksOnce_of_blocked (hs : CycleSound db) (hopened : Opened db opened memberId cycleId row)
    (h : Blocked opened db' when_ memberId cycleId row row' snapshots events) :
    BlocksOnce db db' memberId cycleId when_ row' := by
  have hsteps : CycleSteps db opened := QuietSteps.steps (quiet_opened hopened)
  have hso : CycleSound opened := CycleSteps.cycleSound hsteps hs
  have hfound : participation? opened memberId cycleId = some row := hopened.participation?
  have hnotClosed : ¬ Closed opened memberId cycleId := by
    rintro ⟨x, hx, hclosed⟩
    rw [hfound] at hx
    exact hclosed (Option.some.inj hx ▸ h.active)
  have hlive := hso.live memberId cycleId hnotClosed
  have hcontributions : opened.contributions = db.contributions := by rw [hopened.only]
  have hevents : opened.contributionChargeEvents = db.contributionChargeEvents := by rw [hopened.only]
  have hsame : contributionsOf opened memberId cycleId = contributionsOf db memberId cycleId := by
    rw [contributionsOf, contributionsOf, hcontributions]
  refine ⟨by rw [h.blocked], ?_, ?_, ?_, ?_⟩
  · exact participation?_replaced hso.rows hfound h.sameParticipation (by rw [h.only])
  · intro c hc
    have hmine : c ∈ contributionsOf opened memberId cycleId := hsame ▸ hc
    obtain ⟨s, hs', htaken⟩ := exists_of_forall₂ (forall₂_of_mapM h.found)
      (mem_memberContributions.mpr hmine)
    have hcontribution := contribution_of_chargeSnapshot htaken
    obtain ⟨dueDate, history, hdue, hhistory, hcharges, hopen⟩ := chargeSnapshot_spec htaken
    rw [paymentHistory_opened hopened] at hhistory
    refine ⟨dueDate, history, s.charges, hdue, hhistory, hcharges, ?_⟩
    have hfreezes := freezes_of_snapshot hso.sound.contributions h hs'
    rw [hcontribution, ← freezesOf_blocked (freezesOf_live (hlive c hmine)) h] at hfreezes
    rw [← hopen]
    by_cases hzero : s.principalOpen = 0 ∧ s.charges.fixedPenalty = 0 ∧ s.charges.dailyInterest = 0
    · rw [if_pos hzero]
      rwa [if_neg fun hisOpen => (isOpen_iff s).mp hisOpen hzero] at hfreezes
    · rw [if_neg hzero]
      rw [if_pos ((isOpen_iff s).mpr hzero)] at hfreezes
      obtain ⟨e, he, hfrozen⟩ := hfreezes
      exact ⟨e, he, hfrozen.day, hfrozen.participation.trans h.sameParticipation.id_eq.symm,
        hfrozen.cancelledPrincipal, hfrozen.fixedPenalty, hfrozen.dailyInterest⟩
  · rw [h.only]
    dsimp only
    rw [← hcontributions]
    exact List.map_congr_left fun c hc => cancelledAmong_blocked hso.sound.contributions
      (fun c hc => (hlive c hc).1) h.found h.mem_ids hc
  · refine ⟨events, by rw [h.only, hevents], fun e he => ?_⟩
    obtain ⟨s, -, hfrozen⟩ := mem_of_forall₂ h.frozen he
    exact ⟨hfrozen.type, hsame ▸ h.mem_ids _ (h.mem_events e he)⟩

end Block

section Runs
variable (env : Env) {db : Db} {memberId cycleId : Nat}

/-- An evaluation of a closed participation whose member has an account changes nothing. -/
theorem executeCycle_evaluate_closed {row : CycleParticipation} {account : MemberFinancialAccount}
    {clock : Int} {effectiveAt : Option Timestamp} (hs : CycleSound db)
    (hrow : participation? db memberId cycleId = some row) (hclosed : row.state ≠ .active)
    (haccount : db.accounts.find? (fun a => a.memberId = memberId) = some account) :
    executeCycle env db (clock, .evaluate memberId cycleId effectiveAt) = db := by
  unfold executeCycle
  split
  · rename_i after h
    obtain ⟨⟨after, row'⟩, hevaluate, rfl⟩ := map_eq_ok.mp h
    obtain ⟨-, honly⟩ := evaluate_closed hclosed hrow hevaluate
    obtain ⟨when_, opened, found, -, hopened, ⟨rfl, -⟩ | ⟨snapshots, events, hblocked⟩⟩ :=
      evaluate_cases hs.sound.contributions hevaluate
    · rw [honly, hopened.kept account haccount]
    · have hactive := hblocked.active
      cases hopened.row with
      | found hfound _ =>
        rw [hrow] at hfound
        exact absurd (Option.some.inj hfound ▸ hactive) hclosed
      | opened hnone => rw [hrow] at hnone; cases hnone
  · rfl

theorem executeCycle_of_ok {db' : Db} {clock : Int} {op : CycleOp}
    (h : attemptCycle env db clock op = .ok db') : executeCycle env db (clock, op) = db' := by
  rw [executeCycle, h]

/-- A day of a participation is its contributions, its charges and its evaluation, in this order. -/
theorem daily_is_three_operations (db : Db) (cycleId : Nat) (clock scheduledFor financialDate : Int)
    (participationId : Nat) :
    executeCycle env db (clock, .daily scheduledFor financialDate cycleId participationId) = db ∨
      ∃ memberId, executeCycle env db (clock, .daily scheduledFor financialDate cycleId participationId) =
        runCycle env db [(clock, .issue memberId cycleId financialDate),
          (clock, .materialize memberId cycleId (some ⟨scheduledFor, true⟩)),
          (clock, .evaluate memberId cycleId (some ⟨scheduledFor, true⟩))] := by
  cases hattempt : attemptCycle env db clock (.daily scheduledFor financialDate cycleId participationId) with
  | error e =>
    left
    rw [executeCycle, hattempt]
  | ok after =>
    rw [executeCycle_of_ok env hattempt]
    obtain ⟨⟨after, result⟩, hunit, rfl⟩ := map_eq_ok.mp hattempt
    unfold participationUnit at hunit
    split at hunit
    · rw [pure_eq_ok, Prod.mk.injEq] at hunit
      exact .inl hunit.1.symm
    · rename_i row hrow
      split at hunit
      · rw [pure_eq_ok, Prod.mk.injEq] at hunit
        exact .inl hunit.1.symm
      · rename_i hactive
        obtain ⟨-, hcycle⟩ := not_or.mp hactive
        rw [not_not.mp hcycle] at hunit
        split at hunit
        · rw [pure_eq_ok, Prod.mk.injEq] at hunit
          exact .inl hunit.1.symm
        · split at hunit
          · rw [pure_eq_ok, Prod.mk.injEq] at hunit
            exact .inl hunit.1.symm
          · simp only [bind_eq_ok, pure_eq_ok, Prod.exists, Prod.mk.injEq] at hunit
            obtain ⟨issued, rows, hissue, charged, hcharge, evaluated, row', hevaluate, rfl, -⟩ := hunit
            refine .inr ⟨row.memberId, ?_⟩
            have hfirst : attemptCycle env db clock (.issue row.memberId cycleId financialDate) =
                .ok issued := map_eq_ok.mpr ⟨_, hissue, rfl⟩
            have hlast : attemptCycle env charged clock
                (.evaluate row.memberId cycleId (some ⟨scheduledFor, true⟩)) = .ok evaluated :=
              map_eq_ok.mpr ⟨_, hevaluate, rfl⟩
            have hmiddle : attemptCycle env issued clock
                (.materialize row.memberId cycleId (some ⟨scheduledFor, true⟩)) = .ok charged := hcharge
            rw [runCycle, List.foldl_cons, executeCycle_of_ok env hfirst, List.foldl_cons,
              executeCycle_of_ok env hmiddle, List.foldl_cons, executeCycle_of_ok env hlast, List.foldl_nil]

theorem runCycle_append (db : Db) (ops more : List (Int × CycleOp)) :
    runCycle env db (ops ++ more) = runCycle env (runCycle env db ops) more := List.foldl_append ..

/-- In every run, a participation that closed keeps its row; the evaluation that blocks it freezes
and cancels its contributions as they stand then; and whatever happens after an evaluation that
returned a closed row, evaluating it again on any day changes nothing. -/
theorem closed_participation_is_final (hdb : CycleSound db) (ops : List (Int × CycleOp))
    (memberId cycleId : Nat) :
    (∀ row, participation? (runCycle env db ops) memberId cycleId = some row → row.state ≠ .active →
      ∀ more, participation? (runCycle env db (ops ++ more)) memberId cycleId = some row) ∧
    (∀ clock effectiveAt db' row,
      evaluateDelinquency (runCycle env db ops) clock memberId cycleId effectiveAt = .ok (db', row) →
      row.state ≠ .active →
        ((participation? (runCycle env db ops) memberId cycleId = some row ∧
            db' = { runCycle env db ops with accounts := db'.accounts }) ∨
          (¬ Closed (runCycle env db ops) memberId cycleId ∧
            ∃ when_, effectiveAtUtc clock effectiveAt = .ok when_ ∧
              BlocksOnce (runCycle env db ops) db' memberId cycleId when_ row)) ∧
        ∀ more clock' effectiveAt',
          executeCycle env (runCycle env db' more) (clock', .evaluate memberId cycleId effectiveAt') =
            runCycle env db' more) ∧
    ∀ clock scheduledFor financialDate participationId,
      executeCycle env (runCycle env db ops)
          (clock, .daily scheduledFor financialDate cycleId participationId) = runCycle env db ops ∨
        ∃ m, executeCycle env (runCycle env db ops)
            (clock, .daily scheduledFor financialDate cycleId participationId) =
          runCycle env db (ops ++ [(clock, .issue m cycleId financialDate),
            (clock, .materialize m cycleId (some ⟨scheduledFor, true⟩)),
            (clock, .evaluate m cycleId (some ⟨scheduledFor, true⟩))]) := by
  have hs : CycleSound (runCycle env db ops) := CycleSteps.cycleSound (steps_runCycle hdb.sound ops) hdb
  generalize hrun : runCycle env db ops = s at hs
  refine ⟨?_, ?_, ?_⟩
  · intro row hrow hclosed more
    rw [runCycle_append, hrun]
    exact CycleSteps.closed_kept (steps_runCycle hs.sound more) hs hrow hclosed
  · intro clock effectiveAt db' row h hclosed
    have hafter : CycleSteps s db' := QuietSteps.steps (quiet_evaluate hs.sound h)
    have hs' : CycleSound db' := CycleSteps.cycleSound hafter hs
    obtain ⟨when_, opened, found, hwhen, hopened, hcases⟩ := evaluate_cases hs.sound.contributions h
    obtain ⟨account, haccount⟩ := hopened.holder
    have hwritten : ((participation? s memberId cycleId = some row ∧
          db' = { s with accounts := db'.accounts }) ∨
        (¬ Closed s memberId cycleId ∧ ∃ when_, effectiveAtUtc clock effectiveAt = .ok when_ ∧
          BlocksOnce s db' memberId cycleId when_ row)) ∧
        participation? db' memberId cycleId = some row ∧
        db'.accounts.find? (fun a => a.memberId = memberId) = some account := by
      rcases hcases with ⟨rfl, rfl⟩ | ⟨snapshots, events, hblocked⟩
      · have hbefore : participation? s memberId cycleId = some row := by
          cases hopened.row with
          | found hfound _ => exact hfound
          | opened _ _ hactive => exact absurd hactive hclosed
        exact ⟨.inl ⟨hbefore, (evaluate_closed hclosed hbefore h).2⟩, hopened.participation?, haccount⟩
      · have hblocks := blocksOnce_of_blocked hs hopened hblocked
        refine ⟨.inr ⟨?_, when_, hwhen, hblocks⟩, hblocks.found, ?_⟩
        · rintro ⟨x, hx, hxclosed⟩
          cases hopened.row with
          | found hfound _ =>
            rw [hx] at hfound
            exact hxclosed (Option.some.inj hfound ▸ hblocked.active)
          | opened hnone => rw [hx] at hnone; cases hnone
        · rw [hblocked.only]
          exact haccount
    refine ⟨hwritten.1, fun more clock' effectiveAt' => ?_⟩
    have hmore : CycleSteps db' (runCycle env db' more) := steps_runCycle hs'.sound more
    exact executeCycle_evaluate_closed env (CycleSteps.cycleSound hmore hs')
      (CycleSteps.closed_kept hmore hs' hwritten.2.1 hclosed) hclosed
      (CycleSteps.account hmore hwritten.2.2)
  · intro clock scheduledFor financialDate participationId
    rcases daily_is_three_operations env s cycleId clock scheduledFor financialDate participationId with
      hsame | ⟨m, hdaily⟩
    · exact .inl hsame
    · refine .inr ⟨m, ?_⟩
      rw [runCycle_append, hrun]
      exact hdaily

end Runs

section Sample

private def sampleDb : Db where
  members := [{ id := 1 }]
  cycles := [{ id := 1, startDate := 20797 }]

private def sampleEnv : Env where
  sha256 := fun _ => ""
  lateChargeEffectiveDate := none

private def sampleClock : Int := 20860 * dayLength + belemOffset

/-- A quota, then the contributions of three months that nobody pays. -/
private def sampleOps : List (Int × CycleOp) :=
  [(0, .buyQuota 1 1 1), (0, .issue 1 1 20797), (0, .issue 1 1 20860)]

private theorem sampleDb_sound : CycleSound sampleDb where
  sound := by
    constructor
    case ledger => constructor <;> simp [sampleDb, Keyed]
    all_goals simp [sampleDb, Keyed]
  rows := by simp [sampleDb, Keyed]
  noted := by simp [sampleDb]
  live := by simp [sampleDb, contributionsOf]

theorem sample_participation_is_final :
    ∃ db' row, evaluateDelinquency (runCycle sampleEnv sampleDb sampleOps) sampleClock 1 1 none =
        .ok (db', row) ∧ row.state = .blockedDelinquency sampleClock ∧
      db'.contributionChargeEvents.length = 3 ∧
      ∀ more clock effectiveAt,
        executeCycle sampleEnv (runCycle sampleEnv db' more) (clock, .evaluate 1 1 effectiveAt) =
          runCycle sampleEnv db' more := by
  have hblocked : ((evaluateDelinquency (runCycle sampleEnv sampleDb sampleOps) sampleClock 1 1 none).map
      (fun p => (p.2.state, p.1.contributionChargeEvents.length))) =
        .ok (.blockedDelinquency sampleClock, 3) := by decide
  obtain ⟨⟨db', row⟩, h, hrow⟩ := map_eq_ok.mp hblocked
  obtain ⟨hstate, hevents⟩ := Prod.mk.inj hrow
  have hclosed : row.state ≠ .active := by rw [hstate]; simp
  have hfinal := (closed_participation_is_final sampleEnv sampleDb_sound sampleOps 1 1).2.1 _ _ _ _ h hclosed
  exact ⟨db', row, h, hstate, hevents, hfinal.2⟩

end Sample

end Caixinha.Properties.ParticipationClosure
