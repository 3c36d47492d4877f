import Caixinha.Library.DecimalOrder
import Caixinha.Effects.CycleSteps

/-! Issuing the contributions of the elapsed months of a cycle: when it goes through, and what it
leaves. -/
namespace Caixinha.Effects

open Caixinha.Library Caixinha.Library.Table Fallible Caixinha.Model

section Months

theorem civilOfDay_monthOfIndex (index : Int) : Calendar.civilOfDay (monthOfIndex index) =
    { year := (index - 1) / 12, month := ((index - 1) % 12).toNat + 1, day := 1 } :=
  Calendar.civilOfDay_firstOfMonth (index - 1)

theorem monthIndex_monthOfIndex (index : Int) : monthIndex (monthOfIndex index) = index := by
  rw [monthIndex, civilOfDay_monthOfIndex]
  dsimp only
  omega

theorem monthStart_eq_monthOfIndex (day : Int) :
    Calendar.monthStart day = monthOfIndex (monthIndex day) := by
  obtain ⟨hmonth, -, -, -, -⟩ := Calendar.civilOfDay_spec day
  rw [Calendar.monthStart_eq, monthOfIndex, monthIndex]
  congr 1
  omega

theorem monthStart_le_monthOfIndex (day : Int) (offset : Nat) :
    Calendar.monthStart day ≤ monthOfIndex (monthIndex day + offset) := by
  have hadd := Calendar.firstOfMonth_add (monthIndex day - 1) offset
  have hsame : monthIndex day + offset - 1 = monthIndex day - 1 + offset := by omega
  rw [monthStart_eq_monthOfIndex, monthOfIndex, monthOfIndex, hsame]
  omega

end Months

section Amounts

/-- The cents of an amount times whole units, when the product fits the precision. -/
theorem quantizedMoney_units {cents : Int} {units : Nat} (hcents : 0 ≤ cents)
    (hfits : cents * units < 10 ^ 28) :
    quantizedMoney (Decimal.mul 28 ⟨cents, -2⟩ ⟨units, 0⟩) = .ok (cents * units) := by
  have hproduct : 0 ≤ cents * units := Int.mul_nonneg hcents (Int.natCast_nonneg units)
  have hx : Decimal.Number.Within 2 ⟨cents, -2⟩ := by simp [Decimal.Number.Within]
  have hy : Decimal.Number.Within 0 ⟨units, 0⟩ := by simp [Decimal.Number.Within]
  have hlt : (cents * units).natAbs < 10 ^ 28 := (Decimal.natAbs_lt_pow hproduct).mpr (by simpa using hfits)
  have hscaled : (Decimal.mul 28 ⟨cents, -2⟩ ⟨units, 0⟩).scaled 2 = cents * units := by
    have hmul := Decimal.scaled_mul hx hy (by decide : 0 < 28)
    rw [Decimal.roundToDigits_of_lt] at hmul
    · simpa [Decimal.Number.scaled] using hmul
    · decide
    · simpa [Decimal.Number.scaled] using hlt
  have hwithin : (Decimal.mul 28 ⟨cents, -2⟩ ⟨units, 0⟩).Within 2 :=
    Decimal.within_mul hx hy (by decide)
  have hnonneg : 0 ≤ (Decimal.mul 28 ⟨cents, -2⟩ ⟨units, 0⟩).coefficient :=
    Decimal.round_nonneg hproduct 28
  have hcentsOf : Decimal.centsHalfUp (Decimal.mul 28 ⟨cents, -2⟩ ⟨units, 0⟩) = cents * units := by
    rw [Decimal.centsHalfUp_of_scaled hwithin hnonneg, Nat.zero_add, hscaled, Decimal.halfUp, pow_zero,
      Nat.mod_one, Nat.div_one, if_pos (by decide), Int.toNat_of_nonneg hproduct]
  rw [quantizedMoney, Decimal.quantizeCents, hcentsOf, Decimal.checkCents, if_pos hlt]

end Amounts

section Success
variable {db db' : Db} {memberId cycleId : Nat} {clock entryDate amount : Int} {cycle : Cycle}
  {row : CycleParticipation} {offset : Nat}

/-- An active participation in a cycle, and the amount its contributions should have. -/
structure Joined (db : Db) (memberId cycleId : Nat) (cycle : Cycle) (row : CycleParticipation)
    (amount : Int) : Prop where
  cycle? : db.cycle? cycleId = some cycle
  member : ∃ member, db.member? memberId = some member
  account : ∃ account, db.accounts.find? (fun a => a.memberId = memberId) = some account
  found : participation? db memberId cycleId = some row
  active : row.state = .active
  authoritative : authoritativeAmount db memberId cycleId = .ok amount

/-- All its contributions have that amount. -/
structure Issuable (db : Db) (memberId cycleId : Nat) (cycle : Cycle) (row : CycleParticipation)
    (amount : Int) : Prop extends Joined db memberId cycleId cycle row amount where
  same : ∀ c ∈ contributionsOf db memberId cycleId, c.amount = amount
  distinct : ((contributionsOf db memberId cycleId).map Contribution.competence).Nodup

theorem contributionOf?_mem {competence : Int} {c : Contribution}
    (h : contributionOf? db memberId cycleId competence = some c) :
    c ∈ contributionsOf db memberId cycleId ∧ c.competence = competence := by
  rw [contributionOf?] at h
  have hmem := List.mem_of_find?_eq_some h
  have hall := List.find?_some h
  obtain ⟨hm, hk, hcompetence⟩ : c.memberId = memberId ∧ c.cycleId = some cycleId ∧
      c.competence = competence := by simpa using hall
  exact ⟨by simp [contributionsOf, hmem, hm, hk], hcompetence⟩

theorem contributionOf?_none {competence : Int} (h : contributionOf? db memberId cycleId competence = none) :
    competence ∉ (contributionsOf db memberId cycleId).map Contribution.competence := by
  intro hmem
  obtain ⟨c, hc, rfl⟩ := List.mem_map.mp hmem
  rw [contributionOf?, List.find?_eq_none] at h
  rw [contributionsOf, List.mem_filter] at hc
  exact h c hc.1 (by simpa using of_decide_eq_true hc.2)

theorem ensureActive_known (h : Joined db memberId cycleId cycle row amount) (entry : Option Int) :
    ensureActiveParticipation db memberId cycleId clock entry = .ok (db, row) := by
  obtain ⟨account, haccount⟩ := h.account
  unfold ensureActiveParticipation
  rw [lockMemberFinancialAccount_existing h.member haccount, ok_bind]
  dsimp only
  rw [getOrCreateParticipation_known h.found, ok_bind]
  simp [refuseIf, h.active, bind, Except.bind, pure, Except.pure]

/-- The contribution a call of `createContribution` appends. -/
def issuedContribution (db : Db) (memberId cycleId : Nat) (competence amount : Int) : Contribution :=
  { id := nextKey Contribution.id db.contributions, memberId, competence, amount
    status := .PENDING, paymentId := none, dueDate := some (contributionDueDate competence)
    paidAmount := some 0, paidAt := none, cancelledAt := none, cancellationReason := none
    cycleId := some cycleId }

/-- The checks of `createContribution` pass in every month of the cycle. -/
theorem createContribution_eq (h : Joined db memberId cycleId cycle row amount)
    (hdate : cycle.startDate ≤ entryDate) (hlt : offset < cycle.months) (clock : Int) :
    createContribution db clock memberId cycleId (monthOfIndex (monthIndex cycle.startDate + offset))
        entryDate =
      match contributionOf? db memberId cycleId (monthOfIndex (monthIndex cycle.startDate + offset)) with
      | some existing =>
        if existing.amount = amount then .ok (db, existing)
        else .error (.valueError "existing contribution amount is not authoritative")
      | none =>
        let contribution := issuedContribution db memberId cycleId
          (monthOfIndex (monthIndex cycle.startDate + offset)) amount
        .ok ({ db with contributions := db.contributions ++ [contribution] }, contribution) := by
  have hday : (Calendar.civilOfDay (monthOfIndex (monthIndex cycle.startDate + offset))).day = 1 := by
    rw [civilOfDay_monthOfIndex]
  have hstart := monthStart_le_monthOfIndex cycle.startDate offset
  have hindex := monthIndex_monthOfIndex (monthIndex cycle.startDate + offset)
  unfold createContribution
  rw [h.cycle?, h.found]
  simp only [orRefuse, ok_bind, refuseIf]
  rw [if_neg (by simp), if_neg (by omega), if_neg (by omega), if_neg (by omega), if_neg (by omega)]
  simp only [ok_bind]
  rw [ensureActive_known h, ok_bind]
  dsimp only
  rw [h.authoritative]
  cases contributionOf? db memberId cycleId (monthOfIndex (monthIndex cycle.startDate + offset)) with
  | none => rfl
  | some existing =>
    simp only [ok_bind]
    by_cases hsame : existing.amount = amount
    · rw [if_pos hsame, if_neg (not_not.mpr hsame)]
      rfl
    · rw [if_neg hsame, if_pos hsame]
      rfl

theorem contributionOf?_append {competence : Int} {c : Contribution} {added : List Contribution}
    (h : contributionOf? db memberId cycleId competence = some c)
    (hdb : db'.contributions = db.contributions ++ added) :
    contributionOf? db' memberId cycleId competence = some c := by
  rw [contributionOf?] at h ⊢
  rw [hdb, List.find?_append, h, Option.some_or]

theorem contributionOf?_issued {competence : Int}
    (h : contributionOf? db memberId cycleId competence = none) (amount : Int) :
    contributionOf? { db with contributions := db.contributions ++
        [issuedContribution db memberId cycleId competence amount] } memberId cycleId competence =
      some (issuedContribution db memberId cycleId competence amount) := by
  rw [contributionOf?] at h ⊢
  rw [List.find?_append, h, Option.none_or]
  simp [issuedContribution]

theorem Issuable.issued {competence : Int} (h : Issuable db memberId cycleId cycle row amount)
    (hnone : contributionOf? db memberId cycleId competence = none) :
    Issuable { db with contributions := db.contributions ++
      [issuedContribution db memberId cycleId competence amount] } memberId cycleId cycle row amount := by
  have hrows : contributionsOf { db with contributions := db.contributions ++
      [issuedContribution db memberId cycleId competence amount] } memberId cycleId =
        contributionsOf db memberId cycleId ++
          [issuedContribution db memberId cycleId competence amount] := by
    rw [contributionsOf, List.filter_append]
    simp [issuedContribution, contributionsOf]
  refine ⟨⟨h.cycle?, h.member, h.account, h.found, h.active, h.authoritative⟩, ?_, ?_⟩
  · rw [hrows]
    intro c hc
    rcases List.mem_append.mp hc with hc | hc
    · exact h.same c hc
    · rw [List.mem_singleton.mp hc]
      rfl
  · rw [hrows, List.map_append, List.map_singleton]
    refine List.nodup_append.mpr ⟨h.distinct, by simp, ?_⟩
    rintro a ha b hb rfl
    rw [List.mem_singleton.mp hb] at ha
    exact contributionOf?_none hnone ha

/-- The loop over the months of a cycle, from any of them on. -/
theorem foldlM_ensureMonth (h : Issuable db memberId cycleId cycle row amount)
    (hdate : cycle.startDate ≤ entryDate) {offsets : List Nat}
    (hlt : ∀ offset ∈ offsets, offset < cycle.months) (clock : Int) (done : List Contribution) :
    ∃ db' rows added,
      offsets.foldlM (ensureMonth clock memberId cycleId cycle entryDate) (db, done) =
        .ok (db', done ++ rows) ∧
      Issuable db' memberId cycleId cycle row amount ∧
      db' = { db with contributions := db.contributions ++ added } ∧
      rows.map Contribution.competence =
        offsets.map (fun (offset : Nat) => monthOfIndex (monthIndex cycle.startDate + offset)) ∧
      ∀ c ∈ rows, contributionOf? db' memberId cycleId c.competence = some c := by
  induction offsets generalizing db done with
  | nil =>
    refine ⟨db, [], [], ?_, h, by rw [List.append_nil], rfl, by simp⟩
    rw [List.append_nil]
    rfl
  | cons offset offsets ih =>
    have hrest : ∀ x ∈ offsets, x < cycle.months := fun x hx => hlt x (List.mem_cons_of_mem _ hx)
    have hcreate := createContribution_eq h.toJoined hdate (hlt offset (List.mem_cons_self ..)) clock
    cases hfound : contributionOf? db memberId cycleId
        (monthOfIndex (monthIndex cycle.startDate + offset)) with
    | some existing =>
      obtain ⟨hmine, hcompetence⟩ := contributionOf?_mem hfound
      rw [hfound] at hcreate
      dsimp only at hcreate
      rw [if_pos (h.same existing hmine)] at hcreate
      obtain ⟨db', rows, added, hfold, hissuable, hdb', hrows, hall⟩ := ih h hrest (done ++ [existing])
      refine ⟨db', existing :: rows, added, ?_, hissuable, hdb', ?_, ?_⟩
      · rw [List.foldlM_cons, ensureMonth, hcreate, ok_bind]
        dsimp only [pure, Except.pure]
        rw [ok_bind, hfold, List.append_assoc]
        rfl
      · rw [List.map_cons, List.map_cons, hrows, hcompetence]
      · intro c hc
        rcases List.mem_cons.mp hc with rfl | hc
        · rw [hcompetence]
          exact contributionOf?_append hfound (by rw [hdb'])
        · exact hall c hc
    | none =>
      rw [hfound] at hcreate
      dsimp only at hcreate
      have hissued := h.issued hfound
      have hnew := contributionOf?_issued hfound amount
      generalize issuedContribution db memberId cycleId
        (monthOfIndex (monthIndex cycle.startDate + offset)) amount = new at hcreate hissued hnew
      obtain ⟨db', rows, added, hfold, hissuable, hdb', hrows, hall⟩ := ih hissued hrest (done ++ [new])
      refine ⟨db', new :: rows, new :: added, ?_, hissuable, ?_, ?_, ?_⟩
      · rw [List.foldlM_cons, ensureMonth, hcreate, ok_bind]
        dsimp only [pure, Except.pure]
        rw [ok_bind, hfold, List.append_assoc]
        rfl
      · rw [hdb']
        dsimp only
        rw [List.append_assoc]
        rfl
      · rw [List.map_cons, List.map_cons, hrows, (contributionOf?_mem hnew).2]
      · intro c hc
        rcases List.mem_cons.mp hc with rfl | hc
        · rw [(contributionOf?_mem hnew).2]
          exact contributionOf?_append hnew (by rw [hdb'])
        · exact hall c hc

/-- The loop over months whose contributions are all there. -/
theorem foldlM_ensureMonth_issued (h : Issuable db memberId cycleId cycle row amount)
    (hdate : cycle.startDate ≤ entryDate) {offsets : List Nat}
    (hlt : ∀ offset ∈ offsets, offset < cycle.months) {rows : List Contribution}
    (hrows : rows.map Contribution.competence =
      offsets.map (fun (offset : Nat) => monthOfIndex (monthIndex cycle.startDate + offset)))
    (hall : ∀ c ∈ rows, contributionOf? db memberId cycleId c.competence = some c)
    (done : List Contribution) :
    offsets.foldlM (ensureMonth clock memberId cycleId cycle entryDate) (db, done) =
      .ok (db, done ++ rows) := by
  induction offsets generalizing rows done with
  | nil =>
    obtain rfl : rows = [] := List.map_eq_nil_iff.mp hrows
    rw [List.append_nil]
    rfl
  | cons offset offsets ih =>
    cases rows with
    | nil => cases hrows
    | cons c rows =>
      rw [List.map_cons, List.map_cons, List.cons.injEq] at hrows
      obtain ⟨hc, hrows⟩ := hrows
      have hfound := hall c (List.mem_cons_self ..)
      have hcreate := createContribution_eq h.toJoined hdate (hlt offset (List.mem_cons_self ..)) clock
      rw [hc] at hfound
      rw [hfound] at hcreate
      dsimp only at hcreate
      rw [if_pos (h.same c (contributionOf?_mem hfound).1)] at hcreate
      rw [List.foldlM_cons, ensureMonth, hcreate, ok_bind]
      dsimp only [pure, Except.pure]
      rw [ok_bind, ih (fun x hx => hlt x (List.mem_cons_of_mem _ hx)) hrows
        (fun x hx => hall x (List.mem_cons_of_mem _ hx)), List.append_assoc]
      rfl

/-- The first days of the months of a cycle that have begun on a day. -/
def elapsedCompetences (cycle : Cycle) (entryDate : Int) : List Int :=
  (List.range (elapsedMonths cycle entryDate)).map
    (fun (offset : Nat) => monthOfIndex (monthIndex cycle.startDate + offset))

theorem elapsedMonths_le (cycle : Cycle) (entryDate : Int) : elapsedMonths cycle entryDate ≤ cycle.months := by
  unfold elapsedMonths
  omega

theorem ensureContributions_eq (h : Joined db memberId cycleId cycle row amount)
    (hdate : cycle.startDate ≤ entryDate) :
    ensureContributionsForEntry db clock memberId cycleId entryDate =
      (List.range (elapsedMonths cycle entryDate)).foldlM
        (ensureMonth clock memberId cycleId cycle entryDate) (db, []) := by
  unfold ensureContributionsForEntry
  rw [h.cycle?, h.found]
  simp only [orRefuse, ok_bind, refuseIf]
  rw [if_neg (by simp), if_neg (by omega)]
  simp only [ok_bind]
  rw [ensureActive_known h, ok_bind]

theorem range_lt (cycle : Cycle) (entryDate : Int) :
    ∀ offset ∈ List.range (elapsedMonths cycle entryDate), offset < cycle.months := fun _ hoffset =>
  (List.mem_range.mp hoffset).trans_le (elapsedMonths_le cycle entryDate)

/-- With authoritative amounts the contributions of the elapsed months are issued, each once, and
issuing them again changes nothing. -/
theorem ensureContributions_ok (h : Issuable db memberId cycleId cycle row amount)
    (hdate : cycle.startDate ≤ entryDate) (clock : Int) :
    ∃ db' rows added, ensureContributionsForEntry db clock memberId cycleId entryDate = .ok (db', rows) ∧
      Issuable db' memberId cycleId cycle row amount ∧
      db' = { db with contributions := db.contributions ++ added } ∧
      rows.map Contribution.competence = elapsedCompetences cycle entryDate ∧
      (∀ c ∈ rows, contributionOf? db' memberId cycleId c.competence = some c) ∧
      ∀ clock', ensureContributionsForEntry db' clock' memberId cycleId entryDate = .ok (db', rows) := by
  obtain ⟨db', rows, added, hfold, hissuable, hdb', hrows, hall⟩ :=
    foldlM_ensureMonth h hdate (range_lt cycle entryDate) clock []
  refine ⟨db', rows, added, ?_, hissuable, hdb', hrows, hall, fun clock' => ?_⟩
  · rw [ensureContributions_eq h.toJoined hdate, hfold, List.nil_append]
  · rw [ensureContributions_eq hissuable.toJoined hdate,
      foldlM_ensureMonth_issued hissuable hdate (range_lt cycle entryDate) hrows hall [], List.nil_append]

theorem Joined.issued {c : Contribution} (h : Joined db memberId cycleId cycle row amount) :
    Joined { db with contributions := db.contributions ++ [c] } memberId cycleId cycle row amount :=
  ⟨h.cycle?, h.member, h.account, h.found, h.active, h.authoritative⟩

/-- The loop stops at a contribution with another amount. -/
theorem amount_of_foldlM_ensureMonth (h : Joined db memberId cycleId cycle row amount)
    (hdate : cycle.startDate ≤ entryDate) {offsets : List Nat}
    (hlt : ∀ offset ∈ offsets, offset < cycle.months) {done : List Contribution}
    {result : Db × List Contribution}
    (hok : offsets.foldlM (ensureMonth clock memberId cycleId cycle entryDate) (db, done) = .ok result) :
    ∀ offset ∈ offsets, ∀ c, contributionOf? db memberId cycleId
      (monthOfIndex (monthIndex cycle.startDate + offset)) = some c → c.amount = amount := by
  induction offsets generalizing db done with
  | nil => simp
  | cons first offsets ih =>
    have hrest : ∀ x ∈ offsets, x < cycle.months := fun x hx => hlt x (List.mem_cons_of_mem _ hx)
    have hcreate := createContribution_eq h hdate (hlt first (List.mem_cons_self ..)) clock
    rw [List.foldlM_cons, bind_eq_ok] at hok
    obtain ⟨⟨next, soFar⟩, hmonth, hok⟩ := hok
    unfold ensureMonth at hmonth
    simp only [bind_eq_ok, pure_eq_ok, Prod.exists, Prod.mk.injEq] at hmonth
    obtain ⟨after, issued, hissue, rfl, rfl⟩ := hmonth
    rw [hissue] at hcreate
    intro offset hoffset c hc
    cases hfound : contributionOf? db memberId cycleId
        (monthOfIndex (monthIndex cycle.startDate + first)) with
    | some existing =>
      rw [hfound] at hcreate
      dsimp only at hcreate
      split at hcreate
      · rename_i hsame
        rw [Except.ok.injEq, Prod.mk.injEq] at hcreate
        obtain ⟨rfl, rfl⟩ := hcreate
        rcases List.mem_cons.mp hoffset with rfl | hoffset
        · rw [hfound] at hc
          exact Option.some.inj hc ▸ hsame
        · exact ih h hrest hok offset hoffset c hc
      · cases hcreate
    | none =>
      rw [hfound] at hcreate
      dsimp only at hcreate
      rw [Except.ok.injEq, Prod.mk.injEq] at hcreate
      obtain ⟨rfl, -⟩ := hcreate
      rcases List.mem_cons.mp hoffset with rfl | hoffset
      · rw [hfound] at hc
        cases hc
      · exact ih h.issued hrest hok offset hoffset c (contributionOf?_append hc rfl)

end Success

end Caixinha.Effects
