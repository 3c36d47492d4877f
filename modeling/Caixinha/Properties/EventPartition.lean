import Caixinha.Effects.EventPeriods
import Caixinha.Model.LedgerPeriods

/-! Adjacent periods share out what happened in them: no event and no ledger row is lost at a
boundary or counted on both sides of it. -/
namespace Caixinha.Properties.EventPartition

open Caixinha.Model hiding PaymentFinancialEvent paymentFinancialEvents eventLe
  validateReversalEffect holds
open Caixinha.Model.EventPeriods Caixinha.Effects.EventPeriods
open Caixinha.Library HalfOpen Fallible

/-- A whole is read exactly where both parts are, and then consists of them without overlap. -/
def SharesOut {ε α : Type} (whole first second : Except ε (List α)) : Prop :=
  ((∃ zs, whole = .ok zs) ↔ (∃ xs, first = .ok xs) ∧ ∃ ys, second = .ok ys) ∧
    ∀ xs ys zs, first = .ok xs → second = .ok ys → whole = .ok zs →
      zs.Perm (xs ++ ys) ∧ xs.Disjoint ys

section Events
variable (env : Env) (books : ReceiptBooks) (member : Option Nat)

/-- The events between two instants. -/
def eventsBetween (a b : Int) : Reading (List PaymentFinancialEvent) :=
  paymentFinancialEvents env books { start := some a, stop := some b, memberId := member }

def allEvents : Reading (List PaymentFinancialEvent) :=
  paymentFinancialEvents env books { memberId := member }

/-- The window of two UTC midnights: the dates they name bound the civil axis. -/
def dayWindow (a b : Int) : ResolvedWindow := ⟨some a, some b, some (utcDate a), some (utcDate b), false⟩

/-- Every row whose event a window accepts is fetched by the query of that window. -/
def PrefilterComplete : Prop :=
  ∀ (q : EventQuery) (w : ResolvedWindow), q.resolve = .ok w →
    (∀ p s identity, classifySettlementEvent env books p s = .ok identity →
      w.contains identity = .ok true →
      w.isCandidate settlementTemporalVersion s.confirmedAt (books.settlementColumns s.id) = true) ∧
    ∀ r identity, classifyReversalEvent env books r = .ok (some identity) →
      w.contains identity = .ok true →
      w.isCandidate reversalTemporalVersion r.reversedAt (books.reversalColumns r.id) = true

end Events

section Days
variable {a b c : Int}

private theorem utcDate_mono (h : a ≤ b) : utcDate a ≤ utcDate b :=
  Int.ediv_le_ediv (by decide) h

private theorem utcDate_strict (ha : atMidnight a) (h : a < b) (hb : atMidnight b) :
    utcDate a < utcDate b := by
  unfold atMidnight dayLength at ha hb
  unfold utcDate dayLength
  omega

private theorem resolve_days {member : Option Nat} (ha : atMidnight a) (hb : atMidnight b)
    (hab : a ≤ b) : EventQuery.resolve { start := some a, stop := some b, memberId := member } =
      .ok (dayWindow a b) := by
  have hdates := utcDate_mono hab
  have hinstants : ¬ Precedes (some b) (some a) := by simpa [Precedes] using hab
  have hcivil : ¬ Precedes (some (utcDate b)) (some (utcDate a)) := by simpa [Precedes] using hdates
  simp only [EventQuery.resolve, EventQuery.hasCivilBound, EventQuery.isPartial, hinstants, if_false,
    Option.isSome_none, Bool.false_eq_true, or_self, false_and, Option.any_some, ha, hb, not_true,
    decide_false, civilDateWindow, civilBound, fromBoundary, if_true, ok_bind, hcivil]
  rfl

private theorem dated_days (hab : a ≤ b) : Dated (dayWindow a b) where
  whole := rfl
  lower := rfl
  upper := rfl
  ordered := by simpa [Precedes, dayWindow] using utcDate_mono hab

private theorem inside_adjacent (hab : a ≤ b) (hbc : b ≤ c) (semantics : EventSemantics)
    (timestamp : Int) (date : Option Int) :
    Inside (dayWindow a c) semantics timestamp date ↔
      Inside (dayWindow a b) semantics timestamp date ∨ Inside (dayWindow b c) semantics timestamp date := by
  cases semantics with
  | LEGACY => exact within_adjacent hab hbc
  | TEMPORAL =>
    cases date with
    | none => simp [Inside]
    | some day =>
      simpa [Inside, dayWindow] using within_adjacent (x := day) (utcDate_mono hab) (utcDate_mono hbc)

private theorem inside_one (semantics : EventSemantics) (timestamp : Int) (date : Option Int)
    (h : Inside (dayWindow a b) semantics timestamp date) :
    ¬ Inside (dayWindow b c) semantics timestamp date := by
  cases semantics with
  | LEGACY => exact not_within_both h
  | TEMPORAL =>
    rintro ⟨day, hday, hlate⟩
    obtain ⟨other, hother, hearly⟩ := h
    obtain rfl := Option.some.inj (hday.symm.trans hother)
    exact not_within_both hearly hlate

/-- The prefilter of adjacent periods fetches together what that of their union fetches. -/
private theorem isCandidate_adjacent (hab : a ≤ b) (hbc : b ≤ c) (version : String) (timestamp : Int)
    (columns : ReceiptColumns) :
    (dayWindow a c).isCandidate version timestamp columns = true ↔
      (dayWindow a b).isCandidate version timestamp columns = true ∨
        (dayWindow b c).isCandidate version timestamp columns = true := by
  have hcandidate : ∀ x y, (dayWindow x y).isCandidate version timestamp columns = true ↔
      Inside (dayWindow x y) .LEGACY timestamp columns.financialDate ∨
        Inside (dayWindow x y) .TEMPORAL timestamp columns.financialDate := by
    intro x y
    cases hdate : columns.financialDate <;>
      simp [ResolvedWindow.isCandidate, dayWindow, Inside, hdate]
  rw [hcandidate, hcandidate, hcandidate, inside_adjacent hab hbc, inside_adjacent hab hbc]
  tauto

end Days

section Sharing
variable {env : Env} {books : ReceiptBooks} {member : Option Nat} {a b c : Int}

private theorem reached_adjacent {q first second : EventQuery} (hfirst : first.memberId = q.memberId)
    (hsecond : second.memberId = q.memberId) (hab : a ≤ b) (hbc : b ≤ c) (s : PaymentSettlement) :
    Reached books q (dayWindow a c) s ↔
      Reached books first (dayWindow a b) s ∨ Reached books second (dayWindow b c) s := by
  have hmember : ∀ {other : EventQuery}, other.memberId = q.memberId → ofMember other = ofMember q := by
    intro other h
    funext t
    rw [ofMember, ofMember, h]
  have hof : ∀ {other : EventQuery}, other.memberId = q.memberId →
      settlementOf books other = settlementOf books q := by
    intro other h
    funext r
    rw [Effects.EventPeriods.settlementOf, Effects.EventPeriods.settlementOf, hmember h]
  simp only [Reached, candidateSettlements, candidateReversals, List.mem_filter, Bool.and_eq_true,
    isCandidate_adjacent hab hbc, hof hfirst, hof hsecond, hmember hfirst, hmember hsecond]
  constructor
  · rintro (⟨hs, hm, h | h⟩ | ⟨r, ⟨hr, h | h⟩, hset⟩)
    · exact .inl (.inl ⟨hs, hm, h⟩)
    · exact .inr (.inl ⟨hs, hm, h⟩)
    · exact .inl (.inr ⟨r, ⟨hr, h⟩, hset⟩)
    · exact .inr (.inr ⟨r, ⟨hr, h⟩, hset⟩)
  · rintro ((⟨hs, hm, h⟩ | ⟨r, ⟨hr, h⟩, hset⟩) | (⟨hs, hm, h⟩ | ⟨r, ⟨hr, h⟩, hset⟩))
    · exact .inl ⟨hs, hm, .inl h⟩
    · exact .inr ⟨r, ⟨hr, .inl h⟩, hset⟩
    · exact .inl ⟨hs, hm, .inr h⟩
    · exact .inr ⟨r, ⟨hr, .inr h⟩, hset⟩

private theorem bookEvents_of_member {q other : EventQuery} (h : other.memberId = q.memberId) :
    bookEvents env books other = bookEvents env books q := by
  have hmember : ofMember other = ofMember q := by
    funext t
    rw [ofMember, ofMember, h]
  have hof : settlementOf books other = settlementOf books q := by
    funext r
    rw [Effects.EventPeriods.settlementOf, Effects.EventPeriods.settlementOf, hmember]
  have horiginals : originalsOf env books other = originalsOf env books q := by
    funext s
    rw [originalsOf, originalsOf, hmember]
  have hreversals : reversalsOf env books other = reversalsOf env books q := by
    funext r
    rw [reversalsOf, reversalsOf, hof]
  rw [bookEvents, bookEvents, horiginals, hreversals]

private theorem eventsBetween_perm (ha : atMidnight a) (hb : atMidnight b) (hab : a ≤ b)
    {events : List PaymentFinancialEvent} (h : eventsBetween env books member a b = .ok events) :
    events.Perm ((bookEvents env books { memberId := member }).filter (holds (dayWindow a b))) := by
  have hperm := events_perm (resolve_days ha hb hab) (dated_days hab) h
  have hbook : bookEvents env books { start := some a, stop := some b, memberId := member } =
      bookEvents env books { memberId := member } := bookEvents_of_member rfl
  rwa [hbook] at hperm

/-- The events of two adjacent periods of whole UTC days. -/
private theorem events_shared (ha : atMidnight a) (hb : atMidnight b) (hc : atMidnight c)
    (hab : a ≤ b) (hbc : b ≤ c) :
    SharesOut (eventsBetween env books member a c) (eventsBetween env books member a b)
      (eventsBetween env books member b c) := by
  have hac := le_trans hab hbc
  refine ⟨?_, fun xs ys zs hxs hys hzs => ?_⟩
  · refine (returns_iff (resolve_days ha hc hac) (dated_days hac)).trans ?_
    refine Iff.trans ?_ (and_congr (returns_iff (resolve_days ha hb hab) (dated_days hab))
      (returns_iff (resolve_days hb hc hbc) (dated_days hbc))).symm
    have hreached : ∀ s, Reached books { start := some a, stop := some c, memberId := member }
        (dayWindow a c) s ↔
        Reached books { start := some a, stop := some b, memberId := member } (dayWindow a b) s ∨
          Reached books { start := some b, stop := some c, memberId := member } (dayWindow b c) s :=
      reached_adjacent rfl rfl hab hbc
    simp only [hreached, candidateReversals, List.mem_filter, isCandidate_adjacent hab hbc]
    constructor
    · rintro ⟨hr, hs⟩
      exact ⟨⟨fun r h => hr r ⟨h.1, .inl h.2⟩, fun s h => hs s (.inl h)⟩,
        fun r h => hr r ⟨h.1, .inr h.2⟩, fun s h => hs s (.inr h)⟩
    · rintro ⟨⟨hr, hs⟩, hr', hs'⟩
      exact ⟨fun r h => h.2.elim (fun hc => hr r ⟨h.1, hc⟩) (fun hc => hr' r ⟨h.1, hc⟩),
        fun s h => h.elim (hs s) (hs' s)⟩
  · have hx := eventsBetween_perm ha hb hab hxs
    have hy := eventsBetween_perm hb hc hbc hys
    have hz := eventsBetween_perm ha hc hac hzs
    refine ⟨?_, fun e hex hey => ?_⟩
    · refine hz.trans ((filter_perm_append _ (fun e => ?_) fun e h => ?_).trans (hx.append hy).symm)
      · rw [holds, holds, holds, Bool.eq_iff_iff, Bool.or_eq_true, decide_eq_true_eq,
          decide_eq_true_eq, decide_eq_true_eq]
        exact inside_adjacent hab hbc _ _ _
      · rw [holds, decide_eq_true_eq] at h ⊢
        exact inside_one _ _ _ h
    · have hfirst := (List.mem_filter.mp (hx.subset hex)).2
      have hsecond := (List.mem_filter.mp (hy.subset hey)).2
      rw [holds, decide_eq_true_eq] at hfirst hsecond
      exact inside_one _ _ _ hfirst hsecond

/-- The events of a period are those of the unbounded reading that stand in it. -/
private theorem events_of_all (ha : atMidnight a) (hb : atMidnight b) (hab : a ≤ b)
    {events all : List PaymentFinancialEvent} (h : eventsBetween env books member a b = .ok events)
    (hall : allEvents env books member = .ok all) :
    events.Perm (all.filter (holds (dayWindow a b))) := by
  have hopen : Dated ⟨none, none, none, none, false⟩ := ⟨rfl, rfl, rfl, by simp [Precedes]⟩
  have hperm := (events_perm (w := ⟨none, none, none, none, false⟩) rfl hopen hall).filter
    (holds (dayWindow a b))
  have hinside : ∀ e, holds (dayWindow a b) e = true → holds ⟨none, none, none, none, false⟩ e = true := by
    intro e he
    rw [holds, decide_eq_true_eq] at he ⊢
    cases hsemantics : e.semantics with
    | LEGACY => exact within_none _
    | TEMPORAL =>
      rw [hsemantics] at he
      obtain ⟨day, hday, -⟩ := he
      exact ⟨day, hday, within_none _⟩
  rw [List.filter_filter] at hperm
  refine (eventsBetween_perm ha hb hab h).trans (List.Perm.trans ?_ hperm.symm)
  rw [List.filter_congr fun e _ => (by
    cases he : holds (dayWindow a b) e with
    | false => rfl
    | true => simp [hinside e he] :
      holds (dayWindow a b) e = (holds (dayWindow a b) e && holds ⟨none, none, none, none, false⟩ e))]

private theorem prefilter_complete : PrefilterComplete env books := by
  intro q w hq
  constructor
  · intro p s identity h hin
    have hplaces := places_of_settlement h
    exact isCandidate_of_contains hq hplaces.timestamp hplaces.date hplaces.dated hin
  · intro r identity h hin
    have hplaces := places_of_reversal h
    exact isCandidate_of_contains hq hplaces.timestamp hplaces.date hplaces.dated hin

end Sharing

section Ledger
variable (sha256 : String → String) (rows : List StoredEntry) (filters : LedgerPeriod)

/-- The ledger between two instants and between the dates they name, under the given filters. -/
def ledgerBetween (a b : Int) : Tx (List StoredEntry) :=
  ledgerEntriesForFinancialPeriod sha256 rows
    { filters with
      start := a, stop := b, financialStart := utcDate a, financialEndExclusive := utcDate b }

end Ledger

section Ledger
variable {sha256 : String → String} {rows : List StoredEntry} {filters q : LedgerPeriod} {a b c : Int}

/-- A row whose date and hash version fit each other. -/
private def WellShaped (row : StoredEntry) : Prop :=
  (row.hashVersion = none ∧ row.financialDate = none) ∨
    (row.hashVersion = some 2 ∧ row.financialDate.isSome)

private def stands (q : LedgerPeriod) (row : StoredEntry) : Bool :=
  match row.financialDate with
  | none => decide (Within (some q.start) (some q.stop) row.createdAt.val)
  | some day => decide (Within (some q.financialStart) (some q.financialEndExclusive) day.val)

private theorem places_eq_ok {row : StoredEntry} {inside : Bool} :
    q.places row = .ok inside ↔ WellShaped row ∧ stands q row = inside := by
  unfold LedgerPeriod.places WellShaped stands
  split
  · next hversion hdate => simp [hversion, hdate]
  · next hversion hdate => simp [hversion, hdate]
  · next hversion hdate => simp [hversion, hdate]
  · next hversion hdate => simp [hversion, hdate]
  · next version hversion htwo hother =>
    have hne : version ≠ 2 := by
      rintro rfl
      cases hdate : row.financialDate with
      | none => exact hother hdate rfl
      | some day => exact htwo day hdate rfl
    simp [hversion, hne]

private theorem select_run {out selected : List StoredEntry} :
    rows.foldlM q.select selected = .ok out ↔
      (∀ row ∈ rows, q.asks row = true → WellShaped row) ∧
        selected ++ rows.filter (fun row => q.asks row && stands q row) = out := by
  induction rows generalizing selected with
  | nil => simp [pure_eq_ok]
  | cons row rows ih =>
    rw [List.foldlM_cons, LedgerPeriod.select]
    cases hasks : q.asks row with
    | false => simp [hasks, ok_bind, ih]
    | true =>
      cases hplace : q.places row with
      | error e =>
        have hshape : ¬ WellShaped row := by
          intro h
          have hread : q.places row = .ok (stands q row) := places_eq_ok.mpr ⟨h, rfl⟩
          rw [hplace] at hread
          cases hread
        simp [hasks, hshape, bind, Except.bind]
      | ok inside =>
        obtain ⟨hshape, hstands⟩ := places_eq_ok.mp hplace
        cases inside with
        | false =>
          simp only [if_true, ok_bind, Bool.false_eq_true, if_false, pure_bind, ih, List.forall_mem_cons,
            hasks, hshape, hstands, Bool.true_and, List.filter_cons, forall_const, true_and]
        | true =>
          simp only [if_true, ok_bind, pure_bind, ih, List.forall_mem_cons, hasks, hshape, hstands,
            Bool.true_and, List.filter_cons, forall_const, true_and, List.append_assoc,
            List.singleton_append]

/-- What a call returns: the asked rows that stand in its period, in the order of their ids. -/
private theorem ledgerBetween_eq_ok (ha : atMidnight a) (hb : atMidnight b) (hab : a < b)
    {out : List StoredEntry} : ledgerBetween sha256 rows filters a b = .ok out ↔
      (ledgerEntriesForFinancialPeriod sha256 rows
          { filters with start := 0, stop := 0, financialStart := 0, financialEndExclusive := 1 }).isOk ∧
        (inIdOrder rows).filter (fun row => filters.asks row && stands { filters with
          start := a, stop := b, financialStart := utcDate a, financialEndExclusive := utcDate b } row) =
        out := by
  have hdates : ¬ utcDate b ≤ utcDate a := not_le.mpr (utcDate_strict ha hab hb)
  have hok : ∀ {x : Tx (List StoredEntry)}, x.isOk = true ↔ ∃ ys, x = .ok ys := by
    intro x
    cases x <;> simp [Except.isOk, Except.toBool]
  simp only [ledgerBetween, ledgerEntriesForFinancialPeriod, hok, bind_eq_ok, refuseIf_eq_ok,
    exists_and_left, exists_const, select_run]
  constructor
  · rintro ⟨-, hdirection, hchain, hshape, rfl⟩
    exact ⟨⟨by decide, hdirection, hchain, hshape, _, rfl⟩, rfl⟩
  · rintro ⟨⟨-, hdirection, hchain, hshape, -⟩, rfl⟩
    exact ⟨hdates, hdirection, hchain, hshape, rfl⟩

private theorem ledger_shared (ha : atMidnight a) (hb : atMidnight b) (hc : atMidnight c)
    (hab : a < b) (hbc : b < c) :
    SharesOut (ledgerBetween sha256 rows filters a c) (ledgerBetween sha256 rows filters a b)
      (ledgerBetween sha256 rows filters b c) := by
  have hac := lt_trans hab hbc
  refine ⟨?_, fun xs ys zs hxs hys hzs => ?_⟩
  · simp only [ledgerBetween_eq_ok ha hc hac, ledgerBetween_eq_ok ha hb hab,
      ledgerBetween_eq_ok hb hc hbc, exists_and_left, exists_eq', and_true, and_self]
  · obtain ⟨-, rfl⟩ := (ledgerBetween_eq_ok ha hb hab).mp hxs
    obtain ⟨-, rfl⟩ := (ledgerBetween_eq_ok hb hc hbc).mp hys
    obtain ⟨-, rfl⟩ := (ledgerBetween_eq_ok ha hc hac).mp hzs
    have hsplit : ∀ row : StoredEntry,
        stands { filters with
          start := a, stop := c, financialStart := utcDate a, financialEndExclusive := utcDate c } row =
        (stands { filters with
          start := a, stop := b, financialStart := utcDate a, financialEndExclusive := utcDate b } row ||
        stands { filters with
          start := b, stop := c, financialStart := utcDate b, financialEndExclusive := utcDate c } row) := by
      intro row
      rw [Bool.eq_iff_iff, Bool.or_eq_true]
      unfold stands
      cases row.financialDate with
      | none => simpa using within_adjacent (le_of_lt hab) (le_of_lt hbc)
      | some day =>
        simpa using within_adjacent (utcDate_mono (le_of_lt hab)) (utcDate_mono (le_of_lt hbc))
    have hone : ∀ row : StoredEntry,
        stands { filters with
          start := a, stop := b, financialStart := utcDate a, financialEndExclusive := utcDate b } row = true →
        ¬ stands { filters with
          start := b, stop := c, financialStart := utcDate b, financialEndExclusive := utcDate c } row = true := by
      intro row
      unfold stands
      cases row.financialDate with
      | none =>
        rw [decide_eq_true_eq, decide_eq_true_eq]
        exact not_within_both
      | some day =>
        rw [decide_eq_true_eq, decide_eq_true_eq]
        exact not_within_both
    refine ⟨filter_perm_append _ (fun row => ?_) fun row h => ?_, fun row hx hy => ?_⟩
    · rw [hsplit, Bool.and_or_distrib_left]
    · simp only [Bool.and_eq_true] at h ⊢
      exact fun hsecond => hone row h.2 hsecond.2
    · simp only [List.mem_filter, Bool.and_eq_true] at hx hy
      exact hone row hx.2.2 hy.2.2

end Ledger

/-- Of three UTC midnights in order, the readings from the first to the second and from the
second to the third share out that from the first to the third: the payment events for any
member, and the ledger rows where the bounds increase. -/
theorem periods_share_out (env : Env) (books : ReceiptBooks) (member : Option Nat)
    (sha256 : String → String) (rows : List StoredEntry) (filters : LedgerPeriod) {a b c : Int}
    (ha : atMidnight a) (hb : atMidnight b) (hc : atMidnight c) (hab : a ≤ b) (hbc : b ≤ c) :
    SharesOut (eventsBetween env books member a c) (eventsBetween env books member a b)
        (eventsBetween env books member b c) ∧
      (∀ events all, eventsBetween env books member a c = .ok events →
        allEvents env books member = .ok all → events.Perm (all.filter (holds (dayWindow a c)))) ∧
      PrefilterComplete env books ∧
      (a < b → b < c → SharesOut (ledgerBetween sha256 rows filters a c)
        (ledgerBetween sha256 rows filters a b) (ledgerBetween sha256 rows filters b c)) :=
  ⟨events_shared ha hb hc hab hbc,
    fun _ _ h hall => events_of_all ha hc (le_trans hab hbc) h hall,
    prefilter_complete, ledger_shared ha hb hc⟩

section Sample

private def sampleEnv : Env := ⟨id, none⟩

private def sampleDb : Db where
  members := [{ id := 1 }]
  contributions := [
    { id := 1, memberId := 1, competence := 0, amount := 100, status := .PAID, paymentId := none
      dueDate := none, paidAmount := none, paidAt := none, cancelledAt := none
      cancellationReason := none }]
  payments := [
    { id := 1, provider := "mp", providerOrderId := none, providerPaymentId := none, amount := 100
      status := "approved", externalReference := none, pixTxid := none, endToEndId := none
      providerStatusDetail := none, confirmedAt := none, expiresAt := none, amountReceived := none
      ledgerPostedAt := none, reference := some (.contribution 1), attemptStatus := none
      calculatedForDate := none, financialSnapshotJson := none, snapshotHash := none
      reconciliationStatus := none }]
  settlements := [
    { id := 1, paymentId := 1, memberId := 1, obligation := .contribution 1
      amounts := ⟨100, 100, 100, 0, 0, 0⟩, components := none, obligationStatusBefore := .OPEN
      obligationStatusAfter := .PAID, confirmedAt := 86400000000, confirmationSource := "WEBHOOK"
      webhookEventId := none, receiptNumber := "", receiptVersion := .v1, receiptSnapshotJson := ""
      receiptHash := "", loanEvidence := none, agreementEvidence := none }]

private def sampleBooks : ReceiptBooks where
  db := sampleDb
  settlementColumns _ := ⟨"v1", none⟩
  reversalColumns _ := ⟨"v1", none⟩
  settlementsKeyed := by decide

private def sampleFilters : LedgerPeriod := ⟨0, 0, 0, 0, none, none, []⟩

private theorem firstDay_inRange : Calendar.InstantInRange 3600000000 := by decide

private theorem lateHour_inRange : Calendar.InstantInRange 7200000000 := by decide

private theorem secondDay_inRange : Calendar.DayInRange 1 := by decide

private def sampleDigest (_ : String) : String := "digest"

/-- A row of the first day, and one posted on it with the civil date of the second. -/
private def sampleRows : List StoredEntry :=
  buildLedger sampleDigest []
    [.post ⟨3600000000, firstDay_inRange⟩
      { account := "CAIXINHA", direction := "CREDIT", amount := ⟨15000, -2⟩
        referenceType := "CONTRIBUTION_PAYMENT", referenceId := "1" },
      .post ⟨7200000000, lateHour_inRange⟩
        { account := "CAIXINHA", direction := "DEBIT", amount := ⟨205, -1⟩, referenceType := "EXPENSE"
          referenceId := "1", financialDate := some ⟨1, secondDay_inRange⟩ }]

private def readIds (read : Tx (List StoredEntry)) : Option (List Nat) :=
  read.toOption.map fun rows => rows.map StoredEntry.id

/-- Two days, a settlement at the midnight between them, and a ledger row of each. -/
theorem sample_days_share_out :
    SharesOut (eventsBetween sampleEnv sampleBooks none 0 172800000000)
        (eventsBetween sampleEnv sampleBooks none 0 86400000000)
        (eventsBetween sampleEnv sampleBooks none 86400000000 172800000000) ∧
      (∀ events all, eventsBetween sampleEnv sampleBooks none 0 172800000000 = .ok events →
        allEvents sampleEnv sampleBooks none = .ok all →
          events.Perm (all.filter (holds (dayWindow 0 172800000000)))) ∧
      PrefilterComplete sampleEnv sampleBooks ∧
      SharesOut (ledgerBetween sampleDigest sampleRows sampleFilters 0 172800000000)
        (ledgerBetween sampleDigest sampleRows sampleFilters 0 86400000000)
        (ledgerBetween sampleDigest sampleRows sampleFilters 86400000000 172800000000) ∧
      readIds (ledgerBetween sampleDigest sampleRows sampleFilters 0 86400000000) = some [1] ∧
      readIds (ledgerBetween sampleDigest sampleRows sampleFilters 86400000000 172800000000) = some [2] := by
  obtain ⟨hevents, hall, hprefilter, hledger⟩ := @periods_share_out sampleEnv sampleBooks none sampleDigest
    sampleRows sampleFilters 0 86400000000 172800000000 (by decide) (by decide) (by decide) (by decide) (by decide)
  exact ⟨hevents, hall, hprefilter, hledger (by decide) (by decide), by decide, by decide⟩

/-- An empty day is refused by the ledger reader, so it shares nothing out. -/
theorem empty_period_refused :
    ¬ SharesOut (ledgerBetween id [] sampleFilters 0 86400000000)
      (ledgerBetween id [] sampleFilters 0 0) (ledgerBetween id [] sampleFilters 0 86400000000) := by
  rintro ⟨hreads, -⟩
  obtain ⟨⟨xs, hxs⟩, -⟩ := hreads.mp ⟨[], rfl⟩
  cases hxs

end Sample

end Caixinha.Properties.EventPartition
