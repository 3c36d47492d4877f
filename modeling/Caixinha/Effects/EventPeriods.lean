import Caixinha.Model.EventPeriods

/-! What the reader of a period returns: the events of the whole book that stand inside the
resolved window, whatever rows the prefilter fetched on the way. -/
namespace Caixinha.Effects.EventPeriods

open Caixinha.Model hiding PaymentFinancialEvent paymentFinancialEvents eventLe validateReversalEffect
open Caixinha.Model.EventPeriods Caixinha.Library Table HalfOpen Fallible

section Window

/-- A window without sub-day ambiguity: every instant bound comes with its civil date. -/
structure Dated (w : ResolvedWindow) : Prop where
  whole : w.partialWindow = false
  lower : w.start.isSome = w.financialStart.isSome
  upper : w.stop.isSome = w.financialEndExclusive.isSome
  ordered : ¬ Precedes w.financialEndExclusive w.financialStart

/-- Where an instant or a civil date stands against the window. -/
def Inside (w : ResolvedWindow) (semantics : EventSemantics) (timestamp : Int)
    (financialDate : Option Int) : Prop :=
  match semantics with
  | .LEGACY => Within w.start w.stop timestamp
  | .TEMPORAL => ∃ day ∈ financialDate, Within w.financialStart w.financialEndExclusive day

instance (w : ResolvedWindow) (semantics : EventSemantics) (timestamp : Int)
    (financialDate : Option Int) : Decidable (Inside w semantics timestamp financialDate) := by
  unfold Inside
  cases semantics <;> infer_instance

private theorem civilBound_eq_ok {explicit instant bound : Option Int}
    (h : civilBound explicit instant = .ok bound) :
    bound.isSome = (explicit.isSome || instant.isSome) := by
  cases explicit with
  | some day => cases h; rfl
  | none =>
    cases instant with
    | none => cases h; rfl
    | some t =>
      simp only [civilBound, fromBoundary] at h
      split at h <;> cases h
      rfl

private theorem civilDateWindow_eq_ok {start stop lo hi lower upper : Option Int}
    (h : civilDateWindow start stop lo hi = .ok (lower, upper)) :
    civilBound lo start = .ok lower ∧ civilBound hi stop = .ok upper ∧ ¬ Precedes upper lower := by
  simp only [civilDateWindow, bind_eq_ok] at h
  obtain ⟨l, hl, u, hu, h⟩ := h
  split at h
  · cases h
  · next hordered =>
    cases h
    exact ⟨hl, hu, hordered⟩

/-- What the checks at the head of the reader leave. -/
theorem resolve_eq_ok {q : EventQuery} {w : ResolvedWindow} (h : q.resolve = .ok w) :
    w.start = q.start ∧ w.stop = q.stop ∧
      ((w.partialWindow = true ∧ q.isPartial ∧ w.financialStart = none ∧
        w.financialEndExclusive = none) ∨ Dated w) := by
  simp only [EventQuery.resolve] at h
  split at h
  · cases h
  split at h
  · cases h
  next hbounds =>
  split at h
  · next hsubday =>
    cases h
    exact ⟨rfl, rfl, .inl ⟨rfl, hsubday, rfl, rfl⟩⟩
  · simp only [bind_eq_ok, Prod.exists] at h
    obtain ⟨lower, upper, hwindow, h⟩ := h
    cases h
    obtain ⟨hlower, hupper, hordered⟩ := civilDateWindow_eq_ok hwindow
    have hl := civilBound_eq_ok hlower
    have hu := civilBound_eq_ok hupper
    -- an explicit civil bound is only accepted beside both instants
    have hboth : q.hasCivilBound → q.start.isSome ∧ q.stop.isSome := by
      intro hcivil
      simp only [hcivil, true_and, not_or] at hbounds
      exact ⟨Option.isSome_iff_ne_none.mpr hbounds.1, Option.isSome_iff_ne_none.mpr hbounds.2⟩
    refine ⟨rfl, rfl, .inr ⟨rfl, ?_, ?_, hordered⟩⟩
    · dsimp only
      rw [hl]
      cases hcivil : q.financialStart.isSome with
      | false => rfl
      | true => exact (hboth (.inl hcivil)).1
    · dsimp only
      rw [hu]
      cases hcivil : q.financialEndExclusive.isSome with
      | false => rfl
      | true => exact (hboth (.inr hcivil)).2

/-- In a dated window the classifier's filter is the position of the event. -/
theorem contains_of_dated {w : ResolvedWindow} (hw : Dated w) {identity : PaymentEventPeriodIdentity}
    (hdate : identity.semantics = .TEMPORAL → identity.financialDate.isSome) :
    w.contains identity =
      .ok (decide (Inside w identity.semantics identity.timestampUtc identity.financialDate)) := by
  have hbound : ∀ {explicit instant : Option Int}, instant.isSome = explicit.isSome →
      civilBound explicit instant = .ok explicit := by
    intro explicit instant h
    cases explicit with
    | some day => rfl
    | none =>
      rw [Option.isSome_none, Option.isSome_eq_false_iff, Option.isNone_iff_eq_none] at h
      rw [h]
      rfl
  cases hsemantics : identity.semantics with
  | LEGACY => simp only [ResolvedWindow.contains, eventIsInPeriod, hsemantics, Inside]
  | TEMPORAL =>
    obtain ⟨day, hday⟩ := Option.isSome_iff_exists.mp (hdate hsemantics)
    simp only [ResolvedWindow.contains, eventIsInPeriod, hsemantics, hday, civilDateWindow,
      hbound hw.lower, hbound hw.upper, ok_bind, if_neg hw.ordered, Inside, Option.mem_def,
      Option.some.injEq, exists_eq_left']
    rfl

/-- A sub-day window never accepts a temporal event. -/
theorem contains_of_partial {q : EventQuery} {w : ResolvedWindow} (hq : q.isPartial)
    (hstart : w.start = q.start) (hstop : w.stop = q.stop) (hlo : w.financialStart = none)
    (hhi : w.financialEndExclusive = none) {identity : PaymentEventPeriodIdentity}
    (h : w.contains identity = .ok true) :
    identity.semantics = .LEGACY ∧ Within w.start w.stop identity.timestampUtc := by
  cases hsemantics : identity.semantics with
  | LEGACY =>
    simp only [ResolvedWindow.contains, eventIsInPeriod, hsemantics, Except.ok.injEq,
      decide_eq_true_eq] at h
    exact ⟨rfl, h⟩
  | TEMPORAL =>
    exfalso
    cases hday : identity.financialDate with
    | none => simp [ResolvedWindow.contains, eventIsInPeriod, hsemantics, hday] at h
    | some day =>
      simp only [ResolvedWindow.contains, eventIsInPeriod, hsemantics, hday, bind_eq_ok,
        Prod.exists] at h
      obtain ⟨lower, upper, hwindow, -⟩ := h
      obtain ⟨hlower, hupper, -⟩ := civilDateWindow_eq_ok hwindow
      rw [hlo, hstart] at hlower
      rw [hhi, hstop] at hupper
      have hmidnight : ∀ {instant bound : Option Int}, civilBound none instant = .ok bound →
          instant.any (fun t => ¬ atMidnight t) = false := by
        intro instant bound h
        cases instant with
        | none => rfl
        | some t =>
          simp only [civilBound, fromBoundary] at h
          split at h
          · next ht => simp [ht]
          · cases h
      rcases hq.1 with h | h
      · rw [hmidnight hlower] at h; cases h
      · rw [hmidnight hupper] at h; cases h

/-- The prefilter fetches every row whose event the window accepts. -/
theorem isCandidate_of_contains {q : EventQuery} {w : ResolvedWindow} (hq : q.resolve = .ok w)
    {version : String} {timestamp : Int} {columns : ReceiptColumns}
    {identity : PaymentEventPeriodIdentity} (htime : identity.timestampUtc = timestamp)
    (hdate : identity.financialDate = columns.financialDate)
    (hsound : identity.semantics = .TEMPORAL → identity.financialDate.isSome)
    (h : w.contains identity = .ok true) : w.isCandidate version timestamp columns = true := by
  obtain ⟨hstart, hstop, ⟨-, hask, hlo, hhi⟩ | hw⟩ := resolve_eq_ok hq
  · obtain ⟨-, hin⟩ := contains_of_partial hask hstart hstop hlo hhi h
    have hbounded : w.start.isSome ∨ w.stop.isSome := by
      rw [hstart, hstop]
      rcases hask.1 with h | h
      · exact .inl (by cases hs : q.start <;> simp_all)
      · exact .inr (by cases hs : q.stop <;> simp_all)
    rw [htime] at hin
    simp [ResolvedWindow.isCandidate, hbounded, hin]
  · rw [contains_of_dated hw hsound, Except.ok.injEq, decide_eq_true_eq] at h
    rw [htime, hdate] at h
    by_cases hbounded : w.start.isSome ∨ w.stop.isSome
    · have hcivil : w.financialStart.isSome ∨ w.financialEndExclusive.isSome := by
        rw [← hw.lower, ← hw.upper]
        exact hbounded
      cases hsemantics : identity.semantics with
      | LEGACY =>
        rw [hsemantics] at h
        have hin : Within w.start w.stop timestamp := h
        simp [ResolvedWindow.isCandidate, hbounded, hin]
      | TEMPORAL =>
        rw [hsemantics] at h
        obtain ⟨day, hday, hin⟩ := h
        rw [Option.mem_def] at hday
        simp [ResolvedWindow.isCandidate, hcivil, hday, hin]
    · have hcivil : ¬ (w.financialStart.isSome ∨ w.financialEndExclusive.isSome) := by
        rw [← hw.lower, ← hw.upper]
        exact hbounded
      simp only [ResolvedWindow.isCandidate, hbounded, hcivil, hw.whole, decide_false,
        Bool.not_false, Bool.and_true, Bool.true_or]

end Window

section Identities
variable {env : Env} {books : ReceiptBooks}

theorem unlessUnsupported_eq_some {α : Type} {x : Reading α} {a : α}
    (h : unlessUnsupported x = .ok (some a)) : x = .ok a := by
  cases x with
  | ok b =>
    rw [unlessUnsupported, Except.ok.injEq, Option.some.injEq] at h
    rw [h]
  | error e =>
    cases e with
    | unsupportedVersion version => simp [unlessUnsupported] at h
    | evidence message => cases h
    | valueError message => cases h

@[simp] private theorem raiseIf_eq_ok {c : Prop} [Decidable c] {message : String} {u : Unit} :
    raiseIf c message = .ok u ↔ ¬ c := by
  unfold raiseIf
  split <;> simp_all

/-- An identity carries the columns of its row, and a temporal one its civil date. -/
structure Places (timestamp : Int) (columns : ReceiptColumns)
    (identity : PaymentEventPeriodIdentity) : Prop where
  timestamp : identity.timestampUtc = timestamp
  date : identity.financialDate = columns.financialDate
  dated : identity.semantics = .TEMPORAL → identity.financialDate.isSome

theorem places_of_settlement {p : Payment} {s : PaymentSettlement}
    {identity : PaymentEventPeriodIdentity} (h : classifySettlementEvent env books p s = .ok identity) :
    Places s.confirmedAt (books.settlementColumns s.id) identity := by
  simp only [classifySettlementEvent, bind_eq_ok, raiseIf_eq_ok] at h
  obtain ⟨-, -, h⟩ := h
  split at h
  · simp only [bind_eq_ok, raiseIf_eq_ok, pure_eq_ok] at h
    obtain ⟨-, hdate, -, -, rfl⟩ := h
    exact ⟨rfl, rfl, fun _ => Option.isSome_iff_ne_none.mpr hdate⟩
  · split at h
    · cases h
    · simp only [bind_eq_ok, raiseIf_eq_ok, pure_eq_ok] at h
      obtain ⟨-, -, rfl⟩ := h
      exact ⟨rfl, rfl, fun h => by cases h⟩

theorem places_of_reversal {r : PaymentReversal} {identity : PaymentEventPeriodIdentity}
    (h : classifyReversalEvent env books r = .ok (some identity)) :
    Places r.reversedAt (books.reversalColumns r.id) identity := by
  simp only [classifyReversalEvent] at h
  split at h
  · cases h
  split at h
  · simp only [bind_eq_ok, raiseIf_eq_ok] at h
    obtain ⟨-, hdate, -, -, h⟩ := h
    split at h
    · cases h
    · rw [pure_eq_ok, Option.some.injEq] at h
      subst h
      exact ⟨rfl, rfl, fun _ => Option.isSome_iff_ne_none.mpr hdate⟩
  · simp only [bind_eq_ok, raiseIf_eq_ok, pure_eq_ok, Option.map_eq_some_iff] at h
    obtain ⟨-, -, s, -, rfl⟩ := h
    exact ⟨rfl, rfl, fun h => by cases h⟩

end Identities

section Book
variable (env : Env) (books : ReceiptBooks) (q : EventQuery)

/-- The identity of a consistent settlement, whatever the window. -/
def originalIdentity (s : PaymentSettlement) : Reading (Option PaymentEventPeriodIdentity) :=
  match books.db.payment? s.paymentId with
  | none => .ok none
  | some p => Option.filter (fun _ => originalIsConsistent books.db s) <$>
      unlessUnsupported (classifySettlementEvent env books p s)

def reversalIdentity (r : PaymentReversal) : Reading (Option PaymentEventPeriodIdentity) :=
  Option.join <$> unlessUnsupported (classifyReversalEvent env books r)

/-- The settlement of the asked member that a reversal belongs to. -/
def settlementOf (r : PaymentReversal) : Option PaymentSettlement :=
  (books.db.settlement? r.settlementId).filter (ofMember q)

def originalsOf (s : PaymentSettlement) : List PaymentFinancialEvent :=
  match originalIdentity env books s with
  | .ok (some identity) => if ofMember q s then originalEventsOf s identity else []
  | _ => []

def reversalsOf (r : PaymentReversal) : List PaymentFinancialEvent :=
  match settlementOf books q r, reversalIdentity env books r with
  | some s, .ok (some identity) => reversalEventsOf (r, s, identity)
  | _, _ => []

/-- The events of every row that can be read, of whatever period. -/
def bookEvents : List PaymentFinancialEvent :=
  books.db.settlements.flatMap (originalsOf env books q) ++
    books.db.reversals.flatMap (reversalsOf env books q)

def holds (w : ResolvedWindow) (e : PaymentFinancialEvent) : Bool :=
  decide (Inside w e.semantics e.occurredAt e.financialDate)

def Readable {α : Type} (x : Reading α) : Prop := ∃ a, x = .ok a

/-- The settlements a reading of the window comes across. -/
def Reached (w : ResolvedWindow) (s : PaymentSettlement) : Prop :=
  s ∈ candidateSettlements books q w ∨
    ∃ r ∈ candidateReversals books w, settlementOf books q r = some s

end Book

section Reading
variable {env : Env} {books : ReceiptBooks} {q : EventQuery} {w : ResolvedWindow}

private theorem places_originalIdentity {s : PaymentSettlement} {identity : PaymentEventPeriodIdentity}
    (h : originalIdentity env books s = .ok (some identity)) :
    Places s.confirmedAt (books.settlementColumns s.id) identity := by
  unfold originalIdentity at h
  split at h
  · cases h
  · simp only [map_eq_ok, Option.filter_eq_some_iff] at h
    obtain ⟨found, hfound, rfl, -⟩ := h
    exact places_of_settlement (unlessUnsupported_eq_some hfound)

private theorem places_reversalIdentity {r : PaymentReversal} {identity : PaymentEventPeriodIdentity}
    (h : reversalIdentity env books r = .ok (some identity)) :
    Places r.reversedAt (books.reversalColumns r.id) identity := by
  simp only [reversalIdentity, map_eq_ok, Option.join_eq_some_iff] at h
  obtain ⟨found, hfound, rfl⟩ := h
  exact places_of_reversal (unlessUnsupported_eq_some hfound)

private theorem event_place {s : PaymentSettlement} {component : PaymentComponent} {amount : Int}
    {source : CycleClosing.EventSource} {reversalId : Option Nat}
    {identity : PaymentEventPeriodIdentity} {e : PaymentFinancialEvent}
    (h : event s component amount source reversalId identity = some e) :
    holds w e = decide (Inside w identity.semantics identity.timestampUtc identity.financialDate) := by
  unfold event at h
  split at h <;> cases h
  rfl

private theorem filter_of_constant {α : Type} {xs : List α} {p : α → Bool} {b : Bool}
    (h : ∀ x ∈ xs, p x = b) : xs.filter p = if b then xs else [] := by
  cases b with
  | true => simpa using h
  | false => simpa using h

private theorem filter_originalEventsOf (s : PaymentSettlement) (identity : PaymentEventPeriodIdentity) :
    (originalEventsOf s identity).filter (holds w) =
      if decide (Inside w identity.semantics identity.timestampUtc identity.financialDate) then
        originalEventsOf s identity else [] := by
  refine filter_of_constant fun e he => ?_
  obtain ⟨component, -, he⟩ := List.mem_filterMap.mp he
  exact event_place he

private theorem filter_reversalEventsOf (candidate : ReversalCandidate) :
    (reversalEventsOf candidate).filter (holds w) =
      if decide (Inside w candidate.2.2.semantics candidate.2.2.timestampUtc
        candidate.2.2.financialDate) then reversalEventsOf candidate else [] := by
  refine filter_of_constant fun e he => ?_
  obtain ⟨r, s, identity⟩ := candidate
  dsimp only [reversalEventsOf] at he
  split at he
  · cases he
  · obtain ⟨component, -, he⟩ := List.mem_filterMap.mp he
    exact event_place he

/-- What one settlement contributes is its share of the book inside the window. -/
private theorem originalEventsIn_eq_ok (hw : Dated w) {s : PaymentSettlement}
    {events : List PaymentFinancialEvent} :
    originalEventsIn env books w s = .ok events ↔ ∃ identity,
      originalIdentity env books s = .ok identity ∧
        (identity.elim [] (originalEventsOf s)).filter (holds w) = events := by
  unfold originalEventsIn
  cases hp : books.db.payment? s.paymentId with
  | none => simp [originalIdentity, hp]
  | some p =>
    cases hread : unlessUnsupported (classifySettlementEvent env books p s) with
    | error e => simp [originalIdentity, hp, hread, Functor.map, Except.map, bind, Except.bind]
    | ok found =>
      cases found with
      | none => simp [originalIdentity, hp, hread, Functor.map, Except.map, ok_bind]
      | some identity =>
        have hplaces := places_of_settlement (unlessUnsupported_eq_some hread)
        by_cases hconsistent : originalIsConsistent books.db s = true
        · simp only [originalIdentity, hp, hread, Functor.map, Except.map, ok_bind, hconsistent,
            if_true, contains_of_dated hw hplaces.dated, Option.filter_some, Except.ok.injEq,
            exists_eq_left', Option.elim_some, filter_originalEventsOf]
          split <;> simp
        · simp [originalIdentity, hp, hread, Functor.map, Except.map, ok_bind, hconsistent]

/-- The candidate a reversal with its settlement adds. -/
private def placed (w : ResolvedWindow) (r : PaymentReversal) (s : PaymentSettlement) :
    Option PaymentEventPeriodIdentity → List ReversalCandidate
  | none => []
  | some identity =>
    if Inside w identity.semantics identity.timestampUtc identity.financialDate then [(r, s, identity)]
    else []

private theorem considerReversal_eq_ok (hw : Dated w) {r : PaymentReversal} {s : PaymentSettlement}
    {found next : Gathered} :
    considerReversal env books w r s found = .ok next ↔ ∃ identity,
      reversalIdentity env books r = .ok identity ∧
        { found with candidates := found.candidates ++ placed w r s identity } = next := by
  unfold considerReversal reversalIdentity
  cases hread : unlessUnsupported (classifyReversalEvent env books r) with
  | error e => simp [Functor.map, Except.map, bind, Except.bind]
  | ok identity =>
    cases hjoin : identity.join with
    | none => simp [Functor.map, Except.map, ok_bind, hjoin, placed]
    | some identity =>
      obtain rfl := Option.join_eq_some_iff.mp hjoin
      have hplaces := places_of_reversal (unlessUnsupported_eq_some hread)
      simp only [ok_bind, Option.join_some, contains_of_dated hw hplaces.dated, Functor.map,
        Except.map, Except.ok.injEq, exists_eq_left', placed]
      by_cases hin : Inside w identity.semantics identity.timestampUtc identity.financialDate <;>
        simp [hin]

/-- The settlements at hand are rows of the asked member, each once. -/
structure AtHand (books : ReceiptBooks) (q : EventQuery) (found : Gathered) : Prop where
  rows : ∀ s ∈ found.bySettlement, s ∈ books.db.settlements ∧ ofMember q s = true
  once : found.bySettlement.Nodup

private theorem settlementOf_eq_some {r : PaymentReversal} {s : PaymentSettlement} :
    settlementOf books q r = some s ↔
      s ∈ books.db.settlements ∧ s.id = r.settlementId ∧ ofMember q s = true := by
  simp only [settlementOf, Option.filter_eq_some_iff, Db.settlement?]
  constructor
  · rintro ⟨h, hmember⟩
    exact ⟨lookup_mem h, lookup_key h, hmember⟩
  · rintro ⟨hs, hid, hmember⟩
    exact ⟨hid ▸ lookup_of_mem books.settlementsKeyed hs, hmember⟩

private theorem find_atHand {found : Gathered} (h : AtHand books q found) {r : PaymentReversal}
    {s : PaymentSettlement}
    (hfind : found.bySettlement.find? (fun s => s.id = r.settlementId) = some s) :
    settlementOf books q r = some s := by
  have hmem := List.mem_of_find?_eq_some hfind
  have hid : s.id = r.settlementId := by simpa using List.find?_some hfind
  exact settlementOf_eq_some.mpr ⟨(h.rows s hmem).1, hid, (h.rows s hmem).2⟩

/-- What a round leaves at hand, and which readings it needed. -/
private structure Rounded (env : Env) (books : ReceiptBooks) (q : EventQuery) (w : ResolvedWindow)
    (found : Gathered) (r : PaymentReversal) (next : Gathered) : Prop where
  atHand : AtHand books q next
  reached : ∀ s, s ∈ next.bySettlement ↔
    s ∈ found.bySettlement ∨ settlementOf books q r = some s
  events : next.candidates.flatMap reversalEventsOf =
    found.candidates.flatMap reversalEventsOf ++ (reversalsOf env books q r).filter (holds w)
  readable : (settlementOf books q r).isSome → Readable (reversalIdentity env books r)

private theorem placed_events {r : PaymentReversal} {s : PaymentSettlement}
    {identity : Option PaymentEventPeriodIdentity} (hs : settlementOf books q r = some s)
    (hread : reversalIdentity env books r = .ok identity) :
    (placed w r s identity).flatMap reversalEventsOf =
      (reversalsOf env books q r).filter (holds w) := by
  cases identity with
  | none => simp [placed, reversalsOf, hs, hread]
  | some identity =>
    simp only [placed, reversalsOf, hs, hread, filter_reversalEventsOf, decide_eq_true_eq]
    split <;> simp

/-- One round of the loop over the reversals. -/
private theorem gatherReversal_eq_ok (hw : Dated w) {found next : Gathered} {r : PaymentReversal}
    (h : AtHand books q found) (hround : gatherReversal env books q w found r = .ok next) :
    Rounded env books q w found r next := by
  unfold gatherReversal at hround
  split at hround
  · next s hfind =>
    have hs := find_atHand h hfind
    obtain ⟨identity, hread, rfl⟩ := (considerReversal_eq_ok hw).mp hround
    refine ⟨⟨h.rows, h.once⟩, ?_, ?_, fun _ => ⟨identity, hread⟩⟩
    · intro t
      rw [hs, Option.some.injEq]
      exact ⟨.inl, Or.rec id fun ht => ht ▸ List.mem_of_find?_eq_some hfind⟩
    · rw [List.flatMap_append, placed_events hs hread]
  · next hfind =>
    split at hround
    · next hnone =>
      cases hround
      have hs : settlementOf books q r = none := hnone
      refine ⟨h, ?_, ?_, ?_⟩
      · simp [hs]
      · simp [reversalsOf, hs]
      · simp [hs]
    · next s hsome =>
      have hs : settlementOf books q r = some s := hsome
      obtain ⟨hrow, hid, hmember⟩ := settlementOf_eq_some.mp hs
      obtain ⟨identity, hread, rfl⟩ := (considerReversal_eq_ok hw).mp hround
      have hnew : s ∉ found.bySettlement := by
        intro hold
        exact (List.find?_eq_none.mp hfind s hold) (by simpa using hid)
      refine ⟨⟨?_, ?_⟩, ?_, ?_, fun _ => ⟨identity, hread⟩⟩
      · intro t ht
        rcases List.mem_append.mp ht with ht | ht
        · exact h.rows t ht
        · rw [List.mem_singleton.mp ht]
          exact ⟨hrow, hmember⟩
      · rw [List.nodup_append]
        refine ⟨h.once, by simp, ?_⟩
        rintro t ht u hu rfl
        exact hnew (List.mem_singleton.mp hu ▸ ht)
      · intro t
        rw [hs, Option.some.injEq, List.mem_append, List.mem_singleton, eq_comm (a := t)]
      · rw [List.flatMap_append, placed_events hs hread]

private theorem gatherReversal_readable (hw : Dated w) {found : Gathered} {r : PaymentReversal}
    (h : AtHand books q found)
    (hread : (settlementOf books q r).isSome → Readable (reversalIdentity env books r)) :
    ∃ next, gatherReversal env books q w found r = .ok next := by
  unfold gatherReversal
  split
  · next s hfind =>
    obtain ⟨identity, hidentity⟩ := hread (by rw [find_atHand h hfind]; rfl)
    exact ⟨_, (considerReversal_eq_ok hw).mpr ⟨identity, hidentity, rfl⟩⟩
  · split
    · exact ⟨found, rfl⟩
    · next s hsome =>
      have hs : settlementOf books q r = some s := hsome
      obtain ⟨identity, hidentity⟩ := hread (by rw [hs]; rfl)
      exact ⟨_, (considerReversal_eq_ok hw).mpr ⟨identity, hidentity, rfl⟩⟩

/-- The whole loop over the reversals. -/
private structure Collected (env : Env) (books : ReceiptBooks) (q : EventQuery) (w : ResolvedWindow)
    (found : Gathered) (rs : List PaymentReversal) (last : Gathered) : Prop where
  atHand : AtHand books q last
  reached : ∀ s, s ∈ last.bySettlement ↔
    s ∈ found.bySettlement ∨ ∃ r ∈ rs, settlementOf books q r = some s
  events : last.candidates.flatMap reversalEventsOf =
    found.candidates.flatMap reversalEventsOf ++
      rs.flatMap (fun r => (reversalsOf env books q r).filter (holds w))
  readable : ∀ r ∈ rs, (settlementOf books q r).isSome → Readable (reversalIdentity env books r)

private theorem gathered (hw : Dated w) {rs : List PaymentReversal} {found last : Gathered}
    (h : AtHand books q found) (hrun : rs.foldlM (gatherReversal env books q w) found = .ok last) :
    Collected env books q w found rs last := by
  induction rs generalizing found with
  | nil =>
    rw [List.foldlM_nil, pure_eq_ok] at hrun
    subst hrun
    exact ⟨h, by simp, by simp, by simp⟩
  | cons r rs ih =>
    rw [List.foldlM_cons, bind_eq_ok] at hrun
    obtain ⟨next, hnext, hrun⟩ := hrun
    have hround := gatherReversal_eq_ok hw h hnext
    have hrest := ih hround.atHand hrun
    refine ⟨hrest.atHand, ?_, ?_, ?_⟩
    · intro s
      rw [hrest.reached, hround.reached]
      simp [or_assoc]
    · rw [hrest.events, hround.events, List.flatMap_cons, List.append_assoc]
    · intro x hx
      rcases List.mem_cons.mp hx with rfl | hx
      · exact hround.readable
      · exact hrest.readable x hx

private theorem gathered_readable (hw : Dated w) {rs : List PaymentReversal} {found : Gathered}
    (h : AtHand books q found) (hread : ∀ r ∈ rs, (settlementOf books q r).isSome →
      Readable (reversalIdentity env books r)) :
    ∃ last, rs.foldlM (gatherReversal env books q w) found = .ok last := by
  induction rs generalizing found with
  | nil => exact ⟨found, rfl⟩
  | cons r rs ih =>
    obtain ⟨next, hnext⟩ := gatherReversal_readable hw h (hread r (List.mem_cons_self ..))
    obtain ⟨last, hlast⟩ := ih (gatherReversal_eq_ok hw h hnext).atHand
      (fun x hx => hread x (List.mem_cons_of_mem _ hx))
    exact ⟨last, by rw [List.foldlM_cons, hnext, ok_bind, hlast]⟩

private theorem atHand_candidates : AtHand books q ⟨candidateSettlements books q w, []⟩ where
  rows s hs := by
    simp only [candidateSettlements, settlementsById, List.mem_filter, List.mem_insertionSort,
      Bool.and_eq_true] at hs
    exact ⟨hs.1, hs.2.1⟩
  once := by
    have hrows : books.db.settlements.Nodup := List.Nodup.of_map _ books.settlementsKeyed
    exact ((List.perm_insertionSort _ _).nodup_iff.mpr hrows).filter _

/-- A settlement the prefilter leaves out has no event in the window. -/
private theorem silent_settlement (hq : q.resolve = .ok w) (hw : Dated w) {s : PaymentSettlement}
    (hs : s ∈ books.db.settlements) (hout : s ∉ candidateSettlements books q w) :
    (originalsOf env books q s).filter (holds w) = [] := by
  unfold originalsOf
  split
  · next identity hidentity =>
    split
    · next hmember =>
      rw [filter_originalEventsOf, if_neg]
      intro hin
      have hplaces := places_originalIdentity hidentity
      refine hout (List.mem_filter.mpr ⟨?_, ?_⟩)
      · rwa [settlementsById, List.mem_insertionSort]
      · rw [hmember, Bool.true_and]
        refine isCandidate_of_contains hq hplaces.timestamp hplaces.date hplaces.dated ?_
        rw [contains_of_dated hw hplaces.dated, hin]
    · rfl
  · rfl

private theorem silent_reversal (hq : q.resolve = .ok w) (hw : Dated w) {r : PaymentReversal}
    (hout : w.isCandidate reversalTemporalVersion r.reversedAt (books.reversalColumns r.id) = false) :
    (reversalsOf env books q r).filter (holds w) = [] := by
  unfold reversalsOf
  split
  · next s identity hs hidentity =>
    have hplaces := places_reversalIdentity hidentity
    rw [filter_reversalEventsOf, if_neg]
    intro hin
    have hcandidate : w.isCandidate reversalTemporalVersion r.reversedAt
        (books.reversalColumns r.id) = true :=
      isCandidate_of_contains hq hplaces.timestamp hplaces.date hplaces.dated
        (by rw [contains_of_dated hw hplaces.dated, hin])
    rw [hcandidate] at hout
    cases hout
  · rfl

private theorem flatMap_filter_of_silent {α β : Type} {rows : List α} {p : α → Bool}
    {give : α → List β} (h : ∀ x, p x = false → give x = []) :
    (rows.filter p).flatMap give = rows.flatMap give := by
  induction rows with
  | nil => rfl
  | cons x rows ih =>
    cases hp : p x with
    | true => rw [List.filter_cons_of_pos hp, List.flatMap_cons, List.flatMap_cons, ih]
    | false =>
      rw [List.filter_cons_of_neg (by simp [hp]), List.flatMap_cons, h x hp, List.nil_append, ih]

private theorem flatMap_eq_of_mapM {α β ε : Type} {f : α → Except ε (List β)} {xs : List α}
    {ys : List (List β)} {give : α → List β} (h : xs.mapM f = .ok ys)
    (hgive : ∀ x ∈ xs, ∀ y, f x = .ok y → y = give x) : ys.flatten = xs.flatMap give := by
  have hall := forall₂_of_mapM h
  clear h
  induction hall with
  | nil => rfl
  | cons hhead _ ih =>
    rw [List.flatten_cons, List.flatMap_cons, hgive _ (List.mem_cons_self ..) _ hhead,
      ih (fun x hx => hgive x (List.mem_cons_of_mem _ hx))]

/-- The reader of a dated window returns the events of the book that stand inside it. -/
theorem events_perm (hq : q.resolve = .ok w) (hw : Dated w) {events : List PaymentFinancialEvent}
    (h : paymentFinancialEvents env books q = .ok events) :
    events.Perm ((bookEvents env books q).filter (holds w)) := by
  simp only [paymentFinancialEvents, hq, ok_bind, bind_eq_ok, pure_eq_ok] at h
  obtain ⟨found, hfound, originals, horiginals, rfl⟩ := h
  have hrun := gathered hw atHand_candidates hfound
  have horiginal : originals.flatten =
      found.bySettlement.flatMap (fun s => (originalsOf env books q s).filter (holds w)) := by
    refine flatMap_eq_of_mapM horiginals fun s hs events hevents => ?_
    obtain ⟨identity, hidentity, rfl⟩ := (originalEventsIn_eq_ok hw).mp hevents
    cases identity with
    | none => simp [originalsOf, hidentity]
    | some identity => simp [originalsOf, hidentity, (hrun.atHand.rows s hs).2]
  have hrows : books.db.settlements.Nodup := List.Nodup.of_map _ books.settlementsKeyed
  have hshare : originals.flatten.Perm
      ((books.db.settlements.flatMap (originalsOf env books q)).filter (holds w)) := by
    rw [horiginal, List.filter_flatMap]
    refine flatMap_perm_of_silent hrows hrun.atHand.once
      (fun s hs => (hrun.atHand.rows s hs).1) fun s hs hout => ?_
    refine silent_settlement hq hw hs fun hin => hout ?_
    exact (hrun.reached s).mpr (.inl hin)
  have hreversals : (found.candidates.flatMap reversalEventsOf).Perm
      ((books.db.reversals.flatMap (reversalsOf env books q)).filter (holds w)) := by
    rw [hrun.events, List.flatMap_nil, List.nil_append, List.filter_flatMap, candidateReversals,
      flatMap_filter_of_silent fun r => silent_reversal hq hw]
    exact (List.perm_insertionSort _ _).flatMap_right _
  refine (List.perm_insertionSort _ _).trans ?_
  rw [bookEvents, List.filter_append]
  exact hshare.append hreversals

private theorem mapM_readable {α β : Type} {f : α → Reading β} {xs : List α} :
    (∃ ys, xs.mapM f = .ok ys) ↔ ∀ x ∈ xs, Readable (f x) := by
  induction xs with
  | nil => simp [List.mapM_nil, pure_eq_ok]
  | cons x xs ih =>
    simp only [List.mapM_cons, bind_eq_ok, pure_eq_ok, List.forall_mem_cons, ← ih]
    constructor
    · rintro ⟨ys, y, hy, rest, hrest, -⟩
      exact ⟨⟨y, hy⟩, rest, hrest⟩
    · rintro ⟨⟨y, hy⟩, rest, hrest⟩
      exact ⟨_, y, hy, rest, hrest, rfl⟩

/-- The reader of a dated window fails exactly where a row it comes across cannot be read. -/
theorem returns_iff (hq : q.resolve = .ok w) (hw : Dated w) :
    Readable (paymentFinancialEvents env books q) ↔
      (∀ r ∈ candidateReversals books w, (settlementOf books q r).isSome →
        Readable (reversalIdentity env books r)) ∧
      ∀ s, Reached books q w s → Readable (originalIdentity env books s) := by
  have horiginal : ∀ s, Readable (originalEventsIn env books w s) ↔
      Readable (originalIdentity env books s) := by
    intro s
    constructor
    · rintro ⟨events, h⟩
      obtain ⟨identity, hidentity, -⟩ := (originalEventsIn_eq_ok hw).mp h
      exact ⟨identity, hidentity⟩
    · rintro ⟨identity, h⟩
      exact ⟨_, (originalEventsIn_eq_ok hw).mpr ⟨identity, h, rfl⟩⟩
  constructor
  · rintro ⟨events, h⟩
    simp only [paymentFinancialEvents, hq, ok_bind, bind_eq_ok, pure_eq_ok] at h
    obtain ⟨found, hfound, originals, horiginals, -⟩ := h
    have hrun := gathered hw atHand_candidates hfound
    refine ⟨hrun.readable, fun s hs => ?_⟩
    exact (horiginal s).mp (mapM_readable.mp ⟨originals, horiginals⟩ s ((hrun.reached s).mpr hs))
  · rintro ⟨hreversals, hsettlements⟩
    obtain ⟨found, hfound⟩ := gathered_readable hw atHand_candidates hreversals
    have hrun := gathered hw atHand_candidates hfound
    obtain ⟨originals, horiginals⟩ := mapM_readable.mpr fun s hs =>
      (horiginal s).mpr (hsettlements s ((hrun.reached s).mp hs))
    simp only [paymentFinancialEvents, hq, ok_bind, hfound, horiginals]
    exact ⟨_, rfl⟩

end Reading

end Caixinha.Effects.EventPeriods
