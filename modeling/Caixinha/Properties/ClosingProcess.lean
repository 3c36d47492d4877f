import Caixinha.Effects.ClosingCalls
import Mathlib.Data.List.Induction
import Mathlib.Logic.Relation

/-! The annual closing through every interleaving of calls: its status, its revision, its reviews
and its snapshot. -/
namespace Caixinha.Properties.ClosingProcess

open Caixinha.Library Table Fallible Caixinha.Model ClosingWorkflow Caixinha.Effects.ClosingCalls Relation

def snapshotsOf (db : ClosingDb) (closingId : Nat) : List CycleAnnualClosingSnapshot :=
  db.snapshots.filter (fun s => s.closingId = closingId)

/-- What a closing in each status has behind it. -/
inductive Stage (c : CycleAnnualClosing) (reviews : List CycleAnnualClosingReview)
    (snapshots : List CycleAnnualClosingSnapshot) : Prop where
  | assessing (status : c.status = .ASSESSING) (unapproved : c.approvedReviewId = none)
    (unreviewed : reviews = []) (unsealed : snapshots = [])
  | ready (r : CycleAnnualClosingReview) (status : c.status = .READY_FOR_REVIEW)
    (unapproved : c.approvedReviewId = none) (latest : reviews.getLast? = some r)
    (revision : r.processRevision = c.stateRevision) (unsealed : snapshots = [])
  | approved (r : CycleAnnualClosingReview) (status : c.status = .MASTER_APPROVED)
    (chosen : c.approvedReviewId = some r.id) (latest : reviews.getLast? = some r)
    (revision : r.processRevision + 1 = c.stateRevision) (unsealed : snapshots = [])
  | closed (r : CycleAnnualClosingReview) (s : CycleAnnualClosingSnapshot)
    (status : c.status = .CLOSED) (chosen : c.approvedReviewId = some r.id)
    (latest : reviews.getLast? = some r) (revision : r.processRevision + 2 = c.stateRevision)
    (official : Official s r) (sealed : snapshots = [s])

/-- The rows of the closing `k`, now `c`, fit each other. -/
structure Coherent (k : Nat) (db : ClosingDb) (c : CycleAnnualClosing) : Prop where
  row : db.closing? k = some c
  closings : Keyed CycleAnnualClosing.id db.closings
  reviews : Keyed CycleAnnualClosingReview.id db.reviews
  versions : (db.reviewsOf k).map CycleAnnualClosingReview.reviewVersion =
    List.range' 1 (db.reviewsOf k).length
  stage : Stage c (db.reviewsOf k) (snapshotsOf db k)

/-- What a call read of `k` is its row as it is now, or one of an earlier revision. -/
def ReadsPast (k : Nat) (c : CycleAnnualClosing)
    (underWay : List (ClosingCall × Option CycleAnnualClosing)) : Prop :=
  ∀ x ∈ underWay, ∀ seen, x.2 = some seen → seen.id = k →
    seen.stateRevision ≤ c.stateRevision ∧ (seen.stateRevision = c.stateRevision → seen = c)

/-- The order of the statuses; a review can be prepared again. -/
def Next : ClosingStatus → ClosingStatus → Prop
  | .ASSESSING, .READY_FOR_REVIEW | .READY_FOR_REVIEW, .READY_FOR_REVIEW
  | .READY_FOR_REVIEW, .MASTER_APPROVED | .MASTER_APPROVED, .CLOSED => True
  | _, _ => False

/-- One transition of a closing. -/
structure Moved (c c' : CycleAnnualClosing) : Prop where
  status : Next c.status c'.status
  revision : c'.stateRevision = c.stateRevision + 1
  kept : ∀ id, c.approvedReviewId = some id → c'.approvedReviewId = some id

/-- Nothing of the closing `k` changed. -/
structure Untouched (k : Nat) (db db' : ClosingDb) : Prop where
  row : db'.closing? k = db.closing? k
  reviews : db'.reviewsOf k = db.reviewsOf k
  snapshots : snapshotsOf db' k = snapshotsOf db k

/-- The database after a call: what it wrote, or nothing where it is refused and rolled back. -/
def afterCall (rules : SnapshotRules) (s : ClosingSystem) (clock : Int)
    (read : Option CycleAnnualClosing) (call : ClosingCall) : ClosingDb :=
  match finishCall rules s.sources s.db clock read call with
  | .ok db => db
  | .error _ => s.db

/-- The call goes through, and what it does to the closing `k` was not there yet. -/
structure Transition (rules : SnapshotRules) (k : Nat) (s : ClosingSystem) (clock : Int)
    (read : Option CycleAnnualClosing) (call : ClosingCall) : Prop where
  own : call.closingId = k
  succeeds : ∃ db, finishCall rules s.sources s.db clock read call = .ok db
  new : ∀ seen, read = some seen → ¬ Repeats rules.sha256 s.sources s.db seen call

/-- How a call under way may end where the closing `k` is `c`: a new transition takes the closing to
the status the call is for, one revision further, and any other end leaves it as it is. -/
structure Ends (rules : SnapshotRules) (k : Nat) (s : ClosingSystem) (c : CycleAnnualClosing)
    (before : List (ClosingCall × Option CycleAnnualClosing)) (call : ClosingCall)
    (read : Option CycleAnnualClosing) (after : List (ClosingCall × Option CycleAnnualClosing))
    (clock : Int) : Prop where
  step : ClosingStep rules s
    { s with db := afterCall rules s clock read call, underWay := before ++ after }
  new : Transition rules k s clock read call → ∃ c', (afterCall rules s clock read call).closing? k =
    some c' ∧ Moved c c' ∧ c'.status = targetOf call
  other : ¬ Transition rules k s clock read call → Untouched k s.db (afterCall rules s clock read call)

variable {rules : SnapshotRules} {k : Nat} {db db' : ClosingDb} {s t u : ClosingSystem}
  {c seen row : CycleAnnualClosing} {target : ClosingStatus}

private theorem latest_of_increasing (rs : List CycleAnnualClosingReview)
    (h : rs.Pairwise (fun a b => a.reviewVersion < b.reviewVersion)) :
    rs.foldl (fun last r => match last with
      | none => some r
      | some l => if l.reviewVersion < r.reviewVersion then some r else some l) none = rs.getLast? := by
  induction rs using List.reverseRecOn with
  | nil => rfl
  | append_singleton init r ih =>
    rw [List.pairwise_append] at h
    rw [List.foldl_append, ih h.1, List.getLast?_concat]
    cases hlast : init.getLast? with
    | none => rfl
    | some l =>
      have hlt : l.reviewVersion < r.reviewVersion :=
        h.2.2 l (List.mem_of_getLast? hlast) r (List.mem_singleton_self r)
      simp only [List.foldl_cons, List.foldl_nil, if_pos hlt]

/-- The review of the highest version is the last one. -/
theorem Coherent.latest (h : Coherent k db c) : db.latestReview? k = (db.reviewsOf k).getLast? := by
  apply latest_of_increasing
  have hincreasing : ((db.reviewsOf k).map CycleAnnualClosingReview.reviewVersion).Pairwise (· < ·) := by
    rw [h.versions]
    exact List.pairwise_lt_range'
  exact List.pairwise_map.mp hincreasing

theorem Coherent.lastVersion (h : Coherent k db c) :
    ((db.latestReview? k).map (fun r => r.reviewVersion + 1)).getD 1 =
      1 + (db.reviewsOf k).length := by
  have hversion := congrArg List.getLast? h.versions
  rw [List.getLast?_map, ← h.latest, List.getLast?_range'] at hversion
  cases hlast : db.latestReview? k with
  | none =>
    rw [h.latest, List.getLast?_eq_none_iff] at hlast
    simp [hlast]
  | some r =>
    rw [hlast] at hversion
    split at hversion
    · cases hversion
    · simp only [Option.map_some, Option.some.injEq] at hversion
      simp only [Option.map_some, Option.getD_some, hversion]
      omega

theorem reviewsOf_append_self {r : CycleAnnualClosingReview} (h : r.closingId = k) :
    (db.reviews ++ [r]).filter (fun r => r.closingId = k) = db.reviewsOf k ++ [r] := by
  rw [List.filter_append, List.filter_cons_of_pos (by simpa using h), List.filter_nil]
  rfl

theorem reviewsOf_append_other {r : CycleAnnualClosingReview} (h : r.closingId ≠ k) :
    (db.reviews ++ [r]).filter (fun r => r.closingId = k) = db.reviewsOf k := by
  rw [List.filter_append, List.filter_cons_of_neg (by simpa using h), List.filter_nil, List.append_nil]
  rfl

theorem Coherent.untouched (h : Coherent k db c) (hsame : Untouched k db db')
    (hclosings : Keyed CycleAnnualClosing.id db'.closings)
    (hreviews : Keyed CycleAnnualClosingReview.id db'.reviews) : Coherent k db' c where
  row := hsame.row.trans h.row
  closings := hclosings
  reviews := hreviews
  versions := by rw [hsame.reviews]; exact h.versions
  stage := by rw [hsame.reviews, hsame.snapshots]; exact h.stage

/-- An advance keeps the keys of the tables. -/
theorem advance_keys (hadvance : Advance db seen row target db')
    (hclosings : Keyed CycleAnnualClosing.id db.closings)
    (hreviews : Keyed CycleAnnualClosingReview.id db.reviews) :
    Keyed CycleAnnualClosing.id db'.closings ∧ Keyed CycleAnnualClosingReview.id db'.reviews := by
  cases hadvance with
  | prepared _ _ _ hidentity => exact ⟨keyed_replace hclosings, keyed_append hreviews hidentity⟩
  | approved => exact ⟨keyed_replace hclosings, hreviews⟩
  | closed => exact ⟨keyed_replace hclosings, hreviews⟩

/-- An advance of another closing does not touch this one. -/
theorem advance_other (hlocked : Locked db seen row) (hadvance : Advance db seen row target db')
    (hother : seen.id ≠ k) : Untouched k db db' := by
  have hne : k ≠ row.id := by
    rw [hlocked.id]
    exact hother.symm
  cases hadvance with
  | prepared review _ _ _ hclosing =>
    exact ⟨lookup_replace_ne hne, reviewsOf_append_other (by rw [hclosing]; exact hother), rfl⟩
  | approved => exact ⟨lookup_replace_ne hne, rfl, rfl⟩
  | closed review snapshot _ _ _ _ hclosing _ _ _ _ _ hofficial =>
    refine ⟨lookup_replace_ne hne, rfl, ?_⟩
    have hsnapshot : snapshot.closingId ≠ k := by
      rw [hofficial.closing, hclosing]
      exact hother
    unfold snapshotsOf
    rw [List.filter_append, List.filter_cons_of_neg (by simpa using hsnapshot), List.filter_nil,
      List.append_nil]

/-- The latest review under the id of the review that a call found. -/
theorem Coherent.latest_eq {r : CycleAnnualClosingReview} (h : Coherent k db c)
    (hlatest : (db.latestReview? k).map CycleAnnualClosingReview.id = some r.id)
    (hlisted : db.review? r.id = some r) : (db.reviewsOf k).getLast? = some r := by
  rw [← h.latest]
  obtain ⟨l, hl, hid⟩ := Option.map_eq_some_iff.mp hlatest
  have hmem : l ∈ db.reviews := by
    rw [h.latest] at hl
    exact (List.mem_filter.mp (List.mem_of_getLast? hl)).1
  rw [hl, eq_of_mem_of_key h.reviews hmem (lookup_mem hlisted) hid]

theorem Stage.unsealed {reviews : List CycleAnnualClosingReview}
    {snapshots : List CycleAnnualClosingSnapshot} (h : Stage c reviews snapshots)
    (hopen : c.status ≠ .CLOSED) : snapshots = [] := by
  cases h with
  | assessing _ _ _ hnone => exact hnone
  | ready _ _ _ _ _ hnone => exact hnone
  | approved _ _ _ _ _ hnone => exact hnone
  | closed _ _ hclosed => exact absurd hclosed hopen

/-- An advance of the closing itself is one transition to a coherent row. -/
theorem advance_self (h : Coherent k db c) (hlocked : Locked db c row)
    (hadvance : Advance db c row target db') :
    ∃ c', Coherent k db' c' ∧ Moved c c' ∧ c'.status = target := by
  have hid : c.id = k := lookup_key h.row
  have hrow : row = c := eq_of_mem_of_key h.closings hlocked.found (lookup_mem h.row) hlocked.id
  subst hrow
  obtain ⟨hclosings, hreviews⟩ := advance_keys hadvance h.closings h.reviews
  have hput : ∀ c' : CycleAnnualClosing, c'.id = row.id → (db.putClosing c').closing? k = some c' := by
    intro c' hc'
    rw [← hid, ← hc']
    refine lookup_replace_self (x := row) ?_
    rw [hc', hid]
    exact h.row
  cases hadvance with
  | prepared review hstatus hunapproved hidentity hclosing _ hversion hrevision =>
    have hlist : (db.reviews ++ [review]).filter (fun r => r.closingId = k) = db.reviewsOf k ++ [review] :=
      reviewsOf_append_self (hclosing.trans hid)
    have hunsealed : snapshotsOf db k = [] := h.stage.unsealed (by
      rintro hclosed
      rw [hclosed] at hstatus
      rcases hstatus with hstatus | hstatus <;> cases hstatus)
    refine ⟨preparedRow row row, ⟨hput _ rfl, hclosings, hreviews, ?_, ?_⟩, ⟨?_, rfl, ?_⟩, rfl⟩
    · rw [ClosingDb.reviewsOf, hlist, List.map_append, h.versions, List.length_append,
        List.length_singleton, List.map_singleton, hversion, hid, h.lastVersion, List.range'_concat]
      simp
    · refine .ready review rfl hunapproved ?_ hrevision hunsealed
      rw [ClosingDb.reviewsOf, hlist, List.getLast?_concat]
    · rcases hstatus with hstatus | hstatus <;> rw [hstatus] <;> trivial
    · intro id hsome
      rw [hunapproved] at hsome
      cases hsome
  | approved review clock actorId hstatus hunapproved hlatest hlisted hrevision =>
    rw [hid] at hlatest
    have hunsealed : snapshotsOf db k = [] := h.stage.unsealed (by rw [hstatus]; decide)
    refine ⟨_, ⟨hput _ rfl, hclosings, hreviews, h.versions, ?_⟩, ⟨?_, rfl, ?_⟩, rfl⟩
    · exact .approved review rfl rfl (h.latest_eq hlatest hlisted) (by rw [hrevision]) hunsealed
    · rw [hstatus]
      trivial
    · intro id hsome
      rw [hunapproved] at hsome
      cases hsome
  | closed review snapshot clock actorId hstatus hchosen hclosing _ hlatest hlisted hrevision hfirst
      hofficial =>
    rw [hid] at hlatest
    have hunsealed : snapshotsOf db k = [] := h.stage.unsealed (by rw [hstatus]; decide)
    have hsnapshot : snapshot.closingId = k := by rw [hofficial.closing, hclosing, hid]
    have hsealed : (db.snapshots ++ [snapshot]).filter (fun s => s.closingId = k) = [snapshot] := by
      rw [List.filter_append, List.filter_cons_of_pos (by simpa using hsnapshot), List.filter_nil]
      rw [snapshotsOf] at hunsealed
      rw [hunsealed, List.nil_append]
    refine ⟨_, ⟨hput _ rfl, hclosings, hreviews, h.versions, ?_⟩, ⟨?_, rfl, ?_⟩, rfl⟩
    · exact .closed review snapshot rfl hchosen (h.latest_eq hlatest hlisted) (by rw [← hrevision])
        hofficial hsealed
    · rw [hstatus]
      trivial
    · intro id hsome
      exact hsome

/-- The calls beside one of those under way. -/
private theorem mem_of_mem_others {α : Type} {before after : List α} {x y : α}
    (h : x ∈ before ++ after) : x ∈ before ++ y :: after := by
  rcases List.mem_append.mp h with h | h
  · exact List.mem_append_left _ h
  · exact List.mem_append_right _ (List.mem_cons_of_mem _ h)

/-- The closing `k` in a system: its rows fit, every call has read the row it is about, and none has
read a row of `k` that is not its own. -/
structure Process (k : Nat) (s : ClosingSystem) (c : CycleAnnualClosing) : Prop where
  coherent : Coherent k s.db c
  reads : ReadsPast k c s.underWay
  about : ∀ x ∈ s.underWay, ∀ seen, x.2 = some seen → seen.id = x.1.closingId

/-- A call that succeeds takes the closing one transition further where it says something new of it,
and leaves it as it is otherwise. -/
theorem finish_closing {sources : FinancialSources} {clock : Int} {call : ClosingCall}
    {read : Option CycleAnnualClosing} (h : Coherent k db c)
    (habout : ∀ seen, read = some seen → seen.id = call.closingId)
    (hread : ∀ seen, read = some seen → seen.id = k → seen.stateRevision = c.stateRevision → seen = c)
    (hdone : finishCall rules sources db clock read call = .ok db') :
    (Coherent k db' c ∧ Untouched k db db' ∧ (call.closingId = k →
        ∃ seen, read = some seen ∧ Repeats rules.sha256 sources db seen call)) ∨
      ((∀ seen, read = some seen → ¬ Repeats rules.sha256 sources db seen call) ∧
        call.closingId = k ∧ ∃ c', Coherent k db' c' ∧ Moved c c' ∧ c'.status = targetOf call) := by
  obtain ⟨seen, hseen, ⟨hrepeats, rfl⟩ | ⟨hnew, row, hlocked, hadvance⟩⟩ := finishCall_cases hdone
  · exact .inl ⟨h, ⟨rfl, rfl, rfl⟩, fun _ => ⟨seen, hseen, hrepeats⟩⟩
  · have hcall := habout seen hseen
    by_cases hk : seen.id = k
    · have hrow : row = c := by
        refine eq_of_mem_of_key h.closings hlocked.found (lookup_mem h.row) ?_
        rw [hlocked.id, hk, lookup_key h.row]
      have hsame : seen = c := hread seen hseen hk (by rw [← hlocked.revision, hrow])
      subst hsame
      refine .inr ⟨?_, hcall.symm.trans hk, advance_self h hlocked hadvance⟩
      intro seen' hseen'
      rw [hseen, Option.some.injEq] at hseen'
      exact hseen' ▸ hnew
    · have hsame := advance_other hlocked hadvance hk
      obtain ⟨hclosings, hreviews⟩ := advance_keys hadvance h.closings h.reviews
      exact .inl ⟨h.untouched hsame hclosings hreviews, hsame,
        fun hcalled => absurd (hcall.trans hcalled) hk⟩

/-- The end of a call under way. -/
theorem Process.ends {before after : List (ClosingCall × Option CycleAnnualClosing)}
    {call : ClosingCall} {read : Option CycleAnnualClosing} (h : Process k s c) (clock : Int)
    (hlisted : s.underWay = before ++ (call, read) :: after) :
    Ends rules k s c before call read after clock := by
  have hmem : (call, read) ∈ s.underWay := by
    rw [hlisted]
    exact List.mem_append_right _ (List.mem_cons_self)
  cases hdone : finishCall rules s.sources s.db clock read call with
  | error error =>
    have hafter : afterCall rules s clock read call = s.db := by rw [afterCall, hdone]
    refine ⟨?_, ?_, fun _ => by rw [hafter]; exact ⟨rfl, rfl, rfl⟩⟩
    · rw [hafter]
      exact .refuse s before after call read clock error hlisted hdone
    · rintro ⟨-, ⟨db, hok⟩, -⟩
      rw [hdone] at hok
      cases hok
  | ok db =>
    have hafter : afterCall rules s clock read call = db := by rw [afterCall, hdone]
    refine ⟨?_, ?_, ?_⟩
    · rw [hafter]
      exact .finish s before after call read clock db hlisted hdone
    all_goals
      rw [hafter]
      have hend := finish_closing h.coherent (h.about _ hmem)
        (fun seen hseen hid => (h.reads _ hmem seen hseen hid).2) hdone
    · rintro ⟨hown, -, hnew⟩
      obtain ⟨-, -, hrepeats⟩ | ⟨-, -, c', hcoherent, hmoved⟩ := hend
      · obtain ⟨seen, hseen, hrepeats⟩ := hrepeats hown
        exact absurd hrepeats (hnew seen hseen)
      · exact ⟨c', hcoherent.row, hmoved⟩
    · intro hold
      obtain ⟨-, hsame, -⟩ | ⟨hnew, hown, -⟩ := hend
      · exact hsame
      · exact absurd ⟨hown, ⟨db, hdone⟩, hnew⟩ hold

/-- One step of the system. -/
theorem Process.step (h : Process k s c) (hstep : ClosingStep rules s t) :
    ∃ c', Process k t c' ∧ ((c' = c ∧ Untouched k s.db t.db) ∨ Moved c c') := by
  have hself : Untouched k s.db s.db := ⟨rfl, rfl, rfl⟩
  cases hstep with
  | begin call =>
    refine ⟨c, ⟨h.coherent, ?_, ?_⟩, .inl ⟨rfl, hself⟩⟩
    · intro x hx seen hseen hid
      rcases List.mem_append.mp hx with hx | hx
      · exact h.reads x hx seen hseen hid
      · rw [List.mem_singleton] at hx
        subst hx
        have hrow : seen = c := by
          have hkey : seen.id = call.closingId := lookup_key hseen
          rw [← hkey, hid, h.coherent.row] at hseen
          exact (Option.some.inj hseen).symm
        exact ⟨by rw [hrow], fun _ => hrow⟩
    · intro x hx seen hseen
      rcases List.mem_append.mp hx with hx | hx
      · exact h.about x hx seen hseen
      · rw [List.mem_singleton] at hx
        subst hx
        exact lookup_key hseen
  | finish before after call read clock db hlisted hdone =>
    have hmem : (call, read) ∈ s.underWay := by
      rw [hlisted]
      exact List.mem_append_right _ (List.mem_cons_self)
    have hrest : ∀ x ∈ before ++ after, x ∈ s.underWay := by
      rw [hlisted]
      exact fun x hx => mem_of_mem_others hx
    have habout : ∀ x ∈ before ++ after, ∀ seen, x.2 = some seen → seen.id = x.1.closingId :=
      fun x hx => h.about x (hrest x hx)
    rcases finish_closing h.coherent (h.about _ hmem)
        (fun seen hseen hid => (h.reads _ hmem seen hseen hid).2) hdone with
      ⟨hcoherent, hsame, -⟩ | ⟨-, -, c', hcoherent, hmoved, -⟩
    · exact ⟨c, ⟨hcoherent, fun x hx => h.reads x (hrest x hx), habout⟩, .inl ⟨rfl, hsame⟩⟩
    · refine ⟨c', ⟨hcoherent, ?_, habout⟩, .inr hmoved⟩
      intro x hx seen hseen hid
      have hpast := (h.reads x (hrest x hx) seen hseen hid).1
      have hrevision := hmoved.revision
      exact ⟨by omega, by omega⟩
  | refuse before after call read clock error hlisted =>
    have hrest : ∀ x ∈ before ++ after, x ∈ s.underWay := by
      rw [hlisted]
      exact fun x hx => mem_of_mem_others hx
    exact ⟨c, ⟨h.coherent, fun x hx => h.reads x (hrest x hx), fun x hx => h.about x (hrest x hx)⟩,
      .inl ⟨rfl, hself⟩⟩
  | change sources users cashEvidence files =>
    exact ⟨c, ⟨⟨h.coherent.row, h.coherent.closings, h.coherent.reviews, h.coherent.versions,
      h.coherent.stage⟩, h.reads, h.about⟩, .inl ⟨rfl, rfl, rfl, rfl⟩⟩

/-- A run keeps the rows fitting, and an approved review stays the approved one. -/
theorem Process.run (h : Process k s c) (hrun : ReflTransGen (ClosingStep rules) s t) :
    ∃ c', Process k t c' ∧ ∀ id, c.approvedReviewId = some id → c'.approvedReviewId = some id := by
  induction hrun with
  | refl => exact ⟨c, h, fun _ hid => hid⟩
  | tail _ hstep ih =>
    obtain ⟨c', hprocess, hkept⟩ := ih
    obtain ⟨c'', hnext, hchange⟩ := hprocess.step hstep
    refine ⟨c'', hnext, ?_⟩
    intro id hid
    rcases hchange with ⟨rfl, -⟩ | hmoved
    · exact hkept id hid
    · exact hmoved.kept id (hkept id hid)

/-- A closing as it is created, with no call under way. -/
structure Opened (k : Nat) (s : ClosingSystem) (c : CycleAnnualClosing) : Prop where
  row : s.db.closing? k = some c
  closings : Keyed CycleAnnualClosing.id s.db.closings
  reviews : Keyed CycleAnnualClosingReview.id s.db.reviews
  status : c.status = .ASSESSING
  unapproved : c.approvedReviewId = none
  unreviewed : s.db.reviewsOf k = []
  unsealed : snapshotsOf s.db k = []
  idle : s.underWay = []

theorem Opened.process (h : Opened k s c) : Process k s c where
  coherent := ⟨h.row, h.closings, h.reviews, by rw [h.unreviewed]; rfl,
    .assessing h.status h.unapproved h.unreviewed h.unsealed⟩
  reads := by
    intro x hx
    rw [h.idle] at hx
    cases hx
  about := by
    intro x hx
    rw [h.idle] at hx
    cases hx

/-- Through every interleaving of calls, a closing only moves forward: a call that ends is a new
transition, to the status it is for and one revision further, or it is refused, repeats what is there
or is about another closing, and changes nothing; its reviews are numbered from one; one review at most is
ever approved and one snapshot at most exists; and once it is closed, the snapshot says what the
approved review says, which is the latest one. -/
theorem closing_moves_forward (hopened : Opened k s c) (hrun : ReflTransGen (ClosingStep rules) s t) :
    ∃ x, t.db.closing? k = some x ∧
      (x.status = .ASSESSING ∨ x.status = .READY_FOR_REVIEW ∨ x.status = .MASTER_APPROVED ∨
        x.status = .CLOSED) ∧
      (t.db.reviewsOf k).map CycleAnnualClosingReview.reviewVersion =
        List.range' 1 (t.db.reviewsOf k).length ∧
      (snapshotsOf t.db k).length ≤ 1 ∧
      (x.status = .CLOSED → ∃ r snapshot, t.db.latestReview? k = some r ∧
        x.approvedReviewId = some r.id ∧ r.processRevision + 2 = x.stateRevision ∧
        snapshotsOf t.db k = [snapshot] ∧ Official snapshot r) ∧
      (∀ u, ClosingStep rules t u → Untouched k t.db u.db ∨
        ∃ y, u.db.closing? k = some y ∧ Moved x y) ∧
      (∀ before call read after, t.underWay = before ++ (call, read) :: after →
        ∀ clock, Ends rules k t x before call read after clock) ∧
      ∀ u, ReflTransGen (ClosingStep rules) t u → ∀ id, x.approvedReviewId = some id →
        ∃ y, u.db.closing? k = some y ∧ y.approvedReviewId = some id := by
  obtain ⟨x, hprocess, -⟩ := hopened.process.run hrun
  have hcoherent := hprocess.coherent
  refine ⟨x, hcoherent.row, ?_, hcoherent.versions, ?_, ?_, ?_,
    fun _ _ _ _ hlisted clock => hprocess.ends clock hlisted, ?_⟩
  · cases hcoherent.stage with
    | assessing hstatus => exact .inl hstatus
    | ready _ hstatus => exact .inr (.inl hstatus)
    | approved _ hstatus => exact .inr (.inr (.inl hstatus))
    | closed _ _ hstatus => exact .inr (.inr (.inr hstatus))
  · by_cases hclosed : x.status = .CLOSED
    · cases hcoherent.stage with
      | closed _ _ _ _ _ _ _ hsealed => rw [hsealed, List.length_singleton]
      | assessing hstatus => simp [hstatus] at hclosed
      | ready _ hstatus => simp [hstatus] at hclosed
      | approved _ hstatus => simp [hstatus] at hclosed
    · rw [hcoherent.stage.unsealed hclosed]
      exact Nat.zero_le _
  · intro hclosed
    cases hcoherent.stage with
    | closed r snapshot _ hchosen hlatest hrevision hofficial hsealed =>
      exact ⟨r, snapshot, hcoherent.latest.trans hlatest, hchosen, hrevision, hsealed, hofficial⟩
    | assessing hstatus => simp [hstatus] at hclosed
    | ready _ hstatus => simp [hstatus] at hclosed
    | approved _ hstatus => simp [hstatus] at hclosed
  · intro u hstep
    obtain ⟨y, hnext, ⟨rfl, hsame⟩ | hmoved⟩ := hprocess.step hstep
    · exact .inl hsame
    · exact .inr ⟨y, hnext.coherent.row, hmoved⟩
  · intro u hlater id hid
    obtain ⟨y, hnext, hkept⟩ := hprocess.run hlater
    exact ⟨y, hnext.coherent.row, hkept id hid⟩

private def sampleMemory : CycleClosing.ClosingMemory where
  cycleId := 1
  cycleStartDate := 20454
  closingCutoffAt := 1767225600000000
  grossRealizedResult := 0
  administrationFee := 0
  distributableResult := 0
  totalEligibleContributions := 0
  participants := []
  contributions := []
  includedGains := []
  excludedGains := []
  ownBalanceSettledLoanIds := []
  sourceGaps := []

private def sampleDigest : String := String.ofList (List.replicate 64 'a')

private def sampleRules : SnapshotRules where
  sha256 := fun _ => sampleDigest
  validateEngineResult := fun _ => .ok ()
  verifySnapshot := fun _ => .ok ()

private def sampleClosing : CycleAnnualClosing where
  id := 1
  cycleId := 1
  status := .ASSESSING
  stateRevision := 0
  approvedAt := none
  approvedBy := none
  approvedReviewId := none
  closedAt := none
  closedBy := none

private def sampleCash : CycleAnnualClosingCashEvidence where
  id := 1
  closingId := 1
  cycleId := 1
  fileId := 1
  storageReference := "cash"
  fileSha256 := sampleDigest
  declaredCashBalance := 0
  observedAt := 1767225600000000
  closingCutoffAt := 1767225600000000
  attestedBy := 7

private def sampleSystem : ClosingSystem where
  db :=
    { users := [{ id := 7, isActive := true, isAdmin := true, isMaster := true }]
      closings := [sampleClosing]
      cashEvidence := [sampleCash]
      files := [{ id := 1, storageKey := "cash", sha256 := sampleDigest, revokedAt := none }] }
  sources :=
    { preview := fun _ _ => .ok { memory := sampleMemory, calculationHash := sampleDigest }
      ledgerCash := fun _ => .ok (0, [])
      verifiedSha256 := fun _ _ => .ok (some sampleDigest) }
  underWay := []

private def samplePrepare : ClosingCall := .prepare 1 0 { instant := 1767225600000000 } 1 7
private def sampleApprove : ClosingCall := .approve 1 1 1 7
private def samplePersist : ClosingCall := .persist 1 none none (some 2)

private def sampleReady : CycleAnnualClosing :=
  { sampleClosing with status := .READY_FOR_REVIEW, stateRevision := 1 }

private def sampleApproved : CycleAnnualClosing :=
  { sampleReady with status := .MASTER_APPROVED, stateRevision := 2, approvedAt := some 0
                     approvedBy := some 7, approvedReviewId := some 1 }

private def sampleClosed : CycleAnnualClosing :=
  { sampleApproved with status := .CLOSED, stateRevision := 3, closedAt := some 0, closedBy := some 7 }

private def sampleReview (evidence : Reconciled) : CycleAnnualClosingReview :=
  let unhashed :=
    unhashedReview sampleSystem.db sampleClosing sampleCash evidence none 1767225600000000 7
  { unhashed with reviewHash := reviewDigest sampleRules.sha256 unhashed }

private def sampleSnapshot (evidence : Reconciled) (totals : SnapshotTotals) :
    CycleAnnualClosingSnapshot where
  id := 1
  closingId := 1
  cycleId := 1
  snapshotVersion := snapshotVersion
  closingCutoffAt := 1767225600000000
  calculationVersion := CycleClosing.calculationVersion
  canonicalPayload := Json.dumps (resultJson evidence.result)
  payloadHash := sampleDigest
  totals := totals
  createdBy := 7

private def samplePreparedDb (evidence : Reconciled) : ClosingDb :=
  { sampleSystem.db.putClosing sampleReady with reviews := [sampleReview evidence] }

private def sampleApprovedDb (evidence : Reconciled) : ClosingDb :=
  (samplePreparedDb evidence).putClosing sampleApproved

private def sampleClosedDb (evidence : Reconciled) (totals : SnapshotTotals) : ClosingDb :=
  { (sampleApprovedDb evidence).putClosing sampleClosed with
    snapshots := [sampleSnapshot evidence totals] }

private theorem sample_prepare : ∃ evidence, evidence.result.memory = sampleMemory ∧
    reconcile sampleRules.sha256 sampleSystem.sources sampleCash 1 1767225600000000 = .ok evidence ∧
    finishCall sampleRules sampleSystem.sources sampleSystem.db 0 (some sampleClosing) samplePrepare =
      .ok (samplePreparedDb evidence) := ⟨_, rfl, rfl, rfl⟩

variable {evidence : Reconciled}

private theorem sample_approve
    (h : reconcile sampleRules.sha256 sampleSystem.sources sampleCash 1 1767225600000000 =
      .ok evidence) :
    finishCall sampleRules sampleSystem.sources (samplePreparedDb evidence) 0 (some sampleReady)
      sampleApprove = .ok (sampleApprovedDb evidence) := by
  have hcurrent : revalidateCycleClosingReview sampleRules.sha256 sampleSystem.sources
      (samplePreparedDb evidence) (sampleReview evidence) = .ok evidence.result := by
    refine revalidate_prepared ?_ h (by decide)
    rfl
  simp only [finishCall, sampleApprove, approveCycleClosingReview, bind_eq_ok, pure_eq_ok,
    refuseIf_eq_ok, orRefuse_eq_ok, exists_and_left, exists_const]
  refine ⟨_, rfl, sampleReady, rfl, by decide, sampleReady, rfl, sampleReview evidence, rfl,
    sampleReview evidence, rfl, ?_, evidence.result, hcurrent, by decide, rfl⟩
  simp only [ne_eq, not_true_eq_false, false_or, not_or, not_not]
  exact ⟨rfl, rfl, rfl⟩

private theorem sample_persist (hmemory : evidence.result.memory = sampleMemory)
    (h : reconcile sampleRules.sha256 sampleSystem.sources sampleCash 1 1767225600000000 =
      .ok evidence) :
    ∃ totals, finishCall sampleRules sampleSystem.sources (sampleApprovedDb evidence) 0
      (some sampleApproved) samplePersist = .ok (sampleClosedDb evidence totals) := by
  have hcurrent : revalidateCycleClosingReview sampleRules.sha256 sampleSystem.sources
      (sampleApprovedDb evidence) (sampleReview evidence) = .ok evidence.result := by
    refine revalidate_prepared ?_ h (by decide)
    rfl
  obtain ⟨totals, htotals, hequation⟩ : ∃ totals,
      validateResultTotals evidence.result.memory 1 = .ok totals ∧
        totals.grossRealizedResult = totals.administrationFee + totals.distributableResult := by
    rw [hmemory]
    exact ⟨_, rfl, by decide⟩
  refine ⟨totals, map_eq_ok.mpr
    ⟨(sampleClosedDb evidence totals, sampleSnapshot evidence totals), ?_, rfl⟩⟩
  simp only [persistApprovedCycleClosingSnapshot, bind_eq_ok, orRefuse_eq_ok]
  refine ⟨sampleApproved, rfl, ?_⟩
  rw [if_neg (by decide)]
  simp only [bind_eq_ok, pure_eq_ok, refuseIf_eq_ok, orRefuse_eq_ok, Prod.mk.injEq, exists_and_left,
    exists_const]
  refine ⟨by decide, by decide, sampleReview evidence, rfl, ?_, by decide, 7, rfl, _, rfl, ?_, (), rfl,
    _, rfl, Bool.false_ne_true, sampleApproved, rfl, evidence.result, hcurrent, totals, htotals, _, rfl,
    ?_, sampleClosedDb evidence totals, ?_, rfl, rfl⟩
  · simp only [not_or, not_not, ne_eq]
    exact ⟨rfl, rfl⟩
  · simp only [not_or, not_not, ne_eq]
    exact ⟨rfl, rfl⟩
  · simp only [not_not, ne_eq]
    rfl
  · simp only [insertSnapshot, bind_eq_ok, pure_eq_ok, requireConstraint_eq_ok, exists_and_left,
      exists_const]
    exact ⟨List.forall_mem_nil _, List.forall_mem_nil _, List.forall_mem_nil _, hequation, rfl⟩

/-- A closing that is prepared, approved while a second approval is under way, and persisted: the
approval is a new transition, the second one changes nothing, and the closed row has its snapshot. -/
theorem sample_closing_moves_forward :
    (∃ t x read, ReflTransGen (ClosingStep sampleRules) sampleSystem t ∧ t.db.closing? 1 = some x ∧
      Transition sampleRules 1 t 0 read sampleApprove ∧
      ∃ y, (afterCall sampleRules t 0 read sampleApprove).closing? 1 = some y ∧ Moved x y ∧
        y.status = .MASTER_APPROVED) ∧
    (∃ t x read, ReflTransGen (ClosingStep sampleRules) sampleSystem t ∧ t.db.closing? 1 = some x ∧
      x.status = .MASTER_APPROVED ∧ Ends sampleRules 1 t x [] sampleApprove read [] 0 ∧
      afterCall sampleRules t 0 read sampleApprove = t.db) ∧
    ∃ t x r snapshot, ReflTransGen (ClosingStep sampleRules) sampleSystem t ∧
      t.db.closing? 1 = some x ∧ x.status = .CLOSED ∧ x.stateRevision = 3 ∧
      x.approvedReviewId = some r.id ∧ snapshotsOf t.db 1 = [snapshot] ∧ Official snapshot r := by
  have hopened : Opened 1 sampleSystem sampleClosing := by
    constructor <;> first | rfl | decide
  obtain ⟨evidence, hmemory, hevidence, hprepare⟩ := sample_prepare
  have happrove := sample_approve hevidence
  obtain ⟨totals, hpersist⟩ := sample_persist hmemory hevidence
  let prepared : ClosingSystem :=
    { sampleSystem with db := samplePreparedDb evidence
                        underWay := [(sampleApprove, some sampleReady), (sampleApprove, some sampleReady)] }
  have hprepared : ReflTransGen (ClosingStep sampleRules) sampleSystem prepared :=
    (((ReflTransGen.single (.begin sampleSystem samplePrepare)).tail
      (.finish { sampleSystem with underWay := [(samplePrepare, some sampleClosing)] } [] [] samplePrepare
        (some sampleClosing) 0 _ rfl hprepare)).tail
      (.begin { sampleSystem with db := samplePreparedDb evidence } sampleApprove)).tail
      (.begin { prepared with underWay := [(sampleApprove, some sampleReady)] } sampleApprove)
  let approved : ClosingSystem :=
    { sampleSystem with db := sampleApprovedDb evidence, underWay := [(sampleApprove, some sampleReady)] }
  have happroved : ReflTransGen (ClosingStep sampleRules) sampleSystem approved :=
    hprepared.tail (.finish prepared [] [(sampleApprove, some sampleReady)] sampleApprove
      (some sampleReady) 0 _ rfl happrove)
  let closed : ClosingSystem :=
    { sampleSystem with db := sampleClosedDb evidence totals }
  have hrefused : finishCall sampleRules sampleSystem.sources (sampleApprovedDb evidence) 0
      (some sampleReady) sampleApprove = .error (.valueError "stale annual closing state revision") := rfl
  have hclosed : ReflTransGen (ClosingStep sampleRules) sampleSystem closed :=
    ((happroved.tail (.refuse approved [] [] sampleApprove (some sampleReady) 0 _ rfl hrefused)).tail
      (.begin { approved with underWay := [] } samplePersist)).tail
      (.finish { approved with underWay := [(samplePersist, some sampleApproved)] } [] [] samplePersist
        (some sampleApproved) 0 _ rfl hpersist)
  refine ⟨?_, ?_, ?_⟩
  · obtain ⟨x, hrow, -, -, -, -, -, hends, -⟩ := closing_moves_forward hopened hprepared
    have htransition : Transition sampleRules 1 prepared 0 (some sampleReady) sampleApprove :=
      ⟨rfl, ⟨_, happrove⟩, fun _ _ => not_false⟩
    exact ⟨prepared, x, some sampleReady, hprepared, hrow, htransition,
      (hends [] sampleApprove (some sampleReady) _ rfl 0).new htransition⟩
  · obtain ⟨x, hrow, -, -, -, -, -, hends, -⟩ := closing_moves_forward hopened happroved
    obtain rfl : sampleApproved = x := Option.some.inj hrow
    exact ⟨approved, sampleApproved, some sampleReady, happroved, rfl, rfl,
      hends [] sampleApprove _ [] rfl 0, rfl⟩
  · obtain ⟨x, hrow, -, -, -, hofficial, -⟩ := closing_moves_forward hopened hclosed
    obtain rfl : sampleClosed = x := Option.some.inj hrow
    obtain ⟨r, snapshot, -, hchosen, -, hsealed, hsays⟩ := hofficial rfl
    exact ⟨closed, sampleClosed, r, snapshot, hclosed, rfl, rfl, rfl, hchosen, hsealed, hsays⟩

end Caixinha.Properties.ClosingProcess
