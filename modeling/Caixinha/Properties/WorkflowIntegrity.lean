import Caixinha.Effects.WorkflowRequests
import Caixinha.Library.HashChain
import Caixinha.Library.JsonParser

/-! The chain of the file verifications: whatever the workflow does it verifies, and its head commits to
every verification made. -/
namespace Caixinha.Properties.WorkflowIntegrity

open Caixinha.Library Caixinha.Library.Table Json HashChain Caixinha.Model Caixinha.Model.Workflow
  Caixinha.Effects.Workflow

variable {env : Env} {settings : Settings} {s s' : State} {e f : IntegrityEvent} {rows : List IntegrityEvent}

/-- What a verification says, its digest and its place in the table apart. -/
structure Finding where
  fileId : Nat
  taskId : Nat
  eventType : String
  expectedSha256 : String
  observedSha256 : Option String
  status : String
  actorId : Option Nat
  details : Option String
  createdAt : Instant

def finding (e : IntegrityEvent) : Finding where
  fileId := e.fileId
  taskId := e.taskId
  eventType := e.eventType
  expectedSha256 := e.expectedSha256
  observedSha256 := e.observedSha256
  status := e.status
  actorId := e.actorId
  details := e.details
  createdAt := e.createdAt

/-- The texts that verifications are hashed from. -/
def payloadTexts : Set String := {text | ∃ e : IntegrityEvent, text = dumps e.payload}

/-- Events that verify: each names the digest before it and carries its own. -/
def Chained (env : Env) : Option String → List IntegrityEvent → Prop :=
  Linked IntegrityEvent.previousEventHash (fun e => some e.eventHash) (fun e => some (calculatedHash env e))

section Payload

private theorem nullable_inj {α : Type} {f : α → Value} (hinj : ∀ x y, sortKeys (f x) = sortKeys (f y) → x = y)
    (hnull : ∀ x, sortKeys (f x) ≠ .null) {a b : Option α}
    (h : sortKeys (nullable f a) = sortKeys (nullable f b)) : a = b := by
  cases a with
  | none =>
    cases b with
    | none => rfl
    | some y => exact absurd h.symm (hnull y)
  | some x =>
    cases b with
    | none => exact absurd h (hnull x)
    | some y => rw [hinj x y h]

private theorem distinct_keys (e : IntegrityEvent) : ∃ fields, e.payload = .obj fields ∧
    (fields.map Prod.fst).Nodup := by
  refine ⟨_, rfl, ?_⟩
  simp only [List.map_cons, List.map_nil]
  decide

/-- Every hashed column can be read off the payload. -/
private theorem payload_reads (e : IntegrityEvent) : get? e.payload "file_id" = some (idJson e.fileId) ∧
    get? e.payload "task_id" = some (idJson e.taskId) ∧
    get? e.payload "event_type" = some (.str e.eventType) ∧
    get? e.payload "expected_sha256" = some (.str e.expectedSha256) ∧
    get? e.payload "observed_sha256" = some (nullable .str e.observedSha256) ∧
    get? e.payload "status" = some (.str e.status) ∧
    get? e.payload "actor_id" = some (nullable idJson e.actorId) ∧
    get? e.payload "previous_event_hash" = some (nullable .str e.previousEventHash) ∧
    get? e.payload "details" = some (nullable .str e.details) ∧
    get? e.payload "created_at" = some (.str (Calendar.isoUtc e.createdAt.val)) :=
  ⟨rfl, rfl, rfl, rfl, rfl, rfl, rfl, rfl, rfl, rfl⟩

/-- Events hashed from the same text say the same and name the same digest. -/
theorem finding_eq_of_payload (h : dumps e.payload = dumps f.payload) :
    finding e = finding f ∧ e.previousEventHash = f.previousEventHash := by
  have hget : ∀ key v w, get? e.payload key = some v → get? f.payload key = some w → sortKeys v = sortKeys w := by
    intro key v w hv hw
    obtain ⟨fs, hfs, hnodup⟩ := distinct_keys e
    obtain ⟨gs, hgs, hnodup'⟩ := distinct_keys f
    have hread := get?_of_dumps hnodup hnodup' (hfs ▸ hgs ▸ h) key
    rw [← hfs, ← hgs, hv, hw] at hread
    exact Option.some.inj hread
  have htext : ∀ x y : String, sortKeys (.str x) = sortKeys (.str y) → x = y := fun _ _ => Value.str.inj
  have hid : ∀ x y : Nat, sortKeys (idJson x) = sortKeys (idJson y) → x = y :=
    fun _ _ he => Int.ofNat.inj (Value.int.inj he)
  have htexts : ∀ a b : Option String, sortKeys (nullable .str a) = sortKeys (nullable .str b) → a = b :=
    fun _ _ => nullable_inj htext fun _ hnull => Value.noConfusion hnull
  have hids : ∀ a b : Option Nat, sortKeys (nullable idJson a) = sortKeys (nullable idJson b) → a = b :=
    fun _ _ => nullable_inj hid fun _ hnull => Value.noConfusion hnull
  obtain ⟨hfile, htask, htype, hexpected, hobserved, hstatus, hactor, hprevious, hdetails, hcreated⟩ :=
    payload_reads e
  obtain ⟨hfile', htask', htype', hexpected', hobserved', hstatus', hactor', hprevious', hdetails',
    hcreated'⟩ := payload_reads f
  have hclock : e.createdAt = f.createdAt := Subtype.ext (Calendar.isoUtc_inj e.createdAt.property
    f.createdAt.property (htext _ _ (hget _ _ _ hcreated hcreated')))
  refine ⟨?_, htexts _ _ (hget _ _ _ hprevious hprevious')⟩
  simp only [finding, Finding.mk.injEq]
  exact ⟨hid _ _ (hget _ _ _ hfile hfile'), hid _ _ (hget _ _ _ htask htask'),
    htext _ _ (hget _ _ _ htype htype'), htext _ _ (hget _ _ _ hexpected hexpected'),
    htexts _ _ (hget _ _ _ hobserved hobserved'), htext _ _ (hget _ _ _ hstatus hstatus'),
    hids _ _ (hget _ _ _ hactor hactor'), htexts _ _ (hget _ _ _ hdetails hdetails'), hclock⟩

end Payload

section Chain

/-- The verifier finds nothing exactly in events that verify. -/
theorem chainFailures_eq_nil {start : Option String} :
    chainFailures env start rows = [] ↔ Chained env start rows := by
  induction rows generalizing start with
  | nil => simp [chainFailures, Chained, Linked]
  | cons e rest ih =>
    rw [chainFailures, List.append_eq_nil_iff, ih, Chained, Linked]
    simp only [ite_eq_right_iff, List.cons_ne_nil, imp_false, not_or, not_not, Option.isSome_some, true_and,
      Option.some.injEq, and_assoc]

/-- The table as the verifications leave it: its ids increase and its events verify. -/
structure Kept (env : Env) (rows : List IntegrityEvent) : Prop where
  ordered : rows.Pairwise (fun a b => a.id < b.id)
  chained : Chained env none rows

private theorem eventsInOrder_of_ordered (h : rows.Pairwise (fun a b => a.id < b.id)) :
    eventsInOrder rows = rows := (h.imp fun hlt => Nat.le_of_lt hlt).insertionSort_eq

private theorem getLast?_tip (rows : List IntegrityEvent) :
    rows.getLast?.map IntegrityEvent.eventHash = tip (fun e => some e.eventHash) none rows := by
  induction rows using List.reverseRecOn with
  | nil => rfl
  | append_singleton init last _ => rw [tip_append, List.getLast?_concat, Option.map_some]

private theorem Kept.verified (h : Kept env s.integrityEvents)
    (hfresh : e.id = nextKey IntegrityEvent.id s.integrityEvents) (hprevious : e.previousEventHash = lastHash s)
    (hhash : e.eventHash = calculatedHash env e) : Kept env (s.integrityEvents ++ [e]) := by
  constructor
  · rw [List.pairwise_append]
    refine ⟨h.ordered, List.pairwise_singleton _ _, fun a ha b hb => ?_⟩
    rw [List.mem_singleton.mp hb, hfresh]
    exact key_lt_nextKey ha
  · refine linked_append.mpr ⟨h.chained, ?_, rfl, congrArg some hhash⟩
    rw [hprevious, lastHash, eventsInOrder_of_ordered h.ordered, getLast?_tip]

theorem kept_change (h : Kept env s.integrityEvents) (hchange : Change env s s') :
    Kept env s'.integrityEvents ∧ s.integrityEvents <+: s'.integrityEvents := by
  have hsame : s'.integrityEvents = s.integrityEvents →
      Kept env s'.integrityEvents ∧ s.integrityEvents <+: s'.integrityEvents :=
    fun hrows => by
      rw [hrows]
      exact ⟨h, List.prefix_rfl⟩
  cases hchange with
  | verified fresh previous hash only =>
    rw [only]
    exact ⟨h.verified fresh previous hash, List.prefix_append _ _⟩
  | created _ _ _ only => exact hsame (by rw [only])
  | termed _ only => exact hsame (by rw [only])
  | raised _ _ _ only => exact hsame (by rw [only])
  | opened _ _ _ only => exact hsame (by rw [only])
  | actionRaised _ _ _ only => exact hsame (by rw [only])
  | acknowledged _ only => exact hsame (by rw [only])
  | moved _ only => exact hsame (by rw [only])
  | accepted _ _ _ _ _ only => exact hsame (by rw [only])
  | started _ _ _ _ _ _ only => exact hsame (by rw [only])
  | completed _ _ _ _ _ _ _ only => exact hsame (by rw [only])
  | synced _ _ only => exact hsame (by rw [only])
  | evidenceAdded _ _ only => exact hsame (by rw [only])
  | itemAdded _ _ _ only => exact hsame (by rw [only])
  | itemCompleted _ _ only => exact hsame (by rw [only])
  | fileAdded _ _ _ _ only => exact hsame (by rw [only])

end Chain

/-- Whatever requests interleave, verifications are only ever appended and their chain verifies; and with a
hash that is injective on their payloads, two tables that verify and report the same head say the same. -/
theorem verifications_are_committed (hid : Identified s) (h : Kept env s.integrityEvents)
    (calls : List (Instant × Call)) :
    let reached := run env settings s calls
    (verifyChain env reached.integrityEvents).valid = true ∧ s.integrityEvents <+: reached.integrityEvents ∧
      (Set.InjOn env.sha256 payloadTexts → ∀ rows, (verifyChain env rows).valid = true →
        (verifyChain env rows).headHash = (verifyChain env reached.integrityEvents).headHash →
        (eventsInOrder rows).map finding = reached.integrityEvents.map finding) := by
  intro reached
  have hchange : ∀ x y, Identified x → (Kept env x.integrityEvents ∧ s.integrityEvents <+: x.integrityEvents) →
      Change env x y → Kept env y.integrityEvents ∧ s.integrityEvents <+: y.integrityEvents := by
    rintro x y - ⟨hkept, hprefix⟩ hxy
    obtain ⟨hkept', hstep⟩ := kept_change hkept hxy
    exact ⟨hkept', hprefix.trans hstep⟩
  obtain ⟨hkept, hprefix⟩ := (@run_keeps env settings s _ hchange hid ⟨h, List.prefix_rfl⟩ calls).2
  have hsorted : eventsInOrder reached.integrityEvents = reached.integrityEvents :=
    eventsInOrder_of_ordered hkept.ordered
  have hvalid : ∀ rows, (verifyChain env rows).valid = true ↔ Chained env none (eventsInOrder rows) :=
    fun rows => decide_eq_true_iff.trans chainFailures_eq_nil
  refine ⟨(hvalid _).mpr (hsorted.symm ▸ hkept.chained), hprefix, fun hinj rows hrows hhead => ?_⟩
  rw [verifyChain, verifyChain, getLast?_tip, getLast?_tip, hsorted] at hhead
  refine contents_eq_of_tip_eq (fun r t _ hdigest => ?_) ((hvalid rows).mp hrows) hkept.chained hhead
  exact finding_eq_of_payload (hinj ⟨r, rfl⟩ ⟨t, rfl⟩ (Option.some.inj hdigest))

section Samples

private def sampleInstant : Instant := ⟨0, epoch_inRange⟩

private def sampleEnv : Env where
  sha256 := fun text => text
  lateChargeEffectiveDate := none

private def sampleEvidence : Evidence where
  id := 1
  taskId := 1
  addedBy := 7
  evidenceType := "ATTACHMENT"
  title := none
  content := "receipt"
  contentHash := ""
  createdAt := 0

private def sampleFile : EvidenceFile where
  id := 1
  evidenceId := 1
  version := 1
  originalName := "receipt.pdf"
  storageKey := "1/a.bin"
  contentType := "application/pdf"
  sizeBytes := 3
  sha256 := "abc"
  uploadedBy := 7
  createdAt := 0

private def sampleState : State where
  evidences := [sampleEvidence]
  files := [sampleFile]

/-- The file verifies, and then is missing. -/
private def sampleCalls : List (Instant × Call) :=
  [(sampleInstant, .verifyFile 1 7 fun _ => .ok (some "abc")), (sampleInstant, .verifyAll 7 fun _ => .ok none)]

private theorem sample_kept : Kept sampleEnv sampleState.integrityEvents := ⟨List.Pairwise.nil, trivial⟩

theorem sample_verifications_are_committed :
    let events := (run sampleEnv ⟨[], 1⟩ sampleState sampleCalls).integrityEvents
    (verifyChain sampleEnv events).valid = true ∧ ∀ rows, (verifyChain sampleEnv rows).valid = true →
      (verifyChain sampleEnv rows).headHash = (verifyChain sampleEnv events).headHash →
      (eventsInOrder rows).map finding = events.map finding := by
  obtain ⟨hvalid, -, hcommitted⟩ := @verifications_are_committed sampleEnv ⟨[], 1⟩ sampleState
    ⟨by decide, by decide, by decide⟩ sample_kept sampleCalls
  exact ⟨hvalid, hcommitted fun _ _ _ _ h => h⟩

end Samples

end Caixinha.Properties.WorkflowIntegrity
