import Caixinha.Effects.PayoutCalls

/-! Destinations and ownership checks of a member over any run of calls: what every reachable book
looks like, that a redelivery changes nothing, and when a first final result is taken in. -/
namespace Caixinha.Properties.PayoutVerification
open Caixinha.Model Caixinha.Effects Caixinha.Library.Table Caixinha.Library.Fallible

variable {env : PayoutEnv} {book book' : PayoutBook} {attempt : VerificationAttempt}
variable {authenticity : Authenticity} {delivery again : ProviderDelivery} {now : Int}
variable {row e : VerificationEvidence} {stored answer : Answer}

section Reached

/-- The rows end with a final one, and it is the only final one. -/
def EndsFinal (rows : List VerificationEvidence) : Prop :=
  ∃ done last, rows = done ++ [last] ∧ last.resultState.isFinal = true ∧
    ∀ e ∈ done, e.resultState.isFinal = false

/-- The tables of the two services fit together. -/
structure Consistent (book : PayoutBook) : Prop where
  one_destination : ∀ memberId, (activeDestinations book.payees.destinations memberId).length ≤ 1
  versions : ∀ memberId, (versionsOf book.payees.destinations memberId).map PayoutDestination.version =
    List.range' 1 (versionsOf book.payees.destinations memberId).length
  one_attempt : ∀ destinationId, (activeAttempts book destinationId).length ≤ 1
  sequences : ∀ a ∈ book.attempts, (book.evidenceOf a.id).map VerificationEvidence.sequence =
    List.range' 1 (book.evidenceOf a.id).length
  final : ∀ a ∈ book.attempts, a.state = .FINAL ↔ EndsFinal (book.evidenceOf a.id)

private theorem one_attempt (h : PayoutSound env book) (destinationId : Nat) :
    (activeAttempts book destinationId).length ≤ 1 := by
  have hnodup : (activeAttempts book destinationId).Nodup :=
    (List.Nodup.of_map _ h.keyed).filter _
  have heq : ∀ a ∈ activeAttempts book destinationId, ∀ b ∈ activeAttempts book destinationId, a = b := by
    intro a ha b hb
    simp only [activeAttempts, List.mem_filter, decide_eq_true_eq] at ha hb
    exact h.one_active a ha.1 b hb.1 (ha.2.1.trans hb.2.1.symm) ha.2.2 hb.2.2
  rcases hlist : activeAttempts book destinationId with _ | ⟨a, _ | ⟨b, rest⟩⟩
  · simp
  · simp
  · rw [hlist] at hnodup heq
    have hab : a = b := heq a (by simp) b (by simp)
    rw [hab] at hnodup
    simp at hnodup

private theorem final_iff (h : AttemptSound env book attempt) :
    attempt.state = .FINAL ↔ EndsFinal (book.evidenceOf attempt.id) := by
  constructor
  · exact h.closed
  · rintro ⟨done, last, hrows, hlast, -⟩
    by_contra hopen
    have hpending := h.pending hopen last (by simp [hrows])
    rw [hlast] at hpending
    cases hpending

theorem consistent_of_sound (h : PayoutSound env book) : Consistent book where
  one_destination := h.destinations.one_active
  versions := h.destinations.versions
  one_attempt := one_attempt h
  sequences a ha := (h.attempts a ha).sequences
  final a ha := final_iff (h.attempts a ha)

end Reached

section Redelivered

/-- The same answer of the provider once more, received and checked at other times. -/
structure Redelivery (delivery again : ProviderDelivery) : Prop where
  result : again.result = { delivery.result with receivedAt := again.result.receivedAt }
  received : again.result.receivedAt.aware = true
  status : again.authenticityStatus = delivery.authenticityStatus
  method : again.authenticityMethod = delivery.authenticityMethod
  checked : again.authenticityCheckedAt.map Timestamp.aware =
    delivery.authenticityCheckedAt.map Timestamp.aware

private theorem validateAuthenticity_again {status : String} {method : Option String}
    {checkedAt checkedAgain : Option Timestamp}
    (hchecked : checkedAgain.map Timestamp.aware = checkedAt.map Timestamp.aware)
    (h : validateAuthenticity status method checkedAt = .ok authenticity) :
    ∃ other, validateAuthenticity status method checkedAgain = .ok other ∧
      other.status = authenticity.status ∧ other.method = authenticity.method := by
  unfold validateAuthenticity at h ⊢
  split at h
  · rename_i hstatus
    rw [if_pos hstatus]
    split at h
    · rename_i hnone
      rw [hnone.2] at hchecked
      have hagain : checkedAgain = none := by simpa using hchecked
      rw [if_pos ⟨hnone.1, hagain⟩]
      exact ⟨_, h, rfl, rfl⟩
    · cases h
  · rename_i hstatus
    rw [if_neg hstatus]
    simp only [bind_eq_ok, pure_eq_ok, orRaise_eq_ok] at h
    obtain ⟨checked, hkind, name, hname, _, htext, time, htime, instant, haware, rfl⟩ := h
    subst hname htime
    obtain ⟨other, rfl, hother⟩ : ∃ other, checkedAgain = some other ∧ other.aware = time.aware := by
      cases checkedAgain with
      | none => cases hchecked
      | some other => exact ⟨other, rfl, by simpa using hchecked⟩
    have htimed : time.aware = true := by
      unfold awareUtc at haware
      split at haware
      · assumption
      · cases haware
    refine ⟨.checked checked name other.instant, ?_, rfl, rfl⟩
    simp only [hkind, orRaise, ok_bind, htext, awareUtc, hother, htimed, if_true]
    rfl

private theorem contract_again {r r' : VerificationResult}
    (hresult : r' = { r with receivedAt := r'.receivedAt }) (hreceived : r'.receivedAt.aware = true)
    (h : r.contract = .ok ()) : r'.contract = .ok () := by
  rw [hresult]
  simp only [VerificationResult.contract, bind_eq_ok] at h ⊢
  obtain ⟨_, hid, _, hname, _, -, hrest⟩ := h
  exact ⟨_, hid, _, hname, (), by simp [requireAware, hreceived], hrest⟩

theorem readDelivery_again (hagain : Redelivery delivery again)
    (h : readDelivery delivery = .ok authenticity) :
    ∃ other, readDelivery again = .ok other ∧
      SameDelivery (delivery.result.answer authenticity) (again.result.answer other) := by
  simp only [readDelivery, bind_eq_ok, pure_eq_ok] at h
  obtain ⟨_, hcontract, _, hrequest, _, hresponse, _, hevent, checked, hchecked, _, hreason, rfl⟩ := h
  obtain ⟨other, hother, hstatus, hmethod⟩ := validateAuthenticity_again hagain.checked hchecked
  have hresult := hagain.result
  refine ⟨other, ?_, ?_⟩
  · simp only [readDelivery, bind_eq_ok, pure_eq_ok]
    refine ⟨(), contract_again hresult hagain.received hcontract, (), ?_, (), ?_, (), ?_, other, ?_, (), ?_,
      rfl⟩
    · rw [hresult]
      exact hrequest
    · rw [hresult]
      exact hresponse
    · rw [hresult]
      exact hevent
    · rw [hagain.status, hagain.method]
      exact hother
    · rw [hresult]
      exact hreason
  · rw [hresult]
    exact ⟨rfl, rfl, rfl, rfl, rfl, rfl, hstatus, hmethod⟩

/-- A stored delivery stays stored, also as its redelivery. -/
theorem redelivered (hstored : Stored env book delivery authenticity attempt row)
    (h : PayoutSound env book) (hkept : PayoutKept book book') (hagain : Redelivery delivery again) :
    ∃ other later, Stored env book' again other later row := by
  obtain ⟨other, hread, hsame⟩ := readDelivery_again hagain hstored.read
  obtain ⟨later, hlater, hidentity, -⟩ := hkept.attempts attempt (h.lookup_of_mem hstored.mem)
  have hid : later.id = attempt.id := lookup_key hlater
  have hprovider : later.providerName = attempt.providerName := by rw [hidentity]
  refine ⟨other, later, hread, lookup_mem hlater, ?_, ?_, ?_, ?_, ?_⟩
  · rw [hidentity, hagain.result]
    exact hstored.token
  · rw [hprovider, hagain.result]
    exact hstored.provider
  · rw [hid]
    exact hkept.evidenceOf hstored.row_mem
  · have hstart := hstored.fingerprint
    rw [fingerprintOf, hprovider, deliveryFingerprint_congr hidentity, deliveryFingerprint_congr hidentity,
      hsame.fingerprint]
    exact hstart
  · rw [hagain.result]
    exact hstored.digest

end Redelivered

section FirstFinal

/-- No event id and no response id in common; the request id may be. -/
def SharesAtMostRequest (stored answer : Answer) : Prop :=
  (∀ id, stored.eventId = some id → answer.eventId ≠ some id) ∧
    ∀ id, stored.responseId = some id → answer.responseId ≠ some id

/-- Answers to one request are told apart by an id of a kind that both carry. -/
def Distinguished (stored answer : Answer) : Prop :=
  (∃ id, answer.requestId = some id ∧ stored.requestId = some id) →
    (stored.eventId.isSome ∧ answer.eventId.isSome) ∨ (stored.responseId.isSome ∧ answer.responseId.isSome)

/-- A final result that its open attempt sees for the first time: well formed, with an event or a
response id of its own, and with the request id at most in common with what is stored. -/
structure FirstFinal (env : PayoutEnv) (book : PayoutBook) (delivery : ProviderDelivery)
    (authenticity : Authenticity) (attempt : VerificationAttempt) : Prop where
  read : readDelivery delivery = .ok authenticity
  mem : attempt ∈ book.attempts
  token : attempt.attemptId = delivery.result.attemptId
  provider : delivery.result.providerName = attempt.providerName
  isOpen : attempt.state ≠ .FINAL
  isFinal : delivery.result.state.isFinal = true
  named : delivery.result.providerEventId.isSome ∨ delivery.result.providerResponseId.isSome
  fresh : ∀ e ∈ book.evidenceOf attempt.id,
    SharesAtMostRequest e.answer (delivery.result.answer authenticity)
  digest : ∀ digest ∈ delivery.result.evidenceDigest, ∃ destination freshness,
    book.destination? attempt.destinationId = some destination ∧
    freshnessForAttempt book attempt destination = .ok freshness ∧
    digest = computeEvidenceDigest env attempt attempt.providerName
      (delivery.result.answer authenticity) freshness

/-- The result is stored as it came. -/
def Accepted (env : PayoutEnv) (book : PayoutBook) (delivery : ProviderDelivery)
    (authenticity : Authenticity) (now : Int) : Prop :=
  ∃ book' row, recordVerificationResult env book delivery now = .ok (book', row) ∧
    row.answer = delivery.result.answer authenticity

private theorem decide_ne_of_fresh {known new : Option String}
    (h : ∀ id, known = some id → new ≠ some id) (hnew : new.isSome = true) : decide (new = known) = false := by
  rw [decide_eq_false_iff_not]
  rintro rfl
  obtain ⟨id, hid⟩ := Option.isSome_iff_exists.mp hnew
  exact h id hid hid

private theorem shares_eq_false_iff (h : SharesAtMostRequest stored answer) :
    sharesProviderCorrelation stored answer = false ↔ Distinguished stored answer := by
  unfold sharesProviderCorrelation Distinguished
  by_cases hevents : answer.eventId.isSome ∧ stored.eventId.isSome
  · have hother := of_decide_eq_false (decide_ne_of_fresh h.1 hevents.1)
    rw [if_pos hevents, if_neg hother]
    refine ⟨fun _ _ => .inl hevents.symm, fun _ => ?_⟩
    split
    · rename_i hresponses
      exact decide_ne_of_fresh h.2 hresponses.1
    · rfl
  · rw [if_neg hevents]
    by_cases hresponses : answer.responseId.isSome ∧ stored.responseId.isSome
    · rw [if_pos hresponses]
      exact ⟨fun _ _ => .inr hresponses.symm, fun _ => decide_ne_of_fresh h.2 hresponses.1⟩
    · have hnone : ¬ ((stored.eventId.isSome ∧ answer.eventId.isSome) ∨
          (stored.responseId.isSome ∧ answer.responseId.isSome)) :=
        not_or.mpr ⟨fun hboth => hevents hboth.symm, fun hboth => hresponses hboth.symm⟩
      -- only the request ids are left to tell the two answers apart
      rw [if_neg hresponses, imp_iff_not hnone]
      cases hnew : answer.requestId <;> cases hknown : stored.requestId <;> simp [eq_comm]

private theorem freshness_unique {destination : PayoutDestination} {freshness : DestinationFreshness}
    (hfinal : FirstFinal env book delivery authenticity attempt)
    (hfound : book.destination? attempt.destinationId = some destination)
    (hfresh : freshnessForAttempt book attempt destination = .ok freshness) :
    ¬ delivery.result.evidenceDigest.any (· ≠ computeEvidenceDigest env attempt attempt.providerName
      (delivery.result.answer authenticity) freshness) = true := by
  have hdigest := hfinal.digest
  cases hopt : delivery.result.evidenceDigest with
  | none => simp
  | some digest =>
    rw [hopt] at hdigest
    obtain ⟨d, f, hd, hf, rfl⟩ := hdigest digest rfl
    cases Option.some.inj (hd.symm.trans hfound)
    cases Except.ok.inj (hf.symm.trans hfresh)
    simp

private theorem no_final_stored (h : PayoutSound env book)
    (hfinal : FirstFinal env book delivery authenticity attempt) :
    ∀ e ∈ book.evidenceOf attempt.id, e.answer.state.isFinal = false :=
  (h.attempts attempt hfinal.mem).pending hfinal.isOpen

/-- The new row meets none of the unique indexes. -/
private theorem insertEvidence_ok (hsha : Set.InjOn env.sha256 payoutTexts) (h : PayoutSound env book)
    (hfinal : FirstFinal env book delivery authenticity attempt) (freshness : DestinationFreshness) :
    ∃ book', insertEvidence book attempt (newEvidence book attempt (delivery.result.answer authenticity)
      freshness (computeEvidenceDigest env attempt attempt.providerName
        (delivery.result.answer authenticity) freshness) now) =
      .ok (book', newEvidence book attempt (delivery.result.answer authenticity) freshness
        (computeEvidenceDigest env attempt attempt.providerName
          (delivery.result.answer authenticity) freshness) now) := by
  have hsound := h.attempts attempt hfinal.mem
  have hpending := no_final_stored h hfinal
  have hadvance := @advanceAttempt_open { book with evidence := book.evidence ++
    [newEvidence book attempt (delivery.result.answer authenticity) freshness
      (computeEvidenceDigest env attempt attempt.providerName
        (delivery.result.answer authenticity) freshness) now] } attempt h.keyed
    (h.lookup_of_mem hfinal.mem) hfinal.isOpen
  simp only [insertEvidence, bind_eq_ok, pure_eq_ok, raiseWhen_eq_ok, Prod.mk.injEq, hadvance]
  refine ⟨_, (), ?_, _, rfl, rfl, trivial⟩
  rintro ⟨x, hx, hsequence | hdigest | ⟨hxfinal, -⟩⟩
  · have hmem : x.sequence ∈ (book.evidenceOf attempt.id).map VerificationEvidence.sequence :=
      List.mem_map_of_mem hx
    have hnext : x.sequence = nextSequence book attempt := hsequence
    rw [hsound.sequences, List.mem_range'_1, hnext, hsound.nextSequence_eq] at hmem
    omega
  · have hstate := isFinal_of_digest hsha ((hsound.digests x hx).symm.trans hdigest)
    rw [hpending x hx] at hstate
    exact Bool.noConfusion (hstate.trans hfinal.isFinal)
  · exact Bool.noConfusion ((hpending x hx).symm.trans hxfinal)

/-- A first final result is accepted exactly when the loop over the stored rows lets it pass. -/
private theorem accepted_iff_distinguished (hsha : Set.InjOn env.sha256 payoutTexts)
    (h : PayoutSound env book) (hfinal : FirstFinal env book delivery authenticity attempt) (now : Int) :
    Accepted env book delivery authenticity now ↔
      ∀ e ∈ book.evidenceOf attempt.id, Distinguished e.answer (delivery.result.answer authenticity) := by
  obtain ⟨destination, hlocated⟩ := locateAttempt_of_mem h hfinal.mem hfinal.token hfinal.provider
  obtain ⟨-, -, hfound, -⟩ := locateAttempt_spec hlocated
  have hsound := h.attempts attempt hfinal.mem
  have hpending := no_final_stored h hfinal
  have hother : ∀ e ∈ book.evidenceOf attempt.id, fingerprintOf env attempt e ≠
      deliveryFingerprint env attempt attempt.providerName (delivery.result.answer authenticity) := by
    intro x hx hsame
    have hstate := isFinal_of_fingerprint hsha hsame
    rw [hpending x hx] at hstate
    exact Bool.noConfusion (hstate.trans hfinal.isFinal)
  constructor
  · rintro ⟨book', row, hok, -⟩ x hx
    simp only [recordVerificationResult, bind_eq_ok, Prod.exists] at hok
    obtain ⟨read, hread, a, d, hlocate, replay, hreplay, hok⟩ := hok
    cases Except.ok.inj (hread.symm.trans hfinal.read)
    cases Except.ok.inj (hlocate.symm.trans hlocated)
    rw [hfinal.provider] at hreplay
    cases replay with
    | some found =>
      obtain ⟨hmem, hsame⟩ := findDeliveryReplay_some hreplay
      exact absurd hsame (hother found hmem)
    | none =>
      exact (shares_eq_false_iff (hfinal.fresh x hx)).mp (findDeliveryReplay_none.mp hreplay x hx).2
  · intro hdistinguished
    have hreplay : findDeliveryReplay env book attempt attempt.providerName
        (delivery.result.answer authenticity) = .ok none := by
      rw [findDeliveryReplay_none]
      intro x hx
      exact ⟨hother x hx, (shares_eq_false_iff (hfinal.fresh x hx)).mpr (hdistinguished x hx)⟩
    obtain ⟨freshness, hfresh⟩ := freshnessForAttempt_ok h hfinal.mem hfound
    have hdigest := freshness_unique hfinal hfound hfresh
    have hunknown : (book.evidenceOf attempt.id).find? (fun e => e.evidenceDigest =
        computeEvidenceDigest env attempt attempt.providerName
          (delivery.result.answer authenticity) freshness) = none := by
      rw [List.find?_eq_none]
      intro x hx hsame
      have hstate := isFinal_of_digest hsha ((hsound.digests x hx).symm.trans (of_decide_eq_true hsame))
      rw [hpending x hx] at hstate
      exact Bool.noConfusion (hstate.trans hfinal.isFinal)
    have hfinals : (book.evidenceOf attempt.id).filter (fun e => e.resultState.isFinal) = [] := by
      rw [List.filter_eq_nil_iff]
      intro x hx hyes
      exact Bool.noConfusion ((hpending x hx).symm.trans hyes)
    obtain ⟨book', hinsert⟩ := @insertEvidence_ok env book attempt authenticity delivery now hsha h
      hfinal freshness
    refine ⟨book', newEvidence book attempt (delivery.result.answer authenticity) freshness
      (computeEvidenceDigest env attempt attempt.providerName
        (delivery.result.answer authenticity) freshness) now, ?_, rfl⟩
    simp only [recordVerificationResult, hfinal.read, ok_bind, hlocated, hfinal.provider, hreplay,
      recordNewDelivery, hfresh, hunknown, hfinals, oneOrNone, hinsert]
    rw [show raiseWhen (attempt.state = .FINAL) _ = .ok () from raiseWhen_eq_ok.mpr hfinal.isOpen, ok_bind,
      show raiseWhen _ _ = .ok () from raiseWhen_eq_ok.mpr hdigest, ok_bind,
      show raiseWhen _ _ = .ok () from raiseWhen_eq_ok.mpr (by simp), ok_bind]

end FirstFinal

section Runs
variable (env) (members : List Member) (users : List User)

/-- The book after a run of calls for people without destinations. -/
def bookAfter (calls : List PayoutCall) : PayoutBook :=
  runPayout env (PayoutBook.opened members users) calls

/-- Every run leaves consistent tables, takes back nothing and stores a redelivery nowhere; a first
final result is accepted exactly when each stored answer to the same request shares with it the
presence of an event id or of a response id. -/
theorem first_final_accepted_iff (hsha : Set.InjOn env.sha256 payoutTexts) (calls : List PayoutCall) :
    Consistent (bookAfter env members users calls) ∧
    (∀ more, PayoutKept (bookAfter env members users calls)
      (bookAfter env members users (calls ++ more))) ∧
    (∀ delivery now book' row,
      recordVerificationResult env (bookAfter env members users calls) delivery now = .ok (book', row) →
      ∀ more again later, Redelivery delivery again →
        recordVerificationResult env (runPayout env book' more) again later =
          .ok (runPayout env book' more, row)) ∧
    ∀ delivery authenticity attempt,
      FirstFinal env (bookAfter env members users calls) delivery authenticity attempt →
      ∀ now, Accepted env (bookAfter env members users calls) delivery authenticity now ↔
        ∀ e ∈ (bookAfter env members users calls).evidenceOf attempt.id,
          Distinguished e.answer (delivery.result.answer authenticity) := by
  obtain ⟨h, -⟩ := (PayoutSound.opened members users).run hsha calls
  refine ⟨consistent_of_sound h, ?_, ?_, ?_⟩
  · intro more
    have hsplit : bookAfter env members users (calls ++ more) =
        runPayout env (bookAfter env members users calls) more := List.foldl_append ..
    rw [hsplit]
    exact (h.run hsha more).2
  · intro delivery now book' row hok more again later hagain
    obtain ⟨hstep, authenticity, attempt, hstored⟩ := recordVerificationResult_cases hsha h hok
    have hsound : PayoutSound env book' := by
      rcases hstep with rfl | hstep
      · exact h
      · exact h.step hstep
    obtain ⟨hlater, hkept⟩ := hsound.run hsha more
    obtain ⟨other, found, hagain⟩ := redelivered hstored hsound hkept hagain
    exact hagain.replayed hsha hlater later
  · intro delivery authenticity attempt hfinal now
    exact accepted_iff_distinguished hsha h hfinal now

end Runs

section Sample

private def sampleEnv : PayoutEnv where
  sha256 := fun text => text
  validateEmail := fun _ => none
  encrypt := fun text => .ok text

private def sampleMembers : List Member := [{ id := 1 }]

private def sampleUsers : List User := [{ id := 1, isActive := true, isAdmin := true, isMaster := true }]

private def sampleRequest : StartRequest where
  destinationId := 1
  idempotencyKey := "first"
  providerName := "provider"
  requestedBy := none
  requestedAt := none
  token := "attempt"
  now := 0

/-- A pending answer to a request, with or without an id of its event. -/
private def pendingDelivery (eventId : Option String) : ProviderDelivery where
  result := {
    attemptId := "attempt"
    state := .pending
    providerName := "provider"
    receivedAt := { instant := 1000000 }
    providerRequestId := some "r1"
    providerEventId := eventId }
  authenticityStatus := "NOT_CHECKED"

/-- The final answer to the same request, with an event id. -/
private def finalDelivery : ProviderDelivery where
  result := {
    attemptId := "attempt"
    state := .final .CONFIRMED
    providerName := "provider"
    receivedAt := { instant := 2000000 }
    providerRequestId := some "r1"
    providerEventId := some "e1" }
  authenticityStatus := "NOT_CHECKED"

private def sampleCalls (eventId : Option String) : List PayoutCall :=
  [.create 1 "cpf" "529.982.247-25" 1 0, .start sampleRequest, .record (pendingDelivery eventId) 1000000]

private def sampleAttempt : VerificationAttempt where
  id := 1
  attemptId := "attempt"
  idempotencyKey := "first"
  destinationId := 1
  destinationVersion := 1
  keyType := .CPF
  providerName := "provider"
  state := .PENDING
  requestedAt := 0
  requestedBy := none
  createdAt := 0

private theorem sample_injective : Set.InjOn sampleEnv.sha256 payoutTexts := fun _ _ _ _ h => h

private abbrev sampleBook (eventId : Option String) : PayoutBook :=
  bookAfter sampleEnv sampleMembers sampleUsers (sampleCalls eventId)

private theorem sampleBook_rows (eventId : Option String) (h : eventId ∈ [none, some "e0"]) :
    (sampleBook eventId).attempts = [sampleAttempt] ∧
      ((sampleBook eventId).evidenceOf 1).map VerificationEvidence.answer =
        [(pendingDelivery eventId).result.answer .notChecked] := by
  revert eventId
  decide +kernel

private theorem sample_answer {eventId : Option String} (h : eventId ∈ [none, some "e0"])
    {e : VerificationEvidence} (he : e ∈ (sampleBook eventId).evidenceOf sampleAttempt.id) :
    e.answer = (pendingDelivery eventId).result.answer .notChecked := by
  have hanswer : e.answer ∈ [(pendingDelivery eventId).result.answer .notChecked] := by
    rw [← (sampleBook_rows eventId h).2]
    exact List.mem_map_of_mem he
  exact List.mem_singleton.mp hanswer

private theorem sample_first_final (eventId : Option String) (h : eventId ∈ [none, some "e0"]) :
    FirstFinal sampleEnv (sampleBook eventId) finalDelivery .notChecked sampleAttempt where
  read := by decide
  mem := by
    rw [(sampleBook_rows eventId h).1]
    simp
  token := rfl
  provider := rfl
  isOpen := by decide
  isFinal := rfl
  named := .inl rfl
  fresh := by
    intro e he
    rw [sample_answer h he]
    refine ⟨?_, fun id _ => by simp [finalDelivery, VerificationResult.answer]⟩
    intro id hid
    have hknown : eventId = some id := hid
    rw [hknown] at h
    have hid : id = "e0" := by simpa using h
    rw [hid]
    decide
  digest := by
    intro digest hdigest
    cases hdigest

theorem sample_first_final_accepted :
    Accepted sampleEnv (sampleBook (some "e0")) finalDelivery .notChecked 2000000 := by
  have haccepted := (first_final_accepted_iff sampleEnv sampleMembers sampleUsers sample_injective
    (sampleCalls (some "e0"))).2.2.2 _ _ _ (sample_first_final (some "e0") (by decide)) 2000000
  refine haccepted.mpr fun e he => ?_
  rw [sample_answer (by decide) he]
  exact fun _ => .inl ⟨rfl, rfl⟩

/-- A request answered first without an event id and then, finally, with one: the final answer is
taken for a conflict and refused. -/
theorem pending_request_blocks_the_final_result :
    ¬ ∀ calls delivery authenticity attempt,
      FirstFinal sampleEnv (bookAfter sampleEnv sampleMembers sampleUsers calls) delivery authenticity
        attempt →
      ∀ now, Accepted sampleEnv (bookAfter sampleEnv sampleMembers sampleUsers calls) delivery
        authenticity now := by
  intro hall
  have hfinal := sample_first_final none (by decide)
  have haccepted := hall (sampleCalls none) finalDelivery .notChecked sampleAttempt hfinal 2000000
  obtain ⟨hsound, -⟩ := (PayoutSound.opened sampleMembers sampleUsers).run sample_injective (sampleCalls none)
  have hanswers := (sampleBook_rows none (by decide)).2
  obtain ⟨e, he, hanswer⟩ := List.mem_map.mp (hanswers ▸ List.mem_singleton_self _)
  have hdistinguished := (accepted_iff_distinguished sample_injective hsound hfinal 2000000).mp haccepted e he
  rw [hanswer] at hdistinguished
  rcases hdistinguished ⟨"r1", rfl, rfl⟩ with ⟨hevent, -⟩ | ⟨hresponse, -⟩
  · cases hevent
  · cases hresponse

end Sample

end Caixinha.Properties.PayoutVerification
