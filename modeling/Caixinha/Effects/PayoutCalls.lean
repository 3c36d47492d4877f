import Caixinha.Effects.PayoutBooks

/-! The calls of the payout services on a sound book: each one leaves it as it is or takes one of
the steps, and a result is stored exactly once. -/
namespace Caixinha.Effects
open Caixinha.Model Caixinha.Library.Table Caixinha.Library.Fallible

variable {env : PayoutEnv} {book book' : PayoutBook} {attempt : VerificationAttempt}
variable {destination : PayoutDestination} {row e stored : VerificationEvidence}
variable {authenticity : Authenticity} {delivery : ProviderDelivery} {now : Int}

section Start
variable {request : StartRequest} {requestedAt : Int}

@[simp] theorem whenGiven_some_eq_ok {α : Type} {a : α} {check : α → PayoutTx Unit} {u : Unit} :
    whenGiven (some a) check = .ok u ↔ check a = .ok u := Iff.rfl

@[simp] theorem requireNonblank_eq_ok {text name : String} {u : Unit} :
    requireNonblank text name = .ok u ↔ isBlank text = false := by
  simp [requireNonblank]

@[simp] theorem requirePositive_eq_ok {id : Nat} {name : String} {u : Unit} :
    requirePositive id name = .ok u ↔ 0 < id := by
  simp [requirePositive, Nat.pos_iff_ne_zero]

theorem contract_eq_ok : attempt.contract = .ok () ↔ isBlank attempt.attemptId = false ∧
    isBlank attempt.idempotencyKey = false ∧ 0 < attempt.destinationId ∧
    0 < attempt.destinationVersion := by
  simp only [VerificationAttempt.contract, bind_eq_ok, requireNonblank_eq_ok, requirePositive_eq_ok]
  simp

private theorem step_createAttempt (h : PayoutSound env book) (hkey : isBlank request.idempotencyKey = false)
    (hok : createAttempt book request requestedAt = .ok (book', attempt)) :
    PayoutStep env book book' := by
  simp only [createAttempt, bind_eq_ok, pure_eq_ok, orRaise_eq_ok, raiseWhen_eq_ok, Prod.mk.injEq] at hok
  obtain ⟨locator, hlocator, member, hmember, active, -, current, -, _, -, _, -, running, hrunning, _,
    hnone, _, htoken, rfl, rfl⟩ := hok
  obtain ⟨hblank, hfresh⟩ := not_or.mp htoken
  have hfree : activeAttempts book request.destinationId = [] := by
    rw [Classical.not_not] at hnone
    subst hnone
    exact oneOrNone_none.mp hrunning
  have hmem : locator ∈ book.payees.destinations := lookup_mem hlocator
  have hid : locator.id = request.destinationId := lookup_key hlocator
  have hcontract : (newVerificationAttempt book request locator requestedAt).contract = .ok () := by
    have hpositive : 0 < request.destinationId := hid ▸ h.destinations.positive locator hmem
    have htext : isBlank request.token = false := by simpa using hblank
    exact contract_eq_ok.mpr ⟨htext, hkey, hpositive, h.destinations.version_pos hmem⟩
  refine .start rfl hfresh rfl hcontract hlocator rfl rfl ?_ hfree
  rw [show lookup Member.id book.payees.members locator.memberId = some member by
    simpa [lockMember] using hmember]
  rfl

theorem startVerificationAttempt_cases (h : PayoutSound env book)
    (hok : startVerificationAttempt book request = .ok (book', attempt)) :
    book' = book ∨ PayoutStep env book book' := by
  simp only [startVerificationAttempt, bind_eq_ok] at hok
  obtain ⟨_, -, _, hkey, _, -, _, -, requestedAt, -, hok⟩ := hok
  have hnonblank : isBlank request.idempotencyKey = false := by
    simp only [requireText, raiseWhen_eq_ok, not_or] at hkey
    simpa using hkey.1
  split at hok
  · simp only [bind_eq_ok, pure_eq_ok, Prod.mk.injEq] at hok
    obtain ⟨_, -, rfl, -⟩ := hok
    exact .inl rfl
  · exact .inr (step_createAttempt h hnonblank hok)

end Start

section Record
variable {result : VerificationResult} {answer : Answer} {providerName : String}

theorem locateAttempt_spec (hok : locateAttempt book result = .ok (attempt, destination)) :
    attempt ∈ book.attempts ∧ attempt.attemptId = result.attemptId ∧
      book.destination? attempt.destinationId = some destination ∧
      result.providerName = attempt.providerName := by
  simp only [locateAttempt, bind_eq_ok, pure_eq_ok, orRaise_eq_ok, raiseWhen_eq_ok, Prod.mk.injEq] at hok
  obtain ⟨a, ha, d, hd, _, -, _, -, _, hname, rfl, rfl⟩ := hok
  refine ⟨List.mem_of_find?_eq_some ha, ?_, hd, Classical.not_not.mp hname⟩
  simpa using List.find?_some ha

/-- A sound attempt is found under its identifier. -/
theorem locateAttempt_of_mem (h : PayoutSound env book) (hmem : attempt ∈ book.attempts)
    (hid : attempt.attemptId = result.attemptId) (hname : result.providerName = attempt.providerName) :
    ∃ d, locateAttempt book result = .ok (attempt, d) := by
  obtain ⟨d, hd, hversion, hkind, hmember⟩ := (h.attempts attempt hmem).bound
  obtain ⟨member, hmember⟩ := Option.isSome_iff_exists.mp hmember
  have hfind : book.attempts.find? (fun a => a.attemptId = result.attemptId) = some attempt := by
    obtain ⟨x, hx⟩ : ∃ x, book.attempts.find? (fun a => a.attemptId = result.attemptId) = some x := by
      rw [← Option.isSome_iff_exists, List.find?_isSome]
      exact ⟨attempt, hmem, by simpa using hid⟩
    have hxid : x.attemptId = result.attemptId := by simpa using List.find?_some hx
    rw [hx, List.inj_on_of_nodup_map h.tokens (List.mem_of_find?_eq_some hx) hmem (hxid.trans hid.symm)]
  refine ⟨d, ?_⟩
  simp only [locateAttempt, bind_eq_ok, pure_eq_ok, orRaise_eq_ok, raiseWhen_eq_ok, Prod.mk.injEq]
  exact ⟨attempt, hfind, d, hd, member, by simpa [lockMember] using hmember, (),
    not_or.mpr ⟨not_not.mpr hversion, not_not.mpr hkind⟩, (), not_not.mpr hname, rfl, rfl⟩

/-- A stored result moves its attempt no further. -/
theorem advanceUnlessFinal_stored (h : AttemptSound env book attempt)
    (hmem : e ∈ book.evidenceOf attempt.id) {s : VerificationResultState}
    (hsame : e.resultState.isFinal = s.isFinal) : advanceUnlessFinal book attempt s = .ok book := by
  unfold advanceUnlessFinal
  split
  · rfl
  · rename_i hopen
    rw [h.pending hopen e hmem] at hsame
    cases s with
    | final outcome => cases hsame
    | pending =>
      cases hstate : attempt.state with
      | REQUESTED =>
        rw [h.requested hstate] at hmem
        cases hmem
      | PENDING => simp [advanceAttempt, hstate]
      | FINAL => exact absurd hstate hopen

/-- The freshness of a sound attempt can always be told. -/
theorem freshnessForAttempt_ok (h : PayoutSound env book) (hmem : attempt ∈ book.attempts)
    (hfound : book.destination? attempt.destinationId = some destination) :
    ∃ freshness, freshnessForAttempt book attempt destination = .ok freshness := by
  have hds := h.destinations
  have hcontract := (h.attempts attempt hmem).contract
  have hread : ∀ (id version : Nat) (status : Lifecycle), 0 < id → 0 < version →
      ∃ freshness, evaluateDestinationFreshness attempt id version status = .ok freshness := by
    intro id version status hid hversion
    simp only [evaluateDestinationFreshness, bind_eq_ok, requirePositive_eq_ok, pure_eq_ok, hid,
      hversion, true_and, exists_const, exists_eq']
  have hdmem : destination ∈ book.payees.destinations := lookup_mem hfound
  have hone := hds.one_active destination.memberId
  unfold freshnessForAttempt activeDestination
  rw [hcontract]
  rcases hlist : activeDestinations book.payees.destinations destination.memberId with _ | ⟨x, rest⟩
  · have hrevoked := activeDestinations_eq_nil.mp hlist destination hdmem rfl
    obtain ⟨-, -, hid, hversion⟩ := contract_eq_ok.mp hcontract
    simpa [oneOrNone, ok_bind, hrevoked] using hread attempt.destinationId _ destination.status hid hversion
  · obtain rfl : rest = [] := by
      rw [hlist, List.length_cons] at hone
      exact List.length_eq_zero_iff.mp (by omega)
    have hx : x ∈ activeDestinations book.payees.destinations destination.memberId := by simp [hlist]
    have hxmem := (mem_activeDestinations.mp hx).1
    simpa [oneOrNone, ok_bind] using
      hread x.id x.version x.status (hds.positive x hxmem) (hds.version_pos hxmem)

/-- What the attempt and the stored row of an accepted delivery are. -/
structure Stored (env : PayoutEnv) (book : PayoutBook) (delivery : ProviderDelivery)
    (authenticity : Authenticity) (attempt : VerificationAttempt) (row : VerificationEvidence) :
    Prop where
  read : readDelivery delivery = .ok authenticity
  mem : attempt ∈ book.attempts
  token : attempt.attemptId = delivery.result.attemptId
  provider : delivery.result.providerName = attempt.providerName
  row_mem : row ∈ book.evidenceOf attempt.id
  fingerprint : fingerprintOf env attempt row =
    deliveryFingerprint env attempt attempt.providerName (delivery.result.answer authenticity)
  digest : ∀ digest ∈ delivery.result.evidenceDigest, digest = row.evidenceDigest

private theorem any_ne_false {given : Option String} {digest : String}
    (h : ¬ given.any (· ≠ digest) = true) : ∀ d ∈ given, d = digest := by
  intro d hd
  cases given with
  | none => cases hd
  | some g =>
    cases Option.mem_some.mp hd
    simpa using h

/-- A delivery that repeats a stored one gets the stored row and changes nothing. -/
theorem Stored.replayed (hsha : Set.InjOn env.sha256 payoutTexts) (h : PayoutSound env book)
    (hstored : Stored env book delivery authenticity attempt row) (now : Int) :
    recordVerificationResult env book delivery now = .ok (book, row) := by
  obtain ⟨d, hlocated⟩ := locateAttempt_of_mem h hstored.mem hstored.token hstored.provider
  have hsound := h.attempts attempt hstored.mem
  have hreplay := findDeliveryReplay_of_mem hsound.fingerprints hstored.row_mem hstored.fingerprint
  have hstate := isFinal_of_fingerprint hsha hstored.fingerprint
  have hadvance := advanceUnlessFinal_stored (s := delivery.result.state) hsound hstored.row_mem hstate
  have hdigest : ¬ delivery.result.evidenceDigest.any (· ≠ row.evidenceDigest) = true := by
    have hgiven := hstored.digest
    cases hopt : delivery.result.evidenceDigest with
    | none => simp
    | some digest =>
      rw [hopt] at hgiven
      simpa using hgiven digest rfl
  unfold recordVerificationResult
  rw [hstored.read, ok_bind]
  simp only [hlocated, hstored.provider, hreplay, ok_bind]
  rw [show raiseWhen _ _ = .ok () from raiseWhen_eq_ok.mpr hdigest, ok_bind, hadvance]
  rfl

private theorem insertEvidence_spec {answer : Answer} {freshness : DestinationFreshness} {digest : String}
    (h : PayoutSound env book) (hmem : attempt ∈ book.attempts) (hopen : attempt.state ≠ .FINAL)
    (hok : insertEvidence book attempt (newEvidence book attempt answer freshness digest now) =
      .ok (book', row)) :
    row = newEvidence book attempt answer freshness digest now ∧
      book' = PayoutBook.setAttempt { book with evidence := book.evidence ++ [row] }
        { attempt with state := stateAfter row.resultState } := by
  simp only [insertEvidence, bind_eq_ok, pure_eq_ok, Prod.mk.injEq] at hok
  obtain ⟨_, -, advanced, hadvance, rfl, rfl⟩ := hok
  refine ⟨rfl, ?_⟩
  have hset := @advanceAttempt_open { book with evidence := book.evidence ++
    [newEvidence book attempt answer freshness digest now] } attempt h.keyed (h.lookup_of_mem hmem) hopen
  rw [hset] at hadvance
  exact (Except.ok.inj hadvance).symm

/-- A delivery that repeats no stored row adds one, unless it is refused. -/
private theorem recordNewDelivery_spec {answer : Answer} (hanswer : answer = result.answer authenticity)
    (h : PayoutSound env book) (hmem : attempt ∈ book.attempts)
    (hname : result.providerName = attempt.providerName)
    (hnew : ∀ e ∈ book.evidenceOf attempt.id,
      fingerprintOf env attempt e ≠ deliveryFingerprint env attempt attempt.providerName answer)
    (hok : recordNewDelivery env book attempt destination result authenticity now = .ok (book', row)) :
    attempt.state ≠ .FINAL ∧ row.answer = answer ∧
      row.verificationAttemptId = attempt.id ∧ row.sequence = nextSequence book attempt ∧
      row.evidenceDigest =
        computeEvidenceDigest env attempt attempt.providerName row.answer row.freshness ∧
      (∀ digest ∈ result.evidenceDigest, digest = row.evidenceDigest) ∧
      book' = PayoutBook.setAttempt { book with evidence := book.evidence ++ [row] }
        { attempt with state := stateAfter row.resultState } := by
  subst hanswer
  simp only [recordNewDelivery, bind_eq_ok, raiseWhen_eq_ok] at hok
  obtain ⟨_, hopen, freshness, -, _, hdigest, hok⟩ := hok
  split at hok
  · rename_i existing hexisting
    simp only [bind_eq_ok, raiseWhen_eq_ok, Classical.not_not] at hok
    obtain ⟨_, hmatches, -⟩ := hok
    have hsame := @SameDelivery.fingerprint env attempt _ _ attempt.providerName
      (sameDelivery_of_evidenceMatches hmatches)
    exact absurd hsame (hnew existing (List.mem_of_find?_eq_some hexisting))
  · simp only [bind_eq_ok, raiseWhen_eq_ok] at hok
    obtain ⟨finals, -, _, -, hinsert⟩ := hok
    obtain ⟨rfl, hbook⟩ := insertEvidence_spec h hmem hopen hinsert
    refine ⟨hopen, rfl, rfl, rfl, ?_, ?_, hbook⟩
    · rw [← hname]
      rfl
    · exact any_ne_false hdigest

theorem mem_evidenceOf_append (hattempt : row.verificationAttemptId = attempt.id) :
    row ∈ PayoutBook.evidenceOf { book with evidence := book.evidence ++ [row] } attempt.id := by
  rw [PayoutBook.evidenceOf, List.mem_filter]
  exact ⟨by simp, by simpa using hattempt⟩

/-- An accepted delivery is stored afterwards; before, either it was already and nothing
changed, or its row is the step's. -/
theorem recordVerificationResult_cases (hsha : Set.InjOn env.sha256 payoutTexts)
    (h : PayoutSound env book)
    (hok : recordVerificationResult env book delivery now = .ok (book', row)) :
    (book' = book ∨ PayoutStep env book book') ∧
      ∃ authenticity attempt, Stored env book' delivery authenticity attempt row := by
  simp only [recordVerificationResult, bind_eq_ok, Prod.exists] at hok
  obtain ⟨authenticity, hread, attempt, destination, hlocated, replay, hreplay, hok⟩ := hok
  obtain ⟨hmem, htoken, -, hname⟩ := locateAttempt_spec hlocated
  rw [hname] at hreplay
  cases replay with
  | some stored =>
    simp only [bind_eq_ok, pure_eq_ok, raiseWhen_eq_ok, Prod.mk.injEq] at hok
    obtain ⟨_, hdigest, advanced, hadvance, rfl, rfl⟩ := hok
    obtain ⟨hrow, hsame⟩ := findDeliveryReplay_some hreplay
    have hstate := isFinal_of_fingerprint hsha hsame
    rw [advanceUnlessFinal_stored (s := delivery.result.state) (h.attempts attempt hmem) hrow hstate]
      at hadvance
    cases hadvance
    exact ⟨.inl rfl, authenticity, attempt,
      ⟨hread, hmem, htoken, hname, hrow, hsame, any_ne_false hdigest⟩⟩
  | none =>
    have hnew := findDeliveryReplay_none.mp hreplay
    obtain ⟨hopen, hanswer, hattempt, hsequence, hrowdigest, hdigest, rfl⟩ :=
      recordNewDelivery_spec rfl h hmem hname (fun e he => (hnew e he).1) hok
    have hlookup := h.lookup_of_mem hmem
    refine ⟨.inr (.record hlookup hopen hattempt hsequence hrowdigest ?_), authenticity,
      { attempt with state := stateAfter row.resultState }, ?_⟩
    · intro e he
      rw [fingerprintOf, fingerprintOf, hanswer]
      exact (hnew e he).1
    · refine ⟨hread, ?_, htoken, hname, mem_evidenceOf_append hattempt, ?_, hdigest⟩
      · exact mem_replace_self (r := { attempt with state := stateAfter row.resultState }) hlookup
      · rw [← hanswer]

end Record

section Runs
/-- Every call leaves the book or takes one step. -/
theorem callPayout_cases (hsha : Set.InjOn env.sha256 payoutTexts) (h : PayoutSound env book)
    (call : PayoutCall) :
    callPayout env book call = book ∨ PayoutStep env book (callPayout env book call) := by
  unfold callPayout
  cases hok : attemptPayout env book call with
  | error e => exact .inl rfl
  | ok book' =>
    cases call with
    | create memberId keyType value actorId now =>
      simp only [attemptPayout, bind_eq_ok, pure_eq_ok, Prod.exists] at hok
      obtain ⟨payees, row, hcreate, rfl⟩ := hok
      obtain ⟨ds, rfl, hsteps⟩ := steps_createUnverifiedDestination hcreate
      exact .inr (.destinations hsteps)
    | replace memberId keyType value actorId now =>
      simp only [attemptPayout, bind_eq_ok, pure_eq_ok, Prod.exists] at hok
      obtain ⟨payees, row, hreplace, rfl⟩ := hok
      obtain ⟨ds, rfl, hsteps⟩ := steps_replaceDestination hreplace h.destinations
      exact .inr (.destinations hsteps)
    | revoke destinationId actorId now =>
      simp only [attemptPayout, bind_eq_ok, pure_eq_ok, Prod.exists] at hok
      obtain ⟨payees, row, hrevoke, rfl⟩ := hok
      obtain ⟨ds, rfl, hsteps⟩ := steps_revokeDestination hrevoke
      exact .inr (.destinations hsteps)
    | start request =>
      simp only [attemptPayout, bind_eq_ok, pure_eq_ok, Prod.exists] at hok
      obtain ⟨next, attempt, hstart, rfl⟩ := hok
      exact startVerificationAttempt_cases h hstart
    | record delivery now =>
      simp only [attemptPayout, bind_eq_ok, pure_eq_ok, Prod.exists] at hok
      obtain ⟨next, row, hrecord, rfl⟩ := hok
      exact (recordVerificationResult_cases hsha h hrecord).1

theorem PayoutSound.call (hsha : Set.InjOn env.sha256 payoutTexts) (h : PayoutSound env book)
    (call : PayoutCall) : PayoutSound env (callPayout env book call) := by
  rcases callPayout_cases hsha h call with hsame | hstep
  · exact hsame.symm ▸ h
  · exact h.step hstep

/-- A run keeps the invariant, and everything the book already held. -/
theorem PayoutSound.run (hsha : Set.InjOn env.sha256 payoutTexts) (h : PayoutSound env book)
    (calls : List PayoutCall) :
    PayoutSound env (runPayout env book calls) ∧ PayoutKept book (runPayout env book calls) := by
  induction calls generalizing book with
  | nil => exact ⟨h, .refl⟩
  | cons call calls ih =>
    obtain ⟨hsound, hkept⟩ := ih (h.call hsha call)
    refine ⟨hsound, PayoutKept.trans ?_ hkept⟩
    rcases callPayout_cases hsha h call with hsame | hstep
    · rw [hsame]
      exact .refl
    · exact hstep.kept

end Runs

end Caixinha.Effects
