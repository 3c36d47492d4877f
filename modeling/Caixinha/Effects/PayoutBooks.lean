import Caixinha.Effects.PayoutDeliveries

/-! What a call of the payout services can do to their tables, and the invariant every such step
keeps: attempts and evidence as one state machine over the versions of a destination. -/
namespace Caixinha.Effects
open Caixinha.Model Caixinha.Library.Table Caixinha.Library.Fallible

variable {env : PayoutEnv} {book book' : PayoutBook} {attempt attempt' : VerificationAttempt}
variable {destination : PayoutDestination} {row e stored : VerificationEvidence}
variable {authenticity : Authenticity} {delivery : ProviderDelivery} {now : Int}

/-- The state an attempt takes with a result. -/
def stateAfter (s : VerificationResultState) : AttemptState := if s.isFinal then .FINAL else .PENDING

theorem advanceAttempt_open (hkeyed : Keyed VerificationAttempt.id book.attempts)
    (hrow : lookup VerificationAttempt.id book.attempts attempt.id = some attempt)
    (hopen : attempt.state ≠ .FINAL) (s : VerificationResultState) :
    advanceAttempt book attempt s = .ok (book.setAttempt { attempt with state := stateAfter s }) := by
  cases s with
  | pending =>
    cases hstate : attempt.state with
    | REQUESTED => simp [advanceAttempt, hstate, stateAfter, VerificationResultState.isFinal]
    | PENDING =>
      have hself : ({ attempt with state := stateAfter .pending } : VerificationAttempt) = attempt := by
        cases attempt
        simp only at hstate
        rw [hstate]
        rfl
      rw [hself, PayoutBook.setAttempt, replace_self hkeyed hrow]
      simp [advanceAttempt, hstate]
    | FINAL => exact absurd hstate hopen
  | final outcome =>
    cases hstate : attempt.state with
    | REQUESTED => simp [advanceAttempt, hstate, stateAfter, VerificationResultState.isFinal]
    | PENDING => simp [advanceAttempt, hstate, stateAfter, VerificationResultState.isFinal]
    | FINAL => exact absurd hstate hopen

section Invariant

/-- An attempt with its evidence: numbered from one, pending until the attempt is final, and
then with the one final row at its end. -/
structure AttemptSound (env : PayoutEnv) (book : PayoutBook) (a : VerificationAttempt) : Prop where
  contract : a.contract = .ok ()
  bound : ∃ d, book.destination? a.destinationId = some d ∧ a.destinationVersion = d.version ∧
    a.keyType = d.keyType ∧ (lookup Member.id book.payees.members d.memberId).isSome
  sequences : (book.evidenceOf a.id).map VerificationEvidence.sequence =
    List.range' 1 (book.evidenceOf a.id).length
  requested : a.state = .REQUESTED → book.evidenceOf a.id = []
  pending : a.state ≠ .FINAL → ∀ e ∈ book.evidenceOf a.id, e.resultState.isFinal = false
  closed : a.state = .FINAL → ∃ done last, book.evidenceOf a.id = done ++ [last] ∧
    last.resultState.isFinal = true ∧ ∀ e ∈ done, e.resultState.isFinal = false
  digests : ∀ e ∈ book.evidenceOf a.id,
    e.evidenceDigest = computeEvidenceDigest env a a.providerName e.answer e.freshness
  fingerprints : ((book.evidenceOf a.id).map (fingerprintOf env a)).Nodup

structure PayoutSound (env : PayoutEnv) (book : PayoutBook) : Prop where
  destinations : DestinationsSound book.payees.destinations
  keyed : Keyed VerificationAttempt.id book.attempts
  tokens : (book.attempts.map VerificationAttempt.attemptId).Nodup
  one_active : ∀ a ∈ book.attempts, ∀ b ∈ book.attempts, a.destinationId = b.destinationId →
    a.state.isActive = true → b.state.isActive = true → a = b
  attempts : ∀ a ∈ book.attempts, AttemptSound env book a
  evidence : ∀ e ∈ book.evidence, ∃ a ∈ book.attempts, a.id = e.verificationAttemptId

theorem PayoutSound.opened (members : List Member) (users : List User) :
    PayoutSound env (PayoutBook.opened members users) where
  destinations := .nil
  keyed := .nil
  tokens := .nil
  one_active := by simp [PayoutBook.opened]
  attempts := by simp [PayoutBook.opened]
  evidence := by simp [PayoutBook.opened]

end Invariant

/-- What one successful call does, if anything. -/
inductive PayoutStep (env : PayoutEnv) (book : PayoutBook) : PayoutBook → Prop
  | destinations {ds : List PayoutDestination} (h : DestinationSteps book.payees.destinations ds) :
      PayoutStep env book { book with payees := { book.payees with destinations := ds } }
  | start {a : VerificationAttempt} {d : PayoutDestination}
      (hid : a.id = nextKey VerificationAttempt.id book.attempts)
      (htoken : a.attemptId ∉ book.attempts.map VerificationAttempt.attemptId)
      (hstate : a.state = .REQUESTED) (hcontract : a.contract = .ok ())
      (hfound : book.destination? a.destinationId = some d) (hversion : a.destinationVersion = d.version)
      (hkind : a.keyType = d.keyType)
      (hmember : (lookup Member.id book.payees.members d.memberId).isSome)
      (hfree : activeAttempts book a.destinationId = []) :
      PayoutStep env book { book with attempts := book.attempts ++ [a] }
  | record {a : VerificationAttempt} {row : VerificationEvidence}
      (hrow : lookup VerificationAttempt.id book.attempts a.id = some a) (hopen : a.state ≠ .FINAL)
      (hattempt : row.verificationAttemptId = a.id) (hsequence : row.sequence = nextSequence book a)
      (hdigest : row.evidenceDigest = computeEvidenceDigest env a a.providerName row.answer row.freshness)
      (hnew : ∀ e ∈ book.evidenceOf a.id, fingerprintOf env a e ≠ fingerprintOf env a row) :
      PayoutStep env book (PayoutBook.setAttempt { book with evidence := book.evidence ++ [row] }
        { a with state := stateAfter row.resultState })

section Keeping

private theorem evidenceOf_append (hattempt : row.verificationAttemptId = attempt.id) :
    PayoutBook.evidenceOf { book with evidence := book.evidence ++ [row] } attempt.id =
      book.evidenceOf attempt.id ++ [row] := by
  simp [PayoutBook.evidenceOf, hattempt]

private theorem evidenceOf_append_other {id : Nat} (hattempt : row.verificationAttemptId ≠ id) :
    PayoutBook.evidenceOf { book with evidence := book.evidence ++ [row] } id = book.evidenceOf id := by
  simp [PayoutBook.evidenceOf, hattempt]

/-- An attempt whose evidence is untouched stays sound. -/
theorem AttemptSound.frame (h : AttemptSound env book attempt)
    (hevidence : book'.evidenceOf attempt.id = book.evidenceOf attempt.id)
    (hdestinations : VersionsKept book.payees.destinations book'.payees.destinations)
    (hmembers : book'.payees.members = book.payees.members) : AttemptSound env book' attempt where
  contract := h.contract
  bound := by
    obtain ⟨d, hd, hversion, hkind, hmember⟩ := h.bound
    have hid : d.id = attempt.destinationId := lookup_key hd
    obtain ⟨d', hd', hkept, -⟩ := hdestinations d (hid.symm ▸ hd)
    refine ⟨d', hid ▸ hd', ?_, ?_, ?_⟩
    · rw [hkept]
      exact hversion
    · rw [hkept]
      exact hkind
    · rw [hmembers, hkept]
      exact hmember
  sequences := hevidence.symm ▸ h.sequences
  requested := hevidence.symm ▸ h.requested
  pending := hevidence.symm ▸ h.pending
  closed := hevidence.symm ▸ h.closed
  digests := hevidence.symm ▸ h.digests
  fingerprints := hevidence.symm ▸ h.fingerprints

theorem AttemptSound.nextSequence_eq (h : AttemptSound env book attempt) :
    nextSequence book attempt = (book.evidenceOf attempt.id).length + 1 := by
  rw [nextSequence, h.sequences, foldr_max_range']

/-- The attempt a new row belongs to. -/
private theorem AttemptSound.record (h : AttemptSound env book attempt) (hopen : attempt.state ≠ .FINAL)
    (hsequence : row.sequence = nextSequence book attempt)
    (hdigest : row.evidenceDigest =
      computeEvidenceDigest env attempt attempt.providerName row.answer row.freshness)
    (hnew : ∀ e ∈ book.evidenceOf attempt.id, fingerprintOf env attempt e ≠ fingerprintOf env attempt row)
    (hevidence : book'.evidenceOf attempt.id = book.evidenceOf attempt.id ++ [row])
    (hpayees : book'.payees = book.payees) :
    AttemptSound env book' { attempt with state := stateAfter row.resultState } where
  contract := h.contract
  bound := by
    obtain ⟨d, hd, hrest⟩ := h.bound
    refine ⟨d, ?_, hpayees.symm ▸ hrest⟩
    rw [PayoutBook.destination?, hpayees]
    exact hd
  sequences := by
    rw [hevidence, List.map_append, h.sequences, List.length_append, List.length_singleton,
      List.range'_1_concat, List.map_singleton, hsequence, h.nextSequence_eq, Nat.add_comm 1]
  requested := by
    intro hstate
    unfold stateAfter at hstate
    simp only at hstate
    split at hstate <;> cases hstate
  pending := by
    intro hstate e he
    rw [hevidence] at he
    have hpending : row.resultState.isFinal = false := by
      cases hfinal : row.resultState.isFinal with
      | false => rfl
      | true => exact absurd (by simp [stateAfter, hfinal]) hstate
    rcases List.mem_append.mp he with he | he
    · exact h.pending hopen e he
    · rw [List.mem_singleton.mp he]
      exact hpending
  closed := by
    intro hstate
    refine ⟨book.evidenceOf attempt.id, row, hevidence, ?_, h.pending hopen⟩
    unfold stateAfter at hstate
    simp only at hstate
    split at hstate
    · assumption
    · cases hstate
  digests := by
    intro e he
    rw [hevidence] at he
    rcases List.mem_append.mp he with he | he
    · exact h.digests e he
    · rw [List.mem_singleton.mp he]
      exact hdigest
  fingerprints := by
    rw [hevidence, List.map_append, List.map_singleton]
    refine List.nodup_append.mpr ⟨h.fingerprints, by simp, ?_⟩
    rintro x hx y hy rfl
    obtain ⟨e, he, hxe⟩ := List.mem_map.mp hx
    rw [List.mem_singleton] at hy
    exact hnew e he (hxe.trans hy)

theorem PayoutSound.lookup_of_mem (h : PayoutSound env book) (hmem : attempt ∈ book.attempts) :
    lookup VerificationAttempt.id book.attempts attempt.id = some attempt :=
  Library.Table.lookup_of_mem h.keyed hmem

private theorem PayoutSound.start_step {a : VerificationAttempt} {d : PayoutDestination}
    (h : PayoutSound env book) (hid : a.id = nextKey VerificationAttempt.id book.attempts)
    (htoken : a.attemptId ∉ book.attempts.map VerificationAttempt.attemptId)
    (hstate : a.state = .REQUESTED) (hcontract : a.contract = .ok ())
    (hfound : book.destination? a.destinationId = some d) (hversion : a.destinationVersion = d.version)
    (hkind : a.keyType = d.keyType) (hmember : (lookup Member.id book.payees.members d.memberId).isSome)
    (hfree : activeAttempts book a.destinationId = []) :
    PayoutSound env { book with attempts := book.attempts ++ [a] } := by
  have hnone : book.evidenceOf a.id = [] := by
    rw [PayoutBook.evidenceOf, List.filter_eq_nil_iff]
    intro e he
    obtain ⟨b, hb, hbe⟩ := h.evidence e he
    have : b.id < nextKey VerificationAttempt.id book.attempts := key_lt_nextKey hb
    simp only [decide_eq_true_eq]
    omega
  have hidle : ∀ b ∈ book.attempts, b.destinationId = a.destinationId → b.state.isActive = false := by
    intro b hb hsame
    have hnot := List.filter_eq_nil_iff.mp hfree b hb
    simpa [hsame] using hnot
  refine ⟨h.destinations, keyed_append h.keyed hid, ?_, ?_, ?_, ?_⟩
  · rw [List.map_append, List.map_singleton]
    refine List.nodup_append.mpr ⟨h.tokens, by simp, ?_⟩
    rintro x hx y hy rfl
    exact htoken (List.mem_singleton.mp hy ▸ hx)
  · intro x hx y hy hsame hxactive hyactive
    rcases List.mem_append.mp hx with hx | hx <;> rcases List.mem_append.mp hy with hy | hy
    · exact h.one_active x hx y hy hsame hxactive hyactive
    · rw [List.mem_singleton.mp hy] at hsame
      rw [hidle x hx hsame] at hxactive
      cases hxactive
    · rw [List.mem_singleton.mp hx] at hsame
      rw [hidle y hy hsame.symm] at hyactive
      cases hyactive
    · rw [List.mem_singleton.mp hx, List.mem_singleton.mp hy]
  · intro x hx
    rcases List.mem_append.mp hx with hx | hx
    · exact (h.attempts x hx).frame rfl .refl rfl
    · rw [List.mem_singleton.mp hx]
      have hempty : PayoutBook.evidenceOf { book with attempts := book.attempts ++ [a] } a.id = [] := hnone
      refine ⟨hcontract, ⟨d, hfound, hversion, hkind, hmember⟩, ?_, fun _ => hempty, ?_, ?_, ?_, ?_⟩
      · rw [hempty]
        rfl
      · rw [hempty]
        simp
      · intro hfinal
        rw [hstate] at hfinal
        cases hfinal
      · rw [hempty]
        simp
      · rw [hempty]
        exact .nil
  · intro e he
    obtain ⟨b, hb, hbe⟩ := h.evidence e he
    exact ⟨b, List.mem_append_left _ hb, hbe⟩

private theorem PayoutSound.record_step {a : VerificationAttempt} (h : PayoutSound env book)
    (hrow : lookup VerificationAttempt.id book.attempts a.id = some a) (hopen : a.state ≠ .FINAL)
    (hattempt : row.verificationAttemptId = a.id) (hsequence : row.sequence = nextSequence book a)
    (hdigest : row.evidenceDigest = computeEvidenceDigest env a a.providerName row.answer row.freshness)
    (hnew : ∀ e ∈ book.evidenceOf a.id, fingerprintOf env a e ≠ fingerprintOf env a row) :
    PayoutSound env (PayoutBook.setAttempt { book with evidence := book.evidence ++ [row] }
      { a with state := stateAfter row.resultState }) := by
  have hmem := lookup_mem hrow
  have hactive : a.state.isActive = true := by
    cases hstate : a.state with
    | FINAL => exact absurd hstate hopen
    | _ => rfl
  refine ⟨h.destinations, keyed_replace h.keyed, ?_, ?_, ?_, ?_⟩
  · rw [PayoutBook.setAttempt]
    have hmap := @map_replace _ VerificationAttempt.id book.attempts
      { a with state := stateAfter row.resultState } a _ VerificationAttempt.attemptId h.keyed hrow rfl
    rw [hmap]
    exact h.tokens
  · intro x hx y hy hsame hxactive hyactive
    rcases mem_replace_other hx with rfl | ⟨hx, hxid⟩ <;>
      rcases mem_replace_other hy with rfl | ⟨hy, hyid⟩
    · rfl
    · exact absurd (congrArg VerificationAttempt.id
        (h.one_active a hmem y hy hsame hactive hyactive)).symm hyid
    · exact absurd (congrArg VerificationAttempt.id
        (h.one_active x hx a hmem hsame hxactive hactive)) hxid
    · exact h.one_active x hx y hy hsame hxactive hyactive
  · intro x hx
    rcases mem_replace_other hx with rfl | ⟨hx, hxid⟩
    · exact (h.attempts a hmem).record hopen hsequence hdigest hnew
        (evidenceOf_append hattempt) rfl
    · refine (h.attempts x hx).frame (evidenceOf_append_other ?_) .refl rfl
      rw [hattempt]
      exact fun he => hxid he.symm
  · intro e he
    have hkeys : ∀ b ∈ book.attempts, ∃ b' ∈ replace VerificationAttempt.id book.attempts
        { a with state := stateAfter row.resultState }, b'.id = b.id := by
      intro b hb
      have hb' : b.id ∈ (replace VerificationAttempt.id book.attempts
          { a with state := stateAfter row.resultState }).map VerificationAttempt.id := by
        rw [keys_replace]
        exact List.mem_map_of_mem hb
      obtain ⟨b', hb', hid⟩ := List.mem_map.mp hb'
      exact ⟨b', hb', hid⟩
    rcases List.mem_append.mp he with he | he
    · obtain ⟨b, hb, hbe⟩ := h.evidence e he
      obtain ⟨b', hb', hid⟩ := hkeys b hb
      exact ⟨b', hb', hid.trans hbe⟩
    · obtain ⟨b', hb', hid⟩ := hkeys a hmem
      rw [List.mem_singleton.mp he]
      exact ⟨b', hb', hid.trans hattempt.symm⟩

theorem PayoutSound.step (h : PayoutSound env book) (hstep : PayoutStep env book book') :
    PayoutSound env book' := by
  cases hstep with
  | destinations hds =>
    refine ⟨h.destinations.steps hds, h.keyed, h.tokens, h.one_active, ?_, h.evidence⟩
    intro a ha
    exact (h.attempts a ha).frame rfl hds.kept rfl
  | start hid htoken hstate hcontract hfound hversion hkind hmember hfree =>
    exact h.start_step hid htoken hstate hcontract hfound hversion hkind hmember hfree
  | record hrow hopen hattempt hsequence hdigest hnew =>
    exact h.record_step hrow hopen hattempt hsequence hdigest hnew

end Keeping

section History

def AttemptState.rank : AttemptState → Nat
  | .REQUESTED => 0
  | .PENDING => 1
  | .FINAL => 2

/-- A later reading of the attempt: only its state differs, and it did not go back. -/
def AttemptKept (a a' : VerificationAttempt) : Prop :=
  a' = { a with state := a'.state } ∧ AttemptState.rank a.state ≤ AttemptState.rank a'.state

/-- What a later book still holds of an earlier one. -/
structure PayoutKept (book book' : PayoutBook) : Prop where
  destinations : VersionsKept book.payees.destinations book'.payees.destinations
  attempts : ∀ a, lookup VerificationAttempt.id book.attempts a.id = some a →
    ∃ a', lookup VerificationAttempt.id book'.attempts a.id = some a' ∧ AttemptKept a a'
  evidence : book.evidence <+: book'.evidence

theorem AttemptKept.refl : AttemptKept attempt attempt := ⟨rfl, Nat.le_refl _⟩

theorem PayoutKept.refl : PayoutKept book book :=
  ⟨.refl, fun a ha => ⟨a, ha, .refl⟩, List.prefix_rfl⟩

theorem PayoutKept.trans {last : PayoutBook} (h : PayoutKept book book') (h' : PayoutKept book' last) :
    PayoutKept book last := by
  refine ⟨h.destinations.trans h'.destinations, ?_, h.evidence.trans h'.evidence⟩
  intro a ha
  obtain ⟨x, hx, hsame, hrank⟩ := h.attempts a ha
  have hid : x.id = a.id := lookup_key hx
  obtain ⟨y, hy, hsame', hrank'⟩ := h'.attempts x (hid.symm ▸ hx)
  refine ⟨y, hid ▸ hy, ?_, hrank.trans hrank'⟩
  rw [hsame', hsame]

theorem PayoutStep.kept (h : PayoutStep env book book') : PayoutKept book book' := by
  cases h with
  | destinations hds => exact ⟨hds.kept, fun a ha => ⟨a, ha, .refl⟩, List.prefix_rfl⟩
  | start _ _ _ _ _ _ _ _ _ =>
    exact ⟨.refl, fun a ha => ⟨a, lookup_append_of_some ha, .refl⟩, List.prefix_rfl⟩
  | @record a row hrow hopen _ _ _ _ =>
    refine ⟨.refl, ?_, List.prefix_append _ _⟩
    intro x hx
    by_cases hid : x.id = a.id
    · have hxa : x = a := Option.some.inj (hx.symm.trans (hid ▸ hrow))
      subst hxa
      refine ⟨_, lookup_replace_self (r := { x with state := stateAfter row.resultState }) hrow, rfl, ?_⟩
      unfold stateAfter
      cases hstate : x.state with
      | FINAL => exact absurd hstate hopen
      | REQUESTED => exact Nat.zero_le _
      | PENDING =>
        simp only
        split <;> decide
    · have hother : lookup VerificationAttempt.id (replace VerificationAttempt.id book.attempts
          { a with state := stateAfter row.resultState }) x.id = some x := by
        rw [lookup_replace_ne (by exact hid)]
        exact hx
      exact ⟨x, hother, .refl⟩

theorem PayoutKept.evidenceOf (h : PayoutKept book book') {id : Nat} (he : e ∈ book.evidenceOf id) :
    e ∈ book'.evidenceOf id := by
  rw [PayoutBook.evidenceOf, List.mem_filter] at he ⊢
  exact ⟨h.evidence.subset he.1, he.2⟩

end History

end Caixinha.Effects
