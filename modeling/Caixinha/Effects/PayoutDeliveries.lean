import Caixinha.Effects.PayoutDestinations
import Caixinha.Library.JsonParser
import Caixinha.Model.PayoutVerification
import Mathlib.Data.Set.Function

/-! The decision on a delivery: what its fingerprint tells, what the loop over the stored rows
finds, and what each writer of the verification service leaves behind. -/
namespace Caixinha.Effects
open Caixinha.Model Caixinha.Library.Table Caixinha.Library.Fallible Caixinha.Library.Json

variable {env : PayoutEnv} {book book' : PayoutBook} {attempt : VerificationAttempt}
variable {destination : PayoutDestination} {answer answer' : Answer} {providerName : String}
variable {e row stored : VerificationEvidence} {freshness freshness' : DestinationFreshness}

section Texts

/-- The texts the service digests. -/
def payoutTexts : Set String :=
  { text | ∃ attempt providerName answer,
      text = dumps (deliveryIdentityPayload attempt providerName answer) ∨
      ∃ freshness, text = dumps (canonicalEvidencePayload attempt providerName answer freshness) }

private theorem get?_eq_of_dumps {p q : Value} (hp : Distinct p) (hq : Distinct q)
    (h : dumps p = dumps q) (key : String) : (get? p key).map sortKeys = (get? q key).map sortKeys := by
  have hsorted : sortKeys p = sortKeys q := by
    have hloads := congrArg loads h
    rw [loads_dumps p hp, loads_dumps q hq] at hloads
    exact Option.some.inj hloads
  rw [← get?_sortKeys p key hp, hsorted, get?_sortKeys q key hq]

private theorem distinct_optText (text : Option String) : Distinct (optText text) := by
  cases text <;> exact trivial

private theorem distinct_optTime (instant : Option Int) : Distinct (optTime instant) := by
  cases instant <;> exact trivial

theorem distinct_deliveryIdentityPayload :
    Distinct (deliveryIdentityPayload attempt providerName answer) := by
  simp only [deliveryIdentityPayload, Distinct, DistinctFields, distinct_optText, distinct_optTime,
    and_true, List.map_cons, List.map_nil]
  decide

theorem distinct_canonicalEvidencePayload :
    Distinct (canonicalEvidencePayload attempt providerName answer freshness) := by
  simp only [canonicalEvidencePayload, Distinct, DistinctFields, distinct_optText, distinct_optTime,
    and_true, List.map_cons, List.map_nil]
  decide

private theorem state_of_text {s t : VerificationResultState} (h : s.text = t.text) :
    s.isFinal = t.isFinal := by
  unfold VerificationResultState.text at h
  cases hs : s.isFinal <;> cases ht : t.isFinal
  · rfl
  · rw [hs, ht] at h
    simp at h
  · rw [hs, ht] at h
    simp at h
  · rfl

private theorem sameState_of_field {s t : VerificationResultState}
    (h : (some (Value.str s.text)).map sortKeys = (some (Value.str t.text)).map sortKeys) :
    s.isFinal = t.isFinal := by
  simp only [Option.map_some, sortKeys, Option.some.injEq, Value.str.injEq] at h
  exact state_of_text h

/-- Deliveries with one fingerprint are both pending or both final. -/
theorem isFinal_of_fingerprint (hsha : Set.InjOn env.sha256 payoutTexts)
    (h : deliveryFingerprint env attempt providerName answer =
      deliveryFingerprint env attempt providerName answer') :
    answer.state.isFinal = answer'.state.isFinal := by
  have htext := hsha ⟨_, _, _, .inl rfl⟩ ⟨_, _, _, .inl rfl⟩ h
  exact sameState_of_field (get?_eq_of_dumps distinct_deliveryIdentityPayload
    distinct_deliveryIdentityPayload htext "result_state")

theorem isFinal_of_digest (hsha : Set.InjOn env.sha256 payoutTexts)
    (h : computeEvidenceDigest env attempt providerName answer freshness =
      computeEvidenceDigest env attempt providerName answer' freshness') :
    answer.state.isFinal = answer'.state.isFinal := by
  have hsum : env.sha256 (dumps (canonicalEvidencePayload attempt providerName answer freshness)) =
      env.sha256 (dumps (canonicalEvidencePayload attempt providerName answer' freshness')) := by
    unfold computeEvidenceDigest at h
    have hlist := congrArg String.toList h
    rw [String.toList_append, String.toList_append] at hlist
    exact String.toList_inj.mp (List.append_cancel_left hlist)
  have htext := hsha ⟨_, _, _, .inr ⟨_, rfl⟩⟩ ⟨_, _, _, .inr ⟨_, rfl⟩⟩ hsum
  exact sameState_of_field (get?_eq_of_dumps distinct_canonicalEvidencePayload
    distinct_canonicalEvidencePayload htext "result_state")

/-- The fingerprint reads the identity of the attempt only. -/
theorem deliveryFingerprint_congr {attempt' : VerificationAttempt}
    (h : attempt' = { attempt with state := attempt'.state }) :
    deliveryFingerprint env attempt' providerName answer =
      deliveryFingerprint env attempt providerName answer := by
  rw [h]
  rfl

/-- The same provider answer, however it was received and whenever it was checked. -/
def SameDelivery (answer answer' : Answer) : Prop :=
  answer'.state = answer.state ∧ answer'.reasonCode = answer.reasonCode ∧
    answer'.requestId = answer.requestId ∧ answer'.responseId = answer.responseId ∧
    answer'.eventId = answer.eventId ∧
    answer'.providerTimestamp.map timestampText = answer.providerTimestamp.map timestampText ∧
    answer'.authenticity.status = answer.authenticity.status ∧
    answer'.authenticity.method = answer.authenticity.method

private theorem optTime_congr {s t : Option Int} (h : s.map timestampText = t.map timestampText) :
    optTime s = optTime t := by
  have hread : ∀ r : Option Int, optTime r = optText (r.map timestampText) := by
    intro r
    cases r <;> rfl
  rw [hread, hread, h]

theorem SameDelivery.fingerprint (h : SameDelivery answer answer') :
    deliveryFingerprint env attempt providerName answer' =
      deliveryFingerprint env attempt providerName answer := by
  obtain ⟨hstate, hreason, hrequest, hresponse, hevent, htime, hstatus, hmethod⟩ := h
  unfold deliveryFingerprint deliveryIdentityPayload
  rw [hstate, hreason, hrequest, hresponse, hevent, optTime_congr htime, hstatus, hmethod]

theorem sameDelivery_of_evidenceMatches {digest : String}
    (h : evidenceMatches attempt answer e freshness digest = true) : SameDelivery answer e.answer := by
  simp only [evidenceMatches, decide_eq_true_eq] at h
  obtain ⟨-, hstate, hreason, hrequest, hresponse, hevent, htime, -, hstatus, hmethod, -⟩ := h
  exact ⟨hstate, hreason, hrequest, hresponse, hevent, htime, hstatus, hmethod⟩

end Texts

section Scan
variable {rows : List VerificationEvidence} {conflicting : Bool} {incoming : String}

abbrev fingerprintOf (env : PayoutEnv) (attempt : VerificationAttempt) (e : VerificationEvidence) :
    String :=
  deliveryFingerprint env attempt attempt.providerName e.answer

theorem scanDeliveries_some
    (h : scanDeliveries env attempt incoming answer rows conflicting = .ok (some stored)) :
    stored ∈ rows ∧ fingerprintOf env attempt stored = incoming := by
  induction rows generalizing conflicting with
  | nil =>
    unfold scanDeliveries at h
    split at h <;> cases h
  | cons x rows ih =>
    rw [scanDeliveries] at h
    split at h
    · rename_i hfound
      cases h
      exact ⟨List.mem_cons_self .., hfound⟩
    · obtain ⟨hmem, hsame⟩ := ih h
      exact ⟨List.mem_cons_of_mem _ hmem, hsame⟩

theorem scanDeliveries_none :
    scanDeliveries env attempt incoming answer rows conflicting = .ok none ↔
      conflicting = false ∧ ∀ e ∈ rows, fingerprintOf env attempt e ≠ incoming ∧
        sharesProviderCorrelation e.answer answer = false := by
  induction rows generalizing conflicting with
  | nil => cases conflicting <;> simp [scanDeliveries]
  | cons x rows ih =>
    rw [scanDeliveries]
    split
    · rename_i hfound
      simp [hfound]
    · rename_i hother
      rw [ih, List.forall_mem_cons, Bool.or_eq_false_iff, and_assoc]
      simp [hother]

theorem scanDeliveries_found (hmem : e ∈ rows) (hsame : fingerprintOf env attempt e = incoming) :
    ∃ stored, scanDeliveries env attempt incoming answer rows conflicting = .ok (some stored) := by
  induction rows generalizing conflicting with
  | nil => cases hmem
  | cons x rows ih =>
    rw [scanDeliveries]
    split
    · exact ⟨x, rfl⟩
    · rename_i hother
      rcases List.mem_cons.mp hmem with rfl | hmem
      · exact absurd hsame hother
      · exact ih hmem

theorem mem_storedAttemptEvidence :
    e ∈ storedAttemptEvidence book attempt ↔ e ∈ book.evidenceOf attempt.id := by
  rw [storedAttemptEvidence, List.mem_mergeSort]

/-- Where no two rows share a fingerprint, a known one leads to its row. -/
theorem findDeliveryReplay_of_mem
    (hnodup : ((book.evidenceOf attempt.id).map (fingerprintOf env attempt)).Nodup)
    (hmem : e ∈ book.evidenceOf attempt.id)
    (hsame : fingerprintOf env attempt e = deliveryFingerprint env attempt providerName answer) :
    findDeliveryReplay env book attempt providerName answer = .ok (some e) := by
  obtain ⟨x, hx⟩ := @scanDeliveries_found env attempt answer e (storedAttemptEvidence book attempt)
    false _ (mem_storedAttemptEvidence.mpr hmem) hsame
  obtain ⟨hxmem, hxsame⟩ := scanDeliveries_some hx
  have hxe : x = e := List.inj_on_of_nodup_map hnodup (mem_storedAttemptEvidence.mp hxmem) hmem
    (hxsame.trans hsame.symm)
  rw [findDeliveryReplay, hx, hxe]

theorem findDeliveryReplay_some
    (h : findDeliveryReplay env book attempt providerName answer = .ok (some stored)) :
    stored ∈ book.evidenceOf attempt.id ∧
      fingerprintOf env attempt stored = deliveryFingerprint env attempt providerName answer := by
  obtain ⟨hmem, hsame⟩ := scanDeliveries_some h
  exact ⟨mem_storedAttemptEvidence.mp hmem, hsame⟩

theorem findDeliveryReplay_none :
    findDeliveryReplay env book attempt providerName answer = .ok none ↔
      ∀ e ∈ book.evidenceOf attempt.id,
        fingerprintOf env attempt e ≠ deliveryFingerprint env attempt providerName answer ∧
        sharesProviderCorrelation e.answer answer = false := by
  rw [findDeliveryReplay, scanDeliveries_none]
  simp only [mem_storedAttemptEvidence, true_and]

end Scan

end Caixinha.Effects
