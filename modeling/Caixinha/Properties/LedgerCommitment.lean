import Caixinha.Library.HashChain
import Caixinha.Library.JsonParser
import Caixinha.Model.LedgerChain

/-! The hash chain commits to the whole ledger: what the writers build verifies, and two ledgers
that verify and end in the same hash hold the same. -/
namespace Caixinha.Properties.LedgerCommitment

open Caixinha.Library Fallible Json HashChain Caixinha.Model

/-- The columns a row is hashed over, its predecessor's hash apart. -/
structure HashedFields where
  account : String
  direction : String
  amount : Int
  referenceType : String
  referenceId : String
  reversalOfId : Option Nat
  createdAt : Instant
  hashVersion : Option Int
  financialDate : Option CivilDay

def hashedFields (e : StoredEntry) : HashedFields where
  account := e.account
  direction := e.direction
  amount := e.amount
  referenceType := e.referenceType
  referenceId := e.referenceId
  reversalOfId := e.reversalOfId
  createdAt := e.createdAt
  hashVersion := e.hashVersion
  financialDate := e.financialDate

/-- The texts that rows of a ledger are hashed from. -/
def canonicalTexts : Set String :=
  {text | ∃ (e : StoredEntry) (previous : Option String) (payload : Value),
    e.expectedPayload previous = .ok payload ∧ text = dumpsAscii payload}

/-- Rows that verify: each names the hash before it and carries the hash expected of it. -/
def Verified (sha256 : String → String) : Option String → List StoredEntry → Prop :=
  Linked StoredEntry.previousHash StoredEntry.entryHash
    (fun e => (e.expectedHash sha256 e.previousHash).toOption)

variable {sha256 : String → String} {e f : StoredEntry} {rows : List StoredEntry}

section Payload
variable {p q : Value} {previous previous' : Option String}

/-- Every hashed column can be read off the payload. -/
theorem payload_reads (h : e.expectedPayload previous = .ok p) : Distinct p ∧
    get? p "account" = some (.str e.account) ∧ get? p "direction" = some (.str e.direction) ∧
    get? p "amount" = some (moneyJson e.amount) ∧
    get? p "reference_type" = some (.str e.referenceType) ∧
    get? p "reference_id" = some (.str e.referenceId) ∧
    get? p "reversal_of_id" = some (nullable idJson e.reversalOfId) ∧
    get? p "created_at" = some (.str (Calendar.isoUtc e.createdAt.val)) ∧
    get? p "previous_hash" = some (nullable .str previous) ∧
    get? p "hash_version" = e.hashVersion.map .int ∧
    get? p "financial_date" = e.financialDate.map (fun day => .str (Calendar.isoDate day.val)) := by
  have hmoney : ∀ n, Distinct (moneyJson n) := fun _ => trivial
  have hids : ∀ id : Option Nat, Distinct (nullable idJson id) := by
    rintro (_ | _) <;> exact trivial
  have htexts : ∀ text : Option String, Distinct (nullable .str text) := by
    rintro (_ | _) <;> exact trivial
  unfold StoredEntry.expectedPayload at h
  split at h
  · rename_i hversion hdate
    simp only [Except.ok.injEq] at h
    subst h
    rw [hversion, hdate]
    refine ⟨?_, rfl, rfl, rfl, rfl, rfl, rfl, rfl, rfl, rfl, rfl⟩
    simp only [StoredEntry.hashPayload, Distinct, DistinctFields, hmoney, hids, htexts, and_true,
      List.map_cons, List.map_nil]
    decide
  · rename_i day hversion hdate
    simp only [Except.ok.injEq] at h
    subst h
    rw [hversion, hdate]
    refine ⟨?_, rfl, rfl, rfl, rfl, rfl, rfl, rfl, rfl, rfl, rfl⟩
    simp only [StoredEntry.hashPayloadV2, Distinct, DistinctFields, hmoney, hids, htexts, and_true,
      List.map_cons, List.map_nil]
    decide
  · cases h
  · cases h
  · cases h

theorem get?_eq_of_dumpsAscii (hp : Distinct p) (hq : Distinct q) (h : dumpsAscii p = dumpsAscii q)
    (key : String) : (get? p key).map sortKeys = (get? q key).map sortKeys := by
  have hsorted : sortKeys p = sortKeys q := by
    have hloads := congrArg loads h
    rw [loads_dumpsAscii p hp, loads_dumpsAscii q hq] at hloads
    exact Option.some.inj hloads
  rw [← get?_sortKeys p key hp, hsorted, get?_sortKeys q key hq]

private theorem idJson_inj {a b : Option Nat}
    (h : sortKeys (nullable idJson a) = sortKeys (nullable idJson b)) : a = b := by
  cases a <;> cases b
  · rfl
  · cases h
  · cases h
  · simpa [nullable, idJson, sortKeys] using h

private theorem textJson_inj {a b : Option String}
    (h : sortKeys (nullable .str a) = sortKeys (nullable .str b)) : a = b := by
  cases a <;> cases b
  · rfl
  · cases h
  · cases h
  · simpa [nullable, sortKeys] using h

private theorem dayJson_inj {a b : Option CivilDay}
    (h : (a.map fun day => Value.str (Calendar.isoDate day.val)).map sortKeys =
      (b.map fun day => Value.str (Calendar.isoDate day.val)).map sortKeys) : a = b := by
  cases a <;> cases b
  · rfl
  · cases h
  · cases h
  · rename_i m n
    simp only [Option.map_some, Option.some.injEq, sortKeys, Value.str.injEq] at h
    rw [Subtype.ext (Calendar.isoDate_inj m.property n.property h)]

private theorem versionJson_inj {a b : Option Int}
    (h : (a.map Value.int).map sortKeys = (b.map Value.int).map sortKeys) : a = b := by
  cases a <;> cases b
  · rfl
  · cases h
  · cases h
  · simpa [sortKeys] using h

/-- Rows hashed from the same text agree on every hashed column and on the hash before them. -/
theorem fields_eq_of_payload (hp : e.expectedPayload previous = .ok p)
    (hq : f.expectedPayload previous' = .ok q) (h : dumpsAscii p = dumpsAscii q) :
    hashedFields e = hashedFields f ∧ previous = previous' := by
  obtain ⟨hdp, ha, hd, hm, ht, hr, hv, hc, hprev, hversion, hdate⟩ := payload_reads hp
  obtain ⟨hdq, ha', hd', hm', ht', hr', hv', hc', hprev', hversion', hdate'⟩ := payload_reads hq
  have hget := get?_eq_of_dumpsAscii hdp hdq h
  have haccount := hget "account"
  have hdirection := hget "direction"
  have hamount := hget "amount"
  have htype := hget "reference_type"
  have hreference := hget "reference_id"
  have hreversal := hget "reversal_of_id"
  have hcreated := hget "created_at"
  have hprevious := hget "previous_hash"
  have hversions := hget "hash_version"
  have hdates := hget "financial_date"
  rw [ha, ha'] at haccount
  rw [hd, hd'] at hdirection
  rw [hm, hm'] at hamount
  rw [ht, ht'] at htype
  rw [hr, hr'] at hreference
  rw [hv, hv'] at hreversal
  rw [hc, hc'] at hcreated
  rw [hprev, hprev'] at hprevious
  rw [hversion, hversion'] at hversions
  rw [hdate, hdate'] at hdates
  simp only [Option.map_some, Option.some.injEq] at haccount hdirection hamount htype hreference
  simp only [Option.map_some, Option.some.injEq] at hreversal hcreated hprevious
  simp only [sortKeys, moneyJson, Value.str.injEq] at haccount hdirection hamount htype hreference
  simp only [sortKeys, Value.str.injEq] at hcreated
  have hclock : e.createdAt = f.createdAt :=
    Subtype.ext (Calendar.isoUtc_inj e.createdAt.property f.createdAt.property hcreated)
  refine ⟨?_, textJson_inj hprevious⟩
  simp only [hashedFields, HashedFields.mk.injEq]
  exact ⟨haccount, hdirection, Decimal.centsText_injective hamount, htype, hreference,
    idJson_inj hreversal, hclock, versionJson_inj hversions, dayJson_inj hdates⟩

end Payload

theorem expectedHash_eq_ok {previous : Option String} {hash : String} :
    e.expectedHash sha256 previous = .ok hash ↔
      ∃ payload, e.expectedPayload previous = .ok payload ∧ hash = sha256 (dumpsAscii payload) := by
  unfold StoredEntry.expectedHash
  cases e.expectedPayload previous with
  | error fault => simp [Functor.map, Except.map]
  | ok payload => simp [Functor.map, Except.map, eq_comm]

theorem rowFaults_eq_nil {previous : Option String} : rowFaults sha256 previous e = [] ↔
    e.previousHash = previous ∧ ((e.expectedHash sha256 e.previousHash).toOption).isSome ∧
      e.entryHash = (e.expectedHash sha256 e.previousHash).toOption := by
  unfold rowFaults
  rw [List.append_eq_nil_iff]
  refine and_congr (by simp) ?_
  cases e.expectedHash sha256 e.previousHash with
  | error fault => simp [Except.toOption]
  | ok expected => simp [Except.toOption]

/-- The verifier finds no error exactly in rows that verify. -/
theorem chainErrors_eq_nil {start : Option String} :
    chainErrors sha256 start rows = [] ↔ Verified sha256 start rows := by
  induction rows generalizing start with
  | nil => simp [chainErrors, Verified, Linked]
  | cons e rest ih =>
    rw [chainErrors, List.append_eq_nil_iff, List.map_eq_nil_iff, rowFaults_eq_nil, ih, Verified,
      Linked, and_assoc, and_assoc]

theorem verifyLedgerChain_pass : (verifyLedgerChain sha256 rows).status = .PASS ↔
    Verified sha256 none (inIdOrder rows) := by
  rw [← chainErrors_eq_nil]
  simp [verifyLedgerChain]

section Build
variable {rows' : List StoredEntry}

/-- A ledger as the writers leave it: it verifies and its ids increase. -/
structure Built (sha256 : String → String) (rows : List StoredEntry) : Prop where
  ordered : rows.Pairwise (fun a b => a.id < b.id)
  verified : Verified sha256 none rows

theorem inIdOrder_of_ordered (h : rows.Pairwise (fun a b => a.id < b.id)) : inIdOrder rows = rows :=
  (h.imp fun hlt => Nat.le_of_lt hlt).insertionSort_eq

theorem getLast?_entryHash (rows : List StoredEntry) :
    rows.getLast?.bind StoredEntry.entryHash = tip StoredEntry.entryHash none rows := by
  induction rows using List.reverseRecOn with
  | nil => rfl
  | append_singleton init last _ => rw [tip_append, List.getLast?_concat, Option.bind_some]

/-- The signature of a new row is the digest expected of it, whatever its own hash column holds. -/
theorem expectedHash_signature (hversion : e.hashVersion = e.financialDate.map (fun _ => 2))
    (hash : Option String) :
    StoredEntry.expectedHash sha256 { e with entryHash := hash } e.previousHash =
      .ok (e.signature sha256) := by
  unfold StoredEntry.expectedHash StoredEntry.expectedPayload StoredEntry.signature
  cases hday : e.financialDate with
  | none =>
    rw [hday] at hversion
    simp only [hversion, Option.map_none]
    rfl
  | some day =>
    rw [hday] at hversion
    simp only [hversion, Option.map_some]
    rfl

theorem Built.post {clock : Instant} {request : EntryRequest} (hbuilt : Built sha256 rows)
    (h : postStored sha256 rows clock request = .ok rows') : Built sha256 rows' := by
  unfold postStored at h
  split at h
  · cases h
  · rename_i amount _
    simp only [bind_eq_ok, pure_eq_ok, refuseIf_eq_ok, exists_and_left, exists_const] at h
    obtain ⟨-, -, _, -, rfl⟩ := h
    constructor
    · rw [List.pairwise_append]
      refine ⟨hbuilt.ordered, List.pairwise_singleton _ _, ?_⟩
      intro a ha b hb
      rw [List.mem_singleton] at hb
      subst hb
      exact Table.key_lt_nextKey ha
    · have hversion : (request.unsigned rows clock amount).hashVersion =
          (request.unsigned rows clock amount).financialDate.map (fun _ => 2) := rfl
      have hhash : StoredEntry.expectedHash sha256 { request.unsigned rows clock amount with
          entryHash := some ((request.unsigned rows clock amount).signature sha256) } _ = _ :=
        expectedHash_signature hversion _
      refine linked_append.mpr ⟨hbuilt.verified, ?_, ?_, ?_⟩
      · have hprevious : (request.unsigned rows clock amount).previousHash =
            (inIdOrder rows).getLast?.bind StoredEntry.entryHash := rfl
        rw [inIdOrder_of_ordered hbuilt.ordered, getLast?_entryHash] at hprevious
        exact hprevious
      · simp only
        rw [hhash]
        rfl
      · simp only
        rw [hhash]
        rfl

theorem Built.call {call : LedgerCall} (hbuilt : Built sha256 rows)
    (h : callLedger sha256 rows call = .ok rows') : Built sha256 rows' := by
  cases call with
  | post clock request => exact hbuilt.post h
  | reverse clock settled entryId reason =>
    simp only [callLedger, reverseStored, bind_eq_ok, orRefuse_eq_ok, refuseIf_eq_ok, exists_and_left,
      exists_const] at h
    obtain ⟨original, -, -, -, hpost⟩ := h
    exact hbuilt.post hpost

/-- Whatever calls are made, the ledger they leave verifies. -/
theorem Built.calls (calls : List LedgerCall) (hbuilt : Built sha256 rows) :
    Built sha256 (buildLedger sha256 rows calls) := by
  induction calls generalizing rows with
  | nil => exact hbuilt
  | cons call rest ih =>
    rw [buildLedger, List.foldl_cons]
    refine ih ?_
    split
    · rename_i next hcall
      exact hbuilt.call hcall
    · exact hbuilt

end Build

/-- With a hash that is injective on the canonical texts, the digest of a row commits to its
columns and to the digest before it. -/
theorem digest_commits (hinj : Set.InjOn sha256 canonicalTexts)
    (hsome : ((e.expectedHash sha256 e.previousHash).toOption).isSome)
    (h : (e.expectedHash sha256 e.previousHash).toOption =
      (f.expectedHash sha256 f.previousHash).toOption) :
    hashedFields e = hashedFields f ∧ e.previousHash = f.previousHash := by
  cases hhash : e.expectedHash sha256 e.previousHash with
  | error fault =>
    rw [hhash] at hsome
    cases hsome
  | ok hash =>
    cases hhash' : f.expectedHash sha256 f.previousHash with
    | error fault =>
      rw [hhash, hhash'] at h
      cases h
    | ok hash' =>
      rw [hhash, hhash'] at h
      obtain ⟨p, hp, rfl⟩ := expectedHash_eq_ok.mp hhash
      obtain ⟨q, hq, rfl⟩ := expectedHash_eq_ok.mp hhash'
      have htexts : dumpsAscii p = dumpsAscii q :=
        hinj ⟨e, _, p, hp, rfl⟩ ⟨f, _, q, hq, rfl⟩ (Option.some.inj h)
      exact fields_eq_of_payload hp hq htexts

/-- Every ledger that the writers build verifies, and two ledgers that verify and end in the same
entry hash hold the same rows, in every hashed column. -/
theorem chain_commits_to_the_ledger (hinj : Set.InjOn sha256 canonicalTexts) :
    (∀ calls, (verifyLedgerChain sha256 (buildLedger sha256 [] calls)).status = .PASS) ∧
    ∀ rows rows' : List StoredEntry, rows ≠ [] → rows' ≠ [] →
      (verifyLedgerChain sha256 rows).status = .PASS →
      (verifyLedgerChain sha256 rows').status = .PASS →
      (inIdOrder rows).getLast?.map StoredEntry.entryHash =
        (inIdOrder rows').getLast?.map StoredEntry.entryHash →
      rows.length = rows'.length ∧
        (inIdOrder rows).map hashedFields = (inIdOrder rows').map hashedFields := by
  constructor
  · intro calls
    have hbuilt : Built sha256 (buildLedger sha256 [] calls) :=
      Built.calls calls ⟨List.Pairwise.nil, trivial⟩
    rw [verifyLedgerChain_pass, inIdOrder_of_ordered hbuilt.ordered]
    exact hbuilt.verified
  · intro rows rows' _ _ hpass hpass' hlast
    rw [verifyLedgerChain_pass] at hpass hpass'
    have htip : tip StoredEntry.entryHash none (inIdOrder rows) =
        tip StoredEntry.entryHash none (inIdOrder rows') := by
      have hjoin : ∀ last : Option StoredEntry, last.bind StoredEntry.entryHash =
          (last.map StoredEntry.entryHash).join := by rintro (_ | _) <;> rfl
      rw [← getLast?_entryHash, ← getLast?_entryHash, hjoin, hlast, ← hjoin]
    have hcontents := contents_eq_of_tip_eq (fun r s => digest_commits hinj) hpass hpass' htip
    refine ⟨?_, hcontents⟩
    have hlength := congrArg List.length hcontents
    simpa [inIdOrder] using hlength

section Sample

private theorem firstPost_inRange : Calendar.InstantInRange 1767225600000001 := by decide

private theorem secondPost_inRange : Calendar.InstantInRange 1767225600000002 := by decide

private theorem reversal_inRange : Calendar.InstantInRange 1767225600000003 := by decide

private theorem secondPost_dated : Calendar.DayInRange 20453 := by decide

/-- A row of the first version, one of the second, and the reversal of the first. -/
private def sampleCalls : List LedgerCall :=
  [.post ⟨1767225600000001, firstPost_inRange⟩
    { account := "CAIXINHA", direction := "CREDIT", amount := ⟨15000, -2⟩
      referenceType := "CONTRIBUTION_PAYMENT", referenceId := "1" },
    .post ⟨1767225600000002, secondPost_inRange⟩
      { account := "CAIXINHA", direction := "DEBIT", amount := ⟨205, -1⟩, referenceType := "EXPENSE"
        referenceId := "1", financialDate := some ⟨20453, secondPost_dated⟩ },
    .reverse ⟨1767225600000003, reversal_inRange⟩ [] 1 "duplicated"]

private def sampleLedger : List StoredEntry := buildLedger (fun text => text) [] sampleCalls

/-- The same rows under other ids, which are not hashed. -/
private def sampleCopy : List StoredEntry := sampleLedger.map fun e => { e with id := e.id + 10 }

theorem sample_chain_commits_to_the_ledger :
    sampleLedger.map (fun e => (e.hashVersion, e.reversalOfId)) = [(none, none), (some 2, none), (none, some 1)] ∧
      (verifyLedgerChain (fun text => text) sampleLedger).status = .PASS ∧
      (inIdOrder sampleLedger).map hashedFields = (inIdOrder sampleCopy).map hashedFields := by
  have hinj : Set.InjOn (fun text : String => text) canonicalTexts := fun _ _ _ _ h => h
  obtain ⟨hbuilt, hcommits⟩ := chain_commits_to_the_ledger hinj
  have hrows : sampleLedger.map (fun e => (e.hashVersion, e.reversalOfId)) =
      [(none, none), (some 2, none), (none, some 1)] := by decide
  have hpass : (verifyLedgerChain (fun text => text) sampleLedger).status = .PASS := hbuilt sampleCalls
  have hpass' : (verifyLedgerChain (fun text => text) sampleCopy).status = .PASS := by
    rw [verifyLedgerChain_pass] at hpass ⊢
    exact hpass
  have hne : sampleLedger ≠ [] := by
    intro hnil
    rw [hnil] at hrows
    cases hrows
  have hne' : sampleCopy ≠ [] := by simpa [sampleCopy] using hne
  have htip : (inIdOrder sampleLedger).getLast?.map StoredEntry.entryHash =
      (inIdOrder sampleCopy).getLast?.map StoredEntry.entryHash := rfl
  exact ⟨hrows, hpass, (hcommits sampleLedger sampleCopy hne hne' hpass hpass' htip).2⟩

end Sample

end Caixinha.Properties.LedgerCommitment
