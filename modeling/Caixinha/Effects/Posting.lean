import Caixinha.Model.Operations

/-! What the writers of the ledger and of the member accounts add to the database. -/
namespace Caixinha.Effects

open Caixinha.Library Caixinha.Library.Table Fallible Caixinha.Model

/-- Ids are unique and every reversal points at a row of the ledger. -/
structure LedgerSound (entries : List LedgerEntry) : Prop where
  keyed : Keyed LedgerEntry.id entries
  reversals : ∀ e ∈ entries, ∀ i, e.reversalOfId = some i → ∃ o ∈ entries, o.id = i

/-- A row the ledger accepts next: its id is new and it reverses an original that nothing has
reversed yet, or nothing. -/
structure Posting (entries : List LedgerEntry) (e : LedgerEntry) : Prop where
  id_eq : e.id = nextKey LedgerEntry.id entries
  reverses : ∀ i, e.reversalOfId = some i → ∃ o ∈ entries, o.id = i ∧ o.reversalOfId = none ∧
    o.amount = e.amount ∧ ∀ x ∈ entries, x.reversalOfId ≠ some i

/-- Rows accepted one after the other. -/
inductive Postings : List LedgerEntry → List LedgerEntry → Prop where
  | nil (entries) : Postings entries []
  | cons {entries e new} (head : Posting entries e) (tail : Postings (entries ++ [e]) new) :
    Postings entries (e :: new)

section Ledger
variable {entries new rest : List LedgerEntry} {e : LedgerEntry}

theorem LedgerSound.id_lt (h : e ∈ entries) : e.id < nextKey LedgerEntry.id entries :=
  key_lt_nextKey h

/-- Nothing points at an id that is not in use yet. -/
theorem LedgerSound.not_reverses_next (hs : LedgerSound entries) (h : e ∈ entries) :
    e.reversalOfId ≠ some (nextKey LedgerEntry.id entries) := by
  intro hrev
  obtain ⟨o, ho, hid⟩ := hs.reversals e h _ hrev
  have := LedgerSound.id_lt ho
  omega

theorem LedgerSound.append (hs : LedgerSound entries) (hp : Posting entries e) :
    LedgerSound (entries ++ [e]) := by
  refine ⟨keyed_append hs.keyed hp.id_eq, ?_⟩
  intro x hx i hi
  rcases List.mem_append.mp hx with hx | hx
  · obtain ⟨o, ho, hid⟩ := hs.reversals x hx i hi
    exact ⟨o, List.mem_append_left _ ho, hid⟩
  · rw [List.mem_singleton] at hx
    subst hx
    obtain ⟨o, ho, hid, -⟩ := hp.reverses i hi
    exact ⟨o, List.mem_append_left _ ho, hid⟩

theorem LedgerSound.extend (hs : LedgerSound entries) (hp : Postings entries new) :
    LedgerSound (entries ++ new) := by
  induction hp with
  | nil => simpa using hs
  | cons head _ ih => simpa using ih (hs.append head)

theorem Posting.single (hp : Posting entries e) : Postings entries [e] := .cons hp (.nil _)

theorem Postings.trans (hp : Postings entries new) (hq : Postings (entries ++ new) rest) :
    Postings entries (new ++ rest) := by
  induction hp with
  | nil => simpa using hq
  | cons head _ ih => exact .cons head (ih (by simpa using hq))

end Ledger

section Writers
variable {env : Env} {db db' : Db} {clock : Int}

theorem posting_of_postEntry {new : NewLedgerEntry} {e : LedgerEntry}
    (h : postEntry env db clock new = .ok (db', e)) : Posting db.ledgerEntries e := by
  obtain ⟨-, hid, -, -, hamount, -, -, hrev, hcheck⟩ := postEntry_eq_ok h
  refine ⟨hid, fun i hi => ?_⟩
  rw [checkReversalOf, ← hrev, hi] at hcheck
  simp only [bind_eq_ok, orRefuse_eq_ok, refuseIf_eq_ok, exists_and_left, exists_const] at hcheck
  obtain ⟨o, ho, hnot, hfree, heq⟩ := hcheck
  refine ⟨o, lookup_mem ho, lookup_key ho, by simpa using hnot, ?_, by simpa using hfree⟩
  apply Subtype.ext
  rw [hamount]
  simpa using Eq.symm (not_not.mp heq)

/-- What `post_entry` writes. -/
theorem postEntry_spec {new : NewLedgerEntry} {e : LedgerEntry}
    (h : postEntry env db clock new = .ok (db', e)) :
    db' = { db with ledgerEntries := db.ledgerEntries ++ [e] } ∧ Posting db.ledgerEntries e ∧
      e.account = new.account ∧ e.direction = new.direction ∧ e.amount.val = new.amount ∧
      e.referenceType = new.referenceType ∧ e.referenceId = new.referenceId ∧
      e.reversalOfId = new.reversalOfId := by
  obtain ⟨hdb, -, ha, hd, hm, ht, hr, hv, -⟩ := postEntry_eq_ok h
  exact ⟨hdb, posting_of_postEntry h, ha, hd, hm, ht, hr, hv⟩

/-- A payment credits CAIXINHA with its component. -/
structure PaymentRow (payment : Payment) (e : LedgerEntry) : Prop where
  account : e.account = "CAIXINHA"
  direction : e.direction = .CREDIT
  reference : e.referenceId = toString payment.id
  original : e.reversalOfId = none

theorem PaymentRow.of_id {payment p : Payment} {e : LedgerEntry} (h : PaymentRow payment e)
    (hid : p.id = payment.id) : PaymentRow p e :=
  ⟨h.account, h.direction, by rw [hid]; exact h.reference, h.original⟩

theorem paymentRow_of_postEntry {payment : Payment} {type : LedgerReferenceType} {amount : Int}
    {e : LedgerEntry} (h : postEntry env db clock (paymentCredit payment type amount) = .ok (db', e)) :
    db' = { db with ledgerEntries := db.ledgerEntries ++ [e] } ∧ Posting db.ledgerEntries e ∧
      PaymentRow payment e ∧ e.referenceType = type ∧ e.amount.val = amount := by
  obtain ⟨hdb, hp, ha, hd, hm, ht, hr, hv⟩ := postEntry_spec h
  exact ⟨hdb, hp, ⟨ha, hd, hr, hv⟩, ht, hm⟩

/-- `postOnce` posts the component, or finds it in the ledger. -/
theorem postOnce_spec {payment : Payment} {type : LedgerReferenceType} {amount : Int}
    (h : postOnce env db clock (paymentCredit payment type amount) = .ok db') :
    (ledgerHas db type (toString payment.id) ∧ db' = db) ∨
      ∃ e, db' = { db with ledgerEntries := db.ledgerEntries ++ [e] } ∧ Posting db.ledgerEntries e ∧
        PaymentRow payment e ∧ e.referenceType = type ∧ e.amount.val = amount ∧
        ledgerHas db type (toString payment.id) = false := by
  unfold postOnce at h
  split at h
  · rename_i hhas
    rw [pure_eq_ok] at h
    exact .inl ⟨hhas, h.symm⟩
  · rename_i hhas
    simp only [bind_eq_ok, pure_eq_ok, Prod.exists] at h
    obtain ⟨next, e, hpost, rfl⟩ := h
    obtain ⟨hdb, hp, hrow, ht, hm⟩ := paymentRow_of_postEntry hpost
    exact .inr ⟨e, hdb, hp, hrow, ht, hm, by simpa [paymentCredit] using hhas⟩

theorem postPositive_spec {payment : Payment} {type : LedgerReferenceType} {amount : Int}
    (h : postPositive env db clock (paymentCredit payment type amount) = .ok db') :
    (amount ≤ 0 ∧ db' = db) ∨
      ∃ e, db' = { db with ledgerEntries := db.ledgerEntries ++ [e] } ∧ Posting db.ledgerEntries e ∧
        PaymentRow payment e ∧ e.referenceType = type ∧ e.amount.val = amount ∧ 0 < amount := by
  unfold postPositive at h
  split at h
  · rename_i hle
    rw [pure_eq_ok] at h
    exact .inl ⟨hle, h.symm⟩
  · rename_i hlt
    simp only [bind_eq_ok, pure_eq_ok, Prod.exists] at h
    obtain ⟨next, e, hpost, rfl⟩ := h
    obtain ⟨hdb, hp, hrow, ht, hm⟩ := paymentRow_of_postEntry hpost
    exact .inr ⟨e, hdb, hp, hrow, ht, hm, by simpa [paymentCredit] using hlt⟩

/-- The account of a member, which may be new. -/
theorem lockMemberFinancialAccount_spec {memberId : Nat} {account : MemberFinancialAccount}
    (h : lockMemberFinancialAccount db memberId = .ok (db', account)) :
    ∃ new, db' = { db with accounts := db.accounts ++ new } ∧
      (∃ member, db.member? memberId = some member) ∧
      db'.accounts.find? (fun a => a.memberId = memberId) = some account ∧
      ∀ a ∈ new, db.accounts.find? (fun a => a.memberId = memberId) = none ∧ a = account := by
  unfold lockMemberFinancialAccount at h
  simp only [bind_eq_ok, orRefuse_eq_ok] at h
  obtain ⟨member, hmember, h⟩ := h
  have hid : member.id = memberId := lookup_key hmember
  rw [hid] at h
  split at h
  · rename_i found hfound
    rw [pure_eq_ok, Prod.mk.injEq] at h
    obtain ⟨rfl, rfl⟩ := h
    exact ⟨[], by simp, ⟨member, hmember⟩, hfound, by simp⟩
  · rename_i hnone
    rw [pure_eq_ok, Prod.mk.injEq] at h
    obtain ⟨rfl, rfl⟩ := h
    refine ⟨[_], rfl, ⟨member, hmember⟩, ?_, ?_⟩
    · simp [List.find?_append, hnone]
    · intro a ha
      exact ⟨hnone, List.mem_singleton.mp ha⟩

/-- The account of a member who has one. -/
theorem lockMemberFinancialAccount_existing {memberId : Nat} {account : MemberFinancialAccount}
    (hmember : ∃ member, db.member? memberId = some member)
    (haccount : db.accounts.find? (fun a => a.memberId = memberId) = some account) :
    lockMemberFinancialAccount db memberId = .ok (db, account) := by
  obtain ⟨member, hmember⟩ := hmember
  have hid : member.id = memberId := lookup_key hmember
  unfold lockMemberFinancialAccount
  simp only [hmember, orRefuse, ok_bind, hid, haccount]
  rfl

theorem lockMemberFinancialAccount_ok {memberId : Nat}
    (hmember : ∃ member, db.member? memberId = some member) :
    ∃ accounts account, lockMemberFinancialAccount db memberId =
      .ok ({ db with accounts := accounts }, account) := by
  cases haccount : db.accounts.find? (fun a => a.memberId = memberId) with
  | some account => exact ⟨_, account, lockMemberFinancialAccount_existing hmember haccount⟩
  | none =>
    obtain ⟨member, hmember⟩ := hmember
    have hid : member.id = memberId := lookup_key hmember
    unfold lockMemberFinancialAccount
    simp only [hmember, orRefuse, ok_bind, hid, haccount]
    exact ⟨_, _, rfl⟩

/-- The entry `add_member_financial_entry` writes. -/
structure EntryOf (account : MemberFinancialAccount) (new : NewMemberEntry)
    (e : MemberFinancialEntry) : Prop where
  account : e.accountId = account.id
  entryType : e.entryType = new.entryType
  direction : e.direction = new.direction
  amount : e.amount.val = new.amount
  referenceType : e.referenceType = new.referenceType
  referenceId : e.referenceId = new.referenceId
  contribution : e.contributionId = new.contributionId
  settlement : e.paymentSettlementId = new.paymentSettlementId
  reversal : e.paymentReversalId = new.paymentReversalId

theorem addMemberFinancialEntry_spec {account : MemberFinancialAccount} {new : NewMemberEntry}
    {e : MemberFinancialEntry} (h : addMemberFinancialEntry db clock account new = .ok (db', e)) :
    db' = { db with memberEntries := db.memberEntries ++ [e] } ∧ EntryOf account new e := by
  unfold addMemberFinancialEntry at h
  split at h
  · simp only [Except.ok.injEq, Prod.mk.injEq] at h
    obtain ⟨rfl, rfl⟩ := h
    exact ⟨rfl, rfl, rfl, rfl, rfl, rfl, rfl, rfl, rfl, rfl⟩
  · cases h

theorem creditPrincipal_spec {account : MemberFinancialAccount} {payment : Payment} {amount : Int}
    (h : creditPrincipal db clock account payment amount = .ok db') :
    (amount ≤ 0 ∧ db' = db) ∨
      ∃ e, db' = { db with memberEntries := db.memberEntries ++ [e] } ∧
        EntryOf account (principalCredit payment amount) e ∧ 0 < amount := by
  unfold creditPrincipal at h
  split at h
  · rename_i hle
    rw [pure_eq_ok] at h
    exact .inl ⟨hle, h.symm⟩
  · rename_i hlt
    simp only [bind_eq_ok, pure_eq_ok, Prod.exists] at h
    obtain ⟨next, e, hadd, rfl⟩ := h
    obtain ⟨hdb, he⟩ := addMemberFinancialEntry_spec hadd
    exact .inr ⟨e, hdb, he, by omega⟩

/-- The compensation of an original: the opposite move, under the original's own id. -/
structure Compensates (original e : LedgerEntry) : Prop where
  account : e.account = original.account
  direction : e.direction = original.direction.opposite
  amount : e.amount = original.amount
  type : e.referenceType = .REVERSAL
  reference : e.referenceId = toString original.id
  reverses : e.reversalOfId = some original.id

theorem compensates_of_postEntry {original e : LedgerEntry}
    (h : postEntry env db clock (compensationOf original) = .ok (db', e)) :
    db' = { db with ledgerEntries := db.ledgerEntries ++ [e] } ∧ Posting db.ledgerEntries e ∧
      Compensates original e := by
  obtain ⟨hdb, hp, ha, hd, hm, ht, hr, hv⟩ := postEntry_spec h
  exact ⟨hdb, hp, ha, hd, Subtype.ext hm, ht, hr, hv⟩

theorem compensate_spec {reversalId : Nat} {mismatch : Option String} {original e : LedgerEntry}
    (h : compensate env clock reversalId mismatch db original = .ok (db', e)) :
    ∃ components, db' = { db with
        ledgerEntries := db.ledgerEntries ++ [e], reversalComponents := components } ∧
      Posting db.ledgerEntries e ∧ Compensates original e := by
  unfold compensate at h
  simp only [bind_eq_ok, pure_eq_ok, Prod.exists, Prod.mk.injEq] at h
  obtain ⟨next, row, hpost, -, -, rfl, rfl⟩ := h
  obtain ⟨rfl, hp, hc⟩ := compensates_of_postEntry hpost
  exact ⟨_, rfl, hp, hc⟩

/-- One compensation for every original, in their order. -/
theorem compensateAll_spec {reversalId : Nat} {mismatch : Option String}
    {originals : List LedgerEntry} {pairs : List (LedgerEntry × LedgerEntry)}
    (h : compensateAll env clock reversalId mismatch db originals = .ok (db', pairs)) :
    ∃ components, db' = { db with
        ledgerEntries := db.ledgerEntries ++ pairs.map Prod.snd, reversalComponents := components } ∧
      Postings db.ledgerEntries (pairs.map Prod.snd) ∧ pairs.map Prod.fst = originals ∧
      ∀ pair ∈ pairs, Compensates pair.1 pair.2 := by
  induction originals generalizing db db' pairs with
  | nil =>
    simp only [compensateAll, Except.ok.injEq, Prod.mk.injEq] at h
    obtain ⟨rfl, rfl⟩ := h
    exact ⟨db.reversalComponents, by simp, .nil _, rfl, by simp⟩
  | cons original originals ih =>
    simp only [compensateAll, bind_eq_ok, pure_eq_ok, Prod.exists, Prod.mk.injEq] at h
    obtain ⟨next, e, hhead, last, rest, htail, rfl, rfl⟩ := h
    obtain ⟨components, rfl, hp, hc⟩ := compensate_spec hhead
    obtain ⟨final, rfl, hps, hfst, hall⟩ := ih htail
    refine ⟨final, by simp, .cons hp (by simpa using hps), by simpa using hfst, ?_⟩
    intro pair hpair
    rcases List.mem_cons.mp hpair with rfl | hpair
    · exact hc
    · exact hall pair hpair

end Writers

end Caixinha.Effects
