import Caixinha.Library.SaturatingBalance
import Caixinha.Model.Records

/-! Member accounts, their entries and the position computed from an entry history. -/
namespace Caixinha.Model

open Caixinha.Library Table SaturatingBalance

/-- `Member -> Account`: finds the account of a member or opens one. -/
def lockMemberFinancialAccount (db : Db) (memberId : Nat) : Tx (Db × MemberFinancialAccount) := do
  let member ← orRefuse (db.member? memberId) "Participante não encontrado."
  match db.accounts.find? (fun a => a.memberId = member.id) with
  | some account => return (db, account)
  | none =>
    let account := { id := nextKey MemberFinancialAccount.id db.accounts, memberId := member.id }
    return ({ db with accounts := db.accounts ++ [account] }, account)

/-- The columns of a new entry that its caller chooses. -/
structure NewMemberEntry where
  entryType : EntryType
  direction : Direction
  amount : Int
  referenceType : Option MemberReferenceType
  referenceId : Option String
  contributionId : Option Nat := none
  paymentSettlementId : Option Nat := none
  paymentReversalId : Option Nat := none

def addMemberFinancialEntry (db : Db) (clock : Int) (account : MemberFinancialAccount)
    (new : NewMemberEntry) : Tx (Db × MemberFinancialEntry) :=
  if h : 0 < new.amount then
    let entry : MemberFinancialEntry :=
      { id := nextKey MemberFinancialEntry.id db.memberEntries
        accountId := account.id
        entryType := new.entryType
        direction := new.direction
        amount := ⟨new.amount, h⟩
        referenceType := new.referenceType
        referenceId := new.referenceId
        createdAt := clock
        contributionId := new.contributionId
        paymentSettlementId := new.paymentSettlementId
        paymentReversalId := new.paymentReversalId }
    .ok ({ db with memberEntries := db.memberEntries ++ [entry] }, entry)
  else .error (.valueError "O valor do lançamento deve ser maior que zero.")

structure Balances where
  own : Int
  committed : Int
  deriving DecidableEq, Repr

/-- One round of the loop over the entries. -/
def applyEntry (b : Balances) (entry : MemberFinancialEntry) : Balances :=
  let amount := entry.amount.val
  match entry.direction, entry.entryType with
  | .CREDIT, .CONTRIBUTION => { b with own := b.own + amount }
  | .CREDIT, .ADJUSTMENT => { b with own := b.own + amount }
  | .CREDIT, .LOAN_PRINCIPAL_PAYMENT =>
    { own := b.own + amount, committed := max 0 (b.committed - amount) }
  | .CREDIT, .LOAN_PRINCIPAL_COMMITMENT => { b with committed := b.committed + amount }
  | .DEBIT, .OWN_BALANCE_RENEGOTIATION | .DEBIT, .OWN_BALANCE_SETTLEMENT
  | .DEBIT, .CONTRIBUTION_REVERSAL =>
    { own := max 0 (b.own - amount), committed := max 0 (b.committed - amount) }
  | .DEBIT, .LOAN_PRINCIPAL_REVERSAL =>
    { own := b.own - amount, committed := b.committed + amount }
  | _, _ => b

structure MemberFinancialPosition where
  ownBalance : Int
  committedBalance : Int
  availableBalance : Int
  deriving DecidableEq, Repr

def Balances.position (b : Balances) : MemberFinancialPosition where
  ownBalance := b.own
  committedBalance := b.committed
  availableBalance := max 0 (b.own - b.committed)

def balancesAfter (b : Balances) (entries : List MemberFinancialEntry) : Balances :=
  entries.foldl applyEntry b

def noBalances : Balances := { own := 0, committed := 0 }

def calculateMemberFinancialPosition (entries : List MemberFinancialEntry) :
    MemberFinancialPosition :=
  (balancesAfter noBalances entries).position

/-- The position read from the database; the rows of an account are listed by id. -/
def getMemberFinancialPosition (db : Db) (memberId : Nat) : MemberFinancialPosition :=
  match db.accounts.find? (fun a => a.memberId = memberId) with
  | none => noBalances.position
  | some account =>
    calculateMemberFinancialPosition (db.memberEntries.filter (fun e => e.accountId = account.id))

/-- How an entry moves the own balance, as a plain addition or a clamped withdrawal. -/
def ownMove (entry : MemberFinancialEntry) : Option Move :=
  match entry.direction, entry.entryType with
  | .CREDIT, .CONTRIBUTION | .CREDIT, .ADJUSTMENT | .CREDIT, .LOAN_PRINCIPAL_PAYMENT =>
    some (.add entry.amount.val)
  | .DEBIT, .OWN_BALANCE_RENEGOTIATION | .DEBIT, .OWN_BALANCE_SETTLEMENT
  | .DEBIT, .CONTRIBUTION_REVERSAL => some (.take entry.amount.val)
  | .DEBIT, .LOAN_PRINCIPAL_REVERSAL => some (.add (-entry.amount.val))
  | _, _ => none

def committedMove (entry : MemberFinancialEntry) : Option Move :=
  match entry.direction, entry.entryType with
  | .CREDIT, .LOAN_PRINCIPAL_COMMITMENT | .DEBIT, .LOAN_PRINCIPAL_REVERSAL =>
    some (.add entry.amount.val)
  | .CREDIT, .LOAN_PRINCIPAL_PAYMENT | .DEBIT, .OWN_BALANCE_RENEGOTIATION
  | .DEBIT, .OWN_BALANCE_SETTLEMENT | .DEBIT, .CONTRIBUTION_REVERSAL =>
    some (.take entry.amount.val)
  | _, _ => none

/-- The moves of a whole stretch of the history on each balance. -/
def ownMoves (entries : List MemberFinancialEntry) : List Move := entries.filterMap ownMove
def committedMoves (entries : List MemberFinancialEntry) : List Move :=
  entries.filterMap committedMove

theorem applyEntry_own (b : Balances) (entry : MemberFinancialEntry) :
    (applyEntry b entry).own = run (ownMove entry).toList b.own := by
  rcases entry with ⟨_, _, entryType, direction, amount⟩
  cases direction <;> cases entryType <;> simp [applyEntry, ownMove, sub_eq_add_neg]

theorem applyEntry_committed (b : Balances) (entry : MemberFinancialEntry) :
    (applyEntry b entry).committed = run (committedMove entry).toList b.committed := by
  rcases entry with ⟨_, _, entryType, direction, amount⟩
  cases direction <;> cases entryType <;> simp [applyEntry, committedMove]

private theorem filterMap_cons_toList {α β : Type} (f : α → Option β) (a : α) (as : List α) :
    (a :: as).filterMap f = (f a).toList ++ as.filterMap f := by
  cases h : f a <;> simp [h]

/-- The loop moves the two balances independently of each other. -/
theorem balancesAfter_own (b : Balances) (entries : List MemberFinancialEntry) :
    (balancesAfter b entries).own = run (ownMoves entries) b.own := by
  induction entries generalizing b with
  | nil => rfl
  | cons entry entries ih =>
    rw [balancesAfter, List.foldl_cons, ← balancesAfter, ih, applyEntry_own, ownMoves, ownMoves,
      filterMap_cons_toList, run_append]

theorem balancesAfter_committed (b : Balances) (entries : List MemberFinancialEntry) :
    (balancesAfter b entries).committed = run (committedMoves entries) b.committed := by
  induction entries generalizing b with
  | nil => rfl
  | cons entry entries ih =>
    rw [balancesAfter, List.foldl_cons, ← balancesAfter, ih, applyEntry_committed, committedMoves,
      committedMoves, filterMap_cons_toList, run_append]

theorem balancesAfter_append (b : Balances) (xs ys : List MemberFinancialEntry) :
    balancesAfter b (xs ++ ys) = balancesAfter (balancesAfter b xs) ys := List.foldl_append ..

theorem Balances.position_inj {a b : Balances} : a.position = b.position ↔ a = b := by
  constructor
  · intro h
    obtain ⟨ao, ac⟩ := a
    obtain ⟨bo, bc⟩ := b
    simp only [Balances.position, MemberFinancialPosition.mk.injEq] at h
    simp [h.1, h.2.1]
  · rintro rfl
    rfl

/-- The committed balance never goes below zero. -/
theorem committed_nonneg (entries : List MemberFinancialEntry) :
    0 ≤ (balancesAfter noBalances entries).committed := by
  rw [balancesAfter_committed]
  refine run_nonneg _ le_rfl fun x hx => ?_
  obtain ⟨entry, -, hentry⟩ := List.mem_filterMap.mp hx
  have hpos := entry.amount.property
  unfold committedMove at hentry
  split at hentry <;> simp_all <;> omega

end Caixinha.Model
