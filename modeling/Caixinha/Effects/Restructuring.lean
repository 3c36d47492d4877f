import Caixinha.Effects.Agreements
import Caixinha.Effects.ClosingGaps
import Caixinha.Library.RelatedRows
import Caixinha.Model.CollectionAgreements

/-! What an approved agreement rests on, what later steps leave of it, and that the closing finds it
valid as long as the replaced rows stay. -/
namespace Caixinha.Effects

open Caixinha.Library Caixinha.Library.Table Fallible Caixinha.Model
open Caixinha.Model.CycleClosing

/-- An agreement the closing applies once it is dated. -/
def Decided (a : CollectionAgreement) : Prop := a.status = .APPROVED ∨ a.status = .SETTLED

instance (a : CollectionAgreement) : Decidable (Decided a) := inferInstanceAs (Decidable (_ ∨ _))

section Kept

/-- The worker moves the penalty of a row and the day it counts to. -/
def SameRow (i j : LoanInstallment) : Prop :=
  ∃ penalty day, j = { i with penaltyAmount := penalty, lastPenaltyDate := day }

def SameLoan (l m : Loan) : Prop := ∃ n, m = { l with stateRevision := n }

/-- Payments and reversals move the status of an agreement between the two that apply. -/
def SameAgreement (a b : CollectionAgreement) : Prop :=
  (∃ status n, b = { a with status, stateRevision := n }) ∧ (Decided a ↔ Decided b)

def SameReplacement (i j : AgreementInstallment) : Prop :=
  ∃ paid penalty at' status, j = { i with
    paidAmount := paid, paidPenaltyAmount := penalty, paidAt := at', status }

theorem SameRow.refl (i : LoanInstallment) : SameRow i i := ⟨_, _, rfl⟩

theorem SameLoan.refl (l : Loan) : SameLoan l l := ⟨_, rfl⟩

theorem SameAgreement.refl (a : CollectionAgreement) : SameAgreement a a := ⟨⟨_, _, rfl⟩, Iff.rfl⟩

theorem SameReplacement.refl (i : AgreementInstallment) : SameReplacement i i := ⟨_, _, _, _, rfl⟩

theorem SameRow.trans {i j k : LoanInstallment} (h : SameRow i j) (h' : SameRow j k) :
    SameRow i k := by
  obtain ⟨_, _, rfl⟩ := h
  obtain ⟨_, _, rfl⟩ := h'
  exact ⟨_, _, rfl⟩

theorem SameLoan.trans {l m n : Loan} (h : SameLoan l m) (h' : SameLoan m n) : SameLoan l n := by
  obtain ⟨_, rfl⟩ := h
  obtain ⟨_, rfl⟩ := h'
  exact ⟨_, rfl⟩

theorem SameAgreement.trans {a b c : CollectionAgreement} (h : SameAgreement a b) (h' : SameAgreement b c) :
    SameAgreement a c := by
  obtain ⟨⟨_, _, rfl⟩, hab⟩ := h
  obtain ⟨⟨_, _, rfl⟩, hbc⟩ := h'
  exact ⟨⟨_, _, rfl⟩, hab.trans hbc⟩

theorem SameReplacement.trans {i j k : AgreementInstallment} (h : SameReplacement i j)
    (h' : SameReplacement j k) : SameReplacement i k := by
  obtain ⟨_, _, _, _, rfl⟩ := h
  obtain ⟨_, _, _, _, rfl⟩ := h'
  exact ⟨_, _, _, _, rfl⟩

/-- What worker runs, agreement payments and their reversals leave as it was. -/
structure TermsKept (db db' : Db) : Prop where
  participations : db'.participations = db.participations
  loans : List.Forall₂ SameLoan db.loans db'.loans
  rows : List.Forall₂ SameRow db.loanInstallments db'.loanInstallments
  agreements : List.Forall₂ SameAgreement db.agreements db'.agreements
  replacements : List.Forall₂ SameReplacement db.agreementInstallments db'.agreementInstallments

variable {db db' db'' : Db}

theorem TermsKept.refl (db : Db) : TermsKept db db where
  participations := rfl
  loans := List.forall₂_same.mpr fun l _ => SameLoan.refl l
  rows := List.forall₂_same.mpr fun i _ => SameRow.refl i
  agreements := List.forall₂_same.mpr fun a _ => SameAgreement.refl a
  replacements := List.forall₂_same.mpr fun i _ => SameReplacement.refl i

theorem TermsKept.trans (h : TermsKept db db') (h' : TermsKept db' db'') : TermsKept db db'' where
  participations := h'.participations.trans h.participations
  loans := forall₂_trans (fun _ _ _ => SameLoan.trans) h.loans h'.loans
  rows := forall₂_trans (fun _ _ _ => SameRow.trans) h.rows h'.rows
  agreements := forall₂_trans (fun _ _ _ => SameAgreement.trans) h.agreements h'.agreements
  replacements := forall₂_trans (fun _ _ _ => SameReplacement.trans) h.replacements h'.replacements

/-- The tables have keys, and only decided agreements have installments. -/
structure AgreementTables (db : Db) : Prop where
  rows : Keyed LoanInstallment.id db.loanInstallments
  agreements : Keyed CollectionAgreement.id db.agreements
  replacements : Keyed AgreementInstallment.id db.agreementInstallments
  decided : ∀ i ∈ db.agreementInstallments, ∀ a ∈ db.agreements, a.id = i.agreementId → Decided a

theorem AgreementTables.kept (ht : AgreementTables db) (h : TermsKept db db') :
    AgreementTables db' where
  rows := keyed_forall₂ h.rows (by rintro _ _ ⟨_, _, rfl⟩; rfl) ht.rows
  agreements := keyed_forall₂ h.agreements (by rintro _ _ ⟨⟨_, _, rfl⟩, -⟩; rfl) ht.agreements
  replacements := keyed_forall₂ h.replacements (by rintro _ _ ⟨_, _, _, _, rfl⟩; rfl) ht.replacements
  decided := by
    intro j hj b hb hid
    obtain ⟨i, hi, _, _, _, _, rfl⟩ := mem_of_forall₂ h.replacements hj
    obtain ⟨a, ha, ⟨_, _, rfl⟩, hdecided⟩ := mem_of_forall₂ h.agreements hb
    exact hdecided.mp (ht.decided i hi a ha hid)

end Kept

section Valid
variable {db db' : Db} {cycleId loanId : Nat} {replaced : List Nat} {a b : CollectionAgreement}

/-- The open rows of a loan keep their penalty. -/
def PenaltyKept (loanId : Nat) (i j : LoanInstallment) : Prop :=
  SameRow i j ∧ (i.loanId = loanId → i.status ≠ .PAID → j.penaltyAmount = i.penaltyAmount)

theorem isCycleMember_kept (h : TermsKept db db') (memberId : Nat) :
    isCycleMember db' cycleId memberId = isCycleMember db cycleId memberId := by
  rw [isCycleMember, isCycleMember, cycleParticipations, cycleParticipations, h.participations]

private theorem memberLoan_kept (h : TermsKept db db') {p : Loan → Bool}
    (hp : ∀ l m, SameLoan l m → p l = p m) :
    (memberLoan? db cycleId loanId).any p = (memberLoan? db' cycleId loanId).any p := by
  have hloans : List.Forall₂ SameLoan (memberLoans db cycleId) (memberLoans db' cycleId) := by
    refine (forall₂_filter h.loans ?_).imp fun _ _ hlm => hlm.1
    rintro l _ ⟨_, rfl⟩
    rw [isCycleMember_kept h]
  have hrel : Option.Rel SameLoan (memberLoan? db cycleId loanId) (memberLoan? db' cycleId loanId) := by
    refine lookup_forall₂ hloans ?_ loanId
    rintro l _ ⟨_, rfl⟩
    rfl
  generalize memberLoan? db cycleId loanId = x at hrel ⊢
  generalize memberLoan? db' cycleId loanId = y at hrel ⊢
  cases hrel with
  | none => rfl
  | some hlm => exact hp _ _ hlm

/-- The rows of the loan, before and after. -/
private theorem installmentsOf_kept
    (hrows : List.Forall₂ (PenaltyKept loanId) db.loanInstallments db'.loanInstallments) :
    List.Forall₂ (fun i j => PenaltyKept loanId i j ∧ i.loanId = loanId)
      (installmentsOf db loanId) (installmentsOf db' loanId) := by
  refine forall₂_insertionSort ((forall₂_filter hrows ?_).imp fun i j hij =>
    ⟨hij.1, by simpa using hij.2⟩) ?_
  · rintro i _ ⟨⟨_, _, rfl⟩, -⟩
    rfl
  · rintro i _ ⟨⟨⟨_, _, rfl⟩, -⟩, -⟩
    rfl

private theorem status_kept (p : ObligationStatus → Bool) {i j : LoanInstallment}
    (h : PenaltyKept loanId i j ∧ i.loanId = loanId) : p i.status = p j.status := by
  obtain ⟨⟨⟨_, _, rfl⟩, -⟩, -⟩ := h
  rfl

theorem oldOpen_kept
    (hrows : List.Forall₂ (PenaltyKept loanId) db.loanInstallments db'.loanInstallments) :
    oldOpen (installmentsOf db loanId) = oldOpen (installmentsOf db' loanId) := by
  unfold oldOpen
  refine congrArg List.sum (map_eq_of_forall₂ (forall₂_filter (installmentsOf_kept hrows)
    fun _ _ => status_kept (· ≠ .PAID)) ?_)
  rintro i j ⟨⟨⟨⟨_, _, rfl⟩, hpenalty⟩, hloan⟩, hunpaid⟩
  have hsame := hpenalty hloan (by simpa using hunpaid)
  simp only [columnsOpen] at hsame ⊢
  rw [hsame]

private theorem replacementsOf_kept (h : TermsKept db db') (agreementId : Nat) :
    List.Forall₂ SameReplacement (replacementsOf db agreementId) (replacementsOf db' agreementId) := by
  refine forall₂_insertionSort ((forall₂_filter h.replacements ?_).imp fun _ _ hij => hij.1) ?_
  · rintro i _ ⟨_, _, _, _, rfl⟩
    rfl
  · rintro i _ ⟨_, _, _, _, rfl⟩
    rfl

theorem replacementTotal_kept (h : TermsKept db db') (agreementId : Nat) :
    replacementTotal (replacementsOf db agreementId) = replacementTotal (replacementsOf db' agreementId) := by
  refine congrArg List.sum (map_eq_of_forall₂ (replacementsOf_kept h agreementId) ?_)
  rintro i _ ⟨_, _, _, _, rfl⟩
  rfl

/-- What the closing checks of an agreement does not change while the replaced rows keep their
penalties. -/
theorem structurallyValid_kept (h : TermsKept db db')
    (hrows : List.Forall₂ (PenaltyKept a.loanId) db.loanInstallments db'.loanInstallments)
    (hab : SameAgreement a b) :
    structurallyValid db cycleId replaced a = structurallyValid db' cycleId replaced b := by
  obtain ⟨⟨status, n, rfl⟩, -⟩ := hab
  have hold := installmentsOf_kept hrows
  have hnew := replacementsOf_kept h a.id
  have hnumbers : (replacementsOf db a.id).map (·.number) = (replacementsOf db' a.id).map (·.number) := by
    refine map_eq_of_forall₂ hnew ?_
    rintro i _ ⟨_, _, _, _, rfl⟩
    rfl
  have hall : ∀ (p : AgreementInstallment → Bool), (∀ i j, SameReplacement i j → p i = p j) →
      (replacementsOf db a.id).all p = (replacementsOf db' a.id).all p :=
    fun p hp => all_eq_of_forall₂ hnew hp
  unfold structurallyValid
  dsimp only
  rw [memberLoan_kept h (by rintro l _ ⟨_, rfl⟩; rfl),
    any_eq_of_forall₂ hold (fun _ _ => status_kept (· = .AGREED)),
    all_eq_of_forall₂ hold (fun _ _ => status_kept (fun s => s = .PAID ∨ s = .AGREED)), hnumbers,
    oldOpen_kept hrows, replacementTotal_kept h,
    hall (fun i => i.amount = i.principal + i.penaltyAmount) (by rintro i _ ⟨_, _, _, _, rfl⟩; rfl),
    hall (fun i => a.decidedAt.any (fun at' => financialCivilDate at' < i.dueDate))
      (by rintro i _ ⟨_, _, _, _, rfl⟩; rfl)]

end Valid

end Caixinha.Effects
