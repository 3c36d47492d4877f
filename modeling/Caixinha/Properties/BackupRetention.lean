import Caixinha.Library.Sorting
import Caixinha.Library.Calendar
import Caixinha.Model.BackupRetention
import Mathlib.Data.Finset.Max

/-! What the retention proposal leaves in the folder: the verified backup whose `createdTime`
sorts first, which is a newest one only when the backups are as good as of one age. -/
namespace Caixinha.Properties.BackupRetention
open Caixinha.Library.Fallible Caixinha.Library.Sorting Caixinha.Library.Calendar Caixinha.Model

/-- A verified backup no other verified one is younger than. -/
def Newest (instant : RemoteObject → Int) (items : List RemoteObject) (item : RemoteObject) : Prop :=
  item ∈ verifiedBackups items ∧ ∀ other ∈ verifiedBackups items, instant other ≤ instant item

def oldBackups (instant : RemoteObject → Int) (cutoff : Int) (items : List RemoteObject) :
    List RemoteObject :=
  (verifiedBackups items).filter (fun item => instant item < cutoff)

/-- The proposal names every old verified backup but one of the newest. -/
def KeepsNewest (instant : RemoteObject → Int) (cutoff : Int) (items : List RemoteObject)
    (proposed : List String) : Prop :=
  (verifiedBackups items = [] ∧ proposed = []) ∨
    ∃ newest, Newest instant items newest ∧
      proposed.Perm (((oldBackups instant cutoff items).erase newest).map RemoteObject.id)

/-- The verified backup whose creation text sorts first, the one the code leaves out. -/
def firstByText (items : List RemoteObject) : Option RemoteObject :=
  ((verifiedBackups items).insertionSort RemoteObject.createdLe).head?

variable {fromisoformat : String → Tx Timestamp} {instant : RemoteObject → Int}
  {items : List RemoteObject} {before : Timestamp}

private theorem createdLe_total (a b : RemoteObject) : a.createdLe b ∨ b.createdLe a :=
  String.le_total a.createdText b.createdText

private theorem createdLe_trans (a b c : RemoteObject) (hab : a.createdLe b) (hbc : b.createdLe c) :
    a.createdLe c :=
  String.le_trans hab hbc

private theorem old_perm : (((verifiedBackups items).insertionSort RemoteObject.createdLe).filter
    (fun item => instant item < before.instant)).Perm (oldBackups instant before.instant items) :=
  (List.perm_insertionSort _ _).filter _

private theorem mem_oldBackups {cutoff : Int} {item : RemoteObject} :
    item ∈ oldBackups instant cutoff items ↔ item ∈ verifiedBackups items ∧ instant item < cutoff := by
  simp [oldBackups]

/-- With readable creation times the code proposes the old backups but the first by text. -/
theorem retentionCandidates_ok (haware : before.aware)
    (hread : ∀ item ∈ verifiedBackups items, item.created fromisoformat = .ok (instant item)) :
    ∃ answer, retentionCandidates fromisoformat items before = .ok answer ∧
      answer.candidateFileIds.Perm (((firstByText items).elim (oldBackups instant before.instant items)
        (oldBackups instant before.instant items).erase).map RemoteObject.id) := by
  have hfilter : ((verifiedBackups items).insertionSort RemoteObject.createdLe).filterM (fun item => do
      let created ← item.created fromisoformat
      pure (decide (created < before.instant))) =
        .ok (((verifiedBackups items).insertionSort RemoteObject.createdLe).filter
          (fun item => instant item < before.instant)) := by
    apply filterM_eq_ok
    intro item hitem
    rw [List.mem_insertionSort] at hitem
    rw [hread item hitem, ok_bind]
    rfl
  have hsorted := insertionSort_filter_insertionSort createdLe_total createdLe_trans
    (verifiedBackups items) (fun item => instant item < before.instant)
  rw [retentionCandidates, if_neg (by simp [haware])]
  simp only [hfilter, ok_bind, hsorted]
  refine ⟨_, rfl, ?_⟩
  refine List.Perm.map _ ?_
  rw [firstByText]
  cases ((verifiedBackups items).insertionSort RemoteObject.createdLe).head? with
  | none => exact old_perm
  | some first =>
    dsimp only
    split
    · exact old_perm.erase first
    · rename_i hnot
      rw [old_perm.mem_iff] at hnot
      exact (old_perm.trans (by rw [Option.elim, List.erase_of_not_mem hnot]))

private theorem exists_newest (instant : RemoteObject → Int) {items : List RemoteObject}
    (h : verifiedBackups items ≠ []) : ∃ newest, Newest instant items newest := by
  obtain ⟨newest, hmem, hmax⟩ := (verifiedBackups items).toFinset.exists_max_image instant
    (by simpa using h)
  refine ⟨newest, List.mem_toFinset.mp hmem, fun other hother => ?_⟩
  exact hmax other (List.mem_toFinset.mpr hother)

private theorem firstByText_mem {first : RemoteObject} (h : firstByText items = some first) :
    first ∈ verifiedBackups items :=
  (List.mem_insertionSort _).mp (List.mem_of_mem_head? h)

private theorem firstByText_eq_none (h : firstByText items = none) : verifiedBackups items = [] := by
  rw [firstByText, List.head?_eq_none_iff] at h
  rw [← List.length_eq_zero_iff, ← List.length_insertionSort RemoteObject.createdLe, h]
  rfl

/-- With a newest backup kept, no proposed file is that backup. -/
theorem KeepsNewest.left_in_place (hids : (items.map RemoteObject.id).Nodup) {cutoff : Int}
    {proposed : List String} (h : KeepsNewest instant cutoff items proposed)
    (hsome : verifiedBackups items ≠ []) :
    ∃ newest, Newest instant items newest ∧ newest.id ∉ proposed := by
  obtain ⟨hnone, -⟩ | ⟨newest, hnewest, hperm⟩ := h
  · exact absurd hnone hsome
  · refine ⟨newest, hnewest, fun hmem => ?_⟩
    obtain ⟨other, hother, hid⟩ := List.mem_map.mp (hperm.mem_iff.mp hmem)
    have hsub : (oldBackups instant cutoff items).Sublist items :=
      List.filter_sublist.trans (List.filter_sublist.trans List.filter_sublist)
    have hmem := hsub.subset (List.mem_of_mem_erase hother)
    have hnodup := hids.of_map
    have hsame : other = newest := List.inj_on_of_nodup_map hids hmem
      (List.mem_filter.mp (List.mem_filter.mp hnewest.1).1).1 hid
    exact (hnodup.sublist hsub).not_mem_erase (hsame ▸ hother)

/-- The proposal keeps a newest verified backup exactly when the one first by text is not old, or
all are old and that one is among the newest. -/
theorem proposal_keeps_newest_iff (haware : before.aware)
    (hread : ∀ item ∈ verifiedBackups items, item.created fromisoformat = .ok (instant item)) :
    (∃ answer, retentionCandidates fromisoformat items before = .ok answer ∧
        KeepsNewest instant before.instant items answer.candidateFileIds) ↔
      ∀ first, firstByText items = some first → before.instant ≤ instant first ∨
        ∃ newest, Newest instant items newest ∧ instant newest < before.instant ∧
          newest.id = first.id := by
  obtain ⟨answer, hok, hperm⟩ := retentionCandidates_ok haware hread
  have honly : (∃ answer, retentionCandidates fromisoformat items before = .ok answer ∧
      KeepsNewest instant before.instant items answer.candidateFileIds) ↔
      KeepsNewest instant before.instant items answer.candidateFileIds := by
    simp [hok]
  rw [honly]
  cases hfirst : firstByText items with
  | none =>
    have hnone := firstByText_eq_none hfirst
    have hold : oldBackups instant before.instant items = [] := by rw [oldBackups, hnone]; rfl
    rw [hfirst, Option.elim, hold] at hperm
    simp [KeepsNewest, hnone, List.perm_nil.mp hperm]
  | some first =>
    have hmem := firstByText_mem hfirst
    rw [hfirst, Option.elim] at hperm
    have hne : verifiedBackups items ≠ [] := List.ne_nil_of_mem hmem
    simp only [Option.some.injEq, forall_eq']
    constructor
    · rintro (⟨hnone, -⟩ | ⟨newest, hnewest, hproposed⟩)
      · exact absurd hnone hne
      · rcases Int.lt_or_le (instant first) before.instant with hold | hold
        · have hfirstOld := mem_oldBackups.mpr ⟨hmem, hold⟩
          have hsame := hperm.symm.trans hproposed
          have hnewestOld := mem_of_erase_perm hfirstOld hsame
          exact .inr ⟨newest, hnewest, (mem_oldBackups.mp hnewestOld).2,
            ((map_erase_perm_iff _ hfirstOld hnewestOld).mp hsame).symm⟩
        · exact .inl hold
    · rintro (hyoung | ⟨newest, hnewest, hold, hid⟩)
      · obtain ⟨newest, hnewest⟩ := exists_newest instant hne
        have hfirst' : first ∉ oldBackups instant before.instant items := by
          intro h
          have := (mem_oldBackups.mp h).2
          omega
        have hnewest' : newest ∉ oldBackups instant before.instant items := by
          intro h
          have := (mem_oldBackups.mp h).2
          have := hnewest.2 first hmem
          omega
        rw [List.erase_of_not_mem hfirst'] at hperm
        exact .inr ⟨newest, hnewest, by rwa [List.erase_of_not_mem hnewest']⟩
      · have hfirstOld : first ∈ oldBackups instant before.instant items :=
          mem_oldBackups.mpr ⟨hmem, lt_of_le_of_lt (hnewest.2 first hmem) hold⟩
        have hnewestOld := mem_oldBackups.mpr ⟨hnewest.1, hold⟩
        exact .inr ⟨newest, hnewest,
          hperm.trans ((map_erase_perm_iff _ hfirstOld hnewestOld).mpr hid.symm)⟩

/-- `fromisoformat` on texts of the form `2025-01-01T00:00:00+00:00`. -/
def readUtc (text : String) : Tx Timestamp :=
  let cs := text.toList
  let number (start length : Nat) : Nat := Nat.ofDigitChars 10 ((cs.drop start).take length) 0
  if cs.length = 25 ∧ cs.drop 19 = "+00:00".toList ∧ (cs.take 4).all Char.isDigit then
    .ok { instant := dayOfCivil { year := number 0 4, month := number 5 2, day := number 8 2 } * dayLength +
      ((number 11 2 * 60 + number 14 2) * 60 + number 17 2 : Nat) * 1000000 }
  else .error (.valueError "Invalid isoformat string")

/-- The instant of a creation text, the epoch where there is none. -/
def instantOf (item : RemoteObject) : Int := (item.created readUtc).toOption.getD 0

def oldest : RemoteObject where
  id := "oldest"
  size := some "10"
  md5Checksum := some "x"
  createdTime := some "2025-01-01T00:00:00Z"
  appProperties := { marker := some "v1", verificationStatus := some "VERIFIED", localSha256 := some "a" }

def newer : RemoteObject where
  id := "newer"
  size := some "10"
  md5Checksum := some "y"
  createdTime := some "2025-02-01T00:00:00Z"
  appProperties := { marker := some "v1", verificationStatus := some "VERIFIED", localSha256 := some "b" }

def unknown : RemoteObject where
  id := "unknown"
  size := some "10"
  md5Checksum := some "z"
  createdTime := some "2024-01-01T00:00:00Z"
  appProperties := { marker := some "v1" }

/-- Midnight of 2026-01-01 in UTC. -/
def newYear : Timestamp := { instant := 20454 * dayLength }

/-- A single old backup is kept. -/
theorem single_backup_kept : ∃ answer, retentionCandidates readUtc [oldest, unknown] newYear = .ok answer ∧
    KeepsNewest instantOf newYear.instant [oldest, unknown] answer.candidateFileIds := by
  refine (proposal_keeps_newest_iff (by decide) (by decide)).mpr fun first hfirst => .inr ?_
  have hfirst' : first = oldest := by
    have : firstByText [oldest, unknown] = some oldest := by decide
    exact Option.some.inj (hfirst.symm.trans this)
  subst hfirst'
  exact ⟨oldest, ⟨by decide, by decide⟩, by decide, rfl⟩

/-- Of two old backups the newer is proposed and the older stays. -/
theorem newer_backup_proposed : ∃ answer,
    retentionCandidates readUtc [oldest, newer, unknown] newYear = .ok answer ∧
      answer.candidateFileIds = ["newer"] ∧
      ¬ KeepsNewest instantOf newYear.instant [oldest, newer, unknown] answer.candidateFileIds := by
  refine ⟨{ mode := "DRY_RUN", candidateFileIds := ["newer"], deletePerformed := false },
    by decide, rfl, ?_⟩
  have hverified : verifiedBackups [oldest, newer, unknown] = [oldest, newer] := by decide
  rintro (⟨hnone, -⟩ | ⟨newest, hnewest, hperm⟩)
  · rw [hverified] at hnone
    cases hnone
  · rw [Newest, hverified] at hnewest
    obtain ⟨hmem, hmax⟩ := hnewest
    rcases List.mem_pair.mp hmem with rfl | rfl
    · have := hmax newer (by simp)
      exact absurd this (by decide)
    · exact absurd hperm (by decide)

end Caixinha.Properties.BackupRetention
