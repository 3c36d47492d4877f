import Caixinha.Effects.BackupUpload
import Mathlib.Data.Finset.Image
import Mathlib.Data.Finset.Range
import Mathlib.Data.Finset.Order

/-! When the resumable upload comes to an end: unless the server takes back acknowledged bytes
again and again. -/
namespace Caixinha.Properties.BackupUpload
open Caixinha.Library.Runs Caixinha.Model.BackupUpload Caixinha.Effects.BackupUpload

variable {β : Type} {answers : Nat → Answer β} {size : Nat}

/-- The loop returns or raises after some turns, and so after finitely many requests. -/
def Ends (answers : Nat → Answer β) (size : Nat) : Prop :=
  ∃ n result log, uploadSession answers size n = .done result log

/-- The loop makes the request that is answered `k`-th. -/
def Makes (answers : Nat → Answer β) (size k : Nat) : Prop :=
  ∃ n, k < (uploadSession answers size n).log.length

/-- The `k`-th answer acknowledges fewer bytes than the server had acknowledged before. -/
def TakesBack (answers : Nat → Answer β) (k : Nat) : Prop :=
  ∃ n, ack? (answers k) = some n ∧ n < acknowledged ((List.range k).map answers)

/-- What every state of a running loop satisfies. -/
structure Running (answers : Nat → Answer β) (s : Session β) : Prop where
  sound : Sound answers s.log
  offset : s.offset = acknowledged (answersOf s.log)
  counted : Counted s

private theorem running_start : Running answers {} where
  sound := {
    read := rfl
    chunks := fun before _ _ _ _ h => absurd h (by simp) }
  offset := rfl
  counted := ⟨Nat.zero_le _, Nat.zero_le _⟩

private theorem offset_after {s t : Session β} (h : After s t)
    (hs : s.offset = acknowledged (answersOf s.log)) : t.offset = acknowledged (answersOf t.log) := by
  cases h with
  | moved said r hlog _ _ hoffset _ => rw [hlog, acknowledged_snoc_some hoffset]
  | waited _ hack hoffset _ _ => rw [hoffset, hs, hack]

theorem uploadSession_running {n : Nat} {s : Session β} (h : uploadSession answers size n = .again s) :
    Running answers s := by
  induction n generalizing s with
  | zero =>
    cases h
    exact running_start
  | succ n ih =>
    rw [uploadSession] at h
    cases hbefore : uploadSession answers size n with
    | again before =>
      rw [hbefore] at h
      obtain ⟨hsound, hoffset, hcounted⟩ := ih hbefore
      obtain ⟨-, hafter, hcounted'⟩ := turn_again hsound hoffset hcounted h
      have hlog := @turn_log _ answers size before hsound hoffset
      dsimp only at h
      rw [h] at hlog
      exact ⟨hlog, offset_after hafter hoffset, hcounted'⟩
    | done result log =>
      rw [hbefore] at h
      cases h

/-- Every chunk starts where the server last was, in whatever way the loop ends. -/
theorem uploadSession_chunks (answers : Nat → Answer β) (size n : Nat) :
    ChunksInPlace (uploadSession answers size n).log := by
  induction n with
  | zero => exact (@running_start _ answers).sound.chunks
  | succ n ih =>
    rw [uploadSession]
    cases hbefore : uploadSession answers size n with
    | again before =>
      obtain ⟨hsound, hoffset, -⟩ := uploadSession_running hbefore
      exact (turn_log hsound hoffset).chunks
    | done result log =>
      rw [hbefore] at ih
      exact ih

/-- What is left to do: bytes first, then answers without progress, then throttled chunks. -/
def weight (size : Nat) (s : Session β) : Nat :=
  (size - s.offset) * 25 + (maxRetries - s.noProgress) * 5 + (maxRetries - s.attempts)

/-- Of an answer that moved the offset: which one it was and what stood before it. -/
private theorem moved_index {said : List (Answer β)} {a : Answer β} {log : Exchanges β}
    (hread : Read answers log) (hlog : answersOf log = said ++ [a]) :
    log.length = said.length + 1 ∧ said = (List.range said.length).map answers ∧
      a = answers said.length := by
  have hlength : log.length = said.length + 1 := by
    have := congrArg List.length hlog
    rwa [answersOf, List.length_map, List.length_append, List.length_singleton] at this
  rw [Read, hlength, List.range_succ, List.map_append, hlog] at hread
  obtain ⟨hsaid, ha⟩ := List.append_inj' hread rfl
  exact ⟨hlength, hsaid, (List.cons.inj ha).1⟩

/-- A turn without a step back leaves less to do. -/
theorem weight_lt {s t : Session β} (hs : Running answers s) (hmore : s.offset < size)
    (ht : Running answers t) (h : After s t)
    (hkeep : ∀ k, s.log.length ≤ k → k < t.log.length → ¬ TakesBack answers k) :
    weight size t < weight size s := by
  obtain ⟨ha, hp⟩ := hs.counted
  obtain ⟨ha', hp'⟩ := ht.counted
  unfold weight maxRetries at *
  cases h with
  | moved said r hlog hlength hack hoffset hprogress =>
    obtain ⟨hindex, hsaid, hanswer⟩ := moved_index ht.sound.read hlog
    have hforward : s.offset ≤ t.offset := by
      by_contra hback
      refine hkeep said.length hlength (by omega) ⟨t.offset, hanswer ▸ hoffset, ?_⟩
      rw [← hsaid, hack, ← hs.offset]
      omega
    split at hprogress <;> omega
  | waited hlength hack hoffset hprogress hattempts => omega

/-- The loop as the states it is still running in. -/
private def running (answers : Nat → Answer β) (size n : Nat) : Option (Session β) :=
  match uploadSession answers size n with
  | .again s => some s
  | .done _ _ => none

private theorem running_eq_some {n : Nat} {s : Session β} :
    running answers size n = some s ↔ uploadSession answers size n = .again s := by
  unfold running
  cases uploadSession answers size n <;> simp

private theorem ends_of_running {n : Nat} (h : running answers size n = none) : Ends answers size := by
  unfold running at h
  cases hdone : uploadSession answers size n with
  | again s =>
    rw [hdone] at h
    cases h
  | done result log => exact ⟨n, result, log, hdone⟩

/-- A run that goes on makes a request in every turn. -/
private theorem turns_le_requests {n : Nat} {s : Session β} (h : uploadSession answers size n = .again s) :
    n ≤ s.log.length := by
  induction n generalizing s with
  | zero => exact Nat.zero_le _
  | succ n ih =>
    rw [uploadSession] at h
    cases hbefore : uploadSession answers size n with
    | again before =>
      rw [hbefore] at h
      obtain ⟨hsound, hoffset, hcounted⟩ := uploadSession_running hbefore
      obtain ⟨-, hafter, -⟩ := turn_again hsound hoffset hcounted h
      have := ih hbefore
      cases hafter with
      | moved said r hlog hlength _ _ _ =>
        have hgrows := congrArg List.length hlog
        rw [answersOf, List.length_map, List.length_append, List.length_singleton] at hgrows
        omega
      | waited hlength _ _ _ _ => omega
    | done result log =>
      rw [hbefore] at h
      cases h

theorem ends_of_finitely_many {N : Nat}
    (h : ∀ k, N ≤ k → Makes answers size k → ¬ TakesBack answers k) : Ends answers size := by
  obtain ⟨n, hn⟩ : ∃ n, running answers size n = none := by
    refine @eventually_none_of_descent _ _ (weight size) N fun n s t hN hs ht => ?_
    rw [running_eq_some] at hs ht
    have hrunning := uploadSession_running hs
    have hturn : turn answers size s = .again t := by
      rw [uploadSession, hs] at ht
      exact ht
    obtain ⟨hmore, hafter, -⟩ := turn_again hrunning.sound hrunning.offset hrunning.counted hturn
    refine weight_lt hrunning hmore (uploadSession_running ht) hafter fun k hk hlt => ?_
    have hlow := turns_le_requests hs
    refine h k (by omega) ⟨n + 1, ?_⟩
    rw [ht]
    exact hlt
  exact ends_of_running hn

theorem finitely_many_of_ends (h : Ends answers size) : ∃ N, ∀ k, N ≤ k → ¬ Makes answers size k := by
  obtain ⟨last, result, log, hdone⟩ := h
  have hstay : ∀ more, uploadSession answers size (last + more) = .done result log := by
    intro more
    induction more with
    | zero => exact hdone
    | succ more ih => rw [← Nat.add_assoc, uploadSession, ih]
  let length (n : Nat) : Nat := (uploadSession answers size n).log.length
  obtain ⟨N, hbound⟩ := ((Finset.range (last + 1)).image length).exists_le
  refine ⟨N, fun k hk ⟨n, hn⟩ => ?_⟩
  have hcut : length n = length (min n last) := by
    rcases Nat.le_total n last with hle | hle
    · rw [Nat.min_eq_left hle]
    · obtain ⟨more, rfl⟩ := Nat.exists_eq_add_of_le hle
      rw [Nat.min_eq_right hle]
      simp only [length]
      rw [hstay more, hdone]
  have := hbound (length (min n last)) (Finset.mem_image_of_mem length
    (Finset.mem_range.mpr (Nat.lt_succ_of_le (Nat.min_le_right n last))))
  change k < length n at hn
  omega

/-- A server that takes acknowledged bytes back finitely often only lets the upload end. -/
theorem ends_of_answers (h : ∃ N, ∀ k, N ≤ k → ¬ TakesBack answers k) : Ends answers size :=
  h.elim fun _ hN => ends_of_finitely_many fun k hk _ => hN k hk

/-- The upload ends, with every chunk at the acknowledged offset, exactly when only finitely many of
the answers it asks for take acknowledged bytes back. -/
theorem upload_ends_iff (answers : Nat → Answer β) (size : Nat) :
    (Ends answers size ∧ ∀ n, ChunksInPlace (uploadSession answers size n).log) ↔
      ∃ N, ∀ k, N ≤ k → Makes answers size k → ¬ TakesBack answers k := by
  constructor
  · rintro ⟨hends, -⟩
    obtain ⟨N, hN⟩ := finitely_many_of_ends hends
    exact ⟨N, fun k hk hmakes => absurd hmakes (hN k hk)⟩
  · rintro ⟨N, hN⟩
    exact ⟨ends_of_finitely_many hN, uploadSession_chunks answers size⟩

/-- A server that forgets the first hundred bytes once and then has them all. -/
private def onceForgetful (k : Nat) : Answer Unit :=
  if k = 0 then .response { status := 308, range := .last 99 }
  else if k = 1 then .response { status := 308 }
  else .response { status := 201, json := some () }

/-- The upload of a thousand bytes ends although the second answer takes bytes back. -/
theorem once_forgetful_ends : TakesBack onceForgetful 1 ∧ Ends onceForgetful 1000 ∧
    (uploadSession onceForgetful 1000 3).log.map Prod.fst = [.chunk 0 1000, .chunk 100 900, .chunk 0 1000] ∧
    ∀ n, ChunksInPlace (uploadSession onceForgetful 1000 n).log := by
  have hlater : ∀ k, 2 ≤ k → Makes onceForgetful 1000 k → ¬ TakesBack onceForgetful k := by
    rintro k hk - ⟨n, hack, -⟩
    rw [onceForgetful, if_neg (by omega), if_neg (by omega)] at hack
    cases hack
  obtain ⟨hends, hchunks⟩ := (upload_ends_iff onceForgetful 1000).mpr ⟨2, hlater⟩
  exact ⟨⟨0, rfl, by decide⟩, hends, by decide, hchunks⟩

/-- A server that acknowledges the first hundred bytes and forgets them again, in turn. -/
def forgetful (k : Nat) : Answer Unit :=
  if k % 2 = 0 then .response { status := 308, range := .last 99 } else .response { status := 308 }

private theorem forgetful_turn {s : Session Unit} {n : Nat} (hlength : s.log.length = n)
    (hstate : (n % 2 = 0 ∧ s.offset = 0 ∧ s.noProgress ≤ 1) ∨ (n % 2 = 1 ∧ s.offset = 100 ∧ s.noProgress = 0)) :
    ∃ t, turn forgetful 1000 s = .again t ∧ t.log.length = n + 1 ∧
      (((n + 1) % 2 = 0 ∧ t.offset = 0 ∧ t.noProgress ≤ 1) ∨
        ((n + 1) % 2 = 1 ∧ t.offset = 100 ∧ t.noProgress = 0)) := by
  obtain ⟨hn, hoffset, hprogress⟩ | ⟨hn, hoffset, hprogress⟩ := hstate
  · have hanswer : forgetful s.log.length = .response { status := 308, range := .last 99 } := by
      rw [hlength, forgetful, if_pos hn]
    refine ⟨{ s with offset := 100, attempts := 0, noProgress := 0, log := s.log ++
      [(.chunk s.offset (min chunkBytes (1000 - s.offset)), forgetful s.log.length)] }, ?_, by simp [hlength],
      .inr ⟨by omega, rfl, rfl⟩⟩
    simp [turn, chunkAnswer, request, hanswer, handle, advance, Response.newOffset, hoffset]
  · have hanswer : forgetful s.log.length = .response { status := 308 } := by
      rw [hlength, forgetful, if_neg (by omega)]
    refine ⟨{ s with offset := 0, attempts := 0, noProgress := 1, log := s.log ++
      [(.chunk s.offset (min chunkBytes (1000 - s.offset)), forgetful s.log.length)] }, ?_, by simp [hlength],
      .inl ⟨by omega, rfl, Nat.le_refl 1⟩⟩
    simp [turn, chunkAnswer, request, hanswer, handle, advance, Response.newOffset, hoffset, hprogress,
      maxRetries]

/-- Against the forgetful server the upload of a thousand bytes never ends. -/
theorem forgetful_never_ends : ¬ Ends forgetful 1000 := by
  have hrun : ∀ n, ∃ s, uploadSession forgetful 1000 n = .again s ∧ s.log.length = n ∧
      ((n % 2 = 0 ∧ s.offset = 0 ∧ s.noProgress ≤ 1) ∨ (n % 2 = 1 ∧ s.offset = 100 ∧ s.noProgress = 0)) := by
    intro n
    induction n with
    | zero => exact ⟨{}, rfl, rfl, .inl ⟨rfl, rfl, Nat.zero_le _⟩⟩
    | succ n ih =>
      obtain ⟨s, hs, hlength, hstate⟩ := ih
      rw [uploadSession, hs]
      exact forgetful_turn hlength hstate
  rintro ⟨n, result, log, hdone⟩
  obtain ⟨s, hs, -⟩ := hrun n
  rw [hs] at hdone
  cases hdone

end Caixinha.Properties.BackupUpload
