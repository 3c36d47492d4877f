import Caixinha.Library.Runs
import Caixinha.Model.BackupUpload
import Mathlib.Data.List.Range
import Mathlib.Tactic.Common

/-! What one turn of the resumable upload does to the session and to what the server has
acknowledged. -/
namespace Caixinha.Effects.BackupUpload
open Caixinha.Model.BackupUpload

variable {β : Type}

/-- The offset an answer acknowledges: that of a readable 308. -/
def ack? : Answer β → Option Nat
  | .failed => none
  | .response r => if r.status = 308 then r.newOffset else none

/-- The offset the server last acknowledged, zero before it has said anything. -/
def acknowledged (said : List (Answer β)) : Nat := (said.filterMap ack?).getLastD 0

def answersOf (log : Exchanges β) : List (Answer β) := log.map Prod.snd

theorem acknowledged_snoc_none {said : List (Answer β)} {a : Answer β} (h : ack? a = none) :
    acknowledged (said ++ [a]) = acknowledged said := by
  simp [acknowledged, h]

theorem acknowledged_snoc_some {said : List (Answer β)} {a : Answer β} {n : Nat} (h : ack? a = some n) :
    acknowledged (said ++ [a]) = n := by
  simp [acknowledged, h]

theorem ack?_of_throttled {r : Response β} (h : r.throttled) : ack? (.response r) = none := by
  have hstatus : r.status ≠ 308 := by
    intro heq
    simp [Response.throttled, heq] at h
  rw [ack?, if_neg hstatus]

/-- The chunks of a log start where the server last was. -/
def ChunksInPlace (log : Exchanges β) : Prop :=
  ∀ before offset length a after, log = before ++ (.chunk offset length, a) :: after →
    offset = acknowledged (answersOf before)

theorem ChunksInPlace.snoc {log : Exchanges β} (h : ChunksInPlace log) {q : Request} {a : Answer β}
    (hq : ∀ offset length, q = .chunk offset length → offset = acknowledged (answersOf log)) :
    ChunksInPlace (log ++ [(q, a)]) := by
  intro before offset length b after heq
  rcases List.eq_nil_or_concat' after with rfl | ⟨after, last, rfl⟩
  · obtain ⟨hbefore, hlast⟩ := List.append_inj' heq rfl
    rw [List.cons.injEq, Prod.mk.injEq] at hlast
    rw [← hbefore]
    exact hq offset length hlast.1.1
  · rw [← List.cons_append, ← List.append_assoc] at heq
    exact h before offset length b after (List.append_inj' heq rfl).1

section Asked
variable {answers : Nat → Answer β}

/-- A log holds the server's answers in their order. -/
def Read (answers : Nat → Answer β) (log : Exchanges β) : Prop :=
  answersOf log = (List.range log.length).map answers

theorem Read.snoc {log : Exchanges β} (h : Read answers log) (q : Request) :
    Read answers (log ++ [(q, answers log.length)]) := by
  unfold Read answersOf at *
  rw [List.map_append, h, List.length_append, List.length_singleton, List.range_succ, List.map_append]
  rfl

/-- What is known of a log: its answers are the server's and its chunks are in place. -/
structure Sound (answers : Nat → Answer β) (log : Exchanges β) : Prop where
  read : Read answers log
  chunks : ChunksInPlace log

theorem Sound.status {log : Exchanges β} (h : Sound answers log) :
    Sound answers (log ++ [(.status, answers log.length)]) where
  read := h.read.snoc _
  chunks := h.chunks.snoc fun _ _ hq => by cases hq

theorem Sound.chunk {log : Exchanges β} (h : Sound answers log) (length : Nat) :
    Sound answers (log ++ [(.chunk (acknowledged (answersOf log)) length, answers log.length)]) where
  read := h.read.snoc _
  chunks := h.chunks.snoc fun _ _ hq => by cases hq; rfl

/-- `log` grew to `log'` by requests of which only the last can have moved the acknowledged offset;
where they have a result, that is its answer. -/
structure Asked (answers : Nat → Answer β) (log : Exchanges β)
    (result : Except Failure (Response β)) (log' : Exchanges β) : Prop where
  sound : Sound answers log'
  answered : ∀ r, result = .ok r → ∃ said, answersOf log' = said ++ [.response r] ∧
    log.length ≤ said.length ∧ acknowledged said = acknowledged (answersOf log)

theorem Asked.after {log middle log' : Exchanges β} {result : Except Failure (Response β)}
    (h : Asked answers middle result log') (hlength : log.length ≤ middle.length)
    (hack : acknowledged (answersOf middle) = acknowledged (answersOf log)) :
    Asked answers log result log' where
  sound := h.sound
  answered r hr := by
    obtain ⟨said, hsaid, hmore, hsame⟩ := h.answered r hr
    exact ⟨said, hsaid, hlength.trans hmore, hsame.trans hack⟩

private theorem answersOf_snoc (log : Exchanges β) (q : Request) (a : Answer β) :
    answersOf (log ++ [(q, a)]) = answersOf log ++ [a] := by
  simp [answersOf]

private theorem length_answersOf (log : Exchanges β) : (answersOf log).length = log.length := by
  simp [answersOf]

private theorem asked_one {log : Exchanges β} {q : Request} {r : Response β}
    (hsound : Sound answers (log ++ [(q, answers log.length)]))
    (hr : answers log.length = .response r) :
    Asked answers log (.ok r) (log ++ [(q, .response r)]) where
  sound := hr ▸ hsound
  answered r' hr' := by
    cases hr'
    exact ⟨answersOf log, answersOf_snoc _ _ _, (length_answersOf log).ge, rfl⟩

theorem requestWithRetry_asked {left : Nat} {log log' : Exchanges β}
    {result : Except Failure (Response β)} (hsound : Sound answers log)
    (h : requestWithRetry answers left log = (result, log')) : Asked answers log result log' := by
  have hgrow : log.length ≤ (log ++ [(Request.status, answers log.length)]).length := by simp
  induction left generalizing log with
  | zero =>
    simp only [requestWithRetry, request] at h
    cases hanswer : answers log.length with
    | failed =>
      rw [hanswer] at h
      cases h
      exact ⟨hanswer ▸ hsound.status, fun r hr => by cases hr⟩
    | response r =>
      rw [hanswer] at h
      cases h
      exact asked_one hsound.status hanswer
  | succ left ih =>
    simp only [requestWithRetry, request] at h
    have hnext : ack? (answers log.length) = none → requestWithRetry answers left
        (log ++ [(.status, answers log.length)]) = (result, log') → Asked answers log result log' := by
      intro hnone hrest
      refine (ih hsound.status hrest (by simp)).after hgrow ?_
      rw [answersOf_snoc, acknowledged_snoc_none hnone]
    cases hanswer : answers log.length with
    | failed =>
      rw [hanswer] at h hnext
      exact hnext rfl h
    | response r =>
      rw [hanswer] at h hnext
      dsimp only at h
      split at h
      · rename_i hthrottled
        exact hnext (ack?_of_throttled hthrottled) h
      · cases h
        exact asked_one hsound.status hanswer

theorem Asked.grows {log log' : Exchanges β} {r : Response β} (h : Asked answers log (.ok r) log') :
    log.length < log'.length := by
  obtain ⟨said, hsaid, hmore, -⟩ := h.answered r rfl
  have hlength := congrArg List.length hsaid
  rw [length_answersOf, List.length_append, List.length_singleton] at hlength
  omega

/-- An answer that acknowledges nothing leaves the acknowledged offset where it was. -/
theorem Asked.unmoved {log log' : Exchanges β} {r : Response β} (h : Asked answers log (.ok r) log')
    (hack : ack? (.response r) = none) :
    acknowledged (answersOf log') = acknowledged (answersOf log) := by
  obtain ⟨said, hsaid, -, hsame⟩ := h.answered r rfl
  rw [hsaid, acknowledged_snoc_none hack, hsame]

private theorem ack?_of_serverFailure {r : Response β} (h : r.status ∈ [500, 502, 503, 504]) :
    ack? (.response r) = none := by
  refine ack?_of_throttled ?_
  simp only [Response.throttled, decide_eq_true_eq]
  exact .inl (List.mem_cons_of_mem _ h)

/-- The answer to a request, or to the status request that follows a lost one. -/
def firstAnswer (answers : Nat → Answer β) (q : Request) (log : Exchanges β) :
    Except Failure (Response β) × Exchanges β :=
  match request answers q log with
  | (.failed, log) => requestWithRetry answers maxRetries log
  | (.response r, log) => (.ok r, log)

/-- The chunk and what follows it, up to the answer the loop judges it by. -/
theorem chunkAnswer_asked {size : Nat} {s : Session β} {log : Exchanges β}
    {result : Except Failure (Response β)} (hsound : Sound answers s.log)
    (hoffset : s.offset = acknowledged (answersOf s.log))
    (h : chunkAnswer answers size s = (result, log)) : Asked answers s.log result log := by
  have hchunk := hsound.chunk (min chunkBytes (size - s.offset))
  rw [← hoffset] at hchunk
  have hfirst : ∀ result' log',
      firstAnswer answers (.chunk s.offset (min chunkBytes (size - s.offset))) s.log = (result', log') →
      Asked answers s.log result' log' := by
    intro result' log' h'
    cases hanswer : answers s.log.length with
    | failed =>
      simp only [firstAnswer, request, hanswer] at h'
      rw [hanswer] at hchunk
      refine (requestWithRetry_asked hchunk h').after (by simp) ?_
      rw [answersOf_snoc, acknowledged_snoc_none rfl]
    | response r =>
      simp only [firstAnswer, request, hanswer] at h'
      cases h'
      exact asked_one hchunk hanswer
  rw [chunkAnswer] at h
  split at h
  · rename_i e log' hasked
    cases h
    exact hfirst _ _ hasked
  · rename_i r log' hasked
    have hr := hfirst _ _ hasked
    split at h
    · rename_i hstatus
      exact (requestWithRetry_asked hr.sound h).after hr.grows.le (hr.unmoved (ack?_of_serverFailure hstatus))
    · cases h
      exact hr

end Asked

section Turns
variable {answers : Nat → Answer β} {size : Nat} {s t : Session β} {r : Response β}

theorem advance_again {next : Nat → Nat → Turn β} (h : advance s r next = .again t) :
    ∃ n, r.newOffset = some n ∧ (if n ≤ s.offset then s.noProgress + 1 else 0) ≤ maxRetries ∧
      next n (if n ≤ s.offset then s.noProgress + 1 else 0) = .again t := by
  rw [advance] at h
  cases hoffset : r.newOffset with
  | none =>
    rw [hoffset] at h
    cases h
  | some n =>
    rw [hoffset] at h
    dsimp only at h
    by_cases hmany : (if n ≤ s.offset then s.noProgress + 1 else 0) > maxRetries
    · rw [if_pos hmany] at h
      cases h
    · rw [if_neg hmany] at h
      exact ⟨n, rfl, Nat.le_of_not_lt hmany, h⟩

theorem advance_log {next : Nat → Nat → Turn β} (h : ∀ n k, (next n k).log = s.log) :
    (advance s r next).log = s.log := by
  rw [advance]
  cases r.newOffset with
  | none => rfl
  | some n =>
    dsimp only
    by_cases hmany : (if n ≤ s.offset then s.noProgress + 1 else 0) > maxRetries
    · rw [if_pos hmany]
      rfl
    · rw [if_neg hmany]
      exact h _ _

private theorem finish_log (r : Response β) (refusal : Failure) (log : Exchanges β) :
    (finish r refusal log).log = log := by
  rw [finish]
  cases r.json <;> rfl

private theorem finish_ne_again {refusal : Failure} {log : Exchanges β} :
    finish r refusal log ≠ .again t := by
  rw [finish]
  cases r.json <;> simp

theorem afterThrottle_log (hsound : Sound answers s.log) : Sound answers (afterThrottle answers s r).log := by
  rw [afterThrottle]
  dsimp only
  split
  · cases hasked : requestWithRetry answers maxRetries s.log with
    | mk result log =>
      have hlog := (requestWithRetry_asked hsound hasked).sound
      cases result with
      | error e => exact hlog
      | ok status =>
        dsimp only
        split
        · rw [advance_log fun _ _ => rfl]
          exact hlog
        · split
          · rw [finish_log]
            exact hlog
          · exact hlog
  · exact hsound

theorem handle_log (hsound : Sound answers s.log) : Sound answers (handle answers size s r).log := by
  rw [handle]
  split
  · rw [finish_log]
    exact hsound
  · split
    · rw [advance_log]
      · exact hsound
      · intro n k
        split <;> rfl
    · split
      · exact hsound
      · split
        · exact afterThrottle_log hsound
        · exact hsound

theorem turn_log (hsound : Sound answers s.log) (hoffset : s.offset = acknowledged (answersOf s.log)) :
    Sound answers (turn answers size s).log := by
  rw [turn]
  split
  · cases hasked : chunkAnswer answers size s with
    | mk result log =>
      have hlog := (chunkAnswer_asked hsound hoffset hasked).sound
      cases result with
      | error e => exact hlog
      | ok r => exact handle_log hlog
  · exact hsound

/-- How a turn leaves the loop's locals: an answer moved the offset to what it acknowledges, or
none did and the chunk is to be sent again. -/
inductive After (s t : Session β) : Prop where
  | moved (said : List (Answer β)) (r : Response β) (hlog : answersOf t.log = said ++ [.response r])
      (hlength : s.log.length ≤ said.length) (hack : acknowledged said = acknowledged (answersOf s.log))
      (hoffset : ack? (.response r) = some t.offset)
      (hprogress : t.noProgress = if t.offset ≤ s.offset then s.noProgress + 1 else 0)
  | waited (hlength : s.log.length < t.log.length)
      (hack : acknowledged (answersOf t.log) = acknowledged (answersOf s.log))
      (hoffset : t.offset = s.offset) (hprogress : t.noProgress = s.noProgress)
      (hattempts : t.attempts = s.attempts + 1)

/-- The bounds of the two counters while the loop runs. -/
structure Counted (s : Session β) : Prop where
  attempts : s.attempts ≤ maxRetries
  noProgress : s.noProgress ≤ maxRetries

private theorem ack?_308 {n : Nat} (hstatus : r.status = 308) (hoffset : r.newOffset = some n) :
    ack? (.response r) = some n := by
  rw [ack?, if_pos hstatus, hoffset]

/-- An answer to a status request after a throttled chunk. -/
theorem afterThrottle_again (hsound : Sound answers s.log) (hcounted : Counted s)
    (h : afterThrottle answers s r = .again t) : After s t ∧ Counted t := by
  rw [afterThrottle] at h
  dsimp only at h
  split at h
  · rename_i hfew
    cases hasked : requestWithRetry answers maxRetries s.log with
    | mk result log =>
      have hspec := requestWithRetry_asked hsound hasked
      rw [hasked] at h
      cases result with
      | error e => cases h
      | ok status =>
        dsimp only at h
        split at h
        · rename_i hstatus
          obtain ⟨n, hn, hcount, hnext⟩ := advance_again h
          obtain ⟨said, hsaid, hlength, hack⟩ := hspec.answered status rfl
          cases hnext
          exact ⟨.moved said status hsaid hlength hack (ack?_308 hstatus hn) rfl, hfew, hcount⟩
        · rename_i hstatus
          split at h
          · exact absurd h finish_ne_again
          · cases h
            have hnone : ack? (.response status) = none := by rw [ack?, if_neg hstatus]
            exact ⟨.waited hspec.grows (hspec.unmoved hnone) rfl rfl rfl, hfew, hcounted.noProgress⟩
  · cases h

theorem turn_again (hsound : Sound answers s.log) (hoffset : s.offset = acknowledged (answersOf s.log))
    (hcounted : Counted s) (h : turn answers size s = .again t) :
    s.offset < size ∧ After s t ∧ Counted t := by
  rw [turn] at h
  split at h
  · rename_i hmore
    refine ⟨hmore, ?_⟩
    cases hasked : chunkAnswer answers size s with
    | mk result log =>
      have hspec := chunkAnswer_asked hsound hoffset hasked
      rw [hasked] at h
      cases result with
      | error e => cases h
      | ok r =>
        obtain ⟨said, hsaid, hlength, hack⟩ := hspec.answered r rfl
        dsimp only at h
        rw [handle] at h
        split at h
        · exact absurd h finish_ne_again
        · split at h
          · rename_i hstatus
            obtain ⟨n, hn, hcount, hnext⟩ := advance_again h
            dsimp only at hnext
            split at hnext
            · cases hnext
            · cases hnext
              exact ⟨.moved said r hsaid hlength hack (ack?_308 hstatus hn) rfl, Nat.zero_le _, hcount⟩
          · rename_i hstatus
            have hnone : ack? (.response r) = none := by rw [ack?, if_neg hstatus]
            split at h
            · cases h
            · split at h
              · obtain ⟨hafter, hcounted'⟩ := afterThrottle_again (s := { s with log := log }) hspec.sound
                  ⟨hcounted.attempts, hcounted.noProgress⟩ h
                refine ⟨?_, hcounted'⟩
                have hmoved := hspec.unmoved hnone
                have hgrows := hspec.grows
                cases hafter with
                | moved said' r' hlog hlength' hack' hoffset' hprogress =>
                  exact .moved said' r' hlog (hgrows.le.trans hlength') (hack'.trans hmoved) hoffset' hprogress
                | waited hlength' hack' hoffset' hprogress hattempts =>
                  exact .waited (hgrows.trans hlength') (hack'.trans hmoved) hoffset' hprogress hattempts
              · cases h
  · cases h

end Turns

end Caixinha.Effects.BackupUpload
