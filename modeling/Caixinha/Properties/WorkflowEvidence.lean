import Caixinha.Properties.WorkflowExecution

/-! What a completed execution leaves behind: a checklist with nothing required pending, and evidence,
ticks and files that all come from the administrator who ran it. -/
namespace Caixinha.Properties.WorkflowEvidence

open Caixinha.Library Caixinha.Library.Table Caixinha.Model Caixinha.Model.Workflow
  Caixinha.Effects.Workflow Caixinha.Properties.WorkflowExecution

variable {env : Env} {settings : Settings} {s s' : State} {row : Orchestration} {taskId actorId : Nat}

/-- The versions stored for one evidence, in the order of the uploads. -/
def versionsOf (s : State) (evidenceId : Nat) : List Nat :=
  (s.files.filter (fun f => f.evidenceId = evidenceId)).map EvidenceFile.version

/-- The administrator ran the execution of the task. -/
def RunBy (s : State) (taskId actorId : Nat) : Prop :=
  ∃ row ∈ s.orchestrations, row.taskId = taskId ∧ row.startedBy = some actorId

/-- Nothing the task requires is pending. -/
def Ticked (s : State) (taskId : Nat) : Prop :=
  ∀ i ∈ s.checklist, i.taskId = taskId → i.required = true → i.completed = true

structure Evidenced (s : State) : Prop where
  keyed : Keyed Evidence.id s.evidences
  ready : ∀ row ∈ s.orchestrations, row.completedBy.isSome → Ticked s row.taskId
  ticks : ∀ i ∈ s.checklist, i.completed = true → ∃ a, i.completedBy = some a ∧ RunBy s i.taskId a
  added : ∀ e ∈ s.evidences, RunBy s e.taskId e.addedBy
  uploaded : ∀ f ∈ s.files, ∃ e, lookup Evidence.id s.evidences f.evidenceId = some e ∧
    RunBy s e.taskId f.uploadedBy
  versions : ∀ evidenceId, versionsOf s evidenceId = List.range' 1 (versionsOf s evidenceId).length

section Rows

private theorem RunBy.forward (h : RunBy s taskId actorId)
    (hrows : List.Forall₂ Forward s.orchestrations s'.orchestrations) : RunBy s' taskId actorId := by
  obtain ⟨row, hmem, htask, hstarted⟩ := h
  obtain ⟨i, hi, rfl⟩ := List.mem_iff_getElem.mp hmem
  have hlength := hrows.length_eq
  have hforward := hrows.get hi (hlength ▸ hi)
  exact ⟨s'.orchestrations[i], List.getElem_mem _, hforward.taskId.trans htask,
    hforward.startedBy _ hstarted⟩

private theorem runBy_of_executing (h : executing s taskId actorId = true) :
    ∃ row ∈ s.orchestrations, row.taskId = taskId ∧ row.startedBy = some actorId ∧
      row.executionState = .IN_EXECUTION := by
  unfold executing orchestrationOf? at h
  rw [Option.any_eq_true] at h
  obtain ⟨row, hfound, hrow⟩ := h
  have htask := List.find?_some hfound
  obtain ⟨hstate, hstarted⟩ := of_decide_eq_true hrow
  exact ⟨row, List.mem_of_find?_eq_some hfound, of_decide_eq_true htask, hstarted, hstate⟩

/-- While a task is in execution, no orchestration of it is completed. -/
private theorem not_completed_of_executing (hid : Identified s) (hcoherent : AllCoherent s)
    (h : executing s taskId actorId = true) (hmem : row ∈ s.orchestrations)
    (hcompleted : row.completedBy.isSome) : row.taskId ≠ taskId := by
  obtain ⟨running, hrunning, htask, -, hstate⟩ := runBy_of_executing h
  rintro rfl
  obtain rfl : running = row := List.inj_on_of_nodup_map hid.taskOnce hrunning hmem htask
  obtain ⟨a, ha⟩ := Option.isSome_iff_exists.mp hcompleted
  have hend := ((hcoherent running hmem).completed a ha).2
  rw [hstate] at hend
  cases hend

/-- The tables of the evidence stand still while orchestrations move forward. -/
private theorem Evidenced.rows (h : Evidenced s)
    (hrows : List.Forall₂ Forward s.orchestrations s'.orchestrations)
    (hready : ∀ row ∈ s'.orchestrations, row.completedBy.isSome → Ticked s row.taskId)
    (hchecklist : s'.checklist = s.checklist) (hevidences : s'.evidences = s.evidences)
    (hfiles : s'.files = s.files) : Evidenced s' := by
  refine ⟨hevidences ▸ h.keyed, ?_, ?_, ?_, ?_, ?_⟩
  · intro row hrow hcompleted i hi
    rw [hchecklist] at hi
    exact hready row hrow hcompleted i hi
  · intro i hi hticked
    rw [hchecklist] at hi
    obtain ⟨a, ha, hrun⟩ := h.ticks i hi hticked
    exact ⟨a, ha, hrun.forward hrows⟩
  · intro e he
    rw [hevidences] at he
    exact (h.added e he).forward hrows
  · intro f hf
    rw [hfiles] at hf
    rw [hevidences]
    obtain ⟨e, he, hrun⟩ := h.uploaded f hf
    exact ⟨e, he, hrun.forward hrows⟩
  · intro evidenceId
    rw [versionsOf, hfiles]
    exact h.versions evidenceId

/-- A row that was rewritten without completing it leaves the completed ones as they were. -/
private theorem ready_replace {row' : Orchestration} (h : Evidenced s)
    (hfound : lookup Orchestration.id s.orchestrations row.id = some row)
    (hcompleted : row'.completedBy = row.completedBy) (htask : row'.taskId = row.taskId) :
    ∀ x ∈ replace Orchestration.id s.orchestrations row', x.completedBy.isSome → Ticked s x.taskId := by
  intro x hx
  rcases mem_replace hx with rfl | hx
  · rw [hcompleted, htask]
    exact h.ready row (lookup_mem hfound)
  · exact h.ready x hx

end Rows

section Items

private theorem Evidenced.evidence (h : Evidenced s) {e : Evidence}
    (hexecuting : executing s e.taskId e.addedBy = true) (hfresh : e.id = nextKey Evidence.id s.evidences)
    (honly : s' = { s with evidences := s.evidences ++ [e], auditLogs := s'.auditLogs }) : Evidenced s' := by
  rw [honly]
  refine ⟨keyed_append h.keyed hfresh, h.ready, h.ticks, ?_, ?_, h.versions⟩
  · intro x hx
    rcases List.mem_append.mp hx with hx | hx
    · exact h.added x hx
    · rw [List.mem_singleton.mp hx]
      obtain ⟨row, hmem, htask, hstarted, -⟩ := runBy_of_executing hexecuting
      exact ⟨row, hmem, htask, hstarted⟩
  · intro f hf
    obtain ⟨x, hx, hrun⟩ := h.uploaded f hf
    exact ⟨x, lookup_append_of_some hx, hrun⟩

private theorem Evidenced.item (h : Evidenced s) (hid : Identified s) (hcoherent : AllCoherent s)
    {i : ChecklistItem} (hexecuting : executing s i.taskId actorId = true) (hpending : i.completed = false)
    (honly : s' = { s with checklist := s.checklist ++ [i], auditLogs := s'.auditLogs }) : Evidenced s' := by
  rw [honly]
  refine ⟨h.keyed, ?_, ?_, h.added, h.uploaded, h.versions⟩
  · intro row hrow hcompleted x hx htask
    rcases List.mem_append.mp hx with hx | hx
    · exact h.ready row hrow hcompleted x hx htask
    · rw [List.mem_singleton.mp hx] at htask
      exact absurd htask.symm (not_completed_of_executing hid hcoherent hexecuting hrow hcompleted)
  · intro x hx hticked
    rcases List.mem_append.mp hx with hx | hx
    · exact h.ticks x hx hticked
    · rw [List.mem_singleton.mp hx, hpending] at hticked
      cases hticked

private theorem Evidenced.tick (h : Evidenced s) {i : ChecklistItem} {now : Int}
    (hexecuting : executing s i.taskId actorId = true)
    (honly : s' = { s with
      checklist := replace ChecklistItem.id s.checklist
        { i with completed := true, completedBy := some actorId, completedAt := some now }
      auditLogs := s'.auditLogs }) : Evidenced s' := by
  rw [honly]
  refine ⟨h.keyed, ?_, ?_, h.added, h.uploaded, h.versions⟩
  · intro row hrow hcompleted x hx
    rcases mem_replace hx with rfl | hx
    · exact fun _ _ => rfl
    · exact h.ready row hrow hcompleted x hx
  · intro x hx hticked
    rcases mem_replace hx with rfl | hx
    · obtain ⟨row, hmem, htask, hstarted, -⟩ := runBy_of_executing hexecuting
      exact ⟨actorId, rfl, row, hmem, htask, hstarted⟩
    · exact h.ticks x hx hticked

private theorem foldr_max_range' (n : Nat) : (List.range' 1 n).foldr max 0 = n := by
  induction n with
  | zero => rfl
  | succ n ih =>
    rw [List.range'_concat, List.foldr_append, List.foldr_cons, List.foldr_nil]
    have hbound : ∀ (xs : List Nat) (a b : Nat), xs.foldr max (max a b) = max a (xs.foldr max b) := by
      intro xs a b
      induction xs with
      | nil => rfl
      | cons x xs ih => rw [List.foldr_cons, ih, List.foldr_cons, Nat.max_left_comm]
    rw [hbound, ih]
    omega

private theorem Evidenced.file (h : Evidenced s) {f : EvidenceFile} {e : Evidence}
    (hfound : lookup Evidence.id s.evidences f.evidenceId = some e)
    (hexecuting : executing s e.taskId f.uploadedBy = true)
    (hversion : f.version = nextVersion s f.evidenceId)
    (honly : s' = { s with files := s.files ++ [f], auditLogs := s'.auditLogs }) : Evidenced s' := by
  rw [honly]
  refine ⟨h.keyed, h.ready, h.ticks, h.added, ?_, fun evidenceId => ?_⟩
  · intro x hx
    rcases List.mem_append.mp hx with hx | hx
    · exact h.uploaded x hx
    · obtain ⟨row, hmem, htask, hstarted, -⟩ := runBy_of_executing hexecuting
      rw [List.mem_singleton.mp hx]
      exact ⟨e, hfound, row, hmem, htask, hstarted⟩
  · have hsplit : versionsOf { s with files := s.files ++ [f], auditLogs := s'.auditLogs } evidenceId =
        versionsOf s evidenceId ++ ([f].filter (fun f => f.evidenceId = evidenceId)).map EvidenceFile.version := by
      rw [versionsOf, List.filter_append, List.map_append, versionsOf]
    rw [hsplit]
    by_cases hsame : f.evidenceId = evidenceId
    · have hnext : f.version = (versionsOf s evidenceId).length + 1 := by
        have hall := h.versions evidenceId
        rw [hversion, Workflow.nextVersion, hsame, ← versionsOf]
        conv_lhs => rw [hall, foldr_max_range']
      rw [List.filter_cons_of_pos (by simpa using hsame), List.filter_nil, List.map_singleton, hnext,
        List.length_append, List.length_singleton, List.range'_concat, ← h.versions evidenceId]
      simp [Nat.add_comm]
    · rw [List.filter_cons_of_neg (by simpa using hsame), List.filter_nil, List.map_nil, List.append_nil]
      exact h.versions evidenceId

end Items

theorem Evidenced.change (h : Evidenced s) (hid : Identified s) (hcoherent : AllCoherent s)
    (hchange : Change env s s') : Evidenced s' := by
  have hrows := (forward_change hid hcoherent hchange).2
  have hsame : s'.orchestrations = s.orchestrations →
      ∀ row ∈ s'.orchestrations, row.completedBy.isSome → Ticked s row.taskId :=
    fun heq row hrow => h.ready row (heq ▸ hrow)
  cases hchange with
  | verified _ _ _ only => exact h.rows hrows (hsame (by rw [only])) (by rw [only]) (by rw [only]) (by rw [only])
  | created _ _ _ only => exact h.rows hrows (hsame (by rw [only])) (by rw [only]) (by rw [only]) (by rw [only])
  | termed _ only => exact h.rows hrows (hsame (by rw [only])) (by rw [only]) (by rw [only]) (by rw [only])
  | raised _ _ _ only => exact h.rows hrows (hsame (by rw [only])) (by rw [only]) (by rw [only]) (by rw [only])
  | opened _ _ _ only => exact h.rows hrows (hsame (by rw [only])) (by rw [only]) (by rw [only]) (by rw [only])
  | actionRaised _ _ _ only => exact h.rows hrows (hsame (by rw [only])) (by rw [only]) (by rw [only]) (by rw [only])
  | acknowledged _ only => exact h.rows hrows (hsame (by rw [only])) (by rw [only]) (by rw [only]) (by rw [only])
  | moved _ only => exact h.rows hrows (hsame (by rw [only])) (by rw [only]) (by rw [only]) (by rw [only])
  | @accepted _ row actorId now _ _ _ found _ only =>
    have hready := @ready_replace s row (acceptedRow row actorId now) h found rfl rfl
    exact h.rows hrows (by rw [only]; exact hready) (by rw [only]) (by rw [only]) (by rw [only])
  | @started _ _ _ row actorId now _ _ found _ _ _ only =>
    have hready := @ready_replace s row (startedRow row actorId now) h found rfl rfl
    exact h.rows hrows (by rw [only]; exact hready) (by rw [only]) (by rw [only]) (by rw [only])
  | @completed task _ _ row actorId now _ _ found ofTask _ _ ready only =>
    refine h.rows hrows ?_ (by rw [only]) (by rw [only]) (by rw [only])
    rw [only]
    intro x hx hcompleted
    rcases mem_replace hx with rfl | hx
    · intro i hi htask hrequired
      have hnone := List.filter_eq_nil_iff.mp (List.length_eq_zero_iff.mp ready) i
        (List.mem_filter.mpr ⟨hi, decide_eq_true (htask.trans ofTask)⟩)
      simpa [hrequired] using hnone
    · exact h.ready x hx hcompleted
  | @synced task row now found _ only =>
    have hready := @ready_replace s row (syncedRow row now task) h found rfl rfl
    exact h.rows hrows (by rw [only]; exact hready) (by rw [only]) (by rw [only]) (by rw [only])
  | evidenceAdded executing fresh only => exact h.evidence executing fresh only
  | itemAdded executing _ pending only => exact h.item hid hcoherent executing pending only
  | itemCompleted _ executing only => exact h.tick executing only
  | fileAdded found executing _ version only => exact h.file found executing version only

/-- Whatever requests interleave, a task completed through its execution has, then and ever after, no
required item pending; every tick, every evidence and every file comes from the administrator who
started the execution; and the versions of the files of an evidence count up from one without a gap. -/
theorem completion_is_evidenced (hid : Identified s) (hcoherent : AllCoherent s) (h : Evidenced s)
    (calls : List (Instant × Call)) : Evidenced (run env settings s calls) := by
  have hchange : ∀ x y, Identified x → (AllCoherent x ∧ Evidenced x) → Change env x y →
      AllCoherent y ∧ Evidenced y := fun x y hx hboth hxy =>
    ⟨(forward_change hx hboth.1 hxy).1, hboth.2.change hx hboth.1 hxy⟩
  exact (run_keeps hchange hid ⟨hcoherent, h⟩ calls).2.2

section Samples

/-- A required item is added and ticked before the task is completed. -/
private def sampleCalls : List (Instant × Call) :=
  [(sampleInstant, .accept 1 7), (sampleInstant, .start 1 7),
    (sampleInstant, .addChecklistItem 1 7 "balances" true), (sampleInstant, .complete 1 7 (some "done") none),
    (sampleInstant, .completeChecklistItem 1 7), (sampleInstant, .complete 1 7 (some "done") none)]

example : (run { sampleEnv with sha256 := fun _ => "" } ⟨[], 1⟩ sampleState
    sampleCalls).orchestrations.map (·.completedBy) = [some 7] := by
  decide

theorem sample_completion_is_evidenced : Evidenced (run sampleEnv ⟨[], 1⟩ sampleState sampleCalls) := by
  have hevidenced : Evidenced sampleState := by
    constructor <;> simp [sampleState, sampleOrchestration, Keyed, versionsOf]
  exact completion_is_evidenced sampleState_identified sampleState_coherent hevidenced sampleCalls

end Samples

end Caixinha.Properties.WorkflowEvidence
