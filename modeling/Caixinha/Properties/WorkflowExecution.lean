import Caixinha.Properties.WorkflowHistory

/-! The assisted execution of a task: its state only moves forward, and the one who accepted it is the
one who starts and the one who completes it. -/
namespace Caixinha.Properties.WorkflowExecution

open Caixinha.Library Caixinha.Library.Table Caixinha.Model Caixinha.Model.Workflow
  Caixinha.Effects.Workflow Caixinha.Properties.WorkflowHistory

variable {env : Env} {settings : Settings} {s s' : State} {row row' : Orchestration}

/-- The order of the states of an execution. -/
def rank : ExecutionState → Nat
  | .PENDING_ACCEPTANCE => 0
  | .ACCEPTED => 1
  | .IN_EXECUTION => 2
  | .COMPLETED => 3

/-- What the columns of an orchestration say together. -/
structure Coherent (s : State) (row : Orchestration) : Prop where
  pending : row.executionState = .PENDING_ACCEPTANCE →
    row.acceptedBy = none ∧ row.startedBy = none ∧ row.completedBy = none
  accepted : row.executionState = .ACCEPTED → row.startedBy = none ∧ row.completedBy = none
  started : ∀ a, row.startedBy = some a → row.acceptedBy = some a
  completed : ∀ a, row.completedBy = some a → row.startedBy = some a ∧ row.executionState = .COMPLETED
  done : row.executionState = .COMPLETED → ∃ task, s.task? row.taskId = some task ∧ task.status = .COMPLETED

/-- What time does to an orchestration: the state moves forward, and whoever is named stays named. -/
structure Forward (row row' : Orchestration) : Prop where
  id_eq : row'.id = row.id
  taskId : row'.taskId = row.taskId
  state : rank row.executionState ≤ rank row'.executionState
  acceptedBy : ∀ a, row.acceptedBy = some a → row'.acceptedBy = some a
  startedBy : ∀ a, row.startedBy = some a → row'.startedBy = some a
  completedBy : ∀ a, row.completedBy = some a → row'.completedBy = some a

theorem Forward.refl (row : Orchestration) : Forward row row :=
  ⟨rfl, rfl, le_rfl, fun _ h => h, fun _ h => h, fun _ h => h⟩

theorem Forward.trans {row'' : Orchestration} (h : Forward row row') (h' : Forward row' row'') :
    Forward row row'' where
  id_eq := h'.id_eq.trans h.id_eq
  taskId := h'.taskId.trans h.taskId
  state := h.state.trans h'.state
  acceptedBy a ha := h'.acceptedBy a (h.acceptedBy a ha)
  startedBy a ha := h'.startedBy a (h.startedBy a ha)
  completedBy a ha := h'.completedBy a (h.completedBy a ha)

section Rows
variable {actorId : Nat} {now : Int} {task : Task}

private theorem accepted_coherent (h : Coherent s row) (hwaiting : row.executionState = .PENDING_ACCEPTANCE) :
    Coherent s (acceptedRow row actorId now) ∧ Forward row (acceptedRow row actorId now) := by
  obtain ⟨haccepted, hstarted, hcompleted⟩ := h.pending hwaiting
  refine ⟨⟨by simp [acceptedRow], fun _ => ⟨hstarted, hcompleted⟩, ?_, ?_, by simp [acceptedRow]⟩, ?_⟩
  · simp [acceptedRow, hstarted]
  · simp [acceptedRow, hcompleted]
  · refine ⟨rfl, rfl, ?_, ?_, fun _ ha => ha, fun _ ha => ha⟩
    · simp [hwaiting, rank]
    · simp [haccepted]

private theorem started_coherent (h : Coherent s row) (haccepted : row.executionState = .ACCEPTED)
    (hactor : row.acceptedBy = some actorId) :
    Coherent s (startedRow row actorId now) ∧ Forward row (startedRow row actorId now) := by
  obtain ⟨hstarted, hcompleted⟩ := h.accepted haccepted
  refine ⟨⟨by simp [startedRow], by simp [startedRow], ?_, ?_, by simp [startedRow]⟩, ?_⟩
  · rintro a ⟨⟩
    exact hactor
  · simp [startedRow, hcompleted]
  · refine ⟨rfl, rfl, ?_, fun _ ha => ha, ?_, fun _ ha => ha⟩
    · simp [haccepted, rank, startedRow]
    · simp [hstarted]

private theorem completed_coherent (h : Coherent s row) (hexecuting : row.executionState = .IN_EXECUTION)
    (hactor : row.startedBy = some actorId)
    (htask : ∃ task, s.task? row.taskId = some task ∧ task.status = .COMPLETED) :
    Coherent s (completedRow row actorId now) ∧ Forward row (completedRow row actorId now) := by
  have hopen : row.completedBy = none := by
    rw [Option.eq_none_iff_forall_ne_some]
    intro a ha
    have hstate := (h.completed a ha).2
    rw [hexecuting] at hstate
    cases hstate
  refine ⟨⟨by simp [completedRow], by simp [completedRow], h.started, ?_, fun _ => htask⟩, ?_⟩
  · rintro a ⟨⟩
    exact ⟨hactor, rfl⟩
  · refine ⟨rfl, rfl, ?_, fun _ ha => ha, fun _ ha => ha, ?_⟩
    · simp [hexecuting, rank, completedRow]
    · simp [hopen]

/-- Where a synchronization leads: to the end with a completed task, into the execution, or nowhere. -/
private theorem targetState_cases (hdone : row.executionState = .COMPLETED → task.status = .COMPLETED) :
    (task.status = .COMPLETED ∧ targetState task row = .COMPLETED) ∨
      (row.executionState ≠ .COMPLETED ∧ targetState task row = .IN_EXECUTION) ∨
      (row.executionState ≠ .COMPLETED ∧ targetState task row = row.executionState) := by
  unfold targetState
  split
  · rename_i hcompleted
    exact .inl ⟨hcompleted, rfl⟩
  · rename_i hopen
    have hne : row.executionState ≠ .COMPLETED := fun hstate => hopen (hdone hstate)
    split
    · exact .inr (.inl ⟨hne, rfl⟩)
    · rename_i hneither
      refine .inr (.inr ⟨hne, ?_⟩)
      cases hstate : row.executionState <;> simp_all

/-- The synchronization finds a completed execution on a completed task only, so it never goes back. -/
private theorem synced_coherent (h : Coherent s row) (htask : s.task? row.taskId = some task) :
    Coherent s (syncedRow row now task) ∧ Forward row (syncedRow row now task) := by
  have hdone : row.executionState = .COMPLETED → task.status = .COMPLETED := by
    intro hstate
    obtain ⟨found, hfound, hstatus⟩ := h.done hstate
    exact Option.some.inj (hfound.symm.trans htask) ▸ hstatus
  have hnamed : row.executionState ≠ .COMPLETED → ∀ a, row.completedBy ≠ some a :=
    fun hne a ha => hne (h.completed a ha).2
  have hstate : (syncedRow row now task).executionState = targetState task row := rfl
  rcases targetState_cases hdone with ⟨hcompleted, htarget⟩ | ⟨hne, htarget⟩ | ⟨hne, htarget⟩
  · rw [htarget] at hstate
    refine ⟨⟨?_, ?_, h.started, fun a ha => ⟨(h.completed a ha).1, hstate⟩, fun _ => ⟨task, htask, hcompleted⟩⟩,
      rfl, rfl, ?_, fun _ ha => ha, fun _ ha => ha, fun _ ha => ha⟩
    · simp [hstate]
    · simp [hstate]
    · rw [hstate]
      cases row.executionState <;> simp [rank]
  · rw [htarget] at hstate
    refine ⟨⟨?_, ?_, h.started, fun a ha => absurd ha (hnamed hne a), ?_⟩,
      rfl, rfl, ?_, fun _ ha => ha, fun _ ha => ha, fun _ ha => ha⟩
    · simp [hstate]
    · simp [hstate]
    · simp [hstate]
    · rw [hstate]
      cases hrow : row.executionState <;> simp_all [rank]
  · rw [htarget] at hstate
    refine ⟨⟨fun ht => h.pending (hstate ▸ ht), fun ht => h.accepted (hstate ▸ ht), h.started,
      fun a ha => absurd ha (hnamed hne a), fun ht => absurd (hstate ▸ ht) hne⟩,
      rfl, rfl, ?_, fun _ ha => ha, fun _ ha => ha, fun _ ha => ha⟩
    rw [hstate]

end Rows

section Step

/-- All the orchestrations of a state are coherent. -/
def AllCoherent (s : State) : Prop := ∀ row ∈ s.orchestrations, Coherent s row

/-- A completed task stays completed, so what was coherent stays so. -/
private theorem Coherent.later (h : Coherent s row) (hchange : Change env s s') : Coherent s' row := by
  refine ⟨h.pending, h.accepted, h.started, h.completed, fun hstate => ?_⟩
  have hcompleted : CompletedBy s row.taskId (eventsOf s row.taskId) := ⟨h.done hstate, rfl⟩
  exact (completed_change hcompleted hchange).1

private theorem rewritten (hlater : ∀ x ∈ s.orchestrations, Coherent s' x) (hid : Identified s)
    (hfound : lookup Orchestration.id s.orchestrations row.id = some row)
    (hrow : Coherent s' row' ∧ Forward row row')
    (horchestrations : s'.orchestrations = replace Orchestration.id s.orchestrations row') :
    AllCoherent s' ∧ List.Forall₂ Forward s.orchestrations s'.orchestrations := by
  rw [AllCoherent, horchestrations]
  refine ⟨fun x hx => ?_, ?_⟩
  · rcases mem_replace hx with rfl | hx
    · exact hrow.1
    · exact hlater x hx
  · exact forall₂_replace Forward.refl hid.orchestrations (hrow.2.id_eq ▸ hfound) hrow.2

private theorem unwritten (hlater : ∀ x ∈ s.orchestrations, Coherent s' x)
    (horchestrations : s'.orchestrations = s.orchestrations) :
    AllCoherent s' ∧ List.Forall₂ Forward s.orchestrations s'.orchestrations := by
  rw [AllCoherent, horchestrations]
  exact ⟨hlater, List.forall₂_same.mpr fun x _ => .refl x⟩

theorem forward_change (hid : Identified s) (h : AllCoherent s) (hchange : Change env s s') :
    AllCoherent s' ∧ List.Forall₂ Forward s.orchestrations s'.orchestrations := by
  have hlater : ∀ row ∈ s.orchestrations, Coherent s' row := fun row hrow => (h row hrow).later hchange
  have hsame := unwritten hlater
  cases hchange with
  | verified _ _ _ only => exact hsame (by rw [only])
  | created _ _ _ only => exact hsame (by rw [only])
  | termed _ only => exact hsame (by rw [only])
  | raised _ _ _ only => exact hsame (by rw [only])
  | opened _ _ _ only => exact hsame (by rw [only])
  | actionRaised _ _ _ only => exact hsame (by rw [only])
  | acknowledged _ only => exact hsame (by rw [only])
  | moved _ only => exact hsame (by rw [only])
  | @accepted task row actorId now ofTask assigned assignee found waiting only =>
    exact rewritten hlater hid found (accepted_coherent (hlater row (lookup_mem found)) waiting)
      (by rw [only])
  | @started task moved event row actorId now move status found ofTask accepted actor only =>
    exact rewritten hlater hid found (started_coherent (hlater row (lookup_mem found)) accepted actor)
      (by rw [only])
  | @completed task moved event row actorId now move status found ofTask executing actor ready only =>
    have htask : ∃ done, s'.task? row.taskId = some done ∧ done.status = .COMPLETED := by
      have hself : lookup Task.id (replace Task.id s.tasks moved) moved.id = some moved :=
        lookup_replace_self (move.id_eq ▸ move.row)
      refine ⟨moved, ?_, move.status.trans status⟩
      rw [ofTask, ← move.id_eq, only]
      exact hself
    exact rewritten hlater hid found
      (completed_coherent (hlater row (lookup_mem found)) executing actor htask) (by rw [only])
  | @synced task row now found ofTask only =>
    have htask : s'.task? row.taskId = some task := by
      rw [only]
      exact ofTask
    exact rewritten hlater hid found (synced_coherent (hlater row (lookup_mem found)) htask) (by rw [only])
  | evidenceAdded _ _ only => exact hsame (by rw [only])
  | itemAdded _ _ _ only => exact hsame (by rw [only])
  | itemCompleted _ _ only => exact hsame (by rw [only])
  | fileAdded _ _ _ _ only => exact hsame (by rw [only])

end Step

/-- Whatever requests interleave, raw transitions and synchronizations included, no execution goes back
to an earlier state, nobody named in it is ever replaced, whoever started it is who accepted it and
whoever completed it is who started it, and a completed execution has a completed task. -/
theorem execution_moves_forward (hid : Identified s) (h : AllCoherent s) (calls : List (Instant × Call)) :
    AllCoherent (run env settings s calls) ∧
      List.Forall₂ Forward s.orchestrations (run env settings s calls).orchestrations := by
  have hchange : ∀ x y, Identified x →
      (AllCoherent x ∧ List.Forall₂ Forward s.orchestrations x.orchestrations) → Change env x y →
      AllCoherent y ∧ List.Forall₂ Forward s.orchestrations y.orchestrations := by
    rintro x y hx ⟨hcoherent, hforward⟩ hxy
    obtain ⟨hcoherent', hstep⟩ := forward_change hx hcoherent hxy
    exact ⟨hcoherent', forall₂_trans (fun _ _ _ => Forward.trans) hforward hstep⟩
  exact (run_keeps hchange hid ⟨h, List.forall₂_same.mpr fun x _ => .refl x⟩ calls).2

section Samples

def sampleInstant : Instant := ⟨0, epoch_inRange⟩

def sampleEnv : Env where
  sha256 := fun text => text
  lateChargeEffectiveDate := none

def sampleTask : Task where
  id := 1
  actionCode := "RECONCILIATION"
  status := .ASSIGNED
  priority := .HIGH
  assignedTo := some 7
  dueAt := none
  description := none
  createdBy := 7
  createdAt := 0
  updatedAt := 0

def sampleOrchestration : Orchestration where
  id := 1
  taskId := 1
  queueStatus := .ASSIGNED
  assignedTo := some 7
  priority := .HIGH
  slaStatus := "ON_TRACK"
  escalationLevel := .NONE
  orchestrationScore := 60
  lastEvaluatedAt := 0
  createdAt := 0
  updatedAt := 0

def sampleState : State where
  tasks := [sampleTask]
  orchestrations := [sampleOrchestration]

theorem sampleState_identified : Identified sampleState := ⟨by decide, by decide, by decide⟩

theorem sampleState_coherent : AllCoherent sampleState := by
  have hrow : Coherent sampleState sampleOrchestration := by
    constructor <;> simp [sampleOrchestration]
  exact List.forall_mem_singleton.mpr hrow

/-- Accepted and started, the task taken back to the analysis behind its back, and synchronized. -/
private def sampleCalls : List (Instant × Call) :=
  [(sampleInstant, .accept 1 7), (sampleInstant, .start 1 7),
    (sampleInstant, .transition 1 8 "IN_ANALYSIS" none none none), (sampleInstant, .syncExecution 8)]

theorem sample_execution_moves_forward : List.Forall₂ Forward [sampleOrchestration]
    (run sampleEnv ⟨[], 1⟩ sampleState sampleCalls).orchestrations :=
  (execution_moves_forward sampleState_identified sampleState_coherent sampleCalls).2

end Samples

end Caixinha.Properties.WorkflowExecution
