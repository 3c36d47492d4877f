import Caixinha.Effects.WorkflowRequests

/-! What the workflow never reaches: from tables without an orchestration none is ever created, so nothing
that needs one can be done. -/
namespace Caixinha.Properties.WorkflowReach

open Caixinha.Library Caixinha.Library.Table Fallible Caixinha.Model Caixinha.Model.Workflow
  Caixinha.Effects.Workflow

variable {env : Env} {settings : Settings} {s s' : State} {clock : Instant} {actorId : Nat}

/-- No task has an orchestration, and nothing that is only recorded under one is there. -/
structure Unorchestrated (s : State) : Prop where
  orchestrations : s.orchestrations = []
  evidences : s.evidences = []
  checklist : s.checklist = []
  files : s.files = []

/-- The requests of the assisted execution. -/
inductive OfExecution : Call → Prop where
  | accept (taskId actorId : Nat) : OfExecution (.accept taskId actorId)
  | start (taskId actorId : Nat) : OfExecution (.start taskId actorId)
  | complete (taskId actorId : Nat) (note evidence : Option String) :
    OfExecution (.complete taskId actorId note evidence)
  | addEvidence (taskId actorId : Nat) (evidenceType content : String) (title : Option String) :
    OfExecution (.addEvidence taskId actorId evidenceType content title)
  | addChecklistItem (taskId actorId : Nat) (label : String) (required : Bool) :
    OfExecution (.addChecklistItem taskId actorId label required)
  | completeChecklistItem (itemId actorId : Nat) : OfExecution (.completeChecklistItem itemId actorId)
  | upload (taskId evidenceId actorId : Nat) (file : Upload) (hex : String) :
    OfExecution (.upload taskId evidenceId actorId file hex)
  | verifyFile (fileId actorId : Nat) (disk : String → Act (Option String)) :
    OfExecution (.verifyFile fileId actorId disk)

section Step
variable (h : Unorchestrated s)
include h

private theorem not_found {id : Nat} {row : Orchestration}
    (hfound : lookup Orchestration.id s.orchestrations id = some row) : False :=
  absurd (h.orchestrations ▸ lookup_mem hfound) List.not_mem_nil

private theorem not_executing (taskId actorId : Nat) : executing s taskId actorId = false := by
  rw [executing, orchestrationOf?, h.orchestrations]
  rfl

private theorem none_of (taskId : Nat) : orchestrationOf? s taskId = none := by
  rw [orchestrationOf?, h.orchestrations]
  rfl

theorem unorchestrated_change (hchange : Change env s s') : Unorchestrated s' := by
  have hsame : s'.orchestrations = s.orchestrations → s'.evidences = s.evidences →
      s'.checklist = s.checklist → s'.files = s.files → Unorchestrated s' := fun hrows hevidences hitems hfiles =>
    ⟨hrows.trans h.orchestrations, hevidences.trans h.evidences, hitems.trans h.checklist,
      hfiles.trans h.files⟩
  have hidle : ∀ {taskId actorId}, executing s taskId actorId = true → Unorchestrated s' := by
    intro taskId actorId hexecuting
    rw [not_executing h] at hexecuting
    cases hexecuting
  cases hchange with
  | verified _ _ _ only => exact hsame (by rw [only]) (by rw [only]) (by rw [only]) (by rw [only])
  | created _ _ _ only => exact hsame (by rw [only]) (by rw [only]) (by rw [only]) (by rw [only])
  | termed _ only => exact hsame (by rw [only]) (by rw [only]) (by rw [only]) (by rw [only])
  | raised _ _ _ only => exact hsame (by rw [only]) (by rw [only]) (by rw [only]) (by rw [only])
  | opened _ _ _ only => exact hsame (by rw [only]) (by rw [only]) (by rw [only]) (by rw [only])
  | actionRaised _ _ _ only => exact hsame (by rw [only]) (by rw [only]) (by rw [only]) (by rw [only])
  | acknowledged _ only => exact hsame (by rw [only]) (by rw [only]) (by rw [only]) (by rw [only])
  | moved _ only => exact hsame (by rw [only]) (by rw [only]) (by rw [only]) (by rw [only])
  | accepted _ _ _ found => exact (not_found h found).elim
  | started _ _ found => exact (not_found h found).elim
  | completed _ _ found => exact (not_found h found).elim
  | synced found => exact (not_found h found).elim
  | evidenceAdded executing => exact hidle executing
  | itemAdded executing => exact hidle executing
  | itemCompleted _ executing => exact hidle executing
  | fileAdded _ executing => exact hidle executing

/-- Without an orchestration no request of the execution succeeds. -/
theorem execution_refused {call : Call} (hcall : OfExecution call) :
    ∃ failure, attempt env settings s clock call = .error failure := by
  cases hattempt : attempt env settings s clock call with
  | error failure => exact ⟨failure, rfl⟩
  | ok s' =>
    cases hcall with
    | accept taskId actorId =>
      obtain ⟨task, -, hattempt⟩ := bind_eq_ok.mp hattempt
      simp [accept, getOrch, none_of h] at hattempt
    | start taskId actorId =>
      obtain ⟨task, -, hattempt⟩ := bind_eq_ok.mp hattempt
      simp [start, getOrch, none_of h] at hattempt
    | complete taskId actorId note evidence =>
      obtain ⟨task, -, hattempt⟩ := bind_eq_ok.mp hattempt
      simp [complete, getOrch, none_of h] at hattempt
    | addEvidence taskId actorId evidenceType content title =>
      obtain ⟨task, -, hattempt⟩ := bind_eq_ok.mp hattempt
      simp [addEvidence, not_executing h] at hattempt
    | addChecklistItem taskId actorId label required =>
      obtain ⟨task, -, hattempt⟩ := bind_eq_ok.mp hattempt
      simp [addChecklistItem, not_executing h] at hattempt
    | completeChecklistItem itemId actorId =>
      obtain ⟨row, hrow, -⟩ := bind_eq_ok.mp hattempt
      rw [orFail_eq_ok, h.checklist] at hrow
      cases hrow
    | upload taskId evidenceId actorId file hex =>
      obtain ⟨task, -, hattempt⟩ := bind_eq_ok.mp hattempt
      obtain ⟨evidence, hevidence, -⟩ := bind_eq_ok.mp hattempt
      rw [orFail_eq_ok, h.evidences] at hevidence
      cases hevidence
    | verifyFile fileId actorId disk =>
      obtain ⟨⟨final, e⟩, hverify, -⟩ := map_eq_ok.mp hattempt
      obtain ⟨row, hrow, -⟩ := bind_eq_ok.mp hverify
      rw [orFail_eq_ok, h.files] at hrow
      cases hrow

theorem anomalous_iff (task : Task) : anomalous s task = true ↔ task.status ≠ .COMPLETED := by
  rw [anomalous, none_of h, decide_eq_true_eq]

/-- The compliance report finds an anomaly in every open task. -/
theorem executionCheck_critical :
    (executionCheck s).status = .CRITICAL ↔ ∃ task ∈ s.tasks, task.status ≠ .COMPLETED := by
  have hcritical : ∀ critical attention, grade critical attention = .CRITICAL ↔ critical = true := by decide
  rw [executionCheck, hcritical, executionAnomalies]
  simp [List.isEmpty_iff, anomalous_iff h]

end Step

/-- From tables without an orchestration every run stays without one: the synchronization that would
create them fails as soon as there is a task, every request of the execution is refused, no evidence, item
or file is ever recorded, and the compliance report is critical as long as a task is open. -/
theorem execution_is_unreachable (hid : Identified s) (h : Unorchestrated s)
    (calls : List (Instant × Call)) :
    let reached := run env settings s calls
    Unorchestrated reached ∧
      (∀ call, OfExecution call → ∀ clock, ∃ failure, attempt env settings reached clock call = .error failure) ∧
      (∀ clock actorId, reached.tasks ≠ [] →
        attempt env settings reached clock (.syncOrchestration actorId) = .error (.keyError "sla_status")) ∧
      (∀ now, (∃ task ∈ reached.tasks, task.status ≠ .COMPLETED) →
        complianceStatus env reached now = .CRITICAL) := by
  intro reached
  have h' : Unorchestrated reached :=
    (run_keeps (fun _ _ _ hx hchange => unorchestrated_change hx hchange) hid h calls).2
  refine ⟨h', fun call hcall clock => execution_refused h' hcall, fun clock actorId htasks => ?_,
    fun now hopen => ?_⟩
  · rw [Workflow.attempt, syncWorkflowOrchestration_eq, if_neg htasks]
  · have hcheck := (executionCheck_critical h').mpr hopen
    have hmem : .CRITICAL ∈ (complianceChecks env reached now).map Check.status :=
      List.mem_map.mpr ⟨executionCheck reached, by simp [complianceChecks], hcheck⟩
    simp [complianceStatus, Workflow.grade, hmem]

section Samples

private def sampleInstant : Instant := ⟨0, epoch_inRange⟩

private def sampleEnv : Env where
  sha256 := fun text => text
  lateChargeEffectiveDate := none

private def sampleCalls : List (Instant × Call) :=
  [(sampleInstant, .createTask 7 "RECONCILIATION" "high" none none none),
    (sampleInstant, .transition 1 7 "assigned" none none (some 7)),
    (sampleInstant, .syncOrchestration 7)]

/-- The assigned task of a fresh installation cannot be accepted. -/
theorem sample_execution_is_unreachable :
    ∃ failure, attempt sampleEnv ⟨[], 1⟩ (run sampleEnv ⟨[], 1⟩ {} sampleCalls) sampleInstant
      (.accept 1 7) = .error failure :=
  (execution_is_unreachable ⟨by decide, by decide, by decide⟩ ⟨rfl, rfl, rfl, rfl⟩ sampleCalls).2.1
    (.accept 1 7) (.accept 1 7) sampleInstant

end Samples

end Caixinha.Properties.WorkflowReach
