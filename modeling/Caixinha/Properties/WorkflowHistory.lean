import Caixinha.Effects.WorkflowRequests

/-! The events of a task tell its status: from `PENDING` they follow the allowed transitions to it, and
nothing follows the completion. -/
namespace Caixinha.Properties.WorkflowHistory

open Caixinha.Library Caixinha.Library.Table Caixinha.Model Caixinha.Model.Workflow
  Caixinha.Effects.Workflow

variable {env : Env} {settings : Settings} {s s' : State} {task moved : Task} {event : Event}
  {events : List Event} {first mid : TaskStatus}

/-- The events of a task, in the order they were written. -/
def eventsOf (s : State) (taskId : Nat) : List Event := s.events.filter (fun e => e.taskId = taskId)

/-- An event that may follow a status: an allowed transition, a completion for a reason, under the hash of
its own fields. -/
structure Follows (env : Env) (status : TaskStatus) (e : Event) : Prop where
  fromStatus : e.fromStatus = status
  allowed : e.toStatus ∈ status.allowed
  reason : e.toStatus = .COMPLETED → given e.note ∨ given e.evidence
  hash : e.eventHash = eventHash env e

/-- The events lead from one status to another, each one from where the one before it led. -/
def Leads (env : Env) : TaskStatus → List Event → TaskStatus → Prop
  | status, [], last => status = last
  | status, e :: es, last => Follows env status e ∧ Leads env e.toStatus es last

theorem Leads.append (h : Leads env first events mid) (hfollows : Follows env mid event) :
    Leads env first (events ++ [event]) event.toStatus := by
  induction events generalizing first with
  | nil => exact ⟨(show first = mid from h) ▸ hfollows, rfl⟩
  | cons e es ih => exact ⟨h.1, ih h.2⟩

/-- Nothing follows a completed status. -/
theorem Leads.completed {last : TaskStatus} (h : Leads env .COMPLETED events last) : events = [] := by
  cases events with
  | nil => rfl
  | cons e es => exact absurd h.1.allowed (by simp [TaskStatus.allowed])

/-- The tables agree: every task stands where its events lead, and every event belongs to a task. -/
structure Logged (env : Env) (s : State) : Prop where
  leads : ∀ task ∈ s.tasks, Leads env .PENDING (eventsOf s task.id) task.status
  owned : ∀ e ∈ s.events, ∃ task ∈ s.tasks, task.id = e.taskId

section Step

private theorem Logged.same (h : Logged env s) (htasks : s'.tasks = s.tasks)
    (hevents : s'.events = s.events) : Logged env s' := by
  refine ⟨fun task hmem => ?_, fun e he => ?_⟩
  · rw [eventsOf, hevents]
    exact h.leads task (htasks ▸ hmem)
  · rw [htasks]
    exact h.owned e (hevents ▸ he)

private theorem Logged.created (h : Logged env s) (hfresh : task.id = nextKey Task.id s.tasks)
    (hpending : task.status = .PENDING) (htasks : s'.tasks = s.tasks ++ [task])
    (hevents : s'.events = s.events) : Logged env s' := by
  have hnone : eventsOf s task.id = [] := by
    refine List.filter_eq_nil_iff.mpr fun e he hyes => ?_
    obtain ⟨owner, howner, hid⟩ := h.owned e he
    have hlt : owner.id < nextKey Task.id s.tasks := key_lt_nextKey howner
    have hsame : e.taskId = task.id := of_decide_eq_true hyes
    omega
  refine ⟨fun t ht => ?_, fun e he => ?_⟩
  · rw [eventsOf, hevents]
    rcases List.mem_append.mp (htasks ▸ ht) with ht | ht
    · exact h.leads t ht
    · rw [List.mem_singleton.mp ht, ← eventsOf, hnone]
      exact hpending.symm
  · obtain ⟨owner, howner, hid⟩ := h.owned e (hevents ▸ he)
    exact ⟨owner, htasks ▸ List.mem_append_left _ howner, hid⟩

private theorem owned_replace (hrow : s.task? task.id = some task) (hid : moved.id = task.id) {e : Event}
    (he : ∃ owner ∈ s.tasks, owner.id = e.taskId) :
    ∃ owner ∈ replace Task.id s.tasks moved, owner.id = e.taskId := by
  obtain ⟨owner, howner, howned⟩ := he
  by_cases hsame : owner.id = moved.id
  · exact ⟨moved, mem_replace_self (hid ▸ hrow), hsame ▸ howned⟩
  · exact ⟨owner, List.mem_map.mpr ⟨owner, howner, if_neg hsame⟩, howned⟩

private theorem Logged.touched (h : Logged env s) {x y : Task} (hrow : s.task? x.id = some x)
    (hkept : TaskKept x y) (htasks : s'.tasks = replace Task.id s.tasks y) (hevents : s'.events = s.events) :
    Logged env s' := by
  refine ⟨fun t ht => ?_, fun e he => ?_⟩
  · rw [eventsOf, hevents]
    rcases mem_replace (htasks ▸ ht) with rfl | ht
    · rw [hkept.id_eq, hkept.status]
      exact h.leads x (lookup_mem hrow)
    · exact h.leads t ht
  · rw [htasks]
    exact owned_replace hrow hkept.id_eq (h.owned e (hevents ▸ he))

private theorem Logged.move (h : Logged env s) (hmove : Move env s task moved event)
    (htasks : s'.tasks = replace Task.id s.tasks moved) (hevents : s'.events = s.events ++ [event]) :
    Logged env s' := by
  have hsplit : ∀ id, eventsOf s' id = eventsOf s id ++ [event].filter (fun e => e.taskId = id) := by
    intro id
    rw [eventsOf, hevents, List.filter_append, eventsOf]
  refine ⟨fun t ht => ?_, fun e he => ?_⟩
  · rw [hsplit]
    rcases mem_replace_other (htasks ▸ ht) with rfl | ⟨ht, hne⟩
    · rw [List.filter_cons_of_pos (by simp [hmove.taskId, hmove.id_eq]), List.filter_nil, hmove.status]
      have hleads := h.leads task (lookup_mem hmove.row)
      rw [← hmove.id_eq] at hleads
      exact hleads.append ⟨hmove.fromStatus, hmove.allowed, hmove.reason, hmove.hash⟩
    · rw [List.filter_cons_of_neg, List.filter_nil, List.append_nil]
      · exact h.leads t ht
      · simp only [hmove.taskId, decide_eq_true_eq]
        exact fun he => hne (he.symm.trans hmove.id_eq.symm)
  · rw [htasks]
    rcases List.mem_append.mp (hevents ▸ he) with he | he
    · exact owned_replace hmove.row hmove.id_eq (h.owned e he)
    · rw [List.mem_singleton.mp he]
      exact ⟨moved, mem_replace_self (hmove.id_eq ▸ hmove.row), hmove.id_eq.trans hmove.taskId.symm⟩

theorem Logged.change (h : Logged env s) (hchange : Change env s s') : Logged env s' := by
  cases hchange with
  | verified _ _ _ only => exact h.same (by rw [only]) (by rw [only])
  | created fresh pending _ only => exact h.created fresh pending (by rw [only]) (by rw [only])
  | @termed task now row only => exact h.touched row (applySla_kept task now) (by rw [only]) (by rw [only])
  | @raised task now row _ _ only => exact h.touched row (raisedTask_kept ..) (by rw [only]) (by rw [only])
  | opened _ _ _ only => exact h.same (by rw [only]) (by rw [only])
  | actionRaised _ _ _ only => exact h.same (by rw [only]) (by rw [only])
  | acknowledged _ only => exact h.same (by rw [only]) (by rw [only])
  | moved move only => exact h.move move (by rw [only]) (by rw [only])
  | accepted _ _ _ _ _ only => exact h.same (by rw [only]) (by rw [only])
  | started move _ _ _ _ _ only => exact h.move move (by rw [only]) (by rw [only])
  | completed move _ _ _ _ _ _ only => exact h.move move (by rw [only]) (by rw [only])
  | synced _ _ only => exact h.same (by rw [only]) (by rw [only])
  | evidenceAdded _ _ only => exact h.same (by rw [only]) (by rw [only])
  | itemAdded _ _ _ only => exact h.same (by rw [only]) (by rw [only])
  | itemCompleted _ _ only => exact h.same (by rw [only]) (by rw [only])
  | fileAdded _ _ _ _ only => exact h.same (by rw [only]) (by rw [only])

end Step

section Completed

/-- The task is completed, with these events. -/
def CompletedBy (s : State) (taskId : Nat) (events : List Event) : Prop :=
  (∃ task, s.task? taskId = some task ∧ task.status = .COMPLETED) ∧ eventsOf s taskId = events

variable {taskId : Nat}

private theorem completed_same (h : CompletedBy s taskId events) (htasks : s'.tasks = s.tasks)
    (hevents : s'.events = s.events) : CompletedBy s' taskId events := by
  rw [CompletedBy, State.task?, eventsOf, htasks, hevents]
  exact h

private theorem completed_moved (h : CompletedBy s taskId events) (hmove : Move env s task moved event)
    (htasks : s'.tasks = replace Task.id s.tasks moved) (hevents : s'.events = s.events ++ [event]) :
    CompletedBy s' taskId events := by
  obtain ⟨⟨done, hdone, hstatus⟩, hhistory⟩ := h
  have hne : taskId ≠ task.id := by
    rintro rfl
    obtain rfl := Option.some.inj (hdone.symm.trans hmove.row)
    exact absurd hmove.allowed (by simp [hstatus, TaskStatus.allowed])
  refine ⟨⟨done, ?_, hstatus⟩, ?_⟩
  · rw [State.task?, htasks, lookup_replace_ne (by rw [hmove.id_eq]; exact hne)]
    exact hdone
  · rw [eventsOf, hevents, List.filter_append, ← eventsOf, hhistory, List.filter_cons_of_neg,
      List.filter_nil, List.append_nil]
    simp only [hmove.taskId, decide_eq_true_eq]
    exact hne.symm

private theorem completed_touched (h : CompletedBy s taskId events) {x y : Task}
    (hrow : s.task? x.id = some x) (hkept : TaskKept x y) (htasks : s'.tasks = replace Task.id s.tasks y)
    (hevents : s'.events = s.events) : CompletedBy s' taskId events := by
  obtain ⟨⟨done, hdone, hstatus⟩, hhistory⟩ := h
  refine ⟨?_, by rw [eventsOf, hevents]; exact hhistory⟩
  rw [State.task?, htasks]
  by_cases hid : taskId = x.id
  · subst hid
    obtain rfl := Option.some.inj (hdone.symm.trans hrow)
    refine ⟨y, ?_, hkept.status.trans hstatus⟩
    have hself : lookup Task.id (replace Task.id s.tasks y) y.id = some y :=
      lookup_replace_self (hkept.id_eq ▸ hrow)
    exact hkept.id_eq ▸ hself
  · exact ⟨done, (lookup_replace_ne (hkept.id_eq ▸ hid)).trans hdone, hstatus⟩

theorem completed_change (h : CompletedBy s taskId events) (hchange : Change env s s') :
    CompletedBy s' taskId events := by
  cases hchange with
  | verified _ _ _ only => exact completed_same h (by rw [only]) (by rw [only])
  | @created task fresh pending _ only =>
    obtain ⟨⟨done, hdone, hstatus⟩, hhistory⟩ := h
    refine ⟨⟨done, ?_, hstatus⟩, by rw [only]; exact hhistory⟩
    rw [only]
    exact lookup_append_of_some hdone
  | @termed task now row only =>
    exact completed_touched h row (applySla_kept task now) (by rw [only]) (by rw [only])
  | @raised task now row _ _ only =>
    exact completed_touched h row (raisedTask_kept ..) (by rw [only]) (by rw [only])
  | opened _ _ _ only => exact completed_same h (by rw [only]) (by rw [only])
  | actionRaised _ _ _ only => exact completed_same h (by rw [only]) (by rw [only])
  | acknowledged _ only => exact completed_same h (by rw [only]) (by rw [only])
  | moved move only => exact completed_moved h move (by rw [only]) (by rw [only])
  | accepted _ _ _ _ _ only => exact completed_same h (by rw [only]) (by rw [only])
  | started move _ _ _ _ _ only => exact completed_moved h move (by rw [only]) (by rw [only])
  | completed move _ _ _ _ _ _ only => exact completed_moved h move (by rw [only]) (by rw [only])
  | synced _ _ only => exact completed_same h (by rw [only]) (by rw [only])
  | evidenceAdded _ _ only => exact completed_same h (by rw [only]) (by rw [only])
  | itemAdded _ _ _ only => exact completed_same h (by rw [only]) (by rw [only])
  | itemCompleted _ _ only => exact completed_same h (by rw [only]) (by rw [only])
  | fileAdded _ _ _ _ only => exact completed_same h (by rw [only]) (by rw [only])

end Completed

/-- Whatever requests interleave, the events of every task lead from `PENDING` to its status by allowed
transitions, each hashed over its own fields and each completion given a reason, and a completed task
stays completed with the events it has. -/
theorem history_tells_the_status (hid : Identified s) (h : Logged env s) (calls : List (Instant × Call)) :
    Logged env (run env settings s calls) ∧ ∀ task ∈ s.tasks, task.status = .COMPLETED →
      CompletedBy (run env settings s calls) task.id (eventsOf s task.id) := by
  refine ⟨(run_keeps (fun _ _ _ hx hchange => hx.change hchange) hid h calls).2, fun task hmem hstatus => ?_⟩
  have hcompleted : CompletedBy s task.id (eventsOf s task.id) :=
    ⟨⟨task, lookup_of_mem hid.tasks hmem, hstatus⟩, rfl⟩
  exact (run_keeps (fun _ _ _ hx hchange => completed_change hx hchange) hid hcompleted calls).2

section Samples

private def sampleInstant : Instant := ⟨0, epoch_inRange⟩

private def sampleEnv : Env where
  sha256 := fun text => text
  lateChargeEffectiveDate := none

/-- A task is analysed and completed, and then somebody tries to take it up again. -/
private def sampleCalls : List (Instant × Call) :=
  [(sampleInstant, .createTask 7 "RECONCILIATION" "high" none none none),
    (sampleInstant, .transition 1 7 "in_analysis" none none none),
    (sampleInstant, .transition 1 7 "completed" (some "done") none none),
    (sampleInstant, .transition 1 8 "assigned" none none (some 8))]

private theorem sample_identified : Identified {} := ⟨by decide, by decide, by decide⟩

private theorem sample_logged : Logged sampleEnv {} :=
  ⟨fun _ h => absurd h List.not_mem_nil, fun _ h => absurd h List.not_mem_nil⟩

theorem sample_history_tells_the_status : Logged sampleEnv (run sampleEnv ⟨[], 1⟩ {} sampleCalls) :=
  (history_tells_the_status sample_identified sample_logged sampleCalls).1

end Samples

end Caixinha.Properties.WorkflowHistory
