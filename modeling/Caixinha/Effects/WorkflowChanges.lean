import Caixinha.Model.WorkflowStorage

/-! The single changes that the requests of the workflow are made of. -/
namespace Caixinha.Effects.Workflow

open Caixinha.Library Caixinha.Library.Table Fallible Caixinha.Model Caixinha.Model.Workflow

variable {env : Env} {settings : Settings} {s s' : State} {clock : Int} {task moved : Task}

/-- A task moves to another status by an event. -/
structure Move (env : Env) (s : State) (task moved : Task) (event : Event) : Prop where
  row : s.task? task.id = some task
  id_eq : moved.id = task.id
  status : moved.status = event.toStatus
  fresh : event.id = nextKey Event.id s.events
  taskId : event.taskId = task.id
  fromStatus : event.fromStatus = task.status
  allowed : event.toStatus ∈ task.status.allowed
  reason : event.toStatus = .COMPLETED → given event.note ∨ given event.evidence
  hash : event.eventHash = eventHash env event
  terms : moved.slaStatus = task.slaStatus ∧ moved.escalationLevel = task.escalationLevel ∧
    moved.priority = task.priority

section Rows
variable (row : Orchestration) (actorId : Nat) (now : Int)

def acceptedRow : Orchestration :=
  { row with executionState := .ACCEPTED, acceptedBy := some actorId, acceptedAt := some now, updatedAt := now }

def startedRow : Orchestration :=
  { row with
    executionState := .IN_EXECUTION, startedBy := some actorId, startedAt := some now, updatedAt := now }

def completedRow : Orchestration :=
  { row with
    executionState := .COMPLETED, completedBy := some actorId, completedAt := some now, updatedAt := now }

def syncedRow (task : Task) : Orchestration :=
  { row with executionState := targetState task row, updatedAt := now }

end Rows

def raisedTask (task : Task) (level : Level) (now : Int) : Task :=
  { task with escalationLevel := level, escalatedAt := some now }

/-- One change of the tables; the audit rows stand aside. -/
inductive Change (env : Env) (s s' : State) : Prop where
  | verified {e : IntegrityEvent} (fresh : e.id = nextKey IntegrityEvent.id s.integrityEvents)
      (previous : e.previousEventHash = lastHash s) (hash : e.eventHash = calculatedHash env e)
      (only : s' = { s with integrityEvents := s.integrityEvents ++ [e] })
  | created {task : Task} (fresh : task.id = nextKey Task.id s.tasks) (pending : task.status = .PENDING)
      (onTrack : task.slaStatus = .ON_TRACK)
      (only : s' = { s with tasks := s.tasks ++ [task], auditLogs := s'.auditLogs })
  | termed {task : Task} {now : Int} (row : s.task? task.id = some task)
      (only : s' = { s with
        tasks := replace Task.id s.tasks (applySla task now), auditLogs := s'.auditLogs })
  | raised {task : Task} {now : Int} (row : s.task? task.id = some task) (late : task.slaStatus = .OVERDUE)
      (raises : task.escalationLevel.rank < task.priority.level.rank)
      (only : s' = { s with
        tasks := replace Task.id s.tasks (raisedTask task task.priority.level now)
        auditLogs := s'.auditLogs })
  | opened {task : Task} {now : Int} (row : s.task? task.id = some task)
      (level : task.priority.level ≠ .NONE) (none : openAction? s task.id = none)
      (only : s' = { s with
        actions := s.actions ++ [newAction s task task.priority.level now], auditLogs := s'.auditLogs })
  | actionRaised {task : Task} {action action' : ActionRecord} (row : s.task? task.id = some task)
      (found : openAction? s task.id = some action)
      (raises : action.escalationLevel.rank < task.priority.level.rank)
      (only : s' = { s with
        actions := replace ActionRecord.id s.actions action', auditLogs := s'.auditLogs })
  | acknowledged {action : ActionRecord} (closed : action.status = .ACKNOWLEDGED)
      (only : s' = { s with actions := s.actions ++ [action], auditLogs := s'.auditLogs })
  | moved {task moved : Task} {event : Event} (move : Move env s task moved event)
      (only : s' = { s with
        tasks := replace Task.id s.tasks moved, events := s.events ++ [event], auditLogs := s'.auditLogs })
  | accepted {task : Task} {row : Orchestration} {actorId : Nat} {now : Int}
      (ofTask : s.task? row.taskId = some task) (assigned : task.status = .ASSIGNED)
      (assignee : task.assignedTo = some actorId)
      (found : lookup Orchestration.id s.orchestrations row.id = some row)
      (waiting : row.executionState = .PENDING_ACCEPTANCE)
      (only : s' = { s with
        orchestrations := replace Orchestration.id s.orchestrations (acceptedRow row actorId now)
        auditLogs := s'.auditLogs })
  | started {task moved : Task} {event : Event} {row : Orchestration} {actorId : Nat} {now : Int}
      (move : Move env s task moved event) (status : event.toStatus = .IN_EXECUTION)
      (found : lookup Orchestration.id s.orchestrations row.id = some row) (ofTask : row.taskId = task.id)
      (accepted : row.executionState = .ACCEPTED) (actor : row.acceptedBy = some actorId)
      (only : s' = { s with
        tasks := replace Task.id s.tasks moved, events := s.events ++ [event]
        orchestrations := replace Orchestration.id s.orchestrations (startedRow row actorId now)
        auditLogs := s'.auditLogs })
  | completed {task moved : Task} {event : Event} {row : Orchestration} {actorId : Nat} {now : Int}
      (move : Move env s task moved event) (status : event.toStatus = .COMPLETED)
      (found : lookup Orchestration.id s.orchestrations row.id = some row) (ofTask : row.taskId = task.id)
      (executing : row.executionState = .IN_EXECUTION) (actor : row.startedBy = some actorId)
      (ready : requiredPending s task.id = 0)
      (only : s' = { s with
        tasks := replace Task.id s.tasks moved, events := s.events ++ [event]
        orchestrations := replace Orchestration.id s.orchestrations (completedRow row actorId now)
        auditLogs := s'.auditLogs })
  | synced {task : Task} {row : Orchestration} {now : Int}
      (found : lookup Orchestration.id s.orchestrations row.id = some row)
      (ofTask : s.task? row.taskId = some task)
      (only : s' = { s with
        orchestrations := replace Orchestration.id s.orchestrations (syncedRow row now task)
        auditLogs := s'.auditLogs })
  | evidenceAdded {row : Evidence} (executing : executing s row.taskId row.addedBy = true)
      (fresh : row.id = nextKey Evidence.id s.evidences)
      (only : s' = { s with evidences := s.evidences ++ [row], auditLogs := s'.auditLogs })
  | itemAdded {row : ChecklistItem} {actorId : Nat} (executing : executing s row.taskId actorId = true)
      (fresh : row.id = nextKey ChecklistItem.id s.checklist) (pending : row.completed = false)
      (only : s' = { s with checklist := s.checklist ++ [row], auditLogs := s'.auditLogs })
  | itemCompleted {row : ChecklistItem} {actorId : Nat} {now : Int}
      (found : lookup ChecklistItem.id s.checklist row.id = some row)
      (executing : executing s row.taskId actorId = true)
      (only : s' = { s with
        checklist := replace ChecklistItem.id s.checklist { row with
          completed := true, completedBy := some actorId, completedAt := some now }
        auditLogs := s'.auditLogs })
  | fileAdded {row : EvidenceFile} {evidence : Evidence}
      (found : lookup Evidence.id s.evidences row.evidenceId = some evidence)
      (executing : executing s evidence.taskId row.uploadedBy = true)
      (fresh : row.id = nextKey EvidenceFile.id s.files) (version : row.version = nextVersion s row.evidenceId)
      (only : s' = { s with files := s.files ++ [row], auditLogs := s'.auditLogs })

section Tasks

theorem transition_spec {actorId : Nat} {status : String} {note evidence : Option String}
    {assignedTo : Option Nat} (hrow : s.task? task.id = some task)
    (h : Workflow.transition env s clock task actorId status note evidence assignedTo = .ok (s', moved)) :
    ∃ event, Move env s task moved event ∧
      statuses.find? (fun x => x.text = upper status) = some event.toStatus ∧
      s' = { s with
        tasks := replace Task.id s.tasks moved, events := s.events ++ [event], auditLogs := s'.auditLogs } := by
  unfold Workflow.transition at h
  simp only [bind_eq_ok, pure_eq_ok, orFail_eq_ok, refuse_eq_ok, exists_and_left, exists_const,
    Prod.mk.injEq] at h
  obtain ⟨target, hfind, hallowed, hreason, rfl, rfl⟩ := h
  refine ⟨newEvent env s clock task actorId target note evidence,
    ⟨hrow, rfl, rfl, rfl, rfl, rfl, not_not.mp hallowed, fun hcompleted => ?_, rfl, rfl, rfl, rfl⟩, hfind, rfl⟩
  by_contra hnone
  exact hreason ⟨hcompleted, hnone⟩

end Tasks

section Kept

/-- What the terms and the escalation leave of a task. -/
structure TaskKept (x y : Task) : Prop where
  id_eq : y.id = x.id
  status : y.status = x.status
  priority : y.priority = x.priority
  dueAt : y.dueAt = x.dueAt
  createdAt : y.createdAt = x.createdAt
  assignedTo : y.assignedTo = x.assignedTo

theorem applySla_kept (task : Task) (now : Int) : TaskKept task (applySla task now) := by
  unfold applySla
  split
  · exact ⟨rfl, rfl, rfl, rfl, rfl, rfl⟩
  · split <;> exact ⟨rfl, rfl, rfl, rfl, rfl, rfl⟩

theorem raisedTask_kept (task : Task) (level : Level) (now : Int) : TaskKept task (raisedTask task level now) :=
  ⟨rfl, rfl, rfl, rfl, rfl, rfl⟩

/-- An overdue task that the terms went over is marked as such. -/
theorem applySla_late {now : Int} (h : task.overdue now = true) :
    (applySla task now).slaStatus = .OVERDUE := by
  unfold applySla
  split
  · rfl
  · rename_i hnot
    have hopen : task.status ≠ .COMPLETED := (of_decide_eq_true h).1
    rw [if_neg hopen]
    by_contra hstatus
    exact hnot (decide_eq_true ⟨h, hopen, hstatus⟩)

theorem overdue_applySla (task : Task) (now : Int) : (applySla task now).overdue now = task.overdue now := by
  have hkept := applySla_kept task now
  have hdue : (applySla task now).due = task.due := by
    rw [Task.due, Task.due, hkept.dueAt, hkept.createdAt, hkept.priority]
  rw [Bool.eq_iff_iff, Task.overdue, Task.overdue, decide_eq_true_eq, decide_eq_true_eq, hkept.status, hdue]

end Kept

section Terms
variable {actorId : Option Nat} {now : Int}

theorem applySlaTo_change (hrow : s.task? task.id = some task) :
    Change env s (applySlaTo s task actorId now).1 := .termed hrow rfl

theorem applySlaTo_self (hrow : s.task? task.id = some task) :
    (applySlaTo s task actorId now).1.task? task.id = some (applySla task now) := by
  have hid := (applySla_kept task now).id_eq
  have hself : (s.putTask (applySla task now)).task? (applySla task now).id = some (applySla task now) :=
    lookup_replace_self (hid ▸ hrow)
  rwa [hid] at hself

theorem applySlaTo_others {id : Nat} (hne : id ≠ task.id) :
    (applySlaTo s task actorId now).1.task? id = s.task? id :=
  lookup_replace_ne ((applySla_kept task now).id_eq ▸ hne)

/-- A loop over rows of the table, each turn of which changes its own row only: what one turn keeps. -/
theorem foldl_rows {σ : Type} {f : σ → Task → σ} {state : σ → State} {I : σ → Prop} {ts : List Task}
    {acc : σ} (hturn : ∀ acc t, I acc → (state acc).task? t.id = some t →
      I (f acc t) ∧ ∀ id, id ≠ t.id → (state (f acc t)).task? id = (state acc).task? id)
    (hnodup : (ts.map Task.id).Nodup) (hrows : ∀ t ∈ ts, (state acc).task? t.id = some t) (hI : I acc) :
    I (ts.foldl f acc) := by
  induction ts generalizing acc with
  | nil => exact hI
  | cons t ts ih =>
    rw [List.map_cons, List.nodup_cons] at hnodup
    obtain ⟨hkept, hothers⟩ := hturn acc t hI (hrows t (List.mem_cons_self ..))
    refine ih hnodup.2 (fun u hu => ?_) hkept
    have hne : u.id ≠ t.id := fun he => hnodup.1 (he ▸ List.mem_map_of_mem hu)
    rw [hothers u.id hne]
    exact hrows u (List.mem_cons_of_mem _ hu)

private theorem rows_of_mem {ts : List Task} (hkeyed : Keyed Task.id s.tasks) (h : ∀ t ∈ ts, t ∈ s.tasks) :
    ∀ t ∈ ts, s.task? t.id = some t := fun _ ht => lookup_of_mem hkeyed (h _ ht)

private theorem sla_fold_changes {ts : List Task} (hnodup : (ts.map Task.id).Nodup)
    (hrows : ∀ t ∈ ts, s.task? t.id = some t) :
    Relation.ReflTransGen (Change env) s (ts.foldl (fun s task => (applySlaTo s task actorId now).1) s) :=
  @foldl_rows State _ (fun s => s) (Relation.ReflTransGen (Change env) s) _ _ (fun _ _ hchanges hrow =>
    ⟨hchanges.tail (applySlaTo_change hrow), fun _ hne => applySlaTo_others hne⟩) hnodup hrows .refl

theorem openTasks_nodup (hkeyed : Keyed Task.id s.tasks) : ((openTasks s).map Task.id).Nodup :=
  hkeyed.sublist (List.filter_sublist.map Task.id)

theorem openTasks_rows (hkeyed : Keyed Task.id s.tasks) : ∀ t ∈ openTasks s, s.task? t.id = some t :=
  rows_of_mem hkeyed fun _ ht => List.mem_of_mem_filter ht

theorem slaSummary_changes {actor : Nat} (hkeyed : Keyed Task.id s.tasks) :
    Relation.ReflTransGen (Change env) s (slaSummary s actor now) :=
  sla_fold_changes (openTasks_nodup hkeyed) (openTasks_rows hkeyed)

theorem slaTasks_changes {actor limit : Nat} (hkeyed : Keyed Task.id s.tasks) :
    Relation.ReflTransGen (Change env) s (slaTasks s actor limit now) := by
  have hperm := List.perm_insertionSort (dueOrder · ·) s.tasks
  refine sla_fold_changes ?_ (rows_of_mem hkeyed fun t ht => ?_)
  · have hsorted : ((s.tasks.insertionSort (dueOrder · ·)).map Task.id).Nodup :=
      ((hperm.map Task.id).nodup_iff).mpr hkeyed
    exact hsorted.sublist ((List.take_sublist _ _).map Task.id)
  · exact hperm.mem_iff.mp (List.mem_of_mem_take ht)

/-- An escalated task is overdue, and its level is that of its priority. -/
theorem escalationLevel_eq (h : escalationLevel task now ≠ .NONE) :
    escalationLevel task now = task.priority.level ∧ task.overdue now = true := by
  unfold escalationLevel at h ⊢
  split at h
  · exact absurd rfl h
  · rename_i hnot
    rw [not_or, not_not] at hnot
    exact ⟨if_neg (by simp [hnot]), hnot.1⟩

private theorem raiseTask_changes (hrow : s.task? task.id = some task) (hlate : task.slaStatus = .OVERDUE) :
    Relation.ReflTransGen (Change env) s (raiseTask s task task.priority.level actorId now) ∧
      ∀ id, id ≠ task.id →
        (raiseTask s task task.priority.level actorId now).task? id = s.task? id := by
  unfold raiseTask
  split
  · rename_i hraises
    exact ⟨.single (.raised hrow hlate (of_decide_eq_true hraises) rfl), fun _ hne => lookup_replace_ne hne⟩
  · exact ⟨.refl, fun _ _ => rfl⟩

private theorem raiseTask_self {level : Level} (hrow : s.task? task.id = some task) :
    ∃ moved, (raiseTask s task level actorId now).task? task.id = some moved ∧ TaskKept task moved := by
  unfold raiseTask
  split
  · have hself : (s.putTask (raisedTask task level now)).task? (raisedTask task level now).id =
        some (raisedTask task level now) := lookup_replace_self hrow
    exact ⟨_, hself, raisedTask_kept task level now⟩
  · exact ⟨task, hrow, rfl, rfl, rfl, rfl, rfl, rfl⟩

private theorem newAction_kept {x y : Task} (hkept : TaskKept x y) :
    newAction s y y.priority.level now = newAction s x x.priority.level now := by
  have hnote : escalationNote y y.priority.level = escalationNote x x.priority.level := by
    unfold escalationNote
    rw [hkept.id_eq, hkept.priority]
  unfold newAction
  rw [hnote, hkept.id_eq, hkept.priority, hkept.assignedTo]

private theorem raiseAction_changes {report : Escalations} {stored : Task}
    (hrow : s.task? task.id = some stored) (hkept : TaskKept task stored)
    (hlevel : task.priority.level ≠ .NONE) :
    Relation.ReflTransGen (Change env) s (raiseAction s task task.priority.level actorId now report).1 ∧
      (raiseAction s task task.priority.level actorId now report).1.tasks = s.tasks := by
  rw [← hkept.id_eq] at hrow
  rw [← hkept.priority] at hlevel
  unfold raiseAction
  dsimp only
  split
  · rename_i hnone
    rw [← hkept.id_eq] at hnone
    refine ⟨.single (@Change.opened env s _ stored now hrow hlevel hnone ?_), rfl⟩
    rw [newAction_kept hkept]
    rfl
  · rename_i action hfound
    split
    · rename_i hraises
      rw [← hkept.id_eq] at hfound
      rw [← hkept.priority] at hraises
      exact ⟨.single (.actionRaised hrow hfound hraises rfl), rfl⟩
    · exact ⟨.refl, rfl⟩

theorem escalateTask_none {acc : State × Escalations}
    (h : escalationLevel (applySla task now) now = .NONE) :
    escalateTask actorId now acc task = ((applySlaTo acc.1 task actorId now).1, acc.2) := if_pos h

/-- What the turn of an escalated task does to it and to its action. -/
def escalation (acc : State × Escalations) (task : Task) (level : Level) (actorId : Option Nat) (now : Int) :
    State × Escalations × Option Nat :=
  raiseAction (raiseTask (applySlaTo acc.1 task actorId now).1 (applySla task now) level actorId now)
    (applySla task now) level actorId now acc.2

theorem escalateTask_escalated {acc : State × Escalations} {level : Level}
    (h : escalationLevel (applySla task now) now = level) (hlevel : level ≠ .NONE) :
    escalateTask actorId now acc task = ((escalation acc task level actorId now).1,
      { (escalation acc task level actorId now).2.1 with
        items := (escalation acc task level actorId now).2.1.items ++
          [{ taskId := (applySla task now).id, actionId := (escalation acc task level actorId now).2.2
             escalationLevel := level, changed := raises (applySla task now) level }] }) := by
  subst h
  exact if_neg hlevel

theorem escalateTask_changes {acc : State × Escalations}
    (hrow : acc.1.task? task.id = some task) :
    Relation.ReflTransGen (Change env) acc.1 (escalateTask actorId now acc task).1 ∧
      ∀ id, id ≠ task.id → (escalateTask actorId now acc task).1.task? id = acc.1.task? id := by
  have htermed : Change env acc.1 (applySlaTo acc.1 task actorId now).1 := applySlaTo_change hrow
  have hself : (applySlaTo acc.1 task actorId now).1.task? task.id = some (applySla task now) :=
    applySlaTo_self hrow
  have hothers : ∀ id, id ≠ task.id → (applySlaTo acc.1 task actorId now).1.task? id = acc.1.task? id :=
    fun _ hne => applySlaTo_others hne
  have hid := (applySla_kept task now).id_eq
  rw [← hid] at hself
  by_cases hnone : escalationLevel (applySla task now) now = .NONE
  · rw [escalateTask_none hnone]
    exact ⟨.single htermed, hothers⟩
  · obtain ⟨hpriority, hlate⟩ := escalationLevel_eq hnone
    rw [overdue_applySla] at hlate
    rw [hpriority] at hnone
    rw [escalateTask_escalated hpriority hnone]
    obtain ⟨hraise, hraiseOthers⟩ := @raiseTask_changes env _ _ actorId now hself (applySla_late hlate)
    obtain ⟨stored, hstored, hkept⟩ :=
      @raiseTask_self _ _ actorId now (applySla task now).priority.level hself
    obtain ⟨haction, htasks⟩ := @raiseAction_changes env _ _ actorId now acc.2 stored hstored hkept hnone
    refine ⟨(Relation.ReflTransGen.head htermed hraise).trans haction, fun id hne => ?_⟩
    have hsame : (escalation acc task (applySla task now).priority.level actorId now).1.task? id =
        (raiseTask (applySlaTo acc.1 task actorId now).1 (applySla task now)
          (applySla task now).priority.level actorId now).task? id := congrArg (lookup Task.id · id) htasks
    exact hsame.trans ((hraiseOthers id (hid ▸ hne)).trans (hothers id hne))

theorem syncWorkflowEscalations_changes (hkeyed : Keyed Task.id s.tasks) :
    Relation.ReflTransGen (Change env) s (syncWorkflowEscalations s actorId now).1 :=
  @foldl_rows (State × Escalations) _ Prod.fst (fun acc => Relation.ReflTransGen (Change env) s acc.1) _ (s, {})
    (fun acc t hchanges hrow => by
      obtain ⟨hturn, hothers⟩ := @escalateTask_changes env t actorId now acc hrow
      exact ⟨hchanges.trans hturn, hothers⟩)
    (openTasks_nodup hkeyed) (openTasks_rows hkeyed) .refl

end Terms

end Caixinha.Effects.Workflow
