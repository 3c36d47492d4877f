import Caixinha.Model.Workflow

/-! The operational queue over the workflow: the escalation of overdue tasks, the orchestration of all
of them, and the assisted execution with its evidence, its checklist and its files. -/
namespace Caixinha.Model.Workflow

open Caixinha.Library Table Fallible Json

section Escalation

structure EscalationItem where
  taskId : Nat
  actionId : Option Nat
  escalationLevel : Level
  changed : Bool
  deriving DecidableEq, Repr

structure Escalations where
  created : Nat := 0
  updated : Nat := 0
  items : List EscalationItem := []
  deriving DecidableEq, Repr

/-- The newest open action of a task. -/
def openAction? (s : State) (taskId : Nat) : Option ActionRecord :=
  s.actions.reverse.find? (fun a => a.sourceTaskId = some taskId ∧ a.status = .OPEN)

def escalationNote (task : Task) (level : Level) : String :=
  s!"Escalonamento automático v0.64: tarefa #{task.id} vencida; nível={level.text}; prioridade={task.priority.text}."

def raises (task : Task) (level : Level) : Bool := task.escalationLevel.rank < level.rank

def raiseTask (s : State) (task : Task) (level : Level) (actorId : Option Nat) (now : Int) : State :=
  if raises task level then
    (s.putTask { task with escalationLevel := level, escalatedAt := some now }).audit
      [{ actorUserId := actorId, action := "WORKFLOW_ESCALATED", entityType := "OperationalWorkflowTask"
         entityId := toString task.id
         details := s!"action_code={task.actionCode};from={task.escalationLevel.text};to={level.text}" }]
  else s

def newAction (s : State) (task : Task) (level : Level) (now : Int) : ActionRecord where
  id := nextKey ActionRecord.id s.actions
  actionCode := "WORKFLOW_ESCALATION"
  assignedTo := task.assignedTo
  note := some (escalationNote task level)
  createdAt := now
  updatedAt := now
  sourceTaskId := some task.id
  escalationLevel := level

/-- The open action of an escalated task is created, or raised to the level. -/
def raiseAction (s : State) (task : Task) (level : Level) (actorId : Option Nat) (now : Int)
    (report : Escalations) : State × Escalations × Option Nat :=
  let note := escalationNote task level
  match openAction? s task.id with
  | none =>
    (({ s with actions := s.actions ++ [newAction s task level now] }).audit
      [{ actorUserId := actorId, action := "WORKFLOW_ESCALATION_ACTION_CREATED"
         entityType := "OperationalActionRecord", entityId := toString task.id, details := note }],
      { report with created := report.created + 1 }, none)
  | some action =>
    if action.escalationLevel.rank < level.rank then
      (({ s with actions := replace ActionRecord.id s.actions { action with
          escalationLevel := level, assignedTo := task.assignedTo, note := some note
          updatedAt := now } }).audit
        [{ actorUserId := actorId, action := "WORKFLOW_ESCALATION_ACTION_UPDATED"
           entityType := "OperationalActionRecord", entityId := toString action.id, details := note }],
        { report with updated := report.updated + 1 }, some action.id)
    else (s, report, some action.id)

/-- One turn of the loop; the id of a new action is only known after the flush. -/
def escalateTask (actorId : Option Nat) (now : Int) (acc : State × Escalations) (task : Task) :
    State × Escalations :=
  let (s, task) := applySlaTo acc.1 task actorId now
  let level := escalationLevel task now
  if level = .NONE then (s, acc.2)
  else
    let (s, report, actionId) := raiseAction (raiseTask s task level actorId now) task level actorId now acc.2
    (s, { report with items := report.items ++
      [{ taskId := task.id, actionId, escalationLevel := level, changed := raises task level }] })

def openTasks (s : State) : List Task := s.tasks.filter (fun t => t.status ≠ .COMPLETED)

/-- `sync_workflow_escalations` -/
def syncWorkflowEscalations (s : State) (actorId : Option Nat) (now : Int) : State × Escalations :=
  (openTasks s).foldl (escalateTask actorId now) (s, {})

/-- `GET /admin/workflow-sla/summary`, which writes the terms of the open tasks. -/
def slaSummary (s : State) (actorId : Nat) (now : Int) : State :=
  (openTasks s).foldl (fun s task => (applySlaTo s task (some actorId) now).1) s

/-- `due_at` ascending, the tasks without one last. -/
def dueOrder (a b : Task) : Bool :=
  match a.dueAt, b.dueAt with
  | some x, some y => x ≤ y
  | none, some _ => false
  | _, none => true

/-- `GET /admin/workflow-sla/tasks`, which writes the terms of the tasks it lists. -/
def slaTasks (s : State) (actorId limit : Nat) (now : Int) : State :=
  ((s.tasks.insertionSort (dueOrder · ·)).take limit).foldl
    (fun s task => (applySlaTo s task (some actorId) now).1) s

/-- The codes of `CATALOG`. -/
def catalog : List String :=
  ["LOAN_REQUESTS", "SECURE_RELEASE_CONFIRM", "SECURE_RELEASE_EXPIRED", "DELINQUENCY", "RECOVERY_DUE",
    "RECOVERY_CASES", "RISK_BLOCKED", "RECONCILIATION", "LEDGER_INTEGRITY", "WEBHOOK_BACKLOG",
    "PAYMENT_PENDING", "GOVERNANCE_REVIEW", "COLLECTION_CASES", "WORKFLOW_ESCALATION"]

/-- `acknowledge` of the command center -/
def acknowledge (s : State) (clock : Int) (code : String) (actorId : Nat) (note : Option String)
    (snapshotId : Option Nat) : Act State := do
  refuse (code ∉ catalog) "Ação operacional desconhecida."
  let row : ActionRecord :=
    { id := nextKey ActionRecord.id s.actions, actionCode := code, status := .ACKNOWLEDGED, snapshotId
      acknowledgedBy := some actorId, acknowledgedAt := some clock, note, createdAt := clock
      updatedAt := clock }
  return { s with actions := s.actions ++ [row] }.audit
    [{ actorUserId := some actorId, action := "OPERATIONAL_ACTION_ACKNOWLEDGED"
       entityType := "OPERATIONAL_ACTION", entityId := code, details := note.getD "" }]

end Escalation

section Orchestration

def Priority.score : Priority → Int
  | .LOW => 10
  | .MEDIUM => 30
  | .HIGH => 60
  | .CRITICAL => 100

def slaScore (slaStatus : String) : Int := if slaStatus = "OVERDUE" then 40 else 0

def Level.score : Level → Int
  | .NONE => 0
  | .HIGH => 30
  | .CRITICAL => 60

/-- `orchestration_score` -/
def orchestrationScore (task : Task) (slaStatus : String) (escalation : Level) : Int :=
  task.priority.score + slaScore slaStatus + escalation.score

/-- `queue_status` -/
def queueStatus (task : Task) (escalation : Level) : QueueStatus :=
  if task.status = .COMPLETED then .COMPLETED
  else if escalation ≠ .NONE then .ESCALATED
  else if task.status = .IN_EXECUTION then .IN_PROGRESS
  else if task.assignedTo.isSome ∨ task.status = .ASSIGNED then .ASSIGNED
  else .READY

def orchestrationOf? (s : State) (taskId : Nat) : Option Orchestration :=
  s.orchestrations.find? (fun o => o.taskId = taskId)

def putOrchestration (s : State) (row : Orchestration) : State :=
  { s with orchestrations := replace Orchestration.id s.orchestrations row }

def newOrchestration (s : State) (task : Task) (slaStatus : String) (esc : Level) (now : Int) :
    Orchestration where
  id := nextKey Orchestration.id s.orchestrations
  taskId := task.id
  queueStatus := queueStatus task esc
  assignedTo := task.assignedTo
  priority := task.priority
  slaStatus := slaStatus
  escalationLevel := esc
  orchestrationScore := orchestrationScore task slaStatus esc
  lastEvaluatedAt := now
  createdAt := now
  updatedAt := now

def evaluationChanged (row : Orchestration) (task : Task) (slaStatus : String) (esc : Level) : Bool :=
  row.queueStatus ≠ queueStatus task esc ∨ row.assignedTo ≠ task.assignedTo ∨
    row.priority ≠ task.priority ∨ row.slaStatus ≠ slaStatus ∨
    row.escalationLevel.rank < esc.rank ∨ row.orchestrationScore ≠ orchestrationScore task slaStatus esc

def evaluated (row : Orchestration) (task : Task) (slaStatus : String) (esc : Level) (now : Int) :
    Orchestration :=
  { row with
    queueStatus := queueStatus task esc, assignedTo := task.assignedTo, priority := task.priority
    slaStatus, escalationLevel := esc, orchestrationScore := orchestrationScore task slaStatus esc
    updatedAt := now }

/-- One turn of the loop of `sync_workflow_orchestration`. -/
def orchestrateTask (actorId : Option Nat) (now : Int) (s : State) (task : Task) : Act State := do
  let (s, task) := applySlaTo s task actorId now
  let info := enrichTaskSla task now
  let esc := escalationLevel task now
  let slaStatus := (asText? (← item info "sla_status")).getD ""
  let score := orchestrationScore task slaStatus esc
  match orchestrationOf? s task.id with
  | none =>
    let row := newOrchestration s task slaStatus esc now
    return { s with orchestrations := s.orchestrations ++ [row] }.audit
      [{ actorUserId := actorId, action := "WORKFLOW_ORCHESTRATION_CREATED"
         entityType := "OperationalWorkflowOrchestration", entityId := toString row.id
         details := s!"task={task.id};queue={row.queueStatus.text};score={score}" }]
  | some row =>
    if evaluationChanged row task slaStatus esc then
      let after := { evaluated row task slaStatus esc now with lastEvaluatedAt := now }
      return (putOrchestration s after).audit
        [{ actorUserId := actorId, action := "WORKFLOW_ORCHESTRATION_UPDATED"
           entityType := "OperationalWorkflowOrchestration", entityId := toString row.id
           details := s!"task={task.id};queue={row.queueStatus.text}->{after.queueStatus.text};escalation={row.escalationLevel.text}->{esc.text};score={score}" }]
    else return putOrchestration s { row with lastEvaluatedAt := now }

/-- `sync_workflow_orchestration` -/
def syncWorkflowOrchestration (s : State) (actorId : Option Nat) (now : Int) : Act State :=
  s.tasks.foldlM (orchestrateTask actorId now) s

end Orchestration

section Execution
variable (env : Env)

def executionAudit (s : State) (actorId : Nat) (action : String) (taskId : Nat) (details : String) : State :=
  s.audit [{ actorUserId := some actorId, action, entityType := "OperationalWorkflowTask"
             entityId := toString taskId, details }]

/-- `str` of a `bool` -/
def boolText (b : Bool) : String := if b then "True" else "False"

/-- `_get_orch` -/
def getOrch (s : State) (taskId : Nat) : Act Orchestration :=
  orFail (orchestrationOf? s taskId) (.raised (.valueError
    "Orquestração da tarefa não encontrada. Execute a sincronização operacional."))

/-- `accept` -/
def accept (s : State) (now : Int) (task : Task) (actorId : Nat) : Act State := do
  let row ← getOrch s task.id
  refuse (task.status ≠ .ASSIGNED ∨ task.assignedTo ≠ some actorId)
    "Somente o administrador responsável por uma tarefa ASSIGNED pode aceitá-la."
  refuse (row.executionState ≠ .PENDING_ACCEPTANCE)
    s!"Tarefa não está aguardando aceite: {row.executionState.text}."
  return executionAudit (putOrchestration s { row with
      executionState := .ACCEPTED, acceptedBy := some actorId, acceptedAt := some now, updatedAt := now })
    actorId "WORKFLOW_EXECUTION_ACCEPTED" task.id s!"assigned_to={actorId}"

/-- `start` -/
def start (s : State) (now : Int) (task : Task) (actorId : Nat) : Act State := do
  let row ← getOrch s task.id
  refuse (row.executionState ≠ .ACCEPTED ∨ row.acceptedBy ≠ some actorId)
    "A execução exige aceite prévio pelo administrador responsável."
  refuse (task.status ≠ .ASSIGNED) "A tarefa precisa estar ASSIGNED para iniciar a execução."
  let (s, _) ← transition env s now task actorId "IN_EXECUTION" none none none
  return executionAudit (putOrchestration s { row with
      executionState := .IN_EXECUTION, startedBy := some actorId, startedAt := some now, updatedAt := now })
    actorId "WORKFLOW_EXECUTION_STARTED" task.id s!"accepted_by={actorId}"

/-- `checklist_status`: the items, the required ones, the completed ones and the required ones that are
not completed. -/
def checklistOf (s : State) (taskId : Nat) : List ChecklistItem := s.checklist.filter (fun i => i.taskId = taskId)

def requiredPending (s : State) (taskId : Nat) : Nat :=
  ((checklistOf s taskId).filter (fun i => i.required ∧ ¬ i.completed)).length

/-- `complete` -/
def complete (s : State) (now : Int) (task : Task) (actorId : Nat) (note evidence : Option String) :
    Act State := do
  let row ← getOrch s task.id
  refuse (row.executionState ≠ .IN_EXECUTION ∨ row.startedBy ≠ some actorId)
    "Somente o administrador que iniciou a execução pode concluí-la."
  refuse (¬ (given note ∨ given evidence)) "Conclusão exige comentário ou evidência."
  refuse (requiredPending s task.id ≠ 0)
    s!"Conclusão bloqueada: {requiredPending s task.id} item(ns) obrigatório(s) do checklist pendente(s)."
  refuse (task.status ≠ .IN_EXECUTION) "A tarefa precisa estar IN_EXECUTION para ser concluída."
  let (s, _) ← transition env s now task actorId "COMPLETED" note evidence none
  return executionAudit (putOrchestration s { row with
      executionState := .COMPLETED, completedBy := some actorId, completedAt := some now, updatedAt := now })
    actorId "WORKFLOW_EXECUTION_COMPLETED" task.id
    s!"evidence={boolText (given evidence)};note={boolText (given note)}"

/-- The state `sync_execution_states` takes an orchestration to. -/
def targetState (task : Task) (row : Orchestration) : ExecutionState :=
  if task.status = .COMPLETED then .COMPLETED
  else if row.executionState = .IN_EXECUTION ∨ task.status = .IN_EXECUTION then .IN_EXECUTION
  else if row.executionState = .ACCEPTED then .ACCEPTED
  else .PENDING_ACCEPTANCE

def syncExecutionState (actorId : Option Nat) (now : Int) (s : State) (row : Orchestration) : State :=
  match s.task? row.taskId with
  | none => s
  | some task =>
    let target := targetState task row
    if target ≠ row.executionState then
      let s := putOrchestration s { row with executionState := target, updatedAt := now }
      match actorId with
      | some actor => executionAudit s actor "WORKFLOW_EXECUTION_STATE_SYNCED" task.id
          s!"{row.executionState.text}->{target.text}"
      | none => s
    else s

/-- `sync_execution_states` -/
def syncExecutionStates (s : State) (actorId : Option Nat) (now : Int) : State :=
  s.orchestrations.foldl (syncExecutionState actorId now) s

end Execution

section Evidence
variable (env : Env)

/-- The task is in execution by the administrator who started it. -/
def executing (s : State) (taskId actorId : Nat) : Bool :=
  (orchestrationOf? s taskId).any fun o => o.executionState = .IN_EXECUTION ∧ o.startedBy = some actorId

def evidenceTypes : List String := ["NOTE", "LINK", "ATTACHMENT"]

/-- `add_evidence` -/
def addEvidence (s : State) (clock : Int) (task : Task) (actorId : Nat) (evidenceType content : String)
    (title : Option String) : Act State := do
  refuse (¬ executing s task.id actorId)
    "Somente o administrador que iniciou a execução pode adicionar evidência."
  let content := strip content
  refuse (content = "") "A evidência não pode ser vazia."
  let et := upper (if evidenceType = "" then "NOTE" else evidenceType)
  refuse (et ∉ evidenceTypes) "Tipo de evidência inválido."
  let h := env.sha256 content
  let row : Evidence :=
    { id := nextKey Evidence.id s.evidences, taskId := task.id, addedBy := actorId, evidenceType := et
      title, content, contentHash := h, createdAt := clock }
  return executionAudit { s with evidences := s.evidences ++ [row] } actorId "WORKFLOW_EVIDENCE_ADDED"
    task.id s!"type={et};hash={h}"

/-- `add_checklist_item` -/
def addChecklistItem (s : State) (clock : Int) (task : Task) (actorId : Nat) (label : String)
    (required : Bool) : Act State := do
  refuse (¬ executing s task.id actorId)
    "A tarefa precisa estar em execução pelo administrador responsável."
  let label := strip label
  refuse (label = "") "O item do checklist não pode ser vazio."
  let row : ChecklistItem :=
    { id := nextKey ChecklistItem.id s.checklist, taskId := task.id, label, required, createdAt := clock }
  let short := String.ofList (label.toList.take 120)
  return executionAudit { s with checklist := s.checklist ++ [row] } actorId
    "WORKFLOW_CHECKLIST_ITEM_ADDED" task.id
    s!"required={boolText required};label={short}"

/-- `complete_checklist_item` -/
def completeChecklistItem (s : State) (clock : Int) (row : ChecklistItem) (actorId : Nat) : Act State := do
  refuse (¬ executing s row.taskId actorId) "Somente o administrador responsável pode concluir o checklist."
  if row.completed then return s
  return executionAudit { s with
      checklist := replace ChecklistItem.id s.checklist { row with
        completed := true, completedBy := some actorId, completedAt := some clock } }
    actorId "WORKFLOW_CHECKLIST_ITEM_COMPLETED" row.taskId s!"item_id={row.id}"

end Evidence

end Caixinha.Model.Workflow
