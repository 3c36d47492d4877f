import Caixinha.Model.LedgerChain

/-! The administrative workflow: tasks and their transitions, the terms they must be done in, and the
escalation of the overdue ones. -/
namespace Caixinha.Model.Workflow

open Caixinha.Library Table Fallible Json

section Words

/-- What `str.upper` makes of a character, as far as the words below depend on it. -/
def upperChar (c : Char) : List Char :=
  if c = 'ß' then ['S', 'S'] else if c = 'ı' then ['I'] else if c = 'ſ' then ['S'] else [c.toUpper]

def upper (s : String) : String := String.ofList (s.toList.flatMap upperChar)

inductive TaskStatus where
  | PENDING | IN_ANALYSIS | ASSIGNED | IN_EXECUTION | COMPLETED
  deriving DecidableEq, Repr

def TaskStatus.text : TaskStatus → String
  | .PENDING => "PENDING"
  | .IN_ANALYSIS => "IN_ANALYSIS"
  | .ASSIGNED => "ASSIGNED"
  | .IN_EXECUTION => "IN_EXECUTION"
  | .COMPLETED => "COMPLETED"

def statuses : List TaskStatus := [.PENDING, .IN_ANALYSIS, .ASSIGNED, .IN_EXECUTION, .COMPLETED]

inductive Priority where
  | LOW | MEDIUM | HIGH | CRITICAL
  deriving DecidableEq, Repr

def Priority.text : Priority → String
  | .LOW => "LOW"
  | .MEDIUM => "MEDIUM"
  | .HIGH => "HIGH"
  | .CRITICAL => "CRITICAL"

def priorities : List Priority := [.LOW, .MEDIUM, .HIGH, .CRITICAL]

inductive SlaStatus where
  | ON_TRACK | OVERDUE | COMPLETED
  deriving DecidableEq, Repr

inductive Level where
  | NONE | HIGH | CRITICAL
  deriving DecidableEq, Repr

def Level.text : Level → String
  | .NONE => "NONE"
  | .HIGH => "HIGH"
  | .CRITICAL => "CRITICAL"

/-- `LEVEL_RANK` -/
def Level.rank : Level → Nat
  | .NONE => 0
  | .HIGH => 1
  | .CRITICAL => 2

/-- `PRIORITY_LEVEL` -/
def Priority.level : Priority → Level
  | .LOW => .NONE
  | .MEDIUM => .HIGH
  | .HIGH => .HIGH
  | .CRITICAL => .CRITICAL

end Words

section Rows

structure Task where
  id : Nat
  actionCode : String
  status : TaskStatus := .PENDING
  priority : Priority
  assignedTo : Option Nat
  dueAt : Option Int
  description : Option String
  createdBy : Nat
  createdAt : Int
  updatedAt : Int
  slaStatus : SlaStatus := .ON_TRACK
  escalationLevel : Level := .NONE
  escalatedAt : Option Int := none
  deriving DecidableEq, Repr

structure Event where
  id : Nat
  taskId : Nat
  actorId : Nat
  fromStatus : TaskStatus
  toStatus : TaskStatus
  note : Option String
  evidence : Option String
  eventHash : String
  createdAt : Int
  deriving DecidableEq, Repr

inductive ActionStatus where
  | OPEN | ACKNOWLEDGED
  deriving DecidableEq, Repr

structure ActionRecord where
  id : Nat
  actionCode : String
  status : ActionStatus := .OPEN
  assignedTo : Option Nat := none
  acknowledgedBy : Option Nat := none
  acknowledgedAt : Option Int := none
  snapshotId : Option Nat := none
  note : Option String
  createdAt : Int
  updatedAt : Int
  sourceTaskId : Option Nat := none
  escalationLevel : Level := .NONE
  deriving DecidableEq, Repr

inductive ExecutionState where
  | PENDING_ACCEPTANCE | ACCEPTED | IN_EXECUTION | COMPLETED
  deriving DecidableEq, Repr

def ExecutionState.text : ExecutionState → String
  | .PENDING_ACCEPTANCE => "PENDING_ACCEPTANCE"
  | .ACCEPTED => "ACCEPTED"
  | .IN_EXECUTION => "IN_EXECUTION"
  | .COMPLETED => "COMPLETED"

inductive QueueStatus where
  | READY | ASSIGNED | IN_PROGRESS | ESCALATED | COMPLETED
  deriving DecidableEq, Repr

def QueueStatus.text : QueueStatus → String
  | .READY => "READY"
  | .ASSIGNED => "ASSIGNED"
  | .IN_PROGRESS => "IN_PROGRESS"
  | .ESCALATED => "ESCALATED"
  | .COMPLETED => "COMPLETED"

structure Orchestration where
  id : Nat
  taskId : Nat
  queueStatus : QueueStatus
  assignedTo : Option Nat
  priority : Priority
  slaStatus : String
  escalationLevel : Level
  orchestrationScore : Int
  lastEvaluatedAt : Int
  createdAt : Int
  updatedAt : Int
  executionState : ExecutionState := .PENDING_ACCEPTANCE
  acceptedBy : Option Nat := none
  acceptedAt : Option Int := none
  startedBy : Option Nat := none
  startedAt : Option Int := none
  completedBy : Option Nat := none
  completedAt : Option Int := none
  deriving DecidableEq, Repr

structure Evidence where
  id : Nat
  taskId : Nat
  addedBy : Nat
  evidenceType : String
  title : Option String
  content : String
  contentHash : String
  createdAt : Int
  deriving DecidableEq, Repr

structure ChecklistItem where
  id : Nat
  taskId : Nat
  label : String
  required : Bool
  completed : Bool := false
  completedBy : Option Nat := none
  completedAt : Option Int := none
  createdAt : Int
  deriving DecidableEq, Repr

structure EvidenceFile where
  id : Nat
  evidenceId : Nat
  version : Nat
  originalName : String
  storageKey : String
  contentType : String
  sizeBytes : Nat
  sha256 : String
  uploadedBy : Nat
  createdAt : Int
  revokedAt : Option Int := none
  deriving DecidableEq, Repr

/-- A verification of a file; its time is an instant that `isoformat` can write. -/
structure IntegrityEvent where
  id : Nat
  fileId : Nat
  taskId : Nat
  eventType : String
  expectedSha256 : String
  observedSha256 : Option String
  status : String
  actorId : Option Nat
  previousEventHash : Option String
  eventHash : String
  details : Option String
  createdAt : Instant
  deriving DecidableEq

structure AuditLog where
  actorUserId : Option Nat
  action : String
  entityType : String
  entityId : String
  details : String
  deriving DecidableEq, Repr

end Rows

structure State where
  tasks : List Task := []
  events : List Event := []
  actions : List ActionRecord := []
  orchestrations : List Orchestration := []
  evidences : List Evidence := []
  checklist : List ChecklistItem := []
  files : List EvidenceFile := []
  integrityEvents : List IntegrityEvent := []
  auditLogs : List AuditLog := []
  deriving DecidableEq

/-- How a request fails: an error of the services, a key a dictionary has not, an attribute of a row
that is not there, or the 404 of a handler. -/
inductive Failure where
  | raised (e : Error)
  | keyError (key : String)
  | attributeError (name : String)
  | notFound (detail : String)
  deriving DecidableEq, Repr

abbrev Act := Except Failure

def refuse (p : Prop) [Decidable p] (message : String) : Act Unit :=
  if p then .error (.raised (.valueError message)) else .ok ()

@[simp] theorem refuse_eq_ok {p : Prop} [Decidable p] {message : String} {u : Unit} :
    refuse p message = .ok u ↔ ¬ p := by
  unfold refuse
  split <;> simp [*]

def requireUnique (p : Prop) [Decidable p] (constraint : String) : Act Unit :=
  if p then .ok () else .error (.raised (.integrityError constraint))

@[simp] theorem requireUnique_eq_ok {p : Prop} [Decidable p] {constraint : String} {u : Unit} :
    requireUnique p constraint = .ok u ↔ p := by
  unfold requireUnique
  split <;> simp [*]

def orFail {α : Type} (found : Option α) (failure : Failure) : Act α :=
  match found with
  | some a => .ok a
  | none => .error failure

@[simp] theorem orFail_eq_ok {α : Type} {found : Option α} {failure : Failure} {a : α} :
    orFail found failure = .ok a ↔ found = some a := by
  cases found <;> simp [orFail]

namespace State
variable (s : State)

def task? (id : Nat) : Option Task := lookup Task.id s.tasks id

def putTask (task : Task) : State := { s with tasks := replace Task.id s.tasks task }

def audit (rows : List AuditLog) : State := { s with auditLogs := s.auditLogs ++ rows }

end State

section Transitions

/-- `allowed` of `transition` -/
def TaskStatus.allowed : TaskStatus → List TaskStatus
  | .PENDING => [.IN_ANALYSIS, .ASSIGNED]
  | .IN_ANALYSIS => [.ASSIGNED, .IN_EXECUTION, .COMPLETED]
  | .ASSIGNED => [.IN_ANALYSIS, .IN_EXECUTION]
  | .IN_EXECUTION => [.IN_ANALYSIS, .COMPLETED]
  | .COMPLETED => []

/-- A text that is there and not empty. -/
def given (text : Option String) : Bool := text.any (· ≠ "")

/-- `create_task` -/
def createTask (s : State) (clock : Int) (actionCode : String) (actorId : Nat) (priority : String)
    (assignedTo : Option Nat) (dueAt : Option Int) (description : Option String) : Act (State × Task) := do
  let priority ← orFail (priorities.find? (fun p => p.text = priority))
    (.raised (.valueError "Prioridade inválida."))
  let task : Task :=
    { id := nextKey Task.id s.tasks, actionCode, priority, assignedTo, dueAt, description
      createdBy := actorId, createdAt := clock, updatedAt := clock }
  return ({ s with tasks := s.tasks ++ [task] }.audit
    [{ actorUserId := some actorId, action := "WORKFLOW_TASK_CREATED", entityType := "OPERATIONAL_WORKFLOW"
       entityId := toString task.id, details := actionCode }], task)

/-- `str` of a `datetime`: as `isoformat`, with a blank between the day and the time. -/
def datetimeText (t : Int) : String :=
  String.ofList ((Calendar.isoUtc t).toList.map fun c => if c = 'T' then ' ' else c)

def eventHash (env : Env) (e : Event) : String :=
  env.sha256 (dumpsAscii (.obj [("task_id", idJson e.taskId), ("actor_id", idJson e.actorId),
    ("from_status", .str e.fromStatus.text), ("to_status", .str e.toStatus.text),
    ("note", nullable .str e.note), ("evidence", nullable .str e.evidence),
    ("created_at", .str (datetimeText e.createdAt))]))

def newEvent (env : Env) (s : State) (clock : Int) (task : Task) (actorId : Nat) (status : TaskStatus)
    (note evidence : Option String) : Event :=
  let e : Event :=
    { id := nextKey Event.id s.events, taskId := task.id, actorId, fromStatus := task.status
      toStatus := status, note, evidence, eventHash := "pending", createdAt := clock }
  { e with eventHash := eventHash env e }

/-- `transition` -/
def transition (env : Env) (s : State) (clock : Int) (task : Task) (actorId : Nat) (status : String)
    (note evidence : Option String) (assignedTo : Option Nat) : Act (State × Task) := do
  let status ← orFail (statuses.find? (fun x => x.text = upper status))
    (.raised (.valueError "Status de workflow inválido."))
  refuse (status ∉ task.status.allowed)
    s!"Transição não permitida: {task.status.text} -> {status.text}."
  refuse (status = .COMPLETED ∧ ¬ (given note ∨ given evidence))
    "Conclusão exige comentário ou evidência."
  let moved := { task with status, updatedAt := clock, assignedTo := assignedTo <|> task.assignedTo }
  let event := newEvent env s clock task actorId status note evidence
  return ({ s.putTask moved with events := s.events ++ [event] }.audit
    [{ actorUserId := some actorId, action := "WORKFLOW_TASK_TRANSITION"
       entityType := "OPERATIONAL_WORKFLOW", entityId := toString task.id
       details := s!"{event.fromStatus.text}->{status.text}" }], moved)

end Transitions

section Terms

/-- `PRIORITY_HOURS` -/
def Priority.slaHours : Priority → Int
  | .CRITICAL => 4
  | .HIGH => 12
  | .MEDIUM => 24
  | .LOW => 72

def Task.due (task : Task) : Int := task.dueAt.getD (task.createdAt + task.priority.slaHours * 3600000000)

def Task.overdue (task : Task) (now : Int) : Bool := task.status ≠ .COMPLETED ∧ task.due < now

def Task.slaLevel (task : Task) (now : Int) : Level :=
  if task.overdue now ∧ task.priority = .CRITICAL then .CRITICAL
  else if task.overdue now then .HIGH
  else .NONE

/-- `enrich_task_sla` -/
def enrichTaskSla (task : Task) (now : Int) : List (String × Value) :=
  [("due_at", .str (Calendar.isoUtc task.due)), ("overdue", .bool (task.overdue now)),
    ("remaining_seconds", .int (if task.overdue now then 0 else max 0 ((task.due - now) / 1000000))),
    ("sla_hours", .int task.priority.slaHours), ("escalation_level", .str (task.slaLevel now).text)]

/-- `info[key]` -/
def item (info : List (String × Value)) (key : String) : Act Value :=
  orFail (get? (.obj info) key) (.keyError key)

/-- The first time a task is found overdue. -/
def Task.becomesOverdue (task : Task) (now : Int) : Bool :=
  task.overdue now ∧ task.status ≠ .COMPLETED ∧ task.slaStatus ≠ .OVERDUE

/-- What `apply_sla` makes of a task; a stored task has a term status. -/
def applySla (task : Task) (now : Int) : Task :=
  if task.becomesOverdue now then
    { task with slaStatus := .OVERDUE, escalatedAt := some now, escalationLevel := task.slaLevel now }
  else if task.status = .COMPLETED then { task with slaStatus := .COMPLETED }
  else task

def slaAudit (task : Task) (actorId : Option Nat) (now : Int) : List AuditLog :=
  if task.becomesOverdue now ∧ actorId.any (· ≠ 0) then
    [{ actorUserId := actorId, action := "WORKFLOW_SLA_OVERDUE", entityType := "OperationalWorkflowTask"
       entityId := toString task.id
       details := s!"priority={task.priority.text};level={(task.slaLevel now).text}" }]
  else []

/-- `apply_sla` -/
def applySlaTo (s : State) (task : Task) (actorId : Option Nat) (now : Int) : State × Task :=
  let after := applySla task now
  ((s.putTask after).audit (slaAudit task actorId now), after)

/-- `escalation_level` -/
def escalationLevel (task : Task) (now : Int) : Level :=
  if ¬ task.overdue now ∨ task.status = .COMPLETED then .NONE else task.priority.level

end Terms

end Caixinha.Model.Workflow
