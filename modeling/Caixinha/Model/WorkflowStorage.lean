import Caixinha.Model.WorkflowExecution

/-! The files of the workflow evidence, the chain of their verifications and the compliance report. -/
namespace Caixinha.Model.Workflow

open Caixinha.Library Table Fallible Json

section Names

/-- The characters `SAFE_NAME_RE` keeps. -/
def safeChar (c : Char) : Bool := c.isAlphanum || c = '.' || c = '_' || c = '-'

/-- `SAFE_NAME_RE.sub("_", ...)`: every run of other characters becomes one underscore. -/
def squeeze : Bool → List Char → List Char
  | _, [] => []
  | within, c :: cs =>
    if safeChar c then c :: squeeze false cs
    else if within then squeeze true cs
    else '_' :: squeeze true cs

def outer (c : Char) : Bool := c = '.' || c = '_'

/-- `strip("._")` -/
def stripOuter (cs : List Char) : List Char := ((cs.dropWhile outer).reverse.dropWhile outer).reverse

def lastComponent (cs : List Char) : List Char :=
  (cs.reverse.takeWhile (fun c => c ≠ '/' ∧ c ≠ '\\')).reverse

/-- `sanitize_filename` -/
def sanitizeFilename (name : Option String) : List Char :=
  let raw := if given name then (name.getD "").toList else "arquivo".toList
  let raw := (stripOuter (squeeze false (lastComponent raw))).take 255
  if raw = [] then "arquivo".toList else raw

/-- `Path(...).suffix` of a name without separators. -/
def suffix (cs : List Char) : List Char :=
  let ending := (cs.reverse.takeWhile (fun c => c ≠ '.')).reverse
  if ending = [] ∨ cs.length ≤ ending.length + 1 then [] else '.' :: ending

/-- `ALLOWED_EXTENSIONS` -/
def allowedExtensions : List String := [".pdf", ".jpg", ".jpeg", ".png", ".txt", ".csv", ".zip"]

/-- `str.lower` of a character, as far as a media type depends on it; the Kelvin sign is a `k`. -/
def lowerChar (c : Char) : Char := if c.toNat = 0x212A then 'k' else c.toLower

/-- `settings.workflow_evidence_allowed_types` and `settings.workflow_evidence_max_bytes` -/
structure Settings where
  allowedTypes : List String
  maxBytes : Int

/-- An uploaded file: its metadata, its size and the digest of what is read of it. -/
structure Upload where
  filename : Option String
  contentType : Option String
  size : Nat
  digest : String

def mediaType (contentType : Option String) : String :=
  let raw := if given contentType then contentType.getD "" else "application/octet-stream"
  strip (String.ofList ((raw.toList.map lowerChar).takeWhile (· ≠ ';')))

/-- `validate_upload_metadata` -/
def validateUploadMetadata (settings : Settings) (upload : Upload) : Act (String × String) := do
  let safe := sanitizeFilename upload.filename
  let ext := String.ofList ((suffix safe).map Char.toLower)
  let ctype := mediaType upload.contentType
  refuse (ext ∉ allowedExtensions) "Extensão de arquivo não permitida."
  refuse (ctype ∉ settings.allowedTypes) "Tipo MIME não permitido."
  return (String.ofList safe, ctype)

end Names

section Files

/-- `_next_version` -/
def nextVersion (s : State) (evidenceId : Nat) : Nat :=
  ((s.files.filter (fun f => f.evidenceId = evidenceId)).map EvidenceFile.version).foldr max 0 + 1

/-- `upload_file`; `hex` is the random part of the storage key. -/
def uploadFile (settings : Settings) (s : State) (clock : Int) (task : Task) (evidence : Evidence)
    (actorId : Nat) (upload : Upload) (hex : String) : Act (State × EvidenceFile) := do
  refuse (¬ executing s task.id actorId)
    "Somente o administrador que iniciou a execução pode anexar arquivos."
  refuse (evidence.taskId ≠ task.id) "A evidência não pertence à tarefa informada."
  refuse (evidence.evidenceType ≠ "ATTACHMENT") "A evidência precisa ser do tipo ATTACHMENT."
  let (safeName, ctype) ← validateUploadMetadata settings upload
  refuse (settings.maxBytes ≤ 0) "Limite de tamanho de arquivo inválido."
  refuse (settings.maxBytes < upload.size) s!"Arquivo excede o limite de {settings.maxBytes} bytes."
  let storageKey := s!"{task.id}/{hex}.bin"
  requireUnique (s.files.all fun f => f.storageKey ≠ storageKey)
    "workflow_execution_evidence_files.storage_key"
  let row : EvidenceFile :=
    { id := nextKey EvidenceFile.id s.files, evidenceId := evidence.id
      version := nextVersion s evidence.id, originalName := safeName, storageKey, contentType := ctype
      sizeBytes := upload.size, sha256 := upload.digest, uploadedBy := actorId, createdAt := clock }
  return (executionAudit { s with files := s.files ++ [row] } actorId "WORKFLOW_EVIDENCE_FILE_UPLOADED"
    task.id s!"file_id={row.id};version={row.version};bytes={upload.size};sha256={row.sha256}", row)

end Files

section Integrity
variable (env : Env)

/-- `ORDER BY id` -/
def eventsInOrder (events : List IntegrityEvent) : List IntegrityEvent :=
  events.insertionSort (fun a b => a.id ≤ b.id)

/-- `_last_hash` -/
def lastHash (s : State) : Option String :=
  (eventsInOrder s.integrityEvents).getLast?.map IntegrityEvent.eventHash

/-- What an event is hashed over. -/
def IntegrityEvent.payload (e : IntegrityEvent) : Value :=
  .obj [("file_id", idJson e.fileId), ("task_id", idJson e.taskId), ("event_type", .str e.eventType),
    ("expected_sha256", .str e.expectedSha256), ("observed_sha256", nullable .str e.observedSha256),
    ("status", .str e.status), ("actor_id", nullable idJson e.actorId),
    ("previous_event_hash", nullable .str e.previousEventHash), ("details", nullable .str e.details),
    ("created_at", .str (Calendar.isoUtc e.createdAt.val))]

def calculatedHash (e : IntegrityEvent) : String := env.sha256 (dumps e.payload)

/-- `_record` -/
def record (s : State) (clock : Instant) (file : EvidenceFile) (status : String) (observed : Option String)
    (actorId : Option Nat) (details : Option String) : Act (State × IntegrityEvent) := do
  let evidence ← orFail (lookup Evidence.id s.evidences file.evidenceId) (.attributeError "task_id")
  let e : IntegrityEvent :=
    { id := nextKey IntegrityEvent.id s.integrityEvents, fileId := file.id, taskId := evidence.taskId
      eventType := "VERIFY", expectedSha256 := file.sha256, observedSha256 := observed, status, actorId
      previousEventHash := lastHash s, eventHash := "", details, createdAt := clock }
  let e := { e with eventHash := calculatedHash env e }
  return ({ s with integrityEvents := s.integrityEvents ++ [e] }, e)

/-- `verify_file`; `disk` answers the digest of what is stored under a key, or that nothing is. -/
def verifyFile (disk : String → Act (Option String)) (s : State) (clock : Instant) (fileId : Nat)
    (actorId : Option Nat) : Act (State × IntegrityEvent) := do
  let row ← orFail (lookup EvidenceFile.id s.files fileId)
    (.raised (.valueError "Arquivo não encontrado."))
  if row.revokedAt.isSome then
    record env s clock row "REVOKED" none actorId (some "Arquivo revogado.")
  else
    match ← disk row.storageKey with
    | none => record env s clock row "MISSING" none actorId (some "Arquivo físico ausente.")
    | some observed =>
      if observed = row.sha256 then record env s clock row "PASS" (some observed) actorId none
      else
        record env s clock row "MISMATCH" (some observed) actorId (some "SHA-256 diferente do registrado.")

/-- `verify_all` -/
def verifyAll (disk : String → Act (Option String)) (s : State) (clock : Instant) (actorId : Option Nat) :
    Act (State × List IntegrityEvent) :=
  (s.files.insertionSort (fun a b => a.id ≤ b.id)).foldlM (fun (s, events) row => do
    let (s, e) ← verifyFile env disk s clock row.id actorId
    return (s, events ++ [e])) (s, [])

/-- The loop of `verify_chain`. -/
def chainFailures : Option String → List IntegrityEvent → List Nat
  | _, [] => []
  | prev, e :: rest =>
    (if e.previousEventHash ≠ prev ∨ e.eventHash ≠ calculatedHash env e then [e.id] else []) ++
      chainFailures (some e.eventHash) rest

structure ChainReport where
  events : Nat
  valid : Bool
  failures : List Nat
  headHash : Option String
  deriving DecidableEq, Repr

/-- `verify_chain` -/
def verifyChain (events : List IntegrityEvent) : ChainReport :=
  let rows := eventsInOrder events
  { events := rows.length, valid := chainFailures env none rows = [], failures := chainFailures env none rows
    headHash := rows.getLast?.map IntegrityEvent.eventHash }

end Integrity

section Compliance
variable (env : Env)

inductive CheckStatus where
  | PASS | ATTENTION | CRITICAL
  deriving DecidableEq, Repr

structure Check where
  name : String
  status : CheckStatus
  count : Nat
  details : Value

def grade (critical attention : Bool) : CheckStatus :=
  if critical then .CRITICAL else if attention then .ATTENTION else .PASS

/-- The status of the newest verification of a file. -/
def latestStatus (s : State) (fileId : Nat) : Option String :=
  ((eventsInOrder s.integrityEvents).reverse.find? (fun e => e.fileId = fileId)).map IntegrityEvent.status

def filesLast (s : State) (status : Option String) : Nat :=
  (s.files.filter (fun f => latestStatus s f.id = status)).length

def overdueTasks (s : State) (now : Int) : List Task :=
  s.tasks.filter (fun t => t.status ≠ .COMPLETED ∧ t.dueAt.any (· < now))

def anomalous (s : State) (task : Task) : Bool :=
  match orchestrationOf? s task.id with
  | none => task.status ≠ .COMPLETED
  | some o => task.status = .COMPLETED ∧ o.executionState ≠ .COMPLETED

def executionAnomalies (s : State) : List Nat := (s.tasks.filter (anomalous s)).map Task.id

def pendingAcceptance (s : State) : Nat :=
  (s.tasks.filter fun t => t.status = .ASSIGNED ∧
    (orchestrationOf? s t.id).any (fun o => o.executionState = .PENDING_ACCEPTANCE)).length

def completedMissing (s : State) : Nat :=
  (s.tasks.filter fun t => t.status = .COMPLETED ∧ requiredPending s t.id ≠ 0).length

/-- `EVIDENCE_INTEGRITY_CHAIN` -/
def chainCheck (s : State) : Check :=
  let integrity := verifyChain env s.integrityEvents
  { name := "EVIDENCE_INTEGRITY_CHAIN", status := grade (¬ integrity.valid) false
    count := s.integrityEvents.length
    details := .obj [("events", idJson integrity.events), ("failures", .arr (integrity.failures.map idJson)),
      ("head_hash", nullable .str integrity.headHash)] }

/-- `EVIDENCE_FILE_HASHES` -/
def fileCheck (s : State) : Check :=
  let mismatches := filesLast s (some "MISMATCH")
  let missing := filesLast s (some "MISSING")
  let neverVerified := filesLast s none
  { name := "EVIDENCE_FILE_HASHES", status := grade (0 < mismatches + missing) (0 < neverVerified)
    count := mismatches + missing + neverVerified
    details := .obj [("mismatch", idJson mismatches), ("missing", idJson missing),
      ("never_verified", idJson neverVerified),
      ("revoked", idJson (s.files.filter (fun f => f.revokedAt.isSome)).length)] }

/-- `WORKFLOW_SLA` -/
def slaCheck (s : State) (now : Int) : Check :=
  let overdue := overdueTasks s now
  let critical := overdue.filter (fun t => t.escalationLevel = .CRITICAL)
  { name := "WORKFLOW_SLA", status := grade (¬ critical.isEmpty) (¬ overdue.isEmpty)
    count := overdue.length
    details := .obj [("overdue", idJson overdue.length), ("critical_overdue", idJson critical.length)] }

/-- `EXECUTION_STATE` -/
def executionCheck (s : State) : Check where
  name := "EXECUTION_STATE"
  status := grade (¬ (executionAnomalies s).isEmpty) (0 < pendingAcceptance s)
  count := (executionAnomalies s).length + pendingAcceptance s
  details := .obj [("anomalies", .arr ((executionAnomalies s).map idJson)),
    ("pending_acceptance", idJson (pendingAcceptance s))]

/-- `CHECKLIST_COMPLETION` -/
def checklistCheck (s : State) : Check where
  name := "CHECKLIST_COMPLETION"
  status := grade (0 < completedMissing s) false
  count := completedMissing s
  details := .obj [("completed_with_required_pending", idJson (completedMissing s))]

/-- The checks of `build_compliance`. -/
def complianceChecks (s : State) (now : Int) : List Check :=
  [chainCheck env s, fileCheck s, slaCheck s now, executionCheck s, checklistCheck s]

/-- The status of `build_compliance`. -/
def complianceStatus (s : State) (now : Int) : CheckStatus :=
  let statuses := (complianceChecks env s now).map Check.status
  grade (.CRITICAL ∈ statuses) (.ATTENTION ∈ statuses)

end Compliance

section Calls
variable (env : Env) (settings : Settings)

/-- What an administrator asks of the workflow. The handler that creates a task passes its code in upper
case; a verification comes with what the disk answers. -/
inductive Call where
  | createTask (actorId : Nat) (actionCode priority : String) (assignedTo : Option Nat)
      (dueAt : Option Int) (description : Option String)
  | transition (taskId actorId : Nat) (status : String) (note evidence : Option String)
      (assignedTo : Option Nat)
  | slaSummary (actorId : Nat)
  | slaTasks (actorId limit : Nat)
  | syncEscalations (actorId : Nat)
  | syncOrchestration (actorId : Nat)
  | syncExecution (actorId : Nat)
  | accept (taskId actorId : Nat)
  | start (taskId actorId : Nat)
  | complete (taskId actorId : Nat) (note evidence : Option String)
  | addEvidence (taskId actorId : Nat) (evidenceType content : String) (title : Option String)
  | addChecklistItem (taskId actorId : Nat) (label : String) (required : Bool)
  | completeChecklistItem (itemId actorId : Nat)
  | upload (taskId evidenceId actorId : Nat) (file : Upload) (hex : String)
  | verifyFile (fileId actorId : Nat) (disk : String → Act (Option String))
  | verifyAll (actorId : Nat) (disk : String → Act (Option String))
  | acknowledge (actorId : Nat) (code : String) (note : Option String) (snapshotId : Option Nat)

def taskOr404 (s : State) (taskId : Nat) : Act Task := orFail (s.task? taskId) (.notFound "Tarefa não encontrada.")

/-- One request at an instant of the clock. -/
def attempt (s : State) (clock : Instant) : Call → Act State
  | .createTask actorId actionCode priority assignedTo dueAt description =>
    Prod.fst <$> createTask s clock actionCode actorId (upper priority) assignedTo dueAt description
  | .transition taskId actorId status note evidence assignedTo => do
    let task ← taskOr404 s taskId
    Prod.fst <$> transition env s clock task actorId status note evidence assignedTo
  | .slaSummary actorId => .ok (slaSummary s actorId clock)
  | .slaTasks actorId limit => .ok (slaTasks s actorId limit clock)
  | .syncEscalations actorId => .ok (syncWorkflowEscalations s (some actorId) clock).1
  | .syncOrchestration actorId => syncWorkflowOrchestration s (some actorId) clock
  | .syncExecution actorId => .ok (syncExecutionStates s (some actorId) clock)
  | .accept taskId actorId => do accept s clock (← taskOr404 s taskId) actorId
  | .start taskId actorId => do start env s clock (← taskOr404 s taskId) actorId
  | .complete taskId actorId note evidence => do
    complete env s clock (← taskOr404 s taskId) actorId note evidence
  | .addEvidence taskId actorId evidenceType content title => do
    addEvidence env s clock (← taskOr404 s taskId) actorId evidenceType content title
  | .addChecklistItem taskId actorId label required => do
    addChecklistItem s clock (← taskOr404 s taskId) actorId label required
  | .completeChecklistItem itemId actorId => do
    let row ← orFail (lookup ChecklistItem.id s.checklist itemId)
      (.notFound "Item de checklist não encontrado.")
    completeChecklistItem s clock row actorId
  | .upload taskId evidenceId actorId file hex => do
    let task ← taskOr404 s taskId
    let evidence ← orFail (lookup Evidence.id s.evidences evidenceId) (.notFound "Evidência não encontrada.")
    Prod.fst <$> uploadFile settings s clock task evidence actorId file hex
  | .verifyFile fileId actorId disk => Prod.fst <$> verifyFile env disk s clock fileId (some actorId)
  | .verifyAll actorId disk => Prod.fst <$> verifyAll env disk s clock (some actorId)
  | .acknowledge actorId code note snapshotId => acknowledge s clock code actorId note snapshotId

/-- A request that fails is rolled back. -/
def execute (s : State) (call : Instant × Call) : State :=
  match attempt env settings s call.1 call.2 with
  | .ok s' => s'
  | .error _ => s

/-- The state after a sequence of requests, each with its reading of the clock. -/
def run (s : State) (calls : List (Instant × Call)) : State := calls.foldl (execute env settings) s

end Calls

end Caixinha.Model.Workflow
