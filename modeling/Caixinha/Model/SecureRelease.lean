import Caixinha.Model.Operations

/-! The guarded release of a loan: one administrator authorizes on a governance evaluation, and
within a quarter of an hour another one confirms on an evaluation that must not have changed. -/
namespace Caixinha.Model.SecureRelease

open Caixinha.Library Table Fallible Json

inductive Decision where
  | ALLOW | REVIEW | BLOCK
  deriving DecidableEq, Repr

def Decision.text : Decision → String
  | .ALLOW => "ALLOW"
  | .REVIEW => "REVIEW"
  | .BLOCK => "BLOCK"

/-- What `evaluate_loan_pipeline` answers; `rest` are the reports of its parts. -/
structure Pipeline where
  decision : Decision
  errors : List String
  rest : List (String × Value)

/-- What `optimize_capacity` answers. -/
structure CapacityReport where
  capacity : Int
  rest : List (String × Value)

structure AllocationItem where
  memberId : Nat
  governedAmount : Int
  rest : List (String × Value)

/-- What `build_governance_allocation` answers. -/
structure GovernedAllocation where
  items : List AllocationItem
  rest : List (String × Value)

def Pipeline.json (p : Pipeline) : Value :=
  .obj (("decision", .str p.decision.text) :: ("errors", .arr (p.errors.map .str)) :: p.rest)

def CapacityReport.json (c : CapacityReport) : Value := .obj (("capacity", moneyJson c.capacity) :: c.rest)

def AllocationItem.json (x : AllocationItem) : Value :=
  .obj (("member_id", idJson x.memberId) :: ("governed_amount", moneyJson x.governedAmount) :: x.rest)

def GovernedAllocation.json (g : GovernedAllocation) : Value :=
  .obj (("items", .arr (g.items.map AllocationItem.json)) :: g.rest)

/-- What the other services answer while a request runs. -/
structure Assessments where
  /-- The group of a member, where that group is there. -/
  group : Nat → Option Nat
  evaluateLoanPipeline : Loan → Tx Pipeline
  optimizeCapacity : Nat → Nat → Int → String → Tx CapacityReport
  buildGovernanceAllocation : Nat → Int → Int → Tx GovernedAllocation

structure Checks where
  approvalPipeline : Bool
  capacity : Bool
  allocationRecommendation : Bool
  noBlockingErrors : Bool
  deriving DecidableEq, Repr

def Checks.json (c : Checks) : Value :=
  .obj [("approval_pipeline", .bool c.approvalPipeline), ("capacity", .bool c.capacity),
    ("allocation_recommendation", .bool c.allocationRecommendation),
    ("no_blocking_errors", .bool c.noBlockingErrors)]

/-- The result of `evaluate_integrated` before it is hashed. -/
structure Evaluation where
  loanId : Nat
  groupId : Nat
  memberId : Nat
  requestedAmount : Int
  scenario : String
  horizonMonths : Int
  finalDecision : Decision
  checks : Checks
  approvalPipeline : Pipeline
  capacity : CapacityReport
  allocation : GovernedAllocation
  memberAllocation : Option AllocationItem

namespace Evaluation

def releaseReady (r : Evaluation) : Bool := r.finalDecision = .ALLOW

def fields (r : Evaluation) : List (String × Value) :=
  [("schema", .str "v0.58"), ("loan_id", idJson r.loanId), ("group_id", idJson r.groupId),
    ("member_id", idJson r.memberId), ("requested_amount", moneyJson r.requestedAmount),
    ("scenario", .str r.scenario), ("horizon_months", .int r.horizonMonths),
    ("final_decision", .str r.finalDecision.text), ("checks", r.checks.json),
    ("approval_pipeline", r.approvalPipeline.json), ("capacity", r.capacity.json),
    ("allocation", r.allocation.json),
    ("member_allocation", nullable AllocationItem.json r.memberAllocation),
    ("release_ready", .bool r.releaseReady),
    ("note", .str "Motor integrado de governança é pré-decisório e não cria, aprova ou libera empréstimos.")]

def integrityHash (env : Env) (r : Evaluation) : String := env.sha256 (dumps (.obj r.fields))

/-- The result with its hash, as it is stored and answered. -/
def json (env : Env) (r : Evaluation) : Value :=
  .obj (r.fields ++ [("integrity_hash", .str (r.integrityHash env))])

/-- `_fresh` -/
def fresh (r : Evaluation) : Bool := r.finalDecision = .ALLOW && r.releaseReady

end Evaluation

def checksOf (requested : Int) (pipeline : Pipeline) (capacity : CapacityReport)
    (memberItem : Option AllocationItem) : Checks where
  approvalPipeline := pipeline.decision = .ALLOW
  capacity := requested ≤ capacity.capacity
  allocationRecommendation := requested ≤ (memberItem.map AllocationItem.governedAmount).getD 0
  noBlockingErrors := pipeline.errors.isEmpty

def decide_ (pipeline : Pipeline) (checks : Checks) : Decision :=
  if pipeline.decision = .BLOCK ∨ pipeline.errors ≠ [] then .BLOCK
  else if ¬ checks.capacity ∨ ¬ checks.allocationRecommendation then .REVIEW
  else if pipeline.decision = .REVIEW then .REVIEW
  else .ALLOW

inductive AuthorizationStatus where
  | AUTHORIZED | CONFIRMED | EXECUTED | EXPIRED | STALE
  deriving DecidableEq, Repr

def AuthorizationStatus.text : AuthorizationStatus → String
  | .AUTHORIZED => "AUTHORIZED"
  | .CONFIRMED => "CONFIRMED"
  | .EXECUTED => "EXECUTED"
  | .EXPIRED => "EXPIRED"
  | .STALE => "STALE"

structure SecureReleaseAuthorization where
  id : Nat
  loanId : Nat
  groupId : Nat
  governanceHash : String
  governanceSnapshot : String
  status : AuthorizationStatus
  authorizedBy : Nat
  authorizedAt : Int
  expiresAt : Int
  confirmedBy : Option Nat := none
  confirmedAt : Option Int := none
  confirmationCount : Nat := 1
  executedAt : Option Int := none
  executionHash : Option String := none
  deriving DecidableEq, Repr

structure AuditLog where
  actorUserId : Nat
  action : String
  entityId : String
  details : String
  deriving DecidableEq, Repr

/-- The money of the group, the authorizations and the audit rows that this service writes. -/
structure State where
  db : Db
  authorizations : List SecureReleaseAuthorization := []
  auditLogs : List AuditLog := []

/-- How a request fails: an error of the services, or one whose detail is a dictionary. -/
inductive Failure where
  | raised (e : Error)
  | governanceBlocked (governance : Evaluation)
  | authorizationExpired
  | governanceStale (current : Evaluation)
  /-- `require_admin` and the bounds of the query parameters stand before the handler. -/
  | forbidden
  | unprocessable

abbrev Request (α : Type) := Except Failure α

def raising {α : Type} (x : Tx α) : Request α := x.mapError .raised

@[simp] theorem raising_eq_ok {α : Type} {x : Tx α} {a : α} : raising x = .ok a ↔ x = .ok a := by
  cases x <;> simp [raising, Except.mapError]

def require (p : Prop) [Decidable p] (otherwise_ : Failure) : Request Unit :=
  if p then .ok () else .error otherwise_

@[simp] theorem require_eq_ok {p : Prop} [Decidable p] {e : Failure} {u : Unit} :
    require p e = .ok u ↔ p := by
  unfold require
  split <;> simp [*]

/-- `FRESHNESS_MINUTES` as a time delta. -/
def freshness : Int := 15 * 60 * 1000000

section Service
variable (env : Env) (upper : String → String)

/-- `evaluate_integrated`; `upper` is `str.upper`. -/
def evaluateIntegrated (a : Assessments) (db : Db) (loanId : Nat) (horizonMonths : Int)
    (scenario : String) : Tx Evaluation := do
  let loan ← orRefuse (db.loan? loanId) "Empréstimo não encontrado."
  let member ← orRefuse (db.member? loan.memberId) "Participante não encontrado."
  let groupId ← orRefuse (a.group member.id) "Grupo não encontrado."
  let pipeline ← a.evaluateLoanPipeline loan
  let capacity ← a.optimizeCapacity groupId member.id horizonMonths scenario
  let governed ← a.buildGovernanceAllocation groupId capacity.capacity loan.principal
  let memberItem := governed.items.find? (fun x => x.memberId = member.id)
  let checks := checksOf loan.principal pipeline capacity memberItem
  return { loanId := loan.id, groupId, memberId := member.id, requestedAmount := loan.principal
           scenario := upper scenario, horizonMonths, finalDecision := decide_ pipeline checks, checks
           approvalPipeline := pipeline, capacity, allocation := governed
           memberAllocation := memberItem }

/-- An authorization of the loan still waits. -/
def hasOpen (s : State) (loanId : Nat) : Bool :=
  s.authorizations.any (fun r => r.loanId = loanId ∧ (r.status = .AUTHORIZED ∨ r.status = .CONFIRMED))

def newAuthorization (s : State) (clock : Int) (loanId actorId : Nat) (result : Evaluation) :
    SecureReleaseAuthorization where
  id := nextKey SecureReleaseAuthorization.id s.authorizations
  loanId := loanId
  groupId := result.groupId
  governanceHash := result.integrityHash env
  governanceSnapshot := dumps (result.json env)
  status := .AUTHORIZED
  authorizedBy := actorId
  authorizedAt := clock
  expiresAt := clock + freshness

def authorizedLog (row : SecureReleaseAuthorization) (actorId : Nat) : AuditLog where
  actorUserId := actorId
  action := "SECURE_RELEASE_AUTHORIZED"
  entityId := toString row.loanId
  details := dumps (.obj [("governance_hash", .str row.governanceHash),
    ("expires_at", .str (Calendar.isoUtc row.expiresAt))])

/-- `create_authorization` -/
def createAuthorization (a : Assessments) (s : State) (clock : Int) (loanId actorId : Nat)
    (horizonMonths : Int) (scenario : String) :
    Request (State × SecureReleaseAuthorization × Evaluation) := do
  let loan ← raising (orRefuse (s.db.loan? loanId) "Empréstimo não encontrado.")
  raising (refuseIf (loan.status ≠ .APPROVED)
    "Somente empréstimos aprovados podem entrar na liberação segura.")
  raising (refuseIf (hasOpen s loanId)
    "Já existe uma autorização de liberação em andamento para este empréstimo.")
  let result ← raising (evaluateIntegrated upper a s.db loanId horizonMonths scenario)
  require result.fresh (.governanceBlocked result)
  let row := newAuthorization env s clock loanId actorId result
  return ({ s with
    authorizations := s.authorizations ++ [row]
    auditLogs := s.auditLogs ++ [authorizedLog row actorId] }, row, result)

/-- What identifies an execution. -/
def executionFields (row : SecureReleaseAuthorization) (actorId : Nat) : Value :=
  .obj [("authorization_id", idJson row.id), ("loan_id", idJson row.loanId),
    ("governance_hash", .str row.governanceHash), ("authorized_by", idJson row.authorizedBy),
    ("confirmed_by", idJson actorId), ("status", .str AuthorizationStatus.EXECUTED.text)]

def executed (row : SecureReleaseAuthorization) (clock : Int) (actorId : Nat) :
    SecureReleaseAuthorization :=
  { row with
    confirmedBy := some actorId, confirmedAt := some clock, confirmationCount := 2, status := .EXECUTED
    executedAt := some clock, executionHash := some (env.sha256 (dumps (executionFields row actorId))) }

def executedLog (row : SecureReleaseAuthorization) (actorId : Nat) : AuditLog where
  actorUserId := actorId
  action := "SECURE_RELEASE_EXECUTED"
  entityId := toString row.loanId
  details := dumps (.obj [("authorization_id", idJson row.id),
    ("execution_hash", nullable .str row.executionHash)])

/-- `confirm_and_release`. What it sets before it raises (`EXPIRED`, `STALE` and their audit rows) goes
with the rollback. -/
def confirmAndRelease (a : Assessments) (s : State) (clock : Int) (authorizationId actorId : Nat) :
    Request (State × SecureReleaseAuthorization × Evaluation) := do
  let row ← raising (orRefuse (lookup SecureReleaseAuthorization.id s.authorizations authorizationId)
    "Autorização de liberação não encontrada.")
  raising (refuseIf (row.status ≠ .AUTHORIZED) "Autorização não está aguardando segunda confirmação.")
  raising (refuseIf (row.authorizedBy = actorId)
    "A segunda confirmação deve ser feita por um administrador diferente.")
  require (clock < row.expiresAt) .authorizationExpired
  let current ← raising (evaluateIntegrated upper a s.db row.loanId 12 "BASE")
  require (current.fresh ∧ current.integrityHash env = row.governanceHash) (.governanceStale current)
  let (db, _) ← raising (releaseLoan env s.db clock row.loanId)
  let row := executed env row clock actorId
  -- the unique column
  raising (requireConstraint (s.authorizations.all fun r => r.executionHash ≠ row.executionHash)
    "secure_release_authorizations.execution_hash")
  return ({ db
            authorizations := replace SecureReleaseAuthorization.id s.authorizations row
            auditLogs := s.auditLogs ++ [executedLog row actorId] }, row, current)

def requireAdmin (s : State) (userId : Nat) : Request Unit :=
  require ((s.db.user? userId).any fun u => u.isActive && u.isAdmin) .forbidden

/-- `POST /admin/secure-release/loans/{loan_id}/authorize` -/
def authorize (a : Assessments) (s : State) (clock : Int) (loanId adminId : Nat) (horizonMonths : Int)
    (scenario : String) : Request (State × SecureReleaseAuthorization × Evaluation) := do
  requireAdmin s adminId
  require (1 ≤ horizonMonths ∧ horizonMonths ≤ 36) .unprocessable
  createAuthorization env upper a s clock loanId adminId horizonMonths scenario

/-- `POST /admin/secure-release/{authorization_id}/confirm` -/
def confirm (a : Assessments) (s : State) (clock : Int) (authorizationId adminId : Nat) :
    Request (State × SecureReleaseAuthorization × Evaluation) := do
  requireAdmin s adminId
  confirmAndRelease env upper a s clock authorizationId adminId

/-- What reaches the program: an operation on the money, or a request to this service with what the
other services answer during it. -/
inductive Call where
  | money (op : Operation)
  | authorize (loanId adminId : Nat) (horizonMonths : Int) (scenario : String) (a : Assessments)
  | confirm (authorizationId adminId : Nat) (a : Assessments)

/-- A request that fails is rolled back. -/
def orKeep (s : State) (r : Request (State × SecureReleaseAuthorization × Evaluation)) : State :=
  match r with
  | .ok (s', _) => s'
  | .error _ => s

def call (s : State) : Int × Call → State
  | (clock, .money op) => { s with db := execute env s.db (clock, op) }
  | (clock, .authorize loanId adminId horizonMonths scenario a) =>
    orKeep s (authorize env upper a s clock loanId adminId horizonMonths scenario)
  | (clock, .confirm authorizationId adminId a) =>
    orKeep s (confirm env upper a s clock authorizationId adminId)

def runCalls (s : State) (calls : List (Int × Call)) : State := calls.foldl (call env upper) s

end Service

end Caixinha.Model.SecureRelease
