import Caixinha.Model.Values
import Caixinha.Library.Table

/-! The scheduler's runs and units: claims with leases, the transactions of the primitives, and the
daily task on cycle participations that workers execute with them. -/
namespace Caixinha.Model

open Caixinha.Library Table

section Claims

inductive SchedulerStatus where
  | PENDING | RUNNING | SUCCEEDED | FAILED
  deriving DecidableEq, Repr

/-- The columns a claim writes, the same for runs and units. -/
structure Claim where
  status : SchedulerStatus
  attemptCount : Nat
  leaseOwner : Option String
  leaseExpiresAt : Option Int
  startedAt : Option Int
  completedAt : Option Int
  lastError : Option String
  updatedAt : Int
  deriving DecidableEq, Repr

/-- `_owner` -/
def validOwner (owner : String) : Bool := strip owner ≠ "" ∧ owner.length ≤ 120

/-- `_lease_expiry`, in microseconds. -/
def leaseExpiry (now leaseSeconds : Int) : Int := now + leaseSeconds * 1000000

def safeErrorCodes : List String :=
  ["execution_failed", "lease_lost", "dependency_unavailable", "database_unavailable",
    "validation_failed", "unknown"]

def safeErrorCode (value : Option String) : String :=
  match value with
  | some code => if code ∈ safeErrorCodes then code else "execution_failed"
  | none => "execution_failed"

/-- `_claim`; nothing when it refuses or raises. -/
def takeClaim (row : Claim) (owner : String) (now leaseSeconds : Int) : Option Claim :=
  if ¬ validOwner owner ∨ leaseSeconds ≤ 0 then none
  else if row.status = .SUCCEEDED then none
  else if row.status = .RUNNING ∧ row.leaseExpiresAt.any (now < ·) then none
  else some
    { status := .RUNNING
      attemptCount := row.attemptCount + 1
      leaseOwner := some owner
      leaseExpiresAt := some (leaseExpiry now leaseSeconds)
      startedAt := some now
      completedAt := none
      lastError := none
      updatedAt := now }

/-- `_assert_claim` -/
def assertClaim (row : Claim) (owner : String) (now : Int) : Bool :=
  row.status = .RUNNING ∧ validOwner owner ∧ row.leaseOwner = some owner ∧
    row.leaseExpiresAt.any (now < ·)

def succeededClaim (row : Claim) (now : Int) : Claim :=
  { row with
    status := .SUCCEEDED, leaseOwner := none, leaseExpiresAt := none
    completedAt := some now, lastError := none, updatedAt := now }

def failedClaim (row : Claim) (errorCode : Option String) (now : Int) : Claim :=
  { row with
    status := .FAILED, leaseOwner := none, leaseExpiresAt := none
    completedAt := none, lastError := some (safeErrorCode errorCode), updatedAt := now }

/-- The lease of a unit another worker left running is over when its run is claimed anew. -/
def orphaned (claim : Claim) (owner : String) (now : Int) : Claim :=
  if claim.status = .RUNNING ∧ claim.leaseOwner ≠ some owner then
    { claim with leaseExpiresAt := some now }
  else claim

end Claims

section Primitives

structure SchedulerRunUnit where
  id : Nat
  unitKey : String
  claim : Claim
  deriving DecidableEq, Repr

/-- One run with its units, and the units whose effects are committed. -/
structure Schedule where
  run : Claim
  units : List SchedulerRunUnit
  effects : List Nat
  deriving DecidableEq, Repr

namespace Schedule

def unit? (s : Schedule) (id : Nat) : Option SchedulerRunUnit := lookup SchedulerRunUnit.id s.units id

def putUnit (s : Schedule) (unit : SchedulerRunUnit) : Schedule :=
  { s with units := replace SchedulerRunUnit.id s.units unit }

def complete (s : Schedule) : Bool := s.units.all (fun u => u.claim.status = .SUCCEEDED)

/-- `claim_run` -/
def claimRun (s : Schedule) (owner : String) (now leaseSeconds : Int) : Option Schedule :=
  (takeClaim s.run owner now leaseSeconds).map fun run => { s with run }

/-- `renew_run_lease`, its clock read under the lock. -/
def renewRunLease (s : Schedule) (owner : String) (now leaseSeconds : Int) : Option Schedule :=
  if assertClaim s.run owner now ∧ 0 < leaseSeconds then
    some { s with
      run := { s.run with leaseExpiresAt := some (leaseExpiry now leaseSeconds), updatedAt := now } }
  else none

/-- `mark_run_succeeded`, whose lease is checked at `validatedAt`. -/
def markRunSucceeded (s : Schedule) (owner : String) (validatedAt completedAt : Int) :
    Option Schedule :=
  if assertClaim s.run owner validatedAt ∧ s.complete then
    some { s with run := succeededClaim s.run completedAt }
  else none

/-- `mark_run_failed` -/
def markRunFailed (s : Schedule) (owner : String) (errorCode : Option String) (failedAt : Int) :
    Option Schedule :=
  if assertClaim s.run owner failedAt then
    some { s with run := failedClaim s.run errorCode failedAt }
  else none

/-- `get_or_create_unit` -/
def getOrCreateUnit (now : Int) (units : List SchedulerRunUnit) (unitKey : String) :
    List SchedulerRunUnit :=
  if units.any (fun u => u.unitKey = unitKey) then units
  else units ++ [
    { id := nextKey SchedulerRunUnit.id units
      unitKey
      claim := { status := .PENDING, attemptCount := 0, leaseOwner := none, leaseExpiresAt := none
                 startedAt := none, completedAt := none, lastError := none, updatedAt := now } }]

/-- `claim_unit` -/
def claimUnit (s : Schedule) (id : Nat) (owner : String) (now leaseSeconds : Int) : Option Schedule := do
  let unit ← s.unit? id
  if ¬ assertClaim s.run owner now then none
  let claim ← takeClaim (orphaned unit.claim owner now) owner now leaseSeconds
  return s.putUnit { unit with claim }

/-- `_locked_unit`: the unit, when the worker holds both its lease and that of the run. -/
def lockedUnit (s : Schedule) (id : Nat) (owner : String) (now : Int) : Option SchedulerRunUnit :=
  (s.unit? id).filter fun unit => assertClaim s.run owner now ∧ assertClaim unit.claim owner now

/-- `mark_unit_succeeded`, committed with the effects of the unit. -/
def markUnitSucceeded (s : Schedule) (id : Nat) (owner : String) (validatedAt completedAt : Int) :
    Option Schedule :=
  (s.lockedUnit id owner validatedAt).map fun unit =>
    { s.putUnit { unit with claim := succeededClaim unit.claim completedAt } with
      effects := s.effects ++ [id] }

/-- `mark_unit_failed` -/
def markUnitFailed (s : Schedule) (id : Nat) (owner : String) (errorCode : Option String)
    (failedAt : Int) : Option Schedule :=
  (s.lockedUnit id owner failedAt).map fun unit =>
    s.putUnit { unit with claim := failedClaim unit.claim errorCode failedAt }

end Schedule

end Primitives

section Transactions

/-- When a transaction read the clock for its arguments, got its row locks, and was committed. -/
structure Instants where
  asked : Int
  granted : Int
  ended : Int
  deriving DecidableEq, Repr

inductive SchedulerTx where
  | claimRun (leaseSeconds : Int)
  /-- lock the run, create its units once, close it when there are none -/
  | snapshot (participations : List (Nat × Nat))
  | renewRun (leaseSeconds : Int)
  | claimUnit (id : Nat) (leaseSeconds : Int)
  /-- lock the run and the unit, work, and checkpoint the unit -/
  | executeUnit (id : Nat)
  | succeedUnit (id : Nat)
  | failUnit (id : Nat) (errorCode : Option String)
  /-- lock the run and close it by the state of its units -/
  | finishRun
  | succeedRun
  | failRun (errorCode : Option String)
  deriving DecidableEq, Repr

def participationKey (p : Nat × Nat) : String :=
  "cycle:" ++ toString p.1 ++ ":participation:" ++ toString p.2

/-- The first committed units are the snapshot of the run. -/
def snapshotUnits (s : Schedule) (now : Int) (participations : List (Nat × Nat)) :
    List SchedulerRunUnit :=
  if s.units.isEmpty then
    (participations.map participationKey).foldl (Schedule.getOrCreateUnit now) s.units
  else s.units

/-- What a transaction commits; nothing when it refuses or raises. -/
def transact (s : Schedule) (owner : String) (t : Instants) : SchedulerTx → Option Schedule
  | .claimRun leaseSeconds => s.claimRun owner t.asked leaseSeconds
  | .snapshot participations =>
    if assertClaim s.run owner t.granted then
      let s := { s with units := snapshotUnits s t.granted participations }
      if s.units.isEmpty then s.markRunSucceeded owner t.granted t.ended else some s
    else none
  | .renewRun leaseSeconds => s.renewRunLease owner t.granted leaseSeconds
  | .claimUnit id leaseSeconds => s.claimUnit id owner t.asked leaseSeconds
  | .executeUnit id => s.markUnitSucceeded id owner t.granted t.ended
  | .succeedUnit id => s.markUnitSucceeded id owner t.asked t.asked
  | .failUnit id errorCode => s.markUnitFailed id owner errorCode t.asked
  | .finishRun =>
    if assertClaim s.run owner t.granted then
      if s.complete then s.markRunSucceeded owner t.granted t.ended
      else s.markRunFailed owner (some "execution_failed") t.ended
    else none
  | .succeedRun => s.markRunSucceeded owner t.asked t.asked
  | .failRun errorCode => s.markRunFailed owner errorCode t.asked

end Transactions

section Task

/-- Where a worker is in `run_cycle_participation_tasks`; the units are those still to come. -/
inductive Phase where
  | claiming
  | snapshotting
  | snapshotFailed
  | renewing (unit : Nat) (rest : List Nat)
  | claimingUnit (unit : Nat) (rest : List Nat)
  | executing (unit : Nat) (rest : List Nat)
  | failingUnit (unit : Nat) (rest : List Nat)
  | renewingLast
  | finishing
  | stopped
  deriving DecidableEq, Repr

def cycleRunLeaseSeconds : Int := 300

/-- The transaction of a phase; `participations` are the active ones it would see. -/
def Phase.transaction (participations : List (Nat × Nat)) : Phase → Option SchedulerTx
  | .claiming => some (.claimRun cycleRunLeaseSeconds)
  | .snapshotting => some (.snapshot participations)
  | .snapshotFailed => some (.failRun (some "execution_failed"))
  | .renewing _ _ | .renewingLast => some (.renewRun cycleRunLeaseSeconds)
  | .claimingUnit unit _ => some (.claimUnit unit cycleRunLeaseSeconds)
  | .executing unit _ => some (.executeUnit unit)
  | .failingUnit unit _ => some (.failUnit unit (some "execution_failed"))
  | .finishing => some .finishRun
  | .stopped => none

/-- The head of the loop over the units. -/
def Phase.loop : List Nat → Phase
  | [] => .renewingLast
  | unit :: rest => .renewing unit rest

/-- Where a worker goes on after its transaction left `s`. A refused unit is passed over when it is done
or the run is still the worker's; a failure that could not be written down, when the leases stand. -/
def Phase.next (s : Schedule) (owner : String) (now : Int) (committed : Bool) : Phase → Phase
  | .claiming => if committed then .snapshotting else .stopped
  | .snapshotting =>
    if ¬ committed then .snapshotFailed
    else if s.run.status = .SUCCEEDED then .stopped
    else .loop (s.units.map SchedulerRunUnit.id)
  | .snapshotFailed => .stopped
  | .renewing unit rest => if committed then .claimingUnit unit rest else .stopped
  | .claimingUnit unit rest =>
    if committed then .executing unit rest
    else if (s.unit? unit).any (fun u => u.claim.status = .SUCCEEDED) ∨ assertClaim s.run owner now then
      .loop rest
    else .stopped
  | .executing unit rest => if committed then .loop rest else .failingUnit unit rest
  | .failingUnit unit rest =>
    if committed ∨ (s.lockedUnit unit owner now).isSome then .loop rest else .stopped
  | .renewingLast => if committed then .finishing else .stopped
  | .finishing | .stopped => .stopped

end Task

section System

/-- The run, the owners that claimed it so far, where each worker is, and the clock. -/
structure SchedulerSystem where
  schedule : Schedule
  claimants : List String
  phase : String → Phase
  clock : Int

/-- A transaction of a primitive, or the next one of the task, which may also be rolled back. -/
inductive SchedulerAction where
  | primitive (tx : SchedulerTx)
  | task (participations : List (Nat × Nat)) (rolledBack : Bool)
  deriving DecidableEq, Repr

structure SchedulerEvent where
  owner : String
  instants : Instants
  action : SchedulerAction
  deriving DecidableEq, Repr

/-- The transaction an event tries to commit. -/
def SchedulerSystem.transaction (S : SchedulerSystem) (e : SchedulerEvent) : Option SchedulerTx :=
  match e.action with
  | .primitive tx => some tx
  | .task participations rolledBack =>
    if rolledBack then none else (S.phase e.owner).transaction participations

def SchedulerSystem.outcome (S : SchedulerSystem) (e : SchedulerEvent) : Option Schedule :=
  (S.transaction e).bind (transact S.schedule e.owner e.instants)

def isRunClaim : Option SchedulerTx → Bool
  | some (.claimRun _) => true
  | _ => false

/-- The system after an event. -/
def SchedulerSystem.after (S : SchedulerSystem) (e : SchedulerEvent) : SchedulerSystem :=
  let committed := (S.outcome e).isSome
  let schedule := (S.outcome e).getD S.schedule
  { schedule
    claimants := if committed ∧ isRunClaim (S.transaction e) then e.owner :: S.claimants else S.claimants
    phase := match e.action with
      | .primitive _ => S.phase
      | .task _ _ => fun owner =>
        if owner = e.owner then (S.phase owner).next schedule owner e.instants.ended committed
        else S.phase owner
    clock := e.instants.ended }

def SchedulerSystem.run (S : SchedulerSystem) (events : List SchedulerEvent) : SchedulerSystem :=
  events.foldl SchedulerSystem.after S

end System

end Caixinha.Model
