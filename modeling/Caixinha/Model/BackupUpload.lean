import Mathlib.Algebra.Group.Nat.Defs
import Mathlib.Data.List.Basic

/-! The resumable upload: one media request after the other over one session, against a server
that answers each request as it likes. -/
namespace Caixinha.Model.BackupUpload

/-- The `Range` header of an answer: absent or empty, a text that ends in `-last`, or one whose end
is no number. -/
inductive RangeHeader where
  | absent
  | last (n : Nat)
  | unreadable
  deriving DecidableEq, Repr

/-- An answer; `reasons` are those its error body names, none where it has another form. -/
structure Response (β : Type) where
  status : Nat
  range : RangeHeader := .absent
  reasons : List String := []
  /-- `response.json()`, where the body decodes. -/
  json : Option β := none
  deriving DecidableEq, Repr

inductive Answer (β : Type) where
  /-- `httpx.TimeoutException` or another `httpx.HTTPError` -/
  | failed
  | response (r : Response β)
  deriving DecidableEq, Repr

inductive Request where
  /-- A `PUT` of the bytes from `offset` on. -/
  | chunk (offset length : Nat)
  /-- An empty `PUT` that asks how far the session is. -/
  | status
  deriving DecidableEq, Repr

inductive Failure where
  | driveBackupError (code : String)
  | httpError
  /-- `int` or `rsplit` refused the `Range` header, or a body did not decode. -/
  | valueError
  deriving DecidableEq, Repr

def maxRetries : Nat := 4

def chunkBytes : Nat := 8 * 1024 ^ 2

variable {β : Type}

namespace Response

def responseError (r : Response β) : String :=
  if r.status = 401 then "drive_authentication_failed"
  else if r.status = 403 then
    if "rateLimitExceeded" ∈ r.reasons ∨ "userRateLimitExceeded" ∈ r.reasons then "drive_rate_limited"
    else "drive_forbidden"
  else if r.status = 404 then "drive_object_not_found"
  else if r.status = 429 then "drive_rate_limited"
  else if r.status ≥ 500 then "drive_service_unavailable"
  else "drive_request_failed"

/-- The answers after which a request is made again. -/
def throttled (r : Response β) : Bool :=
  r.status ∈ [429, 500, 502, 503, 504] ∨ (r.status = 403 ∧ r.responseError = "drive_rate_limited")

/-- The offset a 308 acknowledges; `none` where its header cannot be read. -/
def newOffset (r : Response β) : Option Nat :=
  match r.range with
  | .absent => some 0
  | .last n => some (n + 1)
  | .unreadable => none

end Response

/-- What has gone over the session so far. -/
abbrev Exchanges (β : Type) := List (Request × Answer β)

section
variable (answers : Nat → Answer β)

/-- One request and the server's next answer. -/
def request (r : Request) (log : Exchanges β) : Answer β × Exchanges β :=
  (answers log.length, log ++ [(r, answers log.length)])

/-- `_request_with_retry`, with `left` further attempts after this one. -/
def requestWithRetry : Nat → Exchanges β → Except Failure (Response β) × Exchanges β
  | 0, log =>
    match request answers .status log with
    | (.failed, log) => (.error .httpError, log)
    | (.response r, log) => (.ok r, log)
  | left + 1, log =>
    match request answers .status log with
    | (.failed, log) => requestWithRetry left log
    | (.response r, log) => if r.throttled then requestWithRetry left log else (.ok r, log)

/-- The locals of the loop. -/
structure Session (β : Type) where
  offset : Nat := 0
  attempts : Nat := 0
  noProgress : Nat := 0
  log : Exchanges β := []

inductive Turn (β : Type) where
  | again (s : Session β)
  | done (result : Except Failure β) (log : Exchanges β)

def Turn.log : Turn β → Exchanges β
  | .again s => s.log
  | .done _ log => log

/-- The body of a finished upload. -/
def finish (r : Response β) (refusal : Failure) (log : Exchanges β) : Turn β :=
  match r.json with
  | some body => .done (.ok body) log
  | none => .done (.error refusal) log

/-- A 308 moves the offset to what it acknowledges, forward or back. -/
def advance (s : Session β) (r : Response β) (next : Nat → Nat → Turn β) : Turn β :=
  match r.newOffset with
  | none => .done (.error .valueError) s.log
  | some newOffset =>
    let noProgress := if newOffset ≤ s.offset then s.noProgress + 1 else 0
    if noProgress > maxRetries then .done (.error (.driveBackupError "drive_upload_no_progress")) s.log
    else next newOffset noProgress

/-- A throttled chunk asks how far the session is, for at most `maxRetries` chunks. -/
def afterThrottle (s : Session β) (r : Response β) : Turn β :=
  let s := { s with attempts := s.attempts + 1 }
  if s.attempts ≤ maxRetries then
    match requestWithRetry answers maxRetries s.log with
    | (.error e, log) => .done (.error e) log
    | (.ok status, log) =>
      let s := { s with log := log }
      if status.status = 308 then
        advance s status fun newOffset noProgress =>
          .again { s with offset := newOffset, noProgress := noProgress }
      else if status.status ∈ [200, 201] then finish status .valueError log
      else .again s
  else .done (.error (.driveBackupError r.responseError)) s.log

/-- What the loop makes of the answer it settled on. -/
def handle (size : Nat) (s : Session β) (r : Response β) : Turn β :=
  if r.status ∈ [200, 201] then
    finish r (.driveBackupError "drive_ambiguous_upload_result") s.log
  else if r.status = 308 then
    advance s r fun newOffset noProgress =>
      if newOffset > size then .done (.error (.driveBackupError "drive_upload_range_invalid")) s.log
      else .again { s with offset := newOffset, attempts := 0, noProgress := noProgress }
  else if r.status = 404 then .done (.error (.driveBackupError "drive_upload_session_expired")) s.log
  else if r.throttled then afterThrottle answers s r
  else .done (.error (.driveBackupError r.responseError)) s.log

/-- The answer a chunk is judged by: a lost or failed one is followed by a status request, and a
status that is a server failure by another. -/
def chunkAnswer (size : Nat) (s : Session β) : Except Failure (Response β) × Exchanges β :=
  let asked := match request answers (.chunk s.offset (min chunkBytes (size - s.offset))) s.log with
    | (.failed, log) => requestWithRetry answers maxRetries log
    | (.response r, log) => (.ok r, log)
  match asked with
  | (.error e, log) => (.error e, log)
  | (.ok r, log) =>
    if r.status ∈ [500, 502, 503, 504] then requestWithRetry answers maxRetries log else (.ok r, log)

/-- One turn of the loop. -/
def turn (size : Nat) (s : Session β) : Turn β :=
  if s.offset < size then
    match chunkAnswer answers size s with
    | (.error e, log) => .done (.error e) log
    | (.ok r, log) => handle answers size { s with log := log } r
  else .done (.error (.driveBackupError "drive_upload_incomplete")) s.log

/-- `_upload_session`, cut off after some turns. -/
def uploadSession (size : Nat) : Nat → Turn β
  | 0 => .again {}
  | n + 1 =>
    match uploadSession size n with
    | .again s => turn answers size s
    | .done result log => .done result log

end

end Caixinha.Model.BackupUpload
