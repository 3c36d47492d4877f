import Caixinha.Library.Table
import Caixinha.Model.Records
import Mathlib.Algebra.GroupWithZero.Nat
import Mathlib.Tactic.Common

/-! The PIX destinations of a member: local validation of the key, one version after another,
at most one of them in use, and revocation. -/
namespace Caixinha.Model
open Caixinha.Library.Table

/-- What the destination and verification services raise. -/
inductive PayoutError where
  | destinationConflict (message : String)
  | destinationInvalid (message : String)
  | cryptoError (message : String)
  | valueError (message : String)
  | verificationConflict (message : String)
  | verificationNotFound (message : String)
  | verificationIntegrity (message : String)
  | contractError (message : String)
  | integrityError (constraint : String)
  | multipleResultsFound
  deriving DecidableEq, Repr

abbrev PayoutTx := Except PayoutError

def raiseWhen (p : Prop) [Decidable p] (e : PayoutError) : PayoutTx Unit :=
  if p then .error e else .ok ()

def orRaise {α : Type} (found : Option α) (e : PayoutError) : PayoutTx α :=
  match found with
  | some a => .ok a
  | none => .error e

/-- `scalar_one_or_none` -/
def oneOrNone {α : Type} (rows : List α) (several : PayoutError) : PayoutTx (Option α) :=
  match rows with
  | [] => .ok none
  | [a] => .ok (some a)
  | _ => .error several

@[simp] theorem raiseWhen_eq_ok {p : Prop} [Decidable p] {e : PayoutError} {u : Unit} :
    raiseWhen p e = .ok u ↔ ¬ p := by
  unfold raiseWhen
  split <;> simp [*]

@[simp] theorem orRaise_eq_ok {α : Type} {found : Option α} {e : PayoutError} {a : α} :
    orRaise found e = .ok a ↔ found = some a := by
  cases found <;> simp [orRaise]

theorem oneOrNone_some {α : Type} {rows : List α} {e : PayoutError} {a : α} :
    oneOrNone rows e = .ok (some a) ↔ rows = [a] := by
  rcases rows with _ | ⟨b, _ | ⟨c, rest⟩⟩ <;> simp [oneOrNone]

theorem oneOrNone_none {α : Type} {rows : List α} {e : PayoutError} :
    oneOrNone rows e = .ok none ↔ rows = [] := by
  rcases rows with _ | ⟨b, _ | ⟨c, rest⟩⟩ <;> simp [oneOrNone]

section Keys

inductive KeyType where
  | CPF | PHONE | EMAIL | EVP
  deriving DecidableEq, Repr

def KeyType.text : KeyType → String
  | .CPF => "CPF"
  | .PHONE => "PHONE"
  | .EMAIL => "EMAIL"
  | .EVP => "EVP"

/-- `str.upper`, as far as the names of the key types depend on it. -/
def upperChar (c : Char) : Char := if c = 'ı' then 'I' else c.toUpper

def normalizeKeyType (keyType : String) : PayoutTx KeyType :=
  let normalized := (strip keyType).map upperChar
  orRaise ([KeyType.CPF, .PHONE, .EMAIL, .EVP].find? (fun kind => kind.text = normalized))
    (.destinationInvalid "Unsupported PIX key type.")

/-- `[0-9]` -/
def isDigit (c : Char) : Bool := '0' ≤ c ∧ c ≤ '9'

def isHex (c : Char) : Bool := isDigit c ∨ ('a' ≤ c ∧ c ≤ 'f') ∨ ('A' ≤ c ∧ c ≤ 'F')

def digitValue (c : Char) : Nat := c.toNat - '0'.toNat

/-- The weighted sum of the first digits, with weights that end at 2. -/
def checkDigit (digits : List Nat) : Nat :=
  let weighted := (digits.zip ((List.range' 2 digits.length).reverse)).map (fun p => p.1 * p.2)
  if weighted.sum % 11 < 2 then 0 else 11 - weighted.sum % 11

def hasValidCheckDigits (digits : List Char) : Bool :=
  let values := digits.map digitValue
  values.dedup.length ≠ 1 ∧ values.drop 9 = [checkDigit (values.take 9), checkDigit (values.take 10)]

/-- The digits of a plain or exactly formatted CPF. -/
def cpfDigits (candidate : List Char) : Option (List Char) :=
  if candidate.length = 11 ∧ candidate.all isDigit then some candidate
  else match candidate with
    | [a, b, c, '.', d, e, f, '.', g, h, i, '-', j, k] =>
      let digits := [a, b, c, d, e, f, g, h, i, j, k]
      if digits.all isDigit then some digits else none
    | _ => none

def normalizeCpf (value : String) : Option String :=
  ((cpfDigits (strip value).toList).filter hasValidCheckDigits).map String.ofList

/-- A Brazilian E.164 number: a mobile one has nine digits after the area code. -/
def isBrazilianPhone (candidate : List Char) : Bool :=
  match candidate with
  | '+' :: '5' :: '5' :: area :: code :: first :: rest =>
    isDigit area ∧ area ≠ '0' ∧ isDigit code ∧ rest.all isDigit ∧
      (('2' ≤ first ∧ first ≤ '5' ∧ rest.length = 7) ∨ (first = '9' ∧ rest.length = 8))
  | _ => false

def isCanonicalUuid (candidate : List Char) : Bool :=
  let groups := candidate.splitOn '-'
  groups.map List.length = [8, 4, 4, 4, 12] ∧ groups.all (fun g => g.all isHex)

/-- What the services use of the packages around them: the digest, the normalization of an
email address and the encryption of a key. -/
structure PayoutEnv where
  sha256 : String → String
  validateEmail : String → Option String
  encrypt : String → Except String String

def normalizePayoutDestination (env : PayoutEnv) (kind : KeyType) (value : String) : PayoutTx String :=
  let candidate := strip value
  match kind with
  | .CPF => orRaise (normalizeCpf candidate) (.destinationInvalid "CPF is invalid.")
  | .PHONE =>
    if isBrazilianPhone candidate.toList then .ok candidate
    else .error (.destinationInvalid "Phone key must be a valid Brazilian E.164 number.")
  | .EMAIL => orRaise (env.validateEmail candidate) (.destinationInvalid "Email key is invalid.")
  | .EVP =>
    if isCanonicalUuid candidate.toList then .ok (candidate.map Char.toLower)
    else .error (.destinationInvalid "EVP key must be a UUID.")

def encryptPayoutDestination (env : PayoutEnv) (normalizedValue : String) : PayoutTx String :=
  if normalizedValue = "" then .error (.cryptoError "Payout destination value is invalid.")
  else match env.encrypt normalizedValue with
    | .ok encrypted => .ok encrypted
    | .error message => .error (.cryptoError message)

/-- The last characters of a text, `text[-n:]`. -/
def lastChars (text : String) (n : Nat) : String :=
  String.ofList (text.toList.drop (text.toList.length - n))

/-- The parts of an address around its last `@`. -/
def splitAddress (address : List Char) : Option (List Char × List Char) :=
  let domain := (address.reverse.takeWhile (· ≠ '@')).reverse
  let front := address.take (address.length - domain.length - 1)
  if '@' ∈ address ∧ front ≠ [] ∧ domain ≠ [] then some (front, domain) else none

def maskPayoutDestination (kind : KeyType) (normalizedValue : String) : PayoutTx String :=
  if normalizedValue = "" then .error (.valueError "Payout destination value is invalid.")
  else match kind with
    | .CPF => .ok ("***.***.***-" ++ lastChars normalizedValue 2)
    | .PHONE => .ok ("+55*********" ++ lastChars normalizedValue 4)
    | .EMAIL =>
      match splitAddress normalizedValue.toList with
      | some (front, domain) => .ok (String.ofList (front.take 1 ++ ['*', '*', '*', '@'] ++ domain))
      | none => .error (.valueError "Payout destination email is invalid.")
    | .EVP => .ok ("********-****-****-****-********" ++ lastChars normalizedValue 4)

example : normalizeCpf " 529.982.247-25 " = some "52998224725" := by decide +kernel

end Keys

/-- When and by whom a version was verified or revoked. -/
structure Mark where
  instant : Int
  user : Nat
  deriving DecidableEq, Repr

/-- The status of a version with the columns it fixes (`ck_mpd_lifecycle_fields`). -/
inductive Lifecycle where
  | unverified
  | verified (mark : Mark)
  | revoked (verification : Option Mark) (mark : Mark)
  deriving DecidableEq, Repr

def Lifecycle.isRevoked : Lifecycle → Bool
  | .revoked _ _ => true
  | _ => false

/-- The one change of status there is. -/
def Lifecycle.revoke (mark : Mark) : Lifecycle → Lifecycle
  | .unverified => .revoked none mark
  | .verified verification => .revoked (some verification) mark
  | .revoked verification first => .revoked verification first

/-- One version of a member's PIX key; only its status changes. -/
structure PayoutDestination where
  id : Nat
  memberId : Nat
  version : Nat
  keyType : KeyType
  encryptedValue : String
  maskedValue : String
  status : Lifecycle
  createdAt : Int
  createdBy : Nat
  deriving DecidableEq, Repr

def PayoutDestination.revoked (d : PayoutDestination) : Bool := d.status.isRevoked

section Destinations
variable (destinations : List PayoutDestination)

def versionsOf (memberId : Nat) : List PayoutDestination :=
  destinations.filter (fun d => d.memberId = memberId)

/-- `_active_query` -/
def activeDestinations (memberId : Nat) : List PayoutDestination :=
  (versionsOf destinations memberId).filter (fun d => ! d.revoked)

def nextVersion (memberId : Nat) : Nat :=
  ((versionsOf destinations memberId).map PayoutDestination.version).foldr max 0 + 1

/-- Insert a version under the unique indexes of the table. -/
def insertDestination (d : PayoutDestination) : PayoutTx (List PayoutDestination) := do
  raiseWhen (∃ x ∈ versionsOf destinations d.memberId, x.version = d.version)
    (.integrityError "uq_mpd_member_version")
  raiseWhen (¬ d.revoked ∧ activeDestinations destinations d.memberId ≠ [])
    (.integrityError "uq_mpd_one_active_member")
  return destinations ++ [d]

end Destinations

/-- The people and their destinations. -/
structure Payees where
  members : List Member
  users : List User
  destinations : List PayoutDestination
  deriving DecidableEq, Repr

section Operations
variable (env : PayoutEnv) (payees : Payees)

/-- Wait for the member's other operations; the lock needs the member. -/
def lockMember (memberId : Nat) (missing : PayoutError) : PayoutTx Member :=
  orRaise (lookup Member.id payees.members memberId) missing

def requireActor (actorId : Nat) : PayoutTx User :=
  orRaise (lookup User.id payees.users actorId)
    (.destinationConflict "Destination actor not found.")

def newDestination (memberId version : Nat) (keyType : KeyType) (normalizedValue : String)
    (actorId : Nat) (now : Int) : PayoutTx PayoutDestination := do
  let encryptedValue ← encryptPayoutDestination env normalizedValue
  let maskedValue ← maskPayoutDestination keyType normalizedValue
  return {
    id := nextKey PayoutDestination.id payees.destinations
    memberId, version, keyType, encryptedValue, maskedValue
    status := .unverified
    createdAt := now
    createdBy := actorId }

/-- Create the first active version. -/
def createUnverifiedDestination (memberId : Nat) (keyType value : String) (actorId : Nat) (now : Int) :
    PayoutTx (Payees × PayoutDestination) := do
  let normalizedType ← normalizeKeyType keyType
  let normalizedValue ← normalizePayoutDestination env normalizedType value
  let _ ← lockMember payees memberId (.destinationConflict "Member not found.")
  let _ ← requireActor payees actorId
  let active ← oneOrNone (activeDestinations payees.destinations memberId) .multipleResultsFound
  raiseWhen (active ≠ none) (.destinationConflict
    "Member already has an active payout destination; replace it instead.")
  let row ← newDestination env payees memberId (nextVersion payees.destinations memberId)
    normalizedType normalizedValue actorId now
  let destinations ← insertDestination payees.destinations row
  return ({ payees with destinations }, row)

/-- Revoke an active version; its row stays. -/
def revokeDestination (destinationId actorId : Nat) (now : Int) :
    PayoutTx (Payees × PayoutDestination) := do
  let locator ← orRaise (lookup PayoutDestination.id payees.destinations destinationId)
    (.destinationConflict "Payout destination not found.")
  let _ ← lockMember payees locator.memberId (.destinationConflict "Member not found.")
  let _ ← requireActor payees actorId
  raiseWhen locator.revoked (.destinationConflict "Payout destination is not active.")
  let row := { locator with status := locator.status.revoke { instant := now, user := actorId } }
  return ({ payees with destinations := replace PayoutDestination.id payees.destinations row }, row)

/-- Revoke the active version and create the next one. -/
def replaceDestination (memberId : Nat) (keyType value : String) (actorId : Nat) (now : Int) :
    PayoutTx (Payees × PayoutDestination) := do
  let normalizedType ← normalizeKeyType keyType
  let normalizedValue ← normalizePayoutDestination env normalizedType value
  let _ ← lockMember payees memberId (.destinationConflict "Member not found.")
  let _ ← requireActor payees actorId
  let active ← oneOrNone (activeDestinations payees.destinations memberId) .multipleResultsFound
  let current ← orRaise active
    (.destinationConflict "Member has no active payout destination to replace.")
  let nextRow ← newDestination env payees memberId (nextVersion payees.destinations memberId)
    normalizedType normalizedValue actorId now
  let revoked := { current with status := current.status.revoke { instant := now, user := actorId } }
  let destinations ← insertDestination
    (replace PayoutDestination.id payees.destinations revoked) nextRow
  return ({ payees with destinations }, nextRow)

end Operations

end Caixinha.Model
