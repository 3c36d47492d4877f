import Caixinha.Library.Fallible
import Mathlib.Algebra.Order.Group.Int
import Mathlib.Order.Lattice
import Mathlib.Tactic.Common

/-! Money, instants, civil days and the failures every operation can raise.
Amounts are whole cents (`Numeric(14,2)` columns), instants are microseconds since the
epoch in UTC and civil days count from the epoch day; all three are plain integers. -/
namespace Caixinha.Model

/-- The amount of a posted entry; every writer refuses zero and negative ones. -/
abbrev PositiveCents := {c : Int // 0 < c}

/-- A `datetime` value; a naive one carries its reading in UTC. -/
structure Timestamp where
  instant : Int
  aware : Bool := true
  deriving DecidableEq, Repr

/-- One civil day in microseconds. -/
def dayLength : Int := 86400000000

/-- America/Belem stands three hours behind UTC, without daylight saving. -/
def belemOffset : Int := 10800000000

def utcDate (t : Int) : Int := t / dayLength

def financialCivilDate (t : Int) : Int := (t - belemOffset) / dayLength

/-- The UTC instant at which the civil day after `day` begins in Belem. -/
def localExpiryUtc (day : Int) : Int := (day + 1) * dayLength + belemOffset

theorem lt_localExpiryUtc_iff (t day : Int) :
    t < localExpiryUtc day ↔ financialCivilDate t ≤ day := by
  unfold localExpiryUtc financialCivilDate dayLength
  omega

/-- The characters `str.strip` removes. -/
def isSpace (c : Char) : Bool :=
  let n := c.toNat
  (9 ≤ n && n ≤ 13) || (28 ≤ n && n ≤ 32) || n = 0x85 || n = 0xA0 || n = 0x1680 ||
    (0x2000 ≤ n && n ≤ 0x200A) || n = 0x2028 || n = 0x2029 || n = 0x202F || n = 0x205F || n = 0x3000

def strip (s : String) : String :=
  String.ofList (((s.toList.dropWhile isSpace).reverse.dropWhile isSpace).reverse)

inductive Error where
  | valueError (message : String)
  | typeError (message : String)
  | integrityError (constraint : String)
  | assertionError (message : String)
  /-- `one_or_none` found several rows. -/
  | multipleResultsFound
  | closingContractGap (code detail : String)
  /-- `decimal.InvalidOperation` -/
  | invalidOperation
  deriving DecidableEq, Repr

/-- An operation inside the caller's transaction; a failed one is rolled back. -/
abbrev Tx := Except Error

def refuseIf (p : Prop) [Decidable p] (message : String) : Tx Unit :=
  if p then .error (.valueError message) else .ok ()

def requireConstraint (p : Prop) [Decidable p] (constraint : String) : Tx Unit :=
  if p then .ok () else .error (.integrityError constraint)

def orRefuse {α : Type} (found : Option α) (message : String) : Tx α :=
  match found with
  | some a => .ok a
  | none => .error (.valueError message)

@[simp] theorem refuseIf_eq_ok {p : Prop} [Decidable p] {message : String} {u : Unit} :
    refuseIf p message = .ok u ↔ ¬ p := by
  unfold refuseIf
  split <;> simp [*]

@[simp] theorem requireConstraint_eq_ok {p : Prop} [Decidable p] {name : String} {u : Unit} :
    requireConstraint p name = .ok u ↔ p := by
  unfold requireConstraint
  split <;> simp [*]

@[simp] theorem orRefuse_eq_ok {α : Type} {found : Option α} {message : String} {a : α} :
    orRefuse found message = .ok a ↔ found = some a := by
  cases found <;> simp [orRefuse]

end Caixinha.Model
