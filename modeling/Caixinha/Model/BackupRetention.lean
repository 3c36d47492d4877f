import Caixinha.Model.Values
import Mathlib.Data.List.Sort

/-! The retention proposal over the remote backups of the Drive folder. `datetime.fromisoformat`
stays a parameter: nothing here depends on which texts it reads. -/
namespace Caixinha.Model

structure AppProperties where
  marker : Option String := none
  verificationStatus : Option String := none
  localSha256 : Option String := none
  deriving DecidableEq, Repr

/-- One entry of `files.list`; `appProperties` absent reads as empty. -/
structure RemoteObject where
  id : String
  name : Option String := none
  mimeType : Option String := none
  size : Option String := none
  md5Checksum : Option String := none
  parents : Option (List String) := none
  createdTime : Option String := none
  trashed : Option Bool := none
  appProperties : AppProperties := {}
  deriving DecidableEq, Repr

structure RetentionProposal where
  mode : String
  candidateFileIds : List String
  deletePerformed : Bool
  deriving DecidableEq, Repr

/-- A text that is present and not empty. -/
def truthy (text : Option String) : Bool := (text.getD "") != ""

namespace RemoteObject

def known (item : RemoteObject) : Bool :=
  item.appProperties.marker == some "v1" && truthy item.createdTime

def isVerified (item : RemoteObject) : Bool :=
  item.appProperties.verificationStatus == some "VERIFIED" && truthy item.size &&
    truthy item.md5Checksum && truthy item.appProperties.localSha256

/-- `item["createdTime"]`, read of known items only. -/
def createdText (item : RemoteObject) : String := item.createdTime.getD ""

/-- `createdTime.replace("Z", "+00:00")` -/
def isoText (item : RemoteObject) : String :=
  String.ofList (item.createdText.toList.flatMap fun c => if c = 'Z' then "+00:00".toList else [c])

/-- The instant an aware `createdTime` names; a naive one does not compare with the cutoff. -/
def created (fromisoformat : String → Tx Timestamp) (item : RemoteObject) : Tx Int := do
  let t ← fromisoformat item.isoText
  if t.aware then .ok t.instant
  else .error (.typeError "can't compare offset-naive and offset-aware datetimes")

/-- The order both sorts use: the texts, not the instants. -/
def createdLe (a b : RemoteObject) : Prop := a.createdText ≤ b.createdText

instance : DecidableRel createdLe := fun a b =>
  inferInstanceAs (Decidable (a.createdText ≤ b.createdText))

end RemoteObject

/-- The managed backups that were verified, in the order of the listing. -/
def verifiedBackups (items : List RemoteObject) : List RemoteObject :=
  (items.filter RemoteObject.known).filter RemoteObject.isVerified

def retentionCandidates (fromisoformat : String → Tx Timestamp) (items : List RemoteObject)
    (before : Timestamp) : Tx RetentionProposal := do
  if !before.aware then throw (.valueError "retention_cutoff_must_be_aware")
  let verified := (verifiedBackups items).insertionSort RemoteObject.createdLe
  let old ← verified.filterM fun item => do
    let created ← item.created fromisoformat
    pure (decide (created < before.instant))
  let candidates := old.insertionSort RemoteObject.createdLe
  let candidates := match verified.head? with
    | some first => if first ∈ candidates then candidates.erase first else candidates
    | none => candidates
  return { mode := "DRY_RUN", candidateFileIds := candidates.map RemoteObject.id, deletePerformed := false }

end Caixinha.Model
