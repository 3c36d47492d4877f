import Caixinha.Library.PosixPaths
import Mathlib.Algebra.GroupWithZero.Nat
import Mathlib.Data.List.Sort
import Mathlib.Data.Rat.Defs
import Mathlib.Data.String.Basic

/-! The portable envelope of an encrypted local backup: created from a validated directory, inspected
without extracting, and extracted into a private directory that is validated again. What the tar
library reads of an archive are its members; a regular member has the content it was written with. -/
namespace Caixinha.Model.BackupEnvelope
open Caixinha.Library PosixPaths

abbrev Bytes := List UInt8

/-- A document of `json.loads`; the non-finite numbers it also reads equal nothing. -/
inductive Document where
  | null
  | bool (b : Bool)
  | num (q : Rat)
  | nonFinite
  | str (s : String)
  | arr (items : List Document)
  | obj (fields : List (String × Document))

abbrev Fields := List (String × Document)

def field? (fields : Fields) (key : String) : Option Document :=
  (fields.find? fun f => f.1 = key).map Prod.snd

/-- `d.get(key)` -/
def dictGet (fields : Fields) (key : String) : Document := (field? fields key).getD .null

/-- Equality of Python with an integer; `True` counts as one. -/
def Document.isInt : Document → Nat → Bool
  | .num q, n => q = n
  | .bool b, n => n = if b then 1 else 0
  | _, _ => false

def Document.isText : Document → String → Bool
  | .str s, t => s = t
  | _, _ => false

inductive TransportError where
  | drive (code : String)
  | backup (code : String)
  /-- `os.open` of a file that exists, or under a name the file system does not take -/
  | system
  /-- `get` of something that is not a dict -/
  | attribute
  deriving DecidableEq, Repr

abbrev Transport := Except TransportError

def refuse (p : Prop) [Decidable p] (code : String) : Transport Unit :=
  if p then .error (.drive code) else .ok ()

/-- The text a field holds, where a name of the manifest is expected. -/
def nameOf : Document → Transport String
  | .str s => if lastPart s = s then .ok s else .error (.drive "manifest_filename_invalid")
  | _ => .error (.drive "manifest_filename_invalid")

def fieldsOf : Document → Transport Fields
  | .obj fields => .ok fields
  | _ => .error .attribute

/-- What the module takes from the standard library and the system: the digest of a content,
`json.loads` of its text, and whether a file can be created under a path of the target directory. -/
structure TransportEnv where
  sha256 : Bytes → String
  readJson : Bytes → Option Document
  creatable : String → Bool

section Manifest

def isLowerHex (c : Char) : Bool := c.isDigit ∨ ('a' ≤ c ∧ c ≤ 'f')

/-- `[0-9]{8}T[0-9]{6}Z-[0-9a-f]{32}` -/
def backupIdPattern : List (Char → Bool) :=
  List.replicate 8 Char.isDigit ++ [(· == 'T')] ++ List.replicate 6 Char.isDigit ++ [(· == 'Z'), (· == '-')] ++
    List.replicate 32 isLowerHex

def isBackupId : Document → Bool
  | .str s => s.toList.length = backupIdPattern.length ∧
      (List.zipWith (fun p c => p c) backupIdPattern s.toList).all id
  | _ => false

/-- What extraction asks of a manifest before it writes anything. -/
def isCompleteLocal (manifest : Fields) : Bool :=
  (dictGet manifest "manifest_version").isInt 1 && (dictGet manifest "status").isText "COMPLETE_LOCAL" &&
    (dictGet manifest "off_vm_status").isText "NOT_UPLOADED"

def hasBackupId (manifest : Fields) : Bool := isCompleteLocal manifest && isBackupId (dictGet manifest "backup_id")

/-- A name of the evidence list. -/
def ageName (d : Document) : Transport String := do
  let name ← nameOf d
  refuse (¬ ".age".toList.isSuffixOf name.toList) "manifest_filename_invalid"
  return name

/-- The evidence list with the count the manifest gives of it. -/
def isCounted (manifest : Fields) (evidence : List Document) : Bool :=
  (dictGet manifest "evidence_file_count").isInt evidence.length

end Manifest

section Directories

inductive Node where
  | file (content : Bytes) (inode : Nat)
  | symlink
  | special
  deriving DecidableEq, Repr

/-- A directory by what `rglob` finds in it beside directories, each under its own relative path. -/
structure Directory where
  isPrivate : Bool
  nodes : List (String × Node)
  keyed : (nodes.map Prod.fst).Nodup

variable (env : TransportEnv) (dir : Directory)

def Directory.node? (path : String) : Option Node := (dir.nodes.find? fun n => n.1 = path).map Prod.snd

/-- `_read_manifest` -/
def readManifest : Transport Fields := do
  refuse (¬ dir.isPrivate) "private_directory_invalid"
  match dir.node? "manifest.json" with
  | some (.file content _) =>
    match env.readJson content with
    | none => .error (.drive "manifest_invalid")
    | some (.obj manifest) =>
      refuse (¬ hasBackupId manifest) "backup_not_complete_local"
      return manifest
    | some _ => .error (.drive "backup_not_complete_local")
  | _ => .error (.drive "manifest_missing")

/-- The size and the digest of a metadata dict are those of a content. -/
def describes (metadata : Fields) (content : Bytes) : Bool :=
  (dictGet metadata "size").isInt content.length && (dictGet metadata "sha256").isText (env.sha256 content)

/-- `_verify_file`, below a root given as a prefix of paths. -/
def verifyFile (root : String) (metadata : Fields) : Transport Unit :=
  match dictGet metadata "filename" with
  | .str name =>
    if lastPart name ≠ name then .error (.backup "manifest_filename_invalid")
    else match dir.node? (root ++ name) with
      | some (.file content _) =>
        if describes env metadata content then .ok () else .error (.backup "archive_checksum_mismatch")
      | _ => .error (.backup "archive_checksum_mismatch")
  | _ => .error (.backup "manifest_filename_invalid")

/-- One entry of the evidence list, checked against the directory. -/
def validatedEvidence (ref : Document) : Transport String :=
  match ref with
  | .obj fields =>
    match dictGet fields "encrypted" with
    | .obj metadata => do
      let name ← ageName (dictGet metadata "filename")
      verifyFile env dir "evidence/" metadata
      return "evidence/" ++ name
    | _ => .error (.drive "evidence_metadata_invalid")
  | _ => .error (.drive "evidence_metadata_invalid")

def checkNode : Node → Transport Unit
  | .file _ _ => .ok ()
  | .symlink => .error (.drive "backup_symlink_rejected")
  | .special => .error (.drive "backup_member_invalid")

/-- `actual != expected`, of sets of names -/
def SameNames (names expected : List String) : Prop :=
  (∀ n ∈ names, n ∈ expected) ∧ ∀ n ∈ expected, n ∈ names

instance (names expected : List String) : Decidable (SameNames names expected) :=
  inferInstanceAs (Decidable (_ ∧ _))

/-- `_validated_local_files`: the paths of the backup in order. -/
def validatedLocalFiles (manifest : Fields) : Transport (List String) :=
  match dictGet manifest "archive", dictGet manifest "evidence" with
  | .obj archive, .arr evidence => do
    refuse (¬ (dictGet archive "filename").isText "postgres.dump.age") "manifest_filename_invalid"
    verifyFile env dir "" archive
    refuse (¬ isCounted manifest evidence) "evidence_count_mismatch"
    let paths ← evidence.mapM (validatedEvidence env dir)
    dir.nodes.forM fun n => checkNode n.2
    refuse (¬ SameNames (dir.nodes.map Prod.fst) (["manifest.json", "postgres.dump.age"] ++ paths))
      "backup_members_unexpected"
    return (["postgres.dump.age"] ++ paths ++ ["manifest.json"]).insertionSort (· ≤ ·)
  | _, _ => .error (.drive "manifest_contract_invalid")

end Directories

section Envelopes

/-- A member as the tar library reads it; links and devices are not regular. -/
structure Member where
  name : String
  isRegular : Bool
  content : Bytes
  deriving DecidableEq, Repr

/-- A readable archive with the size and the digest of its file. -/
structure Envelope where
  members : List Member
  fileSize : Nat
  sha256 : String

/-- `MAX_ENVELOPE_BYTES` -/
def maxEnvelopeBytes : Nat := 100 * 1024 ^ 3

/-- `_safe_member_name` -/
def safeMemberName (name : String) : Bool :=
  ¬ isAbsolute name ∧ parts name ≠ [] ∧ ".." ∉ parts name ∧ '\\' ∉ name.toList ∧ '\x00' ∉ name.toList

/-- One member of the loop that inspection and extraction begin with, after some bytes. -/
def checkMember (maxBytes : Nat) (total : Nat) (m : Member) : Transport Nat := do
  refuse (¬ safeMemberName m.name ∨ ¬ m.isRegular) "envelope_member_invalid"
  refuse (maxBytes < total + m.content.length) "envelope_size_limit_exceeded"
  return total + m.content.length

/-- The members up to the manifest, read as a document. -/
def manifestMember (maxBytes : Nat) (e : Envelope) : Transport Bytes := do
  let _ ← e.members.foldlM (checkMember maxBytes) 0
  refuse (¬ (e.members.map Member.name).Nodup) "envelope_members_invalid"
  match e.members.find? fun m => m.name = "manifest.json" with
  | none => .error (.drive "envelope_members_invalid")
  | some m =>
    refuse (1024 * 1024 < m.content.length) "manifest_size_invalid"
    return m.content

/-- `entry.get("encrypted", {})` with its name -/
def evidenceEntry (entry : Document) : Transport (String × Document) := do
  let metadata := match entry with
    | .obj fields => (field? fields "encrypted").getD (.obj [])
    | _ => .obj []
  let fields ← fieldsOf metadata
  let name ← ageName (dictGet fields "filename")
  return (name, metadata)

/-- `expected[name]`, the last one written under a name. -/
def expectedFor (expected : List (String × Document)) (name : String) : Document :=
  ((expected.reverse.find? fun x => x.1 = name).map Prod.snd).getD .null

variable (env : TransportEnv)

/-- One member of the loop over the expected metadata; `None` is nothing to compare with. -/
def inspectMember (expected : List (String × Document)) (m : Member) : Transport Unit :=
  match expectedFor expected m.name with
  | .null => .ok ()
  | d => do
    let metadata ← fieldsOf d
    refuse (¬ (dictGet metadata "filename").isText (lastPart m.name) ∨
      ¬ (dictGet metadata "size").isInt m.content.length) "envelope_member_size_mismatch"
    refuse (¬ (dictGet metadata "sha256").isText (env.sha256 m.content)) "envelope_member_checksum_mismatch"

/-- `inspect_envelope` -/
def inspectEnvelope (maxBytes : Nat) (e : Envelope) : Transport Fields := do
  refuse (maxBytes < e.fileSize) "envelope_invalid"
  let content ← manifestMember maxBytes e
  match env.readJson content with
  | none => .error (.drive "envelope_invalid")
  | some (.obj manifest) =>
    refuse (¬ hasBackupId manifest) "backup_not_complete_local"
    match dictGet manifest "evidence" with
    | .arr evidence =>
      refuse (¬ isCounted manifest evidence) "evidence_count_mismatch"
      let entries ← evidence.mapM evidenceEntry
      let expected := [("manifest.json", .null), ("postgres.dump.age", dictGet manifest "archive")] ++
        entries.map fun entry => ("evidence/" ++ entry.1, entry.2)
      refuse (¬ SameNames (e.members.map Member.name) (expected.map Prod.fst)) "envelope_members_unexpected"
      e.members.forM (inspectMember env expected)
      return manifest
    | _ => .error (.drive "evidence_count_mismatch")
  | some _ => .error (.drive "backup_not_complete_local")

/-- `gettarinfo` of one path after others: a path to an inode already written under another one is a
link without content. -/
def writeMember (dir : Directory) (written : List Member × List (Nat × String)) (path : String) :
    List Member × List (Nat × String) :=
  match dir.node? path with
  | some (.file content inode) =>
    if written.2.any (fun w => w.1 = inode ∧ w.2 ≠ path) then
      (written.1 ++ [{ name := path, isRegular := false, content := [] }], written.2)
    else (written.1 ++ [{ name := path, isRegular := true, content }], written.2 ++ [(inode, path)])
  | _ => written

def writeMembers (dir : Directory) (paths : List String) : List Member :=
  (paths.foldl (writeMember dir) ([], [])).1

def fileSize (dir : Directory) (path : String) : Nat :=
  match dir.node? path with
  | some (.file content _) => content.length
  | _ => 0

/-- `create_envelope`; `archive` is the file the tar library makes of the members. -/
def createEnvelope (archive : List Member → Envelope) (maxBytes : Nat) (dir : Directory)
    (targetExists : Bool) : Transport Envelope := do
  let manifest ← readManifest env dir
  let paths ← validatedLocalFiles env dir manifest
  refuse targetExists "envelope_target_exists"
  refuse (maxBytes < (paths.map (fileSize dir)).sum + 1024 * (paths.length + 2)) "envelope_size_limit_exceeded"
  let envelope := archive (writeMembers dir paths)
  refuse (maxBytes < envelope.fileSize) "envelope_size_limit_exceeded"
  return envelope

/-- The files that extraction writes, one after the other under new inodes. -/
def extractedNodes (e : Envelope) : List (String × Node) :=
  e.members.mapIdx fun i m => (joined (parts m.name), .file m.content i)

/-- `extract_envelope`; a file that exists already or cannot be created ends it. -/
def extractEnvelope (maxBytes : Nat) (e : Envelope) (expectedSha256 : Option String) (targetExists : Bool) :
    Transport Directory := do
  refuse (maxBytes < e.fileSize) "envelope_invalid"
  refuse (expectedSha256.any fun sha => sha ≠ "" ∧ e.sha256 ≠ sha) "envelope_checksum_mismatch"
  refuse targetExists "extract_target_exists"
  let content ← manifestMember maxBytes e
  match env.readJson content with
  | none => .error (.drive "manifest_invalid")
  | some (.obj manifest) =>
    refuse (¬ isCompleteLocal manifest) "backup_not_complete_local"
    match dictGet manifest "evidence" with
    | .arr evidence =>
      let entries ← evidence.mapM evidenceEntry
      refuse (¬ isCounted manifest evidence) "evidence_count_mismatch"
      refuse (¬ SameNames (e.members.map Member.name)
          (["manifest.json", "postgres.dump.age"] ++ entries.map fun entry => "evidence/" ++ entry.1))
        "envelope_members_unexpected"
      if ¬ (extractedNodes e).all (fun n => env.creatable n.1) then .error .system
      else if hnew : ((extractedNodes e).map Prod.fst).Nodup then
        let dir : Directory := { isPrivate := true, nodes := extractedNodes e, keyed := hnew }
        let manifest ← readManifest env dir
        let _ ← validatedLocalFiles env dir manifest
        return dir
      else .error .system
    | _ => .error (.drive "manifest_contract_invalid")
  | some _ => .error (.drive "backup_not_complete_local")

end Envelopes

end Caixinha.Model.BackupEnvelope
