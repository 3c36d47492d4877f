import Caixinha.Effects.EnvelopeWriting

/-! Which backups survive their envelope. Creation validates a directory, inspection an archive and
extraction both; what one of them asks and another does not decides whether a backup that was accepted
can be restored. -/
namespace Caixinha.Properties.BackupEnvelope
open Caixinha.Library Caixinha.Model.BackupEnvelope Caixinha.Effects.BackupEnvelope
open Caixinha.Effects.EnvelopeMembers Caixinha.Effects.EnvelopeWriting

variable {env : TransportEnv} {dir : Directory} {e : Envelope} {manifest : Fields}
  {entries : List (String × Fields)} {maxBytes : Nat}

section Creation

/-- What the archive and its extraction ask of a directory beyond its validation. -/
structure Transportable (env : TransportEnv) (dir : Directory) (manifest : Fields) : Prop where
  once : ((listedEntries manifest).map Prod.fst).Nodup
  portable : ∀ x ∈ listedEntries manifest, Portable x.1
  small : ∀ content, Holds dir "manifest.json" content → content.length ≤ 1024 * 1024
  single : SingleNames dir
  creatable : Creatable env (listedEntries manifest)

/-- Two directories hold the same files. -/
def SameFiles (dir dir' : Directory) : Prop := ∀ path content, Holds dir path content ↔ Holds dir' path content

variable (h : Created env maxBytes dir e manifest entries)
include h

private theorem transportable_of_listed (hlisted : Listed env maxBytes e manifest entries)
    (hcreated : Creatable env entries) : Transportable env dir manifest := by
  have hregular : ∀ m ∈ e.members, m.isRegular = true := fun m hm => (hlisted.readable.safe m hm).2
  have hsafe : ∀ m ∈ e.members, safeMemberName m.name = true := fun m hm => (hlisted.readable.safe m hm).1
  have hentries : listedEntries manifest = entries := h.complete.lists.entries
  refine ⟨?_, ?_, ?_, h.single hregular, hentries ▸ hcreated⟩
  · rw [hentries]
    exact h.nodup_iff.mp hlisted.readable.names
  · rw [hentries]
    exact h.safe_iff.mp hsafe
  · intro content hholds
    obtain ⟨content', hhas, hsmall, -⟩ := hlisted.content
    rw [hholds.unique ((h.has_iff hregular).mp hhas)]
    exact hsmall

private theorem regular_of_transportable (ht : Transportable env dir manifest) : ∀ m ∈ e.members, m.isRegular = true := by
  rw [h.members]
  exact regular_of_single ht.single h.allFiles

private theorem listed_of_transportable (ht : Transportable env dir manifest) : Listed env maxBytes e manifest entries := by
  have hregular := regular_of_transportable h ht
  have hentries : listedEntries manifest = entries := h.complete.lists.entries
  have hsum : (e.members.map fun m => m.content.length).sum = ((sortedPaths entries).map (fileSize dir)).sum := by
    rw [h.members] at hregular ⊢
    exact sum_writeMembers h.allFiles hregular
  obtain ⟨content, hholds, hread⟩ := h.carries.content
  refine ⟨h.fileSize, ⟨?_, hsum ▸ h.total, ?_⟩, ⟨content, (h.has_iff hregular).mpr hholds, ht.small content hholds, hread⟩,
    h.complete.lists, ?_⟩
  · exact fun m hm => ⟨h.safe_iff.mpr (hentries ▸ ht.portable) m hm, hregular m hm⟩
  · exact h.nodup_iff.mpr (hentries ▸ ht.once)
  · rw [h.names]
    exact ⟨fun path hpath => mem_sortedPaths.mp hpath, fun path hpath => mem_sortedPaths.mpr hpath⟩

private theorem described_of_verified (hregular : ∀ m ∈ e.members, m.isRegular = true) {path : String}
    {metadata : Fields} (hverified : Verified env dir path metadata) : Described env e path metadata := by
  obtain ⟨content, hholds, hdescribes⟩ := hverified
  exact ⟨content, (h.has_iff hregular).mpr hholds, hdescribes⟩

/-- An envelope that inspection accepts is extracted with the files of its directory. -/
def Restored (env : TransportEnv) (maxBytes : Nat) (dir : Directory) (manifest : Fields) (e : Envelope) : Prop :=
  inspectEnvelope env maxBytes e = .ok manifest ∧
    ∃ dir', extractEnvelope env maxBytes e none false = .ok dir' ∧ SameFiles dir' dir

theorem created_restored_iff : Restored env maxBytes dir manifest e ↔ Transportable env dir manifest := by
  constructor
  · rintro ⟨hinspect, dir', hextract, -⟩
    obtain ⟨-, entries', hlisted, -⟩ := inspectEnvelope_eq_ok.mp hinspect
    obtain ⟨-, -, -, -, found, entries'', -, hlisted', hcreated, -⟩ := extractEnvelope_eq_ok.mp hextract
    obtain ⟨rfl, rfl⟩ := hlisted.unique hlisted'
    obtain rfl := hlisted.lists.unique h.complete.lists
    exact transportable_of_listed h hlisted hcreated
  · intro ht
    have hregular := regular_of_transportable h ht
    have hlisted := listed_of_transportable h ht
    have hnew : ((extractedNodes e).map Prod.fst).Nodup := hlisted.keys ▸ hlisted.readable.names
    obtain ⟨archive, hget, hname, hverified⟩ := h.complete.archive
    have harchive : ArchiveDescribed env e manifest := ⟨archive, hget, hname, described_of_verified h hregular hverified⟩
    have hentries := fun x hx => described_of_verified h hregular (h.complete.verified x hx)
    refine ⟨inspectEnvelope_eq_ok.mpr ⟨h.carries.backupId, entries, hlisted, fun m hm =>
      hlisted.inspectMember_eq hm harchive hentries⟩, ⟨true, extractedNodes e, hnew⟩, ?_, ?_⟩
    · refine extractEnvelope_eq_ok.mpr ⟨by simp, by simp, rfl, rfl, manifest, entries, h.carries.backupId, hlisted,
        h.complete.lists.entries ▸ ht.creatable, ?_⟩
      exact (hlisted.complete_iff rfl).mpr ⟨harchive, hentries⟩
    · intro path content
      rw [hlisted.holds_iff rfl, h.has_iff hregular]

end Creation

section Inspection

/-- What a manifest must say for inspection to have checked every file of it: it has an archive, the
entries of one name do not differ, and every file can be created. -/
structure Unambiguous (env : TransportEnv) (manifest : Fields) : Prop where
  archive : dictGet manifest "archive" ≠ .null
  repeats : ∀ x ∈ listedEntries manifest, ∀ y ∈ listedEntries manifest, x.1 = y.1 →
    ∀ content, describes env x.2 content = describes env y.2 content
  creatable : Creatable env (listedEntries manifest)

/-- Extraction accepts an envelope as the backup of a manifest whose files are those it lists. -/
def Extracted (env : TransportEnv) (maxBytes : Nat) (e : Envelope) (manifest : Fields) : Prop :=
  ∃ dir, extractEnvelope env maxBytes e none false = .ok dir ∧ readManifest env dir = .ok manifest ∧
    ∃ paths, validatedLocalFiles env dir manifest = .ok paths

private theorem isInt_eq {d : Document} {n : Nat} (h : d.isInt n = true) (k : Nat) : d.isInt k = decide (k = n) := by
  cases d with
  | num q =>
    have hq : q = n := by simpa [Document.isInt] using h
    simp [Document.isInt, hq, eq_comm]
  | bool b =>
    have hn : n = if b then 1 else 0 := by simpa [Document.isInt] using h
    simp [Document.isInt, hn]
  | null | nonFinite | str | arr | obj => simp [Document.isInt] at h

/-- Two descriptions of one content describe the same contents. -/
private theorem describes_eq {metadata metadata' : Fields} {content : Bytes}
    (h : describes env metadata content = true) (h' : describes env metadata' content = true) (other : Bytes) :
    describes env metadata other = describes env metadata' other := by
  rw [describes, Bool.and_eq_true, isText_iff] at h h'
  rw [describes, describes, isInt_eq h.1, isInt_eq h'.1, h.2, h'.2]

variable (hlisted : Listed env maxBytes e manifest entries)
include hlisted

private theorem unambiguous_of_described (harchive : ArchiveDescribed env e manifest)
    (hentries : ∀ x ∈ entries, Described env e (entryPath x) x.2) (hcreated : Creatable env entries) :
    Unambiguous env manifest := by
  obtain ⟨archive, hget, -, -⟩ := harchive
  refine ⟨by simp [hget], ?_, hlisted.lists.entries ▸ hcreated⟩
  rw [hlisted.lists.entries]
  intro x hx y hy hname other
  obtain ⟨content, hhas, hdescribes⟩ := hentries x hx
  obtain ⟨content', hhas', hdescribes'⟩ := hentries y hy
  rw [← entryPath_inj.mpr hname] at hhas'
  exact describes_eq hdescribes (hlisted.readable.unique hhas hhas' ▸ hdescribes') other

variable (hmembers : ∀ m ∈ e.members, inspectMember env (expectedMembers manifest entries) m = .ok ())
include hmembers

private theorem archiveDescribed_of_inspected (harchive : dictGet manifest "archive" ≠ .null) :
    ArchiveDescribed env e manifest := by
  have hpath : "postgres.dump.age" ∈ backupPaths entries := mem_backupPaths.mpr (.inr (.inl rfl))
  obtain ⟨content, m, hm, hname, rfl⟩ := hlisted.exists_has hpath
  have hexpected : expectedFor (expectedMembers manifest entries) "postgres.dump.age" = dictGet manifest "archive" := by
    rcases mem_expectedMembers.mp (@expectedFor_mem manifest entries _ hpath) with ⟨h, -⟩ | ⟨-, h⟩ | ⟨x, -, h, -⟩
    · exact absurd h (by decide)
    · exact h
    · exact absurd h (entryPath_ne (by decide))
  have hok := inspectMember_eq_ok.mp (hmembers m hm)
  rw [hname, hexpected] at hok
  rcases hok with hnull | ⟨archive, hget, hfilename, hdescribes⟩
  · exact absurd hnull harchive
  · refine ⟨archive, hget, hfilename.trans (congrArg Document.str (by decide)), m.content, ⟨m, hm, hname, rfl⟩, hdescribes⟩

private theorem described_of_inspected (hrepeats : ∀ x ∈ entries, ∀ y ∈ entries, x.1 = y.1 →
    ∀ content, describes env x.2 content = describes env y.2 content) :
    ∀ x ∈ entries, Described env e (entryPath x) x.2 := by
  intro x hx
  have hpath : entryPath x ∈ backupPaths entries := mem_backupPaths.mpr (.inr (.inr ⟨x, hx, rfl⟩))
  obtain ⟨content, m, hm, hname, rfl⟩ := hlisted.exists_has hpath
  -- What was compared with the member is the last entry of its name.
  obtain ⟨y, hy, hyname, hexpected⟩ : ∃ y ∈ entries, y.1 = x.1 ∧
      expectedFor (expectedMembers manifest entries) (entryPath x) = .obj y.2 := by
    rcases mem_expectedMembers.mp (@expectedFor_mem manifest entries _ hpath) with ⟨h, -⟩ | ⟨h, -⟩ | ⟨y, hy, h, hd⟩
    · exact absurd h (entryPath_ne (by decide))
    · exact absurd h (entryPath_ne (by decide))
    · exact ⟨y, hy, entryPath_inj.mp h, hd.symm⟩
  have hok := inspectMember_eq_ok.mp (hmembers m hm)
  rw [hname, hexpected] at hok
  rcases hok with hnull | ⟨metadata, hget, -, hdescribes⟩
  · cases hnull
  · cases hget
    exact ⟨m.content, ⟨m, hm, hname, rfl⟩, hrepeats x hx y hy hyname.symm _ ▸ hdescribes⟩

end Inspection

theorem inspected_extracted_iff (h : inspectEnvelope env maxBytes e = .ok manifest) :
    Extracted env maxBytes e manifest ↔ Unambiguous env manifest := by
  obtain ⟨hid, entries, hlisted, hmembers⟩ := inspectEnvelope_eq_ok.mp h
  constructor
  · rintro ⟨dir, hextract, hread, -⟩
    obtain ⟨-, -, hprivate, hnodes, found, entries', -, hlisted', hcreated, hcomplete⟩ :=
      extractEnvelope_eq_ok.mp hextract
    obtain ⟨rfl, -⟩ := (hlisted'.carries_iff hnodes hprivate).mp (readManifest_eq_ok.mp hread)
    obtain ⟨harchive, hentries⟩ := (hlisted'.complete_iff hnodes).mp hcomplete
    exact unambiguous_of_described hlisted' harchive hentries hcreated
  · rintro ⟨harchive, hrepeats, hcreated⟩
    rw [hlisted.lists.entries] at hrepeats hcreated
    have hnew : ((extractedNodes e).map Prod.fst).Nodup := hlisted.keys ▸ hlisted.readable.names
    let dir : Directory := ⟨true, extractedNodes e, hnew⟩
    have hcomplete : Complete env dir manifest entries := (hlisted.complete_iff rfl).mpr
      ⟨archiveDescribed_of_inspected hlisted hmembers harchive, described_of_inspected hlisted hmembers hrepeats⟩
    refine ⟨dir, extractEnvelope_eq_ok.mpr
      ⟨by simp, by simp, rfl, rfl, manifest, entries, hid, hlisted, hcreated, hcomplete⟩, ?_, ?_⟩
    · exact readManifest_eq_ok.mpr ((hlisted.carries_iff rfl rfl).mpr ⟨rfl, hid⟩)
    · exact ⟨_, validatedLocalFiles_eq_ok.mpr ⟨entries, hcomplete, rfl⟩⟩

/-- When a backup that was accepted is restored: an envelope that creation makes, where the manifest is
small, names each evidence file once and portably, and no file has two names; an envelope that inspection
accepts, where the manifest has an archive and its entries of one name agree; and either only where the
system takes every file. -/
theorem envelope_restored_iff (env : TransportEnv) (maxBytes : Nat) (e : Envelope) (manifest : Fields) :
    (∀ archive dir targetExists, (∀ members : List Member, (archive members).members = members) →
      readManifest env dir = .ok manifest → createEnvelope env archive maxBytes dir targetExists = .ok e →
      (Restored env maxBytes dir manifest e ↔ Transportable env dir manifest)) ∧
    (inspectEnvelope env maxBytes e = .ok manifest →
      (Extracted env maxBytes e manifest ↔ Unambiguous env manifest)) := by
  refine ⟨fun archive dir targetExists harchive hmanifest hcreate => ?_, inspected_extracted_iff⟩
  obtain ⟨found, entries, hcreated⟩ := created_of_createEnvelope harchive hcreate
  have hfound := readManifest_eq_ok.mpr hcreated.carries
  rw [hmanifest, Except.ok.injEq] at hfound
  subst hfound
  exact created_restored_iff hcreated

section Samples

def emptySha256 : String := "e3b0c44298fc1c149afbf4c8996fb92427ae41e4649b934ca495991b7852b855"

def emptyFile (name : String) : Fields := [("filename", .str name), ("size", .num 0), ("sha256", .str emptySha256)]

def emptyEntry : Document := .obj [("encrypted", .obj (emptyFile "a.age"))]

def sampleManifest (archive : Document) (evidence : List Document) : Fields :=
  [("manifest_version", .num 1), ("status", .str "COMPLETE_LOCAL"), ("off_vm_status", .str "NOT_UPLOADED"),
    ("backup_id", .str "20260101T000000Z-00000000000000000000000000000000"), ("archive", archive),
    ("evidence", .arr evidence), ("evidence_file_count", .num evidence.length)]

/-- The text of a manifest, in pieces. -/
def sampleText (archive evidence : List String) (count : String) : Bytes :=
  (["\x7b\"manifest_version\":1,\"status\":\"COMPLETE_LOCAL\",", "\"off_vm_status\":\"NOT_UPLOADED\",",
    "\"backup_id\":\"20260101T000000Z-", "00000000000000000000000000000000\",\"archive\":"] ++ archive ++
    [",\"evidence\":["] ++ evidence ++ ["],\"evidence_file_count\":", count, "\x7d"]).flatMap fun piece =>
    piece.toList.map fun c => c.toNat.toUInt8

def emptyFileText (name : String) : List String :=
  ["\x7b\"filename\":\"", name, "\",\"size\":0,\"sha256\":\"", emptySha256, "\"\x7d"]

def emptyEntryText : List String := ["\x7b\"encrypted\":"] ++ emptyFileText "a.age" ++ ["\x7d"]

private theorem piece_small {cs : List Char} (h : cs.length ≤ 80) : (String.ofList cs).toList.length ≤ 80 := by
  rwa [String.toList_ofList]

private theorem emptyFileText_small {name : String} (h : name.toList.length ≤ 80) :
    ∀ piece ∈ emptyFileText name, piece.toList.length ≤ 80 := by
  simp only [emptyFileText, List.forall_mem_cons]
  exact ⟨piece_small (by decide), h, piece_small (by decide), piece_small (by decide), piece_small (by decide),
    fun _ hnil => absurd hnil List.not_mem_nil⟩

private theorem emptyEntryText_small : ∀ piece ∈ emptyEntryText, piece.toList.length ≤ 80 :=
  List.forall_mem_append.mpr ⟨List.forall_mem_append.mpr ⟨List.forall_mem_singleton.mpr (piece_small (by decide)),
    emptyFileText_small (piece_small (by decide))⟩, List.forall_mem_singleton.mpr (piece_small (by decide))⟩

/-- The kernel counts the pieces of a text, not its characters. -/
private theorem sampleText_small {archive evidence : List String} {count : String}
    (harchive : ∀ piece ∈ archive, piece.toList.length ≤ 80)
    (hevidence : ∀ piece ∈ evidence, piece.toList.length ≤ 80) (hcount : count.toList.length ≤ 80) :
    (sampleText archive evidence count).length ≤ 80 * (archive.length + evidence.length + 8) := by
  have hflat : ∀ pieces : List String, (∀ piece ∈ pieces, piece.toList.length ≤ 80) →
      (pieces.flatMap fun piece => piece.toList.map fun c => c.toNat.toUInt8).length ≤ 80 * pieces.length := by
    intro pieces hpieces
    induction pieces with
    | nil => exact Nat.zero_le _
    | cons piece pieces ih =>
      rw [List.forall_mem_cons] at hpieces
      have hrest := ih hpieces.2
      rw [List.flatMap_cons, List.length_append, List.length_map, List.length_cons]
      omega
  refine (hflat _ ?_).trans (Nat.mul_le_mul_left 80 ?_)
  · simp only [List.forall_mem_append, List.forall_mem_cons]
    exact ⟨⟨⟨⟨⟨piece_small (by decide), piece_small (by decide), piece_small (by decide), piece_small (by decide),
      fun _ hnil => absurd hnil List.not_mem_nil⟩, harchive⟩, piece_small (by decide),
      fun _ hnil => absurd hnil List.not_mem_nil⟩, hevidence⟩, piece_small (by decide), hcount,
      piece_small (by decide), fun _ hnil => absurd hnil List.not_mem_nil⟩
  · simp only [List.length_append, List.length_cons, List.length_nil]
    omega

/-- The digest of the empty content, the text of one manifest, and names of at most 255 bytes. -/
def sampleEnv (text : Bytes) (manifest : Fields) : TransportEnv where
  sha256 content := if content = [] then emptySha256 else ""
  readJson content := if content = text then some (.obj manifest) else none
  creatable path := (PosixPaths.parts path).all fun part => part.utf8ByteSize ≤ 255

private theorem sample_keyed : ["manifest.json", "postgres.dump.age", "evidence/a.age"].Nodup := by decide

/-- An empty dump with one empty evidence file. -/
def sampleDirectory (text : Bytes) : Directory where
  isPrivate := true
  nodes := [("manifest.json", .file text 1), ("postgres.dump.age", .file [] 2), ("evidence/a.age", .file [] 3)]
  keyed := sample_keyed

def sampleArchive (sha256 : String) (members : List Member) : Envelope := { members, fileSize := 10240, sha256 }

variable {text : Bytes} {evidence : List Document}

private theorem sample_hasBackupId (archive : Document) (evidence : List Document) :
    hasBackupId (sampleManifest archive evidence) = true := by
  have hid : isBackupId (.str "20260101T000000Z-00000000000000000000000000000000") = true := by decide
  simpa [hasBackupId, sampleManifest, dictGet, field?, Document.isInt, Document.isText, isCompleteLocal] using hid

private theorem sample_readJson : (sampleEnv text manifest).readJson text = some (.obj manifest) := if_pos rfl

private theorem sample_carries (hid : hasBackupId manifest = true) :
    Carries (sampleEnv text manifest) (sampleDirectory text) manifest :=
  ⟨⟨text, ⟨1, rfl⟩, sample_readJson⟩, rfl, hid⟩

private theorem sample_verified {name path : String} {inode : Nat}
    (h : (sampleDirectory text).node? path = some (.file [] inode)) :
    Verified (sampleEnv text manifest) (sampleDirectory text) path (emptyFile name) :=
  ⟨[], ⟨inode, h⟩, rfl⟩

private theorem sample_entry : Entry emptyEntry ("a.age", emptyFile "a.age") :=
  ⟨_, rfl, rfl, rfl, by decide, by decide⟩

/-- A manifest that lists the evidence file some times. -/
def listingManifest (times : Nat) : Fields :=
  sampleManifest (.obj (emptyFile "postgres.dump.age")) (List.replicate times emptyEntry)

def listedTimes (times : Nat) : List (String × Fields) := List.replicate times ("a.age", emptyFile "a.age")

private theorem eq_of_mem_listedTimes {times : Nat} {x : String × Fields} (h : x ∈ listedTimes times) :
    x = ("a.age", emptyFile "a.age") :=
  List.eq_of_mem_replicate h

private theorem listingManifest_lists (times : Nat) : Lists (listingManifest times) (listedTimes times) := by
  refine ⟨List.replicate times emptyEntry, rfl, ?_, ?_⟩
  · have hcount : dictGet (listingManifest times) "evidence_file_count" =
        .num (List.replicate times emptyEntry).length := rfl
    rw [isCounted, hcount, Document.isInt]
    exact decide_eq_true rfl
  · induction times with
    | zero => exact .nil
    | succ times ih => exact .cons sample_entry ih

private theorem listingManifest_complete (times : Nat) :
    Complete (sampleEnv text manifest) (sampleDirectory text) (listingManifest (times + 1)) (listedTimes (times + 1)) := by
  have hentries : ∀ x ∈ listedTimes (times + 1), x = ("a.age", emptyFile "a.age") := fun _ => eq_of_mem_listedTimes
  refine ⟨listingManifest_lists _, ⟨_, rfl, rfl, sample_verified rfl⟩, ?_, ?_, ?_⟩
  · intro x hx
    rw [hentries x hx]
    exact sample_verified rfl
  · intro n hn
    simp only [sampleDirectory, List.mem_cons, List.not_mem_nil, or_false] at hn
    rcases hn with rfl | rfl | rfl
    exacts [⟨_, _, rfl⟩, ⟨_, _, rfl⟩, ⟨_, _, rfl⟩]
  · have hnames : (sampleDirectory text).nodes.map Prod.fst = ["manifest.json", "postgres.dump.age", "evidence/a.age"] := rfl
    have hpath : ("a.age", emptyFile "a.age") ∈ listedTimes (times + 1) := List.mem_replicate.mpr ⟨by omega, rfl⟩
    rw [hnames]
    constructor
    · intro name hname
      simp only [List.mem_cons, List.not_mem_nil, or_false] at hname
      rcases hname with rfl | rfl | rfl
      exacts [mem_backupPaths.mpr (.inl rfl), mem_backupPaths.mpr (.inr (.inl rfl)),
        mem_backupPaths.mpr (.inr (.inr ⟨_, hpath, rfl⟩))]
    · intro name hname
      rcases mem_backupPaths.mp hname with rfl | rfl | ⟨x, hx, rfl⟩
      · simp
      · simp
      · rw [hentries x hx]
        simp [entryPath]

def onceText : Bytes := sampleText (emptyFileText "postgres.dump.age") emptyEntryText "1"

def onceEnvelope : Envelope :=
  sampleArchive "ecc151c4f88fd32eeb17b4e344b1e8dffdb7247e8210a4a52c9bef828d5827fb"
    [⟨"evidence/a.age", true, []⟩, ⟨"manifest.json", true, onceText⟩, ⟨"postgres.dump.age", true, []⟩]

def twiceText : Bytes := sampleText (emptyFileText "postgres.dump.age") (emptyEntryText ++ [","] ++ emptyEntryText) "2"

def twiceEnvelope : Envelope :=
  sampleArchive "9e8e3d6b401e526524d16ba40395eed30f1a5191a5795acce0d872f526173543"
    [⟨"evidence/a.age", true, []⟩, ⟨"evidence/a.age", true, []⟩, ⟨"manifest.json", true, twiceText⟩,
      ⟨"postgres.dump.age", true, []⟩]

private theorem sample_createEnvelope (times : Nat) (sha256 : String) {e : Envelope}
    (hestimate : ((sortedPaths (listedTimes (times + 1))).map (fileSize (sampleDirectory text))).sum +
      1024 * ((sortedPaths (listedTimes (times + 1))).length + 2) ≤ maxEnvelopeBytes)
    (hwritten : sampleArchive sha256 (writeMembers (sampleDirectory text) (sortedPaths (listedTimes (times + 1)))) = e) :
    createEnvelope (sampleEnv text (listingManifest (times + 1))) (sampleArchive sha256) maxEnvelopeBytes
      (sampleDirectory text) false = .ok e :=
  createEnvelope_eq_ok.mpr ⟨_, _, sample_carries (sample_hasBackupId ..), listingManifest_complete times, by simp, hestimate,
    show 10240 ≤ maxEnvelopeBytes by decide, hwritten⟩

private theorem onceText_small : onceText.length ≤ 1600 :=
  sampleText_small (emptyFileText_small (piece_small (by decide))) emptyEntryText_small (piece_small (by decide))

private theorem once_estimate (htext : text.length ≤ 1600) :
    ((sortedPaths (listedTimes (0 + 1))).map (fileSize (sampleDirectory text))).sum +
      1024 * ((sortedPaths (listedTimes (0 + 1))).length + 2) ≤ maxEnvelopeBytes := by
  have hsorted : sortedPaths (listedTimes (0 + 1)) = ["evidence/a.age", "manifest.json", "postgres.dump.age"] := by
    decide
  have hsum : (["evidence/a.age", "manifest.json", "postgres.dump.age"].map (fileSize (sampleDirectory text))).sum =
      0 + (text.length + (0 + 0)) := rfl
  rw [hsorted, hsum, maxEnvelopeBytes, List.length_cons, List.length_cons, List.length_singleton]
  omega

private theorem twiceText_small : twiceText.length ≤ 2240 :=
  sampleText_small (emptyFileText_small (piece_small (by decide)))
    (List.forall_mem_append.mpr ⟨List.forall_mem_append.mpr ⟨emptyEntryText_small,
      List.forall_mem_singleton.mpr (piece_small (by decide))⟩, emptyEntryText_small⟩) (piece_small (by decide))

private theorem twice_estimate (htext : text.length ≤ 2240) :
    ((sortedPaths (listedTimes (1 + 1))).map (fileSize (sampleDirectory text))).sum +
      1024 * ((sortedPaths (listedTimes (1 + 1))).length + 2) ≤ maxEnvelopeBytes := by
  have hsorted : sortedPaths (listedTimes (1 + 1)) =
      ["evidence/a.age", "evidence/a.age", "manifest.json", "postgres.dump.age"] := by
    decide
  have hsum : (["evidence/a.age", "evidence/a.age", "manifest.json", "postgres.dump.age"].map
      (fileSize (sampleDirectory text))).sum = 0 + (0 + (text.length + (0 + 0))) := rfl
  rw [hsorted, hsum, maxEnvelopeBytes, List.length_cons, List.length_cons, List.length_cons, List.length_singleton]
  omega

theorem once_created : createEnvelope (sampleEnv onceText (listingManifest 1))
    (sampleArchive "ecc151c4f88fd32eeb17b4e344b1e8dffdb7247e8210a4a52c9bef828d5827fb") maxEnvelopeBytes
    (sampleDirectory onceText) false = .ok onceEnvelope :=
  sample_createEnvelope 0 _ (by exact once_estimate onceText_small) rfl

private theorem sample_single : SingleNames (sampleDirectory text) := by
  intro path path' content content' inode hnode hnode'
  rw [node?_eq_some] at hnode hnode'
  simp only [sampleDirectory, List.mem_cons, Prod.mk.injEq, Node.file.injEq, List.not_mem_nil, or_false] at hnode hnode'
  grind

private theorem once_creatable :
    Creatable (sampleEnv onceText (listingManifest 1)) (listedEntries (listingManifest 1)) := by
  have hentries : listedEntries (listingManifest 1) = listedTimes 1 := (listingManifest_lists 1).entries
  have hpaths : backupPaths (listedTimes 1) = ["manifest.json", "postgres.dump.age", "evidence/a.age"] := rfl
  have hall : ∀ path ∈ ["manifest.json", "postgres.dump.age", "evidence/a.age"],
      ((PosixPaths.parts path).all fun part => part.utf8ByteSize ≤ 255) = true := by
    decide
  rw [Creatable, hentries, hpaths]
  exact hall

private theorem once_transportable : Transportable (sampleEnv onceText (listingManifest 1)) (sampleDirectory onceText)
    (listingManifest 1) := by
  have hentries : listedEntries (listingManifest 1) = listedTimes 1 := (listingManifest_lists 1).entries
  refine ⟨?_, ?_, ?_, sample_single, once_creatable⟩
  · rw [hentries]
    exact List.nodup_singleton _
  · intro x hx
    rw [hentries] at hx
    rw [eq_of_mem_listedTimes hx]
    exact ⟨by decide, by decide⟩
  · intro content hholds
    rw [hholds.unique ⟨1, rfl⟩]
    exact onceText_small.trans (by decide)

private theorem once_unambiguous : Unambiguous (sampleEnv onceText (listingManifest 1)) (listingManifest 1) := by
  have hentries : listedEntries (listingManifest 1) = listedTimes 1 := (listingManifest_lists 1).entries
  have harchive : dictGet (listingManifest 1) "archive" = .obj (emptyFile "postgres.dump.age") := rfl
  refine ⟨by simp [harchive], ?_, once_creatable⟩
  rw [hentries]
  intro x hx y hy _ content
  rw [eq_of_mem_listedTimes hx, eq_of_mem_listedTimes hy]

theorem once_restored :
    Restored (sampleEnv onceText (listingManifest 1)) maxEnvelopeBytes (sampleDirectory onceText) (listingManifest 1)
        onceEnvelope ∧
      Extracted (sampleEnv onceText (listingManifest 1)) maxEnvelopeBytes onceEnvelope (listingManifest 1) := by
  have hiff := envelope_restored_iff (sampleEnv onceText (listingManifest 1)) maxEnvelopeBytes onceEnvelope
    (listingManifest 1)
  have hrestored := (hiff.1 _ (sampleDirectory onceText) false (fun _ => rfl)
    (readManifest_eq_ok.mpr (sample_carries (sample_hasBackupId ..))) once_created).mpr once_transportable
  exact ⟨hrestored, (hiff.2 hrestored.1).mpr once_unambiguous⟩

def nullManifest : Fields := sampleManifest .null []

def nullText : Bytes := sampleText ["null"] [] "0"

def nullEnvelope : Envelope :=
  sampleArchive "e132bfbfaf3b1feac03028c0924a99492b86a334e548545ed254540a95287f05"
    [⟨"manifest.json", true, nullText⟩, ⟨"postgres.dump.age", true, []⟩]

private theorem sum_sizes (text : Bytes) : ([(⟨"manifest.json", true, text⟩ : Member),
    ⟨"postgres.dump.age", true, []⟩].map fun m => m.content.length).sum = text.length := by
  simp

private theorem null_listed : Listed (sampleEnv nullText nullManifest) maxEnvelopeBytes nullEnvelope nullManifest [] := by
  have hsmall : nullText.length ≤ 1024 * 1024 :=
    (sampleText_small (List.forall_mem_singleton.mpr (piece_small (by decide)))
      (fun _ hnil => absurd hnil List.not_mem_nil) (piece_small (by decide))).trans (by decide)
  have hsum : (nullEnvelope.members.map fun m => m.content.length).sum = nullText.length := sum_sizes nullText
  have hsize := hsum.le.trans (hsmall.trans (show 1024 * 1024 ≤ maxEnvelopeBytes by decide))
  refine ⟨show 10240 ≤ maxEnvelopeBytes by decide, ⟨?_, hsize, ?_⟩, ⟨nullText, ?_, hsmall, sample_readJson⟩, ?_, ?_⟩
  · intro m hm
    simp only [nullEnvelope, sampleArchive, List.mem_cons, List.not_mem_nil, or_false] at hm
    rcases hm with rfl | rfl
    exacts [⟨by decide, rfl⟩, ⟨by decide, rfl⟩]
  · show ["manifest.json", "postgres.dump.age"].Nodup
    simp
  · exact ⟨_, List.mem_cons_self .., rfl, rfl⟩
  · exact ⟨[], rfl, rfl, .nil⟩
  · exact ⟨fun _ h => h, fun _ h => h⟩

/-- Without an archive in its manifest the envelope is accepted, and its dump is not looked at. -/
private theorem null_inspected :
    inspectEnvelope (sampleEnv nullText nullManifest) maxEnvelopeBytes nullEnvelope = .ok nullManifest := by
  refine inspectEnvelope_eq_ok.mpr ⟨sample_hasBackupId .., [], null_listed, fun m hm => inspectMember_eq_ok.mpr (.inl ?_)⟩
  simp only [nullEnvelope, sampleArchive, List.mem_cons, List.not_mem_nil, or_false] at hm
  rcases hm with rfl | rfl
  exacts [rfl, rfl]

private theorem null_not_extracted (dir : Directory) :
    extractEnvelope (sampleEnv nullText nullManifest) maxEnvelopeBytes nullEnvelope none false ≠ .ok dir := by
  intro h
  obtain ⟨-, -, -, hnodes, manifest, entries, -, hlisted, -, hcomplete⟩ := extractEnvelope_eq_ok.mp h
  obtain ⟨⟨archive, hget, -, -⟩, -⟩ := (hlisted.complete_iff hnodes).mp hcomplete
  obtain ⟨content, hhas, -, hread⟩ := hlisted.content
  rw [hlisted.readable.unique hhas ⟨_, List.mem_cons_self .., rfl, rfl⟩] at hread
  have hmanifest : nullManifest = manifest := by simpa [sampleEnv] using hread
  rw [← hmanifest] at hget
  cases hget

/-- A backup that creation accepts and inspection refuses, its evidence file being listed twice; and an
envelope that inspection accepts and extraction refuses, its manifest having no archive. -/
theorem accepted_not_restored :
    (createEnvelope (sampleEnv twiceText (listingManifest 2))
        (sampleArchive "9e8e3d6b401e526524d16ba40395eed30f1a5191a5795acce0d872f526173543") maxEnvelopeBytes
        (sampleDirectory twiceText) false = .ok twiceEnvelope ∧
      ∀ manifest, inspectEnvelope (sampleEnv twiceText (listingManifest 2)) maxEnvelopeBytes twiceEnvelope ≠
        .ok manifest) ∧
    inspectEnvelope (sampleEnv nullText nullManifest) maxEnvelopeBytes nullEnvelope = .ok nullManifest ∧
      ∀ dir, extractEnvelope (sampleEnv nullText nullManifest) maxEnvelopeBytes nullEnvelope none false ≠ .ok dir := by
  refine ⟨⟨sample_createEnvelope 1 _ (by exact twice_estimate twiceText_small) rfl, fun manifest h => ?_⟩,
    null_inspected, null_not_extracted⟩
  obtain ⟨-, entries, hlisted, -⟩ := inspectEnvelope_eq_ok.mp h
  exact absurd hlisted.readable.names (by decide)

end Samples

end Caixinha.Properties.BackupEnvelope
