import Caixinha.Library.Fallible
import Caixinha.Library.Keyed
import Caixinha.Model.BackupEnvelope

/-! What each check of the backup envelope has seen where it passes: the entries of a manifest, the
files of a directory and the members of an archive. -/
namespace Caixinha.Effects.BackupEnvelope
open Caixinha.Library PosixPaths Fallible Keyed Caixinha.Model.BackupEnvelope

variable {env : TransportEnv} {dir : Directory} {e : Envelope} {manifest metadata archive : Fields}
  {ref d : Document} {name path root : String} {content : Bytes} {maxBytes : Nat}

@[simp] theorem refuse_eq_ok {p : Prop} [Decidable p] {code : String} {u : Unit} :
    refuse p code = .ok u ↔ ¬ p := by
  unfold refuse
  split <;> simp [*]

@[simp] theorem fieldsOf_eq_ok : fieldsOf d = .ok metadata ↔ d = .obj metadata := by
  cases d <;> simp [fieldsOf]

theorem isText_iff : d.isText name = true ↔ d = .str name := by
  cases d <;> simp [Document.isText]

section Entries

/-- A file name of the evidence list. -/
structure AgeFile (name : String) : Prop where
  lastPart : lastPart name = name
  suffix : ".age".toList <:+ name.toList

@[simp] theorem ageName_eq_ok : ageName d = .ok name ↔ d = .str name ∧ AgeFile name := by
  cases d with
  | str s =>
    unfold ageName nameOf
    by_cases hlast : lastPart s = s
    · simp only [hlast, if_true, ok_bind, bind_eq_ok, refuse_eq_ok, pure_eq_ok, Document.str.injEq, not_not,
        List.isSuffixOf_iff_suffix, exists_const_iff]
      constructor
      · rintro ⟨-, hsuffix, rfl⟩
        exact ⟨rfl, hlast, hsuffix⟩
      · rintro ⟨rfl, h⟩
        exact ⟨⟨()⟩, h.suffix, rfl⟩
    · simp only [if_neg hlast]
      constructor
      · intro h
        cases h
      · rintro ⟨hs, h⟩
        cases hs
        exact absurd h.lastPart hlast
  | null | bool | num | nonFinite | arr | obj =>
    constructor
    · intro h
      cases h
    · rintro ⟨hs, -⟩
      cases hs

theorem AgeFile.length (h : AgeFile name) : 4 ≤ name.toList.length := h.suffix.length_le

theorem AgeFile.ne_of_short (h : AgeFile name) {short : String} (hshort : short.toList.length < 4) :
    name ≠ short := by
  rintro rfl
  have := h.length
  omega

theorem AgeFile.segment (h : AgeFile name) : '/' ∉ name.toList :=
  segment_of_lastPart h.lastPart (h.ne_of_short (by decide))

theorem AgeFile.parts_path (h : AgeFile name) : parts ("evidence/" ++ name) = ["evidence", name] := by
  have hbelow := @parts_below name "evidence" (by decide) (by decide) (by decide) h.segment
    (h.ne_of_short (by decide)) (h.ne_of_short (by decide))
  exact hbelow

/-- The path of an evidence file is spelled by its parts. -/
theorem AgeFile.joined_path (h : AgeFile name) : joined (parts ("evidence/" ++ name)) = "evidence/" ++ name := by
  rw [h.parts_path, joined]
  rfl

theorem AgeFile.lastPart_path (h : AgeFile name) : PosixPaths.lastPart ("evidence/" ++ name) = name := by
  rw [PosixPaths.lastPart, h.parts_path]
  rfl

/-- A name the envelope can carry. -/
def Portable (name : String) : Prop := '\\' ∉ name.toList ∧ '\x00' ∉ name.toList

theorem AgeFile.safe_iff (h : AgeFile name) : safeMemberName ("evidence/" ++ name) = true ↔ Portable name := by
  have hchars : ("evidence/" ++ name).toList = "evidence/".toList ++ name.toList := String.toList_append
  have habsolute : isAbsolute ("evidence/" ++ name) = false := by
    rw [isAbsolute, hchars]
    rfl
  have hdots : ".." ∉ parts ("evidence/" ++ name) := by
    rw [h.parts_path]
    have := @AgeFile.ne_of_short name h ".." (by decide)
    simp [this.symm]
  rw [safeMemberName, decide_eq_true_eq, habsolute, h.parts_path, Portable, hchars]
  rw [h.parts_path] at hdots
  simp [hdots]

/-- The evidence entry of a manifest under a name. -/
def Entry (ref : Document) (x : String × Fields) : Prop :=
  ∃ fields, ref = .obj fields ∧ dictGet fields "encrypted" = .obj x.2 ∧ dictGet x.2 "filename" = .str x.1 ∧ AgeFile x.1

theorem Entry.ageFile {x : String × Fields} (h : Entry ref x) : AgeFile x.1 := by
  obtain ⟨-, -, -, -, h⟩ := h
  exact h

theorem evidenceEntry_eq_ok {x : String × Document} :
    evidenceEntry ref = .ok x ↔ ∃ metadata, x.2 = .obj metadata ∧ Entry ref (x.1, metadata) := by
  unfold evidenceEntry Entry
  cases ref with
  | obj fields =>
    simp only [bind_eq_ok, fieldsOf_eq_ok, ageName_eq_ok, pure_eq_ok, Document.obj.injEq]
    constructor
    · rintro ⟨metadata, hmetadata, name, ⟨hname, hage⟩, rfl⟩
      refine ⟨metadata, hmetadata, fields, rfl, ?_, hname, hage⟩
      cases hfound : field? fields "encrypted" with
      | some d => rw [hfound] at hmetadata; rw [dictGet, hfound]; exact hmetadata
      | none =>
        rw [hfound] at hmetadata
        cases hmetadata
        cases hname
    · rintro ⟨metadata, hx, _, rfl, hencrypted, hname, hage⟩
      have hfound : (field? fields "encrypted").getD (.obj []) = .obj metadata := by
        rw [dictGet] at hencrypted
        cases hfound : field? fields "encrypted" with
        | some d => rw [hfound] at hencrypted; exact hencrypted
        | none => rw [hfound] at hencrypted; cases hencrypted
      exact ⟨metadata, hfound, x.1, ⟨hname, hage⟩, Prod.ext rfl (hfound.trans hx.symm)⟩
  | null | bool | num | nonFinite | str | arr =>
    simp only [bind_eq_ok, fieldsOf_eq_ok, ageName_eq_ok, pure_eq_ok, reduceCtorEq, false_and, exists_false, and_false,
      iff_false, not_exists, not_and]
    intro metadata hmetadata name hname
    cases hmetadata
    cases hname.1

end Entries

section Directories

/-- A path of the directory is a file with a content. -/
def Holds (dir : Directory) (path : String) (content : Bytes) : Prop :=
  ∃ inode, dir.node? path = some (.file content inode)

theorem node?_eq_some {node : Node} : dir.node? path = some node ↔ (path, node) ∈ dir.nodes := by
  rw [Directory.node?, Option.map_eq_some_iff]
  constructor
  · rintro ⟨n, hn, rfl⟩
    obtain ⟨hmem, rfl⟩ := (find?_eq_some_iff dir.keyed).mp hn
    exact hmem
  · intro h
    exact ⟨(path, node), (find?_eq_some_iff dir.keyed).mpr ⟨h, rfl⟩, rfl⟩

theorem Holds.mem (h : Holds dir path content) : path ∈ dir.nodes.map Prod.fst := by
  obtain ⟨inode, h⟩ := h
  exact List.mem_map.mpr ⟨_, node?_eq_some.mp h, rfl⟩

theorem Holds.unique {content' : Bytes} (h : Holds dir path content) (h' : Holds dir path content') :
    content = content' := by
  obtain ⟨inode, h⟩ := h
  obtain ⟨inode', h'⟩ := h'
  rw [h, Option.some.injEq, Node.file.injEq] at h'
  exact h'.1

/-- A file of the directory is the one its metadata names. -/
def Verified (env : TransportEnv) (dir : Directory) (path : String) (metadata : Fields) : Prop :=
  ∃ content, Holds dir path content ∧ describes env metadata content = true

theorem verifyFile_eq_ok {u : Unit} (hname : dictGet metadata "filename" = .str name)
    (hlast : PosixPaths.lastPart name = name) :
    verifyFile env dir root metadata = .ok u ↔ Verified env dir (root ++ name) metadata := by
  unfold verifyFile Verified Holds
  rw [hname]
  simp only [hlast, ne_eq, not_true_eq_false, if_false]
  constructor
  · intro h
    split at h
    · rename_i content inode hnode
      split at h
      · rename_i hdescribes
        exact ⟨content, ⟨inode, hnode⟩, hdescribes⟩
      · cases h
    · cases h
  · rintro ⟨content, ⟨inode, hnode⟩, hdescribes⟩
    rw [hnode]
    simp only [hdescribes, if_true]

/-- The path of an entry in the backup. -/
def entryPath (x : String × Fields) : String := "evidence/" ++ x.1

theorem validatedEvidence_eq_ok : validatedEvidence env dir ref = .ok path ↔
    ∃ x, Entry ref x ∧ Verified env dir (entryPath x) x.2 ∧ path = entryPath x := by
  constructor
  · intro h
    unfold validatedEvidence at h
    split at h
    · rename_i fields
      split at h
      · rename_i metadata hmetadata
        simp only [bind_eq_ok, ageName_eq_ok, pure_eq_ok] at h
        obtain ⟨name, ⟨hname, hage⟩, _, hverified, rfl⟩ := h
        exact ⟨(name, metadata), ⟨fields, rfl, hmetadata, hname, hage⟩,
          (verifyFile_eq_ok hname hage.lastPart).mp hverified, rfl⟩
      · cases h
    · cases h
  · rintro ⟨x, ⟨fields, rfl, hmetadata, hname, hage⟩, hverified, rfl⟩
    unfold validatedEvidence
    simp only [hmetadata, bind_eq_ok, ageName_eq_ok, pure_eq_ok]
    exact ⟨x.1, ⟨hname, hage⟩, (), (verifyFile_eq_ok hname hage.lastPart).mpr hverified, rfl⟩

/-- What a manifest lists beside itself and the archive. -/
structure Lists (manifest : Fields) (entries : List (String × Fields)) : Prop where
  evidence : ∃ evidence, dictGet manifest "evidence" = .arr evidence ∧ isCounted manifest evidence = true ∧
    List.Forall₂ Entry evidence entries

/-- The entry of one item, where it has one. -/
def listedEntry (ref : Document) : Option (String × Fields) :=
  match evidenceEntry ref with
  | .ok (name, .obj metadata) => some (name, metadata)
  | _ => none

/-- The entries of the evidence list. -/
def listedEntries (manifest : Fields) : List (String × Fields) :=
  match dictGet manifest "evidence" with
  | .arr evidence => evidence.filterMap listedEntry
  | _ => []

theorem Entry.listedEntry {x : String × Fields} (h : Entry ref x) : listedEntry ref = some x := by
  have hok : evidenceEntry ref = .ok (x.1, .obj x.2) := evidenceEntry_eq_ok.mpr ⟨x.2, rfl, h⟩
  rw [BackupEnvelope.listedEntry, hok]

theorem Lists.entries {entries : List (String × Fields)} (h : Lists manifest entries) :
    listedEntries manifest = entries := by
  obtain ⟨evidence, hget, -, hall⟩ := h
  rw [listedEntries, hget]
  dsimp only
  clear hget
  induction hall with
  | nil => rfl
  | cons hx _ ih => rw [List.filterMap_cons_some hx.listedEntry, ih]

theorem Lists.unique {entries entries' : List (String × Fields)} (h : Lists manifest entries)
    (h' : Lists manifest entries') : entries = entries' :=
  h.entries.symm.trans h'.entries

theorem Lists.exists_entry {entries : List (String × Fields)} (h : Lists manifest entries) {x : String × Fields}
    (hx : x ∈ entries) : ∃ ref, Entry ref x := by
  obtain ⟨evidence, -, -, hall⟩ := h
  induction hall with
  | nil => cases hx
  | cons hy _ ih =>
    rcases List.mem_cons.mp hx with rfl | hx
    · exact ⟨_, hy⟩
    · exact ih hx

theorem Lists.ageFile {entries : List (String × Fields)} (h : Lists manifest entries) {x : String × Fields}
    (hx : x ∈ entries) : AgeFile x.1 := by
  obtain ⟨ref, hentry⟩ := h.exists_entry hx
  exact hentry.ageFile

theorem Lists.filename {entries : List (String × Fields)} (h : Lists manifest entries) {x : String × Fields}
    (hx : x ∈ entries) : dictGet x.2 "filename" = .str x.1 := by
  obtain ⟨_, -, -, -, hname, -⟩ := h.exists_entry hx
  exact hname

/-- The paths of a backup that lists the given entries. -/
def backupPaths (entries : List (String × Fields)) : List String :=
  ["manifest.json", "postgres.dump.age"] ++ entries.map entryPath

/-- A directory holds what its manifest lists, and nothing else. -/
structure Complete (env : TransportEnv) (dir : Directory) (manifest : Fields)
    (entries : List (String × Fields)) : Prop where
  lists : Lists manifest entries
  archive : ∃ archive, dictGet manifest "archive" = .obj archive ∧
    dictGet archive "filename" = .str "postgres.dump.age" ∧ Verified env dir "postgres.dump.age" archive
  verified : ∀ x ∈ entries, Verified env dir (entryPath x) x.2
  files : ∀ n ∈ dir.nodes, ∃ content inode, n.2 = .file content inode
  names : SameNames (dir.nodes.map Prod.fst) (backupPaths entries)

/-- The paths in the order they are written. -/
def sortedPaths (entries : List (String × Fields)) : List String :=
  (["postgres.dump.age"] ++ entries.map entryPath ++ ["manifest.json"]).insertionSort (· ≤ ·)

private theorem checkNode_eq_ok {node : Node} {u : Unit} :
    checkNode node = .ok u ↔ ∃ content inode, node = .file content inode := by
  cases node <;> simp [checkNode]

private theorem paths_of_entries {evidence : List Document} {paths : List String} :
    List.Forall₂ (fun ref path => validatedEvidence env dir ref = .ok path) evidence paths ↔
      ∃ entries, List.Forall₂ Entry evidence entries ∧ (∀ x ∈ entries, Verified env dir (entryPath x) x.2) ∧
        paths = entries.map entryPath := by
  constructor
  · intro h
    induction h with
    | nil => exact ⟨[], .nil, by simp, rfl⟩
    | cons hpath _ ih =>
      obtain ⟨entries, hall, hverified, rfl⟩ := ih
      obtain ⟨x, hx, hfile, rfl⟩ := validatedEvidence_eq_ok.mp hpath
      exact ⟨x :: entries, .cons hx hall, List.forall_mem_cons.mpr ⟨hfile, hverified⟩, rfl⟩
  · rintro ⟨entries, hall, hverified, rfl⟩
    induction hall with
    | nil => exact .nil
    | cons hx _ ih =>
      obtain ⟨hfile, hverified⟩ := List.forall_mem_cons.mp hverified
      exact .cons (validatedEvidence_eq_ok.mpr ⟨_, hx, hfile, rfl⟩) (ih hverified)

theorem validatedLocalFiles_eq_ok {paths : List String} : validatedLocalFiles env dir manifest = .ok paths ↔
    ∃ entries, Complete env dir manifest entries ∧ paths = sortedPaths entries := by
  have hdump : PosixPaths.lastPart "postgres.dump.age" = "postgres.dump.age" := by decide
  constructor
  · intro h
    unfold validatedLocalFiles at h
    split at h
    · rename_i archive evidence harchive hevidence
      simp only [bind_eq_ok, refuse_eq_ok, not_not, isText_iff, mapM_eq_ok_iff, forM_eq_ok, checkNode_eq_ok,
        pure_eq_ok] at h
      obtain ⟨_, hname, _, hverified, _, hcounted, _, hpaths, _, hfiles, _, hnames, rfl⟩ := h
      obtain ⟨entries, hall, hentries, rfl⟩ := paths_of_entries.mp hpaths
      exact ⟨entries, ⟨⟨evidence, hevidence, hcounted, hall⟩,
        ⟨archive, harchive, hname, (verifyFile_eq_ok hname hdump).mp hverified⟩, hentries, hfiles, hnames⟩, rfl⟩
    · cases h
  · rintro ⟨entries, ⟨⟨evidence, hevidence, hcounted, hall⟩, ⟨archive, harchive, hname, hverified⟩, hentries,
      hfiles, hnames⟩, rfl⟩
    unfold validatedLocalFiles
    rw [harchive, hevidence]
    simp only [bind_eq_ok, refuse_eq_ok, not_not, isText_iff, mapM_eq_ok_iff, forM_eq_ok, checkNode_eq_ok,
      pure_eq_ok]
    exact ⟨(), hname, (), (verifyFile_eq_ok hname hdump).mpr hverified, (), hcounted, _,
      paths_of_entries.mpr ⟨entries, hall, hentries, rfl⟩, (), hfiles, (), hnames, rfl⟩

/-- The manifest a directory carries. -/
structure Carries (env : TransportEnv) (dir : Directory) (manifest : Fields) : Prop where
  content : ∃ content, Holds dir "manifest.json" content ∧ env.readJson content = some (.obj manifest)
  isPrivate : dir.isPrivate = true
  backupId : hasBackupId manifest = true

theorem readManifest_eq_ok : readManifest env dir = .ok manifest ↔ Carries env dir manifest := by
  constructor
  · intro h
    simp only [readManifest, bind_eq_ok, refuse_eq_ok, not_not] at h
    obtain ⟨-, hprivate, h⟩ := h
    split at h
    · rename_i content inode hnode
      split at h
      · cases h
      · rename_i found hread
        simp only [bind_eq_ok, refuse_eq_ok, not_not, pure_eq_ok] at h
        obtain ⟨-, hid, rfl⟩ := h
        exact ⟨⟨content, ⟨inode, hnode⟩, hread⟩, hprivate, hid⟩
      · cases h
    · cases h
  · rintro ⟨⟨content, ⟨inode, hnode⟩, hread⟩, hprivate, hid⟩
    simp only [readManifest, hnode, hread, bind_eq_ok, refuse_eq_ok, not_not, pure_eq_ok]
    exact ⟨(), hprivate, (), hid, trivial⟩

end Directories

end Caixinha.Effects.BackupEnvelope
